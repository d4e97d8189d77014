import BindingDocs.Files.Walk
import BindingDocs.Output.Emitter
import BindingDocs.Reference.Extract
import BindingDocs.Registration.Scanner
import BindingDocs.Settings

/-! A run from source trees to written artifacts. -/
namespace BindingDocs.Generation
open BindingDocs.Files BindingDocs.Output BindingDocs.Reference BindingDocs.Registration

/-- Why sources could not be read. -/
inductive SourceError where
  | walk (root : String) (problem : Problem)
  | unreadable (path : String) (problem : Problem)
  | malformed (path : String)
  | line (path : String) (number : Nat) (error : LineError)
  deriving Repr, DecidableEq

/-- Problems of the file system are told twice: in the message and as its cause. -/
def SourceError.message : SourceError → String
  | walk root p => "IO error for operation on " ++ root ++ ": " ++ p.message ++ ": " ++ p.message
  | unreadable path p => "failed to read " ++ path ++ ": " ++ p.message ++ ": " ++ p.message
  | malformed path => path ++ ": syntax error in reference source"
  | line path n e => e.message path n

inductive Failure where
  | unreadableSettings (path : String) (problem : Problem)
  | invalidSettings (path : String)
  | unknownEmitter (name : String)
  | reference (error : SourceError)
  | bindings (error : SourceError)
  | unwritable (path : String) (problem : Problem)
  deriving Repr, DecidableEq

def Failure.message : Failure → String
  | unreadableSettings path p => "failed to read config " ++ path ++ ": " ++ p.message
  | invalidSettings path => "invalid config " ++ path
  | unknownEmitter name => Emitter.unknownMessage name
  | reference e => "failed to extract reference model: " ++ e.message
  | bindings e => "failed to extract bindings: " ++ e.message
  | unwritable path p => "failed to write " ++ path ++ ": " ++ p.message ++ ": " ++ p.message

/-- The files a run works on, and its log so far. -/
structure Session where
  tree : Node
  log : List LogEntry

/-- A part of a run. What was logged and written before a failure stays. -/
abbrev Action := ExceptT Failure (StateM Session)

def say (entries : List LogEntry) : Action Unit :=
  modify fun s => { s with log := s.log ++ entries }

def orFail {α ε : Type} (failure : ε → Failure) : Except ε α → Action α
  | .ok a => pure a
  | .error e => throw (failure e)

/-- The text of a source file. -/
def text (failure : SourceError → Failure) (f : SourceFile) : Action String :=
  match f.text with
  | some t => pure t
  | none => throw (failure (.unreadable f.path .notText))

/-! ### Settings -/

def projectSettingsPath : String := ".surfdoc/config.toml"

def loadFile (path : String) : Action Settings := do
  let contents ← orFail (.unreadableSettings path) ((← get).tree.readText path)
  match Settings.parse? contents with
  | none => throw (.invalidSettings path)
  | some s =>
    say [⟨.debug, "loaded config", [("path", path)]⟩]
    pure s

/-- The settings of a file that is asked for, or else of the project's file, or else the defaults. -/
def loadSettings (path : Option String) : Action Settings := do
  match path with
  | some path => loadFile path
  | none =>
    if (← get).tree.isFile projectSettingsPath then loadFile projectSettingsPath
    else
      say [⟨.debug, "no config file, using defaults", []⟩]
      pure {}

/-! ### Sources -/

/-- The reference sources below a root: those to be read, and the generated ones that are not. -/
def referenceFiles (s : ReferenceSettings) (root : String) (n : Node) :
    List SourceFile × List SourceFile :=
  (n.sources s.skippedDirs s.extensions root).partition fun f => !f.isMarked s.generatedMark

def addReference (s : ReferenceSettings) (m : Model) (f : SourceFile) : Action Model := do
  let t ← text .reference f
  match m.extract? t s.definedSymbols with
  | none => throw (.reference (.malformed f.path))
  | some (m, log) =>
    say (log ++ [⟨.info, "parsed reference source", [("path", f.path)]⟩])
    pure m

def readReference (s : ReferenceSettings) (root : String) : Action Model := do
  let n ← orFail (fun p => .reference (.walk root p)) ((← get).tree.find root)
  let (files, generated) := referenceFiles s root n
  say (generated.map fun f => ⟨.debug, "skipping generated source", [("path", f.path)]⟩)
  files.foldlM (addReference s) .empty

def addBindings (s : Scanner) (f : SourceFile) : Action Scanner := do
  let t ← text .bindings f
  say (s.messages t)
  match s.scan t with
  | (.ok (), s) =>
    say [⟨.info, "scanned binding source", [("path", f.path)]⟩]
    pure s
  | (.error (n, e), _) => throw (.bindings (.line f.path n e))

def readBindings (s : BindingSettings) (root : String) : Action BindingSet := do
  let n ← orFail (fun p => .bindings (.walk root p)) ((← get).tree.find root)
  let scanner ← (n.sources s.skippedDirs s.extensions root).foldlM addBindings .new
  pure scanner.finish

/-! ### Artifacts -/

/-- The emitters of a run: those named, or all, as far as they are for the target. -/
def emitters (o : OutputSettings) : Except String (List Emitter) := do
  let chosen ← Emitter.select o.emitters
  pure (match o.target with
    | some target => chosen.filter (·.target == target)
    | none => chosen)

def emit (s : Surface) (o : Options) (e : Emitter) : Action (List Artifact) := do
  let made := e.artifacts s o
  say (e.messages s ++ [⟨.debug, "emitted",
    [("emitter", quoteField e.name), ("files", toString made.length)]⟩])
  pure made

/-- All artifacts of a run. The names of emitters are checked before any source is read. -/
def generate (s : Settings) (referenceRoot bindingsRoot : String) : Action (List Artifact) := do
  let chosen ← orFail .unknownEmitter (emitters s.output)
  let m ← readReference s.reference referenceRoot
  say [⟨.info, "reference model ready", [("classes", toString m.size)]⟩]
  let b ← readBindings s.bindings bindingsRoot
  say [⟨.info, "binding registries ready",
    [("javascript", toString (b.classes .javascript).length),
      ("python", toString (b.classes .python).length), ("enums", toString b.enumList.length)]⟩]
  let made ← chosen.mapM (emit ⟨m, b⟩ s.output.options)
  pure made.flatten

def writeArtifact (root : String) (a : Artifact) : Action String := do
  let path := joinPath root a.path
  let tree ← orFail (.unwritable path) ((← get).tree.write path a.contents)
  modify fun s => { s with tree := tree }
  say [⟨.info, "wrote", [("path", path)]⟩]
  pure path

/-- Generate all artifacts and write them below a root. The result is the written paths. -/
def run (s : Settings) (referenceRoot bindingsRoot outputRoot : String) : Action (List String) := do
  let made ← generate s referenceRoot bindingsRoot
  made.mapM (writeArtifact outputRoot)

end BindingDocs.Generation
