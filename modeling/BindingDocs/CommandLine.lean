import BindingDocs.Generation

/-! The command line: what is asked for, and what comes of it. -/
namespace BindingDocs.CommandLine
open BindingDocs.Files BindingDocs.Output BindingDocs.Registration BindingDocs.Text

/-- What the arguments ask for. -/
structure Request where
  /-- Reference root, bindings root and output root. -/
  roots : List String := []
  settingsPath : Option String := none
  emitters : List String := []
  target : Option Dialect := none
  verbosity : Nat := 0
  quiet : Bool := false
  listEmitters : Bool := false
  deriving Repr, DecidableEq

/-- Why the arguments are no request. -/
inductive Stop where
  | misuse
  | version
  deriving Repr, DecidableEq

/-- Options that take a value. -/
inductive ValueOption where
  | settings
  | emit
  | target
  deriving Repr, DecidableEq

/-- The arguments read so far. -/
structure State where
  request : Request := {}
  /-- The option whose value comes next. -/
  awaiting : Option ValueOption := none
  /-- After two dashes all arguments are roots. -/
  onlyRoots : Bool := false

def addRoot (r : Request) (path : String) : Except Stop Request :=
  if path = "" || 3 ≤ r.roots.length then .error .misuse
  else .ok { r with roots := r.roots ++ [path] }

def setValue (r : Request) (o : ValueOption) (value : String) : Except Stop Request :=
  match o with
  | .settings =>
    if value = "" || r.settingsPath.isSome then .error .misuse
    else .ok { r with settingsPath := some value }
  | .emit => .ok { r with emitters := r.emitters ++ [value] }
  | .target =>
    match Dialect.ofName? value with
    | some d => if r.target.isSome then .error .misuse else .ok { r with target := some d }
    | none => .error .misuse

def beQuiet (r : Request) : Except Stop Request :=
  if r.quiet then .error .misuse else .ok { r with quiet := true }

def beVerbose (r : Request) : Request := { r with verbosity := r.verbosity + 1 }

def shortFlag (r : Request) (c : Char) : Except Stop Request :=
  match c with
  | 'v' => .ok (beVerbose r)
  | 'q' => beQuiet r
  | 'V' => .error .version
  | _ => .error .misuse

def valueOption? : String → Option ValueOption
  | "config" => some .settings
  | "emit" => some .emit
  | "target" => some .target
  | _ => none

def longFlag (r : Request) (name : String) : Except Stop Request :=
  match name with
  | "verbose" => .ok (beVerbose r)
  | "quiet" => beQuiet r
  | "list-emitters" => if r.listEmitters then .error .misuse else .ok { r with listEmitters := true }
  | "version" => .error .version
  | _ => .error .misuse

/-- Read an option in its long form, without the dashes. -/
def longOption (s : State) (body : List Char) : Except Stop State :=
  match cutAt '=' body with
  | some (name, value) =>
    match valueOption? (String.ofList name) with
    | some o => do pure { s with request := ← setValue s.request o (String.ofList value) }
    | none => .error .misuse
  | none =>
    match valueOption? (String.ofList body) with
    | some o => .ok { s with awaiting := some o }
    | none => do pure { s with request := ← longFlag s.request (String.ofList body) }

/-- Read one argument. A dash alone is no option. -/
def step (s : State) (arg : String) : Except Stop State :=
  if s.onlyRoots then do pure { s with request := ← addRoot s.request arg }
  else match arg.toList, s.awaiting with
    | '-' :: _ :: _, some _ => .error .misuse
    | _, some o => do pure { s with request := ← setValue s.request o arg, awaiting := none }
    | ['-', '-'], none => .ok { s with onlyRoots := true }
    | '-' :: '-' :: body, none => longOption s body
    | '-' :: c :: flags, none => do
      pure { s with request := ← (c :: flags).foldlM shortFlag s.request }
    | _, none => do pure { s with request := ← addRoot s.request arg }

/-- The request of some arguments. All three roots are needed unless emitters are listed, and a run
is not both quiet and verbose. -/
def parse (args : List String) : Except Stop Request := do
  let s ← args.foldlM step {}
  let r := s.request
  if s.awaiting.isSome then .error .misuse
  else if r.quiet && 0 < r.verbosity then .error .misuse
  else if !r.listEmitters && r.roots.length < 3 then .error .misuse
  else .ok r

/-- The least important level that is shown. -/
def Request.level (r : Request) : LogLevel :=
  if r.quiet then .error else if r.verbosity = 0 then .info else .debug

/-- What a run leaves behind. -/
structure Outcome where
  exitCode : Nat
  output : String
  failure : Option String
  log : List String
  tree : Node

def versionText : String := "surfdoc 0.2.0\n"

/-- Load the settings, let the request change them, and run. -/
def perform (r : Request) (referenceRoot bindingsRoot outputRoot : String) :
    Generation.Action Unit := do
  let settings ← Generation.loadSettings r.settingsPath
  let output := { settings.output with
    emitters := if r.emitters.isEmpty then settings.output.emitters else r.emitters
    target := r.target <|> settings.output.target }
  let written ← Generation.run { settings with output := output }
    referenceRoot bindingsRoot outputRoot
  Generation.say [⟨.info, "done", [("files", toString written.length), ("root", outputRoot)]⟩]

def execute (tree : Node) (args : List String) : Outcome :=
  match parse args with
  | .error .misuse => ⟨2, "", none, [], tree⟩
  | .error .version => ⟨0, versionText, none, [], tree⟩
  | .ok r =>
    if r.listEmitters then ⟨0, String.join (Emitter.names.map (· ++ "\n")), none, [], tree⟩
    else match r.roots with
      | [referenceRoot, bindingsRoot, outputRoot] =>
        let (result, session) := (perform r referenceRoot bindingsRoot outputRoot).run ⟨tree, []⟩
        let shown := session.log.filter fun e => e.level.rank ≤ r.level.rank
        let log := shown.map LogEntry.render
        match result with
        | .ok () => ⟨0, "", none, log, session.tree⟩
        | .error f => ⟨1, "", some ("error: " ++ f.message), log, session.tree⟩
      | _ => ⟨2, "", none, [], tree⟩

end BindingDocs.CommandLine
