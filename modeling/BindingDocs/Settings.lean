import BindingDocs.Output.Artifact
import BindingDocs.Toml.Parse

/-! Settings of a run. -/
namespace BindingDocs
open BindingDocs.Registration BindingDocs.Toml

structure ReferenceSettings where
  extensions : List String := ["cs"]
  /-- Files whose names begin so, in any case, are generated and left out. -/
  generatedMark : String := "auto"
  skippedDirs : List String := ["obj", "bin"]
  definedSymbols : List String := []
  deriving Repr, DecidableEq

structure BindingSettings where
  extensions : List String := ["cpp"]
  skippedDirs : List String := ["obj"]
  deriving Repr, DecidableEq

structure OutputSettings where
  options : Output.Options := {}
  /-- The emitters to run; none means all. -/
  emitters : List String := []
  /-- Only emitters of this dialect are run. -/
  target : Option Dialect := none
  deriving Repr, DecidableEq

structure Settings where
  reference : ReferenceSettings := {}
  bindings : BindingSettings := {}
  output : OutputSettings := {}
  deriving Repr, DecidableEq

namespace Settings

def string? : Item → Option String
  | .string s => some s
  | _ => none

def strings? : Item → Option (List String)
  | .array items => items.mapM string?
  | _ => none

/-- Something without content, as the value of a choice. -/
def isVoid : Item → Bool
  | .array [] => true
  | .table _ [] => true
  | .tables [] => true
  | _ => false

/-- A dialect, by its name or as the only key of a table. -/
def dialect? : Item → Option Dialect
  | .string s => Dialect.ofName? s
  | .table _ [(name, item)] => if isVoid item then Dialect.ofName? name else none
  | _ => none

/-- The fields of a section: a table gives them by name, and an array in the order of `names`. -/
def fields? (names : List String) : Item → Option (List (String × Item))
  | .table _ entries => some (entries.filter fun e => names.contains e.1)
  | .array items => some (names.zip items)
  | .tables elements => some (names.zip (elements.map (.table .header ·)))
  | _ => none

/-- A field of a section, or its default. -/
def field? {α : Type} (fields : List (String × Item)) (name : String) (read : Item → Option α)
    (default : α) : Option α :=
  match Toml.Entries.get? fields name with
  | some item => read item
  | none => some default

def reference? (item : Item) : Option ReferenceSettings := do
  let d : ReferenceSettings := {}
  let fs ← fields? ["extensions", "generated_prefix", "skip_dirs", "defined_symbols"] item
  pure ⟨← field? fs "extensions" strings? d.extensions,
    ← field? fs "generated_prefix" string? d.generatedMark,
    ← field? fs "skip_dirs" strings? d.skippedDirs,
    ← field? fs "defined_symbols" strings? d.definedSymbols⟩

def bindings? (item : Item) : Option BindingSettings := do
  let d : BindingSettings := {}
  let fs ← fields? ["extensions", "skip_dirs"] item
  pure ⟨← field? fs "extensions" strings? d.extensions, ← field? fs "skip_dirs" strings? d.skippedDirs⟩

def output? (item : Item) : Option OutputSettings := do
  let d : OutputSettings := {}
  let fs ← fields? ["module", "module_class", "version", "emitters", "target"] item
  let options := ⟨← field? fs "module" string? d.options.moduleName,
    ← field? fs "module_class" string? d.options.moduleClass,
    ← field? fs "version" string? d.options.version⟩
  pure ⟨options, ← field? fs "emitters" strings? d.emitters,
    ← field? fs "target" (fun i => (dialect? i).map some) d.target⟩

/-- Settings from the entries of a document. Unknown entries are left alone. -/
def ofEntries? (es : Entries) : Option Settings := do
  let d : Settings := {}
  pure ⟨← field? es "reference" reference? d.reference, ← field? es "bindings" bindings? d.bindings,
    ← field? es "output" output? d.output⟩

def parse? (text : String) : Option Settings := (Toml.parse? text).bind ofEntries?

end Settings
end BindingDocs
