import BindingDocs.Condition
import BindingDocs.Documentation.Parse
import BindingDocs.Log
import BindingDocs.Reference.Model
import BindingDocs.Source.Declaration

/-! The public surface of reference sources: a walk over the declarations of a source finds types
and members, which a model then records. -/
namespace BindingDocs.Reference
open BindingDocs.Documentation BindingDocs.Source BindingDocs.Text

/-- The namespace and the innermost type around a declaration. -/
structure Scope where
  space : String
  owner : Option String
  deriving Repr, DecidableEq

namespace Scope

def join (outer name : String) : String := if outer = "" then name else outer ++ "." ++ name

def enterNamespace (s : Scope) (name : String) : Scope := ⟨join s.space name, none⟩

/-- The qualified name of a type declared in a scope. -/
def qualify (s : Scope) (name : String) : String := join (s.owner.getD s.space) name

def enterType (s : Scope) (name : String) : Scope := ⟨s.space, some (s.qualify name)⟩

end Scope

/-- What a walk finds. Methods that pass results by reference, or more than one result, are found
but not recorded. -/
inductive Finding where
  | declared (qualifiedName : String) (doc : Option Comment)
  | constructor (owner : String) (c : Constructor)
  | method (owner : String) (m : Method)
  | skipped (owner : String) (m : Method)
  | property (owner : String) (p : Property)
  deriving Repr, DecidableEq

/-- The first run of lines with three slashes among the comments in front of a declaration. -/
def docLines (comments : List String) : List String :=
  let isDoc (c : String) : Bool := "///".toList.isPrefixOf c.toList
  let run := ((comments.map trimmed).dropWhile (!isDoc ·)).takeWhile isDoc
  run.map fun c => String.ofList (c.toList.drop 3)

def leadingDoc (comments : List String) : Option Comment :=
  match docLines comments with
  | [] => none
  | lines => some (Comment.parse (joinWith "\n" lines))

def refCount (params : List Parameter) : Nat := params.countP (·.passing == .byRef)

def outCount (params : List Parameter) : Nat := params.countP (·.isOut)

/-- A public member of a type. -/
def memberFinding (owner : String) (doc : Option Comment) (m : Source.Member) : Finding :=
  let isStatic := m.modifiers.contains "static"
  match m.signature with
  | .constructor params => .constructor owner ⟨params.map (·.declared), doc⟩
  | .method name returns written =>
    let params := written.map (·.declared)
    let method := ⟨name, returns, params, isStatic, doc⟩
    if 0 < refCount params || 2 ≤ outCount params then .skipped owner method
    else .method owner method
  | .property name type => .property owner ⟨name, type, isStatic, doc⟩

/-- The comments directly before the sibling that follows an item. -/
def commentsAfter (before : List String) : Item → List String
  | .comment text => before ++ [text]
  | _ => []

/-- The scope of the siblings that follow an item. -/
def scopeAfter (scope : Scope) : Item → Scope
  | .fileNamespace name => scope.enterNamespace name
  | _ => scope

mutual

/-- What is found in one item with some comments in front of it. -/
def walkItem (defined : List String) (scope : Scope) (before : List String) : Item → List Finding
  | .comment _ => []
  | .fileNamespace _ => []
  | .other inner => walkSiblings defined true scope [] inner
  | .namespaceBlock name body => walkSiblings defined true (scope.enterNamespace name) [] body
  | .typeBlock name body =>
    if name = "" then []
    else .declared (scope.qualify name) (leadingDoc before) ::
      walkSiblings defined true (scope.enterType name) [] body
  | .member m => match scope.owner with
    | some owner =>
      if m.modifiers.contains "public" then [memberFinding owner (leadingDoc before) m] else []
    | none => []
  | .conditional condition body alternative =>
    let active := Condition.evaluate condition defined
    (if active = some false then [] else walkSiblings defined false scope [] body) ++
      (if active = some true then [] else walkSiblings defined true scope [] alternative)

/-- What is found in a list of siblings. A file namespace opens a scope for the siblings after it,
except directly in a region under a condition. -/
def walkSiblings (defined : List String) (opens : Bool) (scope : Scope) (before : List String) :
    List Item → List Finding
  | [] => []
  | i :: is =>
    walkItem defined scope before i ++
      walkSiblings defined opens (if opens then scopeAfter scope i else scope)
        (commentsAfter before i) is

end

/-- Everything found in the declarations of a source. -/
def findings (defined : List String) (items : List Item) : List Finding :=
  walkSiblings defined true ⟨"", none⟩ [] items

def Model.record (m : Model) : Finding → Model
  | .declared name doc => m.update name (·.withDoc doc)
  | .constructor owner c => m.update owner (·.addConstructor c)
  | .method owner x => m.update owner (·.addMethod x)
  | .property owner p => m.update owner (·.addProperty p)
  | .skipped _ _ => m

namespace Finding

def doc : Finding → Option Comment
  | declared _ doc => doc
  | constructor _ c => c.doc
  | method _ m => m.doc
  | skipped _ m => m.doc
  | property _ p => p.doc

/-- What the log says about a finding. -/
def messages (f : Finding) : List LogEntry :=
  let malformed := match f.doc with
    | some c => if isWellFormed c.raw then [] else
      [⟨.warn, "malformed documentation comment, keeping it as plain text", []⟩]
    | none => []
  let left : List LogEntry := match f with
    | skipped owner m => [⟨.debug, "skipping method", [("class", quoteField owner),
        ("method", quoteField m.name), ("refs", toString (refCount m.params)),
        ("outs", toString (outCount m.params))]⟩]
    | _ => []
  malformed ++ left

end Finding

/-- Add the public surface of a source to a model, or nothing if the source is not well formed. -/
def Model.extract? (m : Model) (source : String) (defined : List String) :
    Option (Model × List LogEntry) :=
  (parse? source).map fun items =>
    let fs := findings defined items
    (fs.foldl Model.record m, fs.flatMap Finding.messages)

end BindingDocs.Reference
