import BindingDocs.Reference.Member

/-! The declarations of a reference source, as a tree of siblings in the order of the text.
Comments are siblings of the declarations around them, so that the comments in front of a
declaration can be read off the list it stands in. -/
namespace BindingDocs.Source
open BindingDocs.Reference

/-- A parameter as it is written: the words in front of its type, and its default value, which is
empty if there is none. -/
structure WrittenParameter where
  words : List String
  type : String
  name : String
  value : String
  deriving Repr, DecidableEq

namespace WrittenParameter

/-- The words that may say how a parameter is passed. A default value that is spelled like a modifier
counts as one. -/
def keywords (p : WrittenParameter) : List Passing :=
  (p.words ++ [p.value]).filterMap Passing.ofKeyword?

/-- The parameter that is declared; the last word that says how it is passed decides. -/
def declared (p : WrittenParameter) : Parameter := ⟨p.name, p.type, p.keywords.getLast?.getD .byValue⟩

end WrittenParameter

/-- What a member declaration declares. Types are spelled as in the source. -/
inductive Signature where
  | constructor (params : List WrittenParameter)
  | method (name returns : String) (params : List WrittenParameter)
  | property (name type : String)
  deriving Repr, DecidableEq

structure Member where
  modifiers : List String
  signature : Signature
  deriving Repr, DecidableEq

/-- One sibling in a list of declarations.

* `other` is anything that is no declaration of interest itself; it holds the declarations that
  stand somewhere inside it.
* `fileNamespace` puts the siblings that follow it into a namespace.
* `conditional` is a region under a condition; its last list is what stands after `#elif`
  (again a single `conditional`) or after `#else`. -/
inductive Item where
  | comment (text : String)
  | other (inner : List Item)
  | fileNamespace (name : String)
  | namespaceBlock (name : String) (body : List Item)
  | typeBlock (name : String) (body : List Item)
  | member (m : Member)
  | conditional (condition : String) (body alternative : List Item)
  deriving Repr

end BindingDocs.Source
