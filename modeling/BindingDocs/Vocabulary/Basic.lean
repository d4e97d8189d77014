import BindingDocs.Text.Blank
import BindingDocs.Text.Search

/-! Vocabularies: how the types of reference members are spelled in the documentation of another
language. -/
namespace BindingDocs
open BindingDocs.Text

/-- A text written around another. -/
structure Wrapping where
  before : String
  after : String
  deriving Repr, DecidableEq

def Wrapping.wrap (w : Wrapping) (s : String) : String := w.before ++ s ++ w.after

/-- Which generic types are sequences of their argument. -/
inductive Sequences where
  | enumerable
  | anyGeneric
  deriving Repr, DecidableEq

/-- Which part in front of a name is left out. -/
inductive Qualifiers where
  | listed (names : List String)
  | wholePath
  deriving Repr, DecidableEq

structure Vocabulary where
  /-- Types with a spelling of their own. -/
  exact : List (String × String)
  /-- Types that all have the spelling `escape`. -/
  escaped : List String
  escape : String
  array : Wrapping
  sequences : Sequences
  sequence : Wrapping
  qualifiers : Qualifiers

namespace Vocabulary

/-- The type of the elements, if a type is a sequence. -/
def element? (v : Vocabulary) (type : List Char) : Option (List Char) :=
  match v.sequences with
  | .enumerable =>
    let name := (dropStart? "System.Collections.Generic.".toList type).getD type
    (dropStart? "IEnumerable<".toList name).bind (dropEnd? ['>'])
  | .anyGeneric => (cutAt '<' type).bind fun r => dropEnd? ['>'] r.2

/-- A type without the qualifier in front of it, if it has one that is left out. -/
def unqualified? (v : Vocabulary) (type : List Char) : Option (List Char) :=
  match v.qualifiers with
  | .listed names => names.findSome? fun q => dropStart? q.toList type
  | .wholePath => if type.contains '.' then some (afterLast '.' type) else none

/-- The spelling of a type. The rules are tried in order: exact spelling, escape, array, sequence,
qualifier. Each rule leaves a shorter type, so the length of the type bounds their number. -/
def spellWithin (v : Vocabulary) : Nat → List Char → String
  | 0, type => String.ofList type
  | n + 1, type =>
    let type := trim type
    let name := String.ofList type
    match v.exact.find? (·.1 == name) with
    | some (_, spelling) => spelling
    | none =>
      if v.escaped.contains name then v.escape
      else match dropEnd? ['[', ']'] type with
        | some element => v.array.wrap (v.spellWithin n element)
        | none => match v.element? type with
          | some element => v.sequence.wrap (v.spellWithin n element)
          | none => match v.unqualified? type with
            | some rest => v.spellWithin n rest
            | none => name

def spell (v : Vocabulary) (type : String) : String :=
  v.spellWithin (type.toList.length + 1) type.toList

end Vocabulary
end BindingDocs
