/-! Documentation comments as lists of tagged entries. -/
namespace BindingDocs.Documentation

/-- The part of a declaration that an entry describes. -/
inductive Tag where
  | summary
  | returns
  | remarks
  | value
  | param (name : String)
  | other (name : String)
  deriving Repr, DecidableEq

structure Entry where
  tag : Tag
  text : String
  deriving Repr, DecidableEq

/-- A documentation comment: its text as written, and the entries read from it. -/
structure Comment where
  raw : String
  entries : List Entry
  deriving Repr, DecidableEq

namespace Comment

/-- The text of the first entry with a given tag. -/
def text? (c : Comment) (tag : Tag) : Option String :=
  (c.entries.find? (·.tag == tag)).map (·.text)

def summary? (c : Comment) : Option String := c.text? .summary

def returns? (c : Comment) : Option String := c.text? .returns

def param? (c : Comment) (name : String) : Option String := c.text? (.param name)

end Comment
end BindingDocs.Documentation
