import BindingDocs.Text.Blank
import BindingDocs.Text.Lines
import BindingDocs.Text.Search

/-! Texts of documentation entries as lines of an output. -/
namespace BindingDocs.Output
open BindingDocs.Text

/-- The lines of a text without blanks at their ends; blank lines are left out. -/
def textLines (text : String) : List String :=
  ((lines text.toList).map trim).filterMap fun l =>
    if l.isEmpty then none else some (String.ofList l)

/-- A text on one line. -/
def oneLine (text : String) : String := joinWith " " (textLines text)

/-- Literals of the reference language before a blank, and their spelling on the pages. -/
def pageWords : List (String × String) :=
  [("null ", "None "), ("true ", "True "), ("false ", "False ")]

/-- The lines of a text as a page shows them. -/
def pageLines (text : String) : List String :=
  let words := pageWords.foldl (fun s w => replaceAll w.1.toList w.2.toList s) text.toList
  textLines (String.ofList words)

/-- A parameter name that may be used where some words are reserved. -/
def safeName : String → String
  | "from" => "_from"
  | name => name

/-- A text whose lines all end in a line feed. -/
def unlines (ls : List String) : String := String.join (ls.map (· ++ "\n"))

/-- A base class that is named. -/
def namedBase? (base : Option String) : Option String := base.filter (· ≠ "")

end BindingDocs.Output
