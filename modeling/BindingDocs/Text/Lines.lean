/-! Lines of a text. -/
namespace BindingDocs.Text

/-- A line without the carriage return before its line feed. -/
def dropReturn (line : List Char) : List Char :=
  if line.getLast? = some '\r' then line.dropLast else line

/-- The lines that follow the part `seen` (in reverse) of an unfinished one. -/
def linesFrom (seen : List Char) : List Char → List (List Char)
  | [] => if seen.isEmpty then [] else [seen.reverse]
  | c :: s =>
    if c = '\n' then dropReturn seen.reverse :: linesFrom [] s
    else linesFrom (c :: seen) s

/-- The lines of a text: a line feed ends a line and takes one carriage return before it along. -/
def lines (s : List Char) : List (List Char) := linesFrom [] s

end BindingDocs.Text
