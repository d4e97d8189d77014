import BindingDocs.Text.Search

/-! Log messages. -/
namespace BindingDocs

inductive LogLevel where
  | error
  | warn
  | info
  | debug
  deriving Repr, DecidableEq

namespace LogLevel

def name : LogLevel → String
  | error => "ERROR"
  | warn => "WARN"
  | info => "INFO"
  | debug => "DEBUG"

/-- More important messages have smaller ranks. -/
def rank : LogLevel → Nat
  | error => 0
  | warn => 1
  | info => 2
  | debug => 3

end LogLevel

/-- A message with its fields, each of which is already spelled out. -/
structure LogEntry where
  level : LogLevel
  message : String
  fields : List (String × String)
  deriving Repr, DecidableEq

namespace LogEntry

def render (e : LogEntry) : String :=
  e.level.name ++ " " ++ e.message ++ String.join (e.fields.map fun f => " " ++ f.1 ++ "=" ++ f.2)

end LogEntry

/-- Characters that are not shown as they are inside a quoted field. -/
def isHiddenChar (c : Char) : Bool :=
  let n := c.toNat
  n < 0x20 || (0x7F ≤ n && n ≤ 0xA0) || n == 0xAD || (0x300 ≤ n && n ≤ 0x36F) || n == 0x1680 ||
    (0x2000 ≤ n && n ≤ 0x200F) || (0x2028 ≤ n && n ≤ 0x202F) || (0x205F ≤ n && n ≤ 0x206F) ||
    n == 0x3000 || n == 0xFEFF || (0xFFF0 ≤ n && n ≤ 0xFFFB)

def quoteChar (c : Char) : String :=
  if c == '"' then "\\\""
  else if c == '\\' then "\\\\"
  else if c == '\n' then "\\n"
  else if c == '\r' then "\\r"
  else if c == '\t' then "\\t"
  else if c.toNat == 0 then "\\0"
  else if isHiddenChar c then
    "\\u\x7b" ++ String.ofList (Nat.toDigits 16 c.toNat) ++ "\x7d"
  else c.toString

/-- A text field in quotes, on one line. -/
def quoteField (s : String) : String := "\"" ++ String.join (s.toList.map quoteChar) ++ "\""

end BindingDocs
