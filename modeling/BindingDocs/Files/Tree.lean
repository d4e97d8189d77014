import BindingDocs.Files.Path

/-! Trees of files: looking up, making directories and writing. -/
namespace BindingDocs.Files

inductive Node where
  /-- A file with its text, or without one if its bytes are no text. -/
  | file (text : Option String)
  | dir (entries : List (String × Node))
  deriving Repr

/-- Why a path cannot be used. -/
inductive Problem where
  | notFound
  | occupied
  | notDirectory
  | isDirectory
  | notText
  deriving Repr, DecidableEq

def Problem.message : Problem → String
  | notFound => "No such file or directory (os error 2)"
  | occupied => "File exists (os error 17)"
  | notDirectory => "Not a directory (os error 20)"
  | isDirectory => "Is a directory (os error 21)"
  | notText => "stream did not contain valid UTF-8"

namespace Node

def empty : Node := .dir []

def isDir : Node → Bool
  | .dir _ => true
  | .file _ => false

/-- The entry of a directory with a given name. -/
def child? (n : Node) (name : String) : Option Node :=
  match n with
  | .dir entries => (entries.find? (·.1 == name)).map (·.2)
  | .file _ => none

/-- What stands at a place, which is given by the names that lead to it. -/
def get? : Node → List String → Option Node
  | n, [] => some n
  | n, name :: place => (n.child? name).bind (·.get? place)

/-- Put an entry into a list in place of the one with its name. -/
def setEntry (name : String) (new : Node) (entries : List (String × Node)) :
    List (String × Node) :=
  if entries.any (·.1 == name) then entries.map fun e => if e.1 == name then (name, new) else e
  else entries ++ [(name, new)]

/-- Put something at a place. Nothing is put below a file. -/
def put (new : Node) : List String → Node → Node
  | [], _ => new
  | name :: place, .dir entries =>
    .dir (setEntry name (put new place (((Node.dir entries).child? name).getD empty)) entries)
  | _ :: _, .file text => .file text

/-- Take one step of a path from a place. -/
def advance (top : Node) (place : List String) (step : String) : Except Problem (List String) :=
  match top.get? place with
  | some (.dir entries) =>
    if isStay step then .ok place
    else if step = ".." then (if place.isEmpty then .error .notFound else .ok place.dropLast)
    else if entries.any (·.1 == step) then .ok (place ++ [step])
    else .error .notFound
  | some (.file _) => .error .notDirectory
  | none => .error .notFound

/-- The place that a path leads to. Only paths that stay inside the tree lead anywhere. -/
def locate (top : Node) (path : String) : Except Problem (List String) :=
  if path = "" || path.toList.head? = some '/' then .error .notFound
  else (steps path).foldlM top.advance []

def find (top : Node) (path : String) : Except Problem Node := do
  match top.get? (← top.locate path) with
  | some n => .ok n
  | none => .error .notFound

def readText (top : Node) (path : String) : Except Problem String := do
  match ← top.find path with
  | .file (some text) => .ok text
  | .file none => .error .notText
  | .dir _ => .error .isDirectory

def isFile (top : Node) (path : String) : Bool :=
  match top.find path with
  | .ok (.file _) => true
  | _ => false

/-- Make the directories along the steps of a path from a place, and tell where they lead. A file in
the way is an error of its own at the last step. -/
def makeDirs (top : Node) (place : List String) : List String → Except Problem (Node × List String)
  | [] => .ok (top, place)
  | step :: rest =>
    if isStay step then makeDirs top place rest
    else if step = ".." then
      if place.isEmpty then .error .notFound else makeDirs top place.dropLast rest
    else
      let next := place ++ [step]
      match top.get? next with
      | none => makeDirs (put empty next top) next rest
      | some (.dir _) => makeDirs top next rest
      | some (.file _) => .error (if rest.all isStay then .occupied else .notDirectory)

/-- Put a file at a place. -/
def putFile (top : Node) (place : List String) (text : String) : Except Problem Node :=
  match top.get? place with
  | some (.dir _) => .error .isDirectory
  | _ => .ok (put (.file (some text)) place top)

/-- Write a file, with the directories that it needs. -/
def write (top : Node) (path text : String) : Except Problem Node := do
  let names := steps path
  match names.getLast? with
  | none => .error .notFound
  | some last =>
    if path.toList.head? = some '/' then .error .notFound
    else
      let (top, place) ← top.makeDirs [] names.dropLast
      top.putFile (place ++ [last]) text

end Node
end BindingDocs.Files
