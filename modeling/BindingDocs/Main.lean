import BindingDocs.CommandLine
import BindingDocs.Files.Bundle

/-! The program. The files it works on come as a bundle on its input, and those that it writes go as
a bundle to its output; messages go to the error stream. -/
namespace BindingDocs
open BindingDocs.Files

/-- All of a stream. -/
partial def readAll (input : IO.FS.Stream) (sofar : String) : IO String := do
  let line ← input.getLine
  if line.isEmpty then pure sofar else readAll input (sofar ++ line)

/-- Whether some arguments ask for a run over files. -/
def needsFiles (args : List String) : Bool :=
  match CommandLine.parse args with
  | .ok r => !r.listEmitters
  | .error _ => false

def inputBundle? (text : String) : Option Node :=
  (Bundle.parse? text).bind fun b => b.tree.toOption

/-- The files of a tree that another tree does not hold in the same form. -/
def changes (before after : Node) : Bundle :=
  let old := Bundle.ofTree before
  (Bundle.ofTree after).filter fun f => !old.contains f

end BindingDocs

open BindingDocs BindingDocs.Files in
def main (args : List String) : IO UInt32 := do
  let text ← if needsFiles args then readAll (← IO.getStdin) "" else pure ""
  match inputBundle? text with
  | none =>
    IO.eprintln "error: the input is not a bundle of files"
    pure 1
  | some tree =>
    let o := CommandLine.execute tree args
    IO.print o.output
    for line in o.log do IO.eprintln line
    for line in o.failure do IO.eprintln line
    IO.print (Bundle.render (changes tree o.tree))
    pure o.exitCode.toUInt32
