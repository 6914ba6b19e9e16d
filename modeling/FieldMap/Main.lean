import FieldMap.Command

/-!
The command on the files of the working directory. A directory is read as a whole before the command
runs; files that hold no text are passed over.
-/

namespace FieldMap

def textOfFile? (read : IO ByteArray) : IO (Option String) := do
  try return String.fromUTF8? (← read)
  catch _ => return none

partial def foundAt (location : String) (entry : IO.FS.DirEntry) :
    IO (List (String × String) × List String) := do
  if ← entry.path.isDir then
    let below ← (← entry.path.readDir).toList.mapM fun inner =>
      foundAt (location ++ "/" ++ inner.fileName) inner
    return (below.flatMap Prod.fst, location :: below.flatMap Prod.snd)
  else
    let text ← textOfFile? (IO.FS.readBinFile entry.path)
    return ((text.map fun content => (location, content)).toList, [])

def filesFor (arguments : List String) : IO FileTree := do
  let below ← (← (← IO.currentDir).readDir).toList.mapM fun entry => foundAt entry.fileName entry
  let named ← (arguments.filter (·.startsWith "/")).mapM fun (path : String) => do
    let text ← textOfFile? (IO.FS.readBinFile path)
    return (text.map fun content => (path, content)).toList
  let tree := FileTree.ofList (below.flatMap Prod.fst ++ named.flatten)
  return { tree with bare := (below.flatMap Prod.snd).map Location.parse }

end FieldMap

def main (arguments : List String) : IO UInt32 := do
  let outcome := FieldMap.Command.run (← FieldMap.filesFor arguments) arguments
  IO.print outcome.output
  match outcome.ending with
  | .ok code => return code.toUInt32
  | .error fault =>
    IO.eprintln fault.message
    return 1
