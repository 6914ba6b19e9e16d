import FieldMap.FileTree
import FieldMap.Json.Reader
import FieldMap.Yaml.Document

/-!
Documents in files: JSON where the name says so, and YAML everywhere else.
-/

namespace FieldMap.FileTree

/-- The value of the document at a location. Documents of different origins share no collections. -/
def documentAt (t : FileTree) (l : Location) (origin : Nat) : Except Fault Value := do
  let text ← t.content l
  if l.suffix = ".json" then Json.readDocument text else Yaml.read origin text

def document (t : FileTree) (path : String) (origin : Nat) : Except Fault Value :=
  t.documentAt (.parse path) origin

end FieldMap.FileTree
