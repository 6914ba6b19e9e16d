import FieldMap.Text.Cut

/-!
References to values: the name of a field of one's own, or a dotted path from the parent, the model
or the data of another container. Reading a reference and writing it again gives the same text.
-/

namespace FieldMap

inductive Root where
  | parent
  | model
  | container (name : String)
  deriving DecidableEq, Repr

inductive Reference where
  | own (name : String)
  | external (root : Root) (path : List String) (property : String)
  deriving DecidableEq, Repr, Inhabited

namespace Root

def ofMarker? (marker : List Char) : Option Root :=
  match marker with
  | ['^'] => some .parent
  | ['&'] => some .model
  | '@' :: c :: name => some (.container (String.ofList (c :: name)))
  | _ => none

def marker : Root → String
  | .parent => "^"
  | .model => "&"
  | .container name => "@" ++ name

end Root

namespace Reference

def property : Reference → String
  | .own name => name
  | .external _ _ property => property

def isExternal : Reference → Bool
  | .own _ => false
  | .external .. => true

/-- Reads a reference. A marker needs at least one segment after it; any other text is the name
of a field of one's own. -/
def parse (s : String) : Reference :=
  match Text.cut '.' s.toList with
  | marker :: segment :: segments =>
    match Root.ofMarker? marker with
    | some root =>
      let segments := (segment :: segments).map String.ofList
      .external root segments.dropLast (segments.getLastD "")
    | none => .own s
  | _ => .own s

def written : Reference → String
  | .own name => name
  | .external root path property =>
    Text.joinStrings "." (root.marker :: path ++ [property])

end Reference

end FieldMap
