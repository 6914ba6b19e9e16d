import FieldMap.Proofs.Outcome
import FieldMap.Value.Order

/-!
How ordering two values fails: the values are of kinds that have no order, or comparing them comes to
no end.
-/

namespace FieldMap.Value
open Outcome

variable {test : OrderTest}

def IsMismatch (fault : Fault) : Prop := fault.family = .typeMismatch

open FailsOnly

theorem orderScalars_mismatched (a b : Value) : FailsOnly IsMismatch (orderScalars test a b) := by
  unfold orderScalars
  repeat' split
  all_goals first
    | exact ok _
    | exact error rfl

end FieldMap.Value
