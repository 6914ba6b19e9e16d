import FieldMap.Value
import FieldMap.Number.Shortest
import FieldMap.Text.Quoted

/-!
Values as text. The form of a value shows what kind of thing it is, with text between quotes; the
text of a value is the same but for texts, dates and read-only mappings, which are written plainly.
Whole numbers of too many digits cannot be written. Where a collection stands inside of itself, dots
are written for it.
-/

namespace FieldMap.Value

open FieldMap.Number

private def enclosed (opening : String) (parts : List String) (closing : String) : String :=
  opening ++ String.intercalate ", " parts ++ closing

mutual

def formWith (cyclicForm : Value → Except Fault String) : Value → Except Fault String
  | .undefined => .ok "UNDEFINED"
  | .null => .ok "None"
  | .bool b => .ok (if b then "True" else "False")
  | .int n =>
    if isWritable n then .ok (String.ofList (integerText n)) else .error (.digitLimit none)
  | .float x => .ok (String.ofList x.text)
  | .text s => .ok (Text.quotedString s)
  | .octets content => .ok (String.ofList (Text.quotedOctets content))
  | .date d => .ok d.form
  | .moment m => .ok m.form
  | .list items => return enclosed "[" (← itemForms cyclicForm items) "]"
  | .tuple items =>
    return enclosed "(" (← itemForms cyclicForm items) (if items.length = 1 then ",)" else ")")
  | .set items =>
    if items.isEmpty then .ok "set()"
    else return enclosed "\x7b" (← itemForms cyclicForm items) "\x7d"
  | .mapping entries => return enclosed "\x7b" (← entryForms cyclicForm entries) "\x7d"
  | .readOnly entries =>
    return enclosed "mappingproxy(\x7b" (← entryForms cyclicForm entries) "\x7d)"
  | .object profile _ => .ok profile.text
  | .cyclic ring cells index => cyclicForm (.cyclic ring cells index)
  | .cell index => cyclicForm (.cell index)
termination_by structural v => v

def itemForms (cyclicForm : Value → Except Fault String) :
    List Value → Except Fault (List String)
  | [] => .ok []
  | item :: items => return (← formWith cyclicForm item) :: (← itemForms cyclicForm items)
termination_by structural items => items

def entryForms (cyclicForm : Value → Except Fault String) :
    List (Value × Value) → Except Fault (List String)
  | [] => .ok []
  | (key, value) :: entries =>
    return ((← formWith cyclicForm key) ++ ": " ++ (← formWith cyclicForm value)) ::
      (← entryForms cyclicForm entries)
termination_by structural entries => entries

end

def dots (v : Value) : String := if v.kind = "dict" then "\x7b...\x7d" else "[...]"

def form (v : Value) : Except Fault String :=
  formWith (fun v => v.throughRing (fun v => .ok v.dots) formWith (v.ringSize + 1) []) v

def written : Value → Except Fault String
  | .text s => .ok s
  | .date d => .ok d.text
  | .moment m => .ok m.text
  | .readOnly entries => form (.mapping entries)
  | v => v.form

end FieldMap.Value
