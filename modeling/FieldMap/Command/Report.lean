import FieldMap.Extraction
import FieldMap.Json.Writer

/-!
What the command prints: an overview of a model, the details of its containers, and payloads.
-/

namespace FieldMap.Command

def padded (width : Nat) (s : String) : String :=
  s ++ String.ofList (List.replicate (width - (Text.codes s.toList).length) ' ')

def ruler (c : Char) : String := String.ofList (List.replicate 80 c)

def kindOf : Reference → String
  | .own _ => "none"
  | .external .parent _ _ => "parent"
  | .external .model _ _ => "self"
  | .external (.container _) _ _ => "container"

def fieldLines (key : String) (spec : Option String) : List String :=
  let k := FieldKey.parse key
  let chain := if spec.getD "" = "" then "(none)" else spec.getD ""
  ["", "   " ++ key,
    "      source:     " ++ k.reference.written ++ " (" ++ kindOf k.reference ++ ")",
    "      output:     " ++ k.outputName] ++
    (k.guard.map ("      condition:  " ++ ·)).toList ++
    ["      processors: " ++ chain]

def containerLines (c : Container) : List String :=
  ["", " Container: " ++ c.name, s!"   Fields:   {c.fields.size}",
    "   Data:     " ++ (if c.data.truthy then "set" else "(empty)")] ++
    c.fields.entries.flatMap fun (key, spec) => fieldLines key spec

def shortName (name : String) : String :=
  let codes := Text.codes name.toList
  if 40 < codes.length then String.ofList (Text.ofCodes (codes.take 37)) ++ "..." else name

private def row (number name fields data : String) : String :=
  padded 4 number ++ " " ++ padded 40 name ++ " " ++ padded 10 fields ++ " " ++ padded 10 data

def overviewLines (m : Model) : List String :=
  ["", ruler '=', s!"SUMMARY - {m.containers.size} Containers, {m.templates.size} Templates",
    ruler '=', "", row "#" "Container" "Fields" "Data", ruler '-'] ++
    (m.summary.zipIdx.map fun (c, index) =>
      row (toString (index + 1)) (shortName c.name) (toString c.fields)
        (if c.hasData then "yes" else "no")) ++
    if m.templates.isEmpty then []
    else ["", " Templates: " ++ ", ".intercalate m.templates.names]

def standIn (v : Value) : Except Fault Value := return .text (← v.form)

def outputLines (json : Bool) (file : String) (fields : Catalog Value) :
    List (Except Fault String) :=
  if json then
    [Json.writeWithin Json.levelLimit .indented standIn
      (.mapping (fields.entries.map fun (name, v) => (.text name, v)))]
  else
    .ok "" :: .ok (" " ++ file ++ ":") ::
      fields.entries.map fun (name, v) => return "   " ++ name ++ ": " ++ (← v.form)

end FieldMap.Command
