import FieldMap.Chain.Pieces
import FieldMap.Json.Reader
import FieldMap.Modifier
import FieldMap.Registry

/-!
Chains of processors and modifiers. A spec names steps that are applied from left to right; it is
compiled against two registries and bound to what they hold at that time. A processor that is not
registered loses the value, a modifier that is not registered leaves it as it is.
-/

namespace FieldMap

inductive Step where
  | processor (name : String) (run : Option Processor)
  | modifier (name : String) (parameters : Value) (run : Option Modifier)

namespace Step

def name : Step → String
  | processor name _ => name
  | modifier name _ _ => name

def isRegistered : Step → Bool
  | processor _ run => run.isSome
  | modifier _ _ run => run.isSome

/-- Applies a step to a value; the second component tells whether the chain ends here. -/
def apply : Step → Value → Except Fault (Value × Bool)
  | processor _ none, _ => .ok (.undefined, false)
  | processor _ (some run), v => return (← run v, false)
  | modifier _ _ none, v => .ok (v, false)
  | modifier _ parameters (some run), v => do
    let verdict ← (← run v parameters).toVerdict
    return (if verdict.replaces then verdict.value else v, verdict.stops)

end Step

structure Chain where
  spec : Option String
  steps : List Step

namespace Chain

def compileStep (origin : String) (processors : Registry Processor) (modifiers : Registry Modifier)
    (piece : List Char) : Except Fault Step :=
  match Text.cutAt? [':'] piece with
  | none =>
    let name := String.ofList piece
    .ok (.processor name (processors.get? name))
  | some (name, parameters) =>
    let name := String.ofList name
    match Json.readChars parameters with
    | .ok v => .ok (.modifier name v (modifiers.get? name))
    | .error (.malformed problem _) =>
      .error (.badParameters name (String.ofList parameters) problem origin)
    | .error (.exceeded fault) => .error fault

def compile (spec : Option String) (processors : Registry Processor)
    (modifiers : Registry Modifier) : Except Fault Chain := do
  let origin := spec.getD ""
  let steps ← (splitChars origin.toList).mapM (compileStep origin processors modifiers)
  return ⟨spec, steps⟩

def form (chain : Chain) : String :=
  "ProcessorChain(" ++ " -> ".intercalate (chain.steps.map Step.name) ++ ")"

def missing (chain : Chain) : List String :=
  (chain.steps.filter fun step => !step.isRegistered).map Step.name

def runSteps : List Step → Value → Except Fault (Value × Bool)
  | [], v => .ok (v, false)
  | step :: steps, v => do
    let (v, stopped) ← step.apply v
    if stopped then return (v, true) else runSteps steps v

def run (chain : Chain) (v : Value) : Except Fault Value :=
  return (← runSteps chain.steps v).1

end Chain

end FieldMap
