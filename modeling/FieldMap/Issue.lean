import FieldMap.Fault

/-!
Issues: what went wrong with one field, or with a whole container, while it was extracted.
-/

namespace FieldMap

inductive Severity where
  | low
  | medium
  | high
  deriving DecidableEq, Repr

inductive Problem where
  | noFields
  | missingReference (fault : Fault)
  | guardFailure (fault : Fault)
  | unresolvedSpec (fault : Fault)
  | malformedSpec (fault : Fault)
  | unregistered (names : List String)
  | chainFailure (fault : Fault)
  deriving DecidableEq, Repr

namespace Problem

def severity : Problem → Severity
  | noFields | chainFailure _ => .high
  | missingReference _ | guardFailure _ | unresolvedSpec _ | malformedSpec _ => .medium
  | unregistered _ => .low

def description : Problem → String
  | noFields => "Container has no field specifications"
  | missingReference _ => "Field source could not be resolved"
  | guardFailure _ => "Guard condition could not be evaluated"
  | unresolvedSpec _ => "Processor reference could not be resolved"
  | malformedSpec _ => "Malformed processor chain"
  | unregistered _ => "Unregistered processor"
  | chainFailure _ => "Processor raised an exception"

def message : Problem → String
  | noFields => Fault.noFieldNames.message
  | missingReference fault | guardFailure fault | unresolvedSpec fault | malformedSpec fault
  | chainFailure fault => fault.message
  | unregistered names =>
    "Unknown names: " ++ ", ".intercalate (names.map fun name => "'" ++ name ++ "'")

end Problem

structure Issue where
  container : String
  key : Option String
  problem : Problem
  deriving DecidableEq, Repr

namespace Issue

def location (i : Issue) : String :=
  match i.key.getD "" with
  | "" => i.container
  | key => i.container ++ "[" ++ key ++ "]"

def text (i : Issue) : String :=
  i.problem.description ++ ": " ++ i.location ++ ". " ++ i.problem.message

end Issue

end FieldMap
