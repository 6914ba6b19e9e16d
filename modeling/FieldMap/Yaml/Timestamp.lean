import FieldMap.Number.Integer
import FieldMap.Value

/-!
Dates and moments as YAML 1.1 writes them.
-/

namespace FieldMap.Yaml

structure WrittenTime where
  hour : List Char
  minute : List Char
  second : List Char
  fraction : List Char
  offset : Option (Bool × List Char × List Char)

structure WrittenMoment where
  year : List Char
  month : List Char
  day : List Char
  time : Option WrittenTime

namespace WrittenMoment

private def digits (least most : Nat) (cs : List Char) : Option (List Char × List Char) :=
  let found := (cs.take most).takeWhile Char.isDigit
  if found.length < least then none else some (found, cs.drop found.length)

private def mark (c : Char) : List Char → Option (List Char)
  | d :: cs => if c = d then some cs else none
  | [] => none

private def isGap (c : Char) : Bool := c == ' ' || c == '\t'

private def separator : List Char → Option (List Char)
  | [] => none
  | c :: cs =>
    if c == 'T' || c == 't' then some cs
    else if isGap c then some (cs.dropWhile isGap)
    else none

private def offset (cs : List Char) : Option (Option (Bool × List Char × List Char)) :=
  if cs.isEmpty then some none
  else match cs.dropWhile isGap with
    | ['Z'] => some (some (false, ['0'], []))
    | sign :: rest =>
      if sign == '-' || sign == '+' then do
        let (hours, rest) ← digits 1 2 rest
        let (minutes, rest) ←
          match rest with
          | ':' :: rest => digits 2 2 rest
          | rest => some ([], rest)
        if rest.isEmpty then some (some (sign == '-', hours, minutes)) else none
      else none
    | [] => none

private def timeOf (cs : List Char) : Option WrittenTime := do
  let cs ← separator cs
  let (hour, cs) ← digits 1 2 cs
  let (minute, cs) ← digits 2 2 (← mark ':' cs)
  let (second, cs) ← digits 2 2 (← mark ':' cs)
  let (fraction, cs) :=
    match cs with
    | '.' :: cs => cs.span Char.isDigit
    | _ => ([], cs)
  return { hour, minute, second, fraction, offset := ← offset cs }

def read? (cs : List Char) : Option WrittenMoment := do
  let (year, cs) ← digits 4 4 (Text.withoutFinalBreak cs)
  let (month, cs) ← digits 1 2 (← mark '-' cs)
  let (day, cs) ← digits 1 2 (← mark '-' cs)
  let time ← if cs.isEmpty then some none else (timeOf cs).map some
  return { year, month, day, time }

def isWritten (cs : List Char) : Bool :=
  match read? cs with
  | some m => m.time.isSome || cs.length == 10
  | none => false

private def number (digits : List Char) : Nat := Number.ofDigits digits

private def lengthText (seconds : Int) : String :=
  let rest := Int.fmod seconds 86400
  s!"datetime.timedelta(days={Int.fdiv seconds 86400}" ++
    (if rest = 0 then "" else s!", seconds={rest}") ++ ")"

private def checkOffset (seconds : Int) : Except Fault Int :=
  if seconds.natAbs < 86400 then .ok seconds
  else
    .error (.badDate ("offset must be a timedelta strictly between -timedelta(hours=24) and " ++
      "timedelta(hours=24), not " ++ lengthText seconds ++ "."))

def toValue (m : WrittenMoment) : Except Fault Value := do
  let date : Date := ⟨number m.year, number m.month, number m.day⟩
  match m.time with
  | none =>
    match date.problem? with
    | some problem => .error (.badDate problem)
    | none => return .date date
  | some t =>
    let offset ← t.offset.mapM fun (west, hours, minutes) =>
      let seconds : Int := (number hours * 60 + number minutes : Nat) * 60
      checkOffset (if west then -seconds else seconds)
    let moment : Moment :=
      { date
        hour := number t.hour
        minute := number t.minute
        second := number t.second
        microsecond := number ((t.fraction ++ List.replicate 6 '0').take 6)
        offset }
    match moment.problem? with
    | some problem => .error (.badDate problem)
    | none => return .moment moment

end WrittenMoment

end FieldMap.Yaml
