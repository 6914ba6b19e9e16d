import FieldMap.Text.Cut

/-!
The code that writes a label of a host name in ASCII: its ASCII characters first, then numbers that
say which other characters go where, in ascending order of the characters. Numbers are written with
digits of a varying base that adapts to their usual size.
-/

namespace FieldMap.Request.Punycode

def digit (n : Nat) : Char := if n < 26 then Char.ofNat (97 + n) else Char.ofNat (22 + n)

def digitValue? (c : Char) : Option Nat :=
  if c.isLower then some (c.toNat - 97) else if c.isDigit then some (c.toNat - 22) else none

def reduceBias (delta k : Nat) : Nat × Nat :=
  if 455 < delta then reduceBias (delta / 35) (k + 36) else (delta, k)
termination_by delta
decreasing_by omega

def adapt (delta points : Nat) (isFirst : Bool) : Nat :=
  let delta := if isFirst then delta / 700 else delta / 2
  let (delta, k) := reduceBias (delta + delta / points) 0
  k + 36 * delta / (delta + 38)

def threshold (bias k : Nat) : Nat := if k ≤ bias then 1 else if bias + 26 ≤ k then 26 else k - bias

theorem threshold_pos (bias k : Nat) : 0 < threshold bias k := by
  unfold threshold
  split
  · omega
  · split <;> omega

def numberDigits (bias q k : Nat) : List Char :=
  let t := threshold bias k
  if q < t then [digit q]
  else digit (t + (q - t) % (36 - t)) :: numberDigits bias ((q - t) / (36 - t)) (k + 36)
termination_by q
decreasing_by
  have := threshold_pos bias k
  have := Nat.div_le_self (q - threshold bias k) (36 - threshold bias k)
  omega

structure State where
  delta : Nat
  bias : Nat
  handled : Nat
  output : List Char

def place (basic n : Nat) (s : State) (c : Char) : State :=
  if c.toNat < n then { s with delta := s.delta + 1 }
  else if c.toNat = n then
    { delta := 0
      bias := adapt s.delta (s.handled + 1) (s.handled == basic)
      handled := s.handled + 1
      output := s.output ++ numberDigits s.bias s.delta 36 }
  else s

def placeAll (label : List Char) (basic : Nat) (n : Nat) (s : State) : List Nat → State
  | [] => s
  | m :: rest =>
    let s := { s with delta := s.delta + (m - n) * (s.handled + 1) }
    let s := label.foldl (place basic m) s
    placeAll label basic (m + 1) { s with delta := s.delta + 1 } rest

def encode (label : List Char) : List Char :=
  let basic := label.filter (·.toNat < 0x80)
  let others := ((label.filter (0x80 ≤ ·.toNat)).map Char.toNat).mergeSort.eraseDups
  let head := if basic.isEmpty then [] else basic ++ ['-']
  head ++ (placeAll label basic.length 0x80 ⟨0, 72, basic.length, []⟩ others).output

def number? (bias weight k : Nat) : List Char → Option (Nat × List Char)
  | [] => none
  | c :: cs => do
    let n ← digitValue? c
    let t := threshold bias k
    if n < t then return (n * weight, cs)
    let (more, rest) ← number? bias (weight * (36 - t)) (k + 36) cs
    return (n * weight + more, rest)

theorem length_number? {bias weight k : Nat} {cs rest : List Char} {n : Nat}
    (h : number? bias weight k cs = some (n, rest)) : rest.length < cs.length := by
  induction cs generalizing weight k n with
  | nil => simp [number?] at h
  | cons c cs ih =>
    rw [number?] at h
    cases hd : digitValue? c with
    | none => simp [hd] at h
    | some d =>
      simp only [hd, Option.bind_eq_bind, Option.bind_some] at h
      split at h
      · cases h
        exact Nat.lt_succ_self _
      · cases hn : number? bias (weight * (36 - threshold bias k)) (k + 36) cs with
        | none => simp [hn] at h
        | some read =>
          simp only [hn, Option.bind_some] at h
          cases h
          have := ih hn
          simp only [List.length_cons]
          omega

/-- Puts characters into a label as the numbers say: each number says how many places are passed
before the next character is put in. Passing the end of the label leads to the next code point. -/
def fill? (label : List Char) (code place bias : Nat) (isFirst : Bool) :
    List Char → Option (List Char)
  | [] => some label
  | c :: cs =>
    match h : number? bias 1 36 (c :: cs) with
    | none => none
    | some (delta, rest) =>
      let points := label.length + 1
      let code := code + (place + delta) / points
      let place := (place + delta) % points
      if code.isValidChar then
        fill? (label.insertIdx place (Char.ofNat code)) code (place + 1)
          (adapt delta points isFirst) false rest
      else none
termination_by cs => cs.length
decreasing_by exact length_number? h

def decode? (cs : List Char) : Option (List Char) :=
  match cs.reverse.span (· != '-') with
  | (_, []) => fill? [] 0x80 0 72 true cs
  | (numbers, _ :: basic) => fill? basic.reverse 0x80 0 72 true numbers.reverse

end FieldMap.Request.Punycode
