import FieldMap.Proofs.Processor

/-!
Processors that settle: what one of them gives it leaves as it is, though the value that it gives may be
of another kind than the one it got. A chain that names such a processor twice comes to the same as one
that names it once. Main statement: `run_repeated`.
-/

namespace FieldMap.Processor
open Outcome

/-- Whatever a processor gives, it gives again for that. -/
def Settles (p : Processor) : Prop := ∀ v, ReturnsOnly (fun out => p out = .ok out) (p v)

theorem toInteger_int (n : Int) : toInteger (.int n) = .ok (.int n) := by
  by_cases zero : n = 0
  · subst zero
    rfl
  · have truthy : (Value.int n).truthy = true := by simpa [Value.truthy] using zero
    simp [toInteger, integerOf, truthy, Value.isBool]

theorem settles_toInteger : Settles toInteger := by
  intro v out given
  obtain ⟨n, -, rfl⟩ := map_eq_ok.mp given
  exact toInteger_int n

theorem settles_toText : Settles toText := by
  intro v out given
  unfold toText at given
  split at given
  · cases given
    rfl
  · cases given
    rfl
  · split at given
    · obtain ⟨text, -, rfl⟩ := map_eq_ok.mp given
      rfl
    · cases given
      rfl

/-- A value that counts as a list by its kind is left as it is already. -/
theorem settles_toList : Settles toList := by
  intro v out given
  cases v with
  | list items | tuple items =>
      cases given
      rfl
  | _ =>
      simp only [toList, Except.ok.injEq] at given
      split at given
      · next kind =>
          subst given
          simp only [toList, if_pos kind]
      · subst given
        rfl

theorem settles_toBool : Settles toBool := by
  intro v out given
  cases given
  rfl

theorem currency_of_mem {sign : Char} {text : String} (inside : sign ∈ text.toList) :
    currency sign (.text text) = .ok (.text text) := by
  simp [currency, Value.written, inside]

theorem settles_currency (sign : Char) : Settles (currency sign) := by
  intro v out given
  unfold currency at given
  split at given
  · cases given
    rfl
  · cases given
    rfl
  · cases given
    rfl
  · obtain ⟨text, -, rfl⟩ := map_eq_ok.mp given
    apply currency_of_mem
    split
    · next inside => simpa using inside
    · simp

theorem settles_onText {change : List Char → List Char}
    (idempotent : ∀ cs, change (change cs) = change cs) : Settles (onText change) := by
  intro v out given
  cases v with
  | text s =>
      cases given
      rw [onText, String.toList_ofList, idempotent]
  | _ =>
      cases given
      rfl

def settling : List String := ["int", "string", "array", "bool", "usd", "kzt", "trim"]

theorem exists_settles : ∀ name ∈ settling, ∃ p, (name, p) ∈ standard ∧ Settles p := by
  have trim : Settles (onText Text.stripChars) := settles_onText fun _ => Text.trimmed_trimmed
  simp only [settling, List.forall_mem_cons]
  refine ⟨⟨_, ?_, settles_toInteger⟩, ⟨_, ?_, settles_toText⟩, ⟨_, ?_, settles_toList⟩,
    ⟨_, ?_, settles_toBool⟩, ⟨_, ?_, settles_currency '$'⟩, ⟨_, ?_, settles_currency '₸'⟩,
    ⟨_, ?_, trim⟩, List.forall_mem_nil _⟩
  all_goals simp [standard]

theorem splitChars_settling : ∀ name ∈ settling,
    Chain.splitChars name.toList = [name.toList] ∧
      Chain.splitChars (name ++ "." ++ name).toList = [name.toList, name.toList] := by
  decide +kernel

theorem inTurn_repeated {p : Processor} (settles : Settles p) {name : String} {v out : Value}
    (once : Chain.inTurn [(name, p)] v = .ok out) :
    Chain.inTurn [(name, p), (name, p)] v = .ok out := by
  obtain ⟨given, (first : p v = .ok given), last⟩ := bind_eq_ok.mp once
  obtain rfl := Except.ok.inj last
  have second : p given = .ok given := settles v given first
  simp [Chain.inTurn, first, second]

theorem run_repeated {processors : Registry Processor} (known : Known processors)
    (modifiers : Registry Modifier) {name : String} (listed : name ∈ settling) :
    ∃ once twice, Chain.compile (some name) processors modifiers = .ok once ∧
      Chain.compile (some (name ++ "." ++ name)) processors modifiers = .ok twice ∧
      ∀ v out, once.run v = .ok out → twice.run v = .ok out := by
  obtain ⟨p, standard, settles⟩ := exists_settles name listed
  obtain ⟨single, double⟩ := splitChars_settling name listed
  refine ⟨_, _, compile_standard known modifiers [(name, p)] (by simpa) single,
    compile_standard known modifiers [(name, p), (name, p)] (by simpa) double, ?_⟩
  intro v out
  rw [Chain.run_processors, Chain.run_processors]
  exact inTurn_repeated settles

theorem run_repeated_usd :
    let processors := (Registry.empty "processor").withAll standard
    Known processors ∧ "usd" ∈ settling ∧ ∃ twice,
      Chain.compile (some ("usd" ++ "." ++ "usd")) processors (Registry.empty "modifier") = .ok twice ∧
        twice.run (.tuple [.bool true, .null]) = .ok (.text "(True, None)$") := by
  intro processors
  have listed : "usd" ∈ settling := by decide
  obtain ⟨once, twice, compiled, repeated, settles⟩ :=
    run_repeated known_standard (Registry.empty "modifier") listed
  have single := compile_standard known_standard (Registry.empty "modifier") [("usd", currency '$')]
    (by simp [standard]) (splitChars_settling "usd" listed).1
  obtain rfl := Except.ok.inj (compiled.symm.trans single)
  have first : (Chain.mk (some "usd") (Chain.processorSteps [("usd", currency '$')])).run
      (.tuple [.bool true, .null]) = .ok (.text "(True, None)$") := by
    rw [Chain.run_processors]
    rfl
  exact ⟨known_standard, listed, twice, repeated, settles _ _ first⟩

end FieldMap.Processor
