import FieldMap.Text.Blank
import Mathlib.Data.List.TakeDrop
import Mathlib.Data.List.Infix

/-!
Classes of characters. Lists that are apart from a class, runs of characters of one class that are
followed by something else, and texts that have no such run at their ends.
-/

namespace FieldMap.Text

section Apart

variable {α : Type} {p : α → Bool} {x : α} {xs ys : List α}

theorem eq_false_of_mem (member : x ∈ xs) (apart : xs.any p = false) : p x = false := by
  rw [List.any_eq_false] at apart
  exact Bool.eq_false_iff.mpr (apart x member)

theorem not_mem_of_class (holds : p x = true) (apart : xs.any p = false) : x ∉ xs := by
  intro member
  rw [eq_false_of_mem member apart] at holds
  contradiction

theorem not_mem_of_mem [BEq α] [LawfulBEq α] (member : x ∈ xs)
    (apart : ys.any (xs.contains ·) = false) : x ∉ ys :=
  not_mem_of_class (List.contains_iff_mem.mpr member) apart

end Apart

section Run

variable {α : Type} {p : α → Bool} {xs rest : List α}

theorem takeWhile_run (run : ∀ x ∈ xs, p x = true) (stop : ∀ x ∈ rest.head?, p x = false) :
    (xs ++ rest).takeWhile p = xs := by
  rw [List.takeWhile_append_of_pos run]
  cases rest with
  | nil => simp
  | cons x rest => simp [stop x rfl]

theorem dropWhile_run (run : ∀ x ∈ xs, p x = true) (stop : ∀ x ∈ rest.head?, p x = false) :
    (xs ++ rest).dropWhile p = rest := by
  rw [List.dropWhile_append_of_pos run]
  cases rest with
  | nil => rfl
  | cons x rest => simp [stop x rfl]

theorem span_run (run : ∀ x ∈ xs, p x = true) (stop : ∀ x ∈ rest.head?, p x = false) :
    (xs ++ rest).span p = (xs, rest) := by
  rw [List.span_eq_takeWhile_dropWhile, takeWhile_run run stop, dropWhile_run run stop]

theorem span_eq_self (run : ∀ x ∈ xs, p x = true) : xs.span p = (xs, []) := by
  have whole : (xs ++ []).span p = (xs, []) := span_run run nofun
  rwa [List.append_nil] at whole

theorem dropWhile_eq_self (first : ∀ x ∈ xs.head?, p x = false) : xs.dropWhile p = xs :=
  dropWhile_run (List.forall_mem_nil _) first

theorem reverse_dropWhile_eq_self (last : ∀ x ∈ xs.getLast?, p x = false) :
    xs.reverse.dropWhile p = xs.reverse := by
  apply dropWhile_eq_self
  rw [List.head?_reverse]
  exact last

theorem trimmed_eq_self (first : ∀ x ∈ xs.head?, p x = false)
    (last : ∀ x ∈ xs.getLast?, p x = false) : trimmed p xs = xs := by
  rw [trimmed, dropWhile_eq_self first, reverse_dropWhile_eq_self last, List.reverse_reverse]

theorem holds_of_mem_takeWhile {x : α} (member : x ∈ xs.takeWhile p) : p x = true :=
  List.all_eq_true.mp List.all_takeWhile x member

theorem exists_append_trimmed (p : α → Bool) (xs : List α) :
    ∃ front back, xs = front ++ trimmed p xs ++ back ∧ (∀ x ∈ front, p x = true) ∧
      ∀ x ∈ back, p x = true := by
  refine ⟨xs.takeWhile p, ((xs.dropWhile p).reverse.takeWhile p).reverse, ?_,
    fun x => holds_of_mem_takeWhile, ?_⟩
  · rw [trimmed, List.append_assoc, ← List.reverse_append, List.takeWhile_append_dropWhile,
      List.reverse_reverse, List.takeWhile_append_dropWhile]
  · intro x member
    exact holds_of_mem_takeWhile (List.mem_reverse.mp member)

theorem head_dropWhile : ∀ x ∈ (xs.dropWhile p).head?, p x = false := by
  intro x first
  have stopped := List.head?_dropWhile_not p xs
  rw [Option.mem_def.mp first] at stopped
  exact stopped

theorem head_trimmed : ∀ x ∈ (trimmed p xs).head?, p x = false := by
  intro x first
  obtain ⟨rest, split⟩ : trimmed p xs <+: xs.dropWhile p := by
    have back : (xs.dropWhile p).reverse.dropWhile p <:+ (xs.dropWhile p).reverse :=
      List.dropWhile_suffix p
    rwa [← List.reverse_prefix, List.reverse_reverse] at back
  apply head_dropWhile x
  rw [← split, List.head?_append, Option.mem_def.mp first]
  rfl

theorem last_trimmed : ∀ x ∈ (trimmed p xs).getLast?, p x = false := by
  rw [trimmed, List.getLast?_reverse]
  exact head_dropWhile

theorem trimmed_trimmed : trimmed p (trimmed p xs) = trimmed p xs :=
  trimmed_eq_self head_trimmed last_trimmed

theorem trimmed_infix (p : α → Bool) (xs : List α) : trimmed p xs <:+: xs := by
  obtain ⟨front, back, split, -⟩ := exists_append_trimmed p xs
  exact ⟨front, back, split.symm⟩

end Run

theorem stripChars_eq_self {cs : List Char} (first : ∀ c ∈ cs.head?, isBlank c = false)
    (last : ∀ c ∈ cs.getLast?, isBlank c = false) : stripChars cs = cs :=
  trimmed_eq_self first last

/-- Decided along the text. The library also decides statements on all characters, by going over all
of them. -/
instance decidableForallMem {p : Char → Prop} [DecidablePred p] (cs : List Char) :
    Decidable (∀ c ∈ cs, p c) :=
  List.decidableBAll p cs

instance decidableForallMemOption {p : Char → Prop} [DecidablePred p] (c? : Option Char) :
    Decidable (∀ c ∈ c?, p c) :=
  Option.decidableForallMem c?

structure Solid (cs : List Char) : Prop where
  nonempty : cs ≠ []
  first : ∀ c ∈ cs.head?, isBlank c = false
  last : ∀ c ∈ cs.getLast?, isBlank c = false

namespace Solid

variable {cs ds : List Char}

theorem stripChars_eq (solid : Solid cs) : stripChars cs = cs :=
  stripChars_eq_self solid.first solid.last

theorem stripChars_append_blank (solid : Solid cs) {c : Char} (blank : isBlank c = true) :
    stripChars (cs ++ [c]) = cs := by
  have kept : (cs ++ [c]).dropWhile isBlank = cs ++ [c] := by
    apply dropWhile_eq_self
    rw [List.head?_append_of_ne_nil _ solid.nonempty]
    exact solid.first
  rw [stripChars, trimmed, kept, List.reverse_concat, List.dropWhile_cons_of_pos blank,
    reverse_dropWhile_eq_self solid.last, List.reverse_reverse]

theorem append (solid : Solid cs) (middle : List Char) (other : Solid ds) :
    Solid (cs ++ middle ++ ds) where
  nonempty := by simp [solid.nonempty]
  first := by
    rw [List.append_assoc, List.head?_append_of_ne_nil _ solid.nonempty]
    exact solid.first
  last := by
    rw [List.getLast?_append_of_ne_nil _ other.nonempty]
    exact other.last

end Solid

end FieldMap.Text
