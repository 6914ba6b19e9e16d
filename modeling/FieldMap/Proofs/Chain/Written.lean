import FieldMap.Proofs.Chain.Balance
import FieldMap.Proofs.Chain.Composition
import FieldMap.Proofs.Text.Cut

/-!
Chains that are written out. The names of processors and modifiers and the JSON texts of parameters
are joined with dots; compiling the spec gives the same steps again, each bound to what is registered
under its name.
-/

namespace FieldMap.Chain
open Outcome

section Modifier

variable {name parameters : List Char} (uncut : ':' ∉ name) (origin : String)
  (processors : Registry Processor) (modifiers : Registry Modifier)
include uncut

theorem compileStep_modifier {v : Value} (read : Json.readChars parameters = .ok v) :
    compileStep origin processors modifiers (name ++ ':' :: parameters) =
      .ok (.modifier (String.ofList name) v (modifiers.get? (String.ofList name))) := by
  rw [compileStep, Text.cutAt?_append uncut]
  simp only [read]

theorem compileStep_exceeded {fault : Fault} (read : Json.readChars parameters = .error (.exceeded fault)) :
    compileStep origin processors modifiers (name ++ ':' :: parameters) = .error fault := by
  rw [compileStep, Text.cutAt?_append uncut]
  simp only [read]

end Modifier

structure Name where
  text : String
  nonempty : text ≠ ""
  plain : ∀ c ∈ text.toList, c ∉ ':' :: marks
  first : ∀ c ∈ text.toList.head?, Text.isBlank c = false
  last : ∀ c ∈ text.toList.getLast?, Text.isBlank c = false

namespace Name

variable (name : Name)

theorem toList_ne_nil : name.text.toList ≠ [] := by
  simpa using name.nonempty

theorem uncut : ':' ∉ name.text.toList :=
  fun member => name.plain ':' member List.mem_cons_self

theorem balanced : Balanced name.text.toList :=
  .of_plain fun c member => List.not_mem_of_not_mem_cons (name.plain c member)

end Name

inductive Item (levels : Nat) where
  | processor (name : Name)
  | modifier (name : Name) (parameters : Value) (fits : Json.Fits levels parameters)

namespace Item

variable {levels : Nat}

def write (standIn : Value → Except Fault Value) : Item levels → Except Fault String
  | processor name => .ok name.text
  | modifier name parameters _ => return name.text ++ ":" ++ (← Json.write .inline standIn parameters)

def step (processors : Registry Processor) (modifiers : Registry Modifier) : Item levels → Step
  | processor name => .processor name.text (processors.get? name.text)
  | modifier name parameters _ => .modifier name.text parameters (modifiers.get? name.text)

def form : Item levels → List Char
  | processor name => name.text.toList
  | modifier name parameters _ => name.text.toList ++ ':' :: Json.form parameters

theorem write_form (standIn : Value → Except Fault Value) (item : Item levels) :
    item.write standIn = .ok (String.ofList item.form) := by
  cases item with
  | processor name => simp [write, form]
  | modifier name parameters fits =>
      have text : name.text ++ ":" ++ String.ofList (Json.form parameters) =
          String.ofList (name.text.toList ++ ':' :: Json.form parameters) := by
        apply String.toList_injective
        simp
      rw [write, Json.write_form fits, form, ← text]
      rfl

theorem form_ne_nil (item : Item levels) : item.form ≠ [] := by
  cases item with
  | processor name => exact name.toList_ne_nil
  | modifier name parameters fits => simp [form]

theorem stripChars_form (item : Item levels) : Text.stripChars item.form = item.form := by
  cases item with
  | processor name => exact Text.stripChars_eq_self name.first name.last
  | modifier name parameters fits =>
      apply Text.stripChars_eq_self
      · rw [form, List.head?_append_of_ne_nil _ name.toList_ne_nil]
        exact name.first
      · obtain ⟨c, cs, text, -⟩ := Json.form_head fits
        have last := Json.form_last fits
        rw [text] at last
        rw [form, text, List.getLast?_append_of_ne_nil _ (by simp), List.getLast?_cons_cons]
        exact last

theorem balanced_form (item : Item levels) : Balanced item.form := by
  cases item with
  | processor name => exact name.balanced
  | modifier name parameters fits =>
      have colon : Balanced [':'] := .of_apart (by decide)
      exact name.balanced.append (colon.append (.form fits))

theorem compileStep_form (origin : String) (processors : Registry Processor)
    (modifiers : Registry Modifier) (item : Item Json.levelLimit) :
    compileStep origin processors modifiers item.form = .ok (item.step processors modifiers) := by
  cases item with
  | processor name =>
      rw [compileStep, form, Text.cutAt?_of_not_mem name.uncut]
      simp [step]
  | modifier name parameters fits =>
      rw [form, compileStep_modifier name.uncut _ _ _ (Json.readChars_form fits), step,
        String.ofList_toList]

end Item

theorem pieces_joined {texts : List (List Char)} (nonempty : texts ≠ [])
    (balanced : ∀ text ∈ texts, Balanced text) :
    pieces .start (['.'].intercalate texts) = texts := by
  induction texts with
  | nil => contradiction
  | cons text texts ih =>
      have here := balanced text List.mem_cons_self 0
      cases texts with
      | nil =>
          have alone := here []
          rw [List.append_nil] at alone
          rw [List.intercalate_singleton]
          exact alone.trans (by simp [pieces])
      | cons next texts =>
          have later := ih (List.cons_ne_nil next texts)
            fun other member => balanced other (List.mem_cons_of_mem text member)
          rw [List.intercalate_cons_cons, List.append_assoc, List.singleton_append]
          refine (here _).trans ?_
          rw [pieces_dot rfl, List.modifyHead_cons, List.append_nil]
          exact congrArg (text :: ·) later

section Items

variable {levels : Nat}

def write (standIn : Value → Except Fault Value) (items : List (Item levels)) : Except Fault String :=
  return ".".intercalate (← items.mapM (Item.write standIn))

theorem write_eq_ok (standIn : Value → Except Fault Value) (items : List (Item levels)) :
    ∃ spec, write standIn items = .ok spec ∧
      spec.toList = ['.'].intercalate (items.map Item.form) := by
  have texts := mapM_eq_ok_map fun item (_ : item ∈ items) => Item.write_form standIn item
  refine ⟨_, by rw [write, texts]; rfl, ?_⟩
  rw [String.toList_intercalate, List.map_map]
  simp [Function.comp_def]

theorem splitChars_joined (items : List (Item levels)) :
    splitChars (['.'].intercalate (items.map Item.form)) = items.map Item.form := by
  cases items with
  | nil => rfl
  | cons item items =>
      have balanced : ∀ text ∈ (item :: items).map Item.form, Balanced text :=
        List.forall_mem_map.mpr fun other _ => other.balanced_form
      have cut := pieces_joined (List.cons_ne_nil item.form (items.map Item.form)) balanced
      have stripped : ((item :: items).map Item.form).map Text.stripChars =
          (item :: items).map Item.form := by
        simp [Function.comp_def, Item.stripChars_form]
      rw [splitChars, List.map_cons, cut, ← List.map_cons, stripped, List.filter_eq_self]
      exact List.forall_mem_map.mpr fun other _ => by simp [other.form_ne_nil]

end Items

theorem compile_written (items : List (Item Json.levelLimit)) (standIn : Value → Except Fault Value)
    (processors : Registry Processor) (modifiers : Registry Modifier) :
    ∃ spec, write standIn items = .ok spec ∧ compile (some spec) processors modifiers =
      .ok ⟨some spec, items.map (Item.step processors modifiers)⟩ := by
  obtain ⟨spec, written, text⟩ := write_eq_ok standIn items
  refine ⟨spec, written, ?_⟩
  rw [compile_eq_ok, text, stepsOf, splitChars_joined, List.mapM_map]
  exact ⟨mapM_eq_ok_map fun item _ => Item.compileStep_form "" processors modifiers item, rfl⟩

def nested : Nat → Value
  | 0 => .list []
  | depth + 1 => .list [nested depth]

theorem fits_nested (depth : Nat) : Json.Fits (depth + 1) (nested depth) := by
  induction depth with
  | zero => exact .list nofun
  | succ depth ih =>
      apply Json.Fits.list
      rintro item member
      rw [List.mem_singleton.mp member]
      exact ih

theorem form_nested (depth : Nat) :
    Json.form (nested (depth + 1)) = '[' :: Json.form (nested depth) ++ [']'] := by
  simp [nested, Json.form, Json.itemForms, Json.separated_singleton]

theorem length_nested (depth : Nat) : depth ≤ (Json.form (nested depth)).length := by
  induction depth with
  | zero => exact Nat.zero_le _
  | succ depth ih =>
      rw [form_nested, List.length_append, List.length_cons]
      omega

def depthFault : Fault := .tooDeep "decoding a JSON array from a unicode string"

theorem value_nested {levels depth fuel : Nat} (deep : levels ≤ depth) (enough : 2 * levels < fuel)
    (rest : List Char) :
    Json.value levels fuel (Json.form (nested depth) ++ rest) = .error (.exceeded depthFault) := by
  -- Each level takes two of the fuel, one for the list and one for its items.
  induction levels generalizing depth fuel rest with
  | zero =>
      obtain ⟨fuel, rfl⟩ : ∃ left, fuel = left + 1 := ⟨fuel - 1, by omega⟩
      cases depth <;> rfl
  | succ levels ih =>
      obtain ⟨fuel, rfl⟩ : ∃ left, fuel = left + 2 := ⟨fuel - 2, by omega⟩
      obtain ⟨depth, rfl⟩ : ∃ inner, depth = inner + 1 := ⟨depth - 1, by omega⟩
      have inner : levels ≤ depth := by omega
      have left : 2 * levels < fuel := by omega
      have inside := ih inner left (']' :: rest)
      have solid := Json.skipSpace_form (fits_nested depth) (']' :: rest)
      obtain ⟨c, cs, text, -, apart⟩ := Json.form_head (fits_nested depth)
      have item : c ≠ ']' := List.ne_of_not_mem_cons apart
      rw [text, List.cons_append] at inside solid
      simp [form_nested, text, Json.value, Json.items, solid, item, inside]

theorem readChars_nested {depth : Nat} (deep : Json.levelLimit ≤ depth) :
    Json.readChars (Json.form (nested depth)) = .error (.exceeded depthFault) := by
  have long := length_nested depth
  have enough : 2 * Json.levelLimit < 2 * (Json.form (nested depth)).length + 2 := by omega
  have read := value_nested deep enough []
  obtain ⟨c, cs, text, solid, apart⟩ := Json.form_head (fits_nested depth)
  have unmarked : c ≠ '\ufeff' := List.ne_of_not_mem_cons (List.not_mem_of_not_mem_cons apart)
  rw [text, List.append_nil] at read
  rw [text]
  exact Json.readChars_eq_error solid unmarked read

theorem compile_nested (name : Name) {depth : Nat} (deep : Json.levelLimit ≤ depth)
    (standIn : Value → Except Fault Value) (processors : Registry Processor)
    (modifiers : Registry Modifier) :
    ∃ spec, write standIn [.modifier name (nested depth) (fits_nested depth)] = .ok spec ∧
      compile (some spec) processors modifiers = .error depthFault := by
  obtain ⟨spec, written, text⟩ := write_eq_ok standIn [.modifier name (nested depth) (fits_nested depth)]
  refine ⟨spec, written, ?_⟩
  have step : compileStep spec processors modifiers
      (Item.form (.modifier name (nested depth) (fits_nested depth))) = .error depthFault :=
    compileStep_exceeded name.uncut _ _ _ (readChars_nested deep)
  rw [compile, Option.getD_some, text, splitChars_joined]
  simp [step]

def skipName : Name where
  text := "skip"
  nonempty := by decide
  plain _ member := Text.not_mem_of_mem member (by decide +kernel)
  first := by
    rintro c ⟨⟩
    decide
  last := by
    rintro c ⟨⟩
    decide

def halves : Value := .text (String.ofList [Text.ofCode 0xd83d, Text.ofCode 0xde00])

def joinedHalves : Value := .text (String.ofList (Text.ofPair 0xd83d 0xde00))

theorem halves_ne_joined : halves ≠ joinedHalves := by
  intro same
  have texts := String.ofList_injective (Value.text.inj same)
  exact absurd (congrArg List.length texts) (by decide +kernel)

def halvesForm : List Char :=
  '"' :: (Json.escapedUnits 0xd83d ++ Json.escapedUnits 0xde00 ++ ['"'])

theorem readChars_halves : Json.readChars halvesForm = .ok joinedHalves := by
  have isHigh : Text.isHighSurrogate 0xd83d = true := by decide
  have isLow : Text.isLowSurrogate 0xde00 = true := by decide
  have body (opening : Nat) := Json.stringBody_halves isHigh isLow opening []
  apply Json.readChars_eq_ok (by decide) (by decide)
  simp only [List.append_assoc] at body
  simp [Json.value, body, joinedHalves]

theorem compile_halves (processors : Registry Processor) (modifiers : Registry Modifier) :
    ∃ text, Json.write .inline .ok halves = .ok text ∧
      compile (some ("skip:" ++ text)) processors modifiers =
        .ok ⟨some ("skip:" ++ text), [.modifier "skip" joinedHalves (modifiers.get? "skip")]⟩ := by
  have written : '"' :: [Text.ofCode 0xd83d, Text.ofCode 0xde00].flatMap Json.escapedChar ++ ['"'] =
      halvesForm := by decide +kernel
  have text : Json.write .inline .ok halves = .ok (String.ofList halvesForm) := by
    rw [← written, ← String.toList_ofList (l := [Text.ofCode 0xd83d, Text.ofCode 0xde00])]
    rfl
  refine ⟨_, text, ?_⟩
  have spec : ("skip:" ++ String.ofList halvesForm).toList =
      ['s', 'k', 'i', 'p'] ++ ':' :: halvesForm := by simp
  have pieces : splitChars (['s', 'k', 'i', 'p'] ++ ':' :: halvesForm) =
      [['s', 'k', 'i', 'p'] ++ ':' :: halvesForm] := by decide +kernel
  have uncut : ':' ∉ ['s', 'k', 'i', 'p'] := by decide
  rw [compile, Option.getD_some, spec, pieces, List.mapM_cons,
    compileStep_modifier uncut _ _ _ readChars_halves]
  rfl

/-- Lists that are nested one level deeper than the reader follows, and two halves that it joins. -/
theorem compile_written_beyond :
    (∃ spec, write .ok [.modifier skipName (nested Json.levelLimit) (fits_nested _)] = .ok spec ∧
      compile (some spec) (.empty "processor") (.empty "modifier") = .error depthFault) ∧
    ∃ text, Json.write .inline .ok halves = .ok text ∧
      compile (some ("skip:" ++ text)) (.empty "processor") (.empty "modifier") =
        .ok ⟨some ("skip:" ++ text), [.modifier "skip" joinedHalves none]⟩ ∧
      halves ≠ joinedHalves := by
  obtain ⟨text, written, compiled⟩ := compile_halves (.empty "processor") (.empty "modifier")
  exact ⟨compile_nested skipName (Nat.le_refl _) _ _ _, text, written, compiled, halves_ne_joined⟩

end FieldMap.Chain
