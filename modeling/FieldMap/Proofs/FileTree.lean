import FieldMap.FileTree.Search
import FieldMap.Proofs.Outcome

/-!
Searching for declarations in trees of files and directories. What a search comes upon is a file, but
a name that leads somewhere is taken as it is, also where it leads to a directory. A search without a
result says that nothing is there, unless the name is no pattern or leads to names that are too long.
Main statement: `find_outcome`.
-/

namespace FieldMap
open Outcome

namespace Location

def IsTooLong (l : Location) : Prop :=
  (∃ name ∈ l.names, FileTree.nameLimit < name.utf8ByteSize) ∨
    FileTree.locationLimit < l.text.utf8ByteSize

structure IsWithin (l base : Location) : Prop where
  root : l.root = base.root
  names : base.names <+: l.names

namespace IsWithin

variable {l m base : Location}

theorem refl (l : Location) : l.IsWithin l := ⟨rfl, List.prefix_refl _⟩

theorem trans (inner : l.IsWithin m) (outer : m.IsWithin base) : l.IsWithin base :=
  ⟨inner.root.trans outer.root, outer.names.trans inner.names⟩

theorem child (l : Location) (name : String) : (l.child name).IsWithin l :=
  ⟨rfl, List.prefix_append _ _⟩

end IsWithin

end Location

namespace FileTree

variable {t : FileTree} {l found : Location}

theorem walk_eq_tooLong {names : List String} (walked : t.walk l names = .error .tooLong) :
    ∃ name ∈ names, nameLimit < name.utf8ByteSize := by
  induction names generalizing l with
  | nil => cases walked
  | cons name names ih =>
      rw [walk] at walked
      split at walked
      · split at walked
        · next long => exact ⟨name, List.mem_cons_self, long⟩
        · obtain ⟨other, member, long⟩ := ih walked
          exact ⟨other, List.mem_cons_of_mem name member, long⟩
      · cases walked
      · cases walked

theorem entry_eq_tooLong (refused : t.entry l = .error .tooLong) : l.IsTooLong := by
  rw [entry, bind_eq_error] at refused
  rcases refused with unresolved | ⟨place, -, nothing⟩
  · rw [resolve] at unresolved
    split at unresolved
    · cases unresolved
    · split at unresolved
      · next long => exact .inr long
      · exact .inl (walk_eq_tooLong unresolved)
  · split at nothing <;> cases nothing

def Refuses (l : Location) (fault : Fault) : Prop := l.IsTooLong ∧ fault = .nameTooLong l.text

theorem entry?_failsOnly (l : Location) : FailsOnly (Refuses l) (t.entry? l) := by
  unfold entry?
  split
  · exact .ok _
  · next refused => exact .error ⟨entry_eq_tooLong refused, rfl⟩
  · exact .ok _

theorem hasEntry_failsOnly (l : Location) : FailsOnly (Refuses l) (t.hasEntry l) :=
  (entry?_failsOnly l).map Option.isSome

theorem isDirectory_failsOnly (l : Location) : FailsOnly (Refuses l) (t.isDirectory l) :=
  (entry?_failsOnly l).bind fun _ => .ok _

theorem hasEntry_of_entry {entry : Entry} (there : t.entry l = .ok entry) : t.hasEntry l = .ok true := by
  rw [hasEntry, entry?, there, map_ok]
  rfl

theorem hasEntry_eq_true (there : t.hasEntry l = .ok true) : ∃ entry, t.entry l = .ok entry := by
  rw [hasEntry, entry?] at there
  split at there
  · next entry here => exact ⟨entry, here⟩
  · cases there
  · cases there

theorem isFile_of_entry {entry : Entry} (there : t.entry l = .ok entry) :
    t.isFile l = true ∨ t.entry l = .ok .directory := by
  cases entry with
  | file content => exact .inl (by rw [isFile, there])
  | directory => exact .inr there

theorem isWithin_of_mem_below (member : found ∈ t.below l) : found.IsWithin l := by
  rw [below] at member
  split at member
  · obtain ⟨name, -, rfl⟩ := List.mem_map.mp member
    exact .child l name
  · cases member

theorem isWithin_of_mem_directoriesTo {levels : Nat} (member : found ∈ t.directoriesTo levels l) :
    found.IsWithin l := by
  induction levels generalizing l with
  | zero => cases member
  | succ levels ih =>
      rw [directoriesTo] at member
      split at member
      · rcases List.mem_cons.mp member with rfl | deeper
        · exact .refl _
        · obtain ⟨inner, listed, inside⟩ := List.mem_flatMap.mp deeper
          exact (ih inside).trans (isWithin_of_mem_below listed)
      · cases member

def RefusesWithin (base : Location) (fault : Fault) : Prop :=
  ∃ l : Location, l.IsWithin base ∧ Refuses l fault

theorem RefusesWithin.outward {base : Location} (inner : l.IsWithin base) (fault : Fault) :
    RefusesWithin l fault → RefusesWithin base fault
  | ⟨place, within, refuses⟩ => ⟨place, within.trans inner, refuses⟩

theorem select_failsOnly (l : Location) (parts : List String) :
    FailsOnly (RefusesWithin l) (t.select l parts) := by
  induction parts generalizing l with
  | nil => exact .ok _
  | cons part parts ih =>
      have inner {found : Location} (within : found.IsWithin l) :
          FailsOnly (RefusesWithin l) (t.select found parts) :=
        (ih found).mono (RefusesWithin.outward within)
      rw [select]
      split
      · refine .bind (.mapM fun found member => ?_) fun _ => .ok _
        exact inner (isWithin_of_mem_directoriesTo member)
      · refine .bind (.mapM fun found member => ?_) fun _ => .ok _
        have within : found.IsWithin l := by
          split at member
          · exact isWithin_of_mem_below (List.mem_of_mem_filter member)
          · rw [List.mem_singleton.mp member]
            exact .child l part
        have refused (fault : Fault) (refuses : Refuses found fault) : RefusesWithin l fault :=
          ⟨found, within, refuses⟩
        have onward (there : Bool) : FailsOnly (RefusesWithin l)
            (if there then t.select found parts else pure []) := by
          split
          · exact inner within
          · exact .ok _
        split
        · exact .bind ((hasEntry_failsOnly found).mono refused) onward
        · exact .bind ((isDirectory_failsOnly found).mono refused) onward

def Garbled (pattern : String) : Prop :=
  ∃ part ∈ (Location.parse pattern).names, badPart part = true

theorem filesLike_failsOnly (base : Location) (pattern : String) :
    FailsOnly (fun fault => fault = .badPattern ∧ Garbled pattern ∨ RefusesWithin base fault)
      (t.filesLike base pattern) := by
  simp only [filesLike, throw_eq, error_bind]
  split
  · next garbled => exact .error (.inl ⟨rfl, List.any_eq_true.mp garbled⟩)
  · refine .bind ((isDirectory_failsOnly base).mono ?_) fun there => ?_
    · exact fun fault refuses => .inr ⟨base, .refl base, refuses⟩
    · split
      · exact .ok _
      · exact .bind ((select_failsOnly base _).mono fun _ => .inr) fun _ => .ok _

theorem filesLike_returnsOnly (base : Location) (pattern : String) :
    ReturnsOnly (fun files => ∀ l ∈ files, t.isFile l = true) (t.filesLike base pattern) := by
  have nothing : ∀ l ∈ ([] : List Location), t.isFile l = true := nofun
  simp only [filesLike, throw_eq, error_bind]
  split
  · exact .error _
  · refine .bind (.any _) fun there _ => ?_
    split
    · exact .ok nothing
    · exact .bind (.any _) fun found _ => .ok fun l member => List.of_mem_filter member

section Find

variable (t) (path base : String)

theorem find_of_entry {entry : Entry} (there : t.entry (.parse path) = .ok entry) :
    t.find path base = .ok (.parse path) := by
  simp [find, hasEntry_of_entry there]

theorem find_returnsOnly : ReturnsOnly
    (fun l => t.isFile l = true ∨ t.entry (.parse path) = .ok .directory) (t.find path base) := by
  simp only [find, throw_eq, error_bind]
  refine .bind (P := fun there => there = true → ∃ entry, t.entry (.parse path) = .ok entry) ?_ ?_
  · rintro there answered rfl
    exact hasEntry_eq_true answered
  · intro there known
    split
    · next here =>
        obtain ⟨entry, stands⟩ := known here
        exact .ok (isFile_of_entry stands)
    · split
      · exact .error _
      · refine .bind (.any _) fun started _ => ?_
        split
        · exact .error _
        · refine .bind (.mapM fun suffix _ => filesLike_returnsOnly _ _) fun found files => ?_
          split
          · next l rest first =>
              have member : l ∈ found.flatten := first ▸ List.mem_cons_self
              obtain ⟨list, listed, inside⟩ := List.mem_flatten.mp member
              exact .ok (.inl (files list listed l inside))
          · exact .error _

theorem find_failsOnly : FailsOnly (fun fault => fault.family = .missingFile ∨
    (fault = .badPattern ∧ ∃ suffix ∈ "" :: suffixes, Garbled (path ++ suffix)) ∨
    ∃ l : Location, (l = .parse path ∨ l.IsWithin (.parse base)) ∧ Refuses l fault)
    (t.find path base) := by
  simp only [find, throw_eq, error_bind]
  refine .bind ((hasEntry_failsOnly _).mono ?_) fun there => ?_
  · exact fun fault refuses => .inr (.inr ⟨_, .inl rfl, refuses⟩)
  · split
    · exact .ok _
    · split
      · exact .error (.inl rfl)
      · refine .bind ((hasEntry_failsOnly _).mono ?_) fun started => ?_
        · exact fun fault refuses => .inr (.inr ⟨_, .inr (.refl _), refuses⟩)
        · split
          · exact .error (.inl rfl)
          · refine .bind (.mapM fun suffix listed => ?_) fun found => ?_
            · refine (filesLike_failsOnly _ _).mono ?_
              rintro fault (⟨rfl, garbled⟩ | ⟨l, within, refuses⟩)
              · exact .inr (.inl ⟨rfl, suffix, listed, garbled⟩)
              · exact .inr (.inr ⟨l, .inr within, refuses⟩)
            · split
              · exact .ok _
              · exact .error (.inl rfl)

theorem find_outcome :
    (∀ entry, t.entry (.parse path) = .ok entry → t.find path base = .ok (.parse path)) ∧
    (t.entry (.parse path) ≠ .ok .directory →
      (∃ l, t.find path base = .ok l ∧ t.isFile l = true) ∨
      ∃ fault, t.find path base = .error fault ∧ (fault.family = .missingFile ∨
        (fault = .badPattern ∧ ∃ suffix ∈ "" :: suffixes, Garbled (path ++ suffix)) ∨
        ∃ l : Location, (l = .parse path ∨ l.IsWithin (.parse base)) ∧ Refuses l fault)) := by
  refine ⟨fun entry => find_of_entry t path base, fun elsewhere => ?_⟩
  cases found : t.find path base with
  | ok l => exact .inl ⟨l, rfl, (find_returnsOnly t path base l found).resolve_right elsewhere⟩
  | error fault => exact .inr ⟨fault, rfl, find_failsOnly t path base fault found⟩

end Find

def declarations : FileTree :=
  { FileTree.ofList [("flow/notes.txt", ""), ("flow.yml", ""), ("deep/user/notes.txt", ""),
      ("deep/user.yaml", "")] with
    bare := [.parse "deep/user.yml"] }

theorem find_outcome_declarations :
    declarations.entry (.parse "flow.yml") = .ok (.file "") ∧
      declarations.find "flow.yml" "deep" = .ok (.parse "flow.yml") ∧
      declarations.entry (.parse "user") ≠ .ok .directory ∧
      ∃ l, declarations.find "user" "deep" = .ok l ∧ declarations.isFile l = true ∧
        l = .parse "deep/user.yaml" := by
  have named : declarations.entry (.parse "flow.yml") = .ok (.file "") := rfl
  have elsewhere : declarations.entry (.parse "user") ≠ .ok .directory := nofun
  have found : declarations.find "user" "deep" = .ok (.parse "deep/user.yaml") :=
    toOption_eq_some.mp (by decide +kernel)
  refine ⟨named, (find_outcome declarations "flow.yml" "deep").1 _ named, elsewhere, ?_⟩
  rcases (find_outcome declarations "user" "deep").2 elsewhere with ⟨l, searched, file⟩ | ⟨fault, fails, -⟩
  · rw [found] at searched
    cases searched
    exact ⟨_, found, file, rfl⟩
  · rw [found] at fails
    cases fails

theorem find_directory_first :
    declarations.find "flow" "." = .ok (.parse "flow") ∧
      declarations.isFile (.parse "flow") = false ∧
      declarations.isFile (.parse "flow.yml") = true := by
  refine ⟨toOption_eq_some.mp ?_, ?_, ?_⟩
  all_goals decide +kernel

end FileTree

end FieldMap
