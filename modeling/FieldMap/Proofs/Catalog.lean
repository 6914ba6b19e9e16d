import FieldMap.Catalog
import Mathlib.Data.List.Basic
import Mathlib.Data.List.Induction

/-!
What catalogs hold. A name stands for the last thing that was put under it, and the names keep the
order in which they were first put.
-/

namespace FieldMap.Catalog

universe u

variable {α : Type u}

theorem lookup_cons_eq (key head : String) (a : α) (rest : List (String × α)) :
    ((head, a) :: rest).lookup key = if key = head then some a else rest.lookup key := by
  by_cases same : key = head
  · simp [same]
  · have differ : (key == head) = false := beq_eq_false_iff_ne.mpr same
    simp [List.lookup_cons, differ, same]

theorem lookup_putEntry (name key : String) (a : α) (entries : List (String × α)) :
    (putEntry name a entries).lookup key =
      if key = name then some a else entries.lookup key := by
  induction entries with
  | nil => rw [putEntry, lookup_cons_eq]
  | cons entry rest ih =>
      obtain ⟨head, b⟩ := entry
      by_cases here : head = name
      · subst here
        simp only [putEntry, if_true, lookup_cons_eq]
        split <;> rfl
      · simp only [putEntry, here, if_false, lookup_cons_eq, ih]
        by_cases same : key = head
        · have other : key ≠ name := fun e => here (same.symm.trans e)
          simp [same, here]
        · simp [same]

theorem get?_put (c : Catalog α) (name key : String) (a : α) :
    (c.put name a).get? key = if key = name then some a else c.get? key :=
  lookup_putEntry name key a c.entries

theorem putEntry_putEntry (name : String) (a b : α) (entries : List (String × α)) :
    putEntry name b (putEntry name a entries) = putEntry name b entries := by
  induction entries with
  | nil => simp [putEntry]
  | cons entry rest ih =>
      by_cases here : entry.1 = name
      · simp [putEntry, here]
      · simp [putEntry, here, ih]

theorem put_put (c : Catalog α) (name : String) (a b : α) : (c.put name a).put name b = c.put name b := by
  simp only [put, putEntry_putEntry]

theorem names_put (c : Catalog α) (name : String) (a : α) :
    (c.put name a).names = if name ∈ c.names then c.names else c.names ++ [name] :=
  names_putEntry name a c.entries

theorem mem_names {c : Catalog α} {name : String} :
    name ∈ c.names ↔ ∃ a, c.get? name = some a := by
  unfold names get?
  induction c.entries with
  | nil => simp
  | cons entry rest ih =>
      obtain ⟨head, b⟩ := entry
      rw [List.map_cons, List.mem_cons, ih, lookup_cons_eq]
      by_cases same : name = head <;> simp [same]

theorem mem_of_get? {c : Catalog α} {name : String} {a : α} (stands : c.get? name = some a) :
    (name, a) ∈ c.entries := by
  obtain ⟨before, after, split, -⟩ := List.lookup_eq_some_iff.mp stands
  rw [split]
  exact List.mem_append_right before List.mem_cons_self

theorem isEmpty_of_mem {c : Catalog α} {entry : String × α} (member : entry ∈ c.entries) :
    c.isEmpty = false :=
  List.isEmpty_eq_false_iff.mpr (List.ne_nil_of_mem member)

def map {β : Type u} (f : α → β) (c : Catalog α) : Catalog β where
  entries := c.entries.map fun entry => (entry.1, f entry.2)
  distinct := by simpa only [List.map_map, Function.comp_def] using c.distinct

theorem names_map {β : Type u} (f : α → β) (c : Catalog α) : (c.map f).names = c.names := by
  simp only [names, map, List.map_map, Function.comp_def]

theorem get?_map {β : Type u} (f : α → β) (c : Catalog α) (name : String) :
    (c.map f).get? name = (c.get? name).map f := by
  simp only [get?, map]
  induction c.entries with
  | nil => rfl
  | cons entry rest ih =>
      rw [List.map_cons, lookup_cons_eq, lookup_cons_eq, ih]
      split <;> rfl

theorem ofList_append_singleton (entries : List (String × α)) (name : String) (a : α) :
    ofList (entries ++ [(name, a)]) = (ofList entries).put name a :=
  List.foldl_append

-- Putting the last entry changes nothing about the names before it, hence the induction from the end.
theorem names_ofList (entries : List (String × α)) :
    (ofList entries).names = (entries.map Prod.fst).eraseDups := by
  induction entries using List.reverseRecOn with
  | nil => rfl
  | append_singleton entries entry ih =>
      obtain ⟨name, a⟩ := entry
      rw [ofList_append_singleton, names_put, ih, List.map_append, List.eraseDups_append]
      by_cases known : name ∈ entries.map Prod.fst
      · simp [known, List.mem_eraseDups, List.removeAll]
      · simp [known, List.mem_eraseDups, List.removeAll, List.eraseDups_cons]

theorem get?_ofList (entries : List (String × α)) (name : String) :
    (ofList entries).get? name = entries.reverse.lookup name := by
  induction entries using List.reverseRecOn with
  | nil => rfl
  | append_singleton entries entry ih =>
      obtain ⟨last, a⟩ := entry
      rw [ofList_append_singleton, get?_put, ih, List.reverse_concat, lookup_cons_eq]

theorem get?_ofList_eq_some {entries : List (String × α)} {name : String} {a : α} :
    (ofList entries).get? name = some a ↔
      ∃ before after, entries = before ++ (name, a) :: after ∧ name ∉ after.map Prod.fst := by
  rw [get?_ofList, List.lookup_eq_some_iff]
  constructor
  · rintro ⟨after, before, split, absent⟩
    refine ⟨before.reverse, after.reverse, ?_, ?_⟩
    · rw [← List.reverse_reverse entries, split]
      simp
    · intro member
      obtain ⟨entry, inside, rfl⟩ := List.mem_map.mp member
      simpa using absent entry (List.mem_reverse.mp inside)
  · rintro ⟨before, after, rfl, absent⟩
    refine ⟨after.reverse, before.reverse, by simp, ?_⟩
    intro entry inside
    have differ : name ≠ entry.1 := by
      rintro rfl
      exact absent (List.mem_map_of_mem (List.mem_reverse.mp inside))
    simpa using differ

theorem names_nodup (c : Catalog α) : c.names.Nodup := c.distinct

theorem get?_of_mem {c : Catalog α} {name : String} {a : α} (member : (name, a) ∈ c.entries) :
    c.get? name = some a := by
  obtain ⟨before, after, split⟩ := List.append_of_mem member
  have distinct := c.distinct
  rw [split, List.map_append, List.nodup_append] at distinct
  have absent : ∀ entry ∈ before, (name == entry.1) = false := by
    intro entry earlier
    have differ := distinct.2.2 entry.1 (List.mem_map_of_mem earlier) name List.mem_cons_self
    exact beq_eq_false_iff_ne.mpr differ.symm
  exact List.lookup_eq_some_iff.mpr ⟨before, after, split, by simpa using absent⟩

theorem get?_eq_some_iff {c : Catalog α} {name : String} {a : α} :
    c.get? name = some a ↔ (name, a) ∈ c.entries :=
  ⟨mem_of_get?, get?_of_mem⟩

theorem get?_eq_of_perm {c d : Catalog α} (perm : c.entries.Perm d.entries) (name : String) :
    c.get? name = d.get? name := by
  apply Option.ext
  intro a
  rw [get?_eq_some_iff, get?_eq_some_iff, perm.mem_iff]

theorem putEntry_of_absent {name : String} {entries : List (String × α)}
    (absent : name ∉ entries.map Prod.fst) (a : α) :
    putEntry name a entries = entries ++ [(name, a)] := by
  induction entries with
  | nil => rfl
  | cons entry rest ih =>
      simp only [List.map_cons, List.mem_cons, not_or] at absent
      have differ : entry.1 ≠ name := fun same => absent.1 same.symm
      simp only [putEntry, differ, if_false, ih absent.2, List.cons_append]

theorem entries_ofList {entries : List (String × α)} (distinct : (entries.map Prod.fst).Nodup) :
    (ofList entries).entries = entries := by
  induction entries using List.reverseRecOn with
  | nil => rfl
  | append_singleton entries entry ih =>
      obtain ⟨name, a⟩ := entry
      rw [List.map_append, List.nodup_append] at distinct
      have absent : name ∉ entries.map Prod.fst :=
        fun member => distinct.2.2 name member name List.mem_cons_self rfl
      have entriesOf : (ofList (entries ++ [(name, a)])).entries = putEntry name a entries := by
        rw [ofList_append_singleton]
        exact congrArg (putEntry name a) (ih distinct.1)
      rw [entriesOf, putEntry_of_absent absent]

theorem ofList_entries (c : Catalog α) : ofList c.entries = c := by
  have same := entries_ofList c.distinct
  generalize ofList c.entries = d at same
  cases c
  cases d
  cases same
  rfl

theorem merge_eq_ofList (c overlay : Catalog α) :
    c.merge overlay = ofList (c.entries ++ overlay.entries) := by
  have below : (ofList (c.entries ++ overlay.entries)) = (ofList c.entries).putAll overlay.entries :=
    List.foldl_append
  rw [below, ofList_entries, merge]

theorem get?_merge (c overlay : Catalog α) (name : String) :
    (c.merge overlay).get? name = (overlay.get? name).or (c.get? name) := by
  rw [merge_eq_ofList, get?_ofList, List.reverse_append, List.lookup_append, ← get?_ofList,
    ← get?_ofList, ofList_entries, ofList_entries]

theorem get?_putAll_of_perm {entries entries' : List (String × α)}
    (distinct : (entries.map Prod.fst).Nodup) (perm : entries.Perm entries') (c : Catalog α)
    (name : String) : (c.putAll entries).get? name = (c.putAll entries').get? name := by
  have distinct' : (entries'.map Prod.fst).Nodup := (perm.map Prod.fst).nodup_iff.mp distinct
  have same := get?_eq_of_perm (c := ⟨entries, distinct⟩) (d := ⟨entries', distinct'⟩) perm name
  have put := get?_merge c ⟨entries, distinct⟩ name
  have put' := get?_merge c ⟨entries', distinct'⟩ name
  rw [same, ← put'] at put
  exact put

theorem get?_putAll_of_mem {entries : List (String × α)} (distinct : (entries.map Prod.fst).Nodup)
    (c : Catalog α) {name : String} {a : α} (member : (name, a) ∈ entries) :
    (c.putAll entries).get? name = some a := by
  have put := get?_merge c ⟨entries, distinct⟩ name
  rw [get?_of_mem (c := ⟨entries, distinct⟩) member, Option.some_or] at put
  exact put

theorem eraseDups_of_nodup {names : List String} (distinct : names.Nodup) :
    names.eraseDups = names := by
  induction names with
  | nil => rfl
  | cons name rest ih =>
      rw [List.nodup_cons] at distinct
      have kept : rest.filter (fun other => !other == name) = rest := by
        rw [List.filter_eq_self]
        intro other member
        have differ : other ≠ name := fun same => distinct.1 (same ▸ member)
        simpa using differ
      rw [List.eraseDups_cons, kept, ih distinct.2]

theorem names_merge (c overlay : Catalog α) :
    (c.merge overlay).names = c.names ++ overlay.names.filter fun name => !c.names.contains name := by
  have rest : (overlay.names.filter fun name => !c.names.contains name).Nodup :=
    overlay.names_nodup.filter _
  rw [merge_eq_ofList, names_ofList, List.map_append, List.eraseDups_append, List.removeAll]
  simp only [List.elem_eq_contains]
  rw [← names, ← names, eraseDups_of_nodup c.names_nodup, eraseDups_of_nodup rest]

theorem mem_names_merge {c overlay : Catalog α} {name : String} :
    name ∈ (c.merge overlay).names ↔ name ∈ c.names ∨ name ∈ overlay.names := by
  by_cases below : name ∈ c.names <;> simp [names_merge, below]

theorem findRev?_names_merge (c overlay : Catalog α) (p : String → Bool) :
    (c.merge overlay).names.findRev? p =
      ((overlay.names.filter fun name => !c.names.contains name).findRev? p).or
        (c.names.findRev? p) := by
  simp only [names_merge, List.findRev?_eq_find?_reverse, List.reverse_append, List.find?_append]

def layered (layers : List (Catalog α)) : Catalog α := layers.foldl merge ∅

theorem layered_append_singleton (layers : List (Catalog α)) (layer : Catalog α) :
    layered (layers ++ [layer]) = (layered layers).merge layer :=
  List.foldl_append

theorem layered_eq_ofList (layers : List (Catalog α)) :
    layered layers = ofList (layers.flatMap entries) := by
  induction layers using List.reverseRecOn with
  | nil => rfl
  | append_singleton layers layer ih =>
      rw [layered_append_singleton, ih, List.flatMap_append, List.flatMap_singleton, ofList, ofList,
        merge, putAll, putAll, putAll, List.foldl_append]

theorem names_layered (layers : List (Catalog α)) :
    (layered layers).names = (layers.flatMap names).eraseDups := by
  rw [layered_eq_ofList, names_ofList, List.map_flatMap]
  rfl

theorem get?_layered (layers : List (Catalog α)) (name : String) :
    (layered layers).get? name = layers.reverse.findSome? fun layer => layer.get? name := by
  induction layers using List.reverseRecOn with
  | nil => rfl
  | append_singleton layers layer ih =>
      rw [layered_append_singleton, get?_merge, ih, List.reverse_concat, List.findSome?_cons]
      cases layer.get? name <;> rfl

theorem get?_layered_eq_some {layers : List (Catalog α)} {name : String} {a : α} :
    (layered layers).get? name = some a ↔ ∃ before layer after, layers = before ++ layer :: after ∧
      layer.get? name = some a ∧ ∀ later ∈ after, later.get? name = none := by
  rw [get?_layered, List.findSome?_eq_some_iff]
  constructor
  · rintro ⟨after, layer, before, split, here, absent⟩
    refine ⟨before.reverse, layer, after.reverse, ?_, here, ?_⟩
    · rw [← List.reverse_reverse layers, split]
      simp
    · exact fun later member => absent later (List.mem_reverse.mp member)
  · rintro ⟨before, layer, after, rfl, here, absent⟩
    refine ⟨after.reverse, layer, before.reverse, by simp, here, ?_⟩
    exact fun later member => absent later (List.mem_reverse.mp member)

theorem entries_eq_filterMap (c : Catalog α) :
    c.entries = c.names.filterMap fun name => (c.get? name).map (name, ·) := by
  have each : ∀ entry ∈ c.entries, (c.get? entry.1).map (entry.1, ·) = some entry := by
    rintro ⟨name, a⟩ member
    rw [get?_of_mem member]
    rfl
  rw [names, List.filterMap_map]
  calc c.entries
    _ = c.entries.filterMap some := List.filterMap_some.symm
    _ = _ := List.filterMap_congr fun entry member => (each entry member).symm

theorem ext_of_names {c d : Catalog α} (names : c.names = d.names)
    (stands : ∀ name ∈ c.names, c.get? name = d.get? name) : c = d := by
  have same : c.entries = d.entries := by
    rw [entries_eq_filterMap c, entries_eq_filterMap d, ← names]
    apply List.filterMap_congr
    intro name member
    rw [stands name member]
  cases c
  cases d
  cases same
  rfl

theorem empty_merge (c : Catalog α) : (∅ : Catalog α).merge c = c := c.ofList_entries

theorem merge_assoc (c d e : Catalog α) : (c.merge d).merge e = c.merge (d.merge e) := by
  apply ext_of_names
  · simp only [names_merge, List.filter_append, List.filter_filter, List.append_assoc]
    congr 2
    apply List.filter_congr
    intro name member
    by_cases below : name ∈ c.names <;> by_cases middle : name ∈ d.names <;> simp [below, middle]
  · intro name member
    simp only [get?_merge, Option.or_assoc]

theorem merge_self (c : Catalog α) : c.merge c = c := by
  apply ext_of_names
  · rw [names_merge, List.filter_eq_nil_iff.mpr (by simp), List.append_nil]
  · intro name member
    rw [get?_merge, Option.or_self]

theorem layered_append (before after : List (Catalog α)) :
    layered (before ++ after) = (layered before).merge (layered after) := by
  induction after using List.reverseRecOn with
  | nil => rw [List.append_nil]; rfl
  | append_singleton after layer ih =>
      rw [← List.append_assoc, layered_append_singleton, layered_append_singleton, ih, merge_assoc]

theorem layered_singleton (layer : Catalog α) : layered [layer] = layer := empty_merge layer

theorem layered_cons (layer : Catalog α) (layers : List (Catalog α)) :
    layered (layer :: layers) = layer.merge (layered layers) := by
  rw [← List.singleton_append, layered_append, layered_singleton]

theorem layered_flatten (before parts after : List (Catalog α)) (own : Catalog α) :
    layered (before ++ (layered parts).merge own :: after) =
      layered (before ++ parts ++ own :: after) := by
  simp only [layered_append, layered_cons, merge_assoc]

theorem layered_twice (before after : List (Catalog α)) (layer : Catalog α) :
    layered (before ++ layer :: layer :: after) = layered (before ++ layer :: after) := by
  rw [layered_append, layered_append, layered_cons, layered_cons, ← merge_assoc layer, merge_self]

theorem layered_of_replaced {whole own : Catalog α} {layers layers' : List (Catalog α)}
    (replaced : List.Forall₂ (fun layer layer' => layer' = layer ∨ layer' = whole) layers layers')
    (before : List (Catalog α)) (made : (layered (before ++ layers)).merge own = whole) :
    (layered (before ++ layers')).merge own = whole := by
  induction replaced generalizing before with
  | nil => exact made
  | @cons layer layer' layers layers' here rest ih =>
      rw [← List.singleton_append, ← List.append_assoc]
      apply ih
      rw [List.append_assoc, List.singleton_append]
      rcases here with rfl | rfl
      · exact made
      · -- The whole holds already what comes before it and what comes after it.
        rw [layered_append, layered_cons, merge_assoc, merge_assoc] at made ⊢
        generalize layered before = first, (layered layers).merge own = last at made ⊢
        calc first.merge (layer'.merge last)
          _ = (first.merge first).merge ((layer.merge last).merge last) := by
              rw [← made, merge_assoc, merge_assoc, merge_assoc]
          _ = first.merge (layer.merge last) := by rw [merge_self, merge_assoc layer, merge_self]
          _ = layer' := made

end FieldMap.Catalog
