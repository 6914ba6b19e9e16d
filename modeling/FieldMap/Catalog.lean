/-!
Catalogs: names and what they stand for, in the order in which the names first appeared. Putting
something under a known name replaces what the name stood for and keeps its place.
-/

namespace FieldMap

universe u

/-- Named things in order of first appearance. -/
structure Catalog (α : Type u) where
  entries : List (String × α)
  distinct : (entries.map Prod.fst).Nodup

namespace Catalog

variable {α : Type u}

def putEntry (name : String) (a : α) : List (String × α) → List (String × α)
  | [] => [(name, a)]
  | entry :: entries =>
    if entry.1 = name then (name, a) :: entries else entry :: putEntry name a entries

theorem names_putEntry (name : String) (a : α) (entries : List (String × α)) :
    (putEntry name a entries).map Prod.fst =
      if name ∈ entries.map Prod.fst then entries.map Prod.fst
      else entries.map Prod.fst ++ [name] := by
  induction entries with
  | nil => simp [putEntry]
  | cons entry entries ih =>
    by_cases h : entry.1 = name
    · simp [putEntry, h]
    · have h' : name ≠ entry.1 := fun e => h e.symm
      simp only [putEntry, h, if_false, List.map_cons, ih, List.mem_cons, h', false_or]
      split <;> simp

theorem distinct_putEntry {name : String} {a : α} {entries : List (String × α)}
    (h : (entries.map Prod.fst).Nodup) : ((putEntry name a entries).map Prod.fst).Nodup := by
  rw [names_putEntry]
  split
  · exact h
  · next absent =>
    rw [List.nodup_append]
    refine ⟨h, List.pairwise_singleton .., ?_⟩
    intro x hx y hy e
    rw [List.mem_singleton.mp hy] at e
    exact absent (e ▸ hx)

def empty : Catalog α := ⟨[], List.nodup_nil⟩

instance : EmptyCollection (Catalog α) := ⟨empty⟩

instance : Inhabited (Catalog α) := ⟨empty⟩

def put (c : Catalog α) (name : String) (a : α) : Catalog α :=
  ⟨putEntry name a c.entries, distinct_putEntry c.distinct⟩

def get? (c : Catalog α) (name : String) : Option α := c.entries.lookup name

def names (c : Catalog α) : List String := c.entries.map Prod.fst

def size (c : Catalog α) : Nat := c.entries.length

def isEmpty (c : Catalog α) : Bool := c.entries.isEmpty

def contains (c : Catalog α) (name : String) : Bool := (c.get? name).isSome

def putAll (c : Catalog α) (entries : List (String × α)) : Catalog α :=
  entries.foldl (fun c entry => c.put entry.1 entry.2) c

def merge (c overlay : Catalog α) : Catalog α := c.putAll overlay.entries

def ofList (entries : List (String × α)) : Catalog α := empty.putAll entries

end Catalog

end FieldMap
