/-!
# Tables

A table holds values by name, in strictly ascending order of the names, so that two tables with the
same content are the same table and are written the same way. The operations on bare entry lists
come first: nested data (objects inside objects) holds its entries as plain lists.
-/
namespace FeatureFlags

namespace Entries

variable {α : Type u}

/-- Replaces the value of a name that is present and otherwise adds the name at its place. -/
def insert (name : String) (value : α) : List (String × α) → List (String × α)
  | [] => [(name, value)]
  | (n, v) :: rest =>
    if name < n then (name, value) :: (n, v) :: rest
    else if n = name then (name, value) :: rest
    else (n, v) :: insert name value rest

/-- The entries in order of their names; of several values of one name the last stays. -/
def ofList (entries : List (String × α)) : List (String × α) :=
  entries.foldl (fun sorted e => insert e.1 e.2 sorted) []

def get? (entries : List (String × α)) (name : String) : Option α :=
  (entries.find? (·.1 = name)).map (·.2)

/-- Names ascend strictly. -/
abbrev Ascending (entries : List (String × α)) : Prop :=
  entries.Pairwise fun a b => a.1 < b.1

theorem name_of_mem_insert {name : String} {value : α} {entries : List (String × α)}
    {e : String × α} (h : e ∈ insert name value entries) : e.1 = name ∨ e ∈ entries := by
  induction entries with
  | nil => simp [insert] at h; simp [h]
  | cons head rest ih =>
    obtain ⟨n, v⟩ := head
    simp only [insert] at h
    split at h
    · rcases List.mem_cons.1 h with h | h
      · simp [h]
      · exact .inr h
    · split at h
      · rcases List.mem_cons.1 h with h | h
        · simp [h]
        · exact .inr (List.mem_cons_of_mem _ h)
      · rcases List.mem_cons.1 h with h | h
        · simp [h]
        · exact (ih h).imp_right (List.mem_cons_of_mem _)

theorem Ascending.insert {entries : List (String × α)} (h : Ascending entries)
    (name : String) (value : α) : Ascending (insert name value entries) := by
  induction entries with
  | nil => simp [Entries.insert]
  | cons head rest ih =>
    obtain ⟨n, v⟩ := head
    have ⟨hn, hrest⟩ := List.pairwise_cons.1 h
    simp only [Entries.insert]
    split
    next hlt =>
      refine List.pairwise_cons.2 ⟨fun e he => ?_, h⟩
      rcases List.mem_cons.1 he with he | he
      · rw [he]; exact hlt
      · exact String.lt_trans hlt (hn e he)
    next hnlt =>
      split
      next heq =>
        exact List.pairwise_cons.2 ⟨fun e he => heq ▸ hn e he, hrest⟩
      next hne =>
        refine List.pairwise_cons.2 ⟨fun e he => ?_, ih hrest⟩
        rcases name_of_mem_insert he with he | he
        · rw [he]
          rcases String.le_total name n with hle | hle
          · exact absurd (String.le_antisymm hle (String.not_lt.1 hnlt)) (fun h => hne h.symm)
          · exact String.not_le.1 fun h => hne (String.le_antisymm hle h)
        · exact hn e he

theorem Ascending.filter {entries : List (String × α)} (h : Ascending entries)
    (p : String × α → Bool) : Ascending (entries.filter p) :=
  List.Pairwise.filter p h

theorem ascending_ofList (entries : List (String × α)) : Ascending (ofList entries) := by
  suffices h : ∀ sorted : List (String × α), Ascending sorted →
      Ascending (entries.foldl (fun sorted e => insert e.1 e.2 sorted) sorted) from
    h [] List.Pairwise.nil
  induction entries with
  | nil => exact fun _ h => h
  | cons e rest ih => exact fun sorted h => ih _ (h.insert e.1 e.2)

theorem Ascending.map {β : Type v} {entries : List (String × α)} (h : Ascending entries)
    (f : α → β) : Ascending (entries.map fun e => (e.1, f e.2)) :=
  List.Pairwise.map _ (fun _ _ h => h) h

end Entries

/-- Values by name, the names in strictly ascending order. -/
structure Table (α : Type u) where
  entries : List (String × α)
  ascending : Entries.Ascending entries

namespace Table

variable {α : Type u} {β : Type v}

@[ext]
theorem ext {a b : Table α} (h : a.entries = b.entries) : a = b := by
  cases a; cases b; cases h; rfl

instance [DecidableEq α] : DecidableEq (Table α) := fun a b =>
  decidable_of_iff (a.entries = b.entries) ⟨ext, fun h => h ▸ rfl⟩

def empty : Table α := ⟨[], List.Pairwise.nil⟩

instance : EmptyCollection (Table α) := ⟨empty⟩

instance : Inhabited (Table α) := ⟨empty⟩

def isEmpty (t : Table α) : Bool := t.entries.isEmpty

def size (t : Table α) : Nat := t.entries.length

def get? (t : Table α) (name : String) : Option α := Entries.get? t.entries name

def contains (t : Table α) (name : String) : Bool := (t.get? name).isSome

def insert (t : Table α) (name : String) (value : α) : Table α :=
  ⟨Entries.insert name value t.entries, t.ascending.insert name value⟩

/-- Keeps the value of a name that is present. -/
def insertIfNew (t : Table α) (name : String) (value : α) : Table α :=
  if t.contains name then t else t.insert name value

def erase (t : Table α) (name : String) : Table α :=
  ⟨t.entries.filter (·.1 ≠ name), t.ascending.filter _⟩

/-- Of several values of one name the last stays. -/
def ofList (entries : List (String × α)) : Table α :=
  ⟨Entries.ofList entries, Entries.ascending_ofList entries⟩

def map (f : α → β) (t : Table α) : Table β :=
  ⟨t.entries.map fun e => (e.1, f e.2), t.ascending.map f⟩

end Table

end FeatureFlags
