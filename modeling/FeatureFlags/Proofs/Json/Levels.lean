import FeatureFlags.Json.Reading
import FeatureFlags.Proofs.Json.Printed
import FeatureFlags.Proofs.Table.Listing

/-!
# Levels of values

Readers take values of so many levels of arrays and objects and put members in the order of their
names. A value that is not too deep is read from its document with its members in this order
(`ofDocument?_ofJson`), and so are all values that are ever read (`fits_of_ofDocument?`).
-/
namespace FeatureFlags

namespace Entries

variable {α : Type u}

theorem insert_last {name : String} {value : α} {entries : List (String × α)}
    (h : ∀ e ∈ entries, e.1 < name) : insert name value entries = entries ++ [(name, value)] := by
  induction entries with
  | nil => rfl
  | cons head rest ih =>
    obtain ⟨n, v⟩ := head
    obtain ⟨hhead, hrest⟩ := List.forall_mem_cons.1 h
    have hnlt : ¬name < n := fun hlt => String.lt_irrefl n (String.lt_trans hhead hlt)
    have hne : ¬n = name := fun heq => String.lt_irrefl name (heq ▸ hhead)
    rw [insert, if_neg hnlt, if_neg hne, ih hrest, List.cons_append]

/-- Entries that are in order already stay as they are. -/
theorem ofList_of_ascending {entries : List (String × α)} (h : Ascending entries) :
    ofList entries = entries := by
  have hfold (front rest : List (String × α)) (h : Ascending (front ++ rest)) :
      rest.foldl (fun sorted e => insert e.1 e.2 sorted) front = front ++ rest := by
    induction rest generalizing front with
    | nil => rw [List.foldl_nil, List.append_nil]
    | cons e rest ih =>
      have hlast : ∀ x ∈ front, x.1 < e.1 := fun x hx =>
        (List.pairwise_append.1 h).2.2 x hx e List.mem_cons_self
      have hsplit : front ++ e :: rest = front ++ [e] ++ rest := by
        rw [List.append_assoc, List.singleton_append]
      rw [List.foldl_cons, insert_last hlast, hsplit]
      exact ih (front ++ [e]) (hsplit ▸ h)
  exact hfold [] entries h

/-- Nothing is in a list of entries that was not put into it. -/
theorem mem_of_mem_ofList {e : String × α} {entries : List (String × α)} (h : e ∈ ofList entries) :
    e ∈ entries := by
  have hfold (rest sorted : List (String × α)) (hsorted : Ascending sorted)
      (h : e ∈ rest.foldl (fun sorted e => insert e.1 e.2 sorted) sorted) :
      e ∈ sorted ∨ e ∈ rest := by
    induction rest generalizing sorted with
    | nil => exact .inl h
    | cons next rest ih =>
      rcases ih _ (hsorted.insert next.1 next.2) h with hin | hin
      · rcases List.mem_cons.1 ((insert_perm hsorted next.1 next.2).mem_iff.1 hin) with rfl | hold
        · exact .inr List.mem_cons_self
        · exact .inl (List.mem_of_mem_filter hold)
      · exact .inr (List.mem_cons_of_mem _ hin)
  exact (hfold entries [] List.Pairwise.nil h).resolve_left List.not_mem_nil

end Entries

theorem Table.ofList_entries {α : Type u} (t : Table α) : Table.ofList t.entries = t :=
  Table.ext (Entries.ofList_of_ascending t.ascending)

namespace Json

mutual

/-- How deep arrays and objects are nested in a value. -/
def depth : Json → Nat
  | .null | .bool _ | .number _ | .text _ => 0
  | .array items => itemsDepth items + 1
  | .object members => membersDepth members + 1

def itemsDepth : List Json → Nat
  | [] => 0
  | item :: rest => max (depth item) (itemsDepth rest)

def membersDepth : List (String × Json) → Nat
  | [] => 0
  | (_, value) :: rest => max (depth value) (membersDepth rest)

end

mutual

/-- Every object of a value holds its members in the order of their names. -/
def Ordered : Json → Prop
  | .null | .bool _ | .number _ | .text _ => True
  | .array items => ItemsOrdered items
  | .object members => Entries.Ascending members ∧ MembersOrdered members

def ItemsOrdered : List Json → Prop
  | [] => True
  | item :: rest => Ordered item ∧ ItemsOrdered rest

def MembersOrdered : List (String × Json) → Prop
  | [] => True
  | (_, value) :: rest => Ordered value ∧ MembersOrdered rest

end

/-- A value that every reader with so many levels left takes as it is. -/
structure Fits (room : Nat) (j : Json) : Prop where
  ordered : j.Ordered
  depth_le : j.depth ≤ room

mutual

/-- A value with the members of every object in the order of their names. -/
def sorted : Json → Json
  | .null => .null
  | .bool b => .bool b
  | .number n => .number n
  | .text s => .text s
  | .array items => .array (itemsSorted items)
  | .object members => .object (Entries.ofList (membersSorted members))

def itemsSorted : List Json → List Json
  | [] => []
  | item :: rest => sorted item :: itemsSorted rest

def membersSorted : List (String × Json) → List (String × Json)
  | [] => []
  | (name, value) :: rest => (name, sorted value) :: membersSorted rest

end

mutual

theorem sorted_of_ordered : ∀ {j : Json}, j.Ordered → j.sorted = j
  | .null, _ | .bool _, _ | .number _, _ | .text _, _ => rfl
  | .array items, h => by
    rw [Ordered] at h
    rw [sorted, itemsSorted_of_ordered h]
  | .object members, h => by
    rw [Ordered] at h
    rw [sorted, membersSorted_of_ordered h.2, Entries.ofList_of_ascending h.1]

theorem itemsSorted_of_ordered : ∀ {items : List Json}, ItemsOrdered items →
    itemsSorted items = items
  | [], _ => rfl
  | item :: rest, h => by
    rw [ItemsOrdered] at h
    rw [itemsSorted, sorted_of_ordered h.1, itemsSorted_of_ordered h.2]

theorem membersSorted_of_ordered : ∀ {members : List (String × Json)}, MembersOrdered members →
    membersSorted members = members
  | [], _ => rfl
  | (name, value) :: rest, h => by
    rw [MembersOrdered] at h
    rw [membersSorted, sorted_of_ordered h.1, membersSorted_of_ordered h.2]

end

/-! ## Values from their own documents -/

mutual

theorem ofDocument?_ofJson : ∀ {room : Nat} {j : Json}, j.depth ≤ room →
    ofDocument? room (Document.ofJson j) = some j.sorted
  | _, .null, _ | _, .bool _, _ | _, .number _, _ | _, .text _, _ => by
    simp [Document.ofJson, ofDocument?, sorted]
  | 0, .array _, hdepth | 0, .object _, hdepth => by simp [depth] at hdepth
  | room + 1, .array items, hdepth => by
    rw [depth] at hdepth
    rw [Document.ofJson, ofDocument?, itemsOfDocuments?_ofJson (by omega), Option.map_some, sorted]
  | room + 1, .object members, hdepth => by
    rw [depth] at hdepth
    rw [Document.ofJson, ofDocument?, membersOfDocuments?_ofJson (by omega), Option.map_some,
      sorted]

theorem itemsOfDocuments?_ofJson : ∀ {room : Nat} {items : List Json}, itemsDepth items ≤ room →
    itemsOfDocuments? room (Document.itemsOfJson items) = some (itemsSorted items)
  | _, [], _ => by rw [Document.itemsOfJson, itemsOfDocuments?, itemsSorted]
  | room, item :: rest, hdepth => by
    rw [itemsDepth] at hdepth
    rw [Document.itemsOfJson, itemsOfDocuments?, ofDocument?_ofJson (by omega),
      itemsOfDocuments?_ofJson (by omega), itemsSorted]
    rfl

theorem membersOfDocuments?_ofJson : ∀ {room : Nat} {members : List (String × Json)},
    membersDepth members ≤ room →
    membersOfDocuments? room (Document.membersOfJson members) = some (membersSorted members)
  | _, [], _ => by rw [Document.membersOfJson, membersOfDocuments?, membersSorted]
  | room, (name, value) :: rest, hdepth => by
    rw [membersDepth] at hdepth
    rw [Document.membersOfJson, membersOfDocuments?, ofDocument?_ofJson (by omega),
      membersOfDocuments?_ofJson (by omega), membersSorted]
    rfl

end

theorem membersSorted_eq_map (members : List (String × Json)) :
    membersSorted members = members.map fun m => (m.1, m.2.sorted) := by
  induction members with
  | nil => rfl
  | cons m rest ih => exact congrArg (_ :: ·) ih

variable {room : Nat}

/-- A table is read from the object that is written for it, value by value. -/
theorem tableOfDocument?_ofTable {t : Table Json} (h : (ofTable t).depth ≤ room) :
    tableOfDocument? room (Document.ofJson (ofTable t)) = some (t.map sorted) := by
  have hmembers : Entries.ofList (membersSorted t.entries) = (t.map sorted).entries := by
    rw [membersSorted_eq_map]
    exact Entries.ofList_of_ascending (t.map sorted).ascending
  rw [tableOfDocument?, ofDocument?_ofJson h, ofTable, sorted, hmembers]
  exact congrArg some (t.map sorted).ofList_entries

theorem Fits.read {j : Json} (h : j.Fits room) :
    ofDocument? room (Document.ofJson j) = some j := by
  rw [ofDocument?_ofJson h.depth_le, sorted_of_ordered h.ordered]

theorem Fits.readTable {t : Table Json} (h : (ofTable t).Fits room) :
    tableOfDocument? room (Document.ofJson (ofTable t)) = some t := by
  rw [tableOfDocument?, h.read]
  exact congrArg some t.ofList_entries

theorem Fits.map_sorted {t : Table Json} (h : (ofTable t).Fits room) : t.map sorted = t :=
  Option.some.inj ((tableOfDocument?_ofTable h.depth_le).symm.trans h.readTable)

/-! ## Values from any document -/

theorem fits_array {items : List Json} (h : ∀ item ∈ items, item.Fits room) :
    (array items).Fits (room + 1) := by
  have hall : ItemsOrdered items ∧ itemsDepth items ≤ room := by
    induction items with
    | nil => exact ⟨trivial, Nat.zero_le _⟩
    | cons item rest ih =>
      obtain ⟨hitem, hrest⟩ := List.forall_mem_cons.1 h
      obtain ⟨hordered, hdepth⟩ := ih hrest
      exact ⟨⟨hitem.ordered, hordered⟩, Nat.max_le.2 ⟨hitem.depth_le, hdepth⟩⟩
  exact ⟨hall.1, Nat.succ_le_succ hall.2⟩

theorem fits_object {members : List (String × Json)} (hascending : Entries.Ascending members)
    (h : ∀ m ∈ members, m.2.Fits room) : (object members).Fits (room + 1) := by
  have hall : MembersOrdered members ∧ membersDepth members ≤ room := by
    clear hascending
    induction members with
    | nil => exact ⟨trivial, Nat.zero_le _⟩
    | cons m rest ih =>
      obtain ⟨hvalue, hrest⟩ := List.forall_mem_cons.1 h
      obtain ⟨hordered, hdepth⟩ := ih hrest
      exact ⟨⟨hvalue.ordered, hordered⟩, Nat.max_le.2 ⟨hvalue.depth_le, hdepth⟩⟩
  exact ⟨⟨hascending, hall.1⟩, Nat.succ_le_succ hall.2⟩

mutual

/-- What is read from a document is no deeper than the reader allows, and is in order. -/
theorem fits_of_ofDocument? : ∀ {room : Nat} {d : Document} {j : Json},
    ofDocument? room d = some j → j.Fits room
  | _, .null, j, h | _, .bool _, j, h => by
    obtain rfl := Option.some.inj h
    exact ⟨trivial, Nat.zero_le _⟩
  | _, .number _, j, h | _, .text _, j, h => by
    obtain ⟨_, -, rfl⟩ := Option.map_eq_some_iff.1 h
    exact ⟨trivial, Nat.zero_le _⟩
  | 0, .array _, j, h | 0, .object _, j, h => by cases h
  | room + 1, .array items, j, h => by
    rw [ofDocument?] at h
    obtain ⟨read, hread, rfl⟩ := Option.map_eq_some_iff.1 h
    exact fits_array (fits_of_itemsOfDocuments? hread)
  | room + 1, .object members, j, h => by
    rw [ofDocument?] at h
    obtain ⟨read, hread, rfl⟩ := Option.map_eq_some_iff.1 h
    exact fits_object (Entries.ascending_ofList read) fun m hm =>
      fits_of_membersOfDocuments? hread m (Entries.mem_of_mem_ofList hm)

theorem fits_of_itemsOfDocuments? : ∀ {room : Nat} {ds : List Document} {items : List Json},
    itemsOfDocuments? room ds = some items → ∀ item ∈ items, item.Fits room
  | _, [], items, h => by
    rw [itemsOfDocuments?] at h
    obtain rfl := Option.some.inj h
    exact fun _ hitem => absurd hitem List.not_mem_nil
  | room, d :: rest, items, h => by
    rw [itemsOfDocuments?] at h
    obtain ⟨item, hitem, h⟩ := Option.bind_eq_some_iff.1 h
    obtain ⟨more, hmore, h⟩ := Option.bind_eq_some_iff.1 h
    obtain rfl := Option.some.inj h
    exact List.forall_mem_cons.2 ⟨fits_of_ofDocument? hitem, fits_of_itemsOfDocuments? hmore⟩

theorem fits_of_membersOfDocuments? : ∀ {room : Nat} {ds : List (Option String × Document)}
    {members : List (String × Json)}, membersOfDocuments? room ds = some members →
    ∀ m ∈ members, m.2.Fits room
  | _, [], members, h => by
    rw [membersOfDocuments?] at h
    obtain rfl := Option.some.inj h
    exact fun _ hm => absurd hm List.not_mem_nil
  | room, (name, d) :: rest, members, h => by
    rw [membersOfDocuments?] at h
    obtain ⟨_, -, h⟩ := Option.bind_eq_some_iff.1 h
    obtain ⟨value, hvalue, h⟩ := Option.bind_eq_some_iff.1 h
    obtain ⟨more, hmore, h⟩ := Option.bind_eq_some_iff.1 h
    obtain rfl := Option.some.inj h
    exact List.forall_mem_cons.2 ⟨fits_of_ofDocument? hvalue, fits_of_membersOfDocuments? hmore⟩

end

theorem fits_of_tableOfDocument? {d : Document} {t : Table Json}
    (h : tableOfDocument? room d = some t) : (ofTable t).Fits room := by
  rw [tableOfDocument?] at h
  split at h
  next members hread =>
    have hfits := fits_of_ofDocument? hread
    have hascending : Entries.Ascending members := hfits.ordered.1
    obtain rfl := Option.some.inj h
    rw [Table.ofList_entries ⟨members, hascending⟩]
    exact hfits
  next => cases h

end Json

end FeatureFlags
