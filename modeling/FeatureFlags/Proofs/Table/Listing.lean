import FeatureFlags.Table.Lookup

/-!
# Entries of a table as a collection

The entries of a table stand in order of their names, which says nothing of any other order. What is
read and changed is the same in every arrangement of them.
-/
namespace FeatureFlags

namespace Entries

variable {α : Type u}

theorem Ascending.names_distinct {entries : List (String × α)} (h : Ascending entries) :
    entries.Pairwise fun a b => a.1 ≠ b.1 :=
  h.imp fun {a b} (hlt : a.1 < b.1) (heq : a.1 = b.1) => String.lt_irrefl b.1 (heq ▸ hlt)

theorem get?_eq_some_iff {entries : List (String × α)} (h : entries.Pairwise fun a b => a.1 ≠ b.1)
    (name : String) (value : α) : get? entries name = some value ↔ (name, value) ∈ entries := by
  induction entries with
  | nil => simp [get?]
  | cons head rest ih =>
    obtain ⟨hhead, hrest⟩ := List.pairwise_cons.1 h
    rw [get?_cons, List.mem_cons]
    by_cases hname : head.1 = name
    · have hnot : (name, value) ∉ rest := fun hmem => hhead _ hmem hname
      simp [hname, hnot, Prod.ext_iff, eq_comm]
    · have hne : (name, value) ≠ head := fun e => hname (e ▸ rfl)
      simp [hname, hne, ih hrest]

theorem insert_perm {entries : List (String × α)} (h : Ascending entries) (name : String)
    (value : α) :
    (insert name value entries).Perm ((name, value) :: entries.filter (·.1 ≠ name)) := by
  induction entries with
  | nil => simp [insert]
  | cons head rest ih =>
    obtain ⟨n, v⟩ := head
    obtain ⟨hhead, hrest⟩ := List.pairwise_cons.1 h
    simp only [insert]
    split
    next hlt =>
      -- the name comes before all others, so that none of them goes
      have hall : ∀ e ∈ (n, v) :: rest, e.1 ≠ name := fun e he heq => by
        rcases List.mem_cons.1 he with he | he
        · rw [he] at heq
          exact String.lt_irrefl name (heq ▸ hlt)
        · have hlate : n < name := heq ▸ hhead e he
          exact String.lt_irrefl name (String.lt_trans hlt hlate)
      rw [List.filter_eq_self.2 fun e he => by simpa using hall e he]
    next =>
      split
      next heq =>
        have hall : ∀ e ∈ rest, e.1 ≠ name := fun e he h =>
          String.lt_irrefl n (by simpa [h, heq] using hhead e he)
        rw [List.filter_cons_of_neg (by simp [heq]),
          List.filter_eq_self.2 fun e he => by simpa using hall e he]
      next hne =>
        rw [List.filter_cons_of_pos (by simpa using hne)]
        exact ((ih hrest).cons (n, v)).trans (List.Perm.swap (name, value) (n, v) _)

end Entries

/-- In no arrangement of the entries does a name come twice. -/
theorem Table.names_nodup {α : Type u} {t : Table α} {rows : List (String × α)}
    (h : rows.Perm t.entries) : (rows.map (·.1)).Nodup :=
  List.pairwise_map.2 <| h.symm.pairwise t.ascending.names_distinct fun hab => Ne.symm hab

/-- Without the name of its first entry, an arrangement lacks that entry alone. -/
theorem Table.perm_erase {α : Type u} {t : Table α} {row : String × α} {rest : List (String × α)}
    (h : (row :: rest).Perm t.entries) : rest.Perm (t.erase row.1).entries := by
  have hother : ∀ other ∈ rest, other.1 ≠ row.1 := fun other hmem heq =>
    (List.nodup_cons.1 (names_nodup h)).1 (List.mem_map.2 ⟨other, hmem, heq⟩)
  have hfilter := h.filter (·.1 ≠ row.1)
  rwa [List.filter_cons_of_neg (by simp),
    List.filter_eq_self.2 fun other hmem => by simpa using hother other hmem] at hfilter

end FeatureFlags
