import FeatureFlags.Table

/-!
# What a table holds

Every operation on tables is given by what a name leads to afterwards. A table is determined by what
its names lead to (`ext_get?`), so these equations are all that there is to know about it.
-/
namespace FeatureFlags

namespace Entries

variable {α : Type u}

theorem get?_cons (head : String × α) (rest : List (String × α)) (name : String) :
    get? (head :: rest) name = if head.1 = name then some head.2 else get? rest name := by
  by_cases h : head.1 = name <;> simp [get?, h]

theorem get?_insert (name other : String) (value : α) (entries : List (String × α)) :
    get? (insert name value entries) other =
      if other = name then some value else get? entries other := by
  induction entries with
  | nil => simp [insert, get?_cons, eq_comm]
  | cons head rest ih =>
    obtain ⟨n, v⟩ := head
    simp only [insert]
    split
    · simp only [get?_cons, eq_comm (a := name)]
    · split
      next heq =>
        subst heq
        by_cases h : other = n <;> simp [get?_cons, h, eq_comm]
      next hne =>
        rw [get?_cons, ih, get?_cons]
        by_cases h : n = other
        · subst h; simp [hne]
        · simp [h]

theorem get?_filter_ne (name other : String) (entries : List (String × α)) :
    get? (entries.filter (·.1 ≠ name)) other =
      if other = name then none else get? entries other := by
  induction entries with
  | nil => simp [get?]
  | cons head rest ih =>
    by_cases h : head.1 = name
    · rw [List.filter_cons_of_neg (by simp [h]), ih, get?_cons]
      by_cases ho : other = name
      · simp [ho]
      · have hne : head.1 ≠ other := fun e => ho (e ▸ h)
        simp [ho, hne]
    · rw [List.filter_cons_of_pos (by simp [h]), get?_cons, ih, get?_cons]
      by_cases ho : head.1 = other
      · simp [← ho, h]
      · simp [ho]

theorem get?_map {β : Type v} (f : α → β) (entries : List (String × α)) (name : String) :
    get? (entries.map fun e => (e.1, f e.2)) name = (get? entries name).map f := by
  induction entries with
  | nil => rfl
  | cons head rest ih =>
    rw [List.map_cons, get?_cons, get?_cons, ih]
    by_cases h : head.1 = name <;> simp [h]

/-- A name that comes before all others is not among them. -/
theorem get?_eq_none_of_lt {entries : List (String × α)} {name : String}
    (h : ∀ e ∈ entries, name < e.1) : get? entries name = none := by
  induction entries with
  | nil => rfl
  | cons head rest ih =>
    have hne : head.1 ≠ name := fun e => String.lt_irrefl name (e ▸ h head List.mem_cons_self)
    rw [get?_cons, if_neg hne]
    exact ih fun e he => h e (List.mem_cons_of_mem _ he)

/-- The first name of entries does not come before that of others in order which hold it too. -/
theorem Ascending.not_lt_head {x y : String × α} {a b : List (String × α)}
    (hb : Ascending (y :: b)) (h : get? (x :: a) x.1 = get? (y :: b) x.1) : ¬x.1 < y.1 := by
  intro hlt
  have hnone : get? (y :: b) x.1 = none := get?_eq_none_of_lt fun e he => by
    rcases List.mem_cons.1 he with he | he
    · rw [he]; exact hlt
    · exact String.lt_trans hlt ((List.pairwise_cons.1 hb).1 e he)
  simp [get?_cons, hnone] at h

/-- Entries in order are determined by what they hold. -/
theorem Ascending.eq_of_get? {a b : List (String × α)} (ha : Ascending a) (hb : Ascending b)
    (h : ∀ name, get? a name = get? b name) : a = b := by
  induction a generalizing b with
  | nil =>
    cases b with
    | nil => rfl
    | cons y b => simpa [get?_cons, get?] using h y.1
  | cons x a ih =>
    cases b with
    | nil => simpa [get?_cons, get?] using h x.1
    | cons y b =>
      have hname : x.1 = y.1 := String.le_antisymm
        (String.not_lt.1 (ha.not_lt_head (h y.1).symm)) (String.not_lt.1 (hb.not_lt_head (h x.1)))
      have hvalue : x.2 = y.2 := by simpa [get?_cons, hname] using h x.1
      obtain ⟨hx, ha⟩ := List.pairwise_cons.1 ha
      obtain ⟨hy, hb⟩ := List.pairwise_cons.1 hb
      have hrest : a = b := ih ha hb fun name => by
        by_cases e : x.1 = name
        · subst e
          rw [get?_eq_none_of_lt hx, get?_eq_none_of_lt (hname ▸ hy)]
        · simpa [get?_cons, e, hname ▸ e] using h name
      rw [Prod.ext hname hvalue, hrest]

end Entries

namespace Table

variable {α : Type u} {β : Type v}

@[simp]
theorem get?_empty (name : String) : (empty : Table α).get? name = none := rfl

@[simp]
theorem get?_insert (t : Table α) (name other : String) (value : α) :
    (t.insert name value).get? other = if other = name then some value else t.get? other :=
  Entries.get?_insert name other value t.entries

@[simp]
theorem get?_insertIfNew (t : Table α) (name other : String) (value : α) :
    (t.insertIfNew name value).get? other =
      if other = name then some ((t.get? name).getD value) else t.get? other := by
  unfold insertIfNew contains
  cases h : t.get? name with
  | none => simp
  | some v => by_cases ho : other = name <;> simp [ho, h]

@[simp]
theorem get?_erase (t : Table α) (name other : String) :
    (t.erase name).get? other = if other = name then none else t.get? other :=
  Entries.get?_filter_ne name other t.entries

@[simp]
theorem get?_map (f : α → β) (t : Table α) (name : String) :
    (t.map f).get? name = (t.get? name).map f :=
  Entries.get?_map f t.entries name

/-- Two tables are the same if every name leads to the same in both. -/
theorem ext_get? {a b : Table α} (h : ∀ name, a.get? name = b.get? name) : a = b :=
  ext (a.ascending.eq_of_get? b.ascending h)

end Table

end FeatureFlags
