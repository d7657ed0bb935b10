import FeatureFlags.Client
import FeatureFlags.Digest.Md5
import FeatureFlags.Proofs.Assembly.Basic
import FeatureFlags.Proofs.Calls
import FeatureFlags.Scripted.Provider

/-!
# Starting and stopping assemblies

What a client starts or stops is told to every leaf behind it, and every cache on the way is
emptied. Main statement: a start and a stop come by all places in their order, whatever some leaves
answer to that, and the outcome of a start is made of those of all leaves.
-/
namespace FeatureFlags

variable {α β γ : Type}

/-- A tour of places in their order, with the answers of the leaves among them. -/
inductive Tour (visit : Provider → Eval α) :
    Store → List Assembly.Stop → List α → Store → Prop where
  | done (s : Store) : Tour visit s [] [] s
  | logged {s s₁ s' : Store} {stops : List Assembly.Stop} {answers : List α} (h : s.Logged s₁)
    (rest : Tour visit s₁ stops answers s') : Tour visit s stops answers s'
  | leaf {s s₁ s' : Store} {p : Provider} {a : α} {stops : List Assembly.Stop} {answers : List α}
    (h : (visit p).on s = (.ok a, s₁)) (rest : Tour visit s₁ stops answers s') :
    Tour visit s (.leaf p :: stops) (a :: answers) s'
  | cache {s s' : Store} {owner : Nat} {stops : List Assembly.Stop} {answers : List α}
    (rest : Tour visit ((Cache.forget owner).on s).2 stops answers s') :
    Tour visit s (.cache owner :: stops) answers s'

/-- A tour of all places that ends with a result, or a crash of a leaf that breaks it off. -/
inductive Toured (visit : Provider → Eval α) (s : Store) (stops : List Assembly.Stop)
    (R : List α → β → Prop) : Except Crash β × Store → Prop where
  | whole {answers : List α} {b : β} {s' : Store} (tour : Tour visit s stops answers s')
    (h : R answers b) : Toured visit s stops R (.ok b, s')
  | broken {before behind : List Assembly.Stop} {p : Provider} {answers : List α} {s₁ s' : Store}
    {e : Crash} (hstops : stops = before ++ .leaf p :: behind)
    (tour : Tour visit s before answers s₁) (hcrash : (visit p).on s₁ = (.error e, s')) :
    Toured visit s stops R (.error e, s')

/-- Every run tours some places and makes its result of the answers. -/
def Tours (visit : Provider → Eval α) (x : Eval β) (stops : List Assembly.Stop)
    (R : List α → β → Prop) : Prop := ∀ s, Toured visit s stops R (x.on s)

section

variable {visit : Provider → Eval α} {s s₁ s' : Store} {l₁ l₂ stops : List Assembly.Stop}
  {a₁ a₂ : List α} {x : Eval β} {f : β → Eval γ} {R R' : List α → β → Prop}
  {T : β → List α → γ → Prop}

theorem Tour.append (h₁ : Tour visit s l₁ a₁ s₁) (h₂ : Tour visit s₁ l₂ a₂ s') :
    Tour visit s (l₁ ++ l₂) (a₁ ++ a₂) s' := by
  induction h₁ with
  | done => exact h₂
  | logged h _ ih => exact .logged h (ih h₂)
  | leaf h _ ih => exact .leaf h (ih h₂)
  | cache _ ih => exact .cache (ih h₂)

namespace Tours

theorem mono (h : Tours visit x stops R) (sub : ∀ answers b, R answers b → R' answers b) :
    Tours visit x stops R' := by
  intro s
  have htoured := h s
  generalize x.on s = result at htoured
  cases htoured with
  | whole tour hR => exact .whole tour (sub _ _ hR)
  | broken hstops tour hcrash => exact .broken hstops tour hcrash

protected theorem pure (b : β) : Tours visit (pure b) [] fun answers b' => answers = [] ∧ b' = b :=
  fun s => .whole (.done s) ⟨rfl, rfl⟩

theorem bind (hx : Tours visit x l₁ R) (hf : ∀ b, Tours visit (f b) l₂ (T b)) :
    Tours visit (x >>= f) (l₁ ++ l₂)
      fun answers c => ∃ a₁ b a₂, answers = a₁ ++ a₂ ∧ R a₁ b ∧ T b a₂ c := by
  intro s
  have hfirst := hx s
  rcases hrun : x.on s with ⟨e | b, s₁⟩ <;> rw [hrun] at hfirst
  · rw [Eval.on_bind_error hrun]
    cases hfirst with
    | @broken before behind p _ _ _ _ hstops tour hcrash =>
      have hall : l₁ ++ l₂ = before ++ .leaf p :: (behind ++ l₂) := by
        rw [hstops, List.append_assoc, List.cons_append]
      exact .broken hall tour hcrash
  · rw [Eval.on_bind_ok hrun]
    cases hfirst with
    | whole tour hR =>
      have hsecond := hf b s₁
      generalize (f b).on s₁ = result at hsecond
      cases hsecond with
      | whole tour' hT => exact .whole (tour.append tour') ⟨_, b, _, rfl, hR, hT⟩
      | @broken before behind p _ _ _ _ hstops tour' hcrash =>
        have hall : l₁ ++ l₂ = (l₁ ++ before) ++ .leaf p :: behind := by
          rw [hstops, List.append_assoc]
        exact .broken hall (tour.append tour') hcrash

/-- A place without an answer in front of others, or nothing at all. -/
theorem after {y : Eval Unit} {g : Eval β} (hy : Tours visit y l₁ fun answers _ => answers = [])
    (hg : Tours visit g l₂ R) : Tours visit (y >>= fun _ => g) (l₁ ++ l₂) R := by
  refine (hy.bind fun _ => hg).mono ?_
  rintro _ b ⟨_, _, answers, rfl, rfl, hR⟩
  exact hR

/-- What is made of a result without going anywhere. -/
theorem andThen {P : β → γ → Prop} (hx : Tours visit x stops R)
    (hf : ∀ b, Tours visit (f b) [] fun answers c => answers = [] ∧ P b c) :
    Tours visit (x >>= f) stops fun answers c => ∃ b, R answers b ∧ P b c := by
  have hall := hx.bind hf
  rw [List.append_nil] at hall
  refine hall.mono ?_
  rintro _ c ⟨answers, b, _, rfl, hR, rfl, hP⟩
  rw [List.append_nil]
  exact ⟨b, hR, hP⟩

theorem report (severity : Severity) (message : String) (fields : List (String × Json)) :
    Tours visit (Eval.report severity message fields) [] fun answers _ => answers = [] :=
  fun s => .whole (.logged (Store.logged_report severity message fields s) (.done _)) rfl

theorem forget (owner : Nat) :
    Tours visit (Cache.forget owner) [.cache owner] fun answers _ => answers = [] :=
  fun _ => .whole (.cache (.done _)) rfl

theorem leaf (p : Provider) : Tours visit (visit p) [.leaf p] fun answers a => answers = [a] := by
  intro s
  rcases hrun : (visit p).on s with ⟨e | a, s₁⟩
  · have hstops : [Assembly.Stop.leaf p] = [] ++ .leaf p :: [] := rfl
    exact .broken hstops (.done s) hrun
  · exact .whole (.leaf hrun (.done s₁)) rfl

end Tours

/-- What comes by empty caches leaves them empty. -/
def Eval.SparesEmpty (x : Eval β) (owners : List Nat) : Prop :=
  ∀ s : Store, ∀ owner ∈ owners, (s.caches owner).size = 0 → ((x.on s).2.caches owner).size = 0

/-- A cache that is empty stays so on a tour, and one that the tour comes by gets so. -/
theorem Tour.empties {owners : List Nat} (h : Tour visit s stops a₁ s')
    (hspares : ∀ p, .leaf p ∈ stops → (visit p).SparesEmpty owners) {owner : Nat}
    (howner : owner ∈ owners) (hcache : (s.caches owner).size = 0 ∨ .cache owner ∈ stops) :
    (s'.caches owner).size = 0 := by
  induction h with
  | done s =>
    rcases hcache with hempty | hmem
    · exact hempty
    · cases hmem
  | @logged s s₁ s' _ _ hlogged _ ih =>
    apply ih hspares
    obtain ⟨records, rfl⟩ := hlogged
    exact hcache
  | @leaf s s₁ s' p a _ _ hrun _ ih =>
    apply ih fun q hq => hspares q (List.mem_cons_of_mem _ hq)
    -- a leaf leaves an empty cache empty; a cache that is not empty is still to come
    rcases hcache with hempty | hmem
    · have hleft := hspares p List.mem_cons_self s owner howner hempty
      rw [hrun] at hleft
      exact .inl hleft
    · rcases List.mem_cons.1 hmem with hleaf | hmem
      · cases hleaf
      · exact .inr hmem
  | @cache s s' other _ _ _ ih =>
    apply ih fun q hq => hspares q (List.mem_cons_of_mem _ hq)
    have hcaches : ((Cache.forget other).on s).2.caches =
        s.caches.set other (s.caches other).clear := rfl
    rw [hcaches, Slots.set_apply]
    by_cases hsame : owner = other
    · left
      rw [if_pos hsame]
      rfl
    · rw [if_neg hsame]
      rcases hcache with hempty | hmem
      · exact .inl hempty
      · rcases List.mem_cons.1 hmem with hcache | hmem
        · cases hcache
          exact absurd rfl hsame
        · exact .inr hmem

end

namespace Assembly

/-! ## Outcomes of a start -/

/-- The errors among what members answered, by name and in order. -/
def failing (results : List (String × Except EvaluationError Unit)) :
    List (String × EvaluationError) :=
  results.filterMap fun x => match x.2 with
    | .ok () => none
    | .error e => some (x.1, e)

mutual

/-- How the outcome of a start is made of those of the leaves: a combination succeeds if all its
members do, and otherwise it fails with the errors of those that failed. -/
inductive Starts :
    Assembly → List (Except EvaluationError Unit) → Except EvaluationError Unit → Prop where
  | leaf (p : Provider) (outcome : Except EvaluationError Unit) : Starts (.leaf p) [outcome] outcome
  | cached {inner : Assembly} {answers : List (Except EvaluationError Unit)}
    {outcome : Except EvaluationError Unit} (digest : String → String) (owner : Nat)
    (h : Starts inner answers outcome) : Starts (.cached digest owner inner) answers outcome
  | isolated {inner : Assembly} {answers : List (Except EvaluationError Unit)}
    {outcome : Except EvaluationError Unit} (owner : Nat) (more : List Hook)
    (h : Starts inner answers outcome) : Starts (.isolated owner inner more) answers outcome
  | started {members : List (String × Nat × Assembly)}
    {answers : List (Except EvaluationError Unit)}
    {results : List (String × Except EvaluationError Unit)} (strategy : Multi.Strategy)
    (h : StartsAll members answers results) (hnone : failing results = []) :
    Starts (.combined strategy members) answers (.ok ())
  | failed {members : List (String × Nat × Assembly)}
    {answers : List (Except EvaluationError Unit)}
    {results : List (String × Except EvaluationError Unit)} (strategy : Multi.Strategy)
    (h : StartsAll members answers results) (hsome : failing results ≠ []) :
    Starts (.combined strategy members) answers
      (.error ⟨.general, some ("providers failed to initialize: " ++
        "; ".intercalate ((failing results).map fun e => e.1 ++ ": " ++ e.2.text))⟩)

/-- The outcomes of members, each by its name. -/
inductive StartsAll : List (String × Nat × Assembly) → List (Except EvaluationError Unit) →
    List (String × Except EvaluationError Unit) → Prop where
  | nil : StartsAll [] [] []
  | cons {inner : Assembly} {rest : List (String × Nat × Assembly)}
    {answers answers' : List (Except EvaluationError Unit)}
    {outcome : Except EvaluationError Unit}
    {results : List (String × Except EvaluationError Unit)} (name : String) (owner : Nat)
    (h : Starts inner answers outcome) (hrest : StartsAll rest answers' results) :
    StartsAll ((name, owner, inner) :: rest) (answers ++ answers') ((name, outcome) :: results)

end

theorem failing_eq_nil_iff (results : List (String × Except EvaluationError Unit)) :
    failing results = [] ↔ ∀ x ∈ results, x.2 = .ok () := by
  rw [failing, List.filterMap_eq_nil_iff]
  apply forall₂_congr
  rintro ⟨name, e | _⟩ -
  · simp
  · simp

mutual

/-- A start succeeds if and only if all leaves do. -/
theorem Starts.eq_ok_iff {a : Assembly} {answers : List (Except EvaluationError Unit)}
    {outcome : Except EvaluationError Unit} :
    Starts a answers outcome → (outcome = .ok () ↔ ∀ x ∈ answers, x = .ok ())
  | .leaf p outcome => by simp
  | .cached digest owner h => h.eq_ok_iff
  | .isolated owner more h => h.eq_ok_iff
  | .started strategy h hnone => by
    rw [← h.all_ok_iff, ← failing_eq_nil_iff]
    exact iff_of_true rfl hnone
  | .failed strategy h hsome => by
    rw [← h.all_ok_iff, ← failing_eq_nil_iff]
    exact iff_of_false (fun h => nomatch h) hsome

theorem StartsAll.all_ok_iff {members : List (String × Nat × Assembly)}
    {answers : List (Except EvaluationError Unit)}
    {results : List (String × Except EvaluationError Unit)} :
    StartsAll members answers results →
      ((∀ x ∈ results, x.2 = .ok ()) ↔ ∀ x ∈ answers, x = .ok ())
  | .nil => by simp
  | .cons name owner h hrest => by
    rw [List.forall_mem_cons, List.forall_mem_append, h.eq_ok_iff, hrest.all_ok_iff]

end

/-! ## Tours of assemblies -/

theorem startAll_tours (c : Context) (members : List (String × Nat × Assembly))
    (h : ∀ x ∈ members,
      Tours (·.start c) (x.2.2.provider.start c) x.2.2.stops (Starts x.2.2)) :
    Tours (·.start c) (Multi.startAll c (members.map member))
      (members.flatMap fun x => x.2.2.stops) fun answers errors =>
        ∃ results, StartsAll members answers results ∧ errors = failing results := by
  induction members with
  | nil =>
    refine (Tours.pure []).mono ?_
    rintro _ _ ⟨rfl, rfl⟩
    exact ⟨[], .nil, rfl⟩
  | cons x rest ih =>
    have hfirst := h x List.mem_cons_self
    have hrest := ih fun y hy => h y (List.mem_cons_of_mem x hy)
    -- what the first member answers stands in front, whatever those behind it answer
    have hbehind (outcome : Except EvaluationError Unit) : Tours (·.start c)
        (do
          let errors ← Multi.startAll c (rest.map member)
          match outcome with
          | .ok () => return errors
          | .error e => return (x.1, e) :: errors)
        (rest.flatMap fun y => y.2.2.stops) fun answers errors =>
          ∃ results, StartsAll rest answers results ∧
            errors = failing ((x.1, outcome) :: results) := by
      cases outcome with
      | ok =>
        refine (hrest.andThen fun errors => Tours.pure errors).mono ?_
        rintro answers _ ⟨_, ⟨results, hall, rfl⟩, rfl⟩
        exact ⟨results, hall, rfl⟩
      | error e =>
        refine (hrest.andThen fun errors => Tours.pure ((x.1, e) :: errors)).mono ?_
        rintro answers _ ⟨_, ⟨results, hall, rfl⟩, rfl⟩
        exact ⟨results, hall, rfl⟩
    rw [List.map_cons, Multi.startAll, List.flatMap_cons]
    refine (Tours.report _ _ _).after ((hfirst.bind hbehind).mono ?_)
    rintro _ _ ⟨answers, outcome, answers', rfl, hstarts, results, hall, rfl⟩
    exact ⟨(x.1, outcome) :: results, .cons x.1 x.2.1 hstarts hall, rfl⟩

/-- A start comes by every place of an assembly, also behind leaves that fail. -/
theorem start_tours (a : Assembly) (c : Context) :
    Tours (·.start c) (a.provider.start c) a.stops (Starts a) := by
  induction a with
  | leaf p =>
    refine (Tours.leaf p).mono ?_
    rintro _ outcome rfl
    exact .leaf p outcome
  | cached digest owner inner ih =>
    exact (Tours.forget owner).after (ih.mono fun _ _ h => .cached digest owner h)
  | isolated owner inner more ih => exact ih.mono fun _ _ h => .isolated owner more h
  | combined strategy members ih =>
    rw [provider_combined, stops_combined]
    refine ((startAll_tours c members ih).andThen (P := fun errors outcome => outcome =
      if errors = [] then .ok () else .error (Fault.membersNotStarted errors).error)
      fun errors => ?_).mono ?_
    · cases errors with
      | nil => exact Tours.pure _
      | cons e errors => exact Tours.pure _
    · rintro answers _ ⟨_, ⟨results, hall, rfl⟩, rfl⟩
      by_cases hnone : failing results = []
      · rw [if_pos hnone]
        exact .started strategy hall hnone
      · rw [if_neg hnone]
        exact .failed strategy hall hnone

theorem stop_tours (a : Assembly) :
    Tours (·.stop) a.provider.stop a.stops fun _ _ => True := by
  induction a with
  | leaf p => exact (Tours.leaf p).mono fun _ _ _ => trivial
  | cached digest owner inner ih => exact (Tours.forget owner).after ih
  | isolated owner inner more ih => exact ih
  | combined strategy members ih =>
    rw [provider_combined, stops_combined]
    show Tours _ ((members.map member).forM (·.isolator.provider.stop)) _ _
    induction members with
    | nil => exact (Tours.pure ()).mono fun _ _ _ => trivial
    | cons x rest hrest =>
      rw [List.flatMap_cons]
      have hbehind := hrest fun y hy => ih y (List.mem_cons_of_mem x hy)
      exact ((ih x List.mem_cons_self).bind fun _ => hbehind).mono fun _ _ _ => trivial

theorem client_start_tours (a : Assembly) (name : String) (own : Context) (hooks : List Hook) :
    Tours (·.start own) (a.client name own hooks).start a.stops (Starts a) := by
  refine (Tours.report _ _ _).after (((a.start_tours own).andThen
    (P := fun outcome r => r = outcome) fun outcome => ?_).mono ?_)
  · cases outcome with
    | ok => exact Tours.pure _
    | error e => exact (Tours.report _ _ _).after (Tours.pure _)
  · rintro answers _ ⟨outcome, h, rfl⟩
    exact h

/-- Behind a tour of an assembly whose leaves put nothing into its caches, these are empty. -/
theorem empties {visit : Provider → Eval α} {a : Assembly} {x : Eval β} {R : List α → β → Prop}
    (h : Tours visit x a.stops R) (hspares : ∀ p ∈ a.leaves, (visit p).SparesEmpty a.caches)
    {s s' : Store} {b : β} (hrun : x.on s = (.ok b, s')) :
    ∀ owner ∈ a.caches, (s'.caches owner).size = 0 := by
  intro owner howner
  have htoured := h s
  rw [hrun] at htoured
  cases htoured with
  | whole tour =>
    have hstop := cache_mem_stops howner
    exact tour.empties (fun p hp => hspares p (mem_leaves hp)) howner (.inr hstop)

/-- A start and a stop reach every leaf of an assembly once and in order, also behind leaves that
fail, unless one of them crashes. A start succeeds if and only if all leaves do, and a combination
fails with the errors of those of its members that fail. All caches are empty afterwards. -/
theorem lifecycle_reaches_all (a : Assembly) (name : String) (own : Context) (hooks : List Hook) :
    Tours (·.start own) (a.client name own hooks).start a.stops
      (fun answers r => Starts a answers r ∧ (r = .ok () ↔ ∀ x ∈ answers, x = .ok ())) ∧
    Tours (·.stop) (a.client name own hooks).stop a.stops (fun _ _ => True) ∧
    ((∀ p ∈ a.leaves, (p.start own).SparesEmpty a.caches) → ∀ s r s',
      (a.client name own hooks).start.on s = (.ok r, s') →
      ∀ owner ∈ a.caches, (s'.caches owner).size = 0) ∧
    ((∀ p ∈ a.leaves, p.stop.SparesEmpty a.caches) → ∀ s s',
      (a.client name own hooks).stop.on s = (.ok (), s') →
      ∀ owner ∈ a.caches, (s'.caches owner).size = 0) := by
  have hstart := a.client_start_tours name own hooks
  have hstop : Tours (·.stop) (a.client name own hooks).stop a.stops fun _ _ => True := a.stop_tours
  refine ⟨hstart.mono fun answers r h => ⟨h, h.eq_ok_iff⟩, hstop, ?_, ?_⟩
  · intro hspares s r s' hrun
    exact empties hstart hspares hrun
  · intro hspares s s' hrun
    exact empties hstop hspares hrun

/-- A leaf that notes when it is started, and may fail to. -/
def starting (name : String) (owner : Nat) (failStart : Option EvaluationError) : Assembly :=
  .leaf (Scripted.Wrapping.wrap
    { name := none
      hooks := []
      failStart
      startStatus := none
      stopStatus := none
      crashes := false
      channel := some "calls" }
    owner (Scripted.fixed name (.ofValue .null)))

theorem lifecycle_reaches_all_failing :
    let a := Assembly.combined .firstMatch
      [("x", 0, .cached Md5.hex 0 (starting "x" 0 (some ⟨.general, some "down"⟩))),
        ("y", 1, .cached Md5.hex 1 (starting "y" 1 none))]
    let full := (Cache.ofSettings {}).insert "key" (.ofValue .null) 0
    let s := { Store.fresh 0 with caches := fun _ => full }
    ∃ s', (s.caches 0).size = 1 ∧ (a.client "" .empty []).start.on s =
        (.ok (.error ⟨.general, some "providers failed to initialize: x: GENERAL: down"⟩), s') ∧
      s'.journal = [("calls", .start "x" .empty), ("calls", .start "y" .empty)] ∧
      (∀ p ∈ a.leaves, (p.start .empty).SparesEmpty a.caches) ∧
      (∀ owner ∈ a.caches, (s'.caches owner).size = 0) ∧
      ∀ s'', (a.client "" .empty []).stop.on s' = (.ok (), s'') →
        ∀ owner ∈ a.caches, (s''.caches owner).size = 0 := by
  intro a full s
  have hstart : ∀ p ∈ a.leaves, (p.start .empty).SparesEmpty a.caches :=
    List.forall_mem_cons.2 ⟨fun _ _ _ h => h, List.forall_mem_singleton.2 fun _ _ _ h => h⟩
  have hstop : ∀ p ∈ a.leaves, p.stop.SparesEmpty a.caches :=
    List.forall_mem_cons.2 ⟨fun _ _ _ h => h, List.forall_mem_singleton.2 fun _ _ _ h => h⟩
  have hlaw := lifecycle_reaches_all a "" .empty []
  exact ⟨_, rfl, rfl, rfl, hstart, hlaw.2.2.1 hstart _ _ _ rfl, fun s'' hrun =>
    hlaw.2.2.2 hstop _ s'' hrun⟩

end Assembly

end FeatureFlags
