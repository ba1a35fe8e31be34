import Mathlib.Algebra.Order.BigOperators.Group.List
import Mathlib.Algebra.Order.Group.Nat
import OwlAuth.Base.Run

/-!
# Tasks over a shared store

Several tasks work on one store.  A move enters a request, which may start tasks, lets one task take
its next step, or makes a task disappear; what a task remembers between its steps is its own, so a
move is all there is to an interleaving with crashes.

* `Pool.step`  one move;
* `Pool.said`  what the move said to the outside;
* `Sound`, `step_sound`  an invariant of the store, and one of each task that the changes of the store
    keep;
* `account_step`  bookkeeping: what tasks may still say and what was said never exceeds what
    the store accounts for.
-/

namespace Pool

/-- what a step leaves behind: the store, the tasks that go on, and what was said -/
structure Outcome (σ τ β : Type) where
  store : σ
  next : List τ
  said : List β

structure State (σ τ : Type) where
  store : σ
  tasks : List τ

inductive Move (α ι : Type)
  | enter (a : α)
  | advance (n : Nat) (i : ι)
  | crash (n : Nat)

section
variable {σ τ β α ι : Type} (enter : α → σ → Outcome σ τ β) (advance : ι → τ → σ → Outcome σ τ β)

def step : Move α ι → State σ τ → State σ τ
  | .enter a, s => ⟨(enter a s.store).store, s.tasks ++ (enter a s.store).next⟩
  | .advance n i, s =>
    match s.tasks[n]? with
    | none => s
    | some t =>
      ⟨(advance i t s.store).store, s.tasks.eraseIdx n ++ (advance i t s.store).next⟩
  | .crash n, s => { s with tasks := s.tasks.eraseIdx n }

def said : Move α ι → State σ τ → List β
  | .enter a, s => (enter a s.store).said
  | .advance n i, s =>
    match s.tasks[n]? with
    | none => []
    | some t => (advance i t s.store).said
  | .crash _, _ => []

/-! ## what a move is -/

/-- a move did nothing to the store, or it was a request or the step of a task -/
inductive Cases (enter : α → σ → Outcome σ τ β) (advance : ι → τ → σ → Outcome σ τ β)
    (s : State σ τ) : Move α ι → State σ τ → List β → Prop
  | idle {m : Move α ι} {tasks : List τ} (kept : tasks.Sublist s.tasks) :
      Cases enter advance s m ⟨s.store, tasks⟩ []
  | entered (a : α) : Cases enter advance s (.enter a)
      ⟨(enter a s.store).store, s.tasks ++ (enter a s.store).next⟩ (enter a s.store).said
  | advanced (n : Nat) (i : ι) (t : τ) (at_n : s.tasks[n]? = some t) :
      Cases enter advance s (.advance n i)
        ⟨(advance i t s.store).store, s.tasks.eraseIdx n ++ (advance i t s.store).next⟩
        (advance i t s.store).said

variable {s : State σ τ}

theorem step_cases (m : Move α ι) (s : State σ τ) :
    Cases enter advance s m (step enter advance m s) (said enter advance m s) := by
  cases m with
  | enter a => exact .entered a
  | advance n i =>
    cases h : s.tasks[n]? with
    | none =>
      simp only [step, said, h]
      exact .idle (List.Sublist.refl s.tasks)
    | some t =>
      simp only [step, said, h]
      exact .advanced n i t h
  | crash n => exact .idle (List.eraseIdx_sublist s.tasks n)

variable {enter advance}

/-! ## invariants -/

/-- the store satisfies `I`, and what every task remembers is right -/
structure Sound (I : σ → Prop) (T : σ → τ → Prop) (s : State σ τ) : Prop where
  store : I s.store
  tasks : ∀ t ∈ s.tasks, T s.store t

/-- a step of a party that keeps the store sound and starts sound tasks -/
structure Keeps (I : σ → Prop) (T : σ → τ → Prop) (R : σ → σ → Prop) (s : σ)
    (o : Outcome σ τ β) : Prop where
  store : I o.store
  moved : R s o.store
  next : ∀ t ∈ o.next, T o.store t

variable {I : σ → Prop} {T : σ → τ → Prop} {R : σ → σ → Prop}

theorem step_sound (stable : ∀ s s' t, R s s' → T s t → T s' t) (m : Move α ι) (s : State σ τ)
    (henter : ∀ a, m = .enter a → I s.store → Keeps I T R s.store (enter a s.store))
    (hadvance : ∀ n i t, m = .advance n i → t ∈ s.tasks → I s.store → T s.store t →
      Keeps I T R s.store (advance i t s.store))
    (hs : Sound I T s) : Sound I T (step enter advance m s) := by
  have hc := step_cases enter advance m s
  generalize step enter advance m s = s' at hc
  generalize said enter advance m s = l at hc
  cases hc with
  | idle hsub => exact ⟨hs.store, fun t ht => hs.tasks t (hsub.subset ht)⟩
  | entered a =>
    have hk := henter a rfl hs.store
    refine ⟨hk.store, fun t ht => ?_⟩
    rcases List.mem_append.mp ht with ht | ht
    · exact stable _ _ _ hk.moved (hs.tasks t ht)
    · exact hk.next t ht
  | advanced n i t h =>
    have hmem := List.mem_of_getElem? h
    have hk := hadvance n i t rfl hmem hs.store (hs.tasks t hmem)
    refine ⟨hk.store, fun u hu => ?_⟩
    rcases List.mem_append.mp hu with hu | hu
    · exact stable _ _ _ hk.moved (hs.tasks u (List.mem_of_mem_eraseIdx hu))
    · exact hk.next u hu

/-! ## bookkeeping -/

/-- what the tasks hold and what was said is covered by the store -/
def Accounted (weight : τ → Nat) (mark : β → Nat) (budget : σ → Nat) (s : State σ τ)
    (l : List β) : Prop :=
  (s.tasks.map weight).sum + (l.map mark).sum ≤ budget s.store

theorem sum_eraseIdx (weight : τ → Nat) {tasks : List τ} {n : Nat} {t : τ}
    (h : tasks[n]? = some t) :
    ((tasks.eraseIdx n).map weight).sum + weight t = (tasks.map weight).sum := by
  induction tasks generalizing n with
  | nil => cases h
  | cons u tasks ih =>
    cases n with
    | zero =>
      cases h
      show (tasks.map weight).sum + weight t = weight t + (tasks.map weight).sum
      omega
    | succ n =>
      have hn := ih h
      show weight u + ((tasks.eraseIdx n).map weight).sum + weight t
        = weight u + (tasks.map weight).sum
      omega

theorem account_step {weight : τ → Nat} {mark : β → Nat} {budget : σ → Nat} {l : List β}
    (m : Move α ι) (henter : ∀ a, m = .enter a → ((enter a s.store).next.map weight).sum
      + ((enter a s.store).said.map mark).sum + budget s.store ≤ budget (enter a s.store).store)
    (hadvance : ∀ n i t, m = .advance n i → t ∈ s.tasks →
      ((advance i t s.store).next.map weight).sum + ((advance i t s.store).said.map mark).sum
        + budget s.store ≤ weight t + budget (advance i t s.store).store)
    (h : Accounted weight mark budget s l) :
    Accounted weight mark budget (step enter advance m s) (l ++ said enter advance m s) := by
  have hc := step_cases enter advance m s
  generalize step enter advance m s = s' at hc
  generalize said enter advance m s = said at hc
  unfold Accounted at h ⊢
  cases hc with
  | idle hsub =>
    have hle := (hsub.map weight).sum_le_sum fun _ _ => Nat.zero_le _
    rw [List.append_nil]
    exact Nat.le_trans (Nat.add_le_add_right hle _) h
  | entered a =>
    have ha := henter a rfl
    dsimp only
    rw [List.map_append, List.map_append, List.sum_append, List.sum_append]
    omega
  | advanced n i t ht =>
    have ha := hadvance n i t rfl (List.mem_of_getElem? ht)
    have he := sum_eraseIdx weight ht
    dsimp only
    rw [List.map_append, List.map_append, List.sum_append, List.sum_append]
    omega

end

end Pool
