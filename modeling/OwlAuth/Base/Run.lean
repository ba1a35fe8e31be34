import Mathlib.Data.Finset.Prod
import Mathlib.Data.Int.Interval
import Mathlib.Data.List.Basic
import Mathlib.Data.List.Nodup

/-!
# Runs of a deterministic machine

A machine is a function `step : α → σ → σ` from labels (calls) to state changes.  A run is the
list of the labels taken, so "every interleaving" is "every list".

* `run step s as`  the state after the calls `as`;
* `run_inv`, `run_rel`  what one step keeps, or relates to its result, a run does;
* `exists_step`  what a run acquired, one of its steps acquired;
* `Along step P s as`  every call of the run met `P` in the state it was made in;
* `run_inv_along`  the invariant rule for such runs;
* `along_inv`  what the calls of such runs meet as well;
* `trace step emit s as`  what the calls of the run emitted, in order;
* `trace_inv`  an invariant that ties the state to the history;
* `mem_trace`  an emitted value was emitted by one call of the run;
* `trace_pairwise`  what each emitted value has to the later ones;
* `trace_nodup`  a run emits nothing twice if no call does and no later call repeats it;
* `trace_le_one`  a run emits at most once if no call does so after another;
* `length_le_of_levels`  how much a run can emit that counts up on each of finitely many levels.
-/

namespace Machine

section
variable {σ α β : Type} (step : α → σ → σ)

/-- the state after the calls `as`, the head of the list first -/
def run (s : σ) : List α → σ
  | [] => s
  | a :: as => run (step a s) as

theorem run_append (s : σ) (as bs : List α) :
    run step s (as ++ bs) = run step (run step s as) bs := by
  induction as generalizing s with
  | nil => rfl
  | cons a as ih => exact ih (step a s)

theorem run_snoc (s : σ) (as : List α) (a : α) :
    run step s (as ++ [a]) = step a (run step s as) := by
  rw [run_append]; rfl

theorem run_inv {I : σ → Prop} (hstep : ∀ s a, I s → I (step a s)) (as : List α) :
    ∀ {s : σ}, I s → I (run step s as) := by
  induction as with
  | nil => intro s h; exact h
  | cons a as ih => intro s h; exact ih (hstep s a h)

theorem run_rel {I : σ → Prop} {R : σ → σ → Prop} (hrefl : ∀ s, R s s)
    (htrans : ∀ s t u, R s t → R t u → R s u) (hI : ∀ s a, I s → I (step a s))
    (hstep : ∀ s a, I s → R s (step a s)) (as : List α) : ∀ {s : σ}, I s → R s (run step s as) := by
  induction as with
  | nil => intro s _; exact hrefl s
  | cons a as ih => intro s h; exact htrans _ _ _ (hstep s a h) (ih (hI s a h))

variable {as : List α}

theorem exists_step {P : σ → Prop} {s : σ} (hs : ¬ P s) (h : P (run step s as)) :
    ∃ pre a post, as = pre ++ a :: post ∧ ¬ P (run step s pre) ∧ P (step a (run step s pre)) := by
  induction as generalizing s with
  | nil => exact absurd h hs
  | cons a as ih =>
    by_cases ha : P (step a s)
    · exact ⟨[], a, as, rfl, hs, ha⟩
    · obtain ⟨pre, b, post, rfl, hpre, hb⟩ := ih ha h
      exact ⟨a :: pre, b, post, rfl, hpre, hb⟩

/-! ## runs whose calls meet a condition -/

/-- every call met `P` in the state it was made in -/
def Along (P : σ → α → Prop) : σ → List α → Prop
  | _, [] => True
  | s, a :: as => P s a ∧ Along P (step a s) as

instance Along.decidable (P : σ → α → Prop) [∀ s a, Decidable (P s a)] :
    ∀ (s : σ) (as : List α), Decidable (Along step P s as)
  | _, [] => isTrue trivial
  | s, a :: as =>
    have := Along.decidable P (step a s) as
    inferInstanceAs (Decidable (_ ∧ _))

theorem along_append (P : σ → α → Prop) (s : σ) (as bs : List α) :
    Along step P s (as ++ bs) ↔ Along step P s as ∧ Along step P (run step s as) bs := by
  induction as generalizing s with
  | nil => exact ⟨fun h => ⟨trivial, h⟩, fun h => h.2⟩
  | cons a as ih =>
    show (P s a ∧ Along step P (step a s) (as ++ bs))
      ↔ (P s a ∧ Along step P (step a s) as) ∧ Along step P (run step (step a s) as) bs
    rw [ih (step a s), and_assoc]

theorem along_of_forall {P : α → Prop} (s : σ) (h : ∀ a ∈ as, P a) :
    Along step (fun _ a => P a) s as := by
  induction as generalizing s with
  | nil => trivial
  | cons a as ih =>
    exact ⟨h a List.mem_cons_self, ih (step a s) fun b hb => h b (List.mem_cons_of_mem _ hb)⟩

theorem along_of_mem {P Q : σ → α → Prop} : ∀ {s : σ}, Along step P s as →
    (∀ s, ∀ a ∈ as, P s a → Q s a) → Along step Q s as := by
  induction as with
  | nil => intro _ _ _; trivial
  | cons a as ih =>
    intro s h hQ
    exact ⟨hQ s a List.mem_cons_self h.1, ih h.2 fun t b hb => hQ t b (List.mem_cons_of_mem _ hb)⟩

theorem run_inv_along {P : σ → α → Prop} {I : σ → Prop}
    (hstep : ∀ s a, I s → P s a → I (step a s)) (as : List α) :
    ∀ {s : σ}, I s → Along step P s as → I (run step s as) := by
  induction as with
  | nil => intro s h _; exact h
  | cons a as ih => intro s h hP; exact ih (hstep s a h hP.1) hP.2

theorem along_inv {P Q : σ → α → Prop} {I : σ → Prop}
    (hstep : ∀ s a, I s → P s a → I (step a s)) (hQ : ∀ s a, I s → P s a → Q s a)
    (as : List α) : ∀ {s : σ}, I s → Along step P s as → Along step Q s as := by
  induction as with
  | nil => intro _ _ _; trivial
  | cons a as ih => intro s h hP; exact ⟨hQ s a h hP.1, ih (hstep s a h hP.1) hP.2⟩

/-! ## what a run emitted -/

variable (emit : α → σ → List β)

/-- everything the calls of the run emitted, in order -/
def trace (s : σ) : List α → List β
  | [] => []
  | a :: as => emit a s ++ trace (step a s) as

theorem trace_append (s : σ) (as bs : List α) :
    trace step emit s (as ++ bs) = trace step emit s as ++ trace step emit (run step s as) bs := by
  induction as generalizing s with
  | nil => rfl
  | cons a as ih =>
    show emit a s ++ trace step emit (step a s) (as ++ bs)
      = (emit a s ++ trace step emit (step a s) as) ++ trace step emit (run step (step a s) as) bs
    rw [ih, List.append_assoc]

theorem trace_inv_along {P : σ → α → Prop} {J : σ → List β → Prop}
    (hstep : ∀ s l a, J s l → P s a → J (step a s) (l ++ emit a s)) (as : List α) :
    ∀ {s : σ} {l : List β}, J s l → Along step P s as →
      J (run step s as) (l ++ trace step emit s as) := by
  induction as with
  | nil => intro s l h _; rw [trace, List.append_nil]; exact h
  | cons a as ih =>
    intro s l h hP
    have h' := ih (hstep s l a h hP.1) hP.2
    rw [List.append_assoc] at h'
    exact h'

theorem trace_inv {J : σ → List β → Prop}
    (hstep : ∀ s l a, J s l → J (step a s) (l ++ emit a s)) (as : List α) {s : σ} {l : List β}
    (h : J s l) : J (run step s as) (l ++ trace step emit s as) :=
  trace_inv_along step emit (P := fun _ _ => True) (fun s l a h _ => hstep s l a h) as h
    (along_of_forall step s fun _ _ => trivial)

theorem mem_trace {s : σ} {b : β} :
    b ∈ trace step emit s as ↔
      ∃ pre a post, as = pre ++ a :: post ∧ b ∈ emit a (run step s pre) := by
  induction as generalizing s with
  | nil =>
    constructor
    · intro h; cases h
    · rintro ⟨pre, a, post, h, _⟩
      cases pre <;> cases h
  | cons c as ih =>
    show b ∈ emit c s ++ trace step emit (step c s) as ↔ _
    rw [List.mem_append, ih]
    constructor
    · rintro (h | ⟨pre, a, post, rfl, h⟩)
      · exact ⟨[], c, as, rfl, h⟩
      · exact ⟨c :: pre, a, post, rfl, h⟩
    · rintro ⟨pre, a, post, h, hb⟩
      cases pre with
      | nil =>
        obtain ⟨rfl, rfl⟩ := List.cons.inj h
        exact .inl hb
      | cons p pre =>
        obtain ⟨rfl, rfl⟩ := List.cons.inj h
        exact .inr ⟨pre, a, post, rfl, hb⟩

theorem trace_pairwise {R : β → β → Prop} : ∀ {s : σ},
    (∀ pre a post, as = pre ++ a :: post → (emit a (run step s pre)).Pairwise R) →
    (∀ pre a mid b post, as = pre ++ a :: (mid ++ b :: post) → ∀ x ∈ emit a (run step s pre),
      ∀ y ∈ emit b (run step s (pre ++ a :: mid)), R x y) → (trace step emit s as).Pairwise R := by
  induction as with
  | nil => intro s _ _; exact List.Pairwise.nil
  | cons c as ih =>
    intro s hone htwo
    show (emit c s ++ trace step emit (step c s) as).Pairwise R
    refine List.pairwise_append.mpr ⟨hone [] c as rfl, ?_, ?_⟩
    · refine ih ?_ ?_
      · intro pre a post he
        exact hone (c :: pre) a post (by rw [he]; rfl)
      · intro pre a mid b post he
        exact htwo (c :: pre) a mid b post (by rw [he]; rfl)
    · intro x hx y hy
      obtain ⟨pre, b, post, rfl, hb⟩ := (mem_trace step emit).mp hy
      exact htwo [] c pre b post rfl x hx y hb

theorem trace_nodup {s : σ}
    (hone : ∀ pre a post, as = pre ++ a :: post → (emit a (run step s pre)).Nodup)
    (htwo : ∀ pre a mid b post, as = pre ++ a :: (mid ++ b :: post) →
      ∀ x ∈ emit a (run step s pre), x ∉ emit b (run step s (pre ++ a :: mid))) :
    (trace step emit s as).Nodup := by
  refine trace_pairwise step emit hone ?_
  intro pre a mid b post he x hx y hy hxy
  exact htwo pre a mid b post he x hx (hxy ▸ hy)

theorem pairwise_of_length_le_one {R : β → β → Prop} {l : List β} (h : l.length ≤ 1) :
    l.Pairwise R := by
  match l with
  | [] => exact List.Pairwise.nil
  | [b] => exact List.pairwise_singleton R b

theorem trace_le_one {s : σ} (hone : ∀ a s, (emit a s).length ≤ 1)
    (htwo : ∀ pre a mid b post, as = pre ++ a :: (mid ++ b :: post) →
      ∀ x ∈ emit a (run step s pre), ∀ y ∈ emit b (run step s (pre ++ a :: mid)), False) :
    (trace step emit s as).length ≤ 1 := by
  have hpair : (trace step emit s as).Pairwise fun _ _ => False :=
    trace_pairwise step emit (fun pre a _ _ => pairwise_of_length_le_one (hone a _)) htwo
  match h : trace step emit s as with
  | [] => exact Nat.zero_le 1
  | [b] => exact Nat.le_refl 1
  | b :: c :: l =>
    rw [h] at hpair
    exact ((List.pairwise_cons.mp hpair).1 c List.mem_cons_self).elim

end

theorem length_le_of_levels {β : Type} (level count : β → Int) {l : List β} {g m : Int}
    (hl : l.Pairwise fun a b => level a = level b → count a < count b)
    (hlevel : ∀ b ∈ l, 1 ≤ level b ∧ level b ≤ g) (hcount : ∀ b ∈ l, 0 ≤ count b ∧ count b < m)
    (hg : 0 ≤ g) (hm : 0 ≤ m) : (l.length : Int) ≤ m * g := by
  -- level and count together name a value, so the list injects into a box of `g * m` pairs
  have hnodup : (l.map fun b => (level b, count b)).Nodup := by
    refine List.pairwise_map.mpr (hl.imp ?_)
    intro a b hab he
    obtain ⟨h₁, h₂⟩ := Prod.mk.inj he
    have := hab h₁
    omega
  have hsub : (l.map fun b => (level b, count b)).toFinset
      ⊆ Finset.Icc 1 g ×ˢ Finset.Ico 0 m := by
    intro p hp
    obtain ⟨b, hb, rfl⟩ := List.mem_map.mp (List.mem_toFinset.mp hp)
    exact Finset.mem_product.mpr
      ⟨Finset.mem_Icc.mpr (hlevel b hb), Finset.mem_Ico.mpr (hcount b hb)⟩
  have hcard := Finset.card_le_card hsub
  rw [List.toFinset_card_of_nodup hnodup, List.length_map, Finset.card_product, Int.card_Icc,
    Int.card_Ico] at hcard
  calc (l.length : Int) ≤ (((g + 1 - 1).toNat * (m - 0).toNat : Nat) : Int) := by
        exact_mod_cast hcard
    _ = m * g := by
      rw [Int.natCast_mul, Int.toNat_of_nonneg (by omega), Int.toNat_of_nonneg (by omega),
        Int.add_sub_cancel, Int.sub_zero, Int.mul_comm]

end Machine
