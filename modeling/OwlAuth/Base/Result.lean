import Mathlib.Logic.Basic
import Mathlib.Data.List.Basic

/-!
# Fallible computations: peeling a successful run into its steps

A body of `Except` code that ended in `.ok` passed every check on its way.  The lemmas here take
such a run apart one step at a time:

* `ensure c e`  go on only if `c` holds, otherwise stop with `e`;
* `require o e`  the value of `o`, or stop with `e`;
* `bind_ok`, `peel₂`, `peel₃`, `bind_some₂`, `bind_some₃`  binds that ended well, as their
    halves (`unit_bind` where the first half only checks);
* `later`, `later₂`, `later₃`  what comes after steps that nothing is needed of;
* `ensure_ok`, `require_ok`  what the two checks leave behind;
* `ensure_of`, `ensure_not`  a check that passes, and one that does not;
* `foldOk_inv`, `forM_ok`, `mapM_ok`  the same for loops over lists;
* `Yields x P`  whatever `x` ends well with has `P`, with a rule for each way to compose `x`.
-/

namespace Fallible

section
variable {ε α β γ δ : Type}

/-- go on only if `c` holds -/
def ensure (c : Prop) [Decidable c] (e : ε) : Except ε Unit :=
  if c then .ok () else .error e

/-- the value of `o`, or stop -/
def require (o : Option α) (e : ε) : Except ε α :=
  match o with
  | some a => .ok a
  | none => .error e

variable {x : Except ε α}

theorem bind_ok {f : α → Except ε β} {b : β} :
    (x >>= f) = .ok b ↔ ∃ a, x = .ok a ∧ f a = .ok b := by
  cases x with
  | error e => exact ⟨fun h => (by cases h), fun ⟨_, h, _⟩ => (by cases h)⟩
  | ok a => exact ⟨fun h => ⟨a, rfl, h⟩, fun ⟨_, h, h'⟩ => by cases h; exact h'⟩

theorem peel₂ {f : α → Except ε β} {g : α → β → Except ε γ} {c : γ}
    (h : (x >>= fun a => f a >>= g a) = .ok c) :
    ∃ a, x = .ok a ∧ ∃ b, f a = .ok b ∧ g a b = .ok c := by
  simpa only [bind_ok] using h

theorem peel₃ {f : α → Except ε β} {g : α → β → Except ε γ} {k : α → β → γ → Except ε δ} {d : δ}
    (h : (x >>= fun a => f a >>= fun b => g a b >>= k a b) = .ok d) :
    ∃ a, x = .ok a ∧ ∃ b, f a = .ok b ∧ ∃ c, g a b = .ok c ∧ k a b c = .ok d := by
  simpa only [bind_ok] using h

theorem unit_bind {x : Except ε Unit} {f : Unit → Except ε β} {b : β} :
    (x >>= f) = .ok b ↔ x = .ok () ∧ f () = .ok b :=
  bind_ok.trans ⟨fun ⟨_, h⟩ => h, fun h => ⟨(), h⟩⟩

theorem later {f : α → Except ε β} {b : β} (h : (x >>= f) = .ok b) : ∃ a, f a = .ok b :=
  (bind_ok.mp h).imp fun _ => And.right

theorem later₂ {f : α → Except ε β} {g : α → β → Except ε γ} {c : γ}
    (h : (x >>= fun a => f a >>= g a) = .ok c) : ∃ a b, g a b = .ok c :=
  (later h).imp fun _ => later

theorem later₃ {f : α → Except ε β} {g : α → β → Except ε γ} {k : α → β → γ → Except ε δ} {d : δ}
    (h : (x >>= fun a => f a >>= fun b => g a b >>= k a b) = .ok d) : ∃ a b c, k a b c = .ok d :=
  (later h).imp fun _ => later₂

def Yields (x : Except ε α) (P : α → Prop) : Prop := ∀ a, x = .ok a → P a

namespace Yields

variable {P : β → Prop} {y y' : Except ε β}

theorem bind {f : α → Except ε β} (h : ∀ a, Yields (f a) P) : Yields (x >>= f) P := by
  intro b hb
  obtain ⟨a, hb⟩ := later hb
  exact h a b hb

theorem pure {b : β} (h : P b) : Yields (.ok b : Except ε β) P := by
  rintro _ ⟨⟩
  exact h

theorem error {e : ε} : Yields (.error e) P := nofun

theorem ite {c : Prop} [Decidable c] (h : Yields y P) (h' : Yields y' P) :
    Yields (if c then y else y') P := by
  split
  · exact h
  · exact h'

end Yields

theorem bind_some₂ {x : Option α} {f : α → Option β} {g : α → β → Option γ} {c : γ} :
    (x >>= fun a => f a >>= g a) = some c
      ↔ ∃ a, x = some a ∧ ∃ b, f a = some b ∧ g a b = some c := by
  simp only [Option.bind_eq_bind, Option.bind_eq_some_iff]

theorem bind_some₃ {x : Option α} {f : α → Option β} {g : α → β → Option γ}
    {k : α → β → γ → Option δ} {d : δ} :
    (x >>= fun a => f a >>= fun b => g a b >>= k a b) = some d
      ↔ ∃ a, x = some a ∧ ∃ b, f a = some b ∧ ∃ c, g a b = some c ∧ k a b c = some d := by
  simp only [Option.bind_eq_bind, Option.bind_eq_some_iff]

theorem ok_bind (a : α) (f : α → Except ε β) : (Except.ok a >>= f) = f a := rfl

theorem ensure_ok {c : Prop} [Decidable c] {e : ε} {u} : ensure c e = .ok u ↔ c := by
  unfold ensure
  by_cases h : c
  · rw [if_pos h]; exact ⟨fun _ => h, fun _ => rfl⟩
  · rw [if_neg h]; exact ⟨fun h' => (by cases h'), fun h' => absurd h' h⟩

theorem ensure_of {c : Prop} [Decidable c] (e : ε) (h : c) : ensure c e = .ok () := if_pos h

theorem ensure_not {c : Prop} [Decidable c] (e : ε) (h : ¬ c) : ensure c e = .error e := if_neg h

theorem require_ok {o} {e : ε} {a : α} : require o e = .ok a ↔ o = some a := by
  cases o with
  | none => exact ⟨fun h => (by cases h), fun h => (by cases h)⟩
  | some b => exact ⟨fun h => (by cases h; rfl), fun h => (by cases h; rfl)⟩

/-- a fallible left fold: the first failure stops it -/
def foldOk (f : β → α → Except ε β) : β → List α → Except ε β
  | b, [] => .ok b
  | b, a :: as => f b a >>= fun b' => foldOk f b' as

theorem foldOk_cons (f : β → α → Except ε β) (b : β) (a : α) (as : List α) :
    foldOk f b (a :: as) = f b a >>= fun b' => foldOk f b' as := rfl

theorem foldOk_inv {f : β → α → Except ε β} {as} (I : β → Prop)
    (hstep : ∀ b a b', a ∈ as → I b → f b a = .ok b' → I b') :
    ∀ {b b' : β}, I b → foldOk f b as = .ok b' → I b' := by
  induction as with
  | nil => intro b b' hb h; cases h; exact hb
  | cons a as ih =>
    intro b b' hb h
    rw [foldOk_cons] at h
    obtain ⟨c, hc, h⟩ := bind_ok.mp h
    exact ih (fun b a b' ha => hstep b a b' (List.mem_cons_of_mem _ ha))
      (hstep b a c List.mem_cons_self hb hc) h

variable {l : List α}

theorem forM_ok {f : α → Except ε Unit} {u : Unit} (h : l.forM f = .ok u) :
    ∀ a ∈ l, f a = .ok () := by
  induction l with
  | nil => intro a ha; cases ha
  | cons b l ih =>
    obtain ⟨_, hb, h⟩ := bind_ok.mp h
    intro a ha
    rcases List.mem_cons.mp ha with rfl | ha
    · exact hb
    · exact ih h a ha

theorem mapM_ok {f : α → Except ε β} {bs} (h : l.mapM f = .ok bs) :
    ∀ a ∈ l, ∃ b ∈ bs, f a = .ok b := by
  induction l generalizing bs with
  | nil => intro a ha; cases ha
  | cons c l ih =>
    rw [List.mapM_cons] at h
    obtain ⟨b, hb, h⟩ := bind_ok.mp h
    obtain ⟨_, hrest, h⟩ := bind_ok.mp h
    cases h
    intro a ha
    rcases List.mem_cons.mp ha with rfl | ha
    · exact ⟨b, List.mem_cons_self, hb⟩
    · obtain ⟨b', hb', hf⟩ := ih hrest a ha
      exact ⟨b', List.mem_cons_of_mem b hb', hf⟩

theorem mapM_of_ok {f : α → Except ε β} {g : α → β} (h : ∀ a ∈ l, f a = .ok (g a)) :
    l.mapM f = .ok (l.map g) := by
  induction l with
  | nil => rfl
  | cons c l ih =>
    rw [List.mapM_cons, h c List.mem_cons_self, ok_bind,
      ih fun a ha => h a (List.mem_cons_of_mem _ ha)]
    rfl

theorem mapM_map {γ : Type} {f : α → Except ε β} {g : α → γ} {g' : β → γ}
    (hf : ∀ a b, f a = .ok b → g' b = g a) {bs} (h : l.mapM f = .ok bs) : bs.map g' = l.map g := by
  induction l generalizing bs with
  | nil =>
    cases h
    rfl
  | cons c l ih =>
    rw [List.mapM_cons] at h
    obtain ⟨b, hb, h⟩ := bind_ok.mp h
    obtain ⟨_, hrest, h⟩ := bind_ok.mp h
    cases h
    rw [List.map_cons, List.map_cons, hf c b hb, ih hrest]

end

end Fallible
