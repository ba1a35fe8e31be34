import OwlAuth.Base.Result

/-!
# Two runs side by side

* `Agree R x y`  two fallible computations fail alike, or succeed with `R`-related values;
  `Agree.same_bind`  what they do alike first can be taken off;
* `play`  a dialogue with a machine: each call may be chosen from the replies so far, so
    a fixed sequence of calls is the case in which no choice looks at them;
* `play_lockstep`  machines whose replies do not tell related states apart cannot be told apart by
    any dialogue.
-/

namespace Fallible

section
variable {ε α α' β β' : Type}

/-- both fail with one error, or both succeed with related values -/
inductive Agree (R : α → α' → Prop) : Except ε α → Except ε α' → Prop
  | error (e : ε) : Agree R (.error e) (.error e)
  | ok {a : α} {a' : α'} (h : R a a') : Agree R (.ok a) (.ok a')

theorem Agree.same_bind {S : β → β' → Prop} {x} {f : α → Except ε β}
    {f' : α → Except ε β'} (hf : ∀ a, Agree S (f a) (f' a)) : Agree S (x >>= f) (x >>= f') := by
  cases x with
  | error e => exact .error e
  | ok a => exact hf a

end

end Fallible

namespace Machine

section
variable {σ α β : Type} (step : α → σ → σ) (reply : α → σ → β)

/-- the state and the replies after a dialogue, the first move first -/
def play : List (List β → α) → σ → List β → σ × List β
  | [], s, seen => (s, seen)
  | move :: moves, s, seen =>
    play moves (step (move seen) s) (seen ++ [reply (move seen) s])

theorem play_lockstep {R : σ → σ → Prop} (hreply : ∀ s t a, R s t → reply a s = reply a t)
    (hstep : ∀ s t a, R s t → R (step a s) (step a t)) (moves : List (List β → α)) :
    ∀ {s t : σ} (seen : List β), R s t →
      (play step reply moves s seen).2 = (play step reply moves t seen).2
        ∧ R (play step reply moves s seen).1 (play step reply moves t seen).1 := by
  induction moves with
  | nil => intro s t seen h; exact ⟨rfl, h⟩
  | cons move moves ih =>
    intro s t seen h
    show (play step reply moves (step (move seen) s) (seen ++ [reply (move seen) s])).2
        = (play step reply moves (step (move seen) t) (seen ++ [reply (move seen) t])).2 ∧ _
    rw [hreply s t (move seen) h]
    have := ih (seen ++ [reply (move seen) t]) (hstep s t (move seen) h)
    refine ⟨this.1, ?_⟩
    show R (play step reply moves (step (move seen) s) (seen ++ [reply (move seen) s])).1 _
    rw [hreply s t (move seen) h]
    exact this.2

end

end Machine
