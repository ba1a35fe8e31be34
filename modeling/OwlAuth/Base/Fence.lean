import Mathlib.Data.Int.ConditionallyCompleteOrder
import Mathlib.Order.ConditionallyCompleteLattice.Basic

/-!
# Fencing by an epoch

A view of a state is fenced by an epoch if the epoch never goes back and every change of the view
raises it.  Whoever finds the epoch they once read unchanged knows that the view was the same all
the while in between (`Fenced.between`), however many steps were taken.
-/

namespace Fence

section
variable {σ ε β : Type} [PartialOrder ε] {epoch : σ → ε} {view : σ → β}

/-- from `s` to `t` the epoch did not go back, and the view changed only if the epoch did -/
def Fenced (epoch : σ → ε) (view : σ → β) (s t : σ) : Prop :=
  epoch s ≤ epoch t ∧ (epoch t = epoch s → view t = view s)

theorem Fenced.refl (s : σ) : Fenced epoch view s s := ⟨le_refl _, fun _ => rfl⟩

theorem Fenced.of_view {s t : σ} (he : epoch s ≤ epoch t) (hv : view t = view s) :
    Fenced epoch view s t := ⟨he, fun _ => hv⟩

theorem Fenced.of_lt {s t : σ} (he : epoch s < epoch t) : Fenced epoch view s t :=
  ⟨le_of_lt he, fun h => absurd h.symm (ne_of_lt he)⟩

theorem Fenced.trans {s t u : σ} (h : Fenced epoch view s t) (h' : Fenced epoch view t u) :
    Fenced epoch view s u := by
  refine ⟨le_trans h.1 h'.1, fun he => ?_⟩
  have ht : epoch t = epoch s := le_antisymm (le_of_le_of_eq h'.1 he) h.1
  rw [h'.2 (he.trans ht.symm), h.2 ht]

theorem Fenced.between {s t u : σ} (h : Fenced epoch view s t) (h' : Fenced epoch view t u)
    (he : epoch u = epoch s) : epoch t = epoch s ∧ view t = view s := by
  have ht : epoch t = epoch s := le_antisymm (le_of_le_of_eq h'.1 he) h.1
  exact ⟨ht, h.2 ht⟩

end

end Fence
