import OwlAuth.Base.Table

/-!
# At most one row of a kind in each group

`AtMostOne P g t` says that of the rows of `t` that satisfy `P`, no two have the same `g`: the
partial unique index `(g) WHERE P`.  It survives a write that finds its group free (`set`,
`insert`), in particular one that keeps the row where it was (`set_of_imp`) or takes it out
(`set_of_not`, `update_of_imp`).  `distinct_set` and `distinct_insert` are the case of every row.
-/

namespace Table

section
variable {ρ κ γ : Type} [Keyed ρ κ]

open Keyed (key)

/-- of the rows that satisfy `P`, no two have the same `g` -/
def AtMostOne (P : ρ → Prop) (g : ρ → γ) (t : Table ρ) : Prop :=
  ∀ a ∈ t, ∀ b ∈ t, g a = g b → P a → P b → a = b

variable {P : ρ → Prop} {g : ρ → γ} {t t' : Table ρ}

theorem atMostOne_single (r : ρ) : AtMostOne P g (single r) := by
  intro a ha b hb _ _ _
  rw [List.mem_singleton.mp ha, List.mem_singleton.mp hb]

theorem AtMostOne.update_of_imp (h : AtMostOne P g t) {p : ρ → Prop} [DecidablePred p] {f : ρ → ρ}
    {hf : ∀ r, key (f r) = key r} (hP : ∀ r ∈ t, p r → P (f r) → P r)
    (hg : ∀ r ∈ t, p r → P (f r) → g (f r) = g r) : AtMostOne P g (t.update p f hf) := by
  -- every row of the kind comes from a row of the kind in the same group
  have back : ∀ a ∈ t.update p f hf, P a →
      ∃ o ∈ t, P o ∧ g o = g a ∧ a = if p o then f o else o := by
    intro a ha hPa
    rcases mem_update.mp ha with ⟨ha, hp⟩ | ⟨o, ho, hp, rfl⟩
    · exact ⟨a, ha, hPa, rfl, (if_neg hp).symm⟩
    · exact ⟨o, ho, hP o ho hp hPa, (hg o ho hp hPa).symm, (if_pos hp).symm⟩
  intro a ha b hb hab hPa hPb
  obtain ⟨oa, hoa, hPoa, hga, rfl⟩ := back a ha hPa
  obtain ⟨ob, hob, hPob, hgb, rfl⟩ := back b hb hPb
  rw [h oa hoa ob hob (hga.trans (hab.trans hgb.symm)) hPoa hPob]

/-- one row is added to those kept of `t`, and none of them stands where it does -/
theorem AtMostOne.add {r : ρ} {K : ρ → Prop} (h : AtMostOne P g t)
    (hmem : ∀ a ∈ t', a ∈ t ∧ K a ∨ a = r)
    (hfree : P r → ∀ a ∈ t, K a → g a = g r → ¬ P a) : AtMostOne P g t' := by
  intro a ha b hb hab hPa hPb
  rcases hmem a ha with ⟨hat, hka⟩ | rfl <;> rcases hmem b hb with ⟨hbt, hkb⟩ | rfl
  · exact h a hat b hbt hab hPa hPb
  · exact absurd hPa (hfree hPb a hat hka hab)
  · exact absurd hPb (hfree hPa b hbt hkb hab.symm)
  · rfl

variable [DecidableEq κ]

theorem AtMostOne.set (h : AtMostOne P g t) {o r : ρ} (ho : o ∈ t) (hk : key r = key o)
    (hfree : P r → ∀ a ∈ t, a ≠ o → g a = g r → ¬ P a) : AtMostOne P g (t.set r) :=
  h.add (fun _ => (mem_set_of ho hk).mp) hfree

theorem AtMostOne.set_of_imp (h : AtMostOne P g t) {o r : ρ} (ho : o ∈ t) (hk : key r = key o)
    (hP : P r → P o) (hg : g r = g o) : AtMostOne P g (t.set r) := by
  refine h.set ho hk ?_
  intro hr a ha hao hga hPa
  exact hao (h a ha o ho (hga.trans hg) hPa (hP hr))

theorem AtMostOne.set_of_not (h : AtMostOne P g t) {o r : ρ} (ho : o ∈ t) (hk : key r = key o)
    (hP : ¬ P r) : AtMostOne P g (t.set r) :=
  h.set ho hk (fun hr => absurd hr hP)

theorem AtMostOne.insert (h : AtMostOne P g t) {r : ρ} (hi : t.insert r = some t')
    (hfree : P r → ∀ a ∈ t, g a = g r → ¬ P a) : AtMostOne P g t' :=
  h.add (K := fun _ => True) (fun _ ha => ((mem_insert hi).mp ha).imp_left (⟨·, trivial⟩))
    fun hr a ha _ => hfree hr a ha

/-! no two rows at all -/

theorem distinct_set (h : ∀ a ∈ t, ∀ b ∈ t, g a = g b → a = b) {o r : ρ} (ho : o ∈ t)
    (hk : key r = key o) (hg : g r = g o) : ∀ a ∈ t.set r, ∀ b ∈ t.set r, g a = g b → a = b := by
  have hall : AtMostOne (fun _ => True) g t := fun a ha b hb he _ _ => h a ha b hb he
  exact fun a ha b hb he => hall.set_of_imp ho hk id hg a ha b hb he trivial trivial

theorem distinct_insert {r : ρ} (hi : t.insert r = some t')
    (h : ∀ a ∈ t, ∀ b ∈ t, g a = g b → a = b) (hfree : ∀ a ∈ t, g a ≠ g r) :
    ∀ a ∈ t', ∀ b ∈ t', g a = g b → a = b := by
  have hall : AtMostOne (fun _ => True) g t := fun a ha b hb he _ _ => h a ha b hb he
  exact fun a ha b hb he =>
    hall.insert hi (fun _ o ho he => absurd he (hfree o ho)) a ha b hb he trivial trivial

end

end Table
