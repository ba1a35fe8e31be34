import Mathlib.Data.List.MinMax
import Mathlib.Data.Prod.Lex
import OwlAuth.Base.Table

/-!
# Selections of rows in an order

The order of a query is given by a rank in a linear order, such as a tuple of columns.

* `distinctOn group rank rows`  `SELECT DISTINCT ON (group) … ORDER BY group, rank`: the rows that come
    first in their group;
* `first rank rows`  `ORDER BY rank LIMIT 1`;
* `firstOf_least`  `Table.firstOf` with the order of a rank is such a row;
* `mem_distinctOn_distinctOn`  first by a finer group, then by a coarser one, is by the coarser one.
-/

namespace Select

section
variable {ρ γ δ o : Type} [DecidableEq γ] [DecidableEq δ] [LinearOrder o]

/-- the rows that come first in their group -/
def distinctOn (group : ρ → γ) (rank : ρ → o) (rows : List ρ) : List ρ :=
  rows.filter fun r => decide (∀ s ∈ rows, group s = group r → rank r ≤ rank s)

def first (rank : ρ → o) (rows : List ρ) : Option ρ := rows.argmin rank

variable {rows : List ρ}

theorem mem_distinctOn {group : ρ → γ} {rank : ρ → o} {r : ρ} :
    r ∈ distinctOn group rank rows
      ↔ r ∈ rows ∧ ∀ s ∈ rows, group s = group r → rank r ≤ rank s := by
  unfold distinctOn
  rw [List.mem_filter, decide_eq_true_eq]

theorem exists_first (group : ρ → γ) (rank : ρ → o) {r : ρ} (hr : r ∈ rows) :
    ∃ f ∈ distinctOn group rank rows, group f = group r ∧ rank f ≤ rank r := by
  have hmem : ∀ s, s ∈ rows.filter (fun s => decide (group s = group r))
      ↔ s ∈ rows ∧ group s = group r := by
    intro s
    rw [List.mem_filter, decide_eq_true_eq]
  cases hmin : first rank (rows.filter fun s => decide (group s = group r)) with
  | none =>
    have hnil := List.argmin_eq_none.mp hmin
    have hself := (hmem r).mpr ⟨hr, rfl⟩
    rw [hnil] at hself
    cases hself
  | some f =>
    obtain ⟨hf, hgroup⟩ := (hmem f).mp (List.argmin_mem hmin)
    have hle : ∀ s ∈ rows, group s = group r → rank f ≤ rank s :=
      fun s hs hg => List.le_of_mem_argmin ((hmem s).mpr ⟨hs, hg⟩) hmin
    exact ⟨f, mem_distinctOn.mpr ⟨hf, fun s hs hg => hle s hs (hg.trans hgroup)⟩, hgroup,
      hle r hr rfl⟩

theorem mem_distinctOn_distinctOn {fine : ρ → γ} {coarse : ρ → δ} {rank : ρ → o}
    (h : ∀ r ∈ rows, ∀ s ∈ rows, fine r = fine s → coarse r = coarse s) {r : ρ} :
    r ∈ distinctOn coarse rank (distinctOn fine rank rows) ↔ r ∈ distinctOn coarse rank rows := by
  rw [mem_distinctOn, mem_distinctOn, mem_distinctOn]
  constructor
  · rintro ⟨⟨hr, _⟩, hfirst⟩
    refine ⟨hr, fun s hs hcoarse => ?_⟩
    obtain ⟨f, hf, hfine, hle⟩ := exists_first fine rank hs
    have hgroup : coarse f = coarse r := (h f (mem_distinctOn.mp hf).1 s hs hfine).trans hcoarse
    exact (hfirst f hf hgroup).trans hle
  · rintro ⟨hr, hfirst⟩
    exact ⟨⟨hr, fun s hs hfine => hfirst s hs (h s hs r hr hfine)⟩,
      fun s hs hcoarse => hfirst s (mem_distinctOn.mp hs).1 hcoarse⟩

theorem firstOf_least {before : ρ → ρ → Bool} {rank : ρ → o}
    (hb : ∀ {a b}, before a b = true ↔ rank a < rank b) (hrows : rows ≠ []) :
    ∃ f ∈ rows, Table.firstOf before rows = some f ∧ ∀ s ∈ rows, rank f ≤ rank s := by
  induction rows with
  | nil => exact absurd rfl hrows
  | cons c rows ih =>
    cases rows with
    | nil => exact ⟨c, by simp [Table.firstOf]⟩
    | cons d rows =>
      obtain ⟨f, hf, hfirst, hle⟩ := ih (List.cons_ne_nil _ _)
      unfold Table.firstOf
      rw [hfirst]
      grind

end

end Select
