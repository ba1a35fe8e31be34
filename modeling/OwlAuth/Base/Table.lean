import Mathlib.Data.List.Nodup
import OwlAuth.Base.Result

/-!
# Keyed tables

A table is a list of rows with pairwise distinct primary keys; the distinctness is part of the
value, so a table with two rows of one key cannot be built.

* `t.find? p`  the first row that satisfies `p`;
* `t.first? p b`  of the rows that satisfy `p`, the one that `b` puts before the others;
* `t.insert r`  `r` added, or nothing if its key is taken;
* `t.set r`  the row with the key of `r` replaced by `r`;
* `t.update p f`  `f` applied to the rows that satisfy `p`;
* `t.delete p`  the rows that satisfy `p` removed.

Each operation has one membership lemma (`mem_insert`, `mem_set`, `mem_update`, `mem_delete`);
everything else is derived from those and from `eq_of_key`.
-/

/-- rows of type `ρ` are identified by keys of type `κ` -/
class Keyed (ρ : Type) (κ : outParam Type) where
  key : ρ → κ

/-- rows with pairwise distinct keys -/
structure Table (ρ : Type) {κ : Type} [Keyed ρ κ] where
  rows : List ρ
  distinct : (rows.map Keyed.key).Nodup

namespace Table

section
variable {ρ κ : Type} [Keyed ρ κ]

open Keyed (key)

instance : Membership ρ (Table ρ) := ⟨fun t r => r ∈ t.rows⟩

variable {t : Table ρ}

theorem mem_rows {r : ρ} : r ∈ t.rows ↔ r ∈ t := Iff.rfl

instance (t : Table ρ) (p : ρ → Prop) [DecidablePred p] : Decidable (∀ r ∈ t, p r) :=
  inferInstanceAs (Decidable (∀ r ∈ t.rows, p r))

instance (t : Table ρ) (p : ρ → Prop) [DecidablePred p] : Decidable (∃ r ∈ t, p r) :=
  inferInstanceAs (Decidable (∃ r ∈ t.rows, p r))

def empty : Table ρ := ⟨[], List.nodup_nil⟩

def single (r : ρ) : Table ρ := ⟨[r], List.nodup_singleton _⟩

theorem not_mem_empty (r : ρ) : r ∉ (empty : Table ρ) := List.not_mem_nil

theorem eq_of_key {r s : ρ} (hr : r ∈ t) (hs : s ∈ t) (h : key r = key s) : r = s :=
  List.inj_on_of_nodup_map t.distinct hr hs h

/-! ## reading -/

def find? (t : Table ρ) (p : ρ → Prop) [DecidablePred p] : Option ρ :=
  t.rows.find? (fun r => decide (p r))

theorem find?_some {p : ρ → Prop} [DecidablePred p] {r : ρ} (h : t.find? p = some r) :
    r ∈ t ∧ p r := by
  have hp := List.find?_some (p := fun r => decide (p r)) h
  exact ⟨List.mem_of_find?_eq_some h, of_decide_eq_true hp⟩

theorem find_ok {p : ρ → Prop} [DecidablePred p] {ε : Type} {e : ε} {r : ρ}
    (h : Fallible.require (t.find? p) e = .ok r) : r ∈ t ∧ p r :=
  find?_some (Fallible.require_ok.mp h)

theorem find?_none {p : ρ → Prop} [DecidablePred p] (h : t.find? p = none) {r : ρ} (hr : r ∈ t) :
    ¬ p r := by
  have := List.find?_eq_none.mp h r hr
  simpa using this

theorem find?_eq_some {p : ρ → Prop} [DecidablePred p] {r : ρ} (hr : r ∈ t) (hp : p r)
    (huniq : ∀ s ∈ t, p s → key s = key r) : t.find? p = some r := by
  cases h : t.find? p with
  | none => exact absurd hp (find?_none h hr)
  | some s =>
    obtain ⟨hs, hps⟩ := find?_some h
    rw [eq_of_key hs hr (huniq s hs hps)]

def filter (t : Table ρ) (p : ρ → Prop) [DecidablePred p] : List ρ :=
  t.rows.filter (fun r => decide (p r))

theorem mem_filter {p : ρ → Prop} [DecidablePred p] {r : ρ} : r ∈ t.filter p ↔ r ∈ t ∧ p r := by
  unfold filter
  rw [List.mem_filter, decide_eq_true_eq]
  exact Iff.rfl

theorem nodup_filter (t : Table ρ) (p : ρ → Prop) [DecidablePred p] :
    ((t.filter p).map key).Nodup :=
  t.distinct.sublist (List.filter_sublist.map _)

/-- the row of a list that comes first in the order `before` -/
def firstOf (before : ρ → ρ → Bool) : List ρ → Option ρ
  | [] => none
  | r :: rs =>
    match firstOf before rs with
    | none => some r
    | some s => if before s r then some s else some r

omit [Keyed ρ κ] in
theorem firstOf_mem {before : ρ → ρ → Bool} {rs : List ρ} {r : ρ}
    (h : firstOf before rs = some r) : r ∈ rs := by
  induction rs with
  | nil => cases h
  | cons o rs ih =>
    unfold firstOf at h
    cases hs : firstOf before rs with
    | none => rw [hs] at h; cases h; exact List.mem_cons_self
    | some s =>
      rw [hs] at h
      dsimp only at h
      split at h
      · cases h; exact List.mem_cons_of_mem _ (ih hs)
      · cases h; exact List.mem_cons_self

/-- `ORDER BY before LIMIT 1` among the rows that satisfy `p` -/
def first? (t : Table ρ) (p : ρ → Prop) [DecidablePred p] (before : ρ → ρ → Bool) : Option ρ :=
  firstOf before (t.filter p)

theorem first?_some {p : ρ → Prop} [DecidablePred p] {before : ρ → ρ → Bool} {r : ρ}
    (h : t.first? p before = some r) : r ∈ t ∧ p r :=
  mem_filter.mp (firstOf_mem h)

/-! ## writing -/

/-- `f` applied to the rows that satisfy `p`; `f` must not change the key -/
def update (t : Table ρ) (p : ρ → Prop) [DecidablePred p] (f : ρ → ρ)
    (hf : ∀ r, key (f r) = key r) : Table ρ :=
  ⟨t.rows.map (fun r => if p r then f r else r), by
    have h : (t.rows.map (fun r => if p r then f r else r)).map key = t.rows.map key := by
      rw [List.map_map]
      refine List.map_congr_left (fun r _ => ?_)
      show key (if p r then f r else r) = key r
      split
      · exact hf r
      · rfl
    rw [h]; exact t.distinct⟩

theorem mem_update {p : ρ → Prop} [DecidablePred p] {f : ρ → ρ} {hf : ∀ r, key (f r) = key r}
    {r : ρ} : r ∈ t.update p f hf ↔ (r ∈ t ∧ ¬ p r) ∨ ∃ s ∈ t, p s ∧ f s = r := by
  show r ∈ t.rows.map (fun r => if p r then f r else r) ↔ _
  rw [List.mem_map]
  constructor
  · rintro ⟨s, hs, rfl⟩
    by_cases h : p s
    · rw [if_pos h]; exact .inr ⟨s, hs, h, rfl⟩
    · rw [if_neg h]; exact .inl ⟨hs, h⟩
  · rintro (⟨hr, h⟩ | ⟨s, hs, h, rfl⟩)
    · exact ⟨r, hr, if_neg h⟩
    · exact ⟨s, hs, if_pos h⟩

def delete (t : Table ρ) (p : ρ → Prop) [DecidablePred p] : Table ρ :=
  ⟨t.filter (fun r => ¬ p r), t.nodup_filter _⟩

theorem mem_delete {p : ρ → Prop} [DecidablePred p] {r : ρ} : r ∈ t.delete p ↔ r ∈ t ∧ ¬ p r :=
  mem_filter

variable [DecidableEq κ]

/-- `r` added at the end, or nothing if its key is taken -/
def insert (t : Table ρ) (r : ρ) : Option (Table ρ) :=
  if h : key r ∈ t.rows.map key then none
  else some ⟨t.rows ++ [r], by
    rw [List.map_append]
    refine List.Nodup.append t.distinct (List.nodup_singleton _) ?_
    intro k hk hk'
    rw [List.map_singleton, List.mem_singleton] at hk'
    exact h (hk' ▸ hk)⟩

variable {t' : Table ρ}

theorem insert_some {r : ρ} (h : t.insert r = some t') :
    (∀ s ∈ t, key s ≠ key r) ∧ t'.rows = t.rows ++ [r] := by
  unfold insert at h
  split at h
  · cases h
  · rename_i hk
    cases h
    exact ⟨fun s hs he => hk (List.mem_map.mpr ⟨s, hs, he⟩), rfl⟩

theorem mem_insert {r s : ρ} (h : t.insert r = some t') : s ∈ t' ↔ s ∈ t ∨ s = r := by
  show s ∈ t'.rows ↔ _
  rw [(insert_some h).2, List.mem_append, List.mem_singleton]
  exact Iff.rfl

theorem new_of_insert {p : ρ → Prop} [DecidablePred p] {f : ρ → ρ} {hf : ∀ r, key (f r) = key r}
    {r : ρ} (h : (t.update p f hf).insert r = some t') {r' : ρ} (hr' : r' ∈ t') :
    (∀ o ∈ t, key o ≠ key r') ↔ r' = r := by
  constructor
  · intro hnew
    rcases (mem_insert h).mp hr' with hold | rfl
    · rcases mem_update.mp hold with ⟨hmem, _⟩ | ⟨o, ho, _, rfl⟩
      · exact absurd rfl (hnew r' hmem)
      · exact absurd (hf o).symm (hnew o ho)
    · rfl
  · rintro rfl o ho he
    by_cases hp : p o
    · exact (insert_some h).1 (f o) (mem_update.mpr (.inr ⟨o, ho, hp, rfl⟩)) ((hf o).trans he)
    · exact (insert_some h).1 o (mem_update.mpr (.inl ⟨ho, hp⟩)) he

/-- the row with the key of `r` replaced by `r` -/
def set (t : Table ρ) (r : ρ) : Table ρ :=
  ⟨t.rows.map (fun s => if key s = key r then r else s), by
    have h : (t.rows.map (fun s => if key s = key r then r else s)).map key = t.rows.map key := by
      rw [List.map_map]
      refine List.map_congr_left (fun s _ => ?_)
      show key (if key s = key r then r else s) = key s
      split
      · rename_i h; exact h.symm
      · rfl
    rw [h]; exact t.distinct⟩

theorem mem_set {r s : ρ} :
    s ∈ t.set r ↔ (s ∈ t ∧ key s ≠ key r) ∨ (s = r ∧ ∃ o ∈ t, key o = key r) := by
  show s ∈ t.rows.map (fun s => if key s = key r then r else s) ↔ _
  rw [List.mem_map]
  constructor
  · rintro ⟨o, ho, rfl⟩
    by_cases h : key o = key r
    · rw [if_pos h]; exact .inr ⟨rfl, o, ho, h⟩
    · rw [if_neg h]; exact .inl ⟨ho, h⟩
  · rintro (⟨hs, h⟩ | ⟨rfl, o, ho, h⟩)
    · exact ⟨s, hs, if_neg h⟩
    · exact ⟨o, ho, if_pos h⟩

theorem mem_set_of {o r s : ρ} (ho : o ∈ t) (hk : key r = key o) :
    s ∈ t.set r ↔ (s ∈ t ∧ s ≠ o) ∨ s = r := by
  rw [mem_set]
  constructor
  · rintro (⟨hs, h⟩ | ⟨rfl, _⟩)
    · exact .inl ⟨hs, fun e => h (e ▸ hk.symm)⟩
    · exact .inr rfl
  · rintro (⟨hs, h⟩ | rfl)
    · exact .inl ⟨hs, fun e => h (eq_of_key hs ho (e.trans hk))⟩
    · exact .inr ⟨rfl, o, ho, hk.symm⟩

theorem mem_set_self {o : ρ} (r : ρ) (ho : o ∈ t) (hk : key r = key o) : r ∈ t.set r :=
  (mem_set_of ho hk).mpr (.inr rfl)

theorem set_self {r : ρ} (hr : r ∈ t) : t.set r = t := by
  have h : (t.set r).rows = t.rows := by
    show t.rows.map (fun s => if key s = key r then r else s) = t.rows
    conv_rhs => rw [← List.map_id t.rows]
    refine List.map_congr_left (fun s hs => ?_)
    split
    · rename_i he; exact (eq_of_key hs hr he).symm
    · rfl
  cases t; cases h' : Table.set _ r; rw [h'] at h; cases h; rfl

end

end Table
