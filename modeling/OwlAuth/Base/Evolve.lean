import OwlAuth.Base.Table

/-!
# Tables that evolve row by row

`Evolves R N t t'` says that `t'` came from `t` by moving rows along `R` and adding rows that
satisfy `N`: every old row has an `R`-successor, every new row is such a successor or satisfies
`N`.  Each table operation evolves its table (`evolves_set`, `evolves_update`, `evolves_insert`),
and evolutions compose (`Evolves.trans`).
-/

namespace Table

section
variable {ρ κ : Type} [Keyed ρ κ]

open Keyed (key)

/-- every old row moved along `R`; every new row is a moved one or satisfies `N` -/
structure Evolves (R : ρ → ρ → Prop) (N : ρ → Prop) (t t' : Table ρ) : Prop where
  forward : ∀ r ∈ t, ∃ r' ∈ t', R r r'
  backward : ∀ r' ∈ t', (∃ r ∈ t, R r r') ∨ N r'

variable {R : ρ → ρ → Prop} {N : ρ → Prop} {t t' t'' : Table ρ}

theorem Evolves.refl (hR : ∀ r, R r r) (t : Table ρ) : Evolves R N t t :=
  ⟨fun r hr => ⟨r, hr, hR r⟩, fun r hr => .inl ⟨r, hr, hR r⟩⟩

theorem Evolves.of_eq (hR : ∀ r, R r r) (h : t' = t) : Evolves R N t t' := by
  rw [h]; exact .refl hR t

theorem Evolves.trans {M} (hR : ∀ a b c, R a b → R b c → R a c) (hN : ∀ a b, M a → R a b → N b)
    (h : Evolves R M t t') (h' : Evolves R N t' t'') : Evolves R N t t'' := by
  constructor
  · intro r hr
    obtain ⟨r', hr', hrr'⟩ := h.forward r hr
    obtain ⟨r'', hr'', hrr''⟩ := h'.forward r' hr'
    exact ⟨r'', hr'', hR _ _ _ hrr' hrr''⟩
  · intro r'' hr''
    rcases h'.backward r'' hr'' with ⟨r', hr', h₂⟩ | hn
    · rcases h.backward r' hr' with ⟨r, hr, h₁⟩ | hn
      · exact .inl ⟨r, hr, hR _ _ _ h₁ h₂⟩
      · exact .inr (hN _ _ hn h₂)
    · exact .inr hn

theorem Evolves.mono {R' : ρ → ρ → Prop} {N' : ρ → Prop} (hR : ∀ a b, R a b → R' a b)
    (hN : ∀ a, N a → N' a) (h : Evolves R N t t') : Evolves R' N' t t' := by
  constructor
  · intro r hr
    obtain ⟨r', hr', hrr'⟩ := h.forward r hr
    exact ⟨r', hr', hR _ _ hrr'⟩
  · intro r' hr'
    rcases h.backward r' hr' with ⟨r, hr, hrr'⟩ | hn
    · exact .inl ⟨r, hr, hR _ _ hrr'⟩
    · exact .inr (hN _ hn)

theorem Evolves.source (h : Evolves R (fun _ => False) t t') {r' : ρ} (hr : r' ∈ t') :
    ∃ r ∈ t, R r r' :=
  (h.backward r' hr).resolve_right id

theorem Evolves.distinct {γ : Type} {g : ρ → γ} (h : Evolves R (fun _ => False) t t')
    (hR : ∀ a b, R a b → key b = key a ∧ g b = g a) (hd : ∀ a ∈ t, ∀ b ∈ t, g a = g b → a = b) :
    ∀ a ∈ t', ∀ b ∈ t', g a = g b → a = b := by
  intro a' ha' b' hb' he
  obtain ⟨a, ha, hRa⟩ := h.source ha'
  obtain ⟨b, hb, hRb⟩ := h.source hb'
  rw [(hR a a' hRa).2, (hR b b' hRb).2] at he
  refine eq_of_key ha' hb' ?_
  rw [(hR a a' hRa).1, (hR b b' hRb).1, hd a ha b hb he]

theorem evolves_update (hR : ∀ r, R r r) {p : ρ → Prop} [DecidablePred p] {f : ρ → ρ}
    (hf : ∀ r, key (f r) = key r) (h : ∀ r ∈ t, p r → R r (f r)) :
    Evolves R N t (t.update p f hf) := by
  constructor
  · intro r hr
    by_cases hp : p r
    · exact ⟨f r, mem_update.mpr (.inr ⟨r, hr, hp, rfl⟩), h r hr hp⟩
    · exact ⟨r, mem_update.mpr (.inl ⟨hr, hp⟩), hR r⟩
  · intro r' hr'
    rcases mem_update.mp hr' with ⟨hr, _⟩ | ⟨r, hr, hp, rfl⟩
    · exact .inl ⟨r', hr, hR r'⟩
    · exact .inl ⟨r, hr, h r hr hp⟩

variable [DecidableEq κ]

theorem evolves_set (hR : ∀ r, R r r) {o r : ρ} (ho : o ∈ t) (hk : key r = key o) (h : R o r) :
    Evolves R N t (t.set r) := by
  constructor
  · intro s hs
    by_cases he : s = o
    · exact ⟨r, (mem_set_of ho hk).mpr (.inr rfl), he ▸ h⟩
    · exact ⟨s, (mem_set_of ho hk).mpr (.inl ⟨hs, he⟩), hR s⟩
  · intro s hs
    rcases (mem_set_of ho hk).mp hs with ⟨hs, _⟩ | rfl
    · exact .inl ⟨s, hs, hR s⟩
    · exact .inl ⟨o, ho, h⟩

theorem evolves_insert (hR : ∀ r, R r r) {r : ρ} (h : t.insert r = some t') (hN : N r) :
    Evolves R N t t' := by
  constructor
  · intro s hs
    exact ⟨s, (mem_insert h).mpr (.inl hs), hR s⟩
  · intro s hs
    rcases (mem_insert h).mp hs with hs | rfl
    · exact .inl ⟨s, hs, hR s⟩
    · exact .inr hN

theorem Evolves.insert {r : ρ} (h : Evolves R N t t') (hi : t'.insert r = some t'') (hN : N r) :
    Evolves R N t t'' := by
  constructor
  · intro s hs
    obtain ⟨s', hs', hm⟩ := h.forward s hs
    exact ⟨s', (mem_insert hi).mpr (.inl hs'), hm⟩
  · intro s hs
    rcases (mem_insert hi).mp hs with hs | rfl
    · exact h.backward s hs
    · exact .inr hN

end

end Table
