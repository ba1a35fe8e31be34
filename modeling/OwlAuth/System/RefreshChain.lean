import OwlAuth.Base.Unique
import OwlAuth.System.Calls

/-!
# Refresh families over whole runs

A refresh family is a chain of generations `1 .. currentGeneration` of which only the last can be
rotated.  `RefreshChange` says once what any call can do to the chains: nothing but ending them, a
new chain, or one more generation at the end of an active one.  Everything else is derived from it.

* `step_refresh`  every call is a `RefreshChange`;
* `RefreshInv`  the invariant: chains are complete, unbranched and owned by a session;
* `rotations`  the rotations a call committed;
* `refresh_replay_revokes`  a presented consumed generation leaves its family revoked;
* `refresh_families_never_fork`  the whole statement for every run.
-/

namespace OwlAuth

open Fallible Table Machine

/-- a generation changes in nothing but the note of a replay -/
def GenerationNoted (g g' : RefreshTokenGeneration) : Prop :=
  g' = { g with replayDetectedAt := g'.replayDetectedAt }

theorem GenerationNoted.refl (g : RefreshTokenGeneration) : GenerationNoted g g := rfl

/-- a family as it is opened, with its first generation -/
structure OpenedChain (f : RefreshFamily) (g : RefreshTokenGeneration) : Prop where
  active : f.status = .active
  first : f.currentGeneration = 1
  familyId : g.familyId = f.id
  projectId : g.projectId = f.projectId
  applicationId : g.applicationId = f.applicationId
  generation : g.generation = 1
  status : g.status = .current
  version : 0 < g.token.keyVersion

/-- `g` is the last generation of the active family `f` and `next` its successor -/
structure Successor (f : RefreshFamily) (g next : RefreshTokenGeneration) : Prop where
  active : f.status = .active
  familyId : g.familyId = f.id
  last : g.generation = f.currentGeneration
  nextFamily : next.familyId = f.id
  projectId : next.projectId = f.projectId
  applicationId : next.applicationId = f.applicationId
  generation : next.generation = g.generation + 1
  status : next.status = .current
  version : 0 < next.token.keyVersion

structure OwnedBy (f : RefreshFamily) (s : ApplicationSession) : Prop where
  id : s.id = f.applicationSessionId
  projectId : s.projectId = f.projectId
  applicationId : s.applicationId = f.applicationId

/-- what a call can do to the refresh families and their sessions; the index lists the exchange it
committed, if it did -/
inductive RefreshChange (db db' : Database) : List CommitHandoffExchange → Prop
  | quiet
      (sessions : Evolves SessionMove (fun _ => False) db.sessions db'.sessions)
      (families : Evolves FamilyEnd (fun _ => False) db.families db'.families)
      (generations : Evolves GenerationNoted (fun _ => False) db.generations db'.generations) :
      RefreshChange db db' []
  | opened (c : CommitHandoffExchange) (s : ApplicationSession) (f : RefreshFamily)
      (g : RefreshTokenGeneration) (owned : OwnedBy f s) (chain : OpenedChain f g)
      (sessionId : s.id = c.applicationSessionId) (familyId : f.id = c.refreshFamilyId)
      (sessions : db.sessions.insert s = some db'.sessions)
      (families : db.families.insert f = some db'.families)
      (generations : db.generations.insert g = some db'.generations)
      (fresh : ∀ o ∈ db.generations, o.token ≠ g.token)
      (accepted : ∃ ticket login owners binding, ExchangeAccepted db c ticket login owners
        ∧ s = openedSession c ticket owners binding) : RefreshChange db db' [c]
  | rotated (f : RefreshFamily) (g next : RefreshTokenGeneration) (now : Instant)
      (family : f ∈ db.families) (generation : g ∈ db.generations) (chain : Successor f g next)
      (sessions : db'.sessions = db.sessions)
      (families : db'.families = db.families.set (rotatedFamily f (g.generation + 1)))
      (generations : (db.generations.set (consumedGeneration g now)).insert next
        = some db'.generations)
      (fresh : ∀ o ∈ db.generations.set (consumedGeneration g now), o.token ≠ next.token) :
      RefreshChange db db' []

variable {db db' : Database} {g g' : RefreshTokenGeneration} {f f' : RefreshFamily}
  {s : ApplicationSession} {cs : List CommitHandoffExchange}

theorem RefreshChange.session_moved (h : RefreshChange db db' cs) (hs : s ∈ db.sessions) :
    ∃ s' ∈ db'.sessions, SessionMove s s' := by
  cases h with
  | quiet hss _ _ => exact hss.forward s hs
  | opened _ _ _ _ _ _ _ _ hss => exact ⟨s, (mem_insert hss).mpr (.inl hs), .refl s⟩
  | rotated _ _ _ _ _ _ _ hss => exact ⟨s, by rw [hss]; exact hs, .refl s⟩

theorem RefreshChange.of_eq (hs : db'.sessions = db.sessions) (hf : db'.families = db.families)
    (hg : db'.generations = db.generations) : RefreshChange db db' [] :=
  .quiet (.of_eq .refl hs) (.of_eq .refl hf) (.of_eq .refl hg)

/-! ## every call -/

theorem SessionStep.refresh {env es} (h : SessionStep env db db' es) : RefreshChange db db' es:= by
  cases h with
  | exchanged c ticket login owners binding projection db₁ sessions families generations ha hv _
      ho =>
    obtain ⟨_, hs⟩ := insertRow_ok ho.sessions
    obtain ⟨_, hf⟩ := insertRow_ok ho.families
    obtain ⟨hfresh, hg⟩ := insertRow_ok ho.generations
    exact .opened c _ _ _ ⟨rfl, rfl, rfl⟩ ⟨rfl, rfl, rfl, rfl, rfl, rfl, rfl, hv⟩ rfl rfl hs hf hg
      hfresh ⟨ticket, login, owners, binding, ha, rfl⟩
  | replayed g f now hg hf =>
    refine .quiet (.refl .refl _) (evolves_revokedFamily hf .replay now) ?_
    unfold recordRefreshReplay
    dsimp only
    split
    · exact evolves_set .refl hg rfl rfl
    · exact .refl .refl _
  | rotated c route _ _ user _ generations hr hv ha hi =>
    obtain ⟨hfresh, hins⟩ := insertRow_ok hi
    obtain ⟨_, hact, _, hlast, _⟩ := ha.refreshable
    have hsucc : Successor route.family route.generation
        (successorGeneration c route.family user.id (route.generation.generation + 1)) :=
      ⟨hact, hr.familyId, hlast, rfl, hr.familyProject.symm, hr.familyApplication.symm, rfl, rfl,
        hv⟩
    exact .rotated _ _ _ c.now hr.family hr.generation hsucc rfl rfl hins hfresh
  | loggedOut s f now hs hf =>
    refine .quiet ?_ (evolves_revokedFamily hf .logout now) (.refl .refl _)
    unfold revokeSessionAndFamily
    split
    · rename_i ha; exact evolves_set .refl hs rfl (revokedSession_move ha now)
    · exact .refl .refl _
  | _ => exact .of_eq rfl rfl rfl

/-- **Every call** changes the refresh families as `RefreshChange` says. -/
theorem step_refresh (call db) : RefreshChange db (step call db) (exchanges call db) := by
  have hr := step_only call db
  obtain ⟨env, op⟩ := call
  cases op with
  | session o => exact (o.step_session env db).refresh
  | revocation o =>
    show RefreshChange db (o.step db) []
    rcases o.step_revocation db with hr | ⟨_, now, hs, ha, hr⟩ | ⟨_, now, _, ha, hr⟩
    · rw [hr]; exact .of_eq rfl rfl rfl
    · rw [hr]
      exact .quiet (evolves_set .refl hs rfl (revokedSession_move ha now)) (.refl .refl _)
        (.refl .refl _)
    · rw [hr]; exact .of_eq rfl rfl rfl
  | confirmation c =>
    have h := (step_confirmation env c db).ended
    exact .quiet h.sessions h.families (.of_eq .refl (congrArg Database.generations hr :))
  | _ =>
    exact .of_eq (congrArg Database.sessions hr :) (congrArg Database.families hr :)
      (congrArg Database.generations hr :)

/-! ## the invariant -/

/-- where a generation stands in its family -/
structure InChain (f : RefreshFamily) (g : RefreshTokenGeneration) : Prop where
  familyId : g.familyId = f.id
  projectId : g.projectId = f.projectId
  applicationId : g.applicationId = f.applicationId
  positive : 1 ≤ g.generation
  bounded : g.generation ≤ f.currentGeneration
  current : g.status = .current ↔ g.generation = f.currentGeneration

/-- the chains are complete and unbranched, tokens are distinct, and every family has a session -/
structure RefreshInv (db : Database) : Prop where
  owned : ∀ g ∈ db.generations, ∃ f ∈ db.families, InChain f g
  complete : ∀ f ∈ db.families, ∀ n, 1 ≤ n → n ≤ f.currentGeneration →
    ∃ g ∈ db.generations, g.familyId = f.id ∧ g.generation = n
  unbranched : ∀ g ∈ db.generations, ∀ g' ∈ db.generations,
    g.familyId = g'.familyId → g.generation = g'.generation → g = g'
  tokens : ∀ g ∈ db.generations, ∀ g' ∈ db.generations, g.token = g'.token → g = g'
  versions : ∀ g ∈ db.generations, 0 < g.token.keyVersion
  sessions : ∀ f ∈ db.families, ∃ s ∈ db.sessions, OwnedBy f s
  statuses : ∀ f ∈ db.families, f.status = .active ∨ f.status = .revoked

def NoSessions (db : Database) : Prop :=
  db.sessions = .empty ∧ db.families = .empty ∧ db.generations = .empty

theorem NoSessions.refreshInv (h : NoSessions db) : RefreshInv db := by
  obtain ⟨_, hf, hg⟩ := h
  have nof : ∀ f, f ∉ db.families := by rw [hf]; exact not_mem_empty
  have nog : ∀ g, g ∉ db.generations := by rw [hg]; exact not_mem_empty
  exact ⟨fun g h => absurd h (nog g), fun f h => absurd h (nof f), fun g h => absurd h (nog g),
    fun g h => absurd h (nog g), fun g h => absurd h (nog g), fun f h => absurd h (nof f),
    fun f h => absurd h (nof f)⟩

theorem RefreshInv.inChain (hi : RefreshInv db) (hf : f ∈ db.families) (hg : g ∈ db.generations)
    (h : g.familyId = f.id) : InChain f g := by
  obtain ⟨f', hf', hc⟩ := hi.owned g hg
  obtain rfl : f' = f := eq_of_key hf' hf (hc.familyId.symm.trans h)
  exact hc

/-! what the rows of a changed table still say -/

theorem FamilyEnd.kept (h : FamilyEnd f f') :
    f'.id = f.id ∧ f'.projectId = f.projectId ∧ f'.applicationId = f.applicationId
      ∧ f'.applicationSessionId = f.applicationSessionId
      ∧ f'.currentGeneration = f.currentGeneration := by
  rcases h with rfl | ⟨_, _, _, rfl⟩
  · exact ⟨rfl, rfl, rfl, rfl, rfl⟩
  · exact ⟨rfl, rfl, rfl, rfl, rfl⟩

theorem FamilyEnd.inChain (h : FamilyEnd f f') (hc : InChain f g) : InChain f' g := by
  obtain ⟨hid, hp, ha, _, hcur⟩ := h.kept
  exact ⟨hc.familyId.trans hid.symm, hc.projectId.trans hp.symm, hc.applicationId.trans ha.symm,
    hc.positive, hcur ▸ hc.bounded, hcur ▸ hc.current⟩

theorem GenerationNoted.inChain (h : GenerationNoted g g') (hc : InChain f g) : InChain f g' := by
  rw [h]; exact ⟨hc.familyId, hc.projectId, hc.applicationId, hc.positive, hc.bounded, hc.current⟩

theorem unbranched_iff {t : Table RefreshTokenGeneration} :
    (∀ g ∈ t, ∀ g' ∈ t, (g.familyId, g.generation) = (g'.familyId, g'.generation) → g = g')
      ↔ ∀ g ∈ t, ∀ g' ∈ t, g.familyId = g'.familyId → g.generation = g'.generation → g = g' := by
  simp only [Prod.mk.injEq, and_imp]

/-! ### quiet calls -/

section
variable {db db' : Database}
  (hs : Evolves SessionMove (fun _ => False) db.sessions db'.sessions)
  (hf : Evolves FamilyEnd (fun _ => False) db.families db'.families)
  (hg : Evolves GenerationNoted (fun _ => False) db.generations db'.generations)

include hs hf hg in
theorem RefreshInv.quiet (hi : RefreshInv db) : RefreshInv db' := by
  constructor
  case owned =>
    intro g' hg'
    obtain ⟨g, hgm, hn⟩ := hg.source hg'
    obtain ⟨f, hfm, hc⟩ := hi.owned g hgm
    obtain ⟨f', hf', he⟩ := hf.forward f hfm
    exact ⟨f', hf', he.inChain (hn.inChain hc)⟩
  case complete =>
    intro f' hf' n h₁ hn
    obtain ⟨f, hfm, he⟩ := hf.source hf'
    obtain ⟨hid, _, _, _, hcur⟩ := he.kept
    obtain ⟨g, hgm, hgf, hgn⟩ := hi.complete f hfm n h₁ (hcur ▸ hn)
    obtain ⟨g', hg', hno⟩ := hg.forward g hgm
    refine ⟨g', hg', ?_, ?_⟩
    · rw [hno]; exact hgf.trans hid.symm
    · rw [hno]; exact hgn
  case unbranched =>
    exact unbranched_iff.mp
      (hg.distinct (fun _ _ hn => by rw [hn]; exact ⟨rfl, rfl⟩) (unbranched_iff.mpr hi.unbranched))
  case tokens => exact hg.distinct (fun _ _ hn => by rw [hn]; exact ⟨rfl, rfl⟩) hi.tokens
  case versions =>
    intro g' hg'
    obtain ⟨g, hgm, hn⟩ := hg.source hg'
    rw [hn]; exact hi.versions g hgm
  case sessions =>
    intro f' hf'
    obtain ⟨f, hfm, he⟩ := hf.source hf'
    obtain ⟨s, hsm, ho⟩ := hi.sessions f hfm
    obtain ⟨s', hs', hm⟩ := hs.forward s hsm
    obtain ⟨_, hp, ha, hsid, _⟩ := he.kept
    refine ⟨s', hs', ?_⟩
    rw [hm.kept]
    exact ⟨ho.id.trans hsid.symm, ho.projectId.trans hp.symm, ho.applicationId.trans ha.symm⟩
  case statuses =>
    intro f' hf'
    obtain ⟨f, hfm, he⟩ := hf.source hf'
    rcases he with rfl | ⟨_, _, _, rfl⟩
    · exact hi.statuses _ hfm
    · exact .inr rfl

end

/-! ### a new family -/

theorem RefreshInv.opened (hi : RefreshInv db) (ho : OwnedBy f s) (hc : OpenedChain f g)
    (hs : db.sessions.insert s = some db'.sessions) (hf : db.families.insert f = some db'.families)
    (hg : db.generations.insert g = some db'.generations)
    (hfresh : ∀ o ∈ db.generations, o.token ≠ g.token) : RefreshInv db' := by
  -- no old generation belongs to the new family: its id was free
  have hother : ∀ o ∈ db.generations, o.familyId ≠ f.id := by
    intro o ho he
    obtain ⟨f₀, hf₀, hin⟩ := hi.owned o ho
    exact (insert_some hf).1 f₀ hf₀ (hin.familyId.symm.trans he)
  have hfmem : f ∈ db'.families := (mem_insert hf).mpr (.inr rfl)
  have hgmem : g ∈ db'.generations := (mem_insert hg).mpr (.inr rfl)
  constructor
  case owned =>
    intro o ho
    rcases (mem_insert hg).mp ho with ho | rfl
    · obtain ⟨f₀, hf₀, hin⟩ := hi.owned o ho
      exact ⟨f₀, (mem_insert hf).mpr (.inl hf₀), hin⟩
    · exact ⟨f, hfmem, hc.familyId, hc.projectId, hc.applicationId, by rw [hc.generation],
        by rw [hc.generation, hc.first], by simp [hc.status, hc.generation, hc.first]⟩
  case complete =>
    intro f₀ hf₀ n h₁ hn
    rcases (mem_insert hf).mp hf₀ with hf₀ | rfl
    · obtain ⟨o, ho, hof, hon⟩ := hi.complete f₀ hf₀ n h₁ hn
      exact ⟨o, (mem_insert hg).mpr (.inl ho), hof, hon⟩
    · rw [hc.first] at hn
      exact ⟨g, hgmem, hc.familyId, by rw [hc.generation]; omega⟩
  case unbranched =>
    refine unbranched_iff.mp (distinct_insert hg (unbranched_iff.mpr hi.unbranched) ?_)
    exact fun o ho he => hother o ho ((Prod.mk.inj he).1.trans hc.familyId)
  case tokens => exact distinct_insert hg hi.tokens hfresh
  case versions =>
    intro o ho
    rcases (mem_insert hg).mp ho with ho | rfl
    · exact hi.versions o ho
    · exact hc.version
  case sessions =>
    intro f₀ hf₀
    rcases (mem_insert hf).mp hf₀ with hf₀ | rfl
    · obtain ⟨s₀, hs₀, ho₀⟩ := hi.sessions f₀ hf₀
      exact ⟨s₀, (mem_insert hs).mpr (.inl hs₀), ho₀⟩
    · exact ⟨s, (mem_insert hs).mpr (.inr rfl), ho⟩
  case statuses =>
    intro f₀ hf₀
    rcases (mem_insert hf).mp hf₀ with hf₀ | rfl
    · exact hi.statuses f₀ hf₀
    · exact .inl hc.active

/-! ### a rotation -/

section
variable {db db' : Database} {f : RefreshFamily} {g next : RefreshTokenGeneration} {now : Instant}
  (hf : f ∈ db.families) (hg : g ∈ db.generations)
  (hfs : db'.families = db.families.set (rotatedFamily f (g.generation + 1)))
  (hgs : (db.generations.set (consumedGeneration g now)).insert next = some db'.generations)

include hf hfs in
theorem rotated_family {o} :
    o ∈ db'.families ↔ (o ∈ db.families ∧ o ≠ f) ∨ o = rotatedFamily f (g.generation + 1) := by
  rw [hfs]; exact mem_set_of hf rfl

include hg hgs in
theorem rotated_generation {o} :
    o ∈ db'.generations
      ↔ (o ∈ db.generations ∧ o ≠ g) ∨ o = consumedGeneration g now ∨ o = next := by
  rw [mem_insert hgs, mem_set_of (r := consumedGeneration g now) hg rfl, or_assoc]

include hf hg hfs hgs in
theorem RefreshInv.rotated (hi : RefreshInv db) (hc : Successor f g next)
    (hfresh : ∀ o ∈ db.generations.set (consumedGeneration g now), o.token ≠ next.token)
    (hs : db'.sessions = db.sessions) : RefreshInv db' := by
  have hfam {o : RefreshFamily} := rotated_family (o := o) hf hfs
  have hgen {o : RefreshTokenGeneration} := rotated_generation (o := o) hg hgs
  have hin := hi.inChain hf hg hc.familyId
  -- the other generations of the family are older than `g`
  have holder : ∀ o ∈ db.generations, o ≠ g → o.familyId = f.id → o.generation < g.generation := by
    intro o ho hne hof
    have hb := (hi.inChain hf ho hof).bounded
    have hneq : o.generation ≠ g.generation := fun he =>
      hne (hi.unbranched o ho g hg (hof.trans hc.familyId.symm) he)
    have := hc.last
    omega
  constructor
  case owned =>
    intro o ho
    rcases hgen.mp ho with ⟨ho, hne⟩ | rfl | rfl
    · obtain ⟨f₀, hf₀, hin₀⟩ := hi.owned o ho
      by_cases hff : f₀ = f
      · subst hff
        have hlt := holder o ho hne hin₀.familyId
        refine ⟨_, hfam.mpr (.inr rfl), hin₀.familyId, hin₀.projectId, hin₀.applicationId,
          hin₀.positive, ?_, ?_⟩
        · show o.generation ≤ g.generation + 1
          omega
        · show o.status = .current ↔ o.generation = g.generation + 1
          rw [hin₀.current]
          have := hc.last
          constructor <;> intro <;> omega
      · exact ⟨f₀, hfam.mpr (.inl ⟨hf₀, hff⟩), hin₀⟩
    · refine ⟨_, hfam.mpr (.inr rfl), hin.familyId, hin.projectId, hin.applicationId,
        hin.positive, ?_, ?_⟩
      · show g.generation ≤ g.generation + 1
        omega
      · show GenerationStatus.consumed = .current ↔ g.generation = g.generation + 1
        constructor
        · intro h; cases h
        · intro h; omega
    · refine ⟨_, hfam.mpr (.inr rfl), hc.nextFamily, hc.projectId, hc.applicationId, ?_, ?_, ?_⟩
      · have := hin.positive
        have := hc.generation
        omega
      · exact Int.le_of_eq hc.generation
      · exact ⟨fun _ => hc.generation, fun _ => hc.status⟩
  case complete =>
    intro f₀ hf₀ n h₁ hn
    -- a generation that was there is there still, consumed or not
    have keep : ∀ o ∈ db.generations, ∃ o' ∈ db'.generations,
        o'.familyId = o.familyId ∧ o'.generation = o.generation := by
      intro o ho
      by_cases he : o = g
      · exact ⟨consumedGeneration g now, hgen.mpr (.inr (.inl rfl)), by rw [he]; rfl,
          by rw [he]; rfl⟩
      · exact ⟨o, hgen.mpr (.inl ⟨ho, he⟩), rfl, rfl⟩
    have old : ∀ f₁ ∈ db.families, n ≤ f₁.currentGeneration →
        ∃ o ∈ db'.generations, o.familyId = f₁.id ∧ o.generation = n := by
      intro f₁ hf₁ hn₁
      obtain ⟨o, ho, hof, hon⟩ := hi.complete f₁ hf₁ n h₁ hn₁
      obtain ⟨o', ho', hf', hn'⟩ := keep o ho
      exact ⟨o', ho', hf'.trans hof, hn'.trans hon⟩
    rcases hfam.mp hf₀ with ⟨hf₀, _⟩ | rfl
    · exact old f₀ hf₀ hn
    · have hn : n ≤ g.generation + 1 := hn
      by_cases hlast : n = g.generation + 1
      · exact ⟨next, hgen.mpr (.inr (.inr rfl)), hc.nextFamily, hc.generation.trans hlast.symm⟩
      · exact old f hf (by have := hc.last; omega)
  case unbranched =>
    refine unbranched_iff.mp (distinct_insert hgs
      (distinct_set (unbranched_iff.mpr hi.unbranched) hg rfl rfl) fun o ho he => ?_)
    -- the successor's number is above every other of its family
    obtain ⟨hof, hon⟩ := Prod.mk.inj he
    have hnext := hc.generation
    rcases (mem_set_of (r := consumedGeneration g now) hg rfl).mp ho with ⟨ho, hog⟩ | rfl
    · have := holder o ho hog (hof.trans hc.nextFamily)
      omega
    · have : g.generation = next.generation := hon
      omega
  case tokens => exact distinct_insert hgs (distinct_set hi.tokens hg rfl rfl) hfresh
  case versions =>
    intro o ho
    rcases hgen.mp ho with ⟨ho, _⟩ | rfl | rfl
    · exact hi.versions o ho
    · exact hi.versions g hg
    · exact hc.version
  case sessions =>
    intro f₀ hf₀
    rw [hs]
    rcases hfam.mp hf₀ with ⟨hf₀, _⟩ | rfl
    · exact hi.sessions f₀ hf₀
    · obtain ⟨s, hsm, ho⟩ := hi.sessions f hf
      exact ⟨s, hsm, ho.id, ho.projectId, ho.applicationId⟩
  case statuses =>
    intro f₀ hf₀
    rcases hfam.mp hf₀ with ⟨hf₀, _⟩ | rfl
    · exact hi.statuses f₀ hf₀
    · exact hi.statuses f hf

end

theorem RefreshChange.inv (h : RefreshChange db db' cs) (hi : RefreshInv db) : RefreshInv db' := by
  cases h with
  | quiet hs hf hg => exact hi.quiet hs hf hg
  | opened c s f g ho hc _ _ hs hf hg hfresh => exact hi.opened ho hc hs hf hg hfresh
  | rotated f g next now hf hg hc hs hfs hgs hfresh => exact hi.rotated hf hg hfs hgs hc hfresh hs

theorem run_refreshInv (hi : RefreshInv db) (calls) : RefreshInv (run db calls) :=
  run_inv step (fun db call => (step_refresh call db).inv) calls hi

/-! ## what the calls answer -/

/-- the rotations a call committed: the generation it consumed and the family -/
def rotations (call : Call) (db : Database) : List (Uuid × Uuid) :=
  match call.op with
  | .session (.rotateRefreshToken c) =>
    match answer (rotateRefreshToken call.env c db) with
    | .ok (.rotated _ _ familyId _ _) => [(c.preparation.generationId, familyId)]
    | _ => []
  | _ => []

theorem mem_rotations {call r} (h : r ∈ rotations call db) :
    ∃ f ∈ db.families, ∃ g ∈ db.generations, ∃ now, r = (g.id, f.id) ∧ f.status = .active
      ∧ g.status = .current ∧ consumedGeneration g now ∈ (step call db).generations := by
  obtain ⟨env, op⟩ := call
  unfold rotations at h
  split at h
  · rename_i c hop
    obtain rfl : op = _ := hop
    split at h
    · rename_i ha
      obtain ⟨db', hb⟩ := answer_ok ha
      have hstep : step ⟨env, .session (.rotateRefreshToken c)⟩ db = db' := execute_ok hb
      rw [hstep]
      obtain ⟨route, hr, _, _, ⟨_, hrep⟩ | ⟨_, hrot⟩⟩ := rotateRefreshToken_ok hb
      · cases hrep
      · obtain ⟨_, _, _, _, generations, hacc, hi, hdone⟩ := rotateCurrentGeneration_ok hrot
        cases hdone
        rw [List.mem_singleton] at h
        have hins := (insertRow_ok hi).2
        refine ⟨_, hr.family, _, hr.generation, c.now, ?_, hacc.refreshable.2.1,
          hacc.refreshable.1, (mem_insert hins).mpr (.inl ?_)⟩
        · rw [h, hacc.chain.1]
        · exact (mem_set_of (r := consumedGeneration route.generation c.now)
            hr.generation rfl).mpr (.inr rfl)
    · cases h
  · cases h

theorem rotations_length (call db) : (rotations call db).length ≤ 1 := by
  unfold rotations
  split
  · split
    · exact Nat.le_refl 1
    · exact Nat.zero_le 1
  · exact Nat.zero_le 1

/-! ## ended families and consumed generations stay so -/

theorem RefreshChange.revoked (h : RefreshChange db db' cs) (hf : f ∈ db.families)
    (hs : f.status = .revoked) : f ∈ db'.families := by
  cases h with
  | quiet _ hfs _ =>
    obtain ⟨_, hf', rfl | ⟨ha, _⟩⟩ := hfs.forward f hf
    · exact hf'
    · rw [hs] at ha; cases ha
  | opened _ _ _ _ _ _ _ _ _ hfs _ _ => exact (mem_insert hfs).mpr (.inl hf)
  | rotated f₀ g₀ _ _ hf₀ _ hc _ hfs _ _ =>
    refine (rotated_family hf₀ hfs).mpr (.inl ⟨hf, ?_⟩)
    rintro rfl
    rw [hc.active] at hs; cases hs

theorem RefreshChange.consumed (h : RefreshChange db db' cs) (hi : RefreshInv db)
    (hg : g ∈ db.generations) (hs : g.status = .consumed) :
    ∃ g' ∈ db'.generations, g'.id = g.id ∧ g'.status = .consumed := by
  cases h with
  | quiet _ _ hgs =>
    obtain ⟨g', hg', hn⟩ := hgs.forward g hg
    refine ⟨g', hg', ?_, ?_⟩
    · rw [hn]
    · rw [hn]; exact hs
  | opened _ _ _ _ _ _ _ _ _ _ hgs _ =>
    exact ⟨g, (mem_insert hgs).mpr (.inl hg), rfl, hs⟩
  | rotated f g₀ _ _ hf hg₀ hc _ _ hgs _ =>
    refine ⟨g, (rotated_generation hg₀ hgs).mpr (.inl ⟨hg, ?_⟩), rfl, hs⟩
    rintro rfl
    rw [(hi.inChain hf hg hc.familyId).current.mpr hc.last] at hs
    cases hs

theorem rotations_of_revoked (hf : f ∈ db.families) (hs : f.status = .revoked) (call) :
    ∀ r ∈ rotations call db, r.2 ≠ f.id := by
  intro r hr he
  obtain ⟨f', hf', _, _, _, rfl, ha, _⟩ := mem_rotations hr
  obtain rfl : f' = f := eq_of_key hf' hf he
  rw [ha] at hs
  cases hs

/-! ## a presented consumed generation -/

/-- the call presents the token of `g` to `prepare_refresh_rotation` or `rotate_refresh_token`,
for the project and the application of `g` -/
def Op.Presents (g : RefreshTokenGeneration) : Op → Prop
  | .session (.prepareRefreshRotation c) =>
    c.projectId = g.projectId ∧ c.applicationId = g.applicationId ∧ c.presentedToken = g.token
  | .session (.rotateRefreshToken c) =>
    c.projectId = g.projectId ∧ c.applicationId = g.applicationId ∧ c.presentedToken = g.token
  | _ => False

/-- a rotation that is not turned away before it looks at the presented token -/
def Op.WellFormed : Op → Prop
  | .session (.rotateRefreshToken c) =>
    0 < c.successorToken.keyVersion ∧ 0 < c.preparation.signingEpoch
  | _ => True

theorem RefreshInv.route (hi : RefreshInv db) (hg : g ∈ db.generations) :
    ∃ s, ∃ f ∈ db.families, f.id = g.familyId ∧ (f.status = .active ∨ f.status = .revoked)
      ∧ routeRefresh db g.projectId g.applicationId g.token = .ok ⟨s, f, g⟩ := by
  obtain ⟨f, hf, hc⟩ := hi.owned g hg
  obtain ⟨s, hs, hsid, hsp, hsa⟩ := hi.sessions f hf
  refine ⟨s, f, hf, hc.familyId.symm, hi.statuses f hf, ?_⟩
  have hfind : db.generations.find? (fun o =>
      o.projectId = g.projectId ∧ o.applicationId = g.applicationId ∧ o.token = g.token) = some g :=
    find?_eq_some hg ⟨rfl, rfl, rfl⟩ fun o ho h => by rw [hi.tokens o ho g hg h.2.2]
  have hfam : db.families.find? (fun o => o.id = g.familyId ∧ o.projectId = g.projectId)
      = some f :=
    find?_eq_some hf ⟨hc.familyId.symm, hc.projectId.symm⟩ fun o _ h => h.1.trans hc.familyId
  have hsess : db.sessions.find? (fun o =>
      o.id = f.applicationSessionId ∧ o.projectId = g.projectId
        ∧ o.applicationId = g.applicationId) = some s :=
    find?_eq_some hs ⟨hsid, hsp.trans hc.projectId.symm, hsa.trans hc.applicationId.symm⟩
      fun o _ h => h.1.trans hsid.symm
  have hfam' : db.families.find? (fun o =>
      o.id = f.id ∧ o.projectId = g.projectId ∧ o.applicationId = g.applicationId) = some f :=
    find?_eq_some hf ⟨rfl, hc.projectId.symm, hc.applicationId.symm⟩ fun o _ h => h.1
  have hgen : db.generations.find? (fun o =>
      o.id = g.id ∧ o.projectId = g.projectId ∧ o.familyId = f.id) = some g :=
    find?_eq_some hg ⟨rfl, rfl, hc.familyId⟩ fun o _ h => h.1
  exact bind_ok.mpr ⟨g, require_ok.mpr hfind, bind_ok.mpr ⟨f, require_ok.mpr hfam,
    bind_ok.mpr ⟨s, require_ok.mpr hsess, bind_ok.mpr ⟨f, require_ok.mpr hfam',
    bind_ok.mpr ⟨g, require_ok.mpr hgen, bind_ok.mpr ⟨(), ensure_ok.mpr rfl, rfl⟩⟩⟩⟩⟩⟩

theorem recordRefreshReplay_revokes (hf : f ∈ db.families)
    (hs : f.status = .active ∨ f.status = .revoked) (now) :
    ∃ f' ∈ (recordRefreshReplay db g f now).families, f'.id = f.id ∧ f'.status = .revoked := by
  unfold recordRefreshReplay
  rcases hs with hs | hs
  · rw [if_pos hs]
    exact ⟨_, (mem_set_of (r := revokedFamily f .replay now) hf rfl).mpr (.inr rfl), rfl, rfl⟩
  · rw [if_neg (by rw [hs]; nofun)]
    exact ⟨f, hf, rfl, hs⟩

theorem refresh_replay_revokes (hi : RefreshInv db) {call} (hg : g ∈ db.generations)
    (hs : g.status = .consumed) (hp : call.op.Presents g) (hw : call.op.WellFormed) :
    ∃ f ∈ (step call db).families, f.id = g.familyId ∧ f.status = .revoked := by
  obtain ⟨s, f, hf, hid, hst, hroute⟩ := hi.route hg
  have hv : validateDigest g.token = .ok () := ensure_ok.mpr (hi.versions g hg)
  obtain ⟨env, op⟩ := call
  unfold Op.Presents at hp
  split at hp
  · rename_i c hop
    obtain rfl : op = _ := hop
    obtain ⟨hpp, hpa, hpt⟩ := hp
    have hbody : prepareRefreshRotation env c db
        = .ok (.done (recordRefreshReplay db g f c.now) (.replayRevoked f.id)) := by
      rw [← hpt] at hv
      rw [← hpp, ← hpa, ← hpt] at hroute
      exact bind_ok.mpr ⟨(), hv, bind_ok.mpr ⟨_, hroute, if_pos hs⟩⟩
    show ∃ f' ∈ (execute db (prepareRefreshRotation env c db)).families, _
    rw [execute_ok hbody, ← hid]
    exact recordRefreshReplay_revokes hf hst c.now
  · rename_i c hop
    obtain rfl : op = _ := hop
    obtain ⟨hpp, hpa, hpt⟩ := hp
    obtain ⟨hwv, hwe⟩ : 0 < c.successorToken.keyVersion ∧ 0 < c.preparation.signingEpoch := hw
    have hbody : rotateRefreshToken env c db
        = .ok (.done (recordRefreshReplay db g f c.now) (.replayRevoked f.id)) := by
      rw [← hpt] at hv
      rw [← hpp, ← hpa, ← hpt] at hroute
      exact bind_ok.mpr ⟨(), hv, bind_ok.mpr ⟨(), ensure_ok.mpr hwv,
        bind_ok.mpr ⟨(), ensure_ok.mpr hwe, bind_ok.mpr ⟨_, hroute, if_pos hs⟩⟩⟩⟩
    show ∃ f' ∈ (execute db (rotateRefreshToken env c db)).families, _
    rw [execute_ok hbody, ← hid]
    exact recordRefreshReplay_revokes hf hst c.now
  · cases hp

/-! ## whole runs -/

/-- the generation rows of `f` are exactly `1 .. currentGeneration`, one row each, the last one
current and the others consumed -/
structure Chained (db : Database) (f : RefreshFamily) : Prop where
  numbers : ∀ n, (∃ g ∈ db.generations, g.familyId = f.id ∧ g.generation = n)
    ↔ 1 ≤ n ∧ n ≤ f.currentGeneration
  once : ∀ g ∈ db.generations, ∀ g' ∈ db.generations, g.familyId = f.id → g'.familyId = f.id →
    g.generation = g'.generation → g = g'
  status : ∀ g ∈ db.generations, g.familyId = f.id →
    g.status = if g.generation = f.currentGeneration then .current else .consumed

theorem RefreshInv.chained (hi : RefreshInv db) (hf : f ∈ db.families) : Chained db f := by
  constructor
  · intro n
    constructor
    · rintro ⟨g, hg, hgf, rfl⟩
      have hc := hi.inChain hf hg hgf
      exact ⟨hc.positive, hc.bounded⟩
    · rintro ⟨h₁, hn⟩
      exact hi.complete f hf n h₁ hn
  · intro g hg g' hg' h h' hn
    exact hi.unbranched g hg g' hg' (h.trans h'.symm) hn
  · intro g hg hgf
    have hc := (hi.inChain hf hg hgf).current
    split
    · rename_i he; exact hc.mpr he
    · rename_i he
      cases hs : g.status with
      | current => exact absurd (hc.mp hs) he
      | consumed => rfl

def rotationLog (db : Database) (calls : List Call) : List (Uuid × Uuid) :=
  trace step rotations db calls

/-- every rotated generation is consumed, and none was rotated twice -/
def LogInv (db : Database) (log : List (Uuid × Uuid)) : Prop :=
  RefreshInv db ∧ (log.map Prod.fst).Nodup
    ∧ ∀ r ∈ log, ∃ g ∈ db.generations, g.id = r.1 ∧ g.status = .consumed

theorem LogInv.step {log} (call) (h : LogInv db log) :
    LogInv (step call db) (log ++ rotations call db) := by
  obtain ⟨hi, hnd, hlog⟩ := h
  have hstep := step_refresh call db
  refine ⟨hstep.inv hi, ?_, ?_⟩
  · rw [List.map_append]
    have hone : ((rotations call db).map Prod.fst).Nodup := by
      have hl := rotations_length call db
      match hr : rotations call db with
      | [] => exact List.nodup_nil
      | [r] => exact List.nodup_singleton _
      | _ :: _ :: _ => rw [hr] at hl; simp at hl
    refine hnd.append hone ?_
    -- a rotated generation was current, those of the log are consumed
    intro id hid hid'
    obtain ⟨r, hr, rfl⟩ := List.mem_map.mp hid
    obtain ⟨_, hr', he⟩ := List.mem_map.mp hid'
    obtain ⟨g, hg, hgid, hgs⟩ := hlog r hr
    obtain ⟨_, _, g', hg', _, rfl, _, hcur, _⟩ := mem_rotations hr'
    obtain rfl : g = g' := eq_of_key hg hg' (hgid.trans he.symm)
    rw [hgs] at hcur
    cases hcur
  · intro r hr
    rcases List.mem_append.mp hr with hr | hr
    · obtain ⟨g, hg, hgid, hgs⟩ := hlog r hr
      obtain ⟨g', hg', hid, hs⟩ := hstep.consumed hi hg hgs
      exact ⟨g', hg', hid.trans hgid, hs⟩
    · obtain ⟨_, _, g, _, _, rfl, _, _, hmem⟩ := mem_rotations hr
      exact ⟨_, hmem, rfl, rfl⟩

/-- **Refresh families never fork.**  In every run that starts without sessions the generations of
a family are a complete chain, each generation is rotated at most once, and a call that presents a
consumed generation of its own project and application, and is not malformed, leaves the family
revoked; no later call rotates it. -/
theorem refresh_families_never_fork {start : Database} (hstart : NoSessions start)
    (calls : List Call) : (∀ f ∈ (run start calls).families, Chained (run start calls) f)
      ∧ ((rotationLog start calls).map Prod.fst).Nodup
      ∧ ∀ pre call post, calls = pre ++ call :: post →
          ∀ g ∈ (run start pre).generations, g.status = .consumed → call.op.Presents g →
            call.op.WellFormed →
            (∃ f ∈ (run start (pre ++ [call])).families,
                f.id = g.familyId ∧ f.status = .revoked)
              ∧ ∀ mid later rest, post = mid ++ later :: rest →
                  ∀ r ∈ rotations later (run start (pre ++ call :: mid)), r.2 ≠ g.familyId := by
  have hi₀ := hstart.refreshInv
  refine ⟨fun f hf => (run_refreshInv hi₀ calls).chained hf, ?_, ?_⟩
  · have h := trace_inv step rotations (J := LogInv)
      (fun db log call => LogInv.step call) calls (s := start) (l := [])
      ⟨hi₀, List.nodup_nil, fun _ h => absurd h List.not_mem_nil⟩
    exact h.2.1
  · rintro pre call post - g hg hs hp hw
    obtain ⟨f, hf, hid, hrev⟩ := refresh_replay_revokes (run_refreshInv hi₀ pre) hg hs hp hw
    refine ⟨⟨f, by rw [run_snoc]; exact hf, hid, hrev⟩, ?_⟩
    rintro mid later rest - r hr
    rw [run_append] at hr
    rw [← hid]
    have hkept := run_inv (I := fun db => f ∈ db.families) step
      (fun db call h => (step_refresh call db).revoked h hrev) mid hf
    exact rotations_of_revoked hkept hrev later r hr

section
open Demo

def Demo.rotatedOnce : List Call := [exchange, rotate refresh 25 ⟨250, 1⟩ (seconds 2)]

/-- the first generation, consumed by that rotation -/
def Demo.spent : RefreshTokenGeneration :=
  (run start rotatedOnce).generations.rows.head (by decide +kernel)

theorem Demo.spent_mem : spent ∈ (run start rotatedOnce).generations := List.head_mem _

/-- the same rotation again: the second presentation of the first token revokes the family -/
theorem second_presentation_revokes :
    NoSessions start
      ∧ ∃ f ∈ (run start (rotatedOnce ++ [rotate refresh 26 ⟨260, 1⟩ (seconds 3)])).families,
          f.id = spent.familyId ∧ f.status = .revoked :=
  ⟨⟨rfl, rfl, rfl⟩,
    ((@refresh_families_never_fork start ⟨rfl, rfl, rfl⟩
      (rotatedOnce ++ [rotate refresh 26 ⟨260, 1⟩ (seconds 3)])).2.2 _ _ [] rfl spent spent_mem
      (by decide +kernel) ⟨by decide +kernel, by decide +kernel, by decide +kernel⟩
      ⟨by decide, by decide⟩).1⟩

/-- a rotation whose preparation carries no signing epoch is turned away before the presented token
is looked up: the family of the consumed generation it presents stays active -/
theorem malformed_rotation_misses_replay :
    spent ∈ (run start rotatedOnce).generations ∧ spent.status = .consumed
      ∧ (rotate { refresh with signingEpoch := 0 } 26 ⟨260, 1⟩ (seconds 3)).op.Presents spent
      ∧ ∃ f ∈ (run start (rotatedOnce
          ++ [rotate { refresh with signingEpoch := 0 } 26 ⟨260, 1⟩ (seconds 3)])).families,
          f.id = spent.familyId ∧ f.status = .active := by
  refine ⟨spent_mem, by decide +kernel,
    ⟨by decide +kernel, by decide +kernel, by decide +kernel⟩, ?_⟩
  show ∃ f ∈ (run start (rotatedOnce
    ++ [rotate { refresh with signingEpoch := 0 } 26 ⟨260, 1⟩ (seconds 3)])).families.rows,
    f.id = spent.familyId ∧ f.status = .active
  decide +kernel

end

end OwlAuth
