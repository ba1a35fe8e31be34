import OwlAuth.Projection.Sealed
import OwlAuth.System.Calls

/-!
# The views of users, write by write

Many calls bring projections up to date and announce the change.  Whatever a call does, it does to
projections, events and deliveries by a few kinds of writes, one after the other.

* `ViewMove`  one write: a projection repaired without an event, a projection published with its
    event, the first projection of a binding introduced, or a write elsewhere;
* `ViewRun`  writes in turn;
* `step_views`  what a call does, webhook maintenance apart, is a run of such writes.
-/

namespace OwlAuth

open Fallible Table

structure BindingKept (b b' : ApplicationUserBinding) : Prop where
  id : b'.id = b.id
  projectId : b'.projectId = b.projectId
  applicationId : b'.applicationId = b.applicationId

theorem BindingKept.refl (b : ApplicationUserBinding) : BindingKept b b := ⟨rfl, rfl, rfl⟩

variable {b binding : ApplicationUserBinding} {c : CommitHandoffExchange} {now : Instant}
  {p : UserPrimary} {intent : MutationIntent}

/-- the material of a user for the projection of a binding -/
structure MaterialFor (env : Environment) (db : Database) (binding : ApplicationUserBinding)
    (existing : Option ApplicationUserProjection) (user : ProjectUser) (m : ProjectionMaterial) :
    Prop where
  mem : binding ∈ db.bindings
  ofUser : binding.projectId = user.projectId
  stored : ∀ q ∈ existing, q ∈ db.projections ∧ q.bindingId = binding.id
  made : authoritativeRuntimeProjectionMaterial env db existing binding.applicationId user = .ok m

inductive ViewMove (env : Environment) (db : Database) : Database → Prop
  | elsewhere (db' : Database) (projections : ∀ p ∈ db'.projections, p ∈ db.projections)
      (events : db'.events = db.events) (deliveries : db'.deliveries = db.deliveries)
      (bindings : Evolves BindingKept (fun _ => True) db.bindings db'.bindings) :
      ViewMove env db db'
  | repaired (binding : ApplicationUserBinding) (q : ApplicationUserProjection)
      (user : ProjectUser) (m : ProjectionMaterial) (now : Instant)
      (material : MaterialFor env db binding (some q) user m) :
      ViewMove env db { db with projections := db.projections.set (repairedProjection q user m now) }
  | published (binding : ApplicationUserBinding) (q : ApplicationUserProjection)
      (user : ProjectUser) (m : ProjectionMaterial) (now : Instant)
      (projectPublicId applicationPublicId : String) (eventType : ApplicationUserEventType)
      (db' : Database) (material : MaterialFor env db binding (some q) user m)
      (changed : m.semanticChange = true)
      (appended : appendProjectionEvent env
        { db with projections := db.projections.set (repairedProjection q user m now) }
        projectPublicId applicationPublicId binding.id (repairedProjection q user m now) m.document
        eventType = .ok db') : ViewMove env db db'
  | introduced (binding : ApplicationUserBinding) (row : ApplicationUserProjection)
      (user : ProjectUser) (m : ProjectionMaterial) (projections : Table ApplicationUserProjection)
      (projectPublicId applicationPublicId : String) (eventType : ApplicationUserEventType)
      (db' : Database) (material : MaterialFor env db binding none user m)
      (backs : Backs row binding.applicationId user m) (bound : row.bindingId = binding.id)
      (inserted : db.projections.insert row = some projections)
      (appended : appendProjectionEvent env { db with projections := projections } projectPublicId
        applicationPublicId binding.id row m.document eventType = .ok db') : ViewMove env db db'

abbrev ViewRun (env : Environment) : Database → Database → Prop :=
  Relation.ReflTransGen (ViewMove env)

section
variable {env : Environment} {db db' : Database}

theorem ViewMove.run (h : ViewMove env db db') : ViewRun env db db' := .single h

theorem ViewRun.of_eq (projections : db'.projections = db.projections)
    (events : db'.events = db.events) (deliveries : db'.deliveries = db.deliveries)
    (bindings : db'.bindings = db.bindings) : ViewRun env db db' :=
  .single (.elsewhere db' (by rw [projections]; exact fun _ h => h) events deliveries
    (.of_eq .refl bindings))

/-! ## fan-out -/

theorem fanOutBinding_views {project user} (hb : binding ∈ db.bindings)
    (hp : binding.projectId = user.projectId)
    (h : fanOutBinding env project user now db binding = .ok db') : ViewRun env db db' := by
  obtain ⟨application, ha, h⟩ := bind_ok.mp h
  obtain ⟨_, haid, _⟩ := find_ok ha
  split at h
  · obtain ⟨projection, hq, h⟩ := bind_ok.mp h
    obtain ⟨hqmem, _, hqb⟩ := find_ok hq
    obtain ⟨⟨db₁, repaired, material⟩, hr, h⟩ := bind_ok.mp h
    obtain ⟨hmade, rfl, rfl⟩ := repairRuntimeProjection_ok hr
    rw [haid] at hmade
    have hm : MaterialFor env db binding (some projection) user material :=
      ⟨hb, hp, fun q hq => by cases hq; exact ⟨hqmem, hqb⟩, hmade⟩
    dsimp only at h
    split at h
    · rename_i hchanged
      rw [hqb] at h
      exact (ViewMove.published binding projection user material now _ _ _ db' hm hchanged h).run
    · cases h
      exact (ViewMove.repaired binding projection user material now hm).run
  · cases h
    exact .refl

theorem fanOutUser_views {user} (h : fanOutUser env db user now = .ok db') :
    ViewRun env db db' := by
  obtain ⟨_, _, h⟩ := later₂ h
  split at h
  · obtain ⟨_, h⟩ := later h
    -- no binding changes while the bindings are walked
    refine (foldOk_inv (fun db' => ViewRun env db db' ∧ db'.bindings = db.bindings) ?_ ⟨.refl, rfl⟩
      h).1
    rintro db₁ binding db₂ hmem ⟨hrun, hsame⟩ hstep
    obtain ⟨hb, hp, _⟩ := mem_filter.mp hmem
    have hframe : db₂.bindings = db₁.bindings := by
      obtain ⟨_, _, _, _, hf⟩ := fanOutBinding_frame hstep
      rw [hf]
    exact ⟨hrun.trans (fanOutBinding_views (by rw [hsame]; exact hb) hp hstep), hframe.trans hsame⟩
  · cases h
    exact .refl

/-! ## handoff exchanges -/

theorem exchangeBinding_views (env) {user r} (h : exchangeBinding c db user = .ok r) :
    ViewRun env db r.1 ∧ r.2 ∈ r.1.bindings ∧ r.2.projectId = c.projectId
      ∧ r.2.applicationId = c.applicationId := by
  unfold exchangeBinding at h
  split at h
  · rename_i binding hb
    obtain ⟨hmem, hp, ha, _⟩ := find?_some hb
    obtain ⟨_, h⟩ := later h
    cases h
    exact ⟨.refl, hmem, hp, ha⟩
  · obtain ⟨_, _, bindings, hi, h⟩ := peel₂ h
    cases h
    have hinsert := (insertRow_ok hi).2
    refine ⟨.single (.elsewhere _ (fun _ hp => hp) rfl rfl ?_), ?_, rfl, rfl⟩
    · exact evolves_insert .refl hinsert trivial
    · exact (mem_insert hinsert).mpr (.inr rfl)

theorem exchangeProjection_views {owners r} (hb : binding ∈ db.bindings)
    (hp : binding.projectId = c.projectId) (ha : binding.applicationId = c.applicationId)
    (happ : owners.application.id = c.applicationId) (hu : owners.user.projectId = c.projectId)
    (h : exchangeProjection env c db owners binding = .ok r) : ViewRun env db r.1 := by
  obtain ⟨material, hm, _, _, h⟩ := peel₂ h
  rw [happ, ← ha] at hm
  split at h
  · rename_i hnone
    rw [hnone] at hm
    obtain ⟨projections, hi, db₁, happend, h⟩ := peel₂ h
    cases h
    have hfor : MaterialFor env db binding none owners.user material :=
      ⟨hb, hp.trans hu.symm, fun q hq => (nomatch hq), hm⟩
    exact (ViewMove.introduced binding _ owners.user material projections _ _ _ db₁ hfor
      ⟨hu.symm, ha.symm, rfl, rfl, rfl, rfl, rfl, rfl, rfl, rfl, rfl⟩ rfl (insertRow_ok hi).2
      happend).run
  · rename_i projection hsome
    rw [hsome] at hm
    obtain ⟨hmem, _, hbound⟩ := find?_some hsome
    have hfor : MaterialFor env db binding (some projection) owners.user material :=
      ⟨hb, hp.trans hu.symm, fun q hq => by cases hq; exact ⟨hmem, hbound⟩, hm⟩
    obtain ⟨⟨db₁, repaired, m⟩, hr, h⟩ := bind_ok.mp h
    obtain ⟨hmade, rfl, rfl⟩ := repairRuntimeProjection_ok hr
    -- the material is derived twice, from the same rows
    rw [happ, ← ha, hm] at hmade
    cases hmade
    dsimp only at h
    split at h
    · rename_i hchanged
      obtain ⟨db₂, happend, h⟩ := bind_ok.mp h
      cases h
      exact (ViewMove.published binding projection owners.user material c.now _ _ _ db₂ hfor
        hchanged happend).run
    · cases h
      exact (ViewMove.repaired binding projection owners.user material c.now hfor).run

theorem SessionStep.views {es} (h : SessionStep env db db' es) : ViewRun env db db' := by
  cases h with
  | exchanged c ticket login owners binding projection db₁ sessions families generations accepted
      _ views _ =>
    obtain ⟨_, hb, hp⟩ := views
    obtain ⟨_, ha, hu, _⟩ := checkExchangeOwners_ok accepted.owners
    obtain ⟨_, haid, _⟩ := findApplication_ok ha
    obtain ⟨_, _, hup⟩ := findUser_ok hu
    obtain ⟨hrun, hmem, hproject, happlication⟩ := exchangeBinding_views env hb
    have hviews := exchangeProjection_views hmem hproject happlication haid hup hp
    exact (hrun.trans hviews).trans (ViewRun.of_eq rfl rfl rfl rfl)
  | repaired projection binding application user material now live mem bound made =>
    have hfor : MaterialFor env db binding (some projection) user material :=
      ⟨live.bindingMem, live.projectId, fun q hq => by cases hq; exact ⟨mem, bound⟩,
        by rw [live.applicationId]; exact made⟩
    exact (ViewMove.repaired binding projection user material now hfor).run
  | _ => exact .of_eq rfl rfl rfl rfl

/-! ## logins and user changes -/

theorem ProviderIssued.views {c login provider owner db₁ resolved db₂ ticket}
    (h : ProviderIssued env c db login provider owner db₁ resolved db₂ db' ticket) :
    ViewRun env db db' := by
  obtain ⟨_, _, hf⟩ := storeIdentity_frame h.stored
  dsimp only at hf
  have h₁ : ViewRun env db db₁ := by rw [hf]; exact .of_eq rfl rfl rfl rfl
  have h₂ : ViewRun env db₁ db₂ := by
    have ha := h.announced
    unfold announceProfile at ha
    split at ha
    · exact fanOutUser_views ha
    · cases ha; exact .refl
  have h₃ : ViewRun env db₂ db' := by rw [h.frame]; exact .of_eq rfl rfl rfl rfl
  exact (h₁.trans h₂).trans h₃

theorem CompletionOp.step_views (o : CompletionOp) : ViewRun env db (o.step env db) := by
  have moved : ∀ db', LoginStep false false [] db db' → ViewRun env db db' := by
    intro db' h
    have hr := h.frame
    rw [hr]
    exact .of_eq rfl rfl rfl rfl
  cases o with
  | completeAuthenticatedIdentity c =>
    refine execute_of (P := ViewRun env db) .refl fun r h => ?_
    rcases completeAuthenticatedIdentity_ok h with h | ⟨_, _, _, _, _, _, _, h⟩
    · exact moved _ h
    · exact h.views
  | confirmBrowserSessionReuse c =>
    refine execute_of (P := ViewRun env db) .refl fun r h => ?_
    rcases confirmBrowserSessionReuse_ok h with h | ⟨_, _, _, h⟩
    · exact moved _ h
    · rw [h.frame]
      exact .of_eq rfl rfl rfl rfl
  | completeEmailProof c =>
    refine execute_of (P := ViewRun env db) .refl fun r h => ?_
    obtain ⟨_, _, _, _, _, _, h⟩ := completeEmailProof_ok h
    obtain ⟨_, _, _, hf⟩ := storeEmailIdentity_frame h.stored
    dsimp only at hf
    rw [h.frame, hf]
    exact .of_eq rfl rfl rfl rfl

theorem ViewRun.of_user {users user}
    (h : fanOutUser env { db with users := users } user now = .ok db') : ViewRun env db db' := by
  have hw : ViewRun env db { db with users := users } := .of_eq rfl rfl rfl rfl
  exact hw.trans (fanOutUser_views h)

/-! ## confirmed mutations -/

theorem UserMoved.views (h : UserMoved env now db db') : ViewRun env db db' := by
  rcases h with rfl | ⟨_, _, _, _, _, _, hf⟩
  · exact .refl
  · exact .of_user hf

theorem Unlinked.views {owner disabled}
    (h : Unlinked env intent owner db disabled db') : ViewRun env db db' := by
  have hd : ViewRun env db disabled := by
    cases h.identity <;> exact .of_eq rfl rfl rfl rfl
  rcases h.primary with rfl | ⟨_, _, _, _, hp⟩
  · exact hd
  · exact hd.trans (ViewRun.of_user (updateUserPrimary_ok hp).2)

/-- what a merge does to bindings: each keeps its name, and some lose their projection -/
structure BindingsMerged (db db' : Database) : Prop where
  bindings : Evolves BindingKept (fun _ => True) db.bindings db'.bindings
  projections : ∀ p ∈ db'.projections, p ∈ db.projections
  events : db'.events = db.events
  deliveries : db'.deliveries = db.deliveries

theorem evolves_rewrite {t t' b'}
    (h : Evolves BindingKept (fun _ => True) t t') (hb : b ∈ t) (hk : BindingKept b b') :
    Evolves BindingKept (fun _ => True) t (t'.set b') := by
  obtain ⟨c, hc, hbc⟩ := h.forward b hb
  have hcb : BindingKept c b' :=
    ⟨hk.id.trans hbc.id.symm, hk.projectId.trans hbc.projectId.symm,
      hk.applicationId.trans hbc.applicationId.symm⟩
  exact .trans (fun _ _ _ h h' => ⟨h'.id.trans h.id, h'.projectId.trans h.projectId,
      h'.applicationId.trans h.applicationId⟩) (fun _ _ _ _ => trivial) h
    (evolves_set .refl hc hcb.id hcb)

theorem mergeBindings_merged (db) (projectId winnerId loserId : Uuid) (now) :
    BindingsMerged db (mergeBindings db projectId winnerId loserId now) := by
  -- the bindings walked are those of the first database
  refine List.foldlRecOn _ _ ⟨.of_eq .refl rfl, fun _ hp => hp, rfl, rfl⟩ ?_
  intro db₁ h b hb
  have hb := (mem_filter.mp hb).1
  unfold mergeBinding
  split
  · exact ⟨evolves_rewrite h.bindings hb ⟨rfl, rfl, rfl⟩,
      fun p hp => h.projections p (mem_delete.mp hp).1, h.events, h.deliveries⟩
  · refine ⟨evolves_rewrite h.bindings hb ⟨rfl, rfl, rfl⟩, fun p hp => ?_, h.events, h.deliveries⟩
    split at hp
    · exact h.projections p (mem_delete.mp hp).1
    · exact h.projections p hp

theorem BindingsMerged.run (env) (h : BindingsMerged db db') : ViewRun env db db' :=
  .single (.elsewhere db' h.projections h.events h.deliveries h.bindings)

theorem Merged.views {winner loser retired user}
    (h : Merged env intent winner loser db retired user p db') : ViewRun env db db' := by
  obtain ⟨_, hl⟩ := h.retire
  have hrevoked : ViewRun env db
      (revokeLoserSessions db intent.projectId loser.userId env.databaseClock) :=
    .of_eq rfl rfl rfl rfl
  have hretired := hrevoked.trans (ViewRun.of_user hl.announced)
  have hbound := ((mergeBindings_merged _ _ _ _ _).run env).trans
    (ViewRun.of_user (updateUserPrimary_ok h.primary).2)
  refine hretired.trans (.trans ?_ hbound)
  exact ViewRun.of_eq rfl rfl rfl rfl

theorem confirmControl_views {c r} (h : confirmControl env c db = .ok r) : ViewRun env db r.db := by
  rcases confirmControl_ok h with h | ⟨_, applied, h⟩
  · have hf := h.frame
    rw [hf]
    exact .of_eq rfl rfl rfl rfl
  · have ha : ViewRun env db applied := by
      cases h.mutation with
      | link _ _ hl => cases hl <;> exact .of_eq rfl rfl rfl rfl
      | unlink _ _ _ hu => exact hu.views
      | merge _ _ _ _ _ _ hm => exact hm.views
    have hf := h.finished
    rw [hf]
    exact ha.trans (ViewRun.of_eq rfl rfl rfl rfl)

theorem ManagedStep.views (h : ManagedStep env db db') : ViewRun env db db' := by
  rcases h with h | h | ⟨_, _, _, _, _, _, _, h, hw⟩ | ⟨c, rows, _, h⟩
  · rw [h]
    exact .of_eq rfl rfl rfl rfl
  · obtain ⟨_, h, _⟩ := h
    rw [h]
    exact .of_eq rfl rfl rfl rfl
  · rw [hw, h.written]
    exact .of_eq rfl rfl rfl rfl
  · rw [h.written]
    rcases followProfile_ok h.follow with hf | hf
    · rw [hf]
      exact .of_eq rfl rfl rfl rfl
    · have hidentity : ViewRun env db
          { db with identities := db.identities.set (synchronizedIdentity env c rows.identity) } :=
        .of_eq rfl rfl rfl rfl
      exact (hidentity.trans (ViewRun.of_user hf)).trans (ViewRun.of_eq rfl rfl rfl rfl)

/-! ## every call -/

theorem step_views (call db) : ViewRun call.env db (step call db) ∨ ∃ o, call.op = .webhook o := by
  have hr := step_only call db
  obtain ⟨env, op⟩ := call
  cases op with
  | completion o => exact .inl o.step_views
  | session o => exact .inl (o.step_session env db).views
  | user o =>
    obtain ⟨_, h⟩ := o.step_user env db
    exact .inl h.views
  | webhook o => exact .inr ⟨o, rfl⟩
  | confirmation c =>
    exact .inl (execute_of (P := ViewRun env db) .refl fun _ => confirmControl_views)
  | managed o => exact .inl (o.step_managed env db).views
  | _ =>
    exact .inl (.of_eq (congrArg Database.projections hr :) (congrArg Database.events hr :)
      (congrArg Database.deliveries hr :) (congrArg Database.bindings hr :))

end

end OwlAuth
