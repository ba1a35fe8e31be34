import OwlAuth.System.Views

/-!
# What is stored of a user is read back

Projections and events are written by many calls and read by later ones, whose replicas may have
rotated the key in between.

* `ProjectionsBound`  every projection is of the project and the application of its binding;
* `SealedEvent`  an event whose address opens to the one in the body it was written for;
* `Announced`  what an event written by a call is;
* `repaired_projection_reads_back`  a repaired projection is read back, and stays as it is;
* `events_read_back`  so is every event, by every later attempt.
-/

namespace OwlAuth

open Fallible Table Demo

/-! ## projections and their bindings -/

def ProjectionsBound (db : Database) : Prop :=
  ∀ p ∈ db.projections, ∃ b ∈ db.bindings,
    b.id = p.bindingId ∧ b.projectId = p.projectId ∧ b.applicationId = p.applicationId

variable {db : Database} {q : ApplicationUserProjection} {binding : ApplicationUserBinding}
  {m : ProjectionMaterial} {e : ApplicationUserEvent}

theorem repairedProjection_scope (q : ApplicationUserProjection) (user : ProjectUser)
    (m : ProjectionMaterial) (now) :
    (repairedProjection q user m now).id = q.id
      ∧ (repairedProjection q user m now).bindingId = q.bindingId
      ∧ (repairedProjection q user m now).projectId = q.projectId
      ∧ (repairedProjection q user m now).applicationId = q.applicationId := by
  unfold repairedProjection
  split
  · exact ⟨rfl, rfl, rfl, rfl⟩
  · exact ⟨rfl, rfl, rfl, rfl⟩

theorem appendProjectionEvent_ok {env db' projectPublicId applicationPublicId bindingId}
    {projection wire} {eventType : ApplicationUserEventType}
    (h : appendProjectionEvent env db projectPublicId applicationPublicId bindingId projection wire
      eventType = .ok db') :
    db.events.insert (projectionEvent env projectPublicId applicationPublicId bindingId projection
        wire eventType) = some db'.events
      ∧ db'.projections = db.projections ∧ db'.bindings = db.bindings := by
  obtain ⟨_, hi, _, _, _, _, h⟩ := peel₃ h
  cases h
  exact ⟨(insertRow_ok hi).2, rfl, rfl⟩

section
variable {keys : ProjectionKeys} {env : Environment} {db db' : Database}

theorem ProjectionsBound.repair (hdb : ProjectionsBound db) (hq : q ∈ db.projections)
    (user : ProjectUser) (m : ProjectionMaterial) (now) :
    ProjectionsBound
      { db with projections := db.projections.set (repairedProjection q user m now) } := by
  intro p hp
  rcases mem_set.mp hp with ⟨hp, _⟩ | ⟨rfl, _⟩
  · exact hdb p hp
  · obtain ⟨_, hbinding, hproject, happlication⟩ := repairedProjection_scope q user m now
    obtain ⟨b, hb, hid, hp, ha⟩ := hdb q hq
    exact ⟨b, hb, hid.trans hbinding.symm, hp.trans hproject.symm, ha.trans happlication.symm⟩

theorem ProjectionsBound.of_rows (hdb : ProjectionsBound db)
    (hp : db'.projections = db.projections) (hb : db'.bindings = db.bindings) :
    ProjectionsBound db' := by
  unfold ProjectionsBound
  rw [hp, hb]
  exact hdb

theorem ViewMove.bound (h : ViewMove env db db') (hdb : ProjectionsBound db) :
    ProjectionsBound db' := by
  cases h with
  | elsewhere _ projections _ _ bindings =>
    intro p hp
    obtain ⟨b, hb, hid, hproject, happlication⟩ := hdb p (projections p hp)
    obtain ⟨b', hb', hkept⟩ := bindings.forward b hb
    exact ⟨b', hb', hkept.id.trans hid, hkept.projectId.trans hproject,
      hkept.applicationId.trans happlication⟩
  | repaired binding q user m now material =>
    exact hdb.repair (material.stored q rfl).1 user m now
  | published binding q user m now _ _ _ _ material _ appended =>
    obtain ⟨_, hp, hb⟩ := appendProjectionEvent_ok appended
    exact (hdb.repair (material.stored q rfl).1 user m now).of_rows hp hb
  | introduced binding row user m projections _ _ _ _ material backs bound inserted appended =>
    obtain ⟨_, hp, hb⟩ := appendProjectionEvent_ok appended
    have hinserted : ProjectionsBound { db with projections := projections } := by
      intro p hp
      rcases (mem_insert inserted).mp hp with hp | rfl
      · exact hdb p hp
      · exact ⟨binding, material.mem, bound.symm, material.ofUser.trans backs.projectId.symm,
          backs.applicationId.symm⟩
    exact hinserted.of_rows hp hb

theorem ViewRun.bound (h : ViewRun env db db') (hdb : ProjectionsBound db) :
    ProjectionsBound db' := by
  induction h with
  | refl => exact hdb
  | tail _ last ih => exact last.bound ih

theorem step_bound (db call) (hdb : ProjectionsBound db) : ProjectionsBound (step call db) := by
  have hr := step_only call db
  rcases step_views call db with hv | ⟨_, ho⟩
  · exact hv.bound hdb
  · obtain ⟨_, _⟩ := call
    cases ho
    exact hdb.of_rows (congrArg Database.projections hr :) (congrArg Database.bindings hr :)

/-! ## material -/

theorem MaterialFor.scope {existing user}
    (h : MaterialFor env db binding existing user m) (hdb : ProjectionsBound db) :
    ∀ q ∈ existing, q.projectId = user.projectId ∧ q.applicationId = binding.applicationId := by
  intro q hq
  obtain ⟨hmem, hbound⟩ := h.stored q hq
  obtain ⟨b, hb, hid, hp, ha⟩ := hdb q hmem
  rw [eq_of_key hb h.mem (hid.trans hbound)] at hp ha
  exact ⟨hp.symm.trans h.ofUser, ha.symm⟩

/-! ## events -/

/-- the body of an event, and an address that opens to the one in the body -/
structure SealedEvent (keys : ProjectionKeys) (digest : EventBody → Digest)
    (e : ApplicationUserEvent) (body : EventBody) : Prop where
  digest : e.canonicalBodyDigest = digest body
  stored : e.safeBody = { body with projection := safeProjectionDocument body.projection }
  email : SealedEmail (keys e.projectId e.applicationId e.userId e.projectionRevision)
    e.verifiedEmailSourceIdentityId e.verifiedEmailCiphertext e.verifiedEmailKeyVersion
    body.projection.verifiedEmail

/-- **A sealed event is read back as its body** by every replica that may read the version of its key. -/
theorem SealedEvent.raw {digest body}
    (h : SealedEvent keys digest e body) (hk : HoldsKeys keys env) (hcode : env.bodyDigest = digest)
    (hread : ∀ v ∈ e.verifiedEmailKeyVersion, v ∈ env.projectionReadableVersions) :
    eventRawBody env e = .ok body := by
  -- with the address of the body, the stored body is the body again, and its digest is right
  have hlast : ∀ email, body.projection.verifiedEmail = email →
      (do
        ensure (e.canonicalBodyDigest = env.bodyDigest { e.safeBody with
          projection := { e.safeBody.projection with verifiedEmail := email } }) .integrity
        pure { e.safeBody with
          projection := { e.safeBody.projection with verifiedEmail := email } } : Tx EventBody)
        = .ok body := by
    rintro email rfl
    have hbody : { e.safeBody with
        projection := { e.safeBody.projection with verifiedEmail := body.projection.verifiedEmail } }
          = body := by
      rw [h.stored]
      rfl
    rw [hbody]
    exact bind_ok.mpr ⟨(), ensure_ok.mpr (by rw [h.digest, hcode]), rfl⟩
  have hsafe : e.safeBody.projection.verifiedEmail = none := by
    rw [h.stored]
    rfl
  have hsealed := h.email
  unfold eventRawBody
  generalize e.verifiedEmailSourceIdentityId = source at hsealed
  generalize e.verifiedEmailCiphertext = ciphertext at hsealed
  generalize e.verifiedEmailKeyVersion = keyVersion at hsealed hread
  generalize hemail : body.projection.verifiedEmail = email at hsealed
  cases hsealed with
  | absent => exact hlast _ (hemail.trans hsafe.symm)
  | present source ciphertext keyVersion email positive opened =>
    have hopen := hk.opened e.projectId e.applicationId e.userId e.projectionRevision
      ⟨ciphertext, keyVersion⟩ (hread keyVersion rfl)
    exact bind_ok.mpr ⟨(), ensure_ok.mpr positive,
      bind_ok.mpr ⟨email, hopen.trans opened, hlast _ hemail⟩⟩

/-- the event is one a replica wrote for a projection, with its body -/
inductive Announced (keys : ProjectionKeys) (env : Environment) : ApplicationUserEvent → Prop
  | mk (projectPublicId applicationPublicId : String) (bindingId : Uuid)
      (projection : ApplicationUserProjection) (wire : ProjectionDocument)
      (eventType : ApplicationUserEventType)
      (sound : SealedEvent keys env.bodyDigest
        (projectionEvent env projectPublicId applicationPublicId bindingId projection wire eventType)
        (eventBody env projectPublicId applicationPublicId bindingId projection wire eventType)) :
      Announced keys env
        (projectionEvent env projectPublicId applicationPublicId bindingId projection wire eventType)

theorem announced_of_backs {applicationId user row} (hm : SealedMaterial keys env applicationId user m)
    (hb : Backs row applicationId user m) (projectPublicId applicationPublicId : String)
    (bindingId : Uuid) (eventType : ApplicationUserEventType) :
    Announced keys env (projectionEvent env projectPublicId applicationPublicId bindingId row
      m.document eventType) := by
  refine .mk _ _ _ _ _ _ ⟨rfl, rfl, ?_⟩
  show SealedEmail (keys row.projectId row.applicationId row.userId row.projectionRevision)
    row.verifiedEmailSourceIdentityId row.verifiedEmailCiphertext row.verifiedEmailKeyVersion
    m.document.verifiedEmail
  rw [hb.projectId, hb.applicationId, hb.userId, hb.projectionRevision,
    hb.verifiedEmailSourceIdentityId, hb.verifiedEmailCiphertext, hb.verifiedEmailKeyVersion]
  exact hm.email

theorem ViewMove.announced (h : ViewMove env db db') (hdb : ProjectionsBound db)
    (hk : HoldsKeys keys env) (he : e ∈ db'.events) : e ∈ db.events ∨ Announced keys env e := by
  cases h with
  | elsewhere _ _ events _ _ => exact .inl (events ▸ he)
  | repaired => exact .inl he
  | published binding q user m now _ _ _ _ material _ appended =>
    obtain ⟨hinsert, _, _⟩ := appendProjectionEvent_ok appended
    rcases (mem_insert hinsert).mp he with he | rfl
    · exact .inl he
    · have hscope := material.scope hdb
      exact .inr (announced_of_backs (authoritative_sealed hk hscope material.made)
        (repaired_backs _ (hscope q rfl) material.made) _ _ _ _)
  | introduced binding row user m projections _ _ _ _ material backs _ _ appended =>
    obtain ⟨hinsert, _, _⟩ := appendProjectionEvent_ok appended
    rcases (mem_insert hinsert).mp he with he | rfl
    · exact .inl he
    · exact .inr (announced_of_backs (authoritative_sealed hk (material.scope hdb) material.made)
        backs _ _ _ _)

theorem ViewRun.announced (h : ViewRun env db db') (hdb : ProjectionsBound db)
    (hk : HoldsKeys keys env) (he : e ∈ db'.events) : e ∈ db.events ∨ Announced keys env e := by
  induction h generalizing e with
  | refl => exact .inl he
  | tail hrun last ih =>
    rcases last.announced (ViewRun.bound hrun hdb) hk he with he | ha
    · exact ih he
    · exact .inr ha

theorem WebhookStep.events_sub {bares} (h : WebhookStep env bares db db')
    (he : e ∈ db'.events) : e ∈ db.events := by
  cases h with
  | maintained c => exact (mem_delete.mp he).1
  | _ => exact he

end

theorem run_announced {keys} (calls) :
    ∀ {db}, ProjectionsBound db → (∀ c ∈ calls, HoldsKeys keys c.env) →
      ∀ {e}, e ∈ (run db calls).events → e ∈ db.events ∨ ∃ c ∈ calls, Announced keys c.env e := by
  induction calls with
  | nil => exact fun _ _ _ he => .inl he
  | cons call calls ih =>
    intro db hdb hk e he
    rcases ih (step_bound db call hdb) (fun c hc => hk c (.tail _ hc)) he with he | ⟨c, hc, ha⟩
    · rcases step_views call db with hv | ⟨o, ho⟩
      · rcases hv.announced hdb (hk call (.head _)) he with he | ha
        · exact .inl he
        · exact .inr ⟨call, .head _, ha⟩
      · obtain ⟨env, _⟩ := call
        cases ho
        exact .inl ((o.step_webhook env db).events_sub he)
    · exact .inr ⟨c, .tail _ hc, ha⟩

/-! ## a deployment whose key is rotated -/

namespace Demo

def sealing (version : Int) (readable : List Int) : Environment :=
  { env with
    projectionWriteVersion := version
    projectionReadableVersions := readable
    protectProjectionEmail := fun _ _ _ _ email =>
      if email = "owl@example.test" then .ok ⟨List.replicate 17 0, version⟩ else .error .integrity }

def oneAddress : ProjectionKeys := fun _ _ _ _ _ => .ok "owl@example.test"

theorem sealing_holds (version : Int) (readable : List Int) :
    HoldsKeys oneAddress (sealing version readable) := by
  constructor
  · intro p a u r value _
    rfl
  · intro p a u r email value h
    replace h : (if email = "owl@example.test" then Except.ok ⟨List.replicate 17 0, version⟩
      else .error .integrity : Tx ProtectedValue) = .ok value := h
    split at h
    · rename_i heq
      cases h
      exact ⟨rfl, by rw [heq]; rfl⟩
    · cases h

def owlet : ProjectUser :=
  { user with
    primaryProfileIdentityId := none
    primaryEmailIdentityId := some 40
    primarySourceKind := .email }

def mailed : Database :=
  { start with
    users := .single owlet
    emailIdentities := .single ⟨40, 1, 3, .active, 1, 1, ⟨List.replicate 41 0, 1⟩, some 0⟩ }

theorem mailed_bound : ProjectionsBound mailed :=
  fun p hp => absurd hp (not_mem_empty p)

/-- the ticket is exchanged while the first version of the key is in use -/
def shown : List Call :=
  [⟨sealing 1 [1], .session (.commitHandoffExchange
    { exchangeCommand with
      preparation :=
        { handoff with
          projectionDocument :=
            { handoff.projectionDocument with verifiedEmail := some "owl@example.test" } } })⟩]

def projection : ApplicationUserProjection :=
  ⟨21, 1, 20, 2, 3, 1, 1, 1, 0, some 40, some (List.replicate 17 0), some 1,
    handoff.projectionDocument, seconds 1, seconds 1⟩

end Demo

/-! ## projections -/

/-- **A repaired projection is read back.**  Whatever user and address it is repaired for, in whatever
state of a run: the row holds no address in the clear and the digest of the public document, every
replica that may read the version it was sealed under reads back that document, and a second repair
for the same user and address reports no change.  Under the same write version it changes no row. -/
theorem repaired_projection_reads_back {keys : ProjectionKeys} {db₀ : Database}
    (h₀ : ProjectionsBound db₀) (calls : List Call) {env : Environment} (hk : HoldsKeys keys env)
    {q : ApplicationUserProjection} (hq : q ∈ (run db₀ calls).projections)
    {binding : ApplicationUserBinding} (hb : binding ∈ (run db₀ calls).bindings)
    (hbound : q.bindingId = binding.id) {user : ProjectUser}
    (huser : user.projectId = binding.projectId) {now : Instant} {db' : Database}
    {row : ApplicationUserProjection} {m : ProjectionMaterial}
    (h : repairRuntimeProjection env (run db₀ calls) q binding.applicationId user now
      = .ok (db', row, m)) :
    row ∈ db'.projections
      ∧ row.document.verifiedEmail = none
      ∧ row.canonicalDigest = env.documentDigest m.document
      ∧ ∀ env', SameService env env' → HoldsKeys keys env' →
        (∀ v ∈ row.verifiedEmailKeyVersion, v ∈ env'.projectionReadableVersions) →
        wireProjectionDocument env' row = .ok m.document
          ∧ ∀ db'', row ∈ db''.projections →
            primaryVerifiedEmail env' db'' user = primaryVerifiedEmail env (run db₀ calls) user →
            (∀ now' db₂ row₂ m₂,
              repairRuntimeProjection env' db'' row binding.applicationId user now'
                = .ok (db₂, row₂, m₂) →
              m₂.semanticChange = false ∧ m₂.document = m.document
                ∧ row₂.projectionRevision = row.projectionRevision)
            ∧ (env'.projectionWriteVersion = env.projectionWriteVersion → ∀ now',
              repairRuntimeProjection env' db'' row binding.applicationId user now'
                = .ok (db'', row,
                    { m with semanticChange := false, storageRepairRequired := false })) := by
  have hdb : ProjectionsBound (run db₀ calls) := Machine.run_inv step step_bound calls h₀
  obtain ⟨hmade, rfl, rfl⟩ := repairRuntimeProjection_ok h
  have hfor : MaterialFor env (run db₀ calls) binding (some q) user m :=
    ⟨hb, huser.symm, fun p hp => by cases hp; exact ⟨hq, hbound⟩, hmade⟩
  have hscope := hfor.scope hdb
  have hm := authoritative_sealed hk hscope hmade
  have hbacks := repaired_backs now (hscope q rfl) hmade
  obtain ⟨_, _, hd⟩ := authoritative_iff.mp hmade
  refine ⟨mem_set_self _ hq (repairedProjection_scope q user m now).1, ?_, ?_, ?_⟩
  · rw [hbacks.document, hm.stored]
    rfl
  · rw [hbacks.canonicalDigest, hm.digest]
  intro env' hcode hk' hread
  refine ⟨wire_of_backs hk' hcode.documentDigest hbacks hm hread, fun db'' hrow hsource => ?_⟩
  rw [hd.source] at hsource
  constructor
  · intro now' db₂ row₂ m₂ h₂
    obtain ⟨hmade₂, rfl, rfl⟩ := repairRuntimeProjection_ok h₂
    obtain ⟨hsame, hrevision, hdocument, _⟩ := hd.again hm hbacks hcode hsource hmade₂
    have hscope₂ : (repairedProjection q user m now).projectId = user.projectId
        ∧ (repairedProjection q user m now).applicationId = binding.applicationId :=
      ⟨hbacks.projectId, hbacks.applicationId⟩
    have hbacks₂ := repaired_backs now' hscope₂ hmade₂
    exact ⟨hsame, hdocument,
      (hbacks₂.projectionRevision.trans hrevision).trans hbacks.projectionRevision.symm⟩
  · intro hwrite now'
    have hsettled := hd.settles hm hbacks hcode hk' hsource hread hwrite
    refine bind_ok.mpr ⟨_, hsettled, ?_⟩
    show Except.ok ({ db'' with projections := db''.projections.set (repairedProjection q user m now) },
      repairedProjection q user m now, _) = _
    rw [set_self hrow]

/-- The projection is sealed anew under the second version of the key, without a public change, and a
replica that reads only the second and third versions reads it back. -/
theorem repaired_projection_reads_back_rotated :
    ∃ db' row m,
      repairRuntimeProjection (sealing 2 [1, 2]) (run mailed shown) projection 2
          owlet (seconds 9) = .ok (db', row, m)
        ∧ m.semanticChange = false ∧ row.verifiedEmailKeyVersion = some 2
        ∧ m.document.verifiedEmail = some "owl@example.test"
        ∧ wireProjectionDocument (sealing 3 [2, 3]) row = .ok m.document := by
  have hq : projection ∈ (run mailed shown).projections.rows := List.mem_of_mem_head? rfl
  have hb : (⟨20, 1, 2, 3, .active, 1, none, none⟩ : ApplicationUserBinding)
      ∈ (run mailed shown).bindings.rows := List.mem_of_mem_head? rfl
  obtain ⟨db', row, m, h, hsame, hversion, hemail⟩ : ∃ db' row m,
      repairRuntimeProjection (sealing 2 [1, 2]) (run mailed shown) projection 2
          owlet (seconds 9) = .ok (db', row, m)
        ∧ m.semanticChange = false ∧ row.verifiedEmailKeyVersion = some 2
        ∧ m.document.verifiedEmail = some "owl@example.test" := ⟨_, _, _, rfl, rfl, rfl, rfl⟩
  have hread := (repaired_projection_reads_back mailed_bound shown
    (sealing_holds 2 [1, 2]) hq hb rfl rfl h).2.2.2 (sealing 3 [2, 3])
    ⟨rfl, rfl, rfl, rfl, rfl, rfl⟩ (sealing_holds 3 [2, 3]) (by rw [hversion]; decide)
  exact ⟨db', row, m, h, hsame, hversion, hemail, hread.1⟩

/-! ## events -/

/-- **Every event is read back.**  An event that a call of a run wrote holds no address in the clear,
and as long as it is there every replica that may read the version of its key reads back the body whose
digest was stored. -/
theorem events_read_back {keys : ProjectionKeys} {db₀ : Database} (h₀ : ProjectionsBound db₀)
    (calls : List Call) (hk : ∀ c ∈ calls, HoldsKeys keys c.env) {e : ApplicationUserEvent}
    (he : e ∈ (run db₀ calls).events) (hnew : e ∉ db₀.events) :
    e.safeBody.projection.verifiedEmail = none
      ∧ ∃ call ∈ calls, ∃ projectPublicId applicationPublicId bindingId projection wire eventType,
        e = projectionEvent call.env projectPublicId applicationPublicId bindingId projection wire
          eventType
        ∧ e.canonicalBodyDigest = call.env.bodyDigest (eventBody call.env projectPublicId
          applicationPublicId bindingId projection wire eventType)
        ∧ ∀ env', HoldsKeys keys env' → env'.bodyDigest = call.env.bodyDigest →
          (∀ v ∈ e.verifiedEmailKeyVersion, v ∈ env'.projectionReadableVersions) →
          eventRawBody env' e = .ok (eventBody call.env projectPublicId applicationPublicId bindingId
            projection wire eventType) := by
  obtain ⟨call, hcall, hann⟩ := (run_announced calls h₀ hk he).resolve_left hnew
  cases hann with
  | mk projectPublicId applicationPublicId bindingId projection wire eventType sound =>
    exact ⟨rfl, call, hcall, projectPublicId, applicationPublicId, bindingId, projection, wire,
      eventType, rfl, rfl, fun env' hk' hcode hread => sound.raw hk' hcode hread⟩

theorem events_read_back_rotated :
    ∃ e ∈ (run Demo.mailed Demo.shown).events,
      e.verifiedEmailKeyVersion = some 1 ∧ e.safeBody.projection.verifiedEmail = none
        ∧ ∃ body, eventRawBody (sealing 2 [1, 2]) e = .ok body := by
  obtain ⟨e, he, hversion⟩ : ∃ e ∈ (run Demo.mailed Demo.shown).events.rows,
      e.verifiedEmailKeyVersion = some 1 := by decide +kernel
  have hkeys : ∀ c ∈ Demo.shown, HoldsKeys oneAddress c.env := by
    intro c hc
    rw [List.mem_singleton.mp hc]
    exact sealing_holds 1 [1]
  obtain ⟨hsafe, _, hcall, _, _, _, _, _, _, _, _, hread⟩ :=
    events_read_back mailed_bound Demo.shown hkeys he (not_mem_empty e)
  rw [List.mem_singleton.mp hcall] at hread
  exact ⟨e, he, hversion, hsafe, _, hread (sealing 2 [1, 2]) (sealing_holds 2 [1, 2]) rfl
    (by rw [hversion]; decide)⟩

end OwlAuth
