import OwlAuth.System.ManagedCredentials

/-!
# Reauthorizations of managed connections

An interaction goes forward only, so its callback is claimed once and a status it ended with stays.
Only the worker that claimed the callback completes it (`InteractionChange`), in one transaction that
compares everything the interaction froze, stores the next generation of the credential and takes the
connection past the generation the interaction captured.

* `Deployment.Sound.step_interactions`  what a move does to interactions;
* `CompletedPast`  a connection is past the generation of whoever completed;
* `reauthorizations_complete_once`  the whole.
-/

namespace OwlAuth

open Fallible Table Demo Machine

/-! ## what a move does to interactions -/

/-- nothing is completed, or the exchange of one callback is -/
inductive InteractionChange (db db' : Database) : Prop
  | moved (moved : Evolves (InteractionMove false) Opened db.reauthorizations
      db'.reauthorizations)
  | completed (record : ReauthorizationRecord) (successor : ProtectedCredential) (now : Instant)
      (i : ReauthorizationInteraction) (m : ManagedConnection)
      (credentials : Table ManagedCredential) (done : Committed ConnectionGuard)
      (held : RecordHeld db record)
      (sealedFor : successor.ciphertext.context = reauthorizedContext record.interaction.frozen)
      (completes : ReauthorizationDone record successor now db i m credentials done)
      (written : db' = done.db)

variable {d : Deployment} {record : ReauthorizationRecord} {successor : ProtectedCredential}
  {now : Instant} {db db' : Database} {i i' : ReauthorizationInteraction} {m : ManagedConnection}
  {credentials : Table ManagedCredential} {done : Committed ConnectionGuard} {id : Uuid}

theorem exchangeAndComplete_change (i : Input) (record : ReauthorizationRecord) (db)
    (hr : RecordHeld db record) : InteractionChange db (exchangeAndComplete i record db).store := by
  have same : InteractionChange db db := .moved (.refl .refl _)
  unfold exchangeAndComplete
  split
  · exact same
  · rename_i credential identity _
    cases h : completeReauthorizationCallback record (protectCredential i.keyVersion
        (reauthorizedContext record.interaction.frozen) credential) i.now db with
    | error e => exact same
    | ok done =>
      obtain ⟨row, m, credentials, hdone⟩ := completeReauthorizationCallback_ok h
      exact .completed record _ i.now row m credentials done hr rfl hdone rfl

theorem Deployment.Sound.step_interactions (hd : d.Sound) (m : DeploymentMove) :
    InteractionChange d.store (d.step m).store := by
  have hc := d.step_cases m
  generalize d.step m = d' at hc
  generalize d.sent m = l at hc
  cases hc with
  | idle => exact .moved (.refl .refl _)
  | entered r => exact .moved (r.enter_interactions d.store)
  | advanced n i t hn =>
    have ht := hd.tasks t (List.mem_of_getElem? hn)
    have hst := t.advance_stepped i d.store ht
    cases t with
    | exchanging record => exact exchangeAndComplete_change i record d.store ht
    | _ => exact .moved hst.interactions

theorem ReauthorizationDone.frozen
    (h : ReauthorizationDone record successor now db i m credentials done)
    (hr : RecordHeld db record) : i.frozen = record.interaction.frozen := by
  obtain ⟨o, ho, hid, hf⟩ := hr
  have he : o = i := eq_of_key ho h.mem (hid.trans h.claimed.1.symm)
  rw [← he]
  exact hf

/-! ## everything an interaction needs to complete -/

/-- what the interaction `i` froze was current in `db`, with no revocation asked for, and from `db` to
`db'` its connection got exactly one new credential, the only one that can be read -/
structure CompletesOn (db db' : Database) (i : ReauthorizationInteraction) : Prop where
  authority : ∃ r : ReauthorizationInteraction, r.id = i.id ∧ r.frozen = i.frozen
    ∧ (∃ now, FrozenCurrent db r now) ∧ FrozenEgressCurrent db r
  credential : ∃ k ∈ db'.managedCredentials, k.connectionId = i.frozen.connectionId
    ∧ k.credentialGeneration = i.frozen.expectedCredentialGeneration + 1
    ∧ k.ciphertext.isSome = true
    ∧ (∀ k' ∈ db'.managedCredentials,
      (∀ o ∈ db.managedCredentials, Keyed.key o ≠ Keyed.key k') ↔ k' = k)
    ∧ ∀ k' ∈ db'.managedCredentials, k'.connectionId = i.frozen.connectionId →
      k'.ciphertext.isSome = true → k' = k

theorem ReauthorizationDone.completesOn
    (h : ReauthorizationDone record successor now db i m credentials done)
    (hr : RecordHeld db record) (hs : done.db.vault.Sound) :
    CompletesOn db done.db (endedInteraction .completed now i) := by
  have hf := h.frozen hr
  have hw := h.written
  refine ⟨⟨record.interaction, h.claimed.1.symm, hf.symm, ⟨now, h.current⟩, h.egress⟩, ?_⟩
  have hk : sealedCredentialRow (reauthorizedContext record.interaction.frozen) successor
      ∈ done.db.managedCredentials := by
    rw [hw]
    exact (mem_insert h.stored).mpr (.inr rfl)
  have hid : (reauthorizedContext record.interaction.frozen).connectionId = i.frozen.connectionId := by
    rw [hf]
    rfl
  refine ⟨_, hk, hid, by rw [show (endedInteraction .completed now i).frozen = _ from hf]; rfl, rfl,
    ?_, ?_⟩
  · intro k' hk'
    rw [hw] at hk'
    exact new_of_insert h.stored hk'
  · intro k' hk' hid' hsome
    exact hs.readable_unique hk' hk (hid'.trans hid.symm) hsome rfl

/-! ## one completion for each generation -/

/-- a completed interaction's connection is past the generation the interaction captured, and no two
of them captured the same -/
structure CompletedPast (db : Database) : Prop where
  past : ∀ i ∈ db.reauthorizations, i.status = .completed → ∃ c ∈ db.managedConnections,
    c.id = i.frozen.connectionId ∧ i.frozen.expectedConnectionGeneration < c.generation
  once : ∀ i₁ ∈ db.reauthorizations, ∀ i₂ ∈ db.reauthorizations, i₁.status = .completed →
    i₂.status = .completed → i₁.frozen.connectionId = i₂.frozen.connectionId →
    i₁.frozen.expectedConnectionGeneration = i₂.frozen.expectedConnectionGeneration → i₁ = i₂

theorem completed_before
    (hm : Evolves (InteractionMove false) Opened db.reauthorizations db'.reauthorizations)
    (hi' : i' ∈ db'.reauthorizations) (hs : i'.status = .completed) :
    ∃ i ∈ db.reauthorizations, i.id = i'.id ∧ i.frozen = i'.frozen ∧ i.status = .completed := by
  rcases hm.backward i' hi' with ⟨i, hi, hmove⟩ | hnew
  · exact ⟨i, hi, hmove.id.symm, hmove.frozen.symm,
      (hmove.completed hs).resolve_right fun hf => nomatch hf⟩
  · rw [hnew] at hs
    cases hs

section
variable {db db' : Database}

theorem CompletedPast.of_moved (hp : CompletedPast db)
    (hc : Evolves ConnectionMove FreshConnection db.managedConnections db'.managedConnections)
    (hm : Evolves (InteractionMove false) Opened db.reauthorizations db'.reauthorizations) :
    CompletedPast db' := by
  refine ⟨fun i' hi' hs => ?_, fun i₁ h₁ i₂ h₂ hs₁ hs₂ hid hgen => ?_⟩
  · obtain ⟨i, hi, _, hf, hst⟩ := completed_before hm hi' hs
    obtain ⟨c, hcm, hcid, hlt⟩ := hp.past i hi hst
    obtain ⟨c', hc', hmove⟩ := hc.forward c hcm
    rw [hf] at hcid hlt
    exact ⟨c', hc', hmove.id.trans hcid, Int.lt_of_lt_of_le hlt hmove.generation⟩
  · obtain ⟨o₁, ho₁, hid₁, hf₁, hst₁⟩ := completed_before hm h₁ hs₁
    obtain ⟨o₂, ho₂, hid₂, hf₂, hst₂⟩ := completed_before hm h₂ hs₂
    have he : o₁ = o₂ := hp.once o₁ ho₁ o₂ ho₂ hst₁ hst₂ (by rw [hf₁, hf₂]; exact hid)
      (by rw [hf₁, hf₂]; exact hgen)
    rw [he] at hid₁
    exact eq_of_key h₁ h₂ (hid₁.symm.trans hid₂)

theorem CompletedPast.of_completed (hp : CompletedPast db)
    (hc : Evolves ConnectionMove FreshConnection db.managedConnections
      done.db.managedConnections) (hr : RecordHeld db record)
    (h : ReauthorizationDone record successor now db i m credentials done) :
    CompletedPast done.db := by
  have hf := h.frozen hr
  have hrow : ∀ o, o ∈ done.db.reauthorizations →
      o ∈ db.reauthorizations ∨ o = endedInteraction .completed now i := by
    intro o ho
    have hkey : Keyed.key (endedInteraction .completed now i) = Keyed.key i := rfl
    rw [h.written] at ho
    exact ((mem_set_of h.mem hkey).mp ho).imp_left And.left
  have hnew : ∀ o ∈ db.reauthorizations, o.status = .completed →
      o.frozen.connectionId = i.frozen.connectionId →
      o.frozen.expectedConnectionGeneration ≠ i.frozen.expectedConnectionGeneration := by
    intro o ho hs hid
    obtain ⟨c, hc, hcid, hlt⟩ := hp.past o ho hs
    rw [hf] at hid ⊢
    have he : c = m := eq_of_key hc h.connection (hcid.trans (hid.trans h.connectionId.symm))
    rw [he, h.generation] at hlt
    omega
  refine ⟨fun o ho hs => ?_, fun i₁ h₁ i₂ h₂ hs₁ hs₂ hid hgen => ?_⟩
  · rcases hrow o ho with ho | rfl
    · obtain ⟨c, hcm, hcid, hlt⟩ := hp.past o ho hs
      obtain ⟨c', hc', hmove⟩ := hc.forward c hcm
      exact ⟨c', hc', hmove.id.trans hcid, Int.lt_of_lt_of_le hlt hmove.generation⟩
    · have hmem : reauthorizedConnection record.interaction now m ∈ done.db.managedConnections := by
        rw [h.written]
        exact mem_set_self _ h.connection rfl
      refine ⟨_, hmem, ?_, ?_⟩
      · show m.id = i.frozen.connectionId
        rw [hf]
        exact h.connectionId
      · show i.frozen.expectedConnectionGeneration
          < record.interaction.frozen.expectedConnectionGeneration + 1
        rw [hf]
        omega
  · rcases hrow i₁ h₁ with ho₁ | rfl
    · rcases hrow i₂ h₂ with ho₂ | rfl
      · exact hp.once i₁ ho₁ i₂ ho₂ hs₁ hs₂ hid hgen
      · exact absurd hgen (hnew i₁ ho₁ hs₁ hid)
    · rcases hrow i₂ h₂ with ho₂ | rfl
      · exact absurd hgen.symm (hnew i₂ ho₂ hs₂ hid.symm)
      · rfl

end

theorem CompletedPast.step (hp : CompletedPast d.store) (hd : d.Sound) (m : DeploymentMove) :
    CompletedPast (d.step m).store := by
  have hv := hd.step_vault m
  have hc := hv.connections
  cases hd.step_interactions m with
  | moved hm => exact hp.of_moved hc hm
  | completed record successor now i m' credentials done hr _ hdone hw =>
    rw [hw] at hc ⊢
    exact hp.of_completed hc hr hdone

theorem deployment_completedPast (hd : d.Fresh) (moves : List DeploymentMove) :
    CompletedPast (d.run moves).store := by
  have hi : ∀ i, ¬ i ∈ d.store.reauthorizations := fun i hi => by
    rw [← mem_rows, hd.interactions] at hi
    cases hi
  exact (run_inv (I := fun d : Deployment => d.Sound ∧ CompletedPast d.store) Deployment.step
    (fun _ m hs => ⟨hs.1.step m, hs.2.step hs.1 m⟩) moves
    ⟨hd.sound, fun i h => absurd h (hi i), fun i h => absurd h (hi i)⟩).2

/-! ## claims -/

def claimedInteractions : Except ApplicationError ClaimManagedReauthorization → List Uuid
  | .ok (.claimed record) => [record.interaction.id]
  | _ => []

/-- the interactions whose callback the move claims for an exchange -/
def Deployment.claimedCallbacks (m : DeploymentMove) (d : Deployment) : List Uuid :=
  match m with
  | .enter (.completeCallback interactionId c) =>
    claimedInteractions (answer (claimReauthorizationCallback interactionId c d.store))
  | .enter (.call ⟨_, .managed (.claimReauthorizationCallback interactionId c)⟩) =>
    claimedInteractions (answer (claimReauthorizationCallback interactionId c d.store))
  | _ => []

def CallbackPast (id : Uuid) (d : Deployment) : Prop :=
  ∃ i ∈ d.store.reauthorizations, i.id = id ∧ 3 ≤ i.status.rank

theorem claimedInteractions_past {interactionId c}
    (h : id ∈ claimedInteractions (answer (claimReauthorizationCallback interactionId c db))) :
    claimedInteractions (answer (claimReauthorizationCallback interactionId c db)) = [id]
      ∧ (∃ i ∈ db.reauthorizations, i.id = id ∧ i.status = .providerAuthorizationStarted)
      ∧ ∃ i ∈ (execute db (claimReauthorizationCallback interactionId c db)).reauthorizations,
        i.id = id ∧ 3 ≤ i.status.rank := by
  cases hb : claimReauthorizationCallback interactionId c db with
  | error e => rw [hb] at h; cases h
  | ok r =>
    rw [hb] at h
    rcases claimReauthorizationCallback_ok hb with ⟨i, hi, _, hs, policy, rfl⟩ | ⟨_, hn⟩
    · cases List.mem_singleton.mp h
      exact ⟨rfl, ⟨i, hi, rfl, hs⟩, _, mem_set_self _ hi rfl, rfl, Nat.le_refl 3⟩
    · change id ∈ claimedInteractions r.reply at h
      unfold claimedInteractions at h
      split at h
      · rename_i record hrec
        exact absurd hrec (hn record)
      · cases h

theorem Deployment.claimed_past {m} (h : id ∈ d.claimedCallbacks m) :
    d.claimedCallbacks m = [id]
      ∧ (∃ i ∈ d.store.reauthorizations, i.id = id ∧ i.status = .providerAuthorizationStarted)
      ∧ CallbackPast id (d.step m) := by
  unfold Deployment.claimedCallbacks at h ⊢
  split at h
  · exact claimedInteractions_past h
  · exact claimedInteractions_past h
  · cases h

theorem CallbackPast.step (h : CallbackPast id d) (hd : d.Sound) (m : DeploymentMove) :
    CallbackPast id (d.step m) := by
  obtain ⟨i, hi, hid, hrank⟩ := h
  obtain ⟨i', hi', hmove⟩ := (hd.step_moved m).interactions.forward i hi
  exact ⟨i', hi', hmove.id.trans hid, Nat.le_trans hrank hmove.rank⟩

theorem deployment_claims_nodup (hd : d.Fresh) (moves : List DeploymentMove) :
    (trace Deployment.step Deployment.claimedCallbacks d moves).Nodup := by
  refine trace_nodup _ _ (fun pre m _ _ => ?_) (fun pre m mid m' _ _ id hm hm' => ?_)
  · cases hl : (Machine.run Deployment.step d pre).claimedCallbacks m with
    | nil => exact List.nodup_nil
    | cons id l =>
      have hmem : id ∈ (Machine.run Deployment.step d pre).claimedCallbacks m := by
        rw [hl]; exact List.mem_cons_self
      rw [← hl, (Deployment.claimed_past hmem).1]
      exact List.nodup_singleton id
  · -- the callback is past by the second claim, which finds it waiting
    have hs := deployment_sound hd pre
    have hpast := (Deployment.claimed_past hm).2.2
    have hmid : CallbackPast id (Machine.run Deployment.step d (pre ++ m :: mid)) := by
      rw [Machine.run_append]
      exact (run_inv (I := fun d : Deployment => d.Sound ∧ CallbackPast id d)
        Deployment.step (fun _ m h => ⟨h.1.step m, h.2.step h.1 m⟩) mid ⟨hs.step m, hpast⟩).2
    obtain ⟨i, hi, hid, hrank⟩ := hmid
    obtain ⟨o, ho, hoid, hwaits⟩ := (Deployment.claimed_past hm').2.1
    have he : i = o := eq_of_key hi ho (hid.trans hoid.symm)
    rw [he, hwaits] at hrank
    exact absurd hrank (by decide)

/-! ## whole runs -/

theorem deployment_terminal_kept (hd : d.Sound) (moves : List DeploymentMove)
    (hi : i ∈ d.store.reauthorizations) (ht : i.status.terminal = true) :
    ∃ i' ∈ (d.run moves).store.reauthorizations, i'.id = i.id ∧ i'.status = i.status :=
  (run_inv
    (I := fun d : Deployment => d.Sound ∧ ∃ i' ∈ d.store.reauthorizations, i'.id = i.id
      ∧ i'.status = i.status)
    Deployment.step (fun d m h => by
      obtain ⟨hs, o, ho, hid, hst⟩ := h
      obtain ⟨i', hi', hmove⟩ := (hs.step_moved m).interactions.forward o ho
      exact ⟨hs.step m, i', hi', hmove.id.trans hid,
        (hmove.lasting (by rw [hst]; exact ht)).trans hst⟩)
    moves ⟨hd, i, hi, rfl, rfl⟩).2

theorem Deployment.Sound.completes_on (hd : d.Sound) (m : DeploymentMove)
    (hi' : i' ∈ (d.step m).store.reauthorizations) (hs : i'.status = .completed)
    (hnew : ∀ i ∈ d.store.reauthorizations, i.id = i'.id → i.status ≠ .completed) :
    CompletesOn d.store (d.step m).store i' := by
  have hv := (hd.step m).store
  cases hd.step_interactions m with
  | moved hm =>
    obtain ⟨i, hi, hid, _, hst⟩ := completed_before hm hi' hs
    exact absurd hst (hnew i hi hid)
  | completed record successor now i _ _ done hheld _ hdone hw =>
    rw [hw] at hi' hv ⊢
    rw [hdone.written] at hi'
    rcases (mem_set_of (r := endedInteraction .completed now i) hdone.mem rfl).mp hi'
      with ⟨hold, _⟩ | rfl
    · exact absurd hs (hnew i' hold rfl)
    · exact hdone.completesOn hheld hv

/-- **In every run**, whatever logins, workers and operators do in between, the callback of an
interaction is claimed for an exchange at most once. An interaction completes only on the authority it
froze, all of it current and with no revocation asked for, and leaves its connection exactly one new
credential, the only one that can be read. Of the interactions that captured one generation of a
connection at most one is ever completed, and an interaction that is over stays as it ended. -/
theorem reauthorizations_complete_once (d : Deployment) (hd : d.Fresh)
    (moves : List DeploymentMove) :
    (trace Deployment.step Deployment.claimedCallbacks d moves).Nodup
      ∧ (∀ pre m post, moves = pre ++ m :: post →
        ∀ i ∈ ((d.run pre).step m).store.reauthorizations, i.status = .completed →
        (∀ o ∈ (d.run pre).store.reauthorizations, o.id = i.id → o.status ≠ .completed) →
        CompletesOn (d.run pre).store ((d.run pre).step m).store i)
      ∧ (∀ i₁ ∈ (d.run moves).store.reauthorizations,
        ∀ i₂ ∈ (d.run moves).store.reauthorizations, i₁.status = .completed →
        i₂.status = .completed → i₁.frozen.connectionId = i₂.frozen.connectionId →
        i₁.frozen.expectedConnectionGeneration = i₂.frozen.expectedConnectionGeneration → i₁ = i₂)
      ∧ ∀ pre post, moves = pre ++ post → ∀ i ∈ (d.run pre).store.reauthorizations,
        i.status.terminal = true → ∃ i' ∈ (d.run moves).store.reauthorizations,
          i'.id = i.id ∧ i'.status = i.status := by
  refine ⟨deployment_claims_nodup hd moves, fun pre m _ _ i hi hs hnew => ?_,
    (deployment_completedPast hd moves).once, fun pre post he i hi ht => ?_⟩
  · exact (deployment_sound hd pre).completes_on m hi hs hnew
  · rw [he, Deployment.run, Machine.run_append]
    exact deployment_terminal_kept (deployment_sound hd pre) post hi ht

namespace Demo

def reauthorize (o : ManagedOp) : DeploymentMove := .enter (.call ⟨env, .managed o⟩)

/-- an operator asks the user back to the provider, and a browser gets as far as the callback -/
def sentBack (id : Uuid) (now : Instant) : List DeploymentMove :=
  [reauthorize (.createReauthorization
      ⟨id, 1, 3, 500, 2, 1, 1, 1, ⟨"google", 1, ["openid"], true⟩, true, true, ⟨10 * id, 1⟩,
        now + minutes 10, now⟩),
    reauthorize (.bindReauthorizationBrowser
      ⟨⟨10 * id, 1⟩, ⟨10 * id + 1, 1⟩, ⟨10 * id + 2, 1⟩, now⟩),
    reauthorize (.startReauthorizationProvider
      ⟨id, ⟨10 * id, 1⟩, ⟨10 * id + 1, 1⟩, ⟨10 * id + 2, 1⟩, 2, ⟨10 * id + 3, 1⟩,
        ⟨10 * id + 4, 1⟩, none, true, now⟩),
    .enter (.completeCallback id ⟨"prj_roost", "google", ⟨10 * id + 3, 1⟩, ⟨10 * id + 1, 1⟩, now⟩)]

def exchanges (now : Instant) : Input :=
  { meets now with exchanged := some ⟨googleIssuer, "owl", some 7002, ["openid"], true, none⟩ }

/-- two interactions are sent back with the same generation of the connection, the first callback
comes twice, and both exchanges succeed -/
def bothReturn : List DeploymentMove :=
  connecting ++ sentBack 70 (minutes 3) ++ sentBack 71 (minutes 4) ++ sentBack 70 (minutes 4)
    ++ [.advance 1 (exchanges (minutes 5)), .advance 0 (exchanges (minutes 5)),
      .advance 1 (exchanges (minutes 6)), .advance 0 (exchanges (minutes 6))]

end Demo

/-- Each callback is claimed once, the second exchange to finish is refused, and generation two is the
one left to read. -/
theorem reauthorizations_complete_once_both :
    (trace Deployment.step Deployment.claimedCallbacks nest bothReturn = [70, 71]
        ∧ (nest.run bothReturn).store.reauthorizations.rows.map
          ReauthorizationInteraction.status = [.providerExchangeFailed, .completed]
        ∧ readableAfter bothReturn = [2])
      ∧ (trace Deployment.step Deployment.claimedCallbacks nest
        bothReturn).Nodup :=
  ⟨by decide +kernel, (reauthorizations_complete_once nest nest_fresh bothReturn).1⟩

end OwlAuth
