import OwlAuth.System.BrowserClocks
import OwlAuth.System.ManagedVault

/-!
# What happens to the credentials of managed connections

* `managed_credential_opens`  in every reachable state a connection has at most one credential that
    can still be read: its current one, only while it is active, and what
    a worker loads of the connection opens it;
* `renewals_sent_once`  if the adapter's renewals cannot be replayed, a generation of a
    credential is sent to the provider at most once, after its operation
    was submitted, and only the worker that holds the operation stores the successor.
-/

namespace OwlAuth

open Fallible Table Demo Machine WorkerOutcome

/-! ## what can still be read -/

theorem Keeps.opens {c k} (h : Keeps c k)
    {s} (hs : k.ciphertext = some s) {row workerId leaseUntil allowStale claim}
    (hrow : row.connection = c) (hvalue : row.value = ⟨k.keyVersion, s⟩)
    (hclaim : claimFromRow row workerId leaseUntil allowStale = .ok claim) {readable}
    (hread : k.keyVersion ∈ readable) :
    unprotectCredential readable (contextFor claim.guard) claim.value = .ok s.credential := by
  obtain ⟨hg, hv, _⟩ := claimFromRow_ok hclaim
  obtain ⟨_, hs', hctx, hunder⟩ := h.sealed
  rw [hs] at hs'
  cases hs'
  have hvalue := hv.trans hvalue
  have hopen : claim.value.keyVersion ∈ readable
      ∧ claim.value.ciphertext.sealedUnder = claim.value.keyVersion
      ∧ claim.value.ciphertext.context = contextFor claim.guard := by
    rw [hvalue]
    refine ⟨hread, hunder, ?_⟩
    rw [hg.context, hrow]
    exact hctx
  have hcred : claim.value.ciphertext.credential = s.credential := by rw [hvalue]
  exact bind_ok.mpr ⟨(), ensure_ok.mpr hopen, congrArg Except.ok hcred⟩

variable {v : Vault} {db db' : Database} {r : PreparedRenewal} {t : Task}
  {actor : VaultActor} {d : Deployment} {sent : List Sent}

theorem Vault.Sound.keeps (hv : v.Sound) {c k} (hc : c ∈ v.connections) (hk : k ∈ v.credentials)
    (hid : k.connectionId = c.id) (hs : k.ciphertext.isSome = true) : Keeps c k := by
  obtain ⟨o, ho, hkeeps⟩ := hv.current k hk hs
  have hoid : k.connectionId = o.id := congrArg CredentialName.connectionId hkeeps.name
  rw [eq_of_key hc ho (hid.symm.trans hoid)]
  exact hkeeps

theorem Vault.Sound.readable_unique (hv : v.Sound) {k₁ k₂}
    (h₁ : k₁ ∈ v.credentials) (h₂ : k₂ ∈ v.credentials) (hid : k₁.connectionId = k₂.connectionId)
    (hs₁ : k₁.ciphertext.isSome = true) (hs₂ : k₂.ciphertext.isSome = true) : k₁ = k₂ := by
  obtain ⟨c, hc, hk⟩ := hv.current k₁ h₁ hs₁
  have hname : k₁.connectionId = c.id := congrArg CredentialName.connectionId hk.name
  have hn := hk.name.trans (hv.keeps hc h₂ (hid.symm.trans hname) hs₂).name.symm
  exact eq_of_key h₁ h₂ (Prod.ext (congrArg CredentialName.projectId hn)
    (Prod.ext hid (congrArg CredentialName.credentialGeneration hn)))

namespace Demo

/-- the lodge, whose provider manages profiles, with its user known there -/
def nest : Deployment :=
  ⟨{ regular with providers := .single { provider with managedProfileEnabled := true } }, []⟩

theorem nest_fresh : nest.Fresh := ⟨rfl, rfl, rfl, rfl, rfl⟩

def capability : ManagedProfileCapability := ⟨"google", 1, ["openid"], true, true, true, true⟩

def adapter : ManagedProfileAdapter := ⟨false, fun _ => some capability⟩

/-- the login comes back from the provider with a credential that can be renewed -/
def connectAt : Instant → Call :=
  returnWith (some ⟨7000, 32, ["openid"], ⟨"google", 1, ["openid"], true⟩⟩)

def connecting : List DeploymentMove :=
  [startLogin, bindBrowser, selectProvider, callbackAt (minutes 1), connectAt (minutes 2)].map
    fun c => .enter (.call c)

/-- what a worker meets at `now`; the provider answers with the credential 7001 -/
def meets (now : Instant) : Input :=
  ⟨env, now, now + minutes 30, [1], 1, some capability, .success 7001 ["openid"], .confirmed,
    .ok ⟨⟨none, none, none⟩, now⟩, none⟩

end Demo

/-- **In every reachable state**, whatever logins, workers, operators and crashes came before, a
managed connection has at most one credential row that still holds something; the row carries both
current generations of the connection, the connection is active, and what a worker loads of the
connection opens the row if the key version is retained. -/
theorem managed_credential_opens (d : Deployment) (hd : d.Fresh) (moves : List DeploymentMove) :
    (∀ k₁ ∈ (d.run moves).store.managedCredentials, ∀ k₂ ∈ (d.run moves).store.managedCredentials,
        k₁.connectionId = k₂.connectionId → k₁.ciphertext.isSome = true →
        k₂.ciphertext.isSome = true → k₁ = k₂)
      ∧ ∀ k ∈ (d.run moves).store.managedCredentials, ∀ s, k.ciphertext = some s →
        ∃ c ∈ (d.run moves).store.managedConnections,
          c.id = k.connectionId ∧ c.projectId = k.projectId
            ∧ k.credentialGeneration = c.credentialGeneration
            ∧ k.connectionGeneration = c.generation ∧ c.state = .active
            ∧ ∀ row workerId leaseUntil allowStale claim readable, row.connection = c →
                row.value = ⟨k.keyVersion, s⟩ →
                claimFromRow row workerId leaseUntil allowStale = .ok claim →
                k.keyVersion ∈ readable →
                unprotectCredential readable (contextFor claim.guard) claim.value
                  = .ok s.credential := by
  have hv := (deployment_sound hd moves).store
  refine ⟨fun k₁ h₁ k₂ h₂ hid hs₁ hs₂ => hv.readable_unique h₁ h₂ hid hs₁ hs₂, fun k hk s hs => ?_⟩
  obtain ⟨c, hc, hkeeps⟩ := hv.current k hk (by rw [hs]; rfl)
  have hn := hkeeps.name
  exact ⟨c, hc, (congrArg CredentialName.connectionId hn).symm,
    (congrArg CredentialName.projectId hn).symm, congrArg CredentialName.credentialGeneration hn,
    congrArg CredentialName.connectionGeneration hn, hkeeps.active,
    fun row _ _ _ _ _ hrow hvalue hclaim hread => hkeeps.opens hs hrow hvalue hclaim hread⟩

namespace Demo

def readableAfter (moves : List DeploymentMove) : List Int :=
  ((nest.run moves).store.managedCredentials.rows.filter fun k => k.ciphertext.isSome).map
    ManagedCredential.credentialGeneration

def renewFrom (workerId : Uuid) (now : Instant) : DeploymentMove :=
  .enter (.renew env adapter (.connection 500) workerId now (now + minutes 10))

end Demo

theorem managed_credential_opens_renewed :
    (readableAfter Demo.connecting = [1]
        ∧ readableAfter (Demo.connecting ++ [renewFrom 61 (minutes 3),
          .advance 0 (meets (minutes 4)), .advance 0 (meets (minutes 4)),
          .advance 0 (meets (minutes 5))]) = [2])
      ∧ ∀ k₁ ∈ (Demo.nest.run Demo.connecting).store.managedCredentials,
        ∀ k₂ ∈ (Demo.nest.run Demo.connecting).store.managedCredentials,
        k₁.connectionId = k₂.connectionId → k₁.ciphertext.isSome = true →
        k₂.ciphertext.isSome = true → k₁ = k₂ :=
  ⟨by decide +kernel, (managed_credential_opens Demo.nest nest_fresh Demo.connecting).1⟩

/-! ## what is sent to the provider -/

abbrev Generation := Uuid × Uuid × Int

def PreparedRenewal.generation (r : PreparedRenewal) : Generation :=
  (r.claim.guard.projectId, r.claim.guard.connectionId, r.claim.guard.credentialGeneration)

def Sent.generation (s : Sent) : Generation := s.renewal.generation

def RenewalOperation.generation (o : RenewalOperation) : Generation :=
  (o.projectId, o.connectionId, o.expectedCredentialGeneration)

/-- no worker starts with an adapter whose renewals can be replayed -/
def NotReplayable : DeploymentMove → Prop
  | .enter (.renew _ adapter _ _ _ _) => adapter.replayable = false
  | _ => True

instance : DecidablePred NotReplayable
  | .enter (.renew _ adapter _ _ _ _) => inferInstanceAs (Decidable (adapter.replayable = false))
  | .enter (.call _) | .enter (.revoke _ _) | .enter (.rewrap _ _) | .enter (.completeCallback _ _)
  | .advance _ _ | .crash _ => inferInstanceAs (Decidable True)

/-- a worker that will not send again what was submitted before it came -/
def Task.Once : Task → Prop
  | renewing w => w.canReplay = false
      ∧ (w.renewal.operationState = .prepared ∨ w.renewal.operationState = .submitted)
  | dispatching w _ => w.renewal.operationState = .prepared
  | _ => True

def Task.Late : Task → Prop
  | renewing _ => False
  | dispatching _ _ => False
  | _ => True

/-! ### what workers go on with -/

theorem WorkerOutcome.after_last_next {α : Type} (db)
    (body : Tx (Committed α)) : (after db body fun _ => []).next = [] := by
  unfold after
  cases answer body <;> rfl

theorem Request.enter_said (r : Request) (db) : (r.enter db).said = [] := by
  cases r <;> rfl

theorem Request.Started.once {r} (h : r.Started db db' t) (hr : NotReplayable (.enter r)) :
    t.Once ∧ (t.Late ∨ ∃ w, t = .renewing w) := by
  cases h with
  | @renewing _ adapter _ _ _ _ _ renewal _ hp =>
    refine ⟨⟨?_, ?_⟩, .inr ⟨_, rfl⟩⟩
    · show (adapter.replayable && renewal.adapterIdempotentReplay) = false
      rw [show adapter.replayable = false from hr]
      rfl
    · obtain ⟨_, hp⟩ := later hp
      split at hp
      · obtain ⟨_, _, ht⟩ := recoverRenewal_ok hp rfl
        rw [ht.state]
        exact ht.isOpen
      · obtain ⟨_, hs⟩ := startRenewal_ok hp rfl
        exact .inl hs.state
  | revoking | rewrapping | exchanging => exact ⟨trivial, .inl trivial⟩

theorem Task.Late.follows {u} (ht : t.Late) (h : t.Follows u) : u.Late := by
  cases h with
  | dispatching | answered => exact ht.elim
  | _ => trivial

theorem Task.Late.said (ht : t.Late) (i : Input) (db) : (t.advance i db).said = [] := by
  rcases t.advance_said i db with h | ⟨_, _, rfl, _⟩
  · exact h
  · exact ht.elim

theorem submitRenewal_cases (i : Input) (w : RenewalWork) (db) : (submitRenewal i w db).next = []
      ∨ (∃ credential db', w.renewal.operationState = .prepared
        ∧ markRenewalSubmitted w.renewal i.now db = .ok (.done db' true)
        ∧ submitRenewal i w db = ⟨db', [.dispatching w credential], []⟩)
      ∨ (w.renewal.operationState ≠ .prepared
        ∧ ¬ (w.renewal.operationState = .submitted ∧ w.canReplay = false)) := by
  unfold submitRenewal
  dsimp only
  split
  · exact .inl (after_last_next _ _)
  · split
    · exact .inl (after_last_next _ _)
    · split
      · exact .inl (after_last_next _ _)
      · rename_i hreplay
        split
        · exact .inl (after_last_next _ _)
        · rename_i credential _
          by_cases hprepared : w.renewal.operationState = .prepared
          · rw [if_pos hprepared]
            unfold after
            cases h : answer (markRenewalSubmitted w.renewal i.now db) with
            | error e => exact .inl rfl
            | ok submitted =>
              obtain ⟨db', hb⟩ := answer_ok h
              cases submitted with
              | false => exact .inl rfl
              | true =>
                refine .inr (.inl ⟨credential, db', hprepared, hb, ?_⟩)
                rw [execute_ok hb]
                rfl
          · exact .inr (.inr ⟨hprepared, hreplay⟩)

theorem submitRenewal_once (i : Input) (w : RenewalWork) (db) (hw : (Task.renewing w).Once) :
    (submitRenewal i w db).next = []
      ∨ ∃ credential db', w.renewal.operationState = .prepared
        ∧ markRenewalSubmitted w.renewal i.now db = .ok (.done db' true)
        ∧ submitRenewal i w db = ⟨db', [.dispatching w credential], []⟩ := by
  obtain ⟨hreplay, hstate⟩ := hw
  rcases submitRenewal_cases i w db with h | h | ⟨hn, hs⟩
  · exact .inl h
  · exact .inr h
  · exact absurd ⟨hstate.resolve_left hn, hreplay⟩ hs

theorem Task.Once.advance (ht : t.Once) (i : Input) (db) : ∀ u ∈ (t.advance i db).next, u.Once := by
  intro u hu
  have hf := t.advance_follows i db u hu
  cases hf with
  | dispatching w credential =>
    change _ ∈ (submitRenewal i w db).next at hu
    rcases submitRenewal_once i w db ht with hn | ⟨_, _, hprepared, _, _⟩
    · rw [hn] at hu
      cases hu
    · exact hprepared
  | _ => trivial

/-! ### a generation is sent once -/

section
variable (key : Generation)

def Task.weight : Task → Nat
  | dispatching w _ => if w.renewal.generation = key then 1 else 0
  | _ => 0

def Sent.mark (s : Sent) : Nat := if s.generation = key then 1 else 0

/-- a renewal of the generation was submitted, or ended before that -/
def GenerationSpent (db : Database) : Prop :=
  ∃ o ∈ db.renewalOperations.rows, o.generation = key ∧ o.state ≠ .prepared
  deriving Decidable

def Database.budget (db : Database) : Nat := if GenerationSpent key db then 1 else 0

theorem Task.Late.weight (h : t.Late) : t.weight key = 0 := by
  cases t with
  | renewing | dispatching => exact h.elim
  | _ => rfl

theorem sum_weight_eq_zero {tasks : List Task} (h : ∀ t ∈ tasks, t.weight key = 0) :
    (tasks.map (Task.weight key)).sum = 0 := by
  refine List.sum_eq_zero fun n hn => ?_
  obtain ⟨t, ht, rfl⟩ := List.mem_map.mp hn
  exact h t ht

theorem OperationMove.generation {o o'} (h : OperationMove o o') :
    o'.generation = o.generation := by
  have hn := h.credentialName
  unfold RenewalOperation.generation
  rw [show o'.projectId = o.projectId from congrArg CredentialName.projectId hn,
    show o'.connectionId = o.connectionId from congrArg CredentialName.connectionId hn,
    show o'.expectedCredentialGeneration = o.expectedCredentialGeneration from
      congrArg CredentialName.credentialGeneration hn]

theorem budget_mono (hv : VaultStep actor db.vault db'.vault) : db.budget key ≤ db'.budget key := by
  unfold Database.budget
  by_cases h : GenerationSpent key db
  · rw [if_pos h]
    obtain ⟨_, ho, hg, hs⟩ := h
    obtain ⟨o', ho', hm⟩ := hv.operation ho
    rw [if_pos ⟨o', ho', hm.generation.trans hg, hm.submitted hs⟩]
  · rw [if_neg h]
    exact Nat.zero_le _

theorem RenewalHeld.generation (h : RenewalHeld v r) :
    ∃ o ∈ v.operations, o.id = r.operationId ∧ o.generation = r.generation := by
  obtain ⟨o, ho, hid, hn⟩ := h.operation
  refine ⟨o, ho, hid, ?_⟩
  unfold RenewalOperation.generation PreparedRenewal.generation
  rw [show o.projectId = r.claim.guard.projectId from congrArg CredentialName.projectId hn,
    show o.connectionId = r.claim.guard.connectionId from congrArg CredentialName.connectionId hn,
    show o.expectedCredentialGeneration = r.claim.guard.credentialGeneration from
      congrArg CredentialName.credentialGeneration hn]

theorem budget_submitted {now} (hs : db.vault.Sound) (hr : RenewalHeld db.vault r)
    (h : markRenewalSubmitted r now db = .ok (.done db' true)) :
    (if r.generation = key then 1 else 0) + db.budget key ≤ db'.budget key := by
  by_cases hkey : r.generation = key
  · obtain ⟨o, ho, hid, hprepared, rfl⟩ := markRenewalSubmitted_true h
    obtain ⟨o', ho', hid', hgen⟩ := hr.generation
    have he : o' = o := eq_of_key ho' ho (hid'.trans hid.symm)
    rw [he] at hgen
    have hbefore : ¬ GenerationSpent key db := by
      rintro ⟨p, hp, hpk, hps⟩
      have hpo : p.generation = o.generation := hpk.trans (hkey.symm.trans hgen.symm)
      have hsame : p = o := hs.renewal_unique hp ho (congrArg Prod.fst hpo)
        (congrArg (fun g => g.2.1) hpo) (congrArg (fun g => g.2.2) hpo)
      rw [hsame] at hps
      exact hps hprepared
    have hafter : GenerationSpent key
        { db with renewalOperations := db.renewalOperations.set (submittedRenewal now o) } :=
      ⟨submittedRenewal now o, mem_set_self _ ho rfl, hgen.trans hkey, fun hn => nomatch hn⟩
    unfold Database.budget
    rw [if_pos hkey, if_neg hbefore, if_pos hafter]
  · rw [if_neg hkey, Nat.zero_add]
    exact budget_mono key (markRenewalSubmitted_call h).step

theorem Task.advance_account (i : Input) (t : Task) (db) (hs : db.vault.Sound)
    (ht : t.Right db) (ho : t.Once) :
    ((t.advance i db).next.map (Task.weight key)).sum
      + ((t.advance i db).said.map (Sent.mark key)).sum + db.budget key
        ≤ t.weight key + (t.advance i db).store.budget key := by
  have hb := budget_mono key (t.advance_stepped i db ht).vault
  have hlate : t.Late → ((t.advance i db).next.map (Task.weight key)).sum
      + ((t.advance i db).said.map (Sent.mark key)).sum + db.budget key
        ≤ t.weight key + (t.advance i db).store.budget key := by
    intro hl
    rw [sum_weight_eq_zero key fun u hu => (hl.follows (t.advance_follows i db u hu)).weight key,
      hl.said i db]
    show 0 + 0 + db.budget key ≤ _
    omega
  cases t with
  | renewing w =>
    rcases submitRenewal_once i w db ho with hn | ⟨credential, db', _, hsub, he⟩
    · have hsaid : ((Task.renewing w).advance i db).said = [] := by
        rcases (Task.renewing w).advance_said i db with h | ⟨_, _, h, _⟩
        · exact h
        · cases h
      rw [show ((Task.renewing w).advance i db).next = [] from hn, hsaid]
      show 0 + 0 + db.budget key ≤ _
      omega
    · have hb := budget_submitted key hs ht.1 hsub
      rw [show (Task.renewing w).advance i db = ⟨db', [.dispatching w credential], []⟩ from he]
      show (if w.renewal.generation = key then 1 else 0) + 0 + 0 + db.budget key
        ≤ 0 + db'.budget key
      omega
  | dispatching w credential =>
    show 0 + 0 + ((if w.renewal.generation = key then 1 else 0) + 0) + db.budget key
      ≤ (if w.renewal.generation = key then 1 else 0) + db.budget key
    omega
  | _ => exact hlate trivial

end

/-- what was sent never exceeds what the store has on record -/
structure SentSound (d : Deployment) (sent : List Sent) : Prop where
  deployment : d.Sound
  once : ∀ t ∈ d.tasks, t.Once
  accounted : ∀ key, Pool.Accounted (Task.weight key) (Sent.mark key) (Database.budget key) d sent

theorem SentSound.step (h : SentSound d sent) (m : DeploymentMove) (hm : NotReplayable m) :
    SentSound (d.step m) (sent ++ d.sent m) := by
  refine ⟨h.deployment.step m, ?_, fun key => ?_⟩
  · have hc := d.step_cases m
    generalize d.step m = d' at hc
    generalize d.sent m = l at hc
    cases hc with
    | idle hsub => exact fun t ht => h.once t (hsub.subset ht)
    | entered r =>
      intro t ht
      rcases List.mem_append.mp ht with ht | ht
      · exact h.once t ht
      · exact ((r.enter_started d.store t ht).once hm).1
    | advanced n i t hn =>
      intro u hu
      have hmem := List.mem_of_getElem? hn
      rcases List.mem_append.mp hu with hu | hu
      · exact h.once u (List.mem_of_mem_eraseIdx hu)
      · exact (h.once t hmem).advance i d.store u hu
  · refine Pool.account_step m (fun r hr => ?_) (fun n i t hn ht => ?_) (h.accounted key)
    · rw [hr] at hm
      have hb := budget_mono key (r.enter_vault d.store)
      have hzero : ((r.enter d.store).next.map (Task.weight key)).sum = 0 := by
        refine sum_weight_eq_zero key fun t ht => ?_
        rcases ((r.enter_started d.store t ht).once hm).2 with hl | ⟨w, rfl⟩
        · exact hl.weight key
        · rfl
      rw [hzero, r.enter_said]
      show 0 + 0 + d.store.budget key ≤ _
      omega
    · exact t.advance_account key i d.store h.deployment.store (h.deployment.tasks t ht)
        (h.once t ht)

theorem sum_mark (key : Generation) (sent : List Sent) :
    (sent.map (Sent.mark key)).sum = (sent.map Sent.generation).count key := by
  induction sent with
  | nil => rfl
  | cons s sent ih =>
    rw [List.map_cons, List.map_cons, List.sum_cons, List.count_cons, ih, Nat.add_comm]
    unfold Sent.mark
    by_cases h : s.generation = key
    · rw [if_pos h, if_pos (beq_iff_eq.mpr h)]
    · rw [if_neg h, if_neg (mt beq_iff_eq.mp h)]

theorem SentSound.nodup (h : SentSound d sent) : (sent.map Sent.generation).Nodup := by
  refine List.nodup_iff_count_le_one.mpr fun key => ?_
  have ha : (d.tasks.map (Task.weight key)).sum + (sent.map (Sent.mark key)).sum
      ≤ d.store.budget key := h.accounted key
  have hb : d.store.budget key ≤ 1 := by
    unfold Database.budget
    split <;> decide
  rw [sum_mark] at ha
  omega

theorem Deployment.Fresh.sentSound (hd : d.Fresh) : SentSound d [] := by
  refine ⟨hd.sound, fun t ht => ?_, fun key => ?_⟩
  · rw [hd.tasks] at ht
    cases ht
  · unfold Pool.Accounted
    rw [hd.tasks]
    exact Nat.zero_le _

theorem Deployment.mem_sent {m s} (h : s ∈ d.sent m) :
    ∃ w, Task.dispatching w s.credential ∈ d.tasks ∧ s.renewal = w.renewal := by
  have hc := d.step_cases m
  generalize d.step m = d' at hc
  generalize d.sent m = l at hc h
  cases hc with
  | idle => cases h
  | entered r =>
    rw [r.enter_said] at h
    cases h
  | advanced n i t hn =>
    rcases t.advance_said i d.store with hsaid | ⟨w, _, rfl, hsaid⟩
    · rw [hsaid] at h
      cases h
    · rw [hsaid] at h
      cases List.mem_singleton.mp h
      exact ⟨w, List.mem_of_getElem? hn, rfl⟩

/-- the move is the step of a worker that holds the operation, before its lease runs out -/
def Deployment.HeldIn (d : Deployment) (m : DeploymentMove) (o : RenewalOperation) : Prop :=
  ∃ a ∈ d.actor m, o.id = a.renewal.operationId ∧ o.leaseOwner = some a.renewal.claim.leaseOwner
    ∧ ∃ expiry ∈ o.leaseExpiresAt, a.now < expiry

/-- **If the adapter's renewals cannot be replayed**, then in every run of logins, workers, operators
and crashes a generation of a credential is sent to the provider at most once; when it is sent its
operation is on record as submitted, and the worker that sends it found it prepared; a renewal
succeeds only by the worker that holds its operation, before its lease runs out; and a credential row
that a step adds was brought by a login or a reauthorization, or is the successor that such a worker
stores as it commits the operation. -/
theorem renewals_sent_once (d : Deployment) (hd : d.Fresh) (moves : List DeploymentMove)
    (hmoves : ∀ m ∈ moves, NotReplayable m) :
    ((trace Deployment.step Deployment.sent d moves).map Sent.generation).Nodup
      ∧ (∀ pre m post, moves = pre ++ m :: post → ∀ s ∈ (d.run pre).sent m,
        s.renewal.operationState = .prepared
          ∧ ∃ o ∈ (d.run pre).store.renewalOperations, o.id = s.renewal.operationId
            ∧ o.generation = s.generation ∧ o.state ≠ .prepared ∧ o.submittedAt.isSome = true)
      ∧ (∀ pre m post, moves = pre ++ m :: post →
        ∀ o' ∈ ((d.run pre).step m).store.renewalOperations, o'.state = .successorCommitted →
          ∃ o ∈ (d.run pre).store.renewalOperations, o.id = o'.id
            ∧ (o.state = .successorCommitted ∨ (d.run pre).HeldIn m o))
      ∧ ∀ pre m post, moves = pre ++ m :: post →
        ∀ k ∈ ((d.run pre).step m).store.managedCredentials,
          (∃ k₀ ∈ (d.run pre).store.managedCredentials, k₀.name = k.name)
            ∨ (d.run pre).actor m = .consent
            ∨ ∃ o ∈ (d.run pre).store.renewalOperations, o.state = .submitted
              ∧ k.name = o.successorName ∧ (d.run pre).HeldIn m o
              ∧ ∃ o' ∈ ((d.run pre).step m).store.renewalOperations, o'.id = o.id
                ∧ o'.state = .successorCommitted := by
  have hrun : ∀ moves : List DeploymentMove, (∀ m ∈ moves, NotReplayable m) →
      SentSound (d.run moves) (trace Deployment.step Deployment.sent d moves) :=
    fun moves hm => trace_inv_along Deployment.step Deployment.sent
      (P := fun _ m => NotReplayable m) (J := SentSound) (l := [])
      (fun _ _ m h hm => h.step m hm) moves hd.sentSound (along_of_forall Deployment.step d hm)
  have hvault : ∀ pre m, VaultStep ((d.run pre).actor m) (d.run pre).store.vault
      ((d.run pre).step m).store.vault :=
    fun pre m => (deployment_sound hd pre).step_vault m
  refine ⟨(hrun moves hmoves).nodup, ?_, ?_, ?_⟩
  · intro pre m post he s hs
    have hpre : ∀ m ∈ pre, NotReplayable m := fun m hm =>
      hmoves m (by rw [he]; exact List.mem_append_left _ hm)
    have hsound := hrun pre hpre
    obtain ⟨_, ht, hw⟩ := Deployment.mem_sent hs
    obtain ⟨hheld, o, ho, hid, hst, hat⟩ := hsound.deployment.tasks _ ht
    obtain ⟨o', ho', hid', hgen⟩ := hheld.generation
    have hsame : o' = o := eq_of_key ho' ho (hid'.trans hid.symm)
    rw [hsame] at hgen
    refine ⟨?_, o, ho, ?_, ?_, hst, hat⟩
    · rw [hw]; exact hsound.once _ ht
    · rw [hw]; exact hid
    · unfold Sent.generation
      rw [hw]; exact hgen
  · intro pre m post _ o' ho' hs
    rcases (hvault pre m).successor ho' hs with ⟨o, ho, hid, hst⟩ | ⟨a, ha, _, o, ho, hid, _, hacts⟩
    · exact ⟨o, ho, hid, .inl hst⟩
    · exact ⟨o, ho, hid, .inr ⟨a, ha, hacts.operation, hacts.owner, hacts.unexpired⟩⟩
  · intro pre m post _ k hk
    rcases (hvault pre m).stored hk with hold | hconsent | ⟨a, ha, _, o, ho, hst, hname, hacts, hdone⟩
    · exact .inl hold
    · exact .inr (.inl hconsent)
    · exact .inr (.inr ⟨o, ho, hst, hname, ⟨a, ha, hacts.operation, hacts.owner, hacts.unexpired⟩,
        hdone⟩)

namespace Demo

/-- a worker takes over the renewal 500 at `now`, with ten minutes of time -/
def takeOver (workerId : Uuid) (now : Instant) : DeploymentMove :=
  .enter (.renew env adapter (.operation 500) workerId now (now + minutes 10))

/-- a worker vanishes right after it sent; a second one finds the renewal submitted and ends it -/
def abandoned : List DeploymentMove :=
  connecting ++ [renewFrom 61 (minutes 3), .advance 0 (meets (minutes 4)),
    .advance 0 (meets (minutes 4)), .crash 0, takeOver 62 (minutes 20),
    .advance 0 (meets (minutes 21))]

/-- the provider answered a worker, which stores the successor next -/
def answeredTo : List DeploymentMove :=
  connecting ++ [renewFrom 61 (minutes 3), .advance 0 (meets (minutes 4)),
    .advance 0 (meets (minutes 4))]

def storing : DeploymentMove := .advance 0 (meets (minutes 5))

end Demo

theorem renewals_sent_once_abandoned :
    (trace Deployment.step Deployment.sent nest abandoned).map Sent.generation
        = [(1, 500, 1)]
      ∧ (nest.run abandoned).store.renewalOperations.rows.map RenewalOperation.state
        = [.reauthRequired]
      ∧ ((trace Deployment.step Deployment.sent nest abandoned).map Sent.generation).Nodup
      ∧ ∃ k ∈ ((nest.run answeredTo).step storing).store.managedCredentials.rows,
        k.credentialGeneration = 2 ∧ ∃ o ∈ (nest.run answeredTo).store.renewalOperations,
          k.name = o.successorName ∧ (nest.run answeredTo).HeldIn storing o := by
  refine ⟨by decide +kernel, by decide +kernel,
    (renewals_sent_once nest nest_fresh abandoned (by decide)).1, ?_⟩
  have hex : ∃ k ∈ ((nest.run answeredTo).step storing).store.managedCredentials.rows,
      k.credentialGeneration = 2
        ∧ ∀ k₀ ∈ (nest.run answeredTo).store.managedCredentials.rows, k₀.credentialGeneration ≠ 2 := by
    decide +kernel
  obtain ⟨k, hk, htwo, hnew⟩ := hex
  refine ⟨k, hk, htwo, ?_⟩
  rcases (renewals_sent_once nest nest_fresh (answeredTo ++ [storing]) (by decide)).2.2.2
    answeredTo storing [] rfl k hk with ⟨k₀, hk₀, hn⟩ | hconsent | ⟨o, ho, _, hname, hheld, _⟩
  · exact absurd ((congrArg CredentialName.credentialGeneration hn).trans htwo) (hnew k₀ hk₀)
  · cases hconsent
  · exact ⟨o, ho, hname, hheld⟩

end OwlAuth
