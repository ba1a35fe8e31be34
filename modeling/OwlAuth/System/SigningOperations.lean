import OwlAuth.Signing.Workers

/-!
# Signing-key operations over a run

Whatever the workers, the provider and the operators do in whatever order, the operation behind a
signing key is driven under one lease at a time, and it is given up only where the provider holds
nothing for it.

* `grants`  the leases of an operation in the log of a run, in order;
* `Unprovisioned`  what the log shows when the provider holds nothing for an operation;
* `Operated`  the invariant: the stored lease is the last one granted, and the state of the
    operation is backed by the log;
* `OperationHistory`  what holds of an operation in every state a deployment reaches.
-/

namespace OwlAuth

open Fallible Table Demo SigningOutcome

/-! ## the log -/

def SigningEvent.grantOf (id : Uuid) : SigningEvent → Option (SigningProviderCall × Uuid)
  | granted operationId call token => if operationId = id then some (call, token) else none
  | answered _ _ _ _ => none
  | destroyed _ _ _ => none

def grants (id : Uuid) (log : List SigningEvent) : List (SigningProviderCall × Uuid) :=
  log.filterMap (SigningEvent.grantOf id)

/-- none of the leases is for a call that makes the key -/
def NoProvision (id : Uuid) (log : List SigningEvent) : Prop :=
  ∀ g ∈ grants id log, g.1 ≠ .provision

/-- the provider holds nothing for the operation: it was never asked to make the key, it was asked
after that and found nothing, or the last call to make the key failed without an effect -/
inductive Unprovisioned (id : Uuid) (log : List SigningEvent) : Prop
  | never (none : NoProvision id log)
  | absent (l₁ l₂ : List SigningEvent) (call : SigningProviderCall) (token : Uuid)
      (e : ProviderError) (split : log = l₁ ++ .granted id call token :: l₂)
      (inspection : call ≠ .provision) (none : NoProvision id l₂)
      (report : .answered id call token (.error e) ∈ l₂) (nothing : e.absent)
  | safe (l₁ l₂ : List SigningEvent) (token : Uuid) (e : ProviderError)
      (split : log = l₁ ++ .granted id .provision token :: l₂) (none : NoProvision id l₂)
      (report : .answered id .provision token (.error e) ∈ l₂) (nothing : e.retry = .exactInputSafe)

/-- the provider confirmed that it destroyed the key, or that the key was gone -/
def Destroyed (id : Uuid) (log : List SigningEvent) : Prop :=
  ∃ token, .destroyed id token (.ok .destroyed) ∈ log
    ∨ .destroyed id token (.ok .alreadyAbsent) ∈ log

/-- another lease on the operation was granted after this one -/
def Superseded (id token : Uuid) (log : List SigningEvent) : Prop :=
  ∃ l₁ call l₂, log = l₁ ++ .granted id call token :: l₂ ∧ grants id l₂ ≠ []

theorem grants_append (id : Uuid) (l l' : List SigningEvent) :
    grants id (l ++ l') = grants id l ++ grants id l' :=
  List.filterMap_append

theorem grants_split (id : Uuid) (call : SigningProviderCall) (token : Uuid)
    (l₁ l₂ : List SigningEvent) :
    grants id (l₁ ++ .granted id call token :: l₂)
      = grants id l₁ ++ (call, token) :: grants id l₂ := by
  rw [grants_append]
  exact congrArg _ (List.filterMap_cons_some (if_pos rfl))

variable {l' : List SigningEvent} {s : ProvisioningOperationState} {operationId : Uuid}
  {lease : SigningProviderLease} {action : SigningProviderAction} {out : SigningOutcome}
  {db : Database}

theorem NoProvision.append {id l} (h : NoProvision id l)
    (h' : NoProvision id l') : NoProvision id (l ++ l') := by
  intro g hg
  rw [grants_append] at hg
  exact (List.mem_append.mp hg).elim (h g) (h' g)

theorem Unprovisioned.append {id l} (h : Unprovisioned id l)
    (h' : NoProvision id l') : Unprovisioned id (l ++ l') := by
  cases h with
  | never hn => exact .never (hn.append h')
  | absent l₁ l₂ call token e split inspection hn report nothing =>
    refine .absent l₁ (l₂ ++ l') call token e ?_ inspection (hn.append h')
      (List.mem_append_left l' report) nothing
    rw [split, List.append_assoc, List.cons_append]
  | safe l₁ l₂ token e split hn report nothing =>
    refine .safe l₁ (l₂ ++ l') token e ?_ (hn.append h') (List.mem_append_left l' report) nothing
    rw [split, List.append_assoc, List.cons_append]

theorem Destroyed.append {id l} (l' : List SigningEvent)
    (h : Destroyed id l) : Destroyed id (l ++ l') := by
  obtain ⟨token, h | h⟩ := h
  · exact ⟨token, .inl (List.mem_append_left l' h)⟩
  · exact ⟨token, .inr (List.mem_append_left l' h)⟩

theorem tail_nil_of_last {α β : Type} {f : α → β} {l₁ l₂} {a b : α}
    (hn : ((l₁ ++ a :: l₂).map f).Nodup) (hl : (l₁ ++ a :: l₂).getLast? = some b)
    (hab : f a = f b) : l₂ = [] := by
  cases l₂ with
  | nil => rfl
  | cons c l₂ =>
    rw [List.getLast?_append_of_ne_nil _ (List.cons_ne_nil a (c :: l₂)),
      List.getLast?_cons_cons] at hl
    have hb : b ∈ c :: l₂ := List.mem_of_getLast? hl
    rw [List.map_append, List.map_cons] at hn
    have hcons := (List.nodup_append.mp hn).2.1
    exact absurd (hab ▸ List.mem_map_of_mem hb) (List.nodup_cons.mp hcons).1

/-! ## the invariant -/

/-- what the log must show of an operation in a state -/
def Settles (id : Uuid) (log : List SigningEvent) : ProvisioningOperationState → Prop
  | .prepared => Unprovisioned id log
  | .failed => Unprovisioned id log
  | .abandoned => Unprovisioned id log ∨ Destroyed id log
  | _ => True

theorem settles_of_outstanding {id log} (h : Outstanding s) : Settles id log s := by
  obtain ⟨hp, hf, ha⟩ := h
  cases s with
  | prepared => exact absurd rfl hp
  | failed => exact absurd rfl hf
  | abandoned => exact absurd rfl ha
  | _ => trivial

theorem Settles.append {id l} (h : Settles id l s)
    (h' : NoProvision id l') : Settles id (l ++ l') s := by
  cases s with
  | prepared => exact Unprovisioned.append h h'
  | failed => exact Unprovisioned.append h h'
  | abandoned => exact h.imp (·.append h') (·.append l')
  | _ => trivial

/-- the stored lease is the last one granted, and the log backs the state -/
structure OperationLogged (id : Uuid) (log : List SigningEvent) (o : KeyProvisioningOperation) :
    Prop where
  token : ∀ t ∈ o.providerLeaseToken, ∃ call, (grants id log).getLast? = some (call, t)
  settled : Settles id log o.state

structure Operated (id : Uuid) (db : Database) (log : List SigningEvent) : Prop where
  known : grants id log ≠ [] → ∃ o ∈ db.operations, o.id = id
  stored : ∀ o ∈ db.operations, o.id = id → OperationLogged id log o

section
variable {id : Uuid} {env : Environment} {db db' : Database} {log l : List SigningEvent}

theorem OperationLogged.append {o} (h : OperationLogged id log o)
    (hl : grants id l = []) : OperationLogged id (log ++ l) o := by
  refine ⟨fun t ht => ?_, h.settled.append ?_⟩
  · rw [grants_append, hl, List.append_nil]
    exact h.token t ht
  · intro g hg
    rw [hl] at hg
    cases hg

theorem OperationLogged.kept {o o'} (h : OperationLogged id log o)
    (hk : KeyOperationKept o o') : OperationLogged id log o' := by
  refine ⟨fun t ht => h.token t (hk.token t ht), ?_⟩
  have hs := h.settled
  cases hstate : o'.state with
  | prepared =>
    rw [hk.prepared hstate] at hs
    exact hs
  | failed =>
    rw [hk.failed hstate] at hs
    exact hs
  | abandoned =>
    rcases hk.abandoned hstate with ho | ho | ho
    · rw [ho] at hs
      exact hs
    · rw [ho] at hs
      exact .inl hs
    · rw [ho] at hs
      exact .inl hs
  | _ => trivial

/-- an operation for which no lease was granted yet -/
theorem OperationLogged.of_prepared {o : KeyProvisioningOperation} (hstate : o.state = .prepared)
    (htoken : o.providerLeaseToken = none) (hg : grants id log = []) : OperationLogged id log o := by
  refine ⟨fun t ht => ?_, ?_⟩
  · rw [htoken] at ht
    cases ht
  · rw [hstate]
    refine .never fun g hmem => ?_
    rw [hg] at hmem
    cases hmem

theorem Operated.append (h : Operated id db log) (hl : grants id l = []) :
    Operated id db (log ++ l) := by
  refine ⟨fun hne => h.known ?_, fun o ho hid => (h.stored o ho hid).append hl⟩
  rw [grants_append, hl, List.append_nil] at hne
  exact hne

theorem Operated.kept (h : Operated id db log) (hk : KeyOperationsKept db db') :
    Operated id db' log := by
  refine ⟨fun hne => ?_, fun o' ho' hid => ?_⟩
  · obtain ⟨o, ho, hid⟩ := h.known hne
    obtain ⟨o', ho', hoo'⟩ := hk.forward o ho
    exact ⟨o', ho', hoo'.id.trans hid⟩
  · rcases hk.backward o' ho' with ⟨o, ho, hoo'⟩ | hnew
    · exact (h.stored o ho (hoo'.id ▸ hid)).kept hoo'
    · by_cases hg : grants id log = []
      · exact .of_prepared hnew.1 hnew.2 hg
      · -- a lease was granted, so the operation was there before and is not a new one
        obtain ⟨o, ho, hoid⟩ := h.known hg
        obtain ⟨o'', ho'', hkept⟩ := hk.forward o ho
        have hsame : o'' = o' := eq_of_key ho'' ho' ((hkept.id.trans hoid).trans hid.symm)
        exact hsame ▸ (h.stored o ho hoid).kept hkept

theorem Operated.answered {P} (h : Operated id db log)
    (ha : OperationAnswered env operationId lease P db db')
    (hP : ∀ o ∈ db.operations, o.id = id → operationId = id → LeaseHeld env o lease →
      ∀ s, P s → Settles id log s) : Operated id db' log := by
  cases ha with
  | known same => exact same ▸ h
  | recorded o o' mem operations named held kept released state =>
    refine ⟨fun hne => ?_, fun u hu hid => ?_⟩
    · obtain ⟨u, hu, hid⟩ := h.known hne
      rw [operations]
      by_cases hou : u = o
      · exact ⟨o', (mem_set_of mem kept).mpr (.inr rfl), kept.trans (hou ▸ hid)⟩
      · exact ⟨u, (mem_set_of mem kept).mpr (.inl ⟨hu, hou⟩), hid⟩
    · rw [operations] at hu
      rcases (mem_set_of mem kept).mp hu with ⟨hu, _⟩ | rfl
      · exact h.stored u hu hid
      · have hoid : o.id = id := kept.symm.trans hid
        refine ⟨fun t ht => ?_, hP o mem hoid (named.symm.trans hoid) held _ state⟩
        rw [released] at ht
        cases ht

theorem claimedState_outstanding {s' call}
    (h : claimedState s = .ok (s', call)) : Outstanding s' := by
  cases s with
  | prepared => cases h; exact ⟨nofun, nofun, nofun⟩
  | submitted => cases h; exact ⟨nofun, nofun, nofun⟩
  | cleanupPending => cases h; exact ⟨nofun, nofun, nofun⟩
  | cleanupLeased => cases h; exact ⟨nofun, nofun, nofun⟩
  | _ => cases h

theorem Operated.granted {o} (h : Operated id db log)
    (hg : LeaseGranted env operationId action db db' o) :
    Operated id db' (log ++ [.granted operationId action.call action.lease.token]) := by
  obtain ⟨mem, named, _, state, leaseUntil, claimed, operations⟩ := hg
  have hmem : ∀ u, u ∈ db'.operations ↔ (u ∈ db.operations ∧ u ≠ o)
      ∨ u = leasedOperation o state action.call action.lease.token env.databaseClock leaseUntil :=
    fun u => operations ▸ mem_set_of mem rfl
  by_cases hid : operationId = id
  · subst hid
    refine ⟨fun _ => ⟨_, (hmem _).mpr (.inr rfl), named⟩, fun u hu huid => ?_⟩
    rcases (hmem u).mp hu with ⟨hu, hne⟩ | rfl
    · exact absurd (eq_of_key hu mem (huid.trans named.symm)) hne
    · refine ⟨fun t ht => ⟨action.call, ?_⟩, settles_of_outstanding (claimedState_outstanding claimed)⟩
      cases ht
      rw [grants_split]
      exact List.getLast?_concat
  · have hno : grants id [.granted operationId action.call action.lease.token] = [] :=
      List.filterMap_cons_none (if_neg hid)
    have hother : ∀ u ∈ db'.operations, u.id = id → u ∈ db.operations := by
      intro u hu huid
      rcases (hmem u).mp hu with ⟨hu, _⟩ | rfl
      · exact hu
      · exact absurd (named.symm.trans huid) hid
    refine ⟨fun hne => ?_, fun u hu huid => ((h.stored u (hother u hu huid) huid).append hno)⟩
    rw [grants_append, hno, List.append_nil] at hne
    obtain ⟨u, hu, huid⟩ := h.known hne
    refine ⟨u, (hmem u).mpr (.inl ⟨hu, ?_⟩), huid⟩
    rintro rfl
    exact hid (named.symm.trans huid)

end

/-! ## calls without a lease -/

theorem SigningOp.step_operations (o : SigningOp) (env db)
    (h : o.leased = false) : KeyOperationsKept db (o.step env db) := by
  cases o with
  | prepareSigningKey c => exact execute_of (.of_eq rfl) fun _ => prepareSigningKey_operations
  | publishSigningKey c => exact execute_of (.of_eq rfl) fun _ => publishSigningKey_operations
  | activateSigningKeyIfReady c =>
    refine execute_of (.of_eq rfl) fun _ h => ?_
    obtain ⟨_, _, _, h⟩ := later₃ h
    obtain ⟨_, _, _, h⟩ := later₃ h
    cases h
    exact .of_eq rfl
  | retireSigningKey c =>
    refine execute_of (.of_eq rfl) fun _ h => ?_
    obtain ⟨_, _, h⟩ := later₂ h
    exact transitionSigningKey_operations h
  | revokeSigningKey c => exact execute_of (.of_eq rfl) fun _ => transitionSigningKey_operations
  | _ => cases h

theorem step_operations (call db) (h : call.leased = false) :
    KeyOperationsKept db (step call db) := by
  have hr := step_only call db
  obtain ⟨env, op⟩ := call
  cases op with
  | signing o => exact o.step_operations env db h
  | configuration o =>
    rcases (o.step_owner env db).operations with he | ⟨_, _, _, he⟩
    · exact .of_eq he
    · show Evolves KeyOperationKept NewOperation db.operations _
      refine he ▸ evolves_update .refl _ fun _ _ _ => .of_state rfl nofun nofun nofun nofun
  | _ => exact .of_eq (congrArg Database.operations hr :)

/-! ## steps of a worker -/

def SigningTask.Logged (log : List SigningEvent) : SigningTask → Prop
  | calling w action =>
    .granted w.prepared.operationId action.call action.lease.token ∈ log
  | answered w action result =>
    ∃ l₁ l₂, log = l₁ ++ .granted w.prepared.operationId action.call action.lease.token :: l₂
      ∧ .answered w.prepared.operationId action.call action.lease.token result ∈ l₂
  | destroyAnswered w lease result => .destroyed w.prepared.operationId lease.token result ∈ log
  | _ => True

theorem SigningTask.Logged.append {t : SigningTask} {log : List SigningEvent}
    (l : List SigningEvent) (h : t.Logged log) : t.Logged (log ++ l) := by
  cases t with
  | calling w action => exact List.mem_append_left l h
  | answered w action result =>
    obtain ⟨l₁, l₂, rfl, hmem⟩ := h
    refine ⟨l₁, l₂ ++ l, ?_, List.mem_append_left l hmem⟩
    rw [List.append_assoc, List.cons_append]
  | destroyAnswered w lease result => exact List.mem_append_left l h
  | _ => trivial

/-- the step keeps the invariant, and its tasks remember what stands in the log -/
structure SigningOutcome.Sound (id : Uuid) (log : List SigningEvent) (out : SigningOutcome) :
    Prop where
  store : Operated id out.store (log ++ out.said)
  next : ∀ t ∈ out.next, t.Logged (log ++ out.said)

section
variable {id : Uuid} {db : Database} {log : List SigningEvent}

/-- the tokens of the leases on the operation are different -/
def TokensDistinct (id : Uuid) (log : List SigningEvent) : Prop :=
  ((grants id log).map Prod.snd).Nodup
  deriving Decidable

/-- a lease that is held is the last one: nothing was granted since -/
theorem Operated.last (h : Operated id db log) (hn : TokensDistinct id log)
    {o : KeyProvisioningOperation} (ho : o ∈ db.operations) (hid : o.id = id) {token : Uuid}
    (hheld : o.providerLeaseToken = some token) {call : SigningProviderCall}
    {l₁ l₂ : List SigningEvent} (hlog : log = l₁ ++ .granted id call token :: l₂) :
    grants id l₂ = [] := by
  obtain ⟨_, hlast⟩ := (h.stored o ho hid).token token hheld
  unfold TokensDistinct at hn
  rw [hlog, grants_split] at hn hlast
  exact tail_nil_of_last hn hlast rfl

theorem SigningOutcome.sound_of_store (h : Operated id out.store log) (hsaid : out.said = [])
    (hnext : ∀ t ∈ out.next, t.Logged log) : out.Sound id log := by
  refine ⟨?_, ?_⟩
  · rw [hsaid, List.append_nil]
    exact h
  · rw [hsaid, List.append_nil]
    exact hnext

theorem SigningOutcome.last_sound {body : Tx (Committed Unit)} {env : Environment}
    {P : ProvisioningOperationState → Prop} (h : Operated id db log)
    (hbody : ∀ r, body = .ok r → OperationAnswered env operationId lease P db r.db)
    (hP : ∀ o ∈ db.operations, o.id = id → operationId = id → LeaseHeld env o lease →
      ∀ s, P s → Settles id log s) : (last db body).Sound id log := by
  have hstore : Operated id (execute db body) log :=
    execute_of (P := fun db' => Operated id db' log) h fun r hr => h.answered (hbody r hr) hP
  exact sound_of_store hstore rfl fun t ht => absurd ht List.not_mem_nil

theorem queueCleanup_sound (h : Operated id db log) (i : SigningInput) (w : SigningWork)
    (lease : SigningProviderLease) : (queueCleanup i w lease db).Sound id log :=
  last_sound h (fun _ hr => queueSigningProviderCleanup_operations hr)
    fun _ _ _ _ _ _ hs => settles_of_outstanding hs

theorem completeCleanup_sound (h : Operated id db log) (i : SigningInput) (w : SigningWork)
    (lease : SigningProviderLease) (destroyed : Bool)
    (hgone : ∀ o ∈ db.operations, o.id = id → w.prepared.operationId = id →
      LeaseHeld i.env o lease → destroyed = true → Unprovisioned id log ∨ Destroyed id log) :
    (completeCleanup i w lease destroyed db).Sound id log := by
  refine last_sound h (fun _ hr => completeSigningProviderCleanup_operations hr) ?_
  rintro o ho hid hop hheld s (⟨rfl, hd⟩ | hs)
  · exact hgone o ho hid hop hheld hd
  · exact settles_of_outstanding hs

theorem persistSigningProviderFailure_sound (h : Operated id db log) (i : SigningInput)
    (w : SigningWork) (action : SigningProviderAction) (e : ProviderError)
    (hsafe : ∀ o ∈ db.operations, o.id = id → w.prepared.operationId = id →
      LeaseHeld i.env o action.lease → action.call = .provision → e.retry = .exactInputSafe →
      Unprovisioned id log) : (persistSigningProviderFailure i w action e db).Sound id log := by
  refine last_sound h (fun _ hr => recordSigningProviderFailure_operations hr) ?_
  rintro o ho hid hop hheld _ rfl
  show Settles id log (failedState action.call e.retry)
  -- only a key creation that may be repeated as it was is not left outstanding
  cases hcall : action.call <;> cases hretry : e.retry <;>
    first
      | exact hsafe o ho hid hop hheld hcall hretry
      | exact settles_of_outstanding ⟨nofun, nofun, nofun⟩

theorem containSigningProviderResult_sound (h : Operated id db log) (i : SigningInput)
    (w : SigningWork) (lease : SigningProviderLease) (made : ProvisionedSigningKey) :
    (containSigningProviderResult i w lease made db).Sound id log := by
  unfold containSigningProviderResult
  split
  · exact queueCleanup_sound h i w lease
  · refine sound_of_store ?_ rfl ?_
    · exact execute_of (P := fun db' => Operated id db' log) h fun r hr =>
        h.answered (recordProtectedSigningKeyMaterial_operations hr)
          fun _ _ _ _ _ _ hs => settles_of_outstanding hs
    · intro t ht
      dsimp only [after] at ht
      split at ht
      · rw [List.mem_singleton.mp ht]
        trivial
      · split at ht
        · rw [List.mem_singleton.mp ht]
          trivial
        · cases ht

theorem recordAnswer_sound (h : Operated id db log) (hn : TokensDistinct id log)
    (i : SigningInput) (w : SigningWork) (action : SigningProviderAction)
    (result : Except ProviderError ProvisionedSigningKey)
    (hlog : (SigningTask.answered w action result).Logged log) :
    (recordAnswer i w action db result).Sound id log := by
  obtain ⟨call, lease⟩ := action
  cases result with
  | ok made =>
    cases call with
    | provision => exact containSigningProviderResult_sound h i w lease made
    | inspect => exact containSigningProviderResult_sound h i w lease made
    | cleanup =>
      dsimp only [recordAnswer]
      split
      · refine sound_of_store h rfl fun t ht => ?_
        rw [List.mem_singleton.mp ht]
        trivial
      · exact persistSigningProviderFailure_sound h i w _ _ fun _ _ _ _ _ hcall => (nomatch hcall)
  | error e =>
    have hgone : ∀ o ∈ db.operations, o.id = id → w.prepared.operationId = id →
        LeaseHeld i.env o lease → (call ≠ .provision ∧ e.absent
          ∨ call = .provision ∧ e.retry = .exactInputSafe) → Unprovisioned id log := by
      intro o ho hid hop hheld he
      obtain ⟨l₁, l₂, hsplit, hreport⟩ := hlog
      rw [hop] at hsplit hreport
      have hno : NoProvision id l₂ := by
        intro g hg
        rw [h.last hn ho hid hheld.1 hsplit] at hg
        cases hg
      rcases he with ⟨hcall, habsent⟩ | ⟨rfl, hretry⟩
      · exact .absent l₁ l₂ _ _ e hsplit hcall hno hreport habsent
      · exact .safe l₁ l₂ _ e hsplit hno hreport hretry
    cases call with
    | provision =>
      exact persistSigningProviderFailure_sound h i w _ e
        fun o ho hid hop hheld _ hretry => hgone o ho hid hop hheld (.inr ⟨rfl, hretry⟩)
    | inspect =>
      dsimp only [recordAnswer]
      split
      · rename_i habsent
        refine last_sound h (fun _ hr => recordSigningProviderAbsence_operations hr) ?_
        rintro o ho hid hop hheld s (rfl | rfl)
        · exact hgone o ho hid hop hheld (.inl ⟨nofun, habsent⟩)
        · exact hgone o ho hid hop hheld (.inl ⟨nofun, habsent⟩)
      · exact persistSigningProviderFailure_sound h i w _ e fun _ _ _ _ _ hcall => (nomatch hcall)
    | cleanup =>
      dsimp only [recordAnswer]
      split
      · rename_i habsent
        exact completeCleanup_sound h i w lease true fun o ho hid hop hheld _ =>
          .inl (hgone o ho hid hop hheld (.inl ⟨nofun, habsent⟩))
      · exact persistSigningProviderFailure_sound h i w _ e fun _ _ _ _ _ hcall => (nomatch hcall)

theorem recordDestruction_sound (h : Operated id db log) (i : SigningInput) (w : SigningWork)
    (lease : SigningProviderLease) (result : Except ProviderError DestroyOutcome)
    (hlog : (SigningTask.destroyAnswered w lease result).Logged log) :
    (recordDestruction i w lease db result).Sound id log := by
  cases result with
  | error e =>
    exact persistSigningProviderFailure_sound h i w _ e fun _ _ _ _ _ hcall => (nomatch hcall)
  | ok outcome =>
    cases outcome with
    | destroyed =>
      exact completeCleanup_sound h i w lease true fun _ _ _ hop _ _ =>
        .inr ⟨lease.token, .inl (hop ▸ hlog)⟩
    | alreadyAbsent =>
      exact completeCleanup_sound h i w lease true fun _ _ _ hop _ _ =>
        .inr ⟨lease.token, .inr (hop ▸ hlog)⟩
    | unsupported =>
      exact completeCleanup_sound h i w lease false fun _ _ _ _ _ hd => (nomatch hd)

theorem SigningTask.advance_sound (h : Operated id db log) (hn : TokensDistinct id log)
    (i : SigningInput) (t : SigningTask) (hlog : t.Logged log) : (t.advance i db).Sound id log := by
  cases t with
  | calling w action =>
    refine ⟨h.append rfl, fun t ht => ?_⟩
    rw [List.mem_singleton.mp ht]
    obtain ⟨l₁, l₂, rfl⟩ := List.append_of_mem hlog
    refine ⟨l₁, _, List.append_assoc .. , List.mem_append_right l₂ (List.mem_singleton.mpr rfl)⟩
  | answered w action result => exact recordAnswer_sound h hn i w action result hlog
  | destroying w lease =>
    refine ⟨h.append rfl, fun t ht => ?_⟩
    rw [List.mem_singleton.mp ht]
    exact List.mem_append_right log (List.mem_singleton.mpr rfl)
  | destroyAnswered w lease result => exact recordDestruction_sound h i w lease result hlog
  | containing w lease => exact queueCleanup_sound h i w lease
  | publishing w =>
    refine sound_of_store ?_ rfl fun t ht => absurd ht List.not_mem_nil
    exact execute_of (P := fun db' => Operated id db' log) h
      fun r hr => h.kept (publishSigningKey_operations hr)

theorem SigningRequest.enter_sound (h : Operated id db log) (r : SigningRequest) :
    (r.enter db).Sound id log := by
  cases r with
  | call c =>
    refine sound_of_store ?_ rfl fun t ht => absurd ht List.not_mem_nil
    show Operated id (if c.leased = true then db else step c db) log
    split
    · exact h
    · rename_i hc
      exact h.kept (step_operations c db (Bool.not_eq_true _ ▸ hc))
  | claim env w now leaseUntil =>
    dsimp only [SigningRequest.enter]
    cases hb : claimSigningProviderAction env ⟨w.projectId, w.prepared, now, leaseUntil⟩ db with
    | error e => exact sound_of_store h rfl fun t ht => absurd ht List.not_mem_nil
    | ok r =>
      obtain ⟨db', reply⟩ := r
      rcases claimSigningProviderAction_operations hb with ⟨hkept, e, rfl⟩ | ⟨action, o, rfl, hg⟩
      · exact sound_of_store (h.kept hkept) rfl fun t ht => absurd ht List.not_mem_nil
      · refine ⟨h.granted hg, fun t ht => ?_⟩
        rw [List.mem_singleton.mp ht]
        exact List.mem_append_right log (List.mem_singleton.mpr rfl)

end

/-! ## runs -/

structure SigningSound (id : Uuid) (d : SigningDeployment) (log : List SigningEvent) : Prop where
  store : Operated id d.store log
  tasks : ∀ t ∈ d.tasks, t.Logged log

variable {id : Uuid}

theorem TokensDistinct.of_append {l} (h : TokensDistinct id (l ++ l')) : TokensDistinct id l := by
  unfold TokensDistinct at h ⊢
  rw [grants_append, List.map_append] at h
  exact (List.nodup_append.mp h).1

theorem SigningSound.outcome {d log tasks} (h : SigningSound id d log) (hout : out.Sound id log)
    (hsub : ∀ t ∈ tasks, t ∈ d.tasks) :
    SigningSound id ⟨out.store, tasks ++ out.next⟩ (log ++ out.said) := by
  refine ⟨hout.store, fun t ht => ?_⟩
  rcases List.mem_append.mp ht with ht | ht
  · exact (h.tasks t (hsub t ht)).append out.said
  · exact hout.next t ht

theorem SigningDeployment.step_sound {d log}
    (m : SigningMove) (hn : TokensDistinct id log) (h : SigningSound id d log) :
    SigningSound id (d.step m) (log ++ d.said m) := by
  have hc := Pool.step_cases (fun (r : SigningRequest) db => r.enter db)
    (fun i (t : SigningTask) db => t.advance i db) m d
  change Pool.Cases _ _ d m (SigningDeployment.step m d) (SigningDeployment.said m d) at hc
  show SigningSound id (SigningDeployment.step m d) (log ++ SigningDeployment.said m d)
  generalize SigningDeployment.step m d = d' at hc ⊢
  generalize SigningDeployment.said m d = said at hc ⊢
  cases hc with
  | idle hsub =>
    rw [List.append_nil]
    exact ⟨h.store, fun t ht => h.tasks t (hsub.subset ht)⟩
  | entered r => exact h.outcome (r.enter_sound h.store) fun _ ht => ht
  | advanced n i t ht =>
    exact h.outcome (t.advance_sound h.store hn i (h.tasks t (List.mem_of_getElem? ht)))
      fun _ hu => List.mem_of_mem_eraseIdx hu

def SigningOp.presents : SigningOp → Option (Uuid × SigningProviderLease)
  | .recordSigningProviderFailure c => some (c.prepared.operationId, c.lease)
  | .recordSigningProviderAbsence c => some (c.prepared.operationId, c.lease)
  | .queueSigningProviderCleanup c => some (c.prepared.operationId, c.lease)
  | .completeSigningProviderCleanup c => some (c.prepared.operationId, c.lease)
  | .recordProtectedSigningKeyMaterial c => some (c.prepared.operationId, c.lease)
  | _ => none

theorem SigningOp.step_stale {o : SigningOp} {env : Environment}
    (hp : o.presents = some (id, lease))
    (hstale : ∀ u ∈ db.operations, u.id = id → ¬ LeaseHeld env u lease) : o.step env db = db := by
  cases o with
  | recordSigningProviderFailure c =>
    cases hp
    exact execute_of (P := (· = db)) rfl fun _ h =>
      (recordSigningProviderFailure_operations h).stale hstale
  | recordSigningProviderAbsence c =>
    cases hp
    exact execute_of (P := (· = db)) rfl fun _ h =>
      (recordSigningProviderAbsence_operations h).stale hstale
  | queueSigningProviderCleanup c =>
    cases hp
    exact execute_of (P := (· = db)) rfl fun _ h =>
      (queueSigningProviderCleanup_operations h).stale hstale
  | completeSigningProviderCleanup c =>
    cases hp
    exact execute_of (P := (· = db)) rfl fun _ h =>
      (completeSigningProviderCleanup_operations h).stale hstale
  | recordProtectedSigningKeyMaterial c =>
    cases hp
    exact execute_of (P := (· = db)) rfl fun _ h =>
      (recordProtectedSigningKeyMaterial_operations h).stale hstale
  | _ => cases hp

/-- what holds of an operation in a state that a deployment reached, with the log of its run -/
structure OperationHistory (id : Uuid) (db : Database) (log : List SigningEvent) : Prop where
  /-- no two leases are held at one time -/
  exclusive : ∀ env, ∀ o ∈ db.operations, ∀ u ∈ db.operations, o.id = id → u.id = id →
    ∀ lease lease' : SigningProviderLease, LeaseHeld env o lease → LeaseHeld env u lease' →
      lease = lease'
  /-- and none is granted while one is held -/
  granted : ∀ env (c : ClaimSigningProviderAction) action, c.prepared.operationId = id →
    answer (claimSigningProviderAction env c db) = .ok action →
      ∀ o ∈ db.operations, o.id = id → ∀ lease, ¬ LeaseHeld env o lease
  /-- a lease that is not held, or after which another one was granted, changes nothing -/
  stale : ∀ env (o : SigningOp) lease, o.presents = some (id, lease) →
    (Superseded id lease.token log ∨ ∀ u ∈ db.operations, u.id = id → ¬ LeaseHeld env u lease) →
      step ⟨env, .signing o⟩ db = db
  /-- an operation that was given up left nothing at the provider -/
  settled : ∀ o ∈ db.operations, o.id = id → o.state = .abandoned ∨ o.state = .failed →
    Unprovisioned id log ∨ Destroyed id log

theorem Operated.history {log} (h : Operated id db log)
    (hn : TokensDistinct id log) : OperationHistory id db log := by
  refine ⟨?_, ?_, ?_, ?_⟩
  · intro env o ho u hu hid hid' lease lease' hl hl'
    have hou : o = u := eq_of_key ho hu (hid.trans hid'.symm)
    obtain ⟨t⟩ := lease
    obtain ⟨t'⟩ := lease'
    have htoken : some t = some t' := hl.1.symm.trans (hou ▸ hl'.1)
    cases htoken
    rfl
  · intro env c action hc ha o ho hid lease hheld
    obtain ⟨_, hb⟩ := answer_ok ha
    rcases claimSigningProviderAction_operations hb with ⟨_, _, he⟩ | ⟨_, u, _, hg⟩
    · cases he
    · have hou : o = u := eq_of_key ho hg.mem ((hid.trans hc.symm).trans hg.named.symm)
      obtain ⟨_, expiresAt, he, hlt⟩ := hheld
      have hle := hg.free expiresAt (hou ▸ he)
      exact absurd hlt (Int.not_lt.mpr hle)
  · intro env o lease hp hstale
    refine SigningOp.step_stale hp fun u hu hid hheld => ?_
    rcases hstale with ⟨_, _, _, hsplit, hlater⟩ | hstale
    · exact hlater (h.last hn hu hid hheld.1 hsplit)
    · exact hstale u hu hid hheld
  · rintro o ho hid (hs | hs)
    · have hsettled := (h.stored o ho hid).settled
      rw [hs] at hsettled
      exact hsettled
    · have hsettled := (h.stored o ho hid).settled
      rw [hs] at hsettled
      exact .inl hsettled

/-- **Signing-key operations.**  An operation that is prepared, without a lease, at the beginning of a
run or in it is driven under one lease at a time; what is presented under a superseded or an expired
lease changes nothing; and the operation ends abandoned or failed only if the provider was never asked
to make the key, was inspected since and reported that it holds nothing, failed the last call in a way
that is safe to repeat, or confirmed that the key is destroyed. -/
theorem signing_operations_settled {db₀ : Database} {id : Uuid}
    (hnew : ∀ o ∈ db₀.operations, o.id = id → o.state = .prepared ∧ o.providerLeaseToken = none)
    (moves : List SigningMove)
    (htokens : TokensDistinct id (SigningDeployment.log ⟨db₀, []⟩ moves)) :
    OperationHistory id (SigningDeployment.run ⟨db₀, []⟩ moves).store
      (SigningDeployment.log ⟨db₀, []⟩ moves) := by
  have hstart : SigningSound id ⟨db₀, []⟩ [] :=
    ⟨⟨fun h => absurd rfl h, fun o ho hid =>
        .of_prepared (hnew o ho hid).1 (hnew o ho hid).2 rfl⟩,
      fun t ht => absurd ht List.not_mem_nil⟩
  -- the tokens of a run are distinct only if those of its beginnings are
  have hsound := Machine.trace_inv SigningDeployment.step SigningDeployment.said
    (J := fun d l => TokensDistinct id l → SigningSound id d l)
    (fun d l m h hdistinct =>
      SigningDeployment.step_sound m hdistinct.of_append (h hdistinct.of_append))
    moves (fun _ => hstart) htokens
  exact hsound.store.history htokens

namespace Demo

def laterEnv (clock : Instant) (firstId : Nat) : Environment :=
  { env with databaseClock := clock, newUuid := fun n => firstId + n }

def signingWork : SigningWork where
  projectId := 1
  prepared := ⟨504, 7, 501, "kid_503", 502, [], .prepared⟩
  materialId := 502
  committedHandle := none
  committedPublicKey := none

def providerFails (clock : Instant) (e : ProviderError) : SigningInput :=
  ⟨laterEnv clock 0, clock, .error e, .error e⟩

/-- the call to make the key is lost, an inspection finds nothing, and the key is revoked -/
def lostProvision : List SigningMove :=
  [.enter (.call ⟨env, .signing (.prepareSigningKey ⟨1, "first", 1, []⟩)⟩),
    .enter (.claim env signingWork 0 (seconds 60)),
    .advance 0 (providerFails (seconds 1) ⟨.unavailable, .reconcile, none⟩),
    .advance 0 (providerFails (seconds 1) ⟨.unavailable, .reconcile, none⟩),
    .enter (.claim (laterEnv (seconds 10) 600) signingWork 0 (seconds 60)),
    .advance 0 (providerFails (seconds 11) ⟨.notFound, .exactInputSafe, none⟩),
    .advance 0 (providerFails (seconds 11) ⟨.notFound, .exactInputSafe, none⟩),
    .enter (.call ⟨laterEnv (seconds 12) 700, .signing (.revokeSigningKey ⟨1, 501, 3⟩)⟩)]

end Demo

theorem signing_operations_settled_lost :
    ((SigningDeployment.run ⟨start, []⟩ lostProvision).store.operations.rows.map
        fun o => (o.id, o.state)) = [(504, .abandoned)]
      ∧ grants 504 (SigningDeployment.log ⟨start, []⟩ lostProvision)
        = [(.provision, 500), (.inspect, 600)]
      ∧ OperationHistory 504 (SigningDeployment.run ⟨start, []⟩ lostProvision).store
        (SigningDeployment.log ⟨start, []⟩ lostProvision) :=
  ⟨by decide +kernel, by decide +kernel,
    signing_operations_settled (fun _ ho => absurd ho List.not_mem_nil) lostProvision
      (by decide +kernel)⟩

end OwlAuth
