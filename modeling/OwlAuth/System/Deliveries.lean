import Mathlib.Data.List.Induction
import OwlAuth.Base.Unique
import OwlAuth.Webhook.Claim
import OwlAuth.System.Views

/-!
# Webhook deliveries over whole runs

Any number of workers claim, finish and recover deliveries while other calls queue new ones.

* `DeliveryChange`  what a call can do to the deliveries and the attempts: queue, lease one, end
    one attempt, cancel and delete (`step_deliveries`);
* `DeliveryMove`  what this is for one delivery;
* `DeliveriesSound`  one lease for each endpoint, the attempts within their bound;
* `AttemptPast`  what stays true of a delivery once it is, for as long as it is kept;
* `deliveries_attempted_in_turn`  the main result;
* `candidate_is_claimed`  when a claim leases the delivery that was selected for it.

Maintenance deletes settled deliveries.  That a delivery deleted is not another one later needs that
a random id is not drawn twice: `createdDeliveries` lists the ids a call drew.
-/

namespace OwlAuth

open Fallible Table Demo Machine

/-! ## what queues a delivery -/

/-- rows are only added, and those are fresh deliveries -/
def OnlyQueued (t t' : Table WebhookDelivery) : Prop := Evolves Eq Queued t t'

variable {t t' : Table WebhookDelivery} {d d' : WebhookDelivery} {db db' : Database}
  {calls pre : List Call}

theorem OnlyQueued.of_eq (h : t' = t) : OnlyQueued t t' :=
  Evolves.of_eq (fun _ => rfl) h

theorem OnlyQueued.trans {t₁ t₂ t₃} (h : OnlyQueued t₁ t₂)
    (h' : OnlyQueued t₂ t₃) : OnlyQueued t₁ t₃ :=
  Evolves.trans (fun _ _ _ h h' => h.trans h') (fun _ _ h h' => h' ▸ h) h h'

theorem OnlyQueued.insert (h : t.insert d = some t') (hd : Queued d) : OnlyQueued t t' :=
  evolves_insert (fun _ => rfl) h hd

theorem appendProjectionEvent_queued
    {env projectPublicId applicationPublicId bindingId projection wire}
    {eventType : ApplicationUserEventType}
    (h : appendProjectionEvent env db projectPublicId applicationPublicId bindingId projection wire
      eventType = .ok db') : OnlyQueued db.deliveries db'.deliveries := by
  obtain ⟨_, _, _, _, _, hd, h⟩ := peel₃ h
  cases h
  refine foldOk_inv (OnlyQueued db.deliveries) ?_ (.of_eq rfl) hd
  intro t e t' _ ht he
  split at he
  · exact ht.trans (.insert (insertRow_ok he).2 ⟨rfl, rfl⟩)
  · cases he; exact ht

theorem ViewMove.queued {env} (h : ViewMove env db db') :
    OnlyQueued db.deliveries db'.deliveries := by
  cases h with
  | elsewhere _ _ _ deliveries _ => exact .of_eq deliveries
  | repaired => exact .of_eq rfl
  | published _ _ _ _ _ _ _ _ _ _ _ appended =>
    have hq := appendProjectionEvent_queued appended
    exact hq
  | introduced _ _ _ _ _ _ _ _ _ _ _ _ _ appended =>
    have hq := appendProjectionEvent_queued appended
    exact hq

theorem ViewRun.queued {env} (h : ViewRun env db db') :
    OnlyQueued db.deliveries db'.deliveries := by
  induction h with
  | refl => exact .of_eq rfl
  | tail _ last ih => exact ih.trans last.queued

/-! ## what a call can do to the deliveries -/

structure Cancelled (d d' : WebhookDelivery) : Prop where
  id : d'.id = d.id
  endpointId : d'.endpointId = d.endpointId
  attemptCount : d'.attemptCount = d.attemptCount
  pending : d.state = .pending
  cancelled : d'.state = .cancelled

structure Leased (d d' : WebhookDelivery) : Prop where
  id : d'.id = d.id
  endpointId : d'.endpointId = d.endpointId
  attemptCount : d'.attemptCount = d.attemptCount + 1
  pending : d.state = .pending
  leased : d'.state = .leased

inductive DeliveryChange (db db' : Database) : Prop
  | queued (deliveries : OnlyQueued db.deliveries db'.deliveries)
      (attempts : db'.attempts = db.attempts)
  | claimed (d d' : WebhookDelivery) (mem : d ∈ db.deliveries) (lease : Leased d d')
      (free : EndpointFree db d.endpointId) (deliveries : db'.deliveries = db.deliveries.set d')
      (attempts : db'.attempts = db.attempts)
  | ended (d d' : WebhookDelivery) (a : WebhookDeliveryAttempt) (mem : d ∈ db.deliveries)
      (released : Released d d') (ofDelivery : a.deliveryId = d.id)
      (number : a.attemptNumber = d.attemptCount)
      (deliveries : db'.deliveries = db.deliveries.set d')
      (recorded : db.attempts.insert a = some db'.attempts)
  | maintained
      (deliveries : ∀ d' ∈ db'.deliveries,
        d' ∈ db.deliveries ∨ ∃ d ∈ db.deliveries, Cancelled d d')
      (attempts : ∀ a ∈ db'.attempts, a ∈ db.attempts)

theorem maintain_rows (env) (c : MaintainWebhooks) (db) :
    ∀ d' ∈ (maintain env c db).deliveries,
      d' ∈ db.deliveries ∨ ∃ d ∈ db.deliveries, Cancelled d d' := by
  intro d' hd'
  have hd' : d' ∈ db.deliveries.update
      (fun d => d.id ∈ c.cancelled ∧ Undeliverable db env.databaseClock d)
      (cancelledDelivery env.databaseClock) (fun _ => rfl) := (mem_delete.mp hd').1
  rcases mem_update.mp hd' with ⟨hd, _⟩ | ⟨d, hd, ⟨_, hu⟩, rfl⟩
  · exact .inl hd
  · exact .inr ⟨d, hd, rfl, rfl, rfl, hu.1, rfl⟩

theorem WebhookStep.deliveryChange {env bares}
    (h : WebhookStep env bares db db') : DeliveryChange db db' := by
  cases h with
  | replayed d deliveries states queued inserted =>
    exact .queued (.insert inserted queued) rfl
  | claimed c e d states _ _ mem pending free _ =>
    exact .claimed d (leasedDelivery env c db e d) mem ⟨rfl, rfl, rfl, pending, rfl⟩ free rfl rfl
  | ended d d' a e e' attempts mem released ofDelivery number recorded _ _ =>
    exact .ended d d' a mem released ofDelivery number rfl recorded
  | maintained c => exact .maintained (maintain_rows env c db) fun _ ha => (mem_delete.mp ha).1
  | _ => exact .queued (.of_eq rfl) rfl

theorem step_deliveries (call db) : DeliveryChange db (step call db) := by
  have hr := step_only call db
  have hv := step_views call db
  obtain ⟨env, op⟩ := call
  cases op with
  | webhook o => exact (o.step_webhook env db).deliveryChange
  | _ =>
    obtain hv | ⟨_, ho⟩ := hv
    · exact .queued hv.queued (congrArg Database.attempts hr :)
    · cases ho

/-! ## one delivery -/

inductive DeliveryMove : WebhookDelivery → WebhookDelivery → Prop
  | same (d : WebhookDelivery) : DeliveryMove d d
  | leased {d d' : WebhookDelivery} (h : Leased d d') : DeliveryMove d d'
  | released {d d' : WebhookDelivery} (h : Released d d') : DeliveryMove d d'
  | cancelled {d d' : WebhookDelivery} (h : Cancelled d d') : DeliveryMove d d'

theorem DeliveryMove.id (h : DeliveryMove d d') : d'.id = d.id := by
  cases h with
  | same => rfl
  | leased h => exact h.id
  | released h => exact h.id
  | cancelled h => exact h.id

theorem DeliveryChange.rows (h : DeliveryChange db db') (hd' : d' ∈ db'.deliveries) :
    (∃ d ∈ db.deliveries, DeliveryMove d d')
      ∨ (Queued d' ∧ ∀ o ∈ db.deliveries, o.id ≠ d'.id) := by
  cases h with
  | queued deliveries _ =>
    rcases deliveries.backward d' hd' with ⟨d, hd, rfl⟩ | hq
    · exact .inl ⟨d, hd, .same d⟩
    · by_cases hold : ∃ o ∈ db.deliveries, o.id = d'.id
      · obtain ⟨o, ho, hid⟩ := hold
        obtain ⟨_, ho', rfl⟩ := deliveries.forward o ho
        have he : o = d' := eq_of_key ho' hd' hid
        exact .inl ⟨o, ho, by rw [he]; exact .same d'⟩
      · exact .inr ⟨hq, fun o ho hid => hold ⟨o, ho, hid⟩⟩
  | claimed d e mem lease _ deliveries _ =>
    rw [deliveries] at hd'
    rcases (mem_set_of mem lease.id).mp hd' with ⟨hd', _⟩ | rfl
    · exact .inl ⟨d', hd', .same d'⟩
    · exact .inl ⟨d, mem, .leased lease⟩
  | ended d e a mem released _ _ deliveries _ =>
    rw [deliveries] at hd'
    rcases (mem_set_of mem released.id).mp hd' with ⟨hd', _⟩ | rfl
    · exact .inl ⟨d', hd', .same d'⟩
    · exact .inl ⟨d, mem, .released released⟩
  | maintained deliveries _ =>
    rcases deliveries d' hd' with hd | ⟨d, hd, hc⟩
    · exact .inl ⟨d', hd, .same d'⟩
    · exact .inl ⟨d, hd, .cancelled hc⟩

theorem DeliveryChange.attempt (h : DeliveryChange db db') {a}
    (ha : a ∈ db'.attempts) (hnew : a ∉ db.attempts) :
    ∃ d ∈ db.deliveries, ∃ d' ∈ db'.deliveries, Released d d' ∧ a.deliveryId = d.id
      ∧ a.attemptNumber = d.attemptCount := by
  cases h with
  | queued _ attempts => exact absurd (attempts ▸ ha) hnew
  | claimed _ _ _ _ _ _ attempts => exact absurd (attempts ▸ ha) hnew
  | ended d d' b mem released ofDelivery number deliveries recorded =>
    rcases (mem_insert recorded).mp ha with ha | rfl
    · exact absurd ha hnew
    · refine ⟨d, mem, d', ?_, released, ofDelivery, number⟩
      rw [deliveries]
      exact mem_set_self d' mem released.id
  | maintained _ attempts => exact absurd (attempts a ha) hnew

/-! ## the invariant -/

/-- one lease for each endpoint, and no attempt beyond the last -/
structure DeliveriesSound (db : Database) : Prop where
  oneLeased : db.deliveries.AtMostOne (fun d => d.state = .leased) WebhookDelivery.endpointId
  bounded : ∀ d ∈ db.deliveries, d.attemptCount ≤ maxWebhookDeliveryAttempts
    ∧ (d.state = .pending → d.attemptCount < maxWebhookDeliveryAttempts)

theorem DeliveryChange.oneLeased (h : DeliveryChange db db')
    (hdb : db.deliveries.AtMostOne (fun d => d.state = .leased) WebhookDelivery.endpointId) :
    db'.deliveries.AtMostOne (fun d => d.state = .leased) WebhookDelivery.endpointId := by
  cases h with
  | queued deliveries _ =>
    -- a leased row is an old one
    have back : ∀ d ∈ db'.deliveries, d.state = .leased → d ∈ db.deliveries := by
      intro d hd hl
      rcases deliveries.backward d hd with ⟨o, ho, rfl⟩ | hq
      · exact ho
      · rw [hq.1] at hl; cases hl
    intro a ha b hb hab hla hlb
    exact hdb a (back a ha hla) b (back b hb hlb) hab hla hlb
  | claimed d d' mem lease free deliveries _ =>
    rw [deliveries]
    refine hdb.set mem lease.id ?_
    intro _ o ho _ hoe
    exact free o ho (hoe.trans lease.endpointId)
  | ended d d' a mem released _ _ deliveries _ =>
    rw [deliveries]
    exact hdb.set_of_not mem released.id released.notLeased
  | maintained deliveries _ =>
    have back : ∀ d ∈ db'.deliveries, d.state = .leased → d ∈ db.deliveries := by
      intro d hd hl
      rcases deliveries d hd with hd | ⟨o, _, hc⟩
      · exact hd
      · rw [hc.cancelled] at hl; cases hl
    intro a ha b hb hab hla hlb
    exact hdb a (back a ha hla) b (back b hb hlb) hab hla hlb

theorem DeliveryChange.sound (h : DeliveryChange db db') (hdb : DeliveriesSound db) :
    DeliveriesSound db' := by
  refine ⟨h.oneLeased hdb.oneLeased, ?_⟩
  intro d' hd'
  rcases h.rows hd' with ⟨d, hd, hmove⟩ | ⟨⟨_, hcount⟩, _⟩
  · have hb := hdb.bounded d hd
    cases hmove with
    | same => exact hb
    | leased h =>
      have hlt := hb.2 h.pending
      rw [h.attemptCount, h.leased]
      exact ⟨by omega, nofun⟩
    | released h =>
      rw [h.attemptCount]
      exact ⟨hb.1, h.again⟩
    | cancelled h =>
      rw [h.attemptCount, h.cancelled]
      exact ⟨hb.1, nofun⟩
  · rw [hcount]; exact ⟨by decide, fun _ => by decide⟩

theorem run_deliveriesSound (h : DeliveriesSound db) (calls) : DeliveriesSound (run db calls) :=
  run_inv step (I := DeliveriesSound)
    (fun db call hdb => (step_deliveries call db).sound hdb) calls h

/-! ## ids that are drawn once -/

def Database.deliveryIds (db : Database) : List Uuid := db.deliveries.rows.map WebhookDelivery.id

def createdDeliveries (call : Call) (db : Database) : List Uuid :=
  (step call db).deliveryIds.filter fun id => id ∉ db.deliveryIds

/-- no id is drawn for a delivery that another delivery had -/
def DeliveryIdsFresh (db : Database) (calls : List Call) : Prop :=
  (db.deliveryIds ++ trace step createdDeliveries db calls).Nodup

theorem mem_deliveryIds {id} : id ∈ db.deliveryIds ↔ ∃ d ∈ db.deliveries, d.id = id :=
  List.mem_map

theorem deliveryIds_run (calls) {id} (h : id ∈ (run db calls).deliveryIds) :
    id ∈ db.deliveryIds ++ trace step createdDeliveries db calls := by
  have hinv := trace_inv step createdDeliveries
    (J := fun s l => ∀ id ∈ s.deliveryIds, id ∈ l) ?_ calls (s := db) (l := db.deliveryIds)
    (fun _ h => h)
  · exact hinv id h
  · intro s l call hJ id hid
    rw [List.mem_append]
    by_cases hold : id ∈ s.deliveryIds
    · exact .inl (hJ id hold)
    · exact .inr (List.mem_filter.mpr ⟨hid, decide_eq_true hold⟩)

theorem DeliveryIdsFresh.not_created {mid post call}
    (h : DeliveryIdsFresh db calls) (hcalls : calls = pre ++ mid ++ call :: post) {id}
    (hid : id ∈ (run db pre).deliveryIds) : id ∉ createdDeliveries call (run db (pre ++ mid)) := by
  intro hcreated
  unfold DeliveryIdsFresh at h
  rw [hcalls, trace_append, ← List.append_assoc] at h
  have hdisjoint := List.disjoint_of_nodup_append h
  refine hdisjoint ?_ (List.mem_append.mpr (.inl hcreated))
  rw [trace_append, ← List.append_assoc]
  exact List.mem_append.mpr (.inl (deliveryIds_run pre hid))

/-! ## what stays true of a delivery -/

/-- attempt `n` on the delivery is over -/
def AttemptPast (n : Int) (d : WebhookDelivery) : Prop :=
  n ≤ d.attemptCount ∧ (d.state = .leased → n < d.attemptCount)

theorem DeliveryMove.attemptPast {n} (h : DeliveryMove d d') (hd : AttemptPast n d) :
    AttemptPast n d' := by
  obtain ⟨hle, hlt⟩ := hd
  cases h with
  | same => exact ⟨hle, hlt⟩
  | leased h =>
    refine ⟨?_, fun _ => ?_⟩
    · rw [h.attemptCount]; omega
    · rw [h.attemptCount]; omega
  | released h => exact ⟨by rw [h.attemptCount]; exact hle, fun hl => absurd hl h.notLeased⟩
  | cancelled h =>
    refine ⟨by rw [h.attemptCount]; exact hle, fun hl => ?_⟩
    rw [h.cancelled] at hl
    cases hl

theorem DeliveryMove.settled (h : DeliveryMove d d') (hd : d.state.settled = true) :
    d'.state = d.state := by
  cases h with
  | same => rfl
  | leased h => rw [h.pending] at hd; cases hd
  | released h => rw [h.leased] at hd; cases hd
  | cancelled h => rw [h.pending] at hd; cases hd

/-- what every move of a delivery keeps is kept, however often other deliveries come and go -/
theorem kept_while_stored {P : WebhookDelivery → Prop} (hP : ∀ d d', DeliveryMove d d' → P d → P d')
    (hfresh : DeliveryIdsFresh db calls) {id} (hid : id ∈ (run db pre).deliveryIds)
    (hpre : ∀ d ∈ (run db pre).deliveries, d.id = id → P d) (mid : List Call) :
    ∀ post, calls = pre ++ mid ++ post →
      ∀ d ∈ (run db (pre ++ mid)).deliveries, d.id = id → P d := by
  induction mid using List.reverseRecOn with
  | nil =>
    intro _ _ d hd hdid
    rw [List.append_nil] at hd
    exact hpre d hd hdid
  | append_singleton mid call ih =>
    intro post hcalls d' hd' hdid'
    have hcalls : calls = pre ++ mid ++ call :: post := by
      rw [hcalls, ← List.append_assoc, List.append_assoc (pre ++ mid)]; rfl
    rw [← List.append_assoc, run_snoc] at hd'
    rcases (step_deliveries call (run db (pre ++ mid))).rows hd' with ⟨d, hd, hmove⟩ | ⟨_, hnew⟩
    · exact hP d d' hmove (ih (call :: post) hcalls d hd (hmove.id.symm.trans hdid'))
    · -- a new delivery cannot have this id again
      refine absurd ?_ (hfresh.not_created hcalls hid)
      refine List.mem_filter.mpr ⟨mem_deliveryIds.mpr ⟨d', hd', hdid'⟩, decide_eq_true ?_⟩
      intro hold
      obtain ⟨o, ho, hoid⟩ := mem_deliveryIds.mp hold
      exact hnew o ho (hoid.trans hdid'.symm)

/-! ## the attempts of a run -/

def recordedAttempts (call : Call) (db : Database) : List (Uuid × Int) :=
  ((step call db).attempts.rows.map Keyed.key).filter fun k =>
    k ∉ db.attempts.rows.map Keyed.key

theorem mem_recordedAttempts {call r} (h : r ∈ recordedAttempts call db) :
    ∃ d ∈ db.deliveries, ∃ d' ∈ (step call db).deliveries, Released d d' ∧ r.1 = d.id
      ∧ r.2 = d.attemptCount := by
  obtain ⟨hmem, hnew⟩ := List.mem_filter.mp h
  obtain ⟨a, ha, rfl⟩ := List.mem_map.mp hmem
  refine (step_deliveries call db).attempt ha (fun hold => ?_)
  exact of_decide_eq_true hnew (List.mem_map.mpr ⟨a, hold, rfl⟩)

theorem recorded_once (hfresh : DeliveryIdsFresh db calls) :
    (trace step recordedAttempts db calls).Nodup := by
  refine trace_nodup step recordedAttempts (fun _ _ _ _ => (step _ _).attempts.distinct.filter _) ?_
  intro pre call mid later post hcalls r hr hagain
  obtain ⟨_, _, d', hd', hrel, hid, hnumber⟩ := mem_recordedAttempts hr
  obtain ⟨e, he, _, _, hrel', hid', hnumber'⟩ := mem_recordedAttempts hagain
  have hsplit : pre ++ call :: mid = (pre ++ [call]) ++ mid := by
    rw [List.append_assoc]; rfl
  have hcalls : calls = (pre ++ [call]) ++ mid ++ later :: post := by
    rw [hcalls, ← hsplit, List.append_assoc]; rfl
  have hd' : d' ∈ (run db (pre ++ [call])).deliveries := by rw [run_snoc]; exact hd'
  have hdid : d'.id = r.1 := hrel.id.trans hid.symm
  -- the attempt is over after the first call, and so it is before the second one
  have hpast : ∀ x ∈ (run db (pre ++ [call])).deliveries, x.id = r.1 → AttemptPast r.2 x := by
    intro x hx hxid
    have hxd : x = d' := eq_of_key hx hd' (hxid.trans hdid.symm)
    rw [hxd, hnumber]
    exact ⟨Int.le_of_eq hrel.attemptCount.symm, fun hl => absurd hl hrel.notLeased⟩
  rw [hsplit] at he
  have hlater := kept_while_stored (fun _ _ => DeliveryMove.attemptPast) hfresh
    (mem_deliveryIds.mpr ⟨d', hd', hdid⟩) hpast mid (later :: post) hcalls e he hid'.symm
  have hlt := hlater.2 hrel'.leased
  rw [hnumber'] at hlt
  exact Int.lt_irrefl _ hlt

/-! ## a late finish -/

theorem finish_stale {c} (env) (h : ∀ d ∈ db.deliveries, d.id = c.claim.deliveryId →
      d.leaseGeneration ≠ c.claim.leaseGeneration) : step ⟨env, .webhook (.finish c)⟩ db = db := by
  show execute db (finish c db) = db
  rcases execute_cases db (finish c db) with he | ⟨_, hr, _⟩
  · exact he
  · obtain ⟨d, hd, hr⟩ := bind_ok.mp hr
    obtain ⟨_, _, _, _, _, hc, _⟩ := peel₃ hr
    obtain ⟨hd, hid⟩ := find_ok hd
    exact absurd (ensure_ok.mp hc).2.2.2.1 (h d hd hid)

/-! ## the main result -/

/-- In every run, whatever the workers and the operators do: an endpoint has at most one leased
delivery and a delivery at most twelve attempts; no attempt of a delivery is recorded twice; a
delivery that is delivered, terminal or cancelled stays so; and a finish under a lease generation
that is not the current one has no effect. -/
theorem deliveries_attempted_in_turn {db : Database} (start : DeliveriesSound db)
    (calls : List Call) (fresh : DeliveryIdsFresh db calls) :
    (∀ pre post, calls = pre ++ post →
      (run db pre).deliveries.AtMostOne (fun d => d.state = .leased) WebhookDelivery.endpointId
        ∧ ∀ d ∈ (run db pre).deliveries, d.attemptCount ≤ 12)
      ∧ (trace step recordedAttempts db calls).Nodup
      ∧ (∀ pre mid post, calls = pre ++ mid ++ post →
          ∀ d ∈ (run db pre).deliveries, d.state.settled = true →
            ∀ d' ∈ (run db (pre ++ mid)).deliveries, d'.id = d.id → d'.state = d.state)
      ∧ ∀ pre env c post, calls = pre ++ ⟨env, .webhook (.finish c)⟩ :: post →
          (∀ d ∈ (run db pre).deliveries, d.id = c.claim.deliveryId →
            d.leaseGeneration ≠ c.claim.leaseGeneration) →
          step ⟨env, .webhook (.finish c)⟩ (run db pre) = run db pre := by
  refine ⟨?_, recorded_once fresh, ?_, ?_⟩
  · intro pre post _
    have h := run_deliveriesSound start pre
    exact ⟨h.oneLeased, fun d hd => (h.bounded d hd).1⟩
  · intro pre mid post hcalls d hd hs
    refine kept_while_stored (P := fun x => x.state = d.state) ?_ fresh
      (mem_deliveryIds.mpr ⟨d, hd, rfl⟩) ?_ mid post hcalls
    · intro x x' hmove hx
      rw [← hx]
      exact hmove.settled (by rw [hx]; exact hs)
    · intro x hx hid
      rw [eq_of_key hx hd hid]
  · intro pre env c post _ hstale
    exact finish_stale env hstale

/-! ## a delivery that is claimed, delivered and reported again -/

namespace Demo

def endpoint : WebhookEndpoint :=
  ⟨20, 1, 2, "first", List.replicate 32 0, "https://perch.example.test/hooks", [.updated], .active,
    2, some 1, none, none, 0, none, none, none, some 0, some 0, none⟩

def secret : WebhookSecretGeneration :=
  ⟨20, 1, "first", List.replicate 32 0, some "AAAA", 91, .active, some 0, some 0, none⟩

def event : ApplicationUserEvent :=
  ⟨21, 1, 2, 30, 3, .updated, 1, 1,
    ⟨21, .updated, "prj_roost", "app_perch", "usr_owlet", 1, 1, 0, document⟩, 0, none, none, none,
    0, days 29, days 30⟩

def delivery : WebhookDelivery :=
  pendingDelivery { env with deliveryId := fun _ _ => 22 } event endpoint

/-- the deployment with one active endpoint and one event that waits for it -/
def webhooks : Database :=
  { start with
    endpoints := .single endpoint
    secrets := .single secret
    events := .single event
    dispatchStates := .single ⟨1, 2, 0⟩
    deliveries := .single delivery }

def worker (o : WebhookOp) : Call := ⟨env, .webhook o⟩

def claimDelivery : Call := worker (.claimOne ⟨22, "worker", 40, 60, 0⟩)

def reportDelivery : Call :=
  worker (.finish
    { claim := ⟨22, "worker", 40, 1, 21, endpoint.url, event.safeBody, 91, none, 1⟩
      attemptTimestamp := 1
      outcome := ⟨.accepted, some 204, 12⟩
      nextAttemptAt := none
      now := 0
      correlationId := 41 })

end Demo

theorem demo_attempt_recorded_once :
    trace step recordedAttempts webhooks [claimDelivery, reportDelivery, reportDelivery] = [(22, 1)]
      ∧ (trace step recordedAttempts webhooks
        [claimDelivery, reportDelivery, reportDelivery]).Nodup := by
  have hsound : DeliveriesSound webhooks := by
    refine ⟨atMostOne_single _, fun d hd => ?_⟩
    rw [List.mem_singleton.mp hd]
    exact ⟨by decide, fun _ => by decide⟩
  have hfresh : DeliveryIdsFresh webhooks
      [claimDelivery, reportDelivery, reportDelivery] := by
    unfold DeliveryIdsFresh
    decide +kernel
  exact ⟨by decide +kernel, (deliveries_attempted_in_turn hsound _ hfresh).2.1⟩

/-! ## selection and claim -/

/-- **The claim leases the delivery that was selected** if and only if no delivery of the same
Application that is due before it has an event past its retention, and its own event is still retained
at the time of the update. -/
theorem candidate_is_claimed (db : Database) (transactionTime now clock : Instant)
    (d : WebhookDelivery) (hs : DeliveriesScoped db)
    (h : findClaimCandidate transactionTime now db = some d) :
    claimUpdate now clock d.id db = some d ↔
      (∀ o ∈ db.deliveries, DeliveryDue db now o → o.applicationId = d.applicationId →
        dueBefore o d = true → EventRetained db transactionTime o)
      ∧ EventRetained db clock d := by
  obtain ⟨_, hargmin, rfl⟩ := Option.map_eq_some_iff.mp h
  obtain ⟨d, hd, hjoin⟩ := List.mem_filterMap.mp (List.argmin_mem hargmin)
  obtain ⟨_, hstate, rfl⟩ := Option.map_eq_some_iff.mp hjoin
  obtain ⟨hd, ⟨hdue, _⟩, hfirst⟩ := (mem_applicationCandidates hs).mp hd
  have hturn : (findDispatchState db d).isSome = true := by rw [hstate]; rfl
  rw [claimUpdate_iff hs hd]
  constructor
  · rintro ⟨_, _, hret, hall⟩
    refine ⟨fun o ho hdue' happ hbefore => ?_, hret⟩
    exact absurd (dueBefore_iff.mp hbefore) (not_lt.mpr (hall o ho hdue' happ))
  · rintro ⟨hahead, hret⟩
    refine ⟨hdue, hturn, hret, fun o ho hdue' happ => ?_⟩
    by_contra hlt
    have hbefore : o.rank < d.rank := not_le.mp hlt
    exact hlt (hfirst o ho ⟨hdue', hahead o ho hdue' happ (dueBefore_iff.mpr hbefore)⟩ happ)

namespace Demo

def shortEvent : ApplicationUserEvent := { event with id := 25, retainUntil := days 2 }

def shortDelivery : WebhookDelivery :=
  pendingDelivery { env with deliveryId := fun _ _ => 26 } shortEvent endpoint

/-- a delivery of each event waits for the endpoint, the one of the short event longer -/
def waiting : Database :=
  { webhooks with
    events := ⟨[event, shortEvent], by decide⟩
    deliveries := ⟨[{ delivery with nextAttemptAt := minutes 1 }, shortDelivery], by decide⟩ }

theorem waiting_scoped : DeliveriesScoped waiting := by
  intro d hd
  have hid : d.endpointId = 20 ∧ d.applicationId = 2 ∧ d.projectId = 1 := by
    rcases List.mem_cons.mp hd with rfl | hd
    · exact ⟨rfl, rfl, rfl⟩
    · rw [List.mem_singleton.mp hd]
      exact ⟨rfl, rfl, rfl⟩
  exact ⟨endpoint, List.mem_singleton.mpr rfl, hid.1.symm, hid.2.1.symm, hid.2.2.symm⟩

end Demo

/-- A day in, the delivery that waits longest is selected and claimed. -/
theorem candidate_is_claimed_first :
    findClaimCandidate (days 1) (days 1) waiting = some shortDelivery
      ∧ claimUpdate (days 1) (days 1) 26 waiting = some shortDelivery := by
  have hfind : findClaimCandidate (days 1) (days 1) waiting = some shortDelivery := by
    rfl
  refine ⟨hfind, (candidate_is_claimed waiting (days 1) (days 1) (days 1) shortDelivery
    waiting_scoped hfind).mpr ⟨?_, by decide +kernel⟩⟩
  decide +kernel

theorem waiting_stillChosen : StillChosen env waiting ⟨26, "w", 1, 60, minutes 1⟩ shortDelivery :=
  ((stillChosen_iff waiting_scoped (.tail _ (.head _))).mpr rfl).1

/-- Three days in, the other delivery is selected, and the claim leases nothing: the delivery whose
event is past its retention still comes first there. -/
theorem candidate_not_claimed :
    DeliveriesScoped waiting
      ∧ (findClaimCandidate (days 3) (days 3) waiting).map WebhookDelivery.id = some 22
      ∧ (claimUpdate (days 3) (days 3) 22 waiting).isNone = true :=
  ⟨waiting_scoped, by decide +kernel⟩

end OwlAuth
