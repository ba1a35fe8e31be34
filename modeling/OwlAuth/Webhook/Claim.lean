import OwlAuth.Base.Select
import OwlAuth.Webhook.Delivery

/-!
# The two queries of a delivery claim

A worker first reads which delivery comes next and then updates exactly that one, by a query that ranks
the deliveries again. Both take the first due delivery of each endpoint, the first of those of each
Application, and the Application whose turn it is. They differ in one filter: a delivery whose event is
past its retention is passed over by the first query and ranked by the second.

* `findClaimCandidate`  the first query;
* `claimUpdate`  the second, for one delivery;
* `stillChosen_iff`  the second is what `claimOne` asks.
-/

namespace OwlAuth

open Table
open Fallible Select

/-- `next_attempt_at, created_at, id` -/
def WebhookDelivery.rank (d : WebhookDelivery) : Int ×ₗ Int ×ₗ Nat :=
  toLex (d.nextAttemptAt, toLex (d.createdAt, d.id))

theorem dueBefore_iff {a b} : dueBefore a b = true ↔ a.rank < b.rank := by
  unfold dueBefore WebhookDelivery.rank
  rw [decide_eq_true_eq, Prod.Lex.toLex_lt_toLex, Prod.Lex.toLex_lt_toLex]

/-- the rows both queries rank: `endpoint_candidates`, then `application_candidates` -/
def applicationCandidates (rows : List WebhookDelivery) : List WebhookDelivery :=
  distinctOn WebhookDelivery.applicationId WebhookDelivery.rank
    (distinctOn WebhookDelivery.endpointId WebhookDelivery.rank rows)

def findDispatchState (db : Database) (d : WebhookDelivery) : Option DispatchState :=
  db.dispatchStates.find? fun s => s.projectId = d.projectId ∧ s.applicationId = d.applicationId

/-- `last_claim_sequence, next_attempt_at, created_at, id` -/
def turnRank (turn : DispatchState × WebhookDelivery) : Int ×ₗ Int ×ₗ Int ×ₗ Nat :=
  toLex (turn.1.lastClaimSequence, turn.2.rank)

/-- the delivery to claim next, read at `transactionTime` by a worker whose clock shows `now` -/
def findClaimCandidate (transactionTime now : Instant) (db : Database) : Option WebhookDelivery :=
  let candidates := applicationCandidates (db.deliveries.filter fun d =>
    DeliveryDue db now d ∧ EventRetained db transactionTime d)
  let turns := candidates.filterMap fun d => (findDispatchState db d).map fun s => (s, d)
  (first turnRank turns).map Prod.snd

/-- the delivery the claim leases, if it is the one asked for; `clock` is the time of the update -/
def claimUpdate (now clock : Instant) (candidateId : Uuid) (db : Database) :
    Option WebhookDelivery := do
  let d ← (applicationCandidates (db.deliveries.filter (DeliveryDue db now))).find? fun d =>
    decide (d.id = candidateId)
  let _ ← findDispatchState db d
  guard (EventRetained db clock d ∧ OwnersActive db d)
  pure d

/-- the foreign key of a delivery: an endpoint belongs to one Application -/
def DeliveriesScoped (db : Database) : Prop :=
  ∀ d ∈ db.deliveries, ∃ e ∈ db.endpoints, e.id = d.endpointId ∧ e.applicationId = d.applicationId
    ∧ e.projectId = d.projectId

section
variable {db : Database} {now transactionTime clock : Instant} {d : WebhookDelivery}

/-- the endpoints add nothing to the ranking, since each belongs to one Application -/
theorem mem_applicationCandidates (hs : DeliveriesScoped db) {p} [DecidablePred p] :
    d ∈ applicationCandidates (db.deliveries.filter p) ↔ d ∈ db.deliveries ∧ p d
      ∧ ∀ o ∈ db.deliveries, p o → o.applicationId = d.applicationId → d.rank ≤ o.rank := by
  have hfine : ∀ r ∈ db.deliveries.filter p, ∀ s ∈ db.deliveries.filter p,
      r.endpointId = s.endpointId → r.applicationId = s.applicationId := by
    intro r hr s hs' he
    obtain ⟨e, hem, heid, hea, _⟩ := hs r (mem_filter.mp hr).1
    obtain ⟨f, hfm, hfid, hfa, _⟩ := hs s (mem_filter.mp hs').1
    have hef : e = f := eq_of_key hem hfm (heid.trans (he.trans hfid.symm))
    rw [← hea, ← hfa, hef]
  unfold applicationCandidates
  rw [mem_distinctOn_distinctOn hfine, mem_distinctOn, mem_filter, and_assoc]
  refine and_congr_right fun _ => and_congr_right fun _ => ⟨fun h o ho hp => ?_, fun h o ho => ?_⟩
  · exact h o (mem_filter.mpr ⟨ho, hp⟩)
  · obtain ⟨ho, hp⟩ := mem_filter.mp ho
    exact h o ho hp

theorem claimUpdate_iff (hs : DeliveriesScoped db) (hd : d ∈ db.deliveries) :
    claimUpdate now clock d.id db = some d ↔ DeliveryDue db now d
      ∧ (findDispatchState db d).isSome = true ∧ EventRetained db clock d
      ∧ ∀ o ∈ db.deliveries, DeliveryDue db now o → o.applicationId = d.applicationId →
        d.rank ≤ o.rank := by
  constructor
  · intro h
    obtain ⟨f, hf, state, hstate, _, hguard, h⟩ := bind_some₃.mp h
    cases h
    obtain ⟨_, hdue, hfirst⟩ := (mem_applicationCandidates hs).mp (List.mem_of_find?_eq_some hf)
    have hret : EventRetained db clock d ∧ OwnersActive db d := by
      by_contra hno
      rw [guard, if_neg hno] at hguard
      cases hguard
    exact ⟨hdue, by rw [hstate]; rfl, hret.1, hfirst⟩
  · rintro ⟨hdue, hturn, hret, hfirst⟩
    have hcand := (mem_applicationCandidates hs).mpr ⟨hd, hdue, hfirst⟩
    obtain ⟨state, hstate⟩ := Option.isSome_iff_exists.mp hturn
    have hfind : (applicationCandidates (db.deliveries.filter (DeliveryDue db now))).find?
        (fun o => decide (o.id = d.id)) = some d := by
      cases hf : (applicationCandidates (db.deliveries.filter (DeliveryDue db now))).find?
          (fun o => decide (o.id = d.id)) with
      | none => exact absurd (List.find?_eq_none.mp hf d hcand) (by simp)
      | some f =>
        have hid : f.id = d.id := of_decide_eq_true
          (List.find?_some (p := fun o : WebhookDelivery => decide (o.id = d.id)) hf)
        have hmem := ((mem_applicationCandidates hs).mp (List.mem_of_find?_eq_some hf)).1
        rw [eq_of_key hmem hd hid]
    refine Option.bind_eq_some_iff.mpr ⟨d, hfind, Option.bind_eq_some_iff.mpr ⟨state, hstate, ?_⟩⟩
    rw [guard, if_pos ⟨hret, hdue.2.2.1⟩]
    rfl

theorem stillChosen_iff (hs : DeliveriesScoped db) (hd : d ∈ db.deliveries) {env c} :
    StillChosen env db c d ∧ (findDispatchState db d).isSome = true
      ↔ claimUpdate c.now env.databaseClock d.id db = some d := by
  rw [claimUpdate_iff hs hd]
  constructor
  · rintro ⟨⟨hchosen, hret⟩, hturn⟩
    obtain ⟨f, hf, hid⟩ := Option.map_eq_some_iff.mp hchosen
    obtain ⟨hmem, _, hdue⟩ := first?_some hf
    obtain rfl : f = d := eq_of_key hmem hd hid
    obtain ⟨_, _, hfirst, hle⟩ := firstOf_least @dueBefore_iff (List.ne_nil_of_mem (firstOf_mem hf))
    cases hf.symm.trans hfirst
    exact ⟨hdue, hturn, hret, fun o ho hdue' happ => hle o (mem_filter.mpr ⟨ho, happ, hdue'⟩)⟩
  · rintro ⟨hdue, hturn, hret, hfirst⟩
    have hself : d ∈ db.deliveries.filter fun o =>
        o.applicationId = d.applicationId ∧ DeliveryDue db c.now o :=
      mem_filter.mpr ⟨hd, rfl, hdue⟩
    obtain ⟨f, hf, hfound, hle⟩ := firstOf_least @dueBefore_iff (List.ne_nil_of_mem hself)
    obtain ⟨hmem, happ, hdue'⟩ := mem_filter.mp hf
    -- two deliveries of one rank are one delivery
    have hrank : f.rank = d.rank := le_antisymm (hle d hself) (hfirst f hmem hdue' happ)
    have hid : f.id = d.id := congrArg (fun r : Int ×ₗ Int ×ₗ Nat => (ofLex (ofLex r).2).2) hrank
    exact ⟨⟨Option.map_eq_some_iff.mpr ⟨f, hfound, hid⟩, hret⟩, hturn⟩

end

end OwlAuth
