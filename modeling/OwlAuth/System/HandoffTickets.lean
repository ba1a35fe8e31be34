import OwlAuth.System.RefreshChain

/-!
# Handoff tickets over whole runs

A ticket is issued at the end of a login and exchanged once for an application session.  Three rows
move together (ticket, login, session) while expiry, retries and other logins race with them.

* `HandoffChange`, `step_handoff`  what a call can do to logins and tickets;
* `HandoffInv`  every ticket agrees with its login, and a login has one ticket;
* `ExchangeLog`  the exchanges of a run account for the consumed tickets and for the sessions;
* `tickets_open_one_session`  the whole statement for every run.
-/

namespace OwlAuth

open Fallible Table Machine

def creations (call : Call) (db : Database) : List CreateLoginTransaction :=
  match call.op with
  | .login o => o.creations db
  | _ => []

/-- what a call can do to logins and tickets; the indices list the login it created and the
exchange it committed, if it did -/
inductive HandoffChange (db db' : Database) :
    List CreateLoginTransaction → List CommitHandoffExchange → Prop
  | moved (denial : Bool) (cs : List CreateLoginTransaction) (tickets : db'.tickets = db.tickets)
      (logins : Evolves (LoginMove denial) (fun l => ∃ c ∈ cs, l = newLogin c) db.logins db'.logins) :
      HandoffChange db db' cs []
  | issued (login : LoginTransaction) (ticket : HandoffTicket) (authenticatedAt now : Instant)
      (h : LoginIssued db db' login ticket authenticatedAt now) : HandoffChange db db' [] []
  | expired (tickets : Evolves TicketEnd (fun _ => False) db.tickets db'.tickets)
      (logins : db'.logins = db.logins) : HandoffChange db db' [] []
  | exchanged (c : CommitHandoffExchange) (ticket : HandoffTicket) (login : LoginTransaction)
      (owners : ExchangeOwners) (h : ExchangeAccepted db c ticket login owners)
      (tickets : db'.tickets = db.tickets.set (consumedTicket ticket c.now))
      (logins : db'.logins = db.logins.set (completedLogin login c.now)) :
      HandoffChange db db' [] [c]

variable {db db' : Database} {es log : List CommitHandoffExchange}
  {cs : List CreateLoginTransaction} {l l' : LoginTransaction} {t t' : HandoffTicket}
  {c : CommitHandoffExchange} {s : ApplicationSession}

theorem HandoffChange.of_eq (ht : db'.tickets = db.tickets) (hl : db'.logins = db.logins) :
    HandoffChange db db' [] [] :=
  .moved false [] ht (.of_eq .refl hl)

/-! ## every call -/

theorem SessionStep.handoff {env} (h : SessionStep env db db' es) : HandoffChange db db' [] es := by
  cases h with
  | ticketExpired ticket ht hs =>
    exact .expired (evolves_set .refl ht rfl (.inr ⟨hs, rfl⟩)) rfl
  | exchanged c ticket login owners _ _ _ _ _ _ ha _ _ _ =>
    exact .exchanged c ticket login owners ha rfl rfl
  | _ => exact .of_eq rfl rfl

theorem LoginStep.handoff {denial email} (h : LoginStep denial email cs db db') :
    HandoffChange db db' cs [] := by
  have hr := h.frame
  exact .moved denial cs (by rw [hr]) h.moved

/-- **Every call** changes logins and tickets as `HandoffChange` says. -/
theorem step_handoff (call db) :
    HandoffChange db (step call db) (creations call db) (exchanges call db) := by
  have hr := step_only call db
  obtain ⟨env, op⟩ := call
  cases op with
  | login o => exact (o.step_login env db).handoff
  | completion o =>
    show HandoffChange db (o.step env db) [] []
    rcases o.step_completion env db with h | ⟨login, ticket, _, _, h, _, _, _⟩
    · exact h.handoff
    · exact .issued login ticket _ _ h
  | session o => exact (o.step_session env db).handoff
  | confirmation c =>
    exact .expired (step_confirmation env c db).ended.tickets (congrArg Database.logins hr :)
  | _ => exact .of_eq (congrArg Database.tickets hr :) (congrArg Database.logins hr :)

/-! ## the invariant -/

/-- a ticket agrees with its login -/
structure TicketOf (l : LoginTransaction) (t : HandoffTicket) : Prop where
  loginId : t.loginTransactionId = l.id
  projectId : t.projectId = l.projectId
  applicationId : t.applicationId = l.applicationId
  challenge : t.applicationPkceChallenge = l.applicationPkceChallenge
  expiresAt : t.expiresAt = min (t.issuedAt + seconds 60) l.expiresAt
  consumed : t.status = .consumed ↔ l.status = .completed

structure HandoffInv (db : Database) : Prop where
  owned : ∀ t ∈ db.tickets, ∃ l ∈ db.logins, TicketOf l t
  single : ∀ t ∈ db.tickets, ∀ t' ∈ db.tickets,
    t.loginTransactionId = t'.loginTransactionId → t = t'

theorem TicketOf.follow (h : TicketOf l t) (hl : LoginKept l l')
    (ht : t' = { t with status := t'.status, consumedAt := t'.consumedAt })
    (hs : t'.status = .consumed ↔ l'.status = .completed) : TicketOf l' t' := by
  refine ⟨?_, ?_, ?_, ?_, ?_, hs⟩
  · rw [hl.id, ht]; exact h.loginId
  · rw [hl.projectId, ht]; exact h.projectId
  · rw [hl.applicationId, ht]; exact h.applicationId
  · rw [hl.applicationPkceChallenge, ht]; exact h.challenge
  · rw [hl.expiresAt, ht]; exact h.expiresAt

theorem HandoffInv.ticketOf (hi : HandoffInv db) (hl : l ∈ db.logins) (ht : t ∈ db.tickets)
    (h : t.loginTransactionId = l.id) : TicketOf l t := by
  obtain ⟨l', hl', hof⟩ := hi.owned t ht
  obtain rfl : l' = l := eq_of_key hl' hl (hof.loginId.symm.trans h)
  exact hof

theorem HandoffInv.issued {login ticket authenticatedAt now} (hi : HandoffInv db)
    (h : LoginIssued db db' login ticket authenticatedAt now) : HandoffInv db' := by
  obtain ⟨_, _, hrow⟩ := h.row
  have hid : ticket.loginTransactionId = login.id := by rw [hrow]; rfl
  have hp : ticket.projectId = login.projectId := by rw [hrow]; rfl
  -- the login had no ticket yet
  have hnone : ∀ t ∈ db.tickets, t.loginTransactionId ≠ login.id := by
    intro t ht he
    have hof := hi.ticketOf h.loginMem ht he
    exact (h.fresh t ht).2 ⟨hof.projectId.trans hp.symm, he.trans hid.symm⟩
  have hmem {l : LoginTransaction} : l ∈ db'.logins ↔ (l ∈ db.logins ∧ l ≠ login)
      ∨ l = issuedLogin login ticket.userId authenticatedAt now := by
    rw [h.logins]; exact mem_set_of h.loginMem rfl
  constructor
  · intro t ht
    rcases (mem_insert h.inserted).mp ht with ht | rfl
    · obtain ⟨l, hl, hof⟩ := hi.owned t ht
      have hne : l ≠ login := by
        rintro rfl; exact hnone t ht hof.loginId
      exact ⟨l, hmem.mpr (.inl ⟨hl, hne⟩), hof⟩
    · refine ⟨_, hmem.mpr (.inr rfl), hid, hp, ?_, ?_, h.expiry, ?_⟩
      · rw [hrow]; rfl
      · rw [hrow]; rfl
      · rw [hrow]
        exact ⟨fun e => (by cases e), fun e => (by cases e)⟩
  · exact distinct_insert h.inserted hi.single fun t ht he => hnone t ht (he.trans hid)

theorem HandoffInv.settle (hi : HandoffInv db) (ht : t ∈ db.tickets) (hl : l ∈ db.logins)
    (hid : t.loginTransactionId = l.id) (hkept : LoginKept l l')
    (ht' : t' = { t with status := t'.status, consumedAt := t'.consumedAt })
    (hs : t'.status = .consumed ↔ l'.status = .completed)
    (htickets : db'.tickets = db.tickets.set t') (hlogins : db'.logins = db.logins.set l') :
    HandoffInv db' := by
  have hkey : t'.id = t.id := by rw [ht']
  have hlog : t'.loginTransactionId = t.loginTransactionId := by rw [ht']
  have hmt {o : HandoffTicket} : o ∈ db'.tickets ↔ (o ∈ db.tickets ∧ o ≠ t) ∨ o = t' := by
    rw [htickets]; exact mem_set_of ht hkey
  have hml {o : LoginTransaction} : o ∈ db'.logins ↔ (o ∈ db.logins ∧ o ≠ l) ∨ o = l' := by
    rw [hlogins]; exact mem_set_of hl hkept.id
  -- the other tickets belong to other logins
  have hother : ∀ o ∈ db.tickets, o ≠ t → o.loginTransactionId ≠ t.loginTransactionId :=
    fun o ho hne he => hne (hi.single o ho t ht he)
  constructor
  · intro o ho
    rcases hmt.mp ho with ⟨ho, hne⟩ | rfl
    · obtain ⟨lo, hlo, hof⟩ := hi.owned o ho
      have hlne : lo ≠ l := by
        rintro rfl; exact hother o ho hne (hof.loginId.trans hid.symm)
      exact ⟨lo, hml.mpr (.inl ⟨hlo, hlne⟩), hof⟩
    · exact ⟨l', hml.mpr (.inr rfl), (hi.ticketOf hl ht hid).follow hkept ht' hs⟩
  · rw [htickets]; exact distinct_set hi.single ht hkey hlog

theorem TicketEnd.same (h : TicketEnd t t') :
    t' = { t with status := t'.status, consumedAt := t'.consumedAt } := by
  rcases h with rfl | ⟨_, rfl⟩ <;> rfl

theorem TicketEnd.consumed (h : TicketEnd t t') : t'.status = .consumed ↔ t.status = .consumed := by
  rcases h with rfl | ⟨hs, rfl⟩
  · exact Iff.rfl
  · rw [hs]
    exact ⟨fun e => (by cases e), fun e => (by cases e)⟩

theorem HandoffChange.inv (h : HandoffChange db db' cs es) (hi : HandoffInv db) :
    HandoffInv db' := by
  cases h with
  | moved _ _ ht hl =>
    constructor
    · intro t htm
      rw [ht] at htm
      obtain ⟨l, hlm, hof⟩ := hi.owned t htm
      obtain ⟨l', hl', hm⟩ := hl.forward l hlm
      exact ⟨l', hl', hof.follow hm.kept rfl (hof.consumed.trans hm.completed.symm)⟩
    · rw [ht]; exact hi.single
  | issued login ticket _ _ h => exact hi.issued h
  | expired ht hlogins =>
    constructor
    · intro t' ht'
      obtain ⟨t, htm, he⟩ := ht.source ht'
      obtain ⟨l, hlm, hof⟩ := hi.owned t htm
      exact ⟨l, by rw [hlogins]; exact hlm,
        hof.follow (.refl l) he.same (he.consumed.trans hof.consumed)⟩
    · exact ht.distinct (fun _ _ he => by rw [he.same]; exact ⟨rfl, rfl⟩) hi.single
  | exchanged c ticket login owners ha htickets hlogins =>
    have hkept : LoginKept login (completedLogin login c.now) := ⟨rfl, rfl, rfl, rfl, rfl, rfl⟩
    exact hi.settle ha.ticketMem ha.loginMem ha.loginId.symm hkept rfl
      ⟨fun _ => rfl, fun _ => rfl⟩ htickets hlogins

/-! ## the exchanges of a run -/

section
variable {db db' : Database} {cs : List CreateLoginTransaction} {es : List CommitHandoffExchange}

theorem HandoffChange.consumed_kept (h : HandoffChange db db' cs es) (ht : t ∈ db.tickets)
    (hs : t.status = .consumed) : t ∈ db'.tickets := by
  cases h with
  | moved _ _ htickets _ => rw [htickets]; exact ht
  | issued _ _ _ _ h => exact (mem_insert h.inserted).mpr (.inl ht)
  | expired htickets _ =>
    obtain ⟨_, ht', rfl | ⟨hissued, _⟩⟩ := htickets.forward t ht
    · exact ht'
    · rw [hs] at hissued; cases hissued
  | exchanged c ticket _ _ ha htickets _ =>
    rw [htickets]
    refine (mem_set_of (r := consumedTicket _ _) ha.ticketMem rfl).mpr (.inl ⟨ht, ?_⟩)
    rintro rfl
    cases hs.symm.trans ha.issued

theorem HandoffChange.consumed_source (h : HandoffChange db db' cs es) (ht : t ∈ db'.tickets)
    (hs : t.status = .consumed) : t ∈ db.tickets ∨ ∃ c ∈ es, c.preparation.ticketId = t.id := by
  cases h with
  | moved _ _ htickets _ => rw [htickets] at ht; exact .inl ht
  | issued login ticket _ _ h =>
    rcases (mem_insert h.inserted).mp ht with ht | rfl
    · exact .inl ht
    · obtain ⟨_, _, hrow⟩ := h.row
      rw [hrow] at hs; cases hs
  | expired htickets _ =>
    obtain ⟨_, ho, he⟩ := htickets.source ht
    rcases he with rfl | ⟨_, rfl⟩
    · exact .inl ho
    · cases hs
  | exchanged c ticket _ _ ha htickets _ =>
    rw [htickets] at ht
    rcases (mem_set_of (r := consumedTicket ticket c.now) ha.ticketMem rfl).mp ht
      with ⟨ht, _⟩ | rfl
    · exact .inl ht
    · exact .inr ⟨c, List.mem_singleton_self c, ha.ticketId.symm⟩

theorem HandoffChange.exchange_consumes (h : HandoffChange db db' cs es) (hc : c ∈ es) :
    ∃ t ∈ db.tickets, t.id = c.preparation.ticketId ∧ t.status = .issued
      ∧ consumedTicket t c.now ∈ db'.tickets := by
  cases h with
  | exchanged c' ticket _ _ ha htickets _ =>
    obtain rfl := List.mem_singleton.mp hc
    refine ⟨ticket, ha.ticketMem, ha.ticketId, ha.issued, ?_⟩
    rw [htickets]
    exact (mem_set_of (r := consumedTicket ticket c.now) ha.ticketMem rfl).mpr (.inr rfl)
  | _ => cases hc

theorem RefreshChange.session_source (h : RefreshChange db db' es) (hs : s ∈ db'.sessions) :
    (∃ o ∈ db.sessions, o.id = s.id) ∨ ∃ c ∈ es, c.applicationSessionId = s.id := by
  cases h with
  | quiet hss _ _ =>
    obtain ⟨o, ho, hm⟩ := hss.source hs
    exact .inl ⟨o, ho, by rw [hm.kept]⟩
  | opened c _ _ _ _ _ hid _ hss _ _ _ =>
    rcases (mem_insert hss).mp hs with hs | rfl
    · exact .inl ⟨s, hs, rfl⟩
    · exact .inr ⟨c, List.mem_singleton_self c, hid.symm⟩
  | rotated _ _ _ _ _ _ _ hss _ _ _ => exact .inl ⟨s, by rw [← hss]; exact hs, rfl⟩

theorem RefreshChange.family_source (h : RefreshChange db db' es) {f} (hf : f ∈ db'.families) :
    (∃ o ∈ db.families, o.id = f.id) ∨ ∃ c ∈ es, c.refreshFamilyId = f.id := by
  cases h with
  | quiet _ hfs _ =>
    obtain ⟨o, ho, he⟩ := hfs.source hf
    exact .inl ⟨o, ho, he.kept.1.symm⟩
  | opened c _ _ _ _ _ _ hid _ hfs _ _ =>
    rcases (mem_insert hfs).mp hf with hf | rfl
    · exact .inl ⟨f, hf, rfl⟩
    · exact .inr ⟨c, List.mem_singleton_self c, hid.symm⟩
  | rotated f₀ _ _ _ hf₀ _ _ _ hfs _ _ =>
    rcases (rotated_family hf₀ hfs).mp hf with ⟨hf, _⟩ | rfl
    · exact .inl ⟨f, hf, rfl⟩
    · exact .inl ⟨f₀, hf₀, rfl⟩

theorem RefreshChange.exchange_opens (h : RefreshChange db db' es) (hc : c ∈ es) :
    ∃ s ∈ db'.sessions, s.id = c.applicationSessionId := by
  cases h with
  | opened c' s _ _ _ _ hid _ hss _ _ _ =>
    obtain rfl := List.mem_singleton.mp hc
    exact ⟨s, (mem_insert hss).mpr (.inr rfl), hid⟩
  | quiet _ _ _ => cases hc
  | rotated _ _ _ _ _ _ _ _ _ _ _ => cases hc

/-- the exchanges so far account for the consumed tickets, the sessions and the families -/
structure ExchangeLog (db : Database) (log : List CommitHandoffExchange) : Prop where
  inv : HandoffInv db
  once : (log.map fun c => c.preparation.ticketId).Nodup
  spent : ∀ c ∈ log, ∃ t ∈ db.tickets, t.id = c.preparation.ticketId ∧ t.status = .consumed
  logged : ∀ t ∈ db.tickets, t.status = .consumed → ∃ c ∈ log, c.preparation.ticketId = t.id
  opens : ∀ c ∈ log, ∃ s ∈ db.sessions, s.id = c.applicationSessionId
  sessions : ∀ s ∈ db.sessions, ∃ c ∈ log, c.applicationSessionId = s.id
  families : ∀ f ∈ db.families, ∃ c ∈ log, c.refreshFamilyId = f.id

theorem ExchangeLog.once_step (hl : ExchangeLog db log) (h : HandoffChange db db' cs es) :
    ((log ++ es).map fun c => c.preparation.ticketId).Nodup := by
  rw [List.map_append]
  have hnodup : (es.map fun c => c.preparation.ticketId).Nodup := by
    cases h with
    | exchanged => exact List.nodup_singleton _
    | _ => exact List.nodup_nil
  apply hl.once.append hnodup
  intro id hid hid'
  obtain ⟨c, hc, rfl⟩ := List.mem_map.mp hid
  obtain ⟨_, hc', he⟩ := List.mem_map.mp hid'
  obtain ⟨t, ht, htid, hts⟩ := hl.spent c hc
  obtain ⟨t', ht', htid', hts', _⟩ := h.exchange_consumes hc'
  obtain rfl : t = t' := eq_of_key ht ht' (htid.trans (he.symm.trans htid'.symm))
  rw [hts] at hts'
  cases hts'

theorem ExchangeLog.step (hl : ExchangeLog db log) (h : HandoffChange db db' cs es)
    (hr : RefreshChange db db' es) : ExchangeLog db' (log ++ es) := by
  have hleft : ∀ {c}, c ∈ log → c ∈ log ++ es := fun h => List.mem_append_left es h
  have hright : ∀ {c}, c ∈ es → c ∈ log ++ es := fun h => List.mem_append_right log h
  constructor
  case inv => exact h.inv hl.inv
  case once => exact hl.once_step h
  case spent =>
    intro c hc
    rcases List.mem_append.mp hc with hc | hc
    · obtain ⟨t, ht, hid, hs⟩ := hl.spent c hc
      exact ⟨t, h.consumed_kept ht hs, hid, hs⟩
    · obtain ⟨t, _, hid, _, ht'⟩ := h.exchange_consumes hc
      exact ⟨_, ht', hid, rfl⟩
  case logged =>
    intro t ht hs
    rcases h.consumed_source ht hs with ht | ⟨c, hc, hid⟩
    · obtain ⟨c, hc, hid⟩ := hl.logged t ht hs
      exact ⟨c, hleft hc, hid⟩
    · exact ⟨c, hright hc, hid⟩
  case opens =>
    intro c hc
    rcases List.mem_append.mp hc with hc | hc
    · obtain ⟨s, hs, hid⟩ := hl.opens c hc
      obtain ⟨s', hs', hm⟩ := hr.session_moved hs
      exact ⟨s', hs', by rw [hm.kept]; exact hid⟩
    · exact hr.exchange_opens hc
  case sessions =>
    intro s hs
    rcases hr.session_source hs with ⟨o, ho, hid⟩ | ⟨c, hc, hid⟩
    · obtain ⟨c, hc, hco⟩ := hl.sessions o ho
      exact ⟨c, hleft hc, hco.trans hid⟩
    · exact ⟨c, hright hc, hid⟩
  case families =>
    intro f hf
    rcases hr.family_source hf with ⟨o, ho, hid⟩ | ⟨c, hc, hid⟩
    · obtain ⟨c, hc, hco⟩ := hl.families o ho
      exact ⟨c, hleft hc, hco.trans hid⟩
    · exact ⟨c, hright hc, hid⟩

end

/-! ## the creation of logins -/

theorem HandoffChange.login_source (h : HandoffChange db db' cs es) (hl : l' ∈ db'.logins) :
    (∃ l ∈ db.logins, LoginKept l l') ∨ ∃ c ∈ cs, l' = newLogin c := by
  have hset : ∀ {o o' : LoginTransaction}, o ∈ db.logins → l' ∈ db.logins.set o' →
      LoginKept o o' → ∃ l ∈ db.logins, LoginKept l l' := by
    intro o o' ho hm hk
    rcases (mem_set_of ho hk.id).mp hm with ⟨hm, _⟩ | rfl
    · exact ⟨l', hm, .refl l'⟩
    · exact ⟨o, ho, hk⟩
  cases h with
  | moved _ _ _ hlogins =>
    rcases hlogins.backward l' hl with ⟨l, hlm, hm⟩ | hnew
    · exact .inl ⟨l, hlm, hm.kept⟩
    · exact .inr hnew
  | issued login ticket authenticatedAt now h =>
    rw [h.logins] at hl
    exact .inl (hset h.loginMem hl ⟨rfl, rfl, rfl, rfl, rfl, rfl⟩)
  | expired _ hlogins => rw [hlogins] at hl; exact .inl ⟨l', hl, .refl l'⟩
  | exchanged c _ login _ ha _ hlogins =>
    rw [hlogins] at hl
    exact .inl (hset ha.loginMem hl ⟨rfl, rfl, rfl, rfl, rfl, rfl⟩)

/-- every login was created by one of the calls `log` -/
def CreationLog (db : Database) (log : List CreateLoginTransaction) : Prop :=
  ∀ l ∈ db.logins, ∃ c ∈ log, LoginKept (newLogin c) l

theorem CreationLog.step {log} (hl : CreationLog db log)
    (h : HandoffChange db db' cs es) : CreationLog db' (log ++ cs) := by
  intro l' hl'
  rcases h.login_source hl' with ⟨l, hlm, hk⟩ | ⟨c, hc, rfl⟩
  · obtain ⟨c, hc, hk'⟩ := hl l hlm
    exact ⟨c, List.mem_append_left cs hc, hk'.trans hk⟩
  · exact ⟨c, List.mem_append_right log hc, .refl _⟩

/-! ## whole runs -/

def NoLogins (db : Database) : Prop :=
  db.logins = .empty ∧ db.tickets = .empty ∧ db.sessions = .empty ∧ db.families = .empty

def exchangeLog (db : Database) (calls : List Call) : List CommitHandoffExchange :=
  trace step exchanges db calls

def creationLog (db : Database) (calls : List Call) : List CreateLoginTransaction :=
  trace step creations db calls

theorem NoLogins.exchangeLog (h : NoLogins db) : ExchangeLog db [] := by
  obtain ⟨_, ht, hs, hf⟩ := h
  have noticket : ∀ t, t ∉ db.tickets := by rw [ht]; exact not_mem_empty
  have nosession : ∀ s, s ∉ db.sessions := by rw [hs]; exact not_mem_empty
  have nofamily : ∀ f, f ∉ db.families := by rw [hf]; exact not_mem_empty
  exact ⟨⟨fun t h => absurd h (noticket t), fun t h => absurd h (noticket t)⟩, List.nodup_nil,
    fun _ h => absurd h List.not_mem_nil, fun t h => absurd h (noticket t),
    fun _ h => absurd h List.not_mem_nil, fun s h => absurd h (nosession s),
    fun f h => absurd h (nofamily f)⟩

theorem run_creationLog (h : NoLogins db) (calls) :
    CreationLog (run db calls) (creationLog db calls) := by
  apply trace_inv step creations (J := CreationLog)
    (fun db _ call hl => hl.step (step_handoff call db)) calls (l := [])
  intro l hl
  rw [h.1] at hl
  exact absurd hl (not_mem_empty l)

/-- the exchange `c` was for the ticket `t` of the login created by `created` -/
structure ExchangedFor (t : HandoffTicket) (created : CreateLoginTransaction)
    (c : CommitHandoffExchange) : Prop where
  ticketId : t.id = c.preparation.ticketId
  credential : t.ticket = c.handoffTicket
  projectId : t.projectId = c.projectId
  applicationId : t.applicationId = c.applicationId
  login : created.id = t.loginTransactionId
  challenge : c.applicationPkceChallenge = created.applicationPkceChallenge
  inTime : c.now < min (t.issuedAt + seconds 60) created.expiresAt

theorem exchange_for {log} (hl : CreationLog db log) {call}
    (hc : c ∈ exchanges call db) : ∃ t ∈ db.tickets, ∃ created ∈ log, ExchangedFor t created c := by
  have h := step_handoff call db
  generalize exchanges call db = es at h hc
  generalize creations call db = cs at h
  cases h with
  | exchanged c' t l owners ha _ _ =>
    obtain rfl := List.mem_singleton.mp hc
    obtain ⟨created, hmem, hk⟩ := hl l ha.loginMem
    obtain ⟨_, _, _, _, hpk, hexp⟩ := ha.ofLogin
    refine ⟨t, ha.ticketMem, created, hmem, ha.ticketId, ha.ticketDigest, ha.ticketProject,
      ha.ticketApplication, hk.id.symm.trans ha.loginId, ?_, ?_⟩
    · rw [← ha.pkce, ← hpk]; exact hk.applicationPkceChallenge
    · have hin := ha.unexpired
      rw [hexp, hk.expiresAt] at hin
      exact hin
  | _ => cases hc

/-- **A ticket opens one session.**  In every run that starts without logins no ticket is exchanged
twice; every session and every family comes from an exchange; a ticket is consumed exactly when its
login is completed and the session of its exchange exists; and an exchange is committed only under
the ticket's project and application, with the challenge its login started with, and in time. -/
theorem tickets_open_one_session {start : Database} (hstart : NoLogins start) (calls : List Call) :
    ((exchangeLog start calls).map fun c => c.preparation.ticketId).Nodup
      ∧ (∀ s ∈ (run start calls).sessions, ∃ c ∈ exchangeLog start calls,
          c.applicationSessionId = s.id)
      ∧ (∀ f ∈ (run start calls).families, ∃ c ∈ exchangeLog start calls,
          c.refreshFamilyId = f.id)
      ∧ (∀ t ∈ (run start calls).tickets, t.status = .consumed
          ↔ (∃ l ∈ (run start calls).logins, l.id = t.loginTransactionId ∧ l.status = .completed)
            ∧ ∃ c ∈ exchangeLog start calls, c.preparation.ticketId = t.id
                ∧ ∃ s ∈ (run start calls).sessions, s.id = c.applicationSessionId)
      ∧ ∀ pre call post, calls = pre ++ call :: post → ∀ c ∈ exchanges call (run start pre),
          ∃ t ∈ (run start pre).tickets, ∃ created ∈ creationLog start pre,
            ExchangedFor t created c := by
  have hlog := trace_inv step exchanges (J := ExchangeLog)
    (fun db _ call hl => hl.step (step_handoff call db) (step_refresh call db)) calls
    hstart.exchangeLog
  refine ⟨hlog.once, hlog.sessions, hlog.families, ?_, ?_⟩
  · intro t ht
    obtain ⟨l, hl, hof⟩ := hlog.inv.owned t ht
    constructor
    · intro hs
      obtain ⟨c, hc, hid⟩ := hlog.logged t ht hs
      exact ⟨⟨l, hl, hof.loginId.symm, hof.consumed.mp hs⟩, c, hc, hid, hlog.opens c hc⟩
    · rintro ⟨⟨l', hl', hid, hs⟩, _⟩
      obtain rfl : l' = l := eq_of_key hl' hl (hid.trans hof.loginId)
      exact hof.consumed.mpr hs
  · rintro pre call post - c hc
    exact exchange_for (run_creationLog hstart pre) hc

section
open Demo

/-- the deployment before the login: nothing but configuration, the user and the browser -/
def Demo.fresh : Database :=
  { start with
    redirects := .single ⟨1, 2, "https://app.example.test/callback"⟩
    logins := .empty
    tickets := .empty }

/-- a login that the browser's own session answers, and the exchange of its ticket -/
def Demo.loginFlow : List Call :=
  [⟨env, .login (.createLoginTransaction {
      id := 5
      projectId := 1
      applicationId := 2
      interaction := ⟨50, 1⟩
      redirectUri := "https://app.example.test/callback"
      applicationPkceChallenge := challenge
      applicationState := ⟨List.replicate 17 0, 1⟩
      presentationHint := none
      revisions := ⟨1, 1, 1, 1, 1⟩
      createdAt := 0
      expiresAt := minutes 10
      admittedProviders := []
      admittedEmail := some emailMethod })⟩,
    ⟨env, .login (.bindHostedBrowser ⟨⟨50, 1⟩, ⟨51, 1⟩, ⟨52, 1⟩, 1, 0⟩)⟩,
    ⟨env, .completion (.confirmBrowserSessionReuse
      ⟨1, 5, 2, ⟨51, 1⟩, ⟨52, 1⟩, ⟨40, 1⟩, 6, ⟨60, 1⟩, 0⟩)⟩,
    exchange]

def Demo.exchangedTicket : HandoffTicket :=
  (run fresh loginFlow).tickets.rows.head (by decide +kernel)

theorem exchanged_ticket_completes_login :
    NoLogins fresh ∧ exchangedTicket ∈ (run fresh loginFlow).tickets
      ∧ exchangedTicket.status = .consumed
      ∧ ∃ l ∈ (run fresh loginFlow).logins,
          l.id = exchangedTicket.loginTransactionId ∧ l.status = .completed := by
  have hstart : NoLogins fresh := ⟨rfl, rfl, rfl, rfl⟩
  have hm : exchangedTicket ∈ (run fresh loginFlow).tickets := List.head_mem _
  have hs : exchangedTicket.status = .consumed := by decide +kernel
  have h := (tickets_open_one_session hstart loginFlow).2.2.2.1 exchangedTicket hm
  exact ⟨hstart, hm, hs, (h.mp hs).1⟩

end

end OwlAuth
