import Mathlib.Data.List.Forall2
import PolyNotifier.Main.Justified

/-!
# Where the notifications end

The bots insert users under their own ids, the engine and the scheduler address users they have
read, and nobody deletes a user. So each request on the channel names a user of the database, at
the time it is sent and at any later time, and, unless the user has been there from before, a bot
of the registry. The service finds the user, and the log gets a row for every request that is
handled, whatever the other tasks write meanwhile.
-/

namespace PolyNotifier

open Lib (Channel Steps)
open AlertEngine (notificationOf)

/-! ## Known users -/

/-- A user of the database has the identity. -/
def Db.Known (d : Db) (who : Identity) : Prop := ∃ k, d.owner k = some who

def NotificationRequest.recipient (req : NotificationRequest) : Identity :=
  (req.userTelegramId, req.botId)

namespace Db

variable {d d' : Db} {who : Identity}

theorem Known.later (h : d.Known who) (hkept : UsersKept d d') : d'.Known who := by
  obtain ⟨k, hk⟩ := h
  exact ⟨k, hkept k who hk⟩

theorem Known.user (h : d.Known who) :
    ∃ u ∈ d.users.rows, u.telegramId = who.1 ∧ u.botId = who.2 := by
  obtain ⟨k, hk⟩ := h
  obtain ⟨u, hu, hwho⟩ := Option.map_eq_some_iff.mp hk
  exact ⟨u, (Lib.Table.mem_of_find hu).1, congrArg Prod.fst hwho, congrArg Prod.snd hwho⟩

theorem Known.mem_identities (h : d.Known who) : who ∈ d.identities := by
  obtain ⟨u, hu, htelegram, hbot⟩ := h.user
  exact List.mem_map.mpr ⟨u, hu, Prod.ext htelegram hbot⟩

end Db

/-- A rule addresses a user of the database it is from. -/
theorem RuleOf.known {x : Crates} {d : Db} {r : AlertRule} (h : RuleOf x d r) :
    d.Known (r.userTelegramId, r.botId) := by
  obtain ⟨row, hrow, hbuild⟩ := h
  obtain ⟨a, _, ha⟩ := List.mem_filterMap.mp hrow
  obtain ⟨k, hk⟩ := Db.owner_of_alertRow ha
  obtain ⟨_, _, _, _, hr⟩ := AlertEngine.buildRule_eq_some.mp hbuild
  rw [hr]
  exact ⟨k, hk⟩

/-! ## The handlers of a bot -/

/-- What is left of the handler is for an update that came to the bot. The update itself need not
    be known: that the users a bot inserts have the bot's own id is all that is needed of it. -/
def Speaks (botId : String) (p : Handler Unit) : Prop :=
  ∃ o : Origin, Confined o p ∧ ∀ who, o.sender = some who → who.2 = botId

theorem identity_botId {botId : String} {u : Update} {who : Identity}
    (h : u.identity botId = some who) : who.2 = botId := by
  cases u with
  | message msg =>
    obtain ⟨s, _, rfl⟩ := Option.map_eq_some_iff.mp h
    rfl
  | callbackQuery q =>
    have hwho : (q.sender.telegramId, botId) = who := Option.some.inj h
    rw [← hwho]
  | other => cases h

/-- **A bot inserts users under its own id.** -/
theorem speaks_step {deps : BotDeps} {env : Env} {B B' : Bot} {l : BotLabel}
    (h : ∀ p ∈ B.pool.threads, Speaks deps.botId p) (hs : Bot.Step deps env B l B') :
    (∀ p ∈ B'.pool.threads, Speaks deps.botId p) ∧
      ∀ who ∈ B'.pool.state.db.identities, who ∈ B.pool.state.db.identities ∨ who.2 = deps.botId := by
  cases hs with
  | @update u handler hturn hbranch =>
    refine ⟨fun p hp => ?_, fun who hwho => .inl hwho⟩
    rcases List.mem_append.mp hp with hp | hp
    · exact h p hp
    · rw [List.mem_singleton.mp hp]
      exact ⟨u.origin deps.botId, confined_schema hbranch, fun who hwho => identity_botId hwho⟩
  | call hcall =>
    cases hcall with
    | @mk j o k hj =>
      obtain ⟨origin, hconf, hsender⟩ := h _ (List.mem_of_getElem? hj)
      obtain ⟨_, _, husers⟩ := Bot.performed env (w := B.pool.state) hconf.1
      refine ⟨fun p hp => ?_, fun who hwho => (husers who hwho).imp id (hsender who)⟩
      rcases List.mem_or_eq_of_mem_set hp with hp | rfl
      · exact h p hp
      · exact ⟨origin, hconf.2 _, hsender⟩

/-! ## The log -/

/-- The row says what was done with the request, under a user with its Telegram id. It need not be
    the user of its bot: the lookup goes by the Telegram id alone. -/
structure Logged (d : Db) (h : Handling) (row : NotificationLog) : Prop where
  user : h.userId = some row.userId
  owner : ∃ botId, d.owner row.userId = some (h.request.userTelegramId, botId)
  message : row.message = h.request.message
  type : row.notificationType = h.request.notificationType.toString
  delivered : row.delivered = h.delivered
  error : row.errorMessage = none ↔ h.delivered = true

theorem Logged.later {d d' : Db} {h : Handling} {row : NotificationLog} (hl : Logged d h row)
    (hkept : d.UsersKept d') : Logged d' h row := by
  obtain ⟨botId, howner⟩ := hl.owner
  exact { hl with owner := ⟨botId, hkept _ _ howner⟩ }

namespace NotifyService

variable {bots : BotRegistry} {env : HandleEnv} {req : NotificationRequest} {l : RateLimiter}
  {d : Db}

theorem logged_entry {userId : Int} {sends : Nat} {error : Option String}
    (hok : (logged env req userId sends error d).1.failed = false) (hreq :
      (logged env req userId sends error d).1.request = req)
    (howner : ∃ botId, d.owner userId = some (req.userTelegramId, botId)) :
    ∃ row, (logged env req userId sends error d).2.notificationLog.rows =
        d.notificationLog.rows ++ [row] ∧
      Logged (logged env req userId sends error d).2 (logged env req userId sends error d).1 row := by
  obtain ⟨row, hrows, ⟨husers, _⟩, huser, _, hid, hmessage, htype, hdelivered, herror⟩ :=
    logged_row hok
  have hsent : (logged env req userId sends error d).1.delivered = error.isNone := by
    unfold logged
    cases logAttempt env req userId error.isNone error d <;> rfl
  refine ⟨row, hrows, huser, ?_, ?_, ?_, ?_, ?_⟩
  · rw [hid, Db.owner_congr husers, hreq]
    exact howner
  · rw [hreq, hmessage]
  · rw [hreq, htype]
  · rw [hsent, hdelivered]
  · rw [hsent, herror, Option.isNone_iff_eq_none]

/-- **A request of a known user**: unless a statement fails, the log gets a row. -/
theorem handle_entry (hknown : ∃ u ∈ d.users.rows, u.telegramId = req.userTelegramId)
    (hok : (handle bots env req l d).1.failed = false) :
    ∃ row, (handle bots env req l d).2.2.notificationLog.rows = d.notificationLog.rows ++ [row] ∧
      Logged (handle bots env req l d).2.2 (handle bots env req l d).1 row := by
  have hreq := (handle_spec bots env req l d).request
  obtain ⟨u, hu, ht⟩ := hknown
  obtain ⟨userId, hres⟩ := Db.resolveUserIdByTelegram_isSome env.first hu ht
  -- the user that is found has the Telegram id of the request, and may be of another bot
  obtain ⟨v, hv, htelegram, hid⟩ := Db.resolveUserIdByTelegram_some hres
  have howner : ∃ botId, d.owner userId = some (req.userTelegramId, botId) := by
    refine ⟨v.botId, ?_⟩
    rw [← hid, ← htelegram]
    exact Db.owner_of_mem hv
  unfold handle at hok hreq ⊢
  split
  · rename_i hlookup
    rw [if_pos hlookup, hres] at hok hreq
    rw [hres]
    dsimp only at hok hreq ⊢
    cases hallowed : (l.checkAndConsume env.now req.userTelegramId).1 with
    | false =>
      rw [hallowed, if_neg Bool.false_ne_true] at hok hreq
      rw [if_neg Bool.false_ne_true]
      exact logged_entry hok hreq howner
    | true =>
      rw [hallowed, if_pos rfl] at hok hreq
      rw [if_pos rfl]
      exact logged_entry hok hreq howner
  · rename_i hlookup
    rw [if_neg hlookup] at hok
    cases hok

end NotifyService

/-- As long as the log has an id left, handling a request fails exactly where the database does not
    execute one of its two statements. -/
def FailsWithDb (d : Db) (h : Handling) (env : HandleEnv) : Prop :=
  d.notificationLog.seq + 1 < 2 ^ 63 → (h.failed = false ↔ env.lookupOk = true ∧ env.logOk = true)

theorem FailsWithDb.mono {d d' : Db} {h : Handling} {env : HandleEnv} (hf : FailsWithDb d h env)
    (hle : d.notificationLog.seq ≤ d'.notificationLog.seq) : FailsWithDb d' h env :=
  fun hroom => hf (by omega)

theorem NotifyService.failsWithDb_handle {bots : BotRegistry} {env : HandleEnv}
    {req : NotificationRequest} {l : RateLimiter} {d d' : Db}
    (hknown : ∃ u ∈ d.users.rows, u.telegramId = req.userTelegramId)
    (hle : d.notificationLog.seq ≤ d'.notificationLog.seq) :
    FailsWithDb d' (handle bots env req l d).1 env := by
  intro hroom
  constructor
  · intro hok
    exact handle_answered hknown hok
  · rintro ⟨hlookup, hlog⟩
    exact handle_succeeds hlookup hlog (by omega)

/-! ## The process -/

namespace Process

/-- What the outside answered while each request was handled, in order. -/
def answers (ls : List ProcessLabel) : List HandleEnv :=
  ls.filterMap fun
    | .service (.handle env) => some env
    | _ => none

theorem answers_snoc {ls : List ProcessLabel} {l : ProcessLabel} (hl : LogsNothing l) :
    answers (ls ++ [l]) = answers ls := by
  unfold answers
  rw [List.filterMap_append]
  cases l with
  | service v =>
    cases v with
    | handle env => exact hl.elim
    | _ => exact List.append_nil _
  | _ => exact List.append_nil _

/-- **What every run keeps.** From the users and the dispatchers, which say whom a request can
    name, to the requests, to the log. The clause on what was answered is there so that a failed
    handling can be blamed on the database and on nothing else. -/
structure Addressed (c : Setup) (d : Db) (ls : List ProcessLabel) (p : Process) : Prop where
  users : ∀ who ∈ p.db.identities, who ∈ d.identities ∨ who.2 ∈ c.botIds
  dispatchers : ∀ (i : Nat) B, p.dispatchers[i]? = some B → ∃ token, c.tokens[i]? = some token ∧
    ∀ q ∈ B.pool.threads, Speaks (botIdOf token) q
  accepted : ∀ req ∈ p.core.channel.accepted, p.db.Known req.recipient
  summaries : ∀ req ∈ p.summaries, p.db.Known req.recipient
  taken : p.core.channel.taken =
    p.core.handled.map Handling.request ++ p.core.service.inHand
  log : ∃ rows, p.db.notificationLog.rows = d.notificationLog.rows ++ rows ∧
    List.Forall₂ (Logged p.db) (p.core.handled.filter fun h => !h.failed) rows
  answered : List.Forall₂ (FailsWithDb p.db) p.core.handled (answers ls)

variable {c : Setup} {d : Db} {ls : List ProcessLabel} {l : ProcessLabel} {p p' : Process}

theorem addressed_start (c : Setup) (d : Db) : Addressed c d [] (start c d) where
  users who hwho := .inl hwho
  dispatchers i B hB := by
    have hmap : (c.tokens.map fun _ => Bot.start d)[i]? = some B := hB
    rw [List.getElem?_map, Option.map_eq_some_iff] at hmap
    obtain ⟨token, htoken, rfl⟩ := hmap
    exact ⟨token, htoken, fun q hq => by cases hq⟩
  accepted req hreq := by cases hreq
  summaries req hreq := by cases hreq
  taken := rfl
  log := ⟨[], (List.append_nil _).symm, .nil⟩
  answered := .nil

/-- **Users that were known once are known.** -/
theorem known_of_visits (hs : Steps (Step c) p ls p') {who : Identity} (h : p.db.Known who) :
    p'.db.Known who :=
  hs.inv (I := fun q => q.db.Known who) h fun _ _ _ hq hstep => hq.later (step_db hstep).1.owners

theorem WasRule.known {r : AlertRule} (h : WasRule c d ls p r) :
    p.db.Known (r.userTelegramId, r.botId) := by
  obtain ⟨_, _, q, _, _, hrest, hrule⟩ := h
  exact known_of_visits hrest hrule.known

theorem Addressed.keep (h : Addressed c d ls p) (hs : Step c p l p') (hl : LogsNothing l)
    (husers : ∀ who ∈ p'.db.identities, who ∈ p.db.identities ∨ who.2 ∈ c.botIds)
    (hdispatchers : ∀ (i : Nat) B, p'.dispatchers[i]? = some B → ∃ token,
      c.tokens[i]? = some token ∧ ∀ q ∈ B.pool.threads, Speaks (botIdOf token) q)
    (haccepted : ∀ req ∈ p'.core.channel.accepted,
      req ∈ p.core.channel.accepted ∨ p.db.Known req.recipient)
    (hsummaries : ∀ req ∈ p'.summaries, req ∈ p.summaries ∨ p.db.Known req.recipient)
    (htaken : p'.core.channel.taken =
      p'.core.handled.map Handling.request ++ p'.core.service.inHand)
    (hhandled : p'.core.handled = p.core.handled) : Addressed c d (ls ++ [l]) p' := by
  obtain ⟨hevolves, hlog⟩ := step_db hs
  refine ⟨fun who hwho => ?_, hdispatchers, fun req hreq => ?_, fun req hreq => ?_, htaken, ?_, ?_⟩
  · exact (husers who hwho).elim (h.users who) .inr
  · exact ((haccepted req hreq).elim (h.accepted req) id).later hevolves.owners
  · exact ((hsummaries req hreq).elim (h.summaries req) id).later hevolves.owners
  · obtain ⟨rows, hrows, hall⟩ := h.log
    refine ⟨rows, by rw [hlog hl, hrows], ?_⟩
    rw [hhandled]
    exact hall.imp fun _ _ hentry => hentry.later hevolves.owners
  · rw [hhandled, answers_snoc hl]
    exact h.answered.imp fun _ _ hf => hf.mono (by rw [hlog hl])

/-- A step that leaves the users, the channel and the service alone. -/
theorem Addressed.other (h : Addressed c d ls p) (hs : Step c p l p') (hl : LogsNothing l)
    (husers : p'.db.users = p.db.users) (hdispatchers : p'.dispatchers = p.dispatchers)
    (hchannel : p'.core.channel = p.core.channel) (hservice : p'.core.service = p.core.service)
    (hsummaries : p'.summaries = p.summaries) (hhandled : p'.core.handled = p.core.handled) :
    Addressed c d (ls ++ [l]) p' := by
  refine h.keep hs hl (fun who hwho => ?_) ?_ (fun req hreq => ?_) (fun req hreq => ?_) ?_ hhandled
  · rw [Db.identities_congr husers] at hwho
    exact .inl hwho
  · rw [hdispatchers]
    exact h.dispatchers
  · rw [hchannel] at hreq
    exact .inl hreq
  · rw [hsummaries] at hreq
    exact .inl hreq
  · rw [hchannel, hhandled, hservice]
    exact h.taken

theorem Addressed.push (h : Addressed c d ls p) (hs : Step c p l p') (hl : LogsNothing l)
    {req : NotificationRequest} (hpush : p.core.channel.push req = some p'.core.channel)
    (hknown : p.db.Known req.recipient) (husers : p'.db.users = p.db.users)
    (hdispatchers : p'.dispatchers = p.dispatchers)
    (hservice : p'.core.service = p.core.service) (hhandled : p'.core.handled = p.core.handled)
    (hsummaries : ∀ req ∈ p'.summaries, req ∈ p.summaries) : Addressed c d (ls ++ [l]) p' := by
  refine h.keep hs hl (fun who hwho => ?_) ?_ (fun r hr => ?_) (fun r hr => .inl (hsummaries r hr))
    ?_ hhandled
  · rw [Db.identities_congr husers] at hwho
    exact .inl hwho
  · rw [hdispatchers]
    exact h.dispatchers
  · rw [Channel.accepted_push hpush, List.mem_append, List.mem_singleton] at hr
    rcases hr with hr | rfl
    · exact .inl hr
    · exact .inr hknown
  · rw [(Channel.push_eq_some hpush).2.2.1, hhandled, hservice]
    exact h.taken

theorem Addressed.engine (h : Addressed c d ls p) (hg : Grounded c d ls p) (hs : Step c p l p')
    (hl : LogsNothing l) {e : Shutdown.EngineLabel}
    (hmove : EngineMove c.crates c.alert p.core e p'.core)
    (hdispatchers : p'.dispatchers = p.dispatchers) (hsummaries : p'.summaries = p.summaries) :
    Addressed c d (ls ++ [l]) p' := by
  have husers : p'.db.users = p.db.users := (maintains_engine hmove).2.2
  have hpc := hg.pc
  generalize hcore : p'.core = s at hmove
  cases hmove with
  | @sends t r message channel hat hpush =>
    rw [hat] at hpc
    have hknown := hpc.1.rule.known
    have hpush' : p.core.channel.push (notificationOf r message) = some p'.core.channel := by
      rw [hcore]
      exact hpush
    refine h.push hs hl hpush' hknown husers hdispatchers ?_ ?_ ?_
    · rw [hcore]
    · rw [hcore]
    · intro req hreq
      rw [hsummaries] at hreq
      exact hreq
  | _ =>
    refine h.other hs hl husers hdispatchers ?_ ?_ hsummaries ?_ <;> rw [hcore]

/-- A request is taken, or handled, or the service leaves. -/
theorem Addressed.service (h : Addressed c d ls p) {v : Shutdown.ServiceLabel} {s : Shutdown.State}
    (hs : Step c p (.service v) { p with core := s })
    (hstep : Shutdown.serviceStep c.bots p.core v = some s) :
    Addressed c d (ls ++ [.service v]) { p with core := s } := by
  have husers : s.db.users = p.core.db.users := (maintains_service hstep).2.2
  have hidentities : ∀ who ∈ s.db.identities, who ∈ p.db.identities ∨ who.2 ∈ c.botIds := by
    intro who hwho
    rw [Db.identities_congr husers] at hwho
    exact .inl hwho
  cases serviceStep_cases hstep with
  | leaves hwaits =>
    refine h.keep hs trivial hidentities h.dispatchers (fun req hreq => .inl hreq)
      (fun req hreq => .inl hreq) ?_ rfl
    have htaken := h.taken
    rw [hwaits] at htaken
    exact htaken
  | ends hwaits =>
    refine h.keep hs trivial hidentities h.dispatchers (fun req hreq => .inl hreq)
      (fun req hreq => .inl hreq) ?_ rfl
    have htaken := h.taken
    rw [hwaits] at htaken
    exact htaken
  | takes hwaits hrecv =>
    have htaken : p.core.channel.taken = p.core.handled.map Handling.request := by
      rw [h.taken, hwaits]
      exact List.append_nil _
    refine h.keep hs trivial hidentities h.dispatchers (fun r hr => .inl ?_)
      (fun r hr => .inl hr) ?_ rfl
    · rw [Channel.accepted_recv hrecv] at hr
      exact hr
    · rw [(Channel.recv_eq_some hrecv).2.2.1, htaken]
      rfl
  | @handles req env hhandling =>
    have hspec := NotifyService.handle_spec c.bots env req p.core.limiter p.core.db
    have hevolves := (Db.maintains_handle c.bots env req p.core.limiter p.core.db).1.toEvolves
    have htaken := h.taken
    rw [hhandling] at htaken
    -- the request in hand was accepted, so its user is known
    have haccepted : req ∈ p.core.channel.accepted := by
      rw [Channel.accepted, htaken]
      exact List.mem_append_left _ (List.mem_append_right _ (List.mem_singleton_self _))
    have hknown : ∃ u ∈ p.core.db.users.rows, u.telegramId = req.userTelegramId := by
      obtain ⟨u, hu, htelegram, _⟩ := (h.accepted req haccepted).user
      exact ⟨u, hu, htelegram⟩
    obtain ⟨rows, hrows, hall⟩ := h.log
    have hall' := hall.imp fun h row (hentry : Logged p.db h row) =>
      hentry.later hevolves.owners
    -- an entry takes one id, and a request that fails takes none
    have hseq : p.core.db.notificationLog.seq ≤
        (NotifyService.handle c.bots env req p.core.limiter p.core.db).2.2.notificationLog.seq := by
      cases hfailed : (NotifyService.handle c.bots env req p.core.limiter p.core.db).1.failed with
      | true => rw [NotifyService.handle_failed hfailed]
      | false =>
        obtain ⟨_, _, ⟨_, hseq⟩, _⟩ := NotifyService.handle_once hknown hfailed
        omega
    refine ⟨fun who hwho => ?_, h.dispatchers, fun r hr => ?_, fun r hr => ?_, ?_, ?_, ?_⟩
    · exact (hidentities who hwho).elim (h.users who) .inr
    · exact (h.accepted r hr).later hevolves.owners
    · exact (h.summaries r hr).later hevolves.owners
    · rw [List.map_append, List.map_singleton, hspec.request, htaken]
      exact (List.append_nil _).symm
    · cases hfailed : (NotifyService.handle c.bots env req p.core.limiter p.core.db).1.failed with
      | true =>
        have hsame := NotifyService.handle_failed hfailed
        refine ⟨rows, ?_, ?_⟩
        · exact (congrArg (fun d => d.notificationLog.rows) hsame).trans hrows
        · rw [List.filter_append, List.filter_cons_of_neg (by simp [hfailed]), List.filter_nil,
            List.append_nil]
          exact hall'
      | false =>
        obtain ⟨row, hrow, hentry⟩ := NotifyService.handle_entry hknown hfailed
        refine ⟨rows ++ [row], ?_, ?_⟩
        · refine hrow.trans ?_
          rw [← List.append_assoc]
          exact congrArg (· ++ [row]) hrows
        · rw [List.filter_append, List.filter_cons_of_pos (by simp [hfailed]), List.filter_nil]
          exact List.rel_append hall' (.cons hentry .nil)
    · have hanswers : answers (ls ++ [.service (.handle env)]) = answers ls ++ [env] := by
        unfold answers
        rw [List.filterMap_append]
        rfl
      rw [hanswers]
      exact List.rel_append (h.answered.imp fun _ _ hf => hf.mono hseq)
        (.cons (NotifyService.failsWithDb_handle hknown hseq) .nil)

theorem Addressed.step (h : Addressed c d ls p) (hrun : Runs c d ls p) (hs : Step c p l p') :
    Addressed c d (ls ++ [l]) p' := by
  have hg := grounded_of_run hrun
  have hs' := hs
  cases hs with
  | tick hfree hrecv hstep =>
    exact h.engine hg hs' trivial (engineStep_cases (.inr (.inr ⟨_, _, rfl⟩)) hstep) rfl rfl
  | lagged hfree hlag hstep =>
    exact h.engine hg hs' trivial (engineStep_cases (.inr (.inl rfl)) hstep) rfl rfl
  | engine hfree halone hstep =>
    exact h.engine hg hs' trivial (engineStep_cases (.inl halone) hstep) rfl rfl
  | @writePrices env entry rest hphase =>
    obtain ⟨_, _, husers⟩ := Db.maintains_flushMarket c.crates env p.core.engine p.db entry
    exact h.other hs' trivial husers rfl rfl rfl rfl rfl
  | service hstep => exact h.service hs' hstep
  -- a summary is for the user of a row of this database, and users keep their ids
  | @summarize env rows hrunning hsent hanswer =>
    refine h.keep hs' trivial (fun who hwho => .inl hwho) h.dispatchers (fun r hr => .inl hr)
      (fun r hr => .inr ?_) h.taken rfl
    obtain ⟨sent, hmem, rfl⟩ := List.mem_map.mp hr
    obtain ⟨row, hrow, htelegram, hbot⟩ := sendSummaries_row hmem
    rw [(decodeAll_ok hanswer).1] at hrow
    obtain ⟨s, _, hrow⟩ := List.mem_filterMap.mp hrow
    obtain ⟨k, hk⟩ := Db.owner_of_summaryRow hrow
    refine ⟨k, ?_⟩
    rw [hk, NotificationRequest.recipient, htelegram, hbot]
  | @sendSummary req rest channel hnext hpush =>
    have hmem : req ∈ p.summaries := by
      rw [hnext]
      exact List.mem_cons_self ..
    refine h.push hs' trivial hpush (h.summaries req hmem) rfl rfl rfl rfl fun r hr => ?_
    rw [hnext]
    exact List.mem_cons_of_mem _ hr
  | @refuseSummary req rest hnext hclosed =>
    refine h.keep hs' trivial (fun who hwho => .inl hwho) h.dispatchers (fun r hr => .inl hr)
      (fun r hr => .inl ?_) h.taken rfl
    rw [hnext]
    exact List.mem_cons_of_mem _ hr
  -- a bot inserts users under its own id, which is the id of one of the registered bots
  | @bot i token B B' bl htoken hB hstep =>
    obtain ⟨token', htoken', hthreads⟩ := h.dispatchers i B hB
    obtain rfl : token = token' := Option.some.inj (htoken.symm.trans htoken')
    have hon : ∀ q ∈ (B.on p.db).pool.threads, Speaks (c.deps token).botId q := hthreads
    obtain ⟨hthreads', hidentities⟩ := speaks_step hon hstep
    refine h.keep hs' trivial (fun who hwho => ?_) (fun j B₁ hB₁ => ?_) (fun r hr => .inl hr)
      (fun r hr => .inl hr) h.taken rfl
    · refine (hidentities who hwho).imp id fun hbot => ?_
      rw [hbot]
      exact List.mem_map_of_mem (List.mem_of_getElem? htoken)
    · rw [List.getElem?_set] at hB₁
      split at hB₁
      · rename_i hij
        subst hij
        split at hB₁
        · cases hB₁
          exact ⟨token, htoken, hthreads'⟩
        · cases hB₁
      · exact h.dispatchers j B₁ hB₁
  | admin hstep =>
    cases hstep with
    | @mk j o k hj =>
      obtain ⟨_, _, hidentities⟩ :=
        maintains_adminPerform c.adminCrates c.adminEnv o (Admin.on p.api p.db).state
      refine h.keep hs' trivial (fun who hwho => .inl ?_) h.dispatchers (fun r hr => .inl hr)
        (fun r hr => .inl hr) h.taken rfl
      exact hidentities ▸ hwho
  | _ => exact h.other hs' trivial rfl rfl rfl rfl rfl rfl

theorem addressed_of_run (hrun : Runs c d ls p) : Addressed c d ls p := by
  induction hrun with
  | nil => exact addressed_start c d
  | snoc hrun hs ih => exact ih.step hrun hs

/-- **Every notification finds its user and its bot, and the log accounts for every one.** In
    every run of the process a request on the channel names a user of the database, whose bot is
    registered unless the user was there at the start; the requests are handled in the order they
    were accepted in; unless a statement failed the service found a user with the Telegram id, and
    the log has, after what was in it at the start, one row for each of these, in order, which
    says what was done with it. A statement fails where the database does not execute it, and
    nowhere else. -/
theorem notifications_accounted (hrun : Runs c d ls p) :
    (∀ req ∈ p.core.channel.accepted, p.db.Known req.recipient ∧
      (req.recipient ∈ d.identities ∨
        ∃ token ∈ c.tokens, (BotRegistry.ofTokens c.tokens).get req.botId = some token)) ∧
    p.core.handled.map Handling.request <+: p.core.channel.accepted ∧
    (∀ h ∈ p.core.handled, h.failed = false → h.userId.isSome = true) ∧
    List.Forall₂ (FailsWithDb p.db) p.core.handled (answers ls) ∧
    ∃ rows, p.db.notificationLog.rows = d.notificationLog.rows ++ rows ∧
      List.Forall₂ (Logged p.db) (p.core.handled.filter fun h => !h.failed) rows := by
  have h := addressed_of_run hrun
  obtain ⟨rows, hrows, hall⟩ := h.log
  refine ⟨fun req hreq => ?_, ?_, fun hd hhd hok => ?_, h.answered, rows, hrows, hall⟩
  · have hknown := h.accepted req hreq
    refine ⟨hknown, (h.users _ hknown.mem_identities).imp id fun hbot => ?_⟩
    obtain ⟨token, htoken⟩ :=
      Option.isSome_iff_exists.mp (BotRegistry.get_ofTokens_isSome.mpr hbot)
    exact ⟨token, (BotRegistry.get_ofTokens_some htoken).1, htoken⟩
  · rw [Channel.accepted, h.taken, List.append_assoc]
    exact List.prefix_append _ _
  · have hmem : hd ∈ p.core.handled.filter fun h => !h.failed :=
      List.mem_filter.mpr ⟨hhd, by rw [hok]; rfl⟩
    -- a row of the log has a user id, which is the one that was found
    have huser : ∀ {hs : List Handling} {rows : List NotificationLog},
        List.Forall₂ (Logged p.db) hs rows → ∀ h ∈ hs, h.userId.isSome = true := by
      intro hs rows hall
      induction hall with
      | nil => exact fun h hh => by cases hh
      | cons hfirst _ ih =>
        exact List.forall_mem_cons.mpr ⟨by rw [hfirst.user]; rfl, ih⟩
    exact huser hall hd hmem

theorem notifications_accounted_alarm : ∃ ls p, Runs sampleSetup Db.sampleDb ls p ∧
    p.outcome = ([(1, some 0)], [(some 1, true)], 1) ∧
    (∀ req ∈ p.core.channel.accepted, p.db.Known req.recipient ∧
      (req.recipient ∈ Db.sampleDb.identities ∨ ∃ token ∈ sampleSetup.tokens,
        (BotRegistry.ofTokens sampleSetup.tokens).get req.botId = some token)) ∧
    p.core.handled.map Handling.request <+: p.core.channel.accepted ∧
    (∀ h ∈ p.core.handled, h.failed = false → h.userId.isSome = true) ∧
    List.Forall₂ (FailsWithDb p.db) p.core.handled (answers ls) ∧
    ∃ rows, p.db.notificationLog.rows = Db.sampleDb.notificationLog.rows ++ rows ∧
      List.Forall₂ (Logged p.db) (p.core.handled.filter fun h => !h.failed) rows := by
  obtain ⟨ls, p, hrun, houtcome⟩ := alarm_run
  exact ⟨ls, p, hrun, houtcome, notifications_accounted hrun⟩

end Process

end PolyNotifier
