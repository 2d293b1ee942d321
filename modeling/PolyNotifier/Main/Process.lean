import PolyNotifier.Admin.Api
import PolyNotifier.Bot.Dispatcher
import PolyNotifier.Lib.Broadcast
import PolyNotifier.Main.Registry
import PolyNotifier.Main.Writes
import PolyNotifier.Monitor.Enrichment
import PolyNotifier.Notify.Shutdown
import PolyNotifier.Scheduler.DailySummary

/-!
# The process

`main` starts the monitor, the alert engine, the notification service, the scheduler, the admin
API and one dispatcher for each token. They share one database, the channel of the prices, the
channel of the notifications and the cancellation token. `Process` is all of them together, each
the machine it is in its own module, and a run is any interleaving of their steps.

What the machines leave open is tied here. A query of the monitor, of the engine or of the
scheduler answers from the database as it is, or fails; the engine ticks on what the monitor has
broadcast; and every request on the channel is one the engine or the scheduler has put there. The
two walks of the engine over the database, the refresh and the flush, are taken apart into their
statements, so that the other tasks can come between them.
-/

namespace PolyNotifier

open Lib (Broadcast Channel Pool Event Steps)
open Admin (AdminCrates Request Response adminSig)

/-! ## What `main` starts from -/

/-- The environment, the configuration and the outside of a process. Only what a modelled task
    reads is here; the intervals of the timers are not, since a run may have its timers at any
    moment. -/
structure Setup where
  crates : Crates
  adminCrates : AdminCrates
  telegramBotTokens : Option String
  adminPassword : Option String
  alert : EngineConfig
  reconnect : ReconnectConfig
  rateLimitPerUser : Nat
  parseCommand : String → Option Command
  descriptions : String
  /-- What the dispatcher of a token finds outside the process. -/
  botEnv : Nat → Env
  adminEnv : Admin.Env

namespace Setup

def tokens (c : Setup) : List String := botTokens c.telegramBotTokens

/-- The bots of the registry that the notification service gets. -/
def bots (c : Setup) : BotRegistry := .ofTokens c.tokens

/-- The ids the registry knows. -/
def botIds (c : Setup) : List String := c.tokens.map botIdOf

def deps (c : Setup) (token : String) : BotDeps :=
  ⟨c.crates, botIdOf token, c.parseCommand, c.descriptions⟩

def adminState (c : Setup) : Admin.AdminState := ⟨c.adminPassword.getD "admin"⟩

end Setup

/-! ## States -/

/-- Where the engine is between two of its statements. `Shutdown.State` has the engine's places in
    a tick; the two walks over the database are added here and not there, because only here does
    anyone write to the database meanwhile. -/
inductive EngineWalk where
  | free
  /-- `refresh_cache` has its rows, and not yet those of `refresh_condition_tokens`. -/
  | refreshing (rows : Option (List AlertRow))
  /-- `flush_prices_to_db`, with the entries that are left. -/
  | flushing (env : FlushEnv) (rest : List (Int × List String))

/-- All tasks that `main` spawns, with what they share. The parts are those of the modules before:
    a step of a task is a step of its part, and this record says what the parts have in common,
    which is the database, the token and two channels. -/
structure Process where
  monitor : Monitor
  /-- The price channel, as the receiver of the engine sees it. -/
  feed : Broadcast PriceUpdate
  /-- The engine, the notification service, their channel, the token and the database. -/
  core : Shutdown.State
  phase : EngineWalk
  /-- The requests the scheduler has still to send. -/
  summaries : List NotificationRequest
  schedulerReturned : Bool
  /-- The dispatcher of each token. -/
  dispatchers : List Bot
  /-- The requests of the admin API. -/
  api : Pool adminSig Empty Response Admin.Store

namespace Process

def db (p : Process) : Db := p.core.db

def withDb (p : Process) (d : Db) : Process := { p with core := { p.core with db := d } }

@[simp] theorem withDb_db (p : Process) (d : Db) : (p.withDb d).db = d := rfl

/-- Before the first step of anything. The channel has two senders besides the engine's: the one
    `main` keeps and the scheduler's. -/
def start (c : Setup) (d : Db) : Process where
  monitor := .start
  feed := .subscribe 4096
  core := {
    engine := .new
    pc := .starting
    channel := .new NotificationRequest 1024
    senders := 2
    service := .waiting
    limiter := .new c.rateLimitPerUser
    db := d
    cancelled := false
    fired := []
    handled := [] }
  phase := .free
  summaries := []
  schedulerReturned := false
  dispatchers := c.tokens.map fun _ => .start d
  api := ⟨[], d, 0⟩

/-- `main`, up to where all tasks are spawned: without a token there is no process. -/
def main (c : Setup) (d : Db) : Option Process := if c.tokens = [] then none else some (start c d)

end Process

/-- The dispatcher finds the database as it is. -/
def Bot.on (B : Bot) (d : Db) : Bot :=
  { B with pool := { B.pool with state := { B.pool.state with db := d } } }

/-- And so do the handlers of the admin API. -/
def Admin.on (P : Pool adminSig Empty Response Admin.Store) (d : Db) :
    Pool adminSig Empty Response Admin.Store := { P with state := { P.state with db := d } }

/-- What the monitor reads, it reads from the database, or the query fails. The token is cancelled
    for all tasks at once. -/
def MonitorLabel.Reads (d : Db) : MonitorLabel → Prop
  | .read db => db = none ∨ db = some d
  | .spawn _ _ db => db = none ∨ db = some d
  | .cancel => False
  | _ => True

/-- The steps of the engine that neither read the price channel nor walk over the database. -/
def EngineStepsAlone : Shutdown.EngineLabel → Prop
  | .cancelled => True
  | .tryRule => True
  | .send => True
  | .persist => True
  | _ => False

/-! ## Steps -/

/-- One step of one task. A step is what a task does up to the next point where another may come
    in, so everything that reads or writes the database once is a step of its own, with what the
    database answered in its label. -/
inductive ProcessLabel where
  | cancel
  | monitor (l : MonitorLabel)
  | tick (update : PriceUpdate) (env : AlertEngine.TickEnv)
  | lagged
  | engine (l : Shutdown.EngineLabel)
  /-- The two queries of a refresh; `none`: it failed. -/
  | readAlerts (rows : Option (List AlertRow))
  | readConditions (rows : Option (List ConditionRow))
  | beginFlush (env : FlushEnv)
  | writePrices
  | endFlush
  | service (l : Shutdown.ServiceLabel)
  /-- `send_summaries`: the query, and each request. -/
  | summarize (env : SummaryEnv)
  | sendSummary
  | schedulerReturns
  | bot (i : Nat) (l : BotLabel)
  | request (req : Request)
  | admin (ev : Event adminSig)

namespace Process

open Shutdown (engineStep serviceStep)

/-- A branch of the `select!` of the engine can be taken. The token is first in it, so no other
    branch is once it is cancelled. -/
def Selects (p : Process) : Prop :=
  p.phase = .free ∧ p.core.pc = .select ∧ p.core.cancelled = false

variable (c : Setup)

/-- A step of one of the tasks. What a task is told of the outside must be so: what it reads is
    what the database holds or a failure, what it receives is what was sent. The parts with a
    database of their own, the dispatchers and the admin API, are given the one of the process
    before their step, and it has theirs after. -/
inductive Step (p : Process) : ProcessLabel → Process → Prop
  | cancel :
      Step p .cancel { p with
        core := { p.core with cancelled := true }
        monitor := { p.monitor with cancelled := true } }
  | monitor {l : MonitorLabel} {m : Monitor} (reads : l.Reads p.db)
      (step : Monitor.Step c.crates c.reconnect p.monitor l m) :
      Step p (.monitor l) { p with monitor := m, feed := p.feed.send (p.monitor.broadcast m) }
  | tick {update : PriceUpdate} {env : AlertEngine.TickEnv} {feed : Broadcast PriceUpdate}
      {s : Shutdown.State} (free : p.phase = .free) (recv : p.feed.recv = some (update, feed))
      (step : engineStep c.crates c.alert p.core (.tick update env) = some s) :
      Step p (.tick update env) { p with core := s, feed }
  | lagged {n : Nat} {feed : Broadcast PriceUpdate} {s : Shutdown.State} (free : p.phase = .free)
      (lag : p.feed.lag = some (n, feed))
      (step : engineStep c.crates c.alert p.core .lagged = some s) :
      Step p .lagged { p with core := s, feed }
  | engine {l : Shutdown.EngineLabel} {s : Shutdown.State} (free : p.phase = .free)
      (alone : EngineStepsAlone l) (step : engineStep c.crates c.alert p.core l = some s) :
      Step p (.engine l) { p with core := s }
  | readAlerts {rows : Option (List AlertRow)}
      (turn : (p.phase = .free ∧ p.core.pc = .starting) ∨ p.Selects)
      (answer : rows = none ∨ ∃ order, rows = (p.db.fetchAlertRows order).toOption) :
      Step p (.readAlerts rows) { p with phase := .refreshing rows }
  | readConditions {rows : Option (List AlertRow)} {conditions : Option (List ConditionRow)}
      (phase : p.phase = .refreshing rows)
      (answer : conditions = none ∨ conditions = some p.db.fetchConditionRows) :
      Step p (.readConditions conditions) { p with
        core := { p.core with
          engine := p.core.engine.refreshCache c.crates rows conditions, pc := .select }
        phase := .free }
  | beginFlush {env : FlushEnv} (turn : (p.phase = .free ∧ p.core.pc = .flushing) ∨ p.Selects) :
      Step p (.beginFlush env) { p with
        phase := .flushing env (AlertEngine.flushEntries env p.core.engine) }
  | writePrices {env : FlushEnv} {entry : Int × List String} {rest : List (Int × List String)}
      (phase : p.phase = .flushing env (entry :: rest)) :
      Step p .writePrices { p with
        core := { p.core with
          db := AlertEngine.flushMarket c.crates env p.core.engine p.db entry }
        phase := .flushing env rest }
  | endFlush {env : FlushEnv} (phase : p.phase = .flushing env []) :
      Step p .endFlush { p with
        core := { p.core with
          pc := match p.core.pc with
            | .flushing => .returned
            | pc => pc }
        phase := .free }
  | service {l : Shutdown.ServiceLabel} {s : Shutdown.State}
      (step : serviceStep c.bots p.core l = some s) :
      Step p (.service l) { p with core := s }
  | summarize {env : SummaryEnv} {rows : List SummaryRow} (running : p.schedulerReturned = false)
      (sent : p.summaries = []) (answer : p.db.fetchSummaryRows = .ok rows) :
      Step p (.summarize env) { p with
        summaries := (sendSummaries c.crates { env with sendOk := fun _ => true } rows).map
          Prod.snd }
  | sendSummary {req : NotificationRequest} {rest : List NotificationRequest}
      {channel : Channel NotificationRequest} (next : p.summaries = req :: rest)
      (push : p.core.channel.push req = some channel) :
      Step p .sendSummary { p with core := { p.core with channel }, summaries := rest }
  | refuseSummary {req : NotificationRequest} {rest : List NotificationRequest}
      (next : p.summaries = req :: rest) (closed : p.core.channel.alive = false) :
      Step p .sendSummary { p with summaries := rest }
  | schedulerReturns (running : p.schedulerReturned = false) (sent : p.summaries = [])
      (cancelled : p.core.cancelled = true) :
      Step p .schedulerReturns { p with
        core := { p.core with senders := p.core.senders - 1 }
        schedulerReturned := true }
  | bot {i : Nat} {token : String} {B B' : Bot} {l : BotLabel} (token_i : c.tokens[i]? = some token)
      (bot_i : p.dispatchers[i]? = some B)
      (step : Bot.Step (c.deps token) (c.botEnv i) (B.on p.db) l B') :
      Step p (.bot i l) { p.withDb B'.pool.state.db with dispatchers := p.dispatchers.set i B' }
  | request {req : Request} :
      Step p (.request req) { p with
        api := p.api.spawn (Admin.serve c.adminCrates c.adminState req) }
  | admin {ev : Event adminSig} {P : Pool adminSig Empty Response Admin.Store}
      (step : Pool.Step (Admin.perform c.adminCrates c.adminEnv) (Admin.on p.api p.db) ev P) :
      Step p (.admin ev) { p.withDb P.state.db with api := P }

/-- A run of the process. -/
abbrev Runs (c : Setup) (d : Db) (ls : List ProcessLabel) (p : Process) : Prop :=
  Steps (Step c) (start c d) ls p

/-! ## The steps of the engine -/

section Engine

open Shutdown (Tick State EngineLabel)
open AlertEngine (mayFire formatNotification notificationOf firingOf)

variable (x : Crates) (cfg : EngineConfig)

/-- The database after the mark of an alert, if it was written. -/
def marked (t : Tick) (r : AlertRule) (d : Db) : Db :=
  if t.env.persistOk r.alertId then
    match d.recordAlertTriggered (t.env.persist r.alertId) r.alertId with
    | .ok d' => d'
    | .error _ => d
  else d

/-- The steps of the engine that do not walk over the database, each with the place of the code it
    is taken at. It is `engineStep` turned around, so that an invariant of the process has a case
    for each place and not for each label. -/
inductive EngineMove (s : State) : EngineLabel → State → Prop
  | cancels (pc : s.pc = .select) (cancelled : s.cancelled = true) :
      EngineMove s .cancelled { s with pc := .flushing }
  | ticks {update : PriceUpdate} {env : AlertEngine.TickEnv} (pc : s.pc = .select) :
      EngineMove s (.tick update env) { s with
        engine := { s.engine with
          prevPrices := s.engine.prevPrices.insert update.tokenId update.price }
        pc := .rules ⟨update, s.engine.prevPrices.lookup update.tokenId, env,
          s.engine.rulesOf update.tokenId⟩ }
  | lags : EngineMove s .lagged s
  | finishes {t : Tick} (pc : s.pc = .rules { t with rest := [] }) :
      EngineMove s .tryRule { s with pc := .select }
  | skips {t : Tick} {r : AlertRule} (pc : s.pc = .rules { t with rest := r :: t.rest })
      (may : ¬ mayFire cfg t.env t.update t.previous s.engine.dedup r = true) :
      EngineMove s .tryRule { s with pc := .rules t }
  | panics {t : Tick} {r : AlertRule} (pc : s.pc = .rules { t with rest := r :: t.rest })
      (format : formatNotification x r t.update.price t.update = none) :
      EngineMove s .tryRule { s with
        engine := { s.engine with
          dedup := s.engine.dedup.markFired (t.env.mark r.alertId) r.alertId }
        pc := .panicked }
  | composes {t : Tick} {r : AlertRule} {message : String}
      (pc : s.pc = .rules { t with rest := r :: t.rest })
      (may : mayFire cfg t.env t.update t.previous s.engine.dedup r = true)
      (format : formatNotification x r t.update.price t.update = some message) :
      EngineMove s .tryRule { s with
        engine := { s.engine with
          dedup := s.engine.dedup.markFired (t.env.mark r.alertId) r.alertId }
        pc := .sending t r message }
  | sends {t : Tick} {r : AlertRule} {message : String}
      {channel : Channel NotificationRequest} (pc : s.pc = .sending t r message)
      (push : s.channel.push (notificationOf r message) = some channel) :
      EngineMove s .send { s with
        channel, pc := .persisting t r message (some s.channel.accepted.length) }
  | fails {t : Tick} {r : AlertRule} {message : String} (pc : s.pc = .sending t r message)
      (closed : s.channel.alive = false) :
      EngineMove s .send { s with pc := .persisting t r message none }
  | persists {t : Tick} {r : AlertRule} {message : String} {slot : Option Nat}
      (pc : s.pc = .persisting t r message slot) :
      EngineMove s .persist { s with
        db := marked { t with env := { t.env with sendOk := fun _ => slot.isSome } } r s.db
        pc := .rules t
        fired := s.fired ++
          [(firingOf cfg { t.env with sendOk := fun _ => slot.isSome } r message, slot)] }

variable {x cfg} {s s' : State}

theorem engineStep_cases {e : EngineLabel}
    (he : EngineStepsAlone e ∨ e = .lagged ∨ ∃ update env, e = .tick update env)
    (h : engineStep x cfg s e = some s') : EngineMove x cfg s e s' := by
  cases e with
  | cancelled =>
    simp only [engineStep] at h
    split at h
    · rename_i hpc
      split at h <;> cases h
      rename_i hcancelled
      exact .cancels hpc hcancelled
    · cases h
  | tick update env =>
    obtain ⟨hpc, rfl⟩ := Shutdown.branch_eq_some h
    exact .ticks hpc
  | lagged =>
    obtain ⟨_, rfl⟩ := Shutdown.branch_eq_some h
    exact .lags
  -- no rule left, a rule that may fire and one that may not; formatting the message can panic
  | tryRule =>
    simp only [engineStep] at h
    split at h
    · rename_i u previous env hpc
      cases h
      exact .finishes (t := ⟨u, previous, env, []⟩) hpc
    · rename_i u previous env r rest hpc
      split at h
      · rename_i hmay
        split at h <;> cases h
        · rename_i hformat
          exact .panics (t := ⟨u, previous, env, rest⟩) hpc hformat
        · rename_i message hformat
          exact .composes (t := ⟨u, previous, env, rest⟩) hpc hmay hformat
      · rename_i hmay
        cases h
        exact .skips (t := ⟨u, previous, env, rest⟩) hpc hmay
    · cases h
  | send =>
    simp only [engineStep] at h
    split at h
    · rename_i t r message hpc
      split at h
      · split at h <;> cases h
        rename_i hpush
        exact .sends hpc hpush
      · rename_i hclosed
        cases h
        exact .fails hpc (Bool.eq_false_iff.mpr hclosed)
    · cases h
  | persist =>
    simp only [engineStep] at h
    split at h
    · rename_i t r message slot hpc
      cases h
      exact .persists hpc
    · cases h
  -- the refresh and the flush are steps of the process: they read and write its database
  | _ => simp [EngineStepsAlone] at he

end Engine

/-! ## The steps of the service -/

section Service

open Shutdown (State ServiceLabel)

/-- What a step of the service can do, with what it has seen. Handling a request is one step: its
    lookup and its insert both find the database of that moment, and only the service writes the
    log. -/
inductive ServiceMove (bots : BotRegistry) (s : State) : ServiceLabel → State → Prop
  | leaves (waits : s.service = .waiting) (cancelled : s.cancelled = true) :
      ServiceMove bots s .cancelled { s with service := .returned, channel := s.channel.close }
  | ends (waits : s.service = .waiting) (empty : s.channel.queue = []) (alone : s.senders = 0)
      (gone : s.pc.gone = true) :
      ServiceMove bots s .closed { s with service := .returned, channel := s.channel.close }
  | takes {req : NotificationRequest} {channel : Channel NotificationRequest}
      (waits : s.service = .waiting) (recv : s.channel.recv = some (req, channel)) :
      ServiceMove bots s .recv { s with service := .handling req, channel }
  | handles {req : NotificationRequest} {env : HandleEnv} (inHand : s.service = .handling req) :
      ServiceMove bots s (.handle env) { s with
        service := .waiting
        limiter := (NotifyService.handle bots env req s.limiter s.db).2.1
        db := (NotifyService.handle bots env req s.limiter s.db).2.2
        handled := s.handled ++ [(NotifyService.handle bots env req s.limiter s.db).1] }

theorem serviceStep_cases {bots : BotRegistry} {s s' : State} {v : ServiceLabel}
    (h : serviceStep bots s v = some s') : ServiceMove bots s v s' := by
  cases v with
  | cancelled =>
    simp only [serviceStep] at h
    split at h <;> cases h
    rename_i hguard
    exact .leaves hguard.1 hguard.2
  | recv =>
    simp only [serviceStep] at h
    split at h
    · rename_i hwaits
      obtain ⟨⟨req, channel⟩, hrecv, rfl⟩ := Option.map_eq_some_iff.mp h
      exact .takes hwaits hrecv
    · cases h
  | handle env =>
    simp only [serviceStep] at h
    split at h <;> cases h
    rename_i hhandling
    exact .handles hhandling
  | closed =>
    simp only [serviceStep] at h
    split at h <;> cases h
    rename_i hguard
    exact .ends hguard.1 hguard.2.1 hguard.2.2.1 hguard.2.2.2

end Service

/-! ## What a step does to the database -/

/-- A step that does not write to the log. -/
def LogsNothing : ProcessLabel → Prop
  | .service (.handle _) => False
  | _ => True

/-- The database after a step, with the log as it is unless a request was handled. Every result
    about what the database may become over a run is got from this by induction, whatever the tasks
    are. -/
def Advances (l : ProcessLabel) (d d' : Db) : Prop :=
  d.Evolves d' ∧ (LogsNothing l → d'.notificationLog = d.notificationLog)

variable {c} {p p' : Process} {l : ProcessLabel}

/-- The steps of the engine that do not walk over the database. -/
theorem maintains_engine {e : Shutdown.EngineLabel} {s s' : Shutdown.State}
    (h : EngineMove c.crates c.alert s e s') :
    s.db.Maintains s'.db ∧ s'.db.notificationLog = s.db.notificationLog ∧
      s'.db.users = s.db.users := by
  cases h with
  | @persists t r message slot =>
    dsimp only
    unfold marked
    split
    · split
      · rename_i hmark
        exact ⟨Db.maintains_recordAlertTriggered hmark, Db.recordAlertTriggered_log hmark,
          Db.recordAlertTriggered_users hmark⟩
      · exact ⟨.refl s.db, rfl, rfl⟩
    · exact ⟨.refl s.db, rfl, rfl⟩
  | _ => exact ⟨.refl s.db, rfl, rfl⟩

theorem maintains_service {v : Shutdown.ServiceLabel} {s s' : Shutdown.State}
    (h : serviceStep c.bots s v = some s') :
    s.db.Maintains s'.db ∧
      (LogsNothing (.service v) → s'.db.notificationLog = s.db.notificationLog) ∧
      s'.db.users = s.db.users := by
  cases serviceStep_cases h with
  | handles =>
    obtain ⟨hmaintains, husers⟩ := Db.maintains_handle c.bots _ _ s.limiter s.db
    exact ⟨hmaintains, fun hnot => hnot.elim, husers⟩
  | _ => exact ⟨.refl s.db, fun _ => rfl, rfl⟩

theorem service_engine {v : Shutdown.ServiceLabel} {s s' : Shutdown.State}
    (h : serviceStep c.bots s v = some s') :
    s'.engine = s.engine ∧ s'.pc = s.pc ∧ s'.fired = s.fired := by
  cases serviceStep_cases h with
  | _ => exact ⟨rfl, rfl, rfl⟩

theorem accepted_service {v : Shutdown.ServiceLabel} {s s' : Shutdown.State}
    (h : serviceStep c.bots s v = some s') : s'.channel.accepted = s.channel.accepted := by
  cases serviceStep_cases h with
  | takes _ hrecv => exact Channel.accepted_recv hrecv
  | _ => rfl

theorem advances_bot {i : Nat} {deps : BotDeps} {env : Env} {B B' : Bot} {l : BotLabel} {d : Db}
    (h : Bot.Step deps env (B.on d) l B') : Advances (.bot i l) d B'.pool.state.db := by
  cases h with
  | update => exact ⟨.refl d, fun _ => rfl⟩
  | call hstep =>
    cases hstep with
    | @mk j o k hj =>
      obtain ⟨hevolves, hlog⟩ := evolves_perform env o (B.on d).pool.state
      exact ⟨hevolves, fun _ => hlog⟩

/-- **Every step of a task that is no bot.** -/
theorem step_maintains (h : Step c p l p') (hl : ∀ i b, l ≠ .bot i b) :
    p.db.Maintains p'.db ∧ (LogsNothing l → p'.db.notificationLog = p.db.notificationLog) := by
  cases h with
  | tick _ _ hstep =>
    obtain ⟨hkept, hlog, _⟩ := maintains_engine (engineStep_cases (.inr (.inr ⟨_, _, rfl⟩)) hstep)
    exact ⟨hkept, fun _ => hlog⟩
  | lagged _ _ hstep =>
    obtain ⟨hkept, hlog, _⟩ := maintains_engine (engineStep_cases (.inr (.inl rfl)) hstep)
    exact ⟨hkept, fun _ => hlog⟩
  | engine _ halone hstep =>
    obtain ⟨hkept, hlog, _⟩ := maintains_engine (engineStep_cases (.inl halone) hstep)
    exact ⟨hkept, fun _ => hlog⟩
  | @writePrices env entry =>
    obtain ⟨hkept, hlog, _⟩ := Db.maintains_flushMarket c.crates env p.core.engine p.db entry
    exact ⟨hkept, fun _ => hlog⟩
  | service hstep =>
    obtain ⟨hkept, hlog, _⟩ := maintains_service hstep
    exact ⟨hkept, hlog⟩
  | bot => exact absurd rfl (hl _ _)
  | admin hstep =>
    cases hstep with
    | @mk j o k hj =>
      obtain ⟨hkept, hlog, _⟩ :=
        maintains_adminPerform c.adminCrates c.adminEnv o (Admin.on p.api p.db).state
      exact ⟨hkept, fun _ => hlog⟩
  | _ => exact ⟨.refl p.db, fun _ => rfl⟩

/-- **Every step of every task.** -/
theorem step_db (h : Step c p l p') : Advances l p.db p'.db := by
  by_cases hl : ∃ i b, l = .bot i b
  · obtain ⟨i, b, rfl⟩ := hl
    cases h with
    | bot _ _ hstep => exact advances_bot hstep
  · obtain ⟨hkept, hlog⟩ := step_maintains h fun i b heq => hl ⟨i, b, heq⟩
    exact ⟨hkept.toEvolves, hlog⟩

end Process

end PolyNotifier
