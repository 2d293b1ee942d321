import PolyNotifier.Main.Process

/-!
# Schedules

A schedule names the steps of the tasks, one after the other; the database answers all queries.
`take` computes a step and `play` a run, so that a run of the process can be shown by computing it.
-/

namespace PolyNotifier

open Lib (Pool Steps)
open Admin (Request)

namespace Process

open Shutdown (engineStep serviceStep)

variable {c : Setup} {p p' : Process} {l : ProcessLabel}

/-- Whose turn it is. A turn leaves out of a label what the process knows itself: the update that
    is next on the feed, the rows that are read, the call a handler makes. -/
inductive Turn where
  | cancel
  | monitor (l : MonitorLabel)
  | readTokens
  | spawn (tokenIds : List String)
  | tick (env : AlertEngine.TickEnv)
  | engine (l : Shutdown.EngineLabel)
  | readAlerts
  | readConditions
  | beginFlush (env : FlushEnv)
  | writePrices
  | endFlush
  | service (l : Shutdown.ServiceLabel)
  | summarize (env : SummaryEnv)
  | sendSummary
  | schedulerReturns
  /-- A dispatcher takes an update up. -/
  | update (i : Nat) (u : Update)
  /-- The next call of a handler of a dispatcher. -/
  | call (i j : Nat)
  | request (req : Request)
  /-- The next call of a handler of the admin API. -/
  | admin (j : Nat)

def monitorTurn (c : Setup) (p : Process) (l : MonitorLabel) : Option (ProcessLabel × Process) :=
  (p.monitor.step c.crates c.reconnect l).map fun m =>
    (.monitor l, { p with monitor := m, feed := p.feed.send (p.monitor.broadcast m) })

/-- The dispatcher takes an update up only when all its handlers have come to their end. -/
def updateTurn (u : Update) (deps : BotDeps) (_ : Env) (B : Bot) : Option (BotLabel × Bot) :=
  if ∀ q ∈ B.pool.threads, q.Done then
    (schema deps B.pool.state.dialogues u).map fun handler =>
      (.update u, ⟨B.chats ++ [u.chat], B.pool.spawn handler⟩)
  else none

def callTurn (j : Nat) (_ : BotDeps) (env : Env) (B : Bot) : Option (BotLabel × Bot) :=
  (Pool.stepAt (World.perform env) j B.pool).map fun r => (.call r.1, ⟨B.chats, r.2⟩)

def botTurn (c : Setup) (p : Process) (i : Nat)
    (turn : BotDeps → Env → Bot → Option (BotLabel × Bot)) : Option (ProcessLabel × Process) :=
  c.tokens[i]?.bind fun token => p.dispatchers[i]?.bind fun B =>
    (turn (c.deps token) (c.botEnv i) (B.on p.db)).map fun r =>
      (.bot i r.1, { p.withDb r.2.pool.state.db with dispatchers := p.dispatchers.set i r.2 })

/-- The step that a task takes when it is its turn, computed: `none` if it has none to take. Not
    every step can be taken this way (no query fails here); what is taken is a step (`take_step`),
    so a schedule that is played gives a run. -/
def take (c : Setup) (p : Process) : Turn → Option (ProcessLabel × Process)
  | .cancel =>
      some (.cancel, { p with
        core := { p.core with cancelled := true }
        monitor := { p.monitor with cancelled := true } })
  | .monitor l =>
      match l with
      | .read _ => none
      | .spawn _ _ _ => none
      | .cancel => none
      | l => monitorTurn c p l
  | .readTokens => monitorTurn c p (.read (some p.db))
  | .spawn tokenIds => monitorTurn c p (.spawn tokenIds [] (some p.db))
  | .tick env =>
      match p.phase with
      | .free =>
          p.feed.recv.bind fun r =>
            (engineStep c.crates c.alert p.core (.tick r.1 env)).map fun s =>
              (.tick r.1 env, { p with core := s, feed := r.2 })
      | _ => none
  | .engine l =>
      match p.phase, l with
      | .free, .cancelled =>
          (engineStep c.crates c.alert p.core l).map fun s => (.engine l, { p with core := s })
      | .free, .tryRule =>
          (engineStep c.crates c.alert p.core l).map fun s => (.engine l, { p with core := s })
      | .free, .send =>
          (engineStep c.crates c.alert p.core l).map fun s => (.engine l, { p with core := s })
      | .free, .persist =>
          (engineStep c.crates c.alert p.core l).map fun s => (.engine l, { p with core := s })
      | _, _ => none
  | .readAlerts =>
      match p.phase, p.core.pc, p.core.cancelled with
      | .free, .starting, _ =>
          some (.readAlerts (p.db.fetchAlertRows []).toOption,
            { p with phase := .refreshing (p.db.fetchAlertRows []).toOption })
      | .free, .select, false =>
          some (.readAlerts (p.db.fetchAlertRows []).toOption,
            { p with phase := .refreshing (p.db.fetchAlertRows []).toOption })
      | _, _, _ => none
  | .readConditions =>
      match p.phase with
      | .refreshing rows =>
          some (.readConditions (some p.db.fetchConditionRows), { p with
            core := { p.core with
              engine := p.core.engine.refreshCache c.crates rows (some p.db.fetchConditionRows)
              pc := .select }
            phase := .free })
      | _ => none
  | .beginFlush env =>
      let next : ProcessLabel × Process := (.beginFlush env, { p with
        phase := .flushing env (AlertEngine.flushEntries env p.core.engine) })
      match p.phase, p.core.pc, p.core.cancelled with
      | .free, .flushing, _ => some next
      | .free, .select, false => some next
      | _, _, _ => none
  | .writePrices =>
      match p.phase with
      | .flushing env (entry :: rest) =>
          some (.writePrices, { p with
            core := { p.core with
              db := AlertEngine.flushMarket c.crates env p.core.engine p.db entry }
            phase := .flushing env rest })
      | _ => none
  | .endFlush =>
      match p.phase with
      | .flushing _ [] =>
          some (.endFlush, { p with
            core := { p.core with
              pc := match p.core.pc with
                | .flushing => .returned
                | pc => pc }
            phase := .free })
      | _ => none
  | .service l =>
      (serviceStep c.bots p.core l).map fun s => (.service l, { p with core := s })
  | .summarize env =>
      match p.schedulerReturned, p.summaries, p.db.fetchSummaryRows with
      | false, [], .ok rows =>
          some (.summarize env, { p with
            summaries := (sendSummaries c.crates { env with sendOk := fun _ => true } rows).map
              Prod.snd })
      | _, _, _ => none
  | .sendSummary =>
      match p.summaries with
      | [] => none
      | req :: rest =>
          match p.core.channel.push req, p.core.channel.alive with
          | some channel, _ =>
              some (.sendSummary, { p with core := { p.core with channel }, summaries := rest })
          | none, false => some (.sendSummary, { p with summaries := rest })
          | none, true => none
  | .schedulerReturns =>
      match p.schedulerReturned, p.summaries, p.core.cancelled with
      | false, [], true =>
          some (.schedulerReturns, { p with
            core := { p.core with senders := p.core.senders - 1 }
            schedulerReturned := true })
      | _, _, _ => none
  | .update i u => botTurn c p i (updateTurn u)
  | .call i j => botTurn c p i (callTurn j)
  | .request req =>
      some (.request req, { p with
        api := p.api.spawn (Admin.serve c.adminCrates c.adminState req) })
  | .admin j =>
      (Pool.stepAt (Admin.perform c.adminCrates c.adminEnv) j (Admin.on p.api p.db)).map fun r =>
        (.admin r.1, { p.withDb r.2.state.db with api := r.2 })

theorem monitorTurn_step (hreads : ∀ m : MonitorLabel, l = .monitor m → m.Reads p.db)
    {m : MonitorLabel} (h : monitorTurn c p m = some (l, p')) : Step c p l p' := by
  obtain ⟨s, hs, heq⟩ := Option.map_eq_some_iff.mp h
  cases heq
  exact .monitor (hreads m rfl) hs

theorem updateTurn_step {u : Update} {deps : BotDeps} {env : Env} {B : Bot}
    {r : BotLabel × Bot} (h : updateTurn u deps env B = some r) : Bot.Step deps env B r.1 r.2 := by
  unfold updateTurn at h
  split at h
  · rename_i hidle
    obtain ⟨handler, hbranch, rfl⟩ := Option.map_eq_some_iff.mp h
    exact .update (fun chat _ => Bot.Idle.free hidle chat) hbranch
  · cases h

theorem callTurn_step {j : Nat} {deps : BotDeps} {env : Env} {B : Bot} {r : BotLabel × Bot}
    (h : callTurn j deps env B = some r) : Bot.Step deps env B r.1 r.2 := by
  obtain ⟨⟨ev, P⟩, hstep, rfl⟩ := Option.map_eq_some_iff.mp h
  exact .call (Pool.stepAt_step hstep)

theorem botTurn_step {i : Nat} {turn : BotDeps → Env → Bot → Option (BotLabel × Bot)}
    (hturn : ∀ deps env B r, turn deps env B = some r → Bot.Step deps env B r.1 r.2)
    (h : botTurn c p i turn = some (l, p')) : Step c p l p' := by
  obtain ⟨token, htoken, h⟩ := Option.bind_eq_some_iff.mp h
  obtain ⟨B, hB, h⟩ := Option.bind_eq_some_iff.mp h
  obtain ⟨r, hr, heq⟩ := Option.map_eq_some_iff.mp h
  cases heq
  exact .bot htoken hB (hturn _ _ _ _ hr)

theorem take_step {t : Turn} (h : take c p t = some (l, p')) : Step c p l p' := by
  cases t with
  | cancel =>
    cases h
    exact .cancel
  | monitor m =>
    cases m with
    | read db => cases h
    | spawn tokenIds order db => cases h
    | cancel => cases h
    -- the other turns of the monitor read no row, so no answer of the database has to be justified
    | _ =>
      refine monitorTurn_step (fun m hm => ?_) h
      obtain ⟨s, _, heq⟩ := Option.map_eq_some_iff.mp h
      cases heq
      cases hm
      trivial
  | readTokens =>
    refine monitorTurn_step (fun m hm => ?_) h
    obtain ⟨s, _, heq⟩ := Option.map_eq_some_iff.mp h
    cases heq
    cases hm
    exact .inr rfl
  | spawn tokenIds =>
    refine monitorTurn_step (fun m hm => ?_) h
    obtain ⟨s, _, heq⟩ := Option.map_eq_some_iff.mp h
    cases heq
    cases hm
    exact .inr rfl
  -- the schedule names the environment of a tick; the update is whatever the channel hands over
  | tick env =>
    unfold take at h
    dsimp only at h
    split at h
    · rename_i hfree
      obtain ⟨⟨update, feed⟩, hrecv, h⟩ := Option.bind_eq_some_iff.mp h
      obtain ⟨s, hs, heq⟩ := Option.map_eq_some_iff.mp h
      cases heq
      exact .tick hfree hrecv hs
    · cases h
  | engine e =>
    unfold take at h
    dsimp only at h
    split at h
    · rename_i hfree
      obtain ⟨s, hs, heq⟩ := Option.map_eq_some_iff.mp h
      cases heq
      exact .engine hfree trivial hs
    · rename_i hfree
      obtain ⟨s, hs, heq⟩ := Option.map_eq_some_iff.mp h
      cases heq
      exact .engine hfree trivial hs
    · rename_i hfree
      obtain ⟨s, hs, heq⟩ := Option.map_eq_some_iff.mp h
      cases heq
      exact .engine hfree trivial hs
    · rename_i hfree
      obtain ⟨s, hs, heq⟩ := Option.map_eq_some_iff.mp h
      cases heq
      exact .engine hfree trivial hs
    · cases h
  -- the two points where a refresh may start: the select! and the time after the cancellation
  | readAlerts =>
    unfold take at h
    dsimp only at h
    split at h
    · rename_i hfree hpc
      cases h
      exact .readAlerts (.inl ⟨hfree, hpc⟩) (.inr ⟨[], rfl⟩)
    · rename_i hfree hpc hcancelled
      cases h
      exact .readAlerts (.inr ⟨hfree, hpc, hcancelled⟩) (.inr ⟨[], rfl⟩)
    · cases h
  | readConditions =>
    unfold take at h
    dsimp only at h
    split at h
    · rename_i hphase
      cases h
      exact .readConditions hphase (.inr rfl)
    · cases h
  | beginFlush env =>
    unfold take at h
    dsimp only at h
    split at h
    · rename_i hfree hpc
      cases h
      exact .beginFlush (.inl ⟨hfree, hpc⟩)
    · rename_i hfree hpc hcancelled
      cases h
      exact .beginFlush (.inr ⟨hfree, hpc, hcancelled⟩)
    · cases h
  | writePrices =>
    unfold take at h
    dsimp only at h
    split at h
    · rename_i hphase
      cases h
      exact .writePrices hphase
    · cases h
  | endFlush =>
    unfold take at h
    dsimp only at h
    split at h
    · rename_i hphase
      cases h
      exact .endFlush hphase
    · cases h
  | service v =>
    obtain ⟨s, hs, heq⟩ := Option.map_eq_some_iff.mp h
    cases heq
    exact .service hs
  | summarize env =>
    unfold take at h
    dsimp only at h
    split at h
    · rename_i hrunning hsent hanswer
      cases h
      exact .summarize hrunning hsent hanswer
    · cases h
  -- one turn for both ends of the send: the channel takes it, or it is closed
  | sendSummary =>
    unfold take at h
    dsimp only at h
    split at h
    · cases h
    · rename_i hnext
      split at h
      · rename_i hpush
        cases h
        exact .sendSummary hnext hpush
      · rename_i hclosed
        cases h
        exact .refuseSummary hnext hclosed
      · cases h
  | schedulerReturns =>
    unfold take at h
    dsimp only at h
    split at h
    · rename_i hrunning hsent hcancelled
      cases h
      exact .schedulerReturns hrunning hsent hcancelled
    · cases h
  | update i u => exact botTurn_step (fun _ _ _ _ => updateTurn_step) h
  | call i j => exact botTurn_step (fun _ _ _ _ => callTurn_step) h
  | request req =>
    cases h
    exact .request
  | admin j =>
    obtain ⟨⟨ev, P⟩, hstep, heq⟩ := Option.map_eq_some_iff.mp h
    cases heq
    exact .admin (Pool.stepAt_step hstep)

/-- The state after a schedule. -/
def play (c : Setup) (ts : List Turn) (p : Process) : Option Process :=
  ts.foldlM (fun p t => (take c p t).map Prod.snd) p

/-- **What is computed is a run.** -/
theorem play_run {ts : List Turn} (h : play c ts p = some p') :
    ∃ ls, Steps (Step c) p ls p' := by
  induction ts generalizing p with
  | nil =>
    cases h
    exact ⟨[], .nil⟩
  | cons t ts ih =>
    unfold play at h
    rw [List.foldlM_cons] at h
    obtain ⟨q, hq, hrest⟩ := Option.bind_eq_some_iff.mp h
    obtain ⟨⟨l, q'⟩, htake, rfl⟩ := Option.map_eq_some_iff.mp hq
    obtain ⟨ls, hls⟩ := ih hrest
    exact ⟨l :: ls, .cons (take_step htake) hls⟩

end Process

/-! ## A sample

One bot, the sample database, and a frame with a price above the threshold of the first alert. -/

def alarmFrame : String :=
  "[\x7b\"event_type\":\"price_change\",\"asset_id\":\"yes\",\"price\":\"0.75\"\x7d]"

/-- The reference functions, and what a JSON parser makes of `alarmFrame`. -/
def alarmCrates : Crates :=
  { Crates.reference with
    fromStr := fun s =>
      if s = alarmFrame then
        some (.arr [.obj [("event_type", .str "price_change"), ("asset_id", .str "yes"),
          ("price", .str "0.75")]])
      else Crates.reference.fromStr s }

def sampleSetup : Setup where
  crates := alarmCrates
  adminCrates := .reference
  telegramBotTokens := some "bot:AA"
  adminPassword := none
  alert := ⟨60⟩
  reconnect := ⟨1, 60⟩
  rateLimitPerUser := 30
  parseCommand _ := none
  descriptions := ""
  botEnv _ := ⟨fun _ => true, fun _ => true, fun _ => 0, fun _ _ => none, fun _ _ => none⟩
  adminEnv := ⟨fun _ => true, fun _ => 0, fun _ => []⟩

/-- Clocks that stand still, and a database that takes every write. -/
def calmTick : AlertEngine.TickEnv :=
  ⟨fun _ => 0, fun _ => 0, fun _ => 0, fun _ => true, fun _ => true⟩

/-- The engine refreshes, the monitor connects, the frame comes in, the engine ticks on it, and the
    service handles the request. -/
def alarmSchedule : List Process.Turn :=
  [.readAlerts, .readConditions, .readTokens, .monitor .check, .spawn ["yes", "no"],
    .monitor (.current .start), .monitor (.current (.frame alarmFrame)),
    .monitor (.current .recv), .monitor (.current (.convert 5)), .tick calmTick,
    .engine .tryRule, .engine .send, .engine .persist, .service .recv,
    .service (.handle ⟨true, 0, 0, fun _ => none, true, 0⟩)]

/-- What the sample looks at: the firings, what was handled, and the log. -/
def Process.outcome (p : Process) : List (Int × Option Nat) × List (Option Int × Bool) × Nat :=
  (p.core.fired.map fun f => (f.1.alertId, f.2),
    p.core.handled.map fun h => (h.userId, h.delivered), p.db.notificationLog.rows.length)

/-- **The alert of user 7 fires and is delivered.** -/
theorem alarm_run : ∃ ls p, Process.Runs sampleSetup Db.sampleDb ls p ∧
    p.outcome = ([(1, some 0)], [(some 1, true)], 1) := by
  have hcheck : (Process.play sampleSetup alarmSchedule (.start sampleSetup Db.sampleDb)).map
      Process.outcome = some ([(1, some 0)], [(some 1, true)], 1) := by decide +kernel
  obtain ⟨p, hp, houtcome⟩ := Option.map_eq_some_iff.mp hcheck
  obtain ⟨ls, hls⟩ := Process.play_run hp
  exact ⟨ls, p, hls, houtcome⟩

end PolyNotifier
