import PolyNotifier.Alert.LastPrices
import PolyNotifier.Main.Feed

/-!
# Why an alert fires

The engine works on copies: the rules of the last refresh, the last price of each token, a tick
that was taken from the channel. The database goes on meanwhile. `Grounds` says what a notification
rests on all the same: a rule that was in the database at some point of the run, and an update the
monitor has broadcast, on which the rule holds, given the last price of the token before it.
-/

namespace PolyNotifier

open Lib (Steps Visits)
open AlertEngine (buildRule formatNotification notificationOf)

/-- The rule of an alert on an active subscription to an active market. It is the rule a refresh
    would cache of this database, whether there ever was a refresh of it or not. -/
def RuleOf (x : Crates) (d : Db) (r : AlertRule) : Prop :=
  ∃ row ∈ d.alerts.rows.filterMap d.alertRow, buildRule x row = some r

namespace Process

open Shutdown (EnginePc)

/-- The run has passed a database with the rule. -/
def WasRule (c : Setup) (d : Db) (ls : List ProcessLabel) (p : Process) (r : AlertRule) : Prop :=
  Visits (Step c) (start c d) ls p fun q => RuleOf c.crates q.db r

/-- The rule was in the database, and the update is one of those that came in, with the last price
    of its token before it. The price before is the one the engine has received before: ticks it
    has missed do not count, and that is what the code does. -/
structure Watched (c : Setup) (d : Db) (ls : List ProcessLabel) (p : Process)
    (update : PriceUpdate) (previous : Option Decimal) (r : AlertRule) : Prop where
  rule : WasRule c d ls p r
  token : r.tokenId = update.tokenId
  received : ∃ before after, p.feed.received = before ++ update :: after ∧
    previous = lastPrice before update.tokenId

/-- And the rule holds: the message is about it. -/
structure Grounds (c : Setup) (d : Db) (ls : List ProcessLabel) (p : Process)
    (update : PriceUpdate) (previous : Option Decimal) (r : AlertRule) (message : String) : Prop
    extends Watched c d ls p update previous r where
  evaluates : r.evaluate update.price previous = true
  format : formatNotification c.crates r update.price update = some message

/-- What is known where the engine is. A tick holds on to its rules, so they have to be carried
    along: a refresh can come only after the tick, but the alert may be deleted in the middle of
    it. -/
def PcGrounds (c : Setup) (d : Db) (ls : List ProcessLabel) (p : Process) : EnginePc → Prop
  | .rules t => ∀ r ∈ t.rest, Watched c d ls p t.update t.previous r
  | .sending t r message =>
      Grounds c d ls p t.update t.previous r message ∧
        ∀ r' ∈ t.rest, Watched c d ls p t.update t.previous r'
  | .persisting t r message _ =>
      Grounds c d ls p t.update t.previous r message ∧
        ∀ r' ∈ t.rest, Watched c d ls p t.update t.previous r'
  | _ => True

/-- **What every run keeps.** A rule in the cache was made of rows that some state of the run had;
    a price in memory is the last one received for its token; and what is on its way to a message,
    at whichever place the engine is, has its grounds already. -/
structure Grounded (c : Setup) (d : Db) (ls : List ProcessLabel) (p : Process) : Prop where
  cached : ∀ tokenId, ∀ r ∈ p.core.engine.rulesOf tokenId, r.tokenId = tokenId ∧ WasRule c d ls p r
  read : ∀ rows, p.phase = .refreshing (some rows) →
    Visits (Step c) (start c d) ls p fun q =>
      ∃ order, q.db.fetchAlertRows order = .ok rows
  prices : ∀ tokenId, p.core.engine.prevPrices.lookup tokenId = lastPrice p.feed.received tokenId
  pc : PcGrounds c d ls p p.core.pc
  fired : ∀ f ∈ p.core.fired.map Prod.fst, ∃ update previous r message,
    Grounds c d ls p update previous r message ∧
      f.request = notificationOf r message ∧ f.alertId = r.alertId

section

variable {c : Setup} {d : Db} {ls : List ProcessLabel} {l : ProcessLabel} {p p' : Process}
  {update : PriceUpdate} {previous : Option Decimal} {r : AlertRule} {message : String}

/-- A rule of the rows that were read is a rule of the database they were read from. -/
theorem ruleOf_fetched {rows : List AlertRow} {q : Process}
    (h : ∃ order, q.db.fetchAlertRows order = .ok rows)
    (hr : r ∈ rows.filterMap (buildRule c.crates)) : RuleOf c.crates q.db r := by
  obtain ⟨row, hrow, hbuild⟩ := List.mem_filterMap.mp hr
  obtain ⟨order, hrows⟩ := h
  refine ⟨row, ?_, hbuild⟩
  rwa [(Db.fetchAlertRows_ok hrows).1.mem_iff] at hrow

/-- What a refresh reads if its query answers. -/
theorem fetchAlertRows_of_answer {rows : List AlertRow}
    (h : some rows = none ∨ ∃ order, some rows = (p.db.fetchAlertRows order).toOption) :
    ∃ order, p.db.fetchAlertRows order = .ok rows := by
  rcases h with hnone | ⟨order, hsome⟩
  · cases hnone
  · exact ⟨order, ok_of_toOption hsome.symm⟩

theorem Watched.later (h : Watched c d ls p update previous r) (hs : Step c p l p')
    (hrec : ∃ us, p'.feed.received = p.feed.received ++ us) :
    Watched c d (ls ++ [l]) p' update previous r := by
  obtain ⟨us, hus⟩ := hrec
  obtain ⟨before, after, heq, hprev⟩ := h.received
  refine ⟨h.rule.snoc hs, h.token, before, after ++ us, ?_, hprev⟩
  rw [hus, heq, List.append_assoc, List.cons_append]

theorem Grounds.later (h : Grounds c d ls p update previous r message) (hs : Step c p l p')
    (hrec : ∃ us, p'.feed.received = p.feed.received ++ us) :
    Grounds c d (ls ++ [l]) p' update previous r message :=
  ⟨h.toWatched.later hs hrec, h.evaluates, h.format⟩

theorem PcGrounds.later {pc : EnginePc} (h : PcGrounds c d ls p pc) (hs : Step c p l p')
    (hrec : ∃ us, p'.feed.received = p.feed.received ++ us) : PcGrounds c d (ls ++ [l]) p' pc := by
  cases pc with
  | rules t => exact fun r hr => (h r hr).later hs hrec
  | sending t r message => exact ⟨h.1.later hs hrec, fun r' hr' => (h.2 r' hr').later hs hrec⟩
  | persisting t r message slot =>
    exact ⟨h.1.later hs hrec, fun r' hr' => (h.2 r' hr').later hs hrec⟩
  | _ => trivial

theorem grounded_start (c : Setup) (d : Db) : Grounded c d [] (start c d) where
  cached tokenId r hr := by cases hr
  read rows h := by cases h
  prices _ := rfl
  pc := trivial
  fired f hf := by cases hf

/-- A step that leaves the engine's copies as they are. -/
theorem Grounded.keep (h : Grounded c d ls p) (hs : Step c p l p')
    (hcache : p'.core.engine.ruleCache = p.core.engine.ruleCache)
    (hprices : p'.core.engine.prevPrices = p.core.engine.prevPrices)
    (hfeed : p'.feed.received = p.feed.received)
    (hread : ∀ rows, p'.phase = .refreshing (some rows) →
      Visits (Step c) (start c d) (ls ++ [l]) p' fun q =>
      ∃ order, q.db.fetchAlertRows order = .ok rows)
    (hpc : PcGrounds c d (ls ++ [l]) p' p'.core.pc)
    (hfired : ∀ f ∈ p'.core.fired.map Prod.fst, f ∈ p.core.fired.map Prod.fst ∨
      ∃ update previous r message, Grounds c d (ls ++ [l]) p' update previous r message ∧
        f.request = notificationOf r message ∧ f.alertId = r.alertId) :
    Grounded c d (ls ++ [l]) p' where
  cached tokenId r hr := by
    have hrules : p'.core.engine.rulesOf tokenId = p.core.engine.rulesOf tokenId := by
      rw [AlertEngine.rulesOf, AlertEngine.rulesOf, hcache]
    rw [hrules] at hr
    obtain ⟨htoken, hrule⟩ := h.cached tokenId r hr
    exact ⟨htoken, hrule.snoc hs⟩
  read := hread
  prices tokenId := by rw [hprices, hfeed, h.prices]
  pc := hpc
  fired f hf := by
    rcases hfired f hf with hold | hnew
    · obtain ⟨u, previous, r, message, hg, hrest⟩ := h.fired f hold
      exact ⟨u, previous, r, message, hg.later hs ⟨[], by rw [hfeed, List.append_nil]⟩, hrest⟩
    · exact hnew

theorem Grounded.other (h : Grounded c d ls p) (hs : Step c p l p')
    (hengine : p'.core.engine = p.core.engine) (hpc : p'.core.pc = p.core.pc)
    (hfired : p'.core.fired = p.core.fired) (hphase : p'.phase = p.phase)
    (hfeed : p'.feed.received = p.feed.received) : Grounded c d (ls ++ [l]) p' := by
  refine h.keep hs (by rw [hengine]) (by rw [hengine]) hfeed ?_ ?_ ?_
  · intro rows hrows
    rw [hphase] at hrows
    exact (h.read rows hrows).snoc hs
  · rw [hpc]
    exact h.pc.later hs ⟨[], by rw [hfeed, List.append_nil]⟩
  · intro f hf
    rw [hfired] at hf
    exact .inl hf

theorem Grounded.engine (h : Grounded c d ls p) {e : Shutdown.EngineLabel} {s : Shutdown.State}
    (hs : Step c p l { p with core := s }) (hfree : p.phase = .free) (hne : ∀ u env, e ≠ .tick u env)
    (hmove : EngineMove c.crates c.alert p.core e s) :
    Grounded c d (ls ++ [l]) { p with core := s } := by
  have hread : ∀ rows, p.phase = .refreshing (some rows) →
      Visits (Step c) (start c d) (ls ++ [l]) { p with core := s } fun q =>
        ∃ order, q.db.fetchAlertRows order = .ok rows := by
    intro rows hrows
    rw [hfree] at hrows
    cases hrows
  have hrec : ∃ us, p.feed.received = p.feed.received ++ us := ⟨[], (List.append_nil _).symm⟩
  have hpcs := h.pc
  cases hmove with
  | cancels hpc => exact h.keep hs rfl rfl rfl hread trivial fun f hf => .inl hf
  | ticks => exact absurd rfl (hne _ _)
  | lags => exact h.keep hs rfl rfl rfl hread (hpcs.later hs hrec) fun f hf => .inl hf
  | finishes hpc => exact h.keep hs rfl rfl rfl hread trivial fun f hf => .inl hf
  -- the rules that are left keep their grounds, one update later
  | skips hpc =>
    rw [hpc] at hpcs
    refine h.keep hs rfl rfl rfl hread (fun r' hr' => ?_) fun f hf => .inl hf
    exact (hpcs r' (List.mem_cons_of_mem _ hr')).later hs hrec
  | panics hpc => exact h.keep hs rfl rfl rfl hread trivial fun f hf => .inl hf
  | @composes t r message hpc hmay hformat =>
    rw [hpc] at hpcs
    refine h.keep hs rfl rfl rfl hread ⟨?_, fun r' hr' => ?_⟩ fun f hf => .inl hf
    · have heval := (Bool.and_eq_true_iff.mp hmay).1
      exact ⟨(hpcs r (List.mem_cons_self ..)).later hs hrec, heval, hformat⟩
    · exact (hpcs r' (List.mem_cons_of_mem _ hr')).later hs hrec
  | @sends t r message channel hpc hpush =>
    rw [hpc] at hpcs
    refine h.keep hs rfl rfl rfl hread ⟨hpcs.1.later hs hrec, fun r' hr' => ?_⟩
      fun f hf => .inl hf
    exact (hpcs.2 r' hr').later hs hrec
  | @fails t r message hpc hclosed =>
    rw [hpc] at hpcs
    refine h.keep hs rfl rfl rfl hread ⟨hpcs.1.later hs hrec, fun r' hr' => ?_⟩
      fun f hf => .inl hf
    exact (hpcs.2 r' hr').later hs hrec
  -- the pending rule becomes a firing, and brings its grounds along
  | @persists t r message slot hpc =>
    rw [hpc] at hpcs
    refine h.keep hs rfl rfl rfl hread (fun r' hr' => (hpcs.2 r' hr').later hs hrec) fun f hf => ?_
    simp only [List.map_append, List.mem_append, List.map_cons, List.map_nil,
      List.mem_singleton] at hf
    rcases hf with hf | rfl
    · exact .inl hf
    · exact .inr ⟨t.update, t.previous, r, message, hpcs.1.later hs hrec, rfl, rfl⟩

/-- **Every step keeps the grounds.** -/
theorem Grounded.step (h : Grounded c d ls p) (hrun : Runs c d ls p) (hs : Step c p l p') :
    Grounded c d (ls ++ [l]) p' := by
  have hs' := hs
  cases hs with
  | cancel => exact h.other hs' rfl rfl rfl rfl rfl
  | monitor => exact h.other hs' rfl rfl rfl rfl rfl
  -- the price before is looked up before the new one is stored, so it is the last of the prefix
  | @tick update env feed s hfree hrecv hstep =>
    obtain ⟨hsent, hreceived, _, _⟩ := Lib.Broadcast.recv_eq_some hrecv
    have hmove := engineStep_cases (.inr (.inr ⟨_, _, rfl⟩)) hstep
    have hrec : ∃ us, feed.received = p.feed.received ++ us := ⟨[update], hreceived⟩
    cases hmove with
    | ticks hpc =>
      refine ⟨fun tokenId r hr => ?_, fun rows hrows => ?_, fun tokenId => ?_, fun r hr => ?_,
        fun f hf => ?_⟩
      · obtain ⟨htoken, hrule⟩ := h.cached tokenId r hr
        exact ⟨htoken, hrule.snoc hs'⟩
      · have hphase : p.phase = .refreshing (some rows) := hrows
        rw [hfree] at hphase
        cases hphase
      · dsimp only
        rw [hreceived]
        by_cases htoken : update.tokenId = tokenId
        · rw [← htoken, Finmap.lookup_insert, lastPrice_snoc_self]
        · rw [Finmap.lookup_insert_of_ne _ (Ne.symm htoken), h.prices,
            lastPrice_snoc_ne _ htoken]
      · obtain ⟨htoken, hrule⟩ := h.cached update.tokenId r hr
        exact ⟨hrule.snoc hs', htoken, p.feed.received, [], hreceived, h.prices _⟩
      · obtain ⟨u, previous, r, message, hg, hrest⟩ := h.fired f hf
        exact ⟨u, previous, r, message, hg.later hs' hrec, hrest⟩
  | @lagged n feed s hfree hlag hstep =>
    obtain ⟨_, hreceived, _, _⟩ := Lib.Broadcast.lag_eq_some hlag
    cases engineStep_cases (.inr (.inl rfl)) hstep with
    | lags => exact h.other hs' rfl rfl rfl rfl hreceived
  | @engine e s hfree halone hstep =>
    refine h.engine hs' hfree (fun u env heq => ?_) (engineStep_cases (.inl halone) hstep)
    rw [heq] at halone
    exact halone.elim
  | @readAlerts rows hturn hanswer =>
    refine h.keep hs' rfl rfl rfl ?_ (h.pc.later hs' ⟨[], (List.append_nil _).symm⟩)
      fun f hf => .inl hf
    intro rows' hrows
    cases hrows
    exact (Visits.last hrun (fetchAlertRows_of_answer hanswer)).snoc hs'
  | @readConditions rows conditions hphase hanswer =>
    have hread : ∀ rows', (EngineWalk.free : EngineWalk) = .refreshing (some rows') → False := by
      intro rows' hrows
      cases hrows
    cases rows with
    | none =>
      refine h.keep hs' rfl rfl rfl (fun rows' hrows => (hread rows' hrows).elim) trivial
        fun f hf => .inl hf
    -- the new cache is the rows read at the first query, and that state is one of the run
    | some rows =>
      have hvisit := (h.read rows hphase).snoc hs'
      have hprices : (p.core.engine.refreshCache c.crates (some rows) conditions).prevPrices
          = p.core.engine.prevPrices := by
        cases conditions <;> rfl
      refine ⟨fun tokenId r hr => ?_, fun rows' hrows => (hread rows' hrows).elim,
        fun tokenId => ?_, trivial, fun f hf => ?_⟩
      · have hrules : r ∈ (rows.filterMap (buildRule c.crates)).filter fun r =>
            r.tokenId == tokenId := by
          rw [← AlertEngine.rulesOf_refreshCache c.crates rows conditions p.core.engine tokenId]
          exact hr
        obtain ⟨hmem, htoken⟩ := List.mem_filter.mp hrules
        exact ⟨beq_iff_eq.mp htoken, hvisit.imp fun q hq => ruleOf_fetched hq hmem⟩
      · dsimp only
        rw [hprices, h.prices]
      · obtain ⟨u, previous, r, message, hg, hrest⟩ := h.fired f hf
        exact ⟨u, previous, r, message, hg.later hs' ⟨[], (List.append_nil _).symm⟩, hrest⟩
  | @beginFlush env hturn =>
    refine h.keep hs' rfl rfl rfl (fun rows hrows => ?_)
      (h.pc.later hs' ⟨[], (List.append_nil _).symm⟩) fun f hf => .inl hf
    cases hrows
  | writePrices hphase =>
    refine h.keep hs' rfl rfl rfl (fun rows hrows => ?_)
      (h.pc.later hs' ⟨[], (List.append_nil _).symm⟩) fun f hf => .inl hf
    cases hrows
  | endFlush hphase =>
    refine h.keep hs' rfl rfl rfl (fun rows hrows => ?_) ?_ fun f hf => .inl hf
    · cases hrows
    · have hpcs := h.pc.later hs' ⟨[], (List.append_nil _).symm⟩
      dsimp only
      cases hpc : p.core.pc with
      | flushing => trivial
      | _ =>
        rw [hpc] at hpcs
        exact hpcs
  | @service v s hstep =>
    obtain ⟨hengine, hpc, hfired⟩ := service_engine hstep
    exact h.other hs' hengine hpc hfired rfl rfl
  | summarize => exact h.other hs' rfl rfl rfl rfl rfl
  | sendSummary => exact h.other hs' rfl rfl rfl rfl rfl
  | refuseSummary => exact h.other hs' rfl rfl rfl rfl rfl
  | schedulerReturns => exact h.other hs' rfl rfl rfl rfl rfl
  | bot => exact h.other hs' rfl rfl rfl rfl rfl
  | request => exact h.other hs' rfl rfl rfl rfl rfl
  | admin => exact h.other hs' rfl rfl rfl rfl rfl

theorem grounded_of_run (hrun : Runs c d ls p) : Grounded c d ls p := by
  induction hrun with
  | nil => exact grounded_start c d
  | snoc hrun hs ih => exact ih.step hrun hs

/-- **Every alert that fires has its grounds.** Whatever has happened to the database since, there
    was a rule for it in the database at some point of the run; the engine has ticked on an update
    of the token of the rule, which quotes a frame of the run; the rule holds for its price and
    the price of the last tick of the token before it; and the message is about these. -/
theorem alerts_justified (hrun : Runs c d ls p) :
    ∀ f ∈ p.core.fired.map Prod.fst, ∃ r update before after message,
      Visits (Step c) (start c d) ls p (fun q => RuleOf c.crates q.db r) ∧
      ls.filterMap ProcessLabel.ticked = before ++ update :: after ∧
      update.QuotedIn c.crates ls ∧ update.tokenId = r.tokenId ∧
      r.evaluate update.price (lastPrice before r.tokenId) = true ∧
      formatNotification c.crates r update.price update = some message ∧
      f.request = notificationOf r message ∧ f.alertId = r.alertId := by
  intro f hf
  have hfed := fed_of_run hrun
  obtain ⟨update, previous, r, message, hg, hrequest, hid⟩ := (grounded_of_run hrun).fired f hf
  obtain ⟨before, after, hreceived, hprevious⟩ := hg.received
  have hmem : update ∈ p.feed.sent := by
    refine (p.feed.sublist.trans (List.take_sublist _ _)).subset ?_
    rw [hreceived]
    exact List.mem_append_right _ (List.mem_cons_self ..)
  refine ⟨r, update, before, after, message, hg.rule, ?_, hfed.quoted update hmem, hg.token.symm,
    ?_, hg.format, hrequest, hid⟩
  · rw [← hfed.ticked, hreceived]
  · rw [hg.token, ← hprevious]
    exact hg.evaluates

/-- The alert of the sample. -/
theorem alerts_justified_alarm : ∃ ls p, Runs sampleSetup Db.sampleDb ls p ∧
    ∃ f ∈ p.core.fired.map Prod.fst, f.alertId = 1 ∧ ∃ r update before after message,
      Visits (Step sampleSetup) (start sampleSetup Db.sampleDb) ls p
        (fun q => RuleOf alarmCrates q.db r) ∧
      ls.filterMap ProcessLabel.ticked = before ++ update :: after ∧
      update.QuotedIn alarmCrates ls ∧ update.tokenId = r.tokenId ∧
      r.evaluate update.price (lastPrice before r.tokenId) = true ∧
      formatNotification alarmCrates r update.price update = some message ∧
      f.request = notificationOf r message ∧ f.alertId = r.alertId := by
  obtain ⟨ls, p, hrun, houtcome⟩ := alarm_run
  have hfired : p.core.fired.map (fun f => (f.1.alertId, f.2)) = [(1, some 0)] :=
    congrArg Prod.fst houtcome
  have hmem : (1, some 0) ∈ p.core.fired.map fun f => (f.1.alertId, f.2) := by
    rw [hfired]
    exact List.mem_singleton_self _
  obtain ⟨f, hf, heq⟩ := List.mem_map.mp hmem
  have hmem' : f.1 ∈ p.core.fired.map Prod.fst := List.mem_map_of_mem hf
  exact ⟨ls, p, hrun, f.1, hmem', congrArg Prod.fst heq, alerts_justified hrun f.1 hmem'⟩

end

end Process

end PolyNotifier
