import PolyNotifier.Alert.Ticking
import PolyNotifier.Main.Panic

/-!
# The process fires exactly what is due

The watch of `Alert.Watch` is told of refreshes and ticks, one after another, and answers at once.
In the process they take time: the rows of a refresh are read before its end, a tick marks, sends
and persists rule by rule, and users, administrators, the monitor and the service come in between.
`events` is what the watch is told of a run. Whenever the engine is at rest, what it has fired
over the run is what the watch fires on these events.
-/

namespace PolyNotifier

open Lib (Steps Visits)
open AlertEngine (buildRule mayFire Firing firingOf notificationOf)

/-- The update of a tick. -/
def EngineEvent.update : EngineEvent → Option PriceUpdate
  | .tick update _ => some update
  | _ => none

/-- The engine is not in the middle of a tick, and has not panicked. -/
def Shutdown.EnginePc.AtRest : Shutdown.EnginePc → Prop
  | .rules _ => False
  | .sending .. => False
  | .persisting .. => False
  | .panicked => False
  | _ => True

instance : DecidablePred Shutdown.EnginePc.AtRest
  | .starting => isTrue trivial
  | .select => isTrue trivial
  | .flushing => isTrue trivial
  | .returned => isTrue trivial
  | .rules _ => isFalse id
  | .sending .. => isFalse id
  | .persisting .. => isFalse id
  | .panicked => isFalse id

namespace Process

open Shutdown (EnginePc Tick)

/-! ## What the watch is told -/

/-- The rows of the refresh that is under way, and the events that are over. A refresh of the
    process takes two steps, and one of the watch is one event: it counts from the second on, with
    the rows of the first. -/
structure Scan where
  rows : Option (List AlertRow)
  events : List EngineEvent

/-- The events of the watch, read off the labels of a run. A refresh is two labels with other tasks
    in between, so the rows of the first are kept until the second comes. -/
def Scan.next (s : Scan) : ProcessLabel → Scan
  | .readAlerts rows => { s with rows }
  | .readConditions conditions =>
      { s with
        events := s.events ++
          [match s.rows with
            | some rows => .refresh rows conditions
            | none => .refreshFailed] }
  | .tick update env => { s with events := s.events ++ [.tick update env] }
  | _ => s

def scan (ls : List ProcessLabel) : Scan := ls.foldl Scan.next ⟨none, []⟩

def events (ls : List ProcessLabel) : List EngineEvent := (scan ls).events

theorem scan_snoc (ls : List ProcessLabel) (l : ProcessLabel) :
    scan (ls ++ [l]) = (scan ls).next l := by
  unfold scan
  rw [List.foldl_append]
  rfl

/-- The watch ticks when the engine does. -/
theorem filterMap_events (ls : List ProcessLabel) :
    (events ls).filterMap EngineEvent.update = ls.filterMap ProcessLabel.ticked := by
  induction ls using List.reverseRecOn with
  | nil => rfl
  | append_singleton ls l ih =>
    have hscan : (events (ls ++ [l])).filterMap EngineEvent.update =
        (events ls).filterMap EngineEvent.update ++ l.ticked.toList := by
      rw [events, scan_snoc]
      cases l with
      | tick update env => exact List.filterMap_append
      | readConditions conditions =>
        refine List.filterMap_append.trans (congrArg _ ?_)
        cases (scan ls).rows <;> rfl
      | _ => exact (List.append_nil _).symm
    rw [hscan, ih, List.filterMap_append]
    cases hl : l.ticked with
    | none => rw [List.filterMap_cons_none hl, List.filterMap_nil, Option.toList_none]
    | some update => rw [List.filterMap_cons_some hl, List.filterMap_nil, Option.toList_some]

/-! ## The engine and the watch -/

section

variable (x : Crates) (cfg : EngineConfig)

/-- The last event is a tick, and the engine is in the middle of it. The watch has already made its
    step, so it is the watch before it that the rest of the tick is compared with. -/
def InTick (es : List EngineEvent) (t : Tick) (e : AlertEngine) (fired : List Firing) : Prop :=
  ∃ es₀ old e₀ done, es = es₀ ++ [.tick t.update t.env] ∧ Watch.Fires x cfg es₀ old ∧
    t.previous = e₀.prevPrices.lookup t.update.tokenId ∧
    Ticking x cfg (Watch.after x cfg es₀) e₀ old t.update t.env done t.rest e fired

/-- What the engine has fired and what it knows, where it is. A rule whose message is on its way
    counts as fired: it is marked, and no longer among the rules that are left, although the firing
    is not in the list before it is written. -/
def PcMirrors (es : List EngineEvent) (e : AlertEngine) (fired : List Firing) : EnginePc → Prop
  | .rules t => InTick x cfg es t e fired
  | .sending t r _ => ∀ f : Firing, f.About t.env r → InTick x cfg es t e (fired ++ [f])
  | .persisting t r _ _ => ∀ f : Firing, f.About t.env r → InTick x cfg es t e (fired ++ [f])
  | .panicked => True
  | _ => Watch.Represents (x := x) e (Watch.after x cfg es) ∧ Watch.Fires x cfg es fired

variable {x cfg} {es : List EngineEvent} {e : AlertEngine} {fired : List Firing} {pc : EnginePc}
  {t : Tick} {r : AlertRule}

theorem PcMirrors.rest (h : PcMirrors x cfg es e fired pc) (hrest : pc.AtRest) :
    Watch.Represents (x := x) e (Watch.after x cfg es) ∧ Watch.Fires x cfg es fired := by
  cases pc with
  | rules => exact hrest.elim
  | sending => exact hrest.elim
  | persisting => exact hrest.elim
  | panicked => exact hrest.elim
  | _ => exact h

theorem after_snoc (es : List EngineEvent) (ev : EngineEvent) :
    Watch.after x cfg (es ++ [ev]) = Watch.step x cfg (Watch.after x cfg es) ev := by
  unfold Watch.after
  rw [List.foldl_append]
  rfl

theorem inTick_begin {update : PriceUpdate} {env : AlertEngine.TickEnv}
    (hrep : Watch.Represents (x := x) e (Watch.after x cfg es)) (hfires : Watch.Fires x cfg es fired) :
    InTick x cfg (es ++ [.tick update env])
      ⟨update, e.prevPrices.lookup update.tokenId, env, e.rulesOf update.tokenId⟩
      { e with prevPrices := e.prevPrices.insert update.tokenId update.price } fired :=
  ⟨es, fired, e, [], rfl, hfires, rfl, .begin hrep⟩

theorem InTick.skip (h : InTick x cfg es { t with rest := r :: t.rest } e fired)
    (hmay : ¬ mayFire cfg t.env t.update t.previous e.dedup r = true) :
    InTick x cfg es t e fired := by
  obtain ⟨es₀, old, e₀, done, hes, hfires, hprevious, hticking⟩ := h
  rw [hprevious] at hmay
  exact ⟨es₀, old, e₀, done ++ [r], hes, hfires, hprevious, hticking.skip hmay⟩

theorem InTick.fire (h : InTick x cfg es { t with rest := r :: t.rest } e fired)
    (hmay : mayFire cfg t.env t.update t.previous e.dedup r = true) {f : Firing}
    (hf : f.About t.env r) :
    InTick x cfg es t { e with dedup := e.dedup.markFired (t.env.mark r.alertId) r.alertId }
      (fired ++ [f]) := by
  obtain ⟨es₀, old, e₀, done, hes, hfires, hprevious, hticking⟩ := h
  rw [hprevious] at hmay
  exact ⟨es₀, old, e₀, done ++ [r], hes, hfires, hprevious, hticking.fire hmay hf⟩

theorem InTick.finish (h : InTick x cfg es { t with rest := [] } e fired) :
    Watch.Represents (x := x) e (Watch.after x cfg es) ∧ Watch.Fires x cfg es fired := by
  obtain ⟨es₀, old, e₀, done, rfl, hfires, _, hticking⟩ := h
  obtain ⟨hrep, now, rfl, hanswers⟩ := hticking.finish
  rw [after_snoc]
  exact ⟨hrep, .tick hfires hanswers⟩

end

/-! ## The process -/

/-- **What every run keeps.** The first two clauses keep the two kinds of work of the engine apart:
    it is either walking over the database or in a tick, never both. -/
structure Mirrors (c : Setup) (d : Db) (ls : List ProcessLabel) (p : Process) : Prop where
  read : ∀ rows, p.phase = .refreshing rows → (scan ls).rows = rows
  walk : p.phase ≠ .free → p.core.pc.AtRest
  visited : ∀ rows conditions, .refresh rows conditions ∈ events ls →
    Visits (Step c) (start c d) ls p fun q => ∃ order, q.db.fetchAlertRows order = .ok rows
  pc : PcMirrors c.crates c.alert (events ls) p.core.engine (p.core.fired.map Prod.fst) p.core.pc

variable {c : Setup} {d : Db} {ls : List ProcessLabel} {l : ProcessLabel} {p p' : Process}

theorem mirrors_start (c : Setup) (d : Db) : Mirrors c d [] (start c d) where
  read rows h := by cases h
  walk h := absurd rfl h
  visited rows conditions h := by cases h
  pc := ⟨Watch.represents_start, .start⟩

theorem Mirrors.keep (h : Mirrors c d ls p) (hs : Step c p l p') (hl : (scan ls).next l = scan ls)
    (hread : ∀ rows, p'.phase = .refreshing rows → p.phase = .refreshing rows)
    (hwalk : p'.phase ≠ .free → p'.core.pc.AtRest)
    (hpc : PcMirrors c.crates c.alert (events ls) p'.core.engine (p'.core.fired.map Prod.fst)
      p'.core.pc) : Mirrors c d (ls ++ [l]) p' := by
  have hevents : events (ls ++ [l]) = events ls := by rw [events, scan_snoc, hl, events]
  refine ⟨fun rows hrows => ?_, hwalk, fun rows conditions hmem => ?_, ?_⟩
  · rw [scan_snoc, hl]
    exact h.read rows (hread rows hrows)
  · rw [hevents] at hmem
    exact (h.visited rows conditions hmem).snoc hs
  · rw [hevents]
    exact hpc

theorem Mirrors.other (h : Mirrors c d ls p) (hs : Step c p l p')
    (hl : (scan ls).next l = scan ls) (hengine : p'.core.engine = p.core.engine)
    (hpc : p'.core.pc = p.core.pc) (hfired : p'.core.fired = p.core.fired)
    (hphase : p'.phase = p.phase) : Mirrors c d (ls ++ [l]) p' := by
  refine h.keep hs hl (fun rows hrows => ?_) (fun hwalk => ?_) ?_
  · rw [← hphase]
    exact hrows
  · rw [hphase] at hwalk
    rw [hpc]
    exact h.walk hwalk
  · rw [hengine, hfired, hpc]
    exact h.pc

theorem Mirrors.engine (h : Mirrors c d ls p) {e : Shutdown.EngineLabel} {s : Shutdown.State}
    (hs : Step c p l { p with core := s }) (hl : (scan ls).next l = scan ls)
    (hfree : p.phase = .free) (hne : ∀ u env, e ≠ .tick u env)
    (hmove : EngineMove c.crates c.alert p.core e s) :
    Mirrors c d (ls ++ [l]) { p with core := s } := by
  have hmirrors := h.pc
  refine h.keep hs hl (fun _ hrows => hrows) (fun hwalk => absurd hfree hwalk) ?_
  cases hmove with
  | cancels hpc =>
    rw [hpc] at hmirrors
    exact hmirrors
  | ticks => exact absurd rfl (hne _ _)
  | lags => exact hmirrors
  | finishes hpc =>
    rw [hpc] at hmirrors
    exact InTick.finish hmirrors
  | skips hpc hmay =>
    rw [hpc] at hmirrors
    exact InTick.skip hmirrors hmay
  | panics => trivial
  | composes hpc hmay =>
    rw [hpc] at hmirrors
    exact fun f hf => InTick.fire hmirrors hmay hf
  | sends hpc =>
    rw [hpc] at hmirrors
    exact hmirrors
  | fails hpc =>
    rw [hpc] at hmirrors
    exact hmirrors
  | @persists t r message slot hpc =>
    rw [hpc] at hmirrors
    dsimp only
    rw [List.map_append, List.map_singleton]
    -- whether the channel took the request is not what a firing is about
    have habout : (firingOf c.alert { t.env with sendOk := fun _ => slot.isSome } r
        message).About t.env r := ⟨rfl, rfl, rfl, rfl⟩
    exact hmirrors _ habout

/-- The rows of a database with good alerts are what the watch may be told of. -/
theorem admissible_of_visits (hx : c.crates.UnitRange) (hgood : d.GoodAlerts)
    {rows : List AlertRow} (conditions : Option (List ConditionRow))
    (h : Visits (Step c) (start c d) ls p fun q => ∃ order, q.db.fetchAlertRows order = .ok rows) :
    Watch.Admissible c.crates (.refresh rows conditions) := by
  obtain ⟨_, _, q, _, hrun, _, order, hrows⟩ := h
  refine ⟨Db.fetchAlertRows_nodup hrows, fun row hrow _ => ?_⟩
  rw [(Db.fetchAlertRows_ok hrows).1.mem_iff] at hrow
  exact fits_of_goodAlerts hx (goodAlerts_of_run hgood hrun) row hrow

theorem Mirrors.step (h : Mirrors c d ls p) (hx : c.crates.UnitRange) (hgood : d.GoodAlerts)
    (hrun : Runs c d ls p) (hs : Step c p l p') : Mirrors c d (ls ++ [l]) p' := by
  have hs' := hs
  cases hs with
  -- the watch makes its whole step here; the engine has only begun its own
  | @tick update env feed s hfree hrecv hstep =>
    have hmove := engineStep_cases (.inr (.inr ⟨_, _, rfl⟩)) hstep
    cases hmove with
    | ticks hpc =>
      have hmirrors := h.pc
      rw [hpc] at hmirrors
      have hevents : events (ls ++ [.tick update env]) = events ls ++ [.tick update env] := by
        rw [events, scan_snoc]
        rfl
      refine ⟨fun rows hrows => ?_, fun hwalk => absurd hfree hwalk, fun rows conditions hmem => ?_,
        ?_⟩
      · have hphase : p.phase = .refreshing rows := hrows
        rw [hfree] at hphase
        cases hphase
      · rw [hevents, List.mem_append, List.mem_singleton] at hmem
        rcases hmem with hmem | heq
        · exact (h.visited rows conditions hmem).snoc hs'
        · cases heq
      · rw [hevents]
        exact inTick_begin hmirrors.1 hmirrors.2
  | lagged hfree hlag hstep =>
    cases engineStep_cases (.inr (.inl rfl)) hstep with
    | lags => exact h.other hs' rfl rfl rfl rfl rfl
  | @engine e s hfree halone hstep =>
    refine h.engine hs' rfl hfree (fun u env heq => ?_) (engineStep_cases (.inl halone) hstep)
    rw [heq] at halone
    exact halone.elim
  -- the first query is no event yet: the watch refreshes at the second, with these rows
  | @readAlerts rows hturn =>
    have hevents : events (ls ++ [.readAlerts rows]) = events ls := by
      rw [events, scan_snoc]
      rfl
    refine ⟨fun rows' hrows => ?_, fun _ => ?_, fun rows' conditions hmem => ?_, ?_⟩
    · cases hrows
      rw [scan_snoc]
      rfl
    · rcases hturn with ⟨_, hpc⟩ | ⟨_, hpc, _⟩
      · rw [hpc]
        trivial
      · rw [hpc]
        trivial
    · rw [hevents] at hmem
      exact (h.visited rows' conditions hmem).snoc hs'
    · rw [hevents]
      exact h.pc
  | @readConditions rows conditions hphase =>
    have hrows := h.read rows hphase
    obtain ⟨hrep, hfires⟩ := h.pc.rest (h.walk (by rw [hphase]; exact nofun))
    cases rows with
    -- the first query failed: the cache stays and so does the watch
    | none =>
      have hevents : events (ls ++ [.readConditions conditions]) = events ls ++ [.refreshFailed] := by
        rw [events, scan_snoc, Scan.next, hrows, events]
      refine ⟨nofun, fun hwalk => absurd rfl hwalk, fun rows' conditions' hmem => ?_, ?_⟩
      · rw [hevents, List.mem_append, List.mem_singleton] at hmem
        rcases hmem with hmem | heq
        · exact (h.visited rows' conditions' hmem).snoc hs'
        · cases heq
      · rw [hevents]
        refine ⟨?_, .quiet hfires nofun⟩
        rw [after_snoc]
        exact hrep
    | some rows =>
      have hevents : events (ls ++ [.readConditions conditions]) =
          events ls ++ [.refresh rows conditions] := by
        rw [events, scan_snoc, Scan.next, hrows, events]
      have hread := (grounded_of_run hrun).read rows hphase
      refine ⟨nofun, fun hwalk => absurd rfl hwalk, fun rows' conditions' hmem => ?_, ?_⟩
      · rw [hevents, List.mem_append, List.mem_singleton] at hmem
        rcases hmem with hmem | heq
        · exact (h.visited rows' conditions' hmem).snoc hs'
        · cases heq
          exact hread.snoc hs'
      · rw [hevents]
        refine ⟨?_, .quiet hfires nofun⟩
        rw [after_snoc]
        exact Watch.represents_refresh hrep (admissible_of_visits hx hgood conditions hread)
  | @beginFlush env hturn =>
    refine h.keep hs' rfl nofun (fun _ => ?_) h.pc
    rcases hturn with ⟨_, hpc⟩ | ⟨_, hpc, _⟩
    · rw [hpc]
      trivial
    · rw [hpc]
      trivial
  | writePrices hphase =>
    exact h.keep hs' rfl nofun (fun _ => h.walk (by rw [hphase]; exact nofun)) h.pc
  -- after the last flush the engine is gone, before it the walk returns to the select!
  | endFlush hphase =>
    have hrest := h.walk (by rw [hphase]; exact nofun)
    refine h.keep hs' rfl nofun (fun hwalk => absurd rfl hwalk) ?_
    have hmirrors := h.pc.rest hrest
    dsimp only
    cases hpc : p.core.pc with
    | flushing => exact hmirrors
    | _ =>
      have hkept := h.pc
      rw [hpc] at hkept
      exact hkept
  | service hstep =>
    obtain ⟨hengine, hpc, hfired⟩ := service_engine hstep
    exact h.other hs' rfl hengine hpc hfired rfl
  | _ => exact h.other hs' rfl rfl rfl rfl rfl

theorem mirrors_of_run (hx : c.crates.UnitRange) (hgood : d.GoodAlerts) (hrun : Runs c d ls p) :
    Mirrors c d ls p := by
  induction hrun with
  | nil => exact mirrors_start c d
  | snoc hrun hs ih => exact ih.step hx hgood hrun hs

/-- **The process fires exactly what is due.** In every run that leaves the engine at rest, what it
    has fired is what the watch fires, tick by tick, on the updates the engine has received and the
    rows it has read: each alert that is due, once, for the user of its row, and no other. -/
theorem fires_what_is_due (hx : c.crates.UnitRange) (hgood : d.GoodAlerts) (hrun : Runs c d ls p)
    (hrest : p.core.pc.AtRest) :
    Watch.Fires c.crates c.alert (events ls) (p.core.fired.map Prod.fst) ∧
    (events ls).filterMap EngineEvent.update = p.feed.received ∧
    ∀ rows conditions, .refresh rows conditions ∈ events ls →
      Visits (Step c) (start c d) ls p fun q => ∃ order, q.db.fetchAlertRows order = .ok rows := by
  have h := mirrors_of_run hx hgood hrun
  refine ⟨(h.pc.rest hrest).2, ?_, h.visited⟩
  rw [filterMap_events, (fed_of_run hrun).ticked]

/-- The sample, at the end of its tick. -/
theorem fires_what_is_due_alarm : ∃ ls p, Runs sampleSetup Db.sampleDb ls p ∧
    p.core.pc.AtRest ∧ p.outcome = ([(1, some 0)], [(some 1, true)], 1) ∧
    Watch.Fires alarmCrates ⟨60⟩ (events ls) (p.core.fired.map Prod.fst) ∧
    (events ls).filterMap EngineEvent.update = p.feed.received ∧
    ∀ rows conditions, .refresh rows conditions ∈ events ls →
      Visits (Step sampleSetup) (start sampleSetup Db.sampleDb) ls p
        fun q => ∃ order, q.db.fetchAlertRows order = .ok rows := by
  have hcheck : ((play sampleSetup (alarmSchedule ++ [.engine .tryRule])
      (.start sampleSetup Db.sampleDb)).filter fun p => decide p.core.pc.AtRest).map
        Process.outcome = some ([(1, some 0)], [(some 1, true)], 1) := by decide +kernel
  obtain ⟨p, hp, houtcome⟩ := Option.map_eq_some_iff.mp hcheck
  obtain ⟨hp, hrest⟩ := Option.filter_eq_some_iff.mp hp
  obtain ⟨ls, hrun⟩ := play_run hp
  have hrest := of_decide_eq_true hrest
  exact ⟨ls, p, hrun, hrest, houtcome,
    fires_what_is_due Crates.reference_unitRange goodAlerts_sampleDb hrun hrest⟩

end Process

end PolyNotifier
