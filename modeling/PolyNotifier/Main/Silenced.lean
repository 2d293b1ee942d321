import PolyNotifier.Main.Justified

/-!
# A deleted alert is silent

Whoever unsubscribes deletes the alerts of the subscription, and the engine does not hear of it:
its rules are those of the last refresh, so an alert can fire after it was deleted. It cannot after
the next refresh. An id that is spent stays spent, so no row the refresh reads has it, no rule the
engine keeps from then on has it, and no later refresh brings it back.
-/

namespace PolyNotifier

open Lib (Steps Table)
open AlertEngine (buildRule)

namespace Process

open Shutdown (EnginePc)

/-- The engine is not at work on an alert, and the rest of its tick is not about it. A tick that
    began before the alert was deleted may still fire it; this is the point from which it does not.
    -/
def PcSilent (id : Int) : EnginePc → Prop
  | .rules t => ∀ r ∈ t.rest, r.alertId ≠ id
  | .sending t r _ => r.alertId ≠ id ∧ ∀ r' ∈ t.rest, r'.alertId ≠ id
  | .persisting t r _ _ => r.alertId ≠ id ∧ ∀ r' ∈ t.rest, r'.alertId ≠ id
  | _ => True

/-- The alert is deleted, and nothing the engine has in hand is about it. The id is spent, and not
    just absent: a new alert never gets it. -/
structure Silent (id : Int) (p : Process) : Prop where
  spent : p.db.alerts.Spent id
  cached : ∀ tokenId, ∀ r ∈ p.core.engine.rulesOf tokenId, r.alertId ≠ id
  read : ∀ rows, p.phase = .refreshing (some rows) → ∀ row ∈ rows, row.alertId ≠ id
  pc : PcSilent id p.core.pc

/-- The alert is deleted, and a refresh is under way that has not read it. The cache may still have
    its rule, until the refresh has come to its end. -/
def Halfway (id : Int) (p : Process) : Prop :=
  p.db.alerts.Spent id ∧
    ∃ rows, p.phase = .refreshing (some rows) ∧ ∀ row ∈ rows, row.alertId ≠ id

/-- A refresh: its query for the rules answers, and it comes to its end. -/
def Refresh (c : Setup) (p p' : Process) : Prop :=
  ∃ rows ls conditions p₁ p₂, Step c p (.readAlerts (some rows)) p₁ ∧
    Steps (Step c) p₁ ls p₂ ∧ Step c p₂ (.readConditions conditions) p'

section

variable {c : Setup} {l : ProcessLabel} {ls : List ProcessLabel} {p p' : Process} {id : Int}

/-- The rows that are read are rows of alerts there are. -/
theorem fetched_of_spent {rows : List AlertRow} (hspent : p.db.alerts.Spent id)
    {order : List Nat}
    (hrows : p.db.fetchAlertRows order = .ok rows) : ∀ row ∈ rows, row.alertId ≠ id := by
  intro row hrow heq
  obtain ⟨a, ha, hid, _⟩ := Db.mem_fetchAlertRows hrows hrow
  exact hspent.2 a ha (hid.symm.trans heq)

theorem silent_refreshCache {rows : List AlertRow} (hrows : ∀ row ∈ rows, row.alertId ≠ id)
    (conditions : Option (List ConditionRow)) (e : AlertEngine) (tokenId : String) :
    ∀ r ∈ (e.refreshCache c.crates (some rows) conditions).rulesOf tokenId, r.alertId ≠ id := by
  intro r hr
  rw [AlertEngine.rulesOf_refreshCache] at hr
  obtain ⟨row, hrow, hbuild⟩ := List.mem_filterMap.mp (List.mem_of_mem_filter hr)
  rw [AlertEngine.buildRule_alertId hbuild]
  exact hrows row hrow

/-! ## Halfway -/

/-- Until the refresh ends nothing but the database changes for it. -/
theorem Halfway.step (h : Halfway id p) (hs : Step c p l p') : Halfway id p' ∨ Silent id p' := by
  obtain ⟨hspent, rows, hphase, hrows⟩ := h
  have hspent' := hspent.later (step_db hs).1.alerts
  cases hs with
  | tick hfree => rw [hphase] at hfree; cases hfree
  | lagged hfree => rw [hphase] at hfree; cases hfree
  | engine hfree => rw [hphase] at hfree; cases hfree
  | readAlerts hturn =>
    rcases hturn with ⟨hfree, _⟩ | ⟨hfree, _⟩ <;> rw [hphase] at hfree <;> cases hfree
  | beginFlush hturn =>
    rcases hturn with ⟨hfree, _⟩ | ⟨hfree, _⟩ <;> rw [hphase] at hfree <;> cases hfree
  | writePrices hflush => rw [hphase] at hflush; cases hflush
  | endFlush hflush => rw [hphase] at hflush; cases hflush
  | @readConditions rows' conditions hrefreshing =>
    rw [hphase] at hrefreshing
    cases hrefreshing
    exact .inr ⟨hspent', silent_refreshCache hrows conditions p.core.engine, nofun, trivial⟩
  | _ => exact .inl ⟨hspent', rows, hphase, hrows⟩

/-! ## Silence -/

/-- A step that leaves the rules of the engine as they are. -/
theorem Silent.keep (h : Silent id p) (hs : Step c p l p')
    (hcache : p'.core.engine.ruleCache = p.core.engine.ruleCache)
    (hread : ∀ rows, p'.phase = .refreshing (some rows) → ∀ row ∈ rows, row.alertId ≠ id)
    (hpc : PcSilent id p'.core.pc) : Silent id p' := by
  refine ⟨h.spent.later (step_db hs).1.alerts, fun tokenId r hr => ?_, hread, hpc⟩
  have hrules : p'.core.engine.rulesOf tokenId = p.core.engine.rulesOf tokenId := by
    rw [AlertEngine.rulesOf, AlertEngine.rulesOf, hcache]
  rw [hrules] at hr
  exact h.cached tokenId r hr

/-- What a step of a silent process adds to the firings. -/
def FiresOthers (id : Int) (p p' : Process) : Prop :=
  ∃ fs, p'.core.fired = p.core.fired ++ fs ∧ ∀ f ∈ fs, f.1.alertId ≠ id

theorem firesOthers_of_eq (h : p'.core.fired = p.core.fired) : FiresOthers id p p' :=
  ⟨[], by rw [h, List.append_nil], fun f hf => by cases hf⟩

theorem Silent.engine (h : Silent id p) {e : Shutdown.EngineLabel} (hs : Step c p l p')
    (hmove : EngineMove c.crates c.alert p.core e p'.core) (hphase : p'.phase = p.phase) :
    Silent id p' ∧ FiresOthers id p p' := by
  have hread : ∀ rows, p'.phase = .refreshing (some rows) → ∀ row ∈ rows, row.alertId ≠ id := by
    rw [hphase]
    exact h.read
  have hpcs := h.pc
  generalize hcore : p'.core = s at hmove
  have hquiet : s.fired = p.core.fired → FiresOthers id p p' := fun hfired =>
    firesOthers_of_eq ((congrArg Shutdown.State.fired hcore).trans hfired)
  have hkeep : s.engine.ruleCache = p.core.engine.ruleCache → PcSilent id s.pc → Silent id p' := by
    intro hcache hpc
    refine h.keep hs ?_ hread ?_
    · rw [hcore]
      exact hcache
    · rw [hcore]
      exact hpc
  cases hmove with
  | cancels => exact ⟨hkeep rfl trivial, hquiet rfl⟩
  -- the rules of the tick come from the cache, which has none of the alert
  | ticks => exact ⟨hkeep rfl (h.cached _), hquiet rfl⟩
  | lags => exact ⟨hkeep rfl hpcs, hquiet rfl⟩
  | finishes => exact ⟨hkeep rfl trivial, hquiet rfl⟩
  | skips hpc =>
    rw [hpc] at hpcs
    exact ⟨hkeep rfl fun r hr => hpcs r (List.mem_cons_of_mem _ hr), hquiet rfl⟩
  | panics => exact ⟨hkeep rfl trivial, hquiet rfl⟩
  | @composes t r message hpc =>
    rw [hpc] at hpcs
    refine ⟨hkeep rfl ⟨hpcs r (List.mem_cons_self ..), fun r' hr' => ?_⟩, hquiet rfl⟩
    exact hpcs r' (List.mem_cons_of_mem _ hr')
  | sends hpc =>
    rw [hpc] at hpcs
    exact ⟨hkeep rfl hpcs, hquiet rfl⟩
  | fails hpc =>
    rw [hpc] at hpcs
    exact ⟨hkeep rfl hpcs, hquiet rfl⟩
  -- the firing is of the rule that was sent, which is of another alert
  | @persists t r message slot hpc =>
    rw [hpc] at hpcs
    refine ⟨hkeep rfl hpcs.2, _, by rw [hcore], fun f hf => ?_⟩
    rw [List.mem_singleton.mp hf]
    exact hpcs.1

theorem Silent.other (h : Silent id p) (hs : Step c p l p')
    (hengine : p'.core.engine = p.core.engine) (hpc : p'.core.pc = p.core.pc)
    (hfired : p'.core.fired = p.core.fired) (hphase : p'.phase = p.phase) :
    Silent id p' ∧ FiresOthers id p p' := by
  refine ⟨h.keep hs (by rw [hengine]) ?_ ?_, firesOthers_of_eq hfired⟩
  · rw [hphase]
    exact h.read
  · rw [hpc]
    exact h.pc

/-- **Every step keeps the silence, and fires other alerts only.** -/
theorem Silent.step (h : Silent id p) (hs : Step c p l p') :
    Silent id p' ∧ FiresOthers id p p' := by
  have hs' := hs
  cases hs with
  | tick hfree hrecv hstep =>
    exact h.engine hs' (engineStep_cases (.inr (.inr ⟨_, _, rfl⟩)) hstep) rfl
  | lagged hfree hlag hstep =>
    exact h.engine hs' (engineStep_cases (.inr (.inl rfl)) hstep) rfl
  | engine hfree halone hstep => exact h.engine hs' (engineStep_cases (.inl halone) hstep) rfl
  -- the alert is gone from the table for good, so no row that is read is of it
  | readAlerts hturn hanswer =>
    refine ⟨h.keep hs' rfl (fun rows hrows => ?_) h.pc, firesOthers_of_eq rfl⟩
    cases hrows
    obtain ⟨order, hrows⟩ := fetchAlertRows_of_answer hanswer
    exact fetched_of_spent h.spent hrows
  | @readConditions rows conditions hphase =>
    refine ⟨?_, firesOthers_of_eq rfl⟩
    cases rows with
    | none => exact h.keep hs' rfl nofun trivial
    | some rows =>
      exact ⟨h.spent, silent_refreshCache (h.read rows hphase) conditions p.core.engine, nofun,
        trivial⟩
  | beginFlush =>
    exact ⟨h.keep hs' rfl nofun h.pc, firesOthers_of_eq rfl⟩
  | writePrices =>
    exact ⟨h.keep hs' rfl nofun h.pc, firesOthers_of_eq rfl⟩
  | endFlush =>
    refine ⟨h.keep hs' rfl nofun ?_, firesOthers_of_eq rfl⟩
    have hpcs := h.pc
    dsimp only
    cases hpc : p.core.pc with
    | flushing => trivial
    | _ =>
      rw [hpc] at hpcs
      exact hpcs
  | @service v s hstep =>
    obtain ⟨hengine, hpc, hfired⟩ := service_engine hstep
    exact h.other hs' hengine hpc hfired rfl
  | _ => exact h.other hs' rfl rfl rfl rfl

theorem Silent.run (h : Silent id p) (hrun : Steps (Step c) p ls p') :
    Silent id p' ∧ FiresOthers id p p' := by
  induction hrun with
  | nil => exact ⟨h, firesOthers_of_eq rfl⟩
  | snoc _ hs ih =>
    obtain ⟨hsilent, fs, hfired, hothers⟩ := ih
    obtain ⟨hsilent', gs, hfired', hothers'⟩ := hsilent.step hs
    refine ⟨hsilent', fs ++ gs, ?_, fun f hf => ?_⟩
    · rw [hfired', hfired, List.append_assoc]
    · exact (List.mem_append.mp hf).elim (hothers f) (hothers' f)

/-- **After the refresh there is silence.** -/
theorem silent_of_refresh (hspent : p.db.alerts.Spent id) (h : Refresh c p p') : Silent id p' := by
  obtain ⟨rows, ls, conditions, p₁, p₂, hread, hrun, hend⟩ := h
  have hstart : Halfway id p₁ ∨ Silent id p₁ := by
    cases hread with
    | readAlerts _ hanswer =>
      obtain ⟨order, hrows⟩ := fetchAlertRows_of_answer hanswer
      exact .inl ⟨hspent, rows, rfl, fetched_of_spent hspent hrows⟩
  have hlater : Halfway id p₂ ∨ Silent id p₂ :=
    hrun.inv (I := fun q => Halfway id q ∨ Silent id q) hstart fun _ _ _ hq hs =>
      hq.elim (fun hhalf => hhalf.step hs) fun hsilent => .inr (hsilent.step hs).1
  rcases hlater with hhalf | hsilent
  · rcases hhalf.step hend with ⟨_, _, hphase, _⟩ | hsilent
    · cases hend
      cases hphase
    · exact hsilent
  · exact (hsilent.step hend).1

/-- An id that was given out and is not there is spent. -/
theorem spent_of_gone {q : Process} {a : Alert} (ha : a ∈ q.db.alerts.rows)
    (h : Steps (Step c) q ls p) (hgone : p.db.alerts.hasKey a.id = false) :
    p.db.alerts.Spent a.id := by
  refine ⟨?_, fun a' ha' hid => ?_⟩
  · refine h.inv (I := fun q => a.id ≤ q.db.alerts.seq) (q.db.alerts.bound a ha).2 ?_
    exact fun _ _ _ hle hs => Int.le_trans hle (step_db hs).1.alerts.seq
  · have hkey : p.db.alerts.hasKey a.id = true := Table.hasKey_iff.mpr ⟨a', ha', hid⟩
    rw [hgone] at hkey
    cases hkey

/-- **An alert that was deleted does not fire after the next refresh.** The alert was in the
    database at some point of the run and is gone later. From the end of the first refresh that
    begins after that, whatever all tasks do and however many refreshes follow or fail, the engine
    never sends a notification for it and never fires it. -/
theorem deleted_alert_silent {q p₂ p₃ : Process} {ls' : List ProcessLabel} {a : Alert}
    (ha : a ∈ q.db.alerts.rows) (hdeleted : Steps (Step c) q ls p)
    (hgone : p.db.alerts.hasKey a.id = false) (hrefresh : Refresh c p p₂)
    (hrest : Steps (Step c) p₂ ls' p₃) :
    (∃ fs, p₃.core.fired = p₂.core.fired ++ fs ∧ ∀ f ∈ fs, f.1.alertId ≠ a.id) ∧
      ∀ t r message, p₃.core.pc = .sending t r message → r.alertId ≠ a.id := by
  obtain ⟨hsilent, hfired⟩ :=
    (silent_of_refresh (spent_of_gone ha hdeleted hgone) hrefresh).run hrest
  refine ⟨hfired, fun t r message hpc => ?_⟩
  have hpcs := hsilent.pc
  rw [hpc] at hpcs
  exact hpcs.1

end

/-! ## A sample

User 7 unsubscribes, the engine refreshes, and then the frame comes in that would have fired the
alert. -/

/-- The refresh of a process that finds it free. -/
def refresh (c : Setup) (p : Process) : Option Process :=
  match take c p .readAlerts with
  | some (.readAlerts (some _), p₁) => (take c p₁ .readConditions).map Prod.snd
  | _ => none

theorem refresh_of_refresh {c : Setup} {p p' : Process} (h : refresh c p = some p') :
    Refresh c p p' := by
  unfold refresh at h
  split at h
  · rename_i rows p₁ hread
    obtain ⟨⟨l, p₂⟩, hend, rfl⟩ := Option.map_eq_some_iff.mp h
    have hphase : p₁.phase = .refreshing (some rows) := by
      cases take_step hread
      rfl
    have hlabel : l = .readConditions (some p₁.db.fetchConditionRows) := by
      unfold take at hend
      rw [hphase] at hend
      cases hend
      rfl
    subst hlabel
    exact ⟨rows, [], _, p₁, p₁, take_step hread, .nil, take_step hend⟩
  · cases h

def unsubscribePress : Update := .callbackQuery ⟨"q", ⟨7, none, "A"⟩, some 7, some "unsub:1"⟩

def deleteSchedule : List Turn :=
  [.readAlerts, .readConditions, .readTokens, .monitor .check, .spawn ["yes", "no"],
    .monitor (.current .start), .update 0 unsubscribePress, .call 0 0, .call 0 0, .call 0 0]

def tickSchedule : List Turn :=
  [.monitor (.current (.frame alarmFrame)), .monitor (.current .recv),
    .monitor (.current (.convert 5)), .tick calmTick, .engine .tryRule]

/-- The alert is deleted, and the engine has ticked on the price. -/
theorem deleted_alert_silent_sample : ∃ ls p p₂ ls' p₃,
    Runs sampleSetup Db.sampleDb ls p ∧ p.db.alerts.hasKey 1 = false ∧
    Refresh sampleSetup p p₂ ∧ Steps (Step sampleSetup) p₂ ls' p₃ ∧
    p₃.feed.received.length = 1 ∧
    (∃ fs, p₃.core.fired = p₂.core.fired ++ fs ∧ ∀ f ∈ fs, f.1.alertId ≠ 1) ∧
      ∀ t r message, p₃.core.pc = .sending t r message → r.alertId ≠ 1 := by
  have hcheck : ((play sampleSetup deleteSchedule (.start sampleSetup Db.sampleDb)).bind fun p =>
      (refresh sampleSetup p).bind fun p₂ =>
        (play sampleSetup tickSchedule p₂).map fun p₃ =>
          (p.db.alerts.hasKey 1, p₃.feed.received.length)) = some (false, 1) := by decide +kernel
  obtain ⟨p, hp, hcheck⟩ := Option.bind_eq_some_iff.mp hcheck
  obtain ⟨p₂, hp₂, hcheck⟩ := Option.bind_eq_some_iff.mp hcheck
  obtain ⟨p₃, hp₃, hcheck⟩ := Option.map_eq_some_iff.mp hcheck
  obtain ⟨ls, hrun⟩ := play_run hp
  obtain ⟨ls', hrest⟩ := play_run hp₃
  have hgone : p.db.alerts.hasKey 1 = false := congrArg Prod.fst hcheck
  have hkey : Db.sampleDb.alerts.hasKey 1 = true := by decide +kernel
  obtain ⟨a, ha, hid⟩ := Table.hasKey_iff.mp hkey
  have hid : a.id = 1 := hid
  have hrefresh := refresh_of_refresh hp₂
  rw [← hid] at hgone
  have hsilent := deleted_alert_silent (q := start sampleSetup Db.sampleDb) ha hrun hgone hrefresh
    hrest
  rw [hid] at hsilent hgone
  exact ⟨ls, p, p₂, ls', p₃, hrun, hgone, hrefresh, hrest, congrArg Prod.snd hcheck, hsilent⟩

end Process

end PolyNotifier
