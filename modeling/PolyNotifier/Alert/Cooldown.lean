import PolyNotifier.Alert.Engine
import PolyNotifier.Common.Reference
import PolyNotifier.Common.Statements
import PolyNotifier.Lib.Run

/-!
# Cooldowns over whole runs

When an alert last fired is written down twice: in the cooldown map of the engine, by
`mark_fired`, and in the column `last_triggered_at`, by `persist_triggered`. A refresh copies
the column over the map, and a restart loses the map.

The `System` is the database, the engine of the process that is running (if one is), the clock,
and the log of everything fired so far. What others do to the database (subscribing, deleting,
editing alerts) is one event, `change`: it may do anything but write `last_triggered_at` or give
out an old id.

* If every write succeeds, the column is never behind the log, and two firings of an alert are
  more than the cooldown apart over any number of restarts (`separated_of_persisted`).
* If writes may fail, the same holds in one process as long as no refresh reads back the time of
  a firing older than the last (`separated_of_current`), and not otherwise
  (`stale_refresh_breaks_cooldown`).
-/

namespace PolyNotifier

open AlertEngine (Firing TickEnv)
open Lib (Steps Table)

/-! ## The log of firings -/

/-- The most recent firing of an alert. It is the log that is asked, neither the map nor the
    column: both may be behind it, and whether they are is what the invariants below say. -/
def lastFiring (log : List Firing) (a : Int) : Option Firing :=
  (log.filter fun f => f.alertId == a).getLast?

/-- Two successive firings of one alert are more than the cooldown of the second apart. It is the
    second's, because that is the one `can_fire` was asked with; an edit in between may have
    changed it. -/
def Separated (log : List Firing) : Prop :=
  ∀ before f between g after, log = before ++ f :: (between ++ g :: after) →
    f.alertId = g.alertId → (∀ h ∈ between, h.alertId ≠ g.alertId) →
    g.firedAt - f.firedAt > Duration.minutes g.cooldown

theorem lastFiring_mem {log : List Firing} {a : Int} {f : Firing}
    (h : lastFiring log a = some f) : f ∈ log ∧ f.alertId = a := by
  have := List.mem_filter.mp (List.mem_of_getLast? h)
  exact ⟨this.1, by simpa using this.2⟩

/-- Firings of other alerts do not change the last firing of an alert. -/
theorem lastFiring_append_of_not_mem {log fired : List Firing} {a : Int}
    (h : ∀ f ∈ fired, f.alertId ≠ a) : lastFiring (log ++ fired) a = lastFiring log a := by
  have hnil : fired.filter (fun f => f.alertId == a) = [] := by
    rw [List.filter_eq_nil_iff]
    intro f hf
    simpa using h f hf
  rw [lastFiring, List.filter_append, hnil, List.append_nil, lastFiring]

/-- A tick fires an alert once. -/
theorem lastFiring_append_of_mem {log fired : List Firing} {f : Firing}
    (hnd : (fired.map Firing.alertId).Nodup) (hf : f ∈ fired) :
    lastFiring (log ++ fired) f.alertId = some f := by
  obtain ⟨before, after, rfl⟩ := List.append_of_mem hf
  have hafter : ∀ g ∈ after, g.alertId ≠ f.alertId := by
    intro g hg heq
    rw [List.map_append, List.map_cons, List.nodup_append] at hnd
    exact (List.nodup_cons.mp hnd.2.1).1 (heq ▸ List.mem_map_of_mem hg)
  rw [show log ++ (before ++ f :: after) = (log ++ before ++ [f]) ++ after by simp,
    lastFiring_append_of_not_mem hafter]
  simp [lastFiring]

/-- An alert is fired in a tick, or its last firing is what it was. -/
theorem lastFiring_append_cases {fired : List Firing} (hnd : (fired.map Firing.alertId).Nodup)
    (log : List Firing) (a : Int) :
    (∃ g ∈ fired, g.alertId = a ∧ lastFiring (log ++ fired) a = some g) ∨
      ((∀ g ∈ fired, g.alertId ≠ a) ∧ lastFiring (log ++ fired) a = lastFiring log a) := by
  by_cases hmem : ∃ g ∈ fired, g.alertId = a
  · obtain ⟨g, hg, rfl⟩ := hmem
    exact .inl ⟨g, hg, rfl, lastFiring_append_of_mem hnd hg⟩
  · have hno : ∀ g ∈ fired, g.alertId ≠ a := fun g hg heq => hmem ⟨g, hg, heq⟩
    exact .inr ⟨hno, lastFiring_append_of_not_mem hno⟩

theorem separated_nil : Separated [] := by
  intro before f between g after h
  simp at h

/-- One more firing, far enough from the last one of its alert. -/
theorem Separated.snoc {log : List Firing} {g : Firing} (h : Separated log)
    (hg : ∀ f, lastFiring log g.alertId = some f →
      g.firedAt - f.firedAt > Duration.minutes g.cooldown) : Separated (log ++ [g]) := by
  intro before f between g' after heq hid hbetween
  cases after using List.reverseRecOn with
  | nil =>
    -- the second firing is the new one
    rw [← List.cons_append, ← List.append_assoc] at heq
    obtain ⟨rfl, hlast⟩ := List.append_inj' heq rfl
    obtain rfl : g = g' := by simpa using hlast
    apply hg
    rw [show before ++ f :: between = (before ++ [f]) ++ between by simp,
      lastFiring_append_of_not_mem hbetween, ← hid]
    simp [lastFiring]
  | append_singleton after last =>
    -- both are old
    have heq' : log ++ [g] = (before ++ f :: (between ++ g' :: after)) ++ [last] := by
      rw [heq]
      simp
    exact h _ _ _ _ _ (List.append_inj' heq' rfl).1 hid hbetween

/-- The firings of one tick. -/
theorem Separated.append {log fired : List Firing} (h : Separated log)
    (hnd : (fired.map Firing.alertId).Nodup)
    (hfired : ∀ g ∈ fired, ∀ f, lastFiring log g.alertId = some f →
      g.firedAt - f.firedAt > Duration.minutes g.cooldown) : Separated (log ++ fired) := by
  induction fired using List.reverseRecOn with
  | nil => simpa using h
  | append_singleton fs g ih =>
    rw [List.map_append, List.nodup_append] at hnd
    rw [← List.append_assoc]
    refine (ih hnd.1 fun g' hg' => hfired g' (by simp [hg'])).snoc ?_
    have hother : ∀ f ∈ fs, f.alertId ≠ g.alertId := fun f hf =>
      hnd.2.2 _ (List.mem_map_of_mem hf) _ (by simp)
    rw [lastFiring_append_of_not_mem hother]
    exact hfired g (by simp)

/-! ## The database side -/

/-- The `UPDATE` of a firing, if it was executed. It matches no row where the alert has been
    deleted since the cache was read, and then changes nothing. -/
def persistFiring (d : Db) (f : Firing) : Db :=
  match f.persistedAt with
  | some t => match d.recordAlertTriggered t f.alertId with
    | .ok d' => d'
    | .error _ => d
  | none => d

def persistAll (fired : List Firing) (d : Db) : Db := fired.foldl persistFiring d

namespace Db

theorem alertRow_eq {d : Db} {a : Alert} {row : AlertRow} (h : d.alertRow a = some row) :
    row.alertId = a.id ∧ row.lastTriggeredAt = a.lastTriggeredAt := by
  unfold alertRow at h
  obtain ⟨s, _, h⟩ := Option.bind_eq_some_iff.mp h
  obtain ⟨m, _, h⟩ := Option.bind_eq_some_iff.mp h
  obtain ⟨u, _, h⟩ := Option.bind_eq_some_iff.mp h
  split at h
  · cases h
    exact ⟨rfl, rfl⟩
  · cases h

/-- Each row the engine reads is the row of one alert. -/
theorem mem_fetchAlertRows {d : Db} {order : List Nat} {rows : List AlertRow}
    (h : d.fetchAlertRows order = .ok rows) {row : AlertRow} (hrow : row ∈ rows) :
    ∃ a ∈ d.alerts.rows, row.alertId = a.id ∧ row.lastTriggeredAt = a.lastTriggeredAt := by
  obtain ⟨a, ha, hr⟩ := (mem_fetchAlertRows_iff h).mp hrow
  exact ⟨a, ha, alertRow_eq hr⟩

theorem fetchAlertRows_nodup {d : Db} {order : List Nat} {rows : List AlertRow}
    (h : d.fetchAlertRows order = .ok rows) : (rows.map AlertRow.alertId).Nodup := by
  rw [((fetchAlertRows_ok h).1.map _).nodup_iff]
  have hnd := d.alerts.nodup
  revert hnd
  induction d.alerts.rows with
  | nil => simp
  | cons a as ih =>
    intro hnd
    rw [List.map_cons, List.nodup_cons] at hnd
    cases hr : d.alertRow a with
    | none => rw [List.filterMap_cons_none hr]; exact ih hnd.2
    | some row =>
      rw [List.filterMap_cons_some hr, List.map_cons, List.nodup_cons]
      refine ⟨fun hmem => ?_, ih hnd.2⟩
      obtain ⟨row', hrow', heq⟩ := List.mem_map.mp hmem
      obtain ⟨a', ha', hr'⟩ := List.mem_filterMap.mp hrow'
      refine hnd.1 (List.mem_map.mpr ⟨a', ha', ?_⟩)
      show a'.id = a.id
      rw [← (alertRow_eq hr').1, heq, (alertRow_eq hr).1]

/-- What the writers other than the engine do to the alerts: an alert that was there keeps its
    `last_triggered_at`, a new one has a new id and none. -/
structure OthersChange (d d' : Db) : Prop where
  alerts : ∀ a' ∈ d'.alerts.rows,
    (∃ a ∈ d.alerts.rows, a'.id = a.id ∧ a'.lastTriggeredAt = a.lastTriggeredAt) ∨
    (d.alerts.seq < a'.id ∧ a'.lastTriggeredAt = none)
  seq : d.alerts.seq ≤ d'.alerts.seq

end Db

theorem persistFiring_alerts (d : Db) (f : Firing) :
    (persistFiring d f).alerts.seq = d.alerts.seq ∧
    ∀ a' ∈ (persistFiring d f).alerts.rows, ∃ a ∈ d.alerts.rows, a'.id = a.id ∧
      a'.lastTriggeredAt
        = if f.alertId = a.id then f.persistedAt.or a.lastTriggeredAt else a.lastTriggeredAt := by
  unfold persistFiring
  cases hp : f.persistedAt with
  | none => exact ⟨rfl, fun a ha => ⟨a, ha, rfl, by simp⟩⟩
  | some t =>
    obtain ⟨d', hd', hseq, hrows⟩ := d.recordAlertTriggered_ok t f.alertId
    simp only [hd']
    refine ⟨hseq, fun a' ha' => ?_⟩
    rw [hrows] at ha'
    obtain ⟨a, ha, rfl⟩ := List.mem_map.mp ha'
    refine ⟨a, ha, ?_⟩
    by_cases hid : a.id = f.alertId
    · simp [hid]
    · simp [hid, Ne.symm hid]

/-- The writes of a tick are to the alerts. -/
theorem persistAll_markets (fired : List Firing) (d : Db) :
    (persistAll fired d).markets = d.markets ∧
      (persistAll fired d).subscriptions = d.subscriptions := by
  induction fired generalizing d with
  | nil => exact ⟨rfl, rfl⟩
  | cons f fs ih =>
    have hone : (persistFiring d f).markets = d.markets ∧
        (persistFiring d f).subscriptions = d.subscriptions := by
      unfold persistFiring
      split
      · split
        · exact Db.recordAlertTriggered_markets ‹_›
        · exact ⟨rfl, rfl⟩
      · exact ⟨rfl, rfl⟩
    obtain ⟨hm, hs⟩ := ih (persistFiring d f)
    exact ⟨hm.trans hone.1, hs.trans hone.2⟩

/-- **What the writes of a tick leave in the column.** -/
theorem persistAll_alerts {fired : List Firing} (hnd : (fired.map Firing.alertId).Nodup) (d : Db) :
    (persistAll fired d).alerts.seq = d.alerts.seq ∧
    ∀ a' ∈ (persistAll fired d).alerts.rows, ∃ a ∈ d.alerts.rows, a'.id = a.id ∧
      ((∀ f ∈ fired, f.alertId ≠ a.id) → a'.lastTriggeredAt = a.lastTriggeredAt) ∧
      ∀ f ∈ fired, f.alertId = a.id →
        a'.lastTriggeredAt = f.persistedAt.or a.lastTriggeredAt := by
  induction fired generalizing d with
  | nil => exact ⟨rfl, fun a ha => ⟨a, ha, rfl, fun _ => rfl, by simp⟩⟩
  | cons f fs ih =>
    rw [List.map_cons, List.nodup_cons] at hnd
    obtain ⟨hseq, hrows⟩ := ih hnd.2 (persistFiring d f)
    obtain ⟨hseq1, hrows1⟩ := persistFiring_alerts d f
    refine ⟨hseq.trans hseq1, fun a' ha' => ?_⟩
    obtain ⟨a1, ha1, hid1, hnone, hsome⟩ := hrows a' ha'
    obtain ⟨a, ha, hid, hval⟩ := hrows1 a1 ha1
    refine ⟨a, ha, hid1.trans hid, ?_, ?_⟩
    · intro hno
      rw [hnone fun g hg => by rw [hid]; exact hno g (by simp [hg]), hval,
        if_neg (hno f (by simp))]
    · intro g hg hga
      rcases List.mem_cons.mp hg with rfl | hg
      · have hrest : ∀ h ∈ fs, h.alertId ≠ a1.id := by
          intro h hh heq
          exact hnd.1 (List.mem_map.mpr ⟨h, hh, by rw [heq, hid, hga]⟩)
        rw [hnone hrest, hval, if_pos hga]
      · have hne : f.alertId ≠ a.id := fun heq =>
          hnd.1 (List.mem_map.mpr ⟨g, hg, hga.trans heq.symm⟩)
        rw [hsome g hg (hga.trans hid.symm), hval, if_neg hne]

/-! ## The system -/

/-- The database, the engine of the process that runs, the clock and the log. The log is not in the
    source: it is what the statements are about, so it outlives a process while the engine's maps
    do not. -/
structure System where
  db : Db
  /-- The engine of the running process; `none` between two processes, or after a panic. -/
  engine : Option AlertEngine
  clock : NaiveDateTime
  /-- Everything fired so far, in order. -/
  log : List Firing

/-- What can happen. A refresh is one event here although it is two queries, because the alerts
    come from the first of them alone and the second only fills the map of conditions, which no
    firing depends on. -/
inductive SystemEvent where
  | tick (update : PriceUpdate) (env : TickEnv) (now : NaiveDateTime)
  /-- `order`: of the rows of the first query. -/
  | refresh (order : List Nat) (conditionsOk : Bool)
  | refreshFailed
  | change (db : Db)
  | stop
  | start

namespace System

variable (x : Crates) (cfg : EngineConfig)

/-- The engine beside its database. A tick that fires writes at once what it has fired; in between,
    `change` is whatever other tasks do to the database. A process that is down has no engine: it
    keeps the database and the log and loses the rest. -/
def step (s : System) : SystemEvent → System
  | .tick update env now =>
      match s.engine with
      | none => s
      | some e =>
          let (e', fired, panicked) := AlertEngine.handlePriceUpdate x cfg env update e
          { db := persistAll fired s.db, engine := if panicked then none else some e',
            clock := now, log := s.log ++ fired }
  | .refresh order conditionsOk =>
      match s.engine, s.db.fetchAlertRows order with
      | some e, .ok rows =>
          let conditions := if conditionsOk then some s.db.fetchConditionRows else none
          { s with engine := some (AlertEngine.refreshCache x (some rows) conditions e) }
      | _, _ => s
  | .refreshFailed => s
  | .change db => { s with db }
  | .stop => { s with engine := none }
  | .start => { s with engine := some AlertEngine.new }

/-- The clock never goes backward, others respect the column, one process runs at a time. The
    readings of a tick are ordered only for each rule; those of different rules may be in any
    order, as long as they lie between the tick's beginning and its end. -/
def Enabled (s : System) : SystemEvent → Prop
  | .tick _ env now => ∀ a, s.clock ≤ env.check a ∧ env.check a ≤ env.mark a ∧
      env.mark a ≤ env.persist a ∧ env.persist a ≤ now
  | .change db => s.db.OthersChange db
  | .start => s.engine = none
  | _ => True

/-- An event that can happen, and what it does. -/
def Step (s : System) (ev : SystemEvent) (s' : System) : Prop :=
  s.Enabled ev ∧ s' = s.step x cfg ev

/-- Every `UPDATE` of the event is executed. -/
def Persisted : SystemEvent → Prop
  | .tick _ env _ => ∀ a, env.persistOk a = true
  | _ => True

/-- What every run keeps: the ids that fired or are cached have been given out, and a token's rules
    are of distinct alerts. The first two are why a new alert never inherits the cooldown of a
    deleted one. -/
structure Ids (s : System) : Prop where
  fired : ∀ f ∈ s.log, f.alertId ≤ s.db.alerts.seq
  cached : ∀ e, s.engine = some e → ∀ t, ∀ r ∈ e.rulesOf t, r.alertId ≤ s.db.alerts.seq
  nodup : ∀ e, s.engine = some e → ∀ t, ((e.rulesOf t).map AlertRule.alertId).Nodup

/-- The column is not behind the log. It may be ahead: `persist_triggered` reads the clock after
    `mark_fired` has. -/
def ColumnCurrent (s : System) : Prop :=
  ∀ a ∈ s.db.alerts.rows, ∀ f, lastFiring s.log a.id = some f →
    ∃ t, a.lastTriggeredAt = some t ∧ f.firedAt ≤ t

/-- The cooldown map is not behind the log, for the alerts that can fire. For the others nothing is
    said, and nothing could be: after a restart the map knows only what the last refresh has read.
    -/
def MemoryCurrent (s : System) : Prop :=
  ∀ e, s.engine = some e → ∀ t, ∀ r ∈ e.rulesOf t, ∀ f, lastFiring s.log r.alertId = some f →
    ∃ last, e.dedup.lastTriggered.lookup r.alertId = some last ∧ f.firedAt ≤ last

variable {x cfg} {s : System}

/-! ### What a tick and a refresh do -/

variable (x cfg) in
/-- **One tick of the running engine.** -/
theorem tick_cases {e : AlertEngine} (update : PriceUpdate) (env : TickEnv)
    (now : NaiveDateTime) (he : s.engine = some e) (hids : Ids s) :
    ∃ fired, (s.step x cfg (.tick update env now)).log = s.log ++ fired ∧
      (s.step x cfg (.tick update env now)).db = persistAll fired s.db ∧
      (fired.map Firing.alertId).Nodup ∧
      (∀ f ∈ fired, ∃ r ∈ e.rulesOf update.tokenId, ∃ message,
        f = AlertEngine.firingOf cfg env r message ∧
        e.dedup.canFire (env.check r.alertId) r.alertId (AlertEngine.effectiveCooldown cfg r)) ∧
      ∀ e', (s.step x cfg (.tick update env now)).engine = some e' →
        e'.ruleCache = e.ruleCache ∧
        (∀ f ∈ fired, e'.dedup.lastTriggered.lookup f.alertId = some f.firedAt) ∧
        ∀ a, (∀ f ∈ fired, f.alertId ≠ a) →
          e'.dedup.lastTriggered.lookup a = e.dedup.lastTriggered.lookup a := by
  -- the tick is the fold over the rules of the token, which are of distinct alerts
  obtain ⟨fired, hf, hnd, hmay, hdone⟩ := AlertEngine.foldl_tryRule_fired x cfg env
    update (e.prevPrices.lookup update.tokenId)
    (s := ⟨e.dedup, [], false⟩) (hids.nodup e he update.tokenId)
  have hfired : (AlertEngine.handlePriceUpdate x cfg env update e).2.1 = fired :=
    hf.trans (List.nil_append _)
  refine ⟨fired, ?_, ?_, hnd, ?_, ?_⟩
  · simp only [step, he, hfired]
  · simp only [step, he, hfired]
  · intro f hf'
    obtain ⟨r, hr, message, heq, h⟩ := hmay f hf'
    exact ⟨r, hr, message, heq, (Bool.and_eq_true_iff.mp h).2⟩
  · intro e' he'
    simp only [step, he] at he'
    split at he'
    · cases he'
    · rename_i hp
      cases he'
      exact ⟨rfl, hdone (Bool.eq_false_iff.mpr hp)⟩

variable (x cfg) in
/-- **One refresh of the running engine.** It changes nothing, or its rules and the times it
    loads are those of alerts in the database. -/
theorem refresh_cases {e : AlertEngine} (order : List Nat) (conditionsOk : Bool)
    (he : s.engine = some e) :
    s.step x cfg (.refresh order conditionsOk) = s ∨
    ∃ rows e', s.db.fetchAlertRows order = .ok rows ∧
      s.step x cfg (.refresh order conditionsOk) = { s with engine := some e' } ∧
      (∀ t, e'.rulesOf t
        = (rows.filterMap (AlertEngine.buildRule x)).filter fun r => r.tokenId == t) ∧
      e'.dedup = e.dedup.loadFromAlerts (rows.filterMap (AlertEngine.buildRule x)) := by
  cases hrows : s.db.fetchAlertRows order with
  | error err => exact .inl (by simp only [step, he, hrows])
  | ok rows =>
    let conditions := if conditionsOk then some s.db.fetchConditionRows else none
    refine .inr ⟨rows, AlertEngine.refreshCache x (some rows) conditions e, rfl,
      by simp only [step, he, hrows]; rfl, fun t => ?_, ?_⟩
    · exact AlertEngine.rulesOf_refreshCache x rows conditions e t
    · cases conditionsOk <;> rfl

/-- The rule of a row that was read, and the alert the row is of. -/
theorem rule_of_row {order : List Nat} {rows : List AlertRow}
    (hrows : s.db.fetchAlertRows order = .ok rows) {r : AlertRule} (hr : r ∈ rows.filterMap (AlertEngine.buildRule x)) :
    ∃ a ∈ s.db.alerts.rows, r.alertId = a.id ∧ r.lastTriggeredAt = a.lastTriggeredAt := by
  obtain ⟨row, hrow, hb⟩ := List.mem_filterMap.mp hr
  obtain ⟨a, ha, hid, hlast⟩ := Db.mem_fetchAlertRows hrows hrow
  exact ⟨a, ha, (AlertEngine.buildRule_alertId hb).trans hid,
    (AlertEngine.buildRule_lastTriggeredAt hb).trans hlast⟩

variable (x cfg) in
theorem ids_step {ev : SystemEvent} (h : Ids s) (hen : s.Enabled ev) :
    Ids (s.step x cfg ev) := by
  cases ev with
  | tick update env now =>
    cases he : s.engine with
    | none => simpa only [step, he] using h
    | some e =>
      obtain ⟨fired, hlog, hdb, hnd, hfired, hengine⟩ := tick_cases x cfg update env now he h
      have hseq := (persistAll_alerts hnd s.db).1
      refine ⟨?_, ?_, ?_⟩
      -- the log grows by firings of cached rules
      · intro f hf
        rw [hlog] at hf
        rw [hdb, hseq]
        rcases List.mem_append.mp hf with hf | hf
        · exact h.fired f hf
        · obtain ⟨r, hr, _, rfl, _⟩ := hfired f hf
          exact h.cached e he _ r hr
      · intro e' he' t r hr
        rw [hdb, hseq]
        rw [AlertEngine.rulesOf, (hengine e' he').1] at hr
        exact h.cached e he t r hr
      · intro e' he' t
        rw [AlertEngine.rulesOf, (hengine e' he').1]
        exact h.nodup e he t
  | refresh order conditionsOk =>
    cases he : s.engine with
    | none => simpa only [step, he] using h
    | some e =>
      rcases refresh_cases x cfg order conditionsOk he with
        hs | ⟨rows, e', hrows, hs, hrules, _⟩
      · rw [hs]; exact h
      · rw [hs]
        refine ⟨h.fired, ?_, ?_⟩
        · rintro e'' he'' t r hr
          cases he''
          rw [hrules, List.mem_filter] at hr
          obtain ⟨a, ha, hid, _⟩ := rule_of_row hrows hr.1
          rw [hid]
          exact (s.db.alerts.bound a ha).2
        · rintro e'' he'' t
          cases he''
          rw [hrules]
          exact (AlertEngine.filterMap_buildRule_nodup (Db.fetchAlertRows_nodup hrows)).sublist
            (List.filter_sublist.map _)
  | refreshFailed => exact h
  -- ids are not given twice, so what was below the sequence stays below it
  | change db =>
    exact ⟨fun f hf => (h.fired f hf).trans hen.seq,
      fun e he t r hr => (h.cached e he t r hr).trans hen.seq, h.nodup⟩
  | stop => exact ⟨h.fired, (fun _ he => nomatch he), fun _ he => nomatch he⟩
  | start =>
    refine ⟨h.fired, ?_, ?_⟩
    · intro e he t r hr
      cases he
      cases hr
    · intro e he t
      cases he
      exact List.nodup_nil

/-- **A firing allowed by a current cooldown map is far enough from the last.** -/
theorem separated_tick {e : AlertEngine} {update : PriceUpdate} {env : TickEnv}
    {now : NaiveDateTime} {fired : List Firing} (he : s.engine = some e) (hmem : MemoryCurrent s)
    (hen : s.Enabled (.tick update env now)) (hsep : Separated s.log)
    (hnd : (fired.map Firing.alertId).Nodup)
    (hfired : ∀ f ∈ fired, ∃ r ∈ e.rulesOf update.tokenId, ∃ message,
      f = AlertEngine.firingOf cfg env r message ∧
      e.dedup.canFire (env.check r.alertId) r.alertId (AlertEngine.effectiveCooldown cfg r)) :
    Separated (s.log ++ fired) := by
  refine hsep.append hnd fun g hg f hlast => ?_
  obtain ⟨r, hr, message, rfl, hcan⟩ := hfired g hg
  obtain ⟨last, hlook, hle⟩ := hmem e he _ r hr f hlast
  have hmark := (hen r.alertId).2.1
  rw [AlertDedup.canFire, hlook] at hcan
  have hgap : env.check r.alertId - last
      > Duration.minutes (AlertEngine.effectiveCooldown cfg r) := by simpa using hcan
  exact lt_of_lt_of_le hgap (Int.sub_le_sub hmark hle)

/-! ## Every write succeeds -/

/-- What a run with restarts keeps. -/
structure Durable (s : System) : Prop where
  ids : Ids s
  column : ColumnCurrent s
  memory : MemoryCurrent s
  separated : Separated s.log

theorem column_step {ev : SystemEvent} (h : Durable s) (hen : s.Enabled ev)
    (hok : Persisted ev) : ColumnCurrent (s.step x cfg ev) := by
  cases ev with
  | tick update env now =>
    cases he : s.engine with
    | none => simpa only [step, he] using h.column
    | some e =>
      obtain ⟨fired, hlog, hdb, hnd, hfired, _⟩ := tick_cases x cfg update env now he h.ids
      intro a' ha' f hlast
      rw [hdb] at ha'
      rw [hlog] at hlast
      -- a persisted firing is in the column, an alert that did not fire keeps its own
      obtain ⟨a, ha, hid, hkeep, hwrite⟩ := (persistAll_alerts hnd s.db).2 a' ha'
      rw [hid] at hlast
      rcases lastFiring_append_cases hnd s.log a.id with ⟨g, hg, hga, hg'⟩ | ⟨hno, hold⟩
      · rw [hg'] at hlast
        obtain rfl := Option.some.inj hlast
        obtain ⟨r, _, message, rfl, _⟩ := hfired _ hg
        refine ⟨env.persist r.alertId, ?_, (hen r.alertId).2.2.1⟩
        rw [hwrite _ hg hga]
        simp [AlertEngine.firingOf, hok r.alertId]
      · rw [hold] at hlast
        rw [hkeep hno]
        exact h.column a ha f hlast
  | refresh order conditionsOk =>
    cases he : s.engine with
    | none => simpa only [step, he] using h.column
    | some e =>
      rcases refresh_cases x cfg order conditionsOk he with
        hs | ⟨rows, e', _, hs, _⟩
      · rw [hs]; exact h.column
      · rw [hs]; exact h.column
  | refreshFailed => exact h.column
  | change db =>
    intro a' ha' f hlast
    rcases hen.alerts a' ha' with ⟨a, ha, hid, hkeep⟩ | ⟨hnew, _⟩
    · rw [hid] at hlast
      rw [hkeep]
      exact h.column a ha f hlast
    · -- an id given out just now has not fired
      obtain ⟨hf, hid⟩ := lastFiring_mem hlast
      have := h.ids.fired f hf
      omega
  | stop => exact h.column
  | start => exact h.column

theorem memory_step {ev : SystemEvent} (h : Durable s) : MemoryCurrent (s.step x cfg ev) := by
  cases ev with
  | tick update env now =>
    cases he : s.engine with
    | none => simpa only [step, he] using h.memory
    | some e =>
      obtain ⟨fired, hlog, _, hnd, _, hengine⟩ := tick_cases x cfg update env now he h.ids
      intro e' he' t r hr f hlast
      obtain ⟨hcache, hmarked, hkeep⟩ := hengine e' he'
      rw [hlog] at hlast
      rcases lastFiring_append_cases hnd s.log r.alertId with ⟨g, hg, hga, hg'⟩ | ⟨hno, hold⟩
      · rw [hg'] at hlast
        obtain rfl := Option.some.inj hlast
        exact ⟨_, hga ▸ hmarked _ hg, le_refl _⟩
      · rw [hold] at hlast
        rw [hkeep _ hno]
        rw [AlertEngine.rulesOf, hcache] at hr
        exact h.memory e he t r hr f hlast
  | refresh order conditionsOk =>
    cases he : s.engine with
    | none => simpa only [step, he] using h.memory
    | some e =>
      rcases refresh_cases x cfg order conditionsOk he with
        hs | ⟨rows, e', hrows, hs, hrules, hload⟩
      · rw [hs]; exact h.memory
      · rw [hs]
        rintro e'' he'' t r hr f hlast
        cases he''
        rw [hrules, List.mem_filter] at hr
        -- the refresh loads the column, which is not behind
        obtain ⟨a, ha, hid, hlastAt⟩ := rule_of_row hrows hr.1
        obtain ⟨time, htime, hle⟩ := h.column a ha f (hid ▸ hlast)
        refine ⟨time, ?_, hle⟩
        rw [hload, AlertDedup.lookup_loadFromAlerts
          (AlertEngine.filterMap_buildRule_nodup (Db.fetchAlertRows_nodup hrows)) hr.1,
          hlastAt, htime]
        rfl
  | refreshFailed => exact h.memory
  | change db => exact h.memory
  | stop => exact fun _ he => nomatch he
  | start =>
    intro e he t r hr
    cases he
    cases hr

variable (x cfg) in
/-- The log grows by ticks alone. -/
theorem separated_step {ev : SystemEvent} (hids : Ids s) (hmem : MemoryCurrent s)
    (hsep : Separated s.log) (hen : s.Enabled ev) : Separated (s.step x cfg ev).log := by
  cases ev with
  | tick update env now =>
    cases he : s.engine with
    | none => simpa only [step, he] using hsep
    | some e =>
      obtain ⟨fired, hlog, _, hnd, hfired, _⟩ := tick_cases x cfg update env now he hids
      rw [hlog]
      exact separated_tick he hmem hen hsep hnd hfired
  | refresh order conditionsOk =>
    have hlog : (s.step x cfg (.refresh order conditionsOk)).log = s.log := by
      cases he : s.engine with
      | none => simp only [step, he]
      | some e =>
        rcases refresh_cases x cfg order conditionsOk he with
          hs | ⟨rows, e', _, hs, _⟩ <;> rw [hs]
    rw [hlog]
    exact hsep
  | refreshFailed => exact hsep
  | change db => exact hsep
  | stop => exact hsep
  | start => exact hsep

/-- **Cooldowns survive restarts.** The run starts with the process down and may stop it and start
    it again at any point. A process that starts knows no firing; it is the first refresh that
    loads the times from the column. So if every write of a firing succeeds, two successive firings
    of an alert are more than the cooldown apart, whether one process made them or two. -/
theorem separated_of_persisted {t : System} {es : List SystemEvent} (hdown : s.engine = none)
    (hlog : s.log = [])
    (hrun : Steps (fun a ev b => a.Step x cfg ev b ∧ Persisted ev) s es t) : Separated t.log := by
  have h0 : Durable s := by
    refine ⟨⟨by simp [hlog], by simp [hdown], by simp [hdown]⟩, ?_, ?_, by rw [hlog]; exact separated_nil⟩
    · intro a _ f hf
      simp [hlog, lastFiring] at hf
    · intro e he
      rw [hdown] at he
      cases he
  refine (hrun.inv (I := Durable) h0 ?_).separated
  rintro a ev b h ⟨⟨hen, rfl⟩, hok⟩
  exact ⟨ids_step x cfg h.ids hen, column_step h hen hok, memory_step h,
    separated_step x cfg h.ids h.memory h.separated hen⟩

/-- No process yet, over the small database. -/
def downAtZero : System := ⟨Db.sampleDb, none, 0, []⟩

/-- A tick of token `yes` at three quarters, `m` minutes in, at which everything takes no time. -/
def tickAt (m : Int) (persistOk : Bool) : SystemEvent :=
  let now := Duration.minutes m
  .tick ⟨"yes", "0xc", .cents 75, 0⟩
    ⟨fun _ => now, fun _ => now, fun _ => now, fun _ => true, fun _ => persistOk⟩ now

/-- The state after the events, taken in order. -/
def runFrom (s : System) (es : List SystemEvent) : System :=
  es.foldl (fun s ev => s.step Crates.reference ⟨60⟩ ev) s

/-- Every event can happen where it happens, and satisfies `P` there. -/
def Along (P : System → SystemEvent → Prop) : System → List SystemEvent → Prop
  | _, [] => True
  | s, ev :: es => s.Enabled ev ∧ P s ev ∧ Along P (s.step Crates.reference ⟨60⟩ ev) es

theorem Along.steps {P : System → SystemEvent → Prop} {es : List SystemEvent} :
    ∀ {s : System}, Along P s es →
      Steps (fun a ev b => a.Step Crates.reference ⟨60⟩ ev b ∧ P a ev) s es (runFrom s es) := by
  induction es with
  | nil => intro s _; exact .nil
  | cons ev es ih => intro s h; exact .cons ⟨⟨h.1, rfl⟩, h.2.1⟩ (ih h.2.2)

/-- A tick that takes no time can happen at any time from the last one on. -/
theorem enabled_tickAt {s : System} {m : Int} {persistOk : Bool}
    (h : s.clock ≤ Duration.minutes m) : s.Enabled (tickAt m persistOk) :=
  fun _ => ⟨h, le_refl _, le_refl _, le_refl _⟩

/-- Two processes, both of which fire the alert. -/
theorem separated_of_persisted_restart :
    Separated (runFrom downAtZero [.start, .refresh [] true, tickAt 0 true, .stop, .start,
      .refresh [] true, tickAt 61 true]).log := by
  have h : Along (fun _ => Persisted) downAtZero [.start, .refresh [] true, tickAt 0 true, .stop,
      .start, .refresh [] true, tickAt 61 true] :=
    ⟨rfl, trivial, trivial, trivial, enabled_tickAt (by decide +kernel), fun _ => rfl, trivial,
      trivial, rfl, trivial, trivial, trivial, enabled_tickAt (by decide +kernel), fun _ => rfl,
      trivial⟩
  exact separated_of_persisted rfl rfl h.steps

/-! ## Writes may fail

In one process nothing is forgotten, so the map is ahead of the log for every alert that has
fired, whether it is cached or not. What can go wrong is a refresh that loads the time of an
earlier firing, because the last one was not written. -/

/-- The process goes on. -/
def InProcess : SystemEvent → Prop
  | .stop => False
  | .start => False
  | _ => True

/-- The refresh reads no time that is earlier than the most recent firing of its alert, where
    that firing was not written. -/
def NoStaleRead (x : Crates) (s : System) : SystemEvent → Prop
  | .refresh _ _ => ∀ a ∈ s.db.alerts.rows, ∀ row, s.db.alertRow a = some row →
      (AlertEngine.buildRule x row).isSome → ∀ f, lastFiring s.log a.id = some f →
      f.persistedAt = none → ∀ last, a.lastTriggeredAt = some last → f.firedAt ≤ last
  | _ => True

/-- The event makes no recorded fire time older. -/
def NeverOlder (s s' : System) : Prop :=
  ∀ e e', s.engine = some e → s'.engine = some e' → ∀ a last,
    e.dedup.lastTriggered.lookup a = some last →
    ∃ last', e'.dedup.lastTriggered.lookup a = some last' ∧ last ≤ last'

/-- What a run of one process keeps. The law of the log needs the map in memory, the map is loaded
    from the column, and the column is written after the log: so each of the three is tied to the
    next. -/
structure Running (s : System) : Prop where
  ids : Ids s
  /-- The map is not behind the log. -/
  memory : ∀ e, s.engine = some e → ∀ a f, lastFiring s.log a = some f →
    ∃ last, e.dedup.lastTriggered.lookup a = some last ∧ f.firedAt ≤ last
  /-- The map knows only alerts that exist or existed. -/
  known : ∀ e, s.engine = some e → ∀ a last, e.dedup.lastTriggered.lookup a = some last →
    a ≤ s.db.alerts.seq
  /-- What was written is there. -/
  written : ∀ a ∈ s.db.alerts.rows, ∀ f, lastFiring s.log a.id = some f → ∀ p,
    f.persistedAt = some p → a.lastTriggeredAt = some p ∧ f.firedAt ≤ p
  /-- A recorded time is the time of the last firing or the column. -/
  recorded : ∀ e, s.engine = some e → ∀ a ∈ s.db.alerts.rows, ∀ last,
    e.dedup.lastTriggered.lookup a.id = some last →
    (∃ f, lastFiring s.log a.id = some f ∧ last = f.firedAt) ∨ a.lastTriggeredAt = some last
  separated : Separated s.log

theorem Running.memoryCurrent (h : Running s) : MemoryCurrent s :=
  fun e he _ r _ f hf => h.memory e he r.alertId f hf

/-- **A refresh that reads nothing stale makes no recorded time older.** -/
theorem refresh_neverOlder (cfg : EngineConfig) {order : List Nat} {conditionsOk : Bool}
    (h : Running s) (hstale : NoStaleRead x s (.refresh order conditionsOk)) :
    NeverOlder s (s.step x cfg (.refresh order conditionsOk)) := by
  intro e e' he he' a last hlast
  rcases refresh_cases x cfg order conditionsOk he with
    hs | ⟨rows, e'', hrows, hs, _, hload⟩
  · rw [hs, he] at he'
    cases he'
    exact ⟨last, hlast, le_refl _⟩
  · rw [hs] at he'
    cases he'
    rw [hload]
    -- an alert with a row takes the time of its column, one without keeps what the map had
    by_cases hmem : ∃ r ∈ rows.filterMap (AlertEngine.buildRule x), r.alertId = a
    · obtain ⟨r, hr, rfl⟩ := hmem
      rw [AlertDedup.lookup_loadFromAlerts
        (AlertEngine.filterMap_buildRule_nodup (Db.fetchAlertRows_nodup hrows)) hr]
      cases hcol : r.lastTriggeredAt with
      | none => exact ⟨last, hlast, le_refl _⟩
      | some time =>
        refine ⟨time, rfl, ?_⟩
        obtain ⟨row, hrow, hb⟩ := List.mem_filterMap.mp hr
        obtain ⟨a, ha, harow⟩ := (Db.mem_fetchAlertRows_iff hrows).mp hrow
        have hid : r.alertId = a.id :=
          (AlertEngine.buildRule_alertId hb).trans (Db.alertRow_eq harow).1
        have hat : a.lastTriggeredAt = some time := by
          rw [← (Db.alertRow_eq harow).2, ← AlertEngine.buildRule_lastTriggeredAt hb, hcol]
        rw [hid] at hlast
        rcases h.recorded e he a ha last hlast with ⟨f, hf, rfl⟩ | hsame
        -- the recorded time is the last firing: either it was written, or a read of it is stale
        · cases hp : f.persistedAt with
          | none => exact hstale a ha row harow (by rw [hb]; rfl) f hf hp time hat
          | some p =>
            obtain ⟨hcolumn, hle⟩ := h.written a ha f hf p hp
            rw [hat] at hcolumn
            rw [Option.some.inj hcolumn]
            exact hle
        · rw [hat] at hsame
          rw [Option.some.inj hsame]
    · have hno : ∀ r ∈ rows.filterMap (AlertEngine.buildRule x), r.alertId ≠ a :=
        fun r hr heq => hmem ⟨r, hr, heq⟩
      rw [AlertDedup.lookup_loadFromAlerts_of_not_mem hno]
      exact ⟨last, hlast, le_refl _⟩

/-- **A tick marks what it fires**, so the map does not fall behind the log. -/
theorem memory_tick {update : PriceUpdate} {env : TickEnv} {now : NaiveDateTime} (hids : Ids s)
    {e e' : AlertEngine} (he : s.engine = some e)
    (hmemory : ∀ a f, lastFiring s.log a = some f →
      ∃ last, e.dedup.lastTriggered.lookup a = some last ∧ f.firedAt ≤ last)
    (he' : (s.step x cfg (.tick update env now)).engine = some e') {a : Int} {f : Firing}
    (hf : lastFiring (s.step x cfg (.tick update env now)).log a = some f) :
    ∃ last, e'.dedup.lastTriggered.lookup a = some last ∧ f.firedAt ≤ last := by
  obtain ⟨fired, hlog, _, hnd, _, hengine⟩ := tick_cases x cfg update env now he hids
  obtain ⟨_, hmarked, hkeep⟩ := hengine e' he'
  rw [hlog] at hf
  -- the last firing is of this tick, and marked, or of an earlier one, and its mark was kept
  rcases lastFiring_append_cases hnd s.log a with ⟨g, hg, rfl, hlast⟩ | ⟨hno, hlast⟩
  · rw [hlast] at hf
    obtain rfl := Option.some.inj hf
    exact ⟨_, hmarked _ hg, le_refl _⟩
  · rw [hlast] at hf
    rw [hkeep a hno]
    exact hmemory a f hf

theorem running_tick {update : PriceUpdate} {env : TickEnv} {now : NaiveDateTime}
    (h : Running s) (hen : s.Enabled (.tick update env now)) :
    Running (s.step x cfg (.tick update env now)) := by
  cases he : s.engine with
  | none => simpa only [step, he] using h
  | some e =>
    have hids := ids_step x cfg h.ids hen
    have hsep := separated_step x cfg h.ids h.memoryCurrent h.separated hen
    obtain ⟨fired, hlog, hdb, hnd, hfired, hengine⟩ := tick_cases x cfg update env now he h.ids
    obtain ⟨hseq, hrows⟩ := persistAll_alerts hnd s.db
    have hcases := lastFiring_append_cases hnd s.log
    refine ⟨hids, ?_, ?_, ?_, ?_, hsep⟩
    · exact fun e' he' a f hf => memory_tick h.ids he (h.memory e he) he' hf
    · intro e' he' a last hlook
      obtain ⟨_, _, hkeep⟩ := hengine e' he'
      rw [hdb, hseq]
      rcases hcases a with ⟨g, hg, rfl, _⟩ | ⟨hno, _⟩
      · obtain ⟨r, hr, _, rfl, _⟩ := hfired g hg
        exact h.ids.cached e he _ r hr
      · rw [hkeep a hno] at hlook
        exact h.known e he a last hlook
    -- the column of an alert that fired is the time that was persisted with the firing
    · intro a' ha' f hf p hp
      rw [hdb] at ha'
      rw [hlog] at hf
      obtain ⟨a, ha, hid, hsame, hwrite⟩ := hrows a' ha'
      rw [hid] at hf
      rcases hcases a.id with ⟨g, hg, hga, hlast⟩ | ⟨hno, hlast⟩
      · rw [hlast] at hf
        obtain rfl := Option.some.inj hf
        rw [hwrite _ hg hga, hp]
        obtain ⟨r, _, message, rfl, _⟩ := hfired _ hg
        refine ⟨rfl, ?_⟩
        have hp' : env.persist r.alertId = p := by
          simp only [AlertEngine.firingOf] at hp
          split at hp
          · exact Option.some.inj hp
          · cases hp
        rw [← hp']
        exact (hen r.alertId).2.2.1
      · rw [hlast] at hf
        rw [hsame hno]
        exact h.written a ha f hf p hp
    -- a mark is the time of the last firing, or the alert did not fire and all is as it was
    · intro e' he' a' ha' last hlook
      obtain ⟨_, hmarked, hkeep⟩ := hengine e' he'
      rw [hdb] at ha'
      obtain ⟨a, ha, hid, hsame, _⟩ := hrows a' ha'
      rw [hid] at hlook ⊢
      rw [hlog]
      rcases hcases a.id with ⟨g, hg, hga, hlast⟩ | ⟨hno, hlast⟩
      · rw [← hga, hmarked g hg] at hlook
        exact .inl ⟨g, hlast, (Option.some.inj hlook).symm⟩
      · rw [hkeep a.id hno] at hlook
        rw [hlast, hsame hno]
        exact h.recorded e he a ha last hlook

theorem running_refresh {order : List Nat} {conditionsOk : Bool} (h : Running s)
    (hstale : NoStaleRead x s (.refresh order conditionsOk)) :
    Running (s.step x cfg (.refresh order conditionsOk)) := by
  cases he : s.engine with
  | none => simpa only [step, he] using h
  | some e =>
    have holder := refresh_neverOlder cfg h hstale
    have hids := ids_step x cfg h.ids (show s.Enabled (.refresh order conditionsOk) from trivial)
    rcases refresh_cases x cfg order conditionsOk he with
      hs | ⟨rows, e', hrows, hs, _, hload⟩
    · rw [hs]; exact h
    · rw [hs] at holder hids ⊢
      have hnd := AlertEngine.filterMap_buildRule_nodup (x := x) (Db.fetchAlertRows_nodup hrows)
      refine ⟨hids, ?_, ?_, h.written, ?_, h.separated⟩
      -- what the map had it has still, or newer: the refresh reads nothing stale
      · rintro e'' he'' a f hf
        cases he''
        obtain ⟨last, hlook, hle⟩ := h.memory e he a f hf
        obtain ⟨last', hlook', hle'⟩ := holder e e' he rfl a last hlook
        exact ⟨last', hlook', hle.trans hle'⟩
      · rintro e'' he'' a last hlook
        cases he''
        rw [hload] at hlook
        by_cases hmem : ∃ r ∈ rows.filterMap (AlertEngine.buildRule x), r.alertId = a
        · obtain ⟨r, hr, rfl⟩ := hmem
          obtain ⟨a, ha, hid, _⟩ := rule_of_row hrows hr
          rw [hid]
          exact (s.db.alerts.bound a ha).2
        · rw [AlertDedup.lookup_loadFromAlerts_of_not_mem
            fun r hr heq => hmem ⟨r, hr, heq⟩] at hlook
          exact h.known e he a last hlook
      · rintro e'' he'' a ha last hlook
        cases he''
        rw [hload] at hlook
        by_cases hmem : ∃ r ∈ rows.filterMap (AlertEngine.buildRule x), r.alertId = a.id
        · obtain ⟨r, hr, hra⟩ := hmem
          obtain ⟨a', ha', hid, hlastAt⟩ := rule_of_row hrows hr
          obtain rfl : a = a' := Table.eq_of_key ha ha' (hra.symm.trans hid)
          rw [← hra, AlertDedup.lookup_loadFromAlerts hnd hr, hlastAt] at hlook
          cases hcol : a.lastTriggeredAt with
          -- an empty column leaves the mark that was there
          | none =>
            rw [hcol, Option.none_or, hra] at hlook
            have := h.recorded e he a ha last hlook
            rw [hcol] at this
            exact this
          | some time =>
            rw [hcol, Option.some_or] at hlook
            exact .inr hlook
        · rw [AlertDedup.lookup_loadFromAlerts_of_not_mem
            fun r hr heq => hmem ⟨r, hr, heq⟩] at hlook
          exact h.recorded e he a ha last hlook

theorem running_change {db : Db} (h : Running s) (hen : s.db.OthersChange db) :
    Running (s.step x cfg (.change db)) := by
  have hids := ids_step x cfg h.ids (show s.Enabled (.change db) from hen)
  refine ⟨hids, h.memory, fun e he a last hlook => (h.known e he a last hlook).trans hen.seq,
    ?_, ?_, h.separated⟩
  · intro a' ha' f hf p hp
    -- an alert that is new has an id above every id that fired
    rcases hen.alerts a' ha' with ⟨a, ha, hid, hkeep⟩ | ⟨hnew, _⟩
    · rw [hid] at hf
      rw [hkeep]
      exact h.written a ha f hf p hp
    · obtain ⟨hmem, hid⟩ := lastFiring_mem hf
      have := h.ids.fired f hmem
      omega
  · intro e he a' ha' last hlook
    rcases hen.alerts a' ha' with ⟨a, ha, hid, hkeep⟩ | ⟨hnew, _⟩
    · rw [hid] at hlook ⊢
      rw [hkeep]
      exact h.recorded e he a ha last hlook
    · have := h.known e he a'.id last hlook
      omega

/-- **Cooldowns survive failed writes as long as no refresh reads a stale time.** Here the run is
    one process that is never stopped, and any write may fail: then only the map in memory knows of
    the firing, and a refresh would put the older time of the column over it. If none does, the
    firings stay apart, and no refresh makes a recorded time older either. -/
theorem separated_of_current {t : System} {es : List SystemEvent}
    (hnew : s.engine = some AlertEngine.new) (hlog : s.log = [])
    (hrun : Steps (fun a ev b => a.Step x cfg ev b ∧ InProcess ev ∧ NoStaleRead x a ev) s es t) :
    Separated t.log ∧ ∀ order conditionsOk, NoStaleRead x t (.refresh order conditionsOk) →
      NeverOlder t (t.step x cfg (.refresh order conditionsOk)) := by
  have hlookup : ∀ e, s.engine = some e → ∀ a, e.dedup.lastTriggered.lookup a = none := by
    intro e he a
    rw [hnew] at he
    cases he
    rfl
  have hrules : ∀ e, s.engine = some e → ∀ t, e.rulesOf t = [] := by
    intro e he t
    rw [hnew] at he
    cases he
    rfl
  have h0 : Running s := by
    refine ⟨⟨by simp [hlog], ?_, ?_⟩, ?_, ?_, ?_, ?_, by rw [hlog]; exact separated_nil⟩
    · intro e he t r hr
      rw [hrules e he t] at hr
      cases hr
    · intro e he t
      rw [hrules e he t]
      exact List.nodup_nil
    · intro e he a f hf
      simp [hlog, lastFiring] at hf
    · intro e he a last hlook
      rw [hlookup e he a] at hlook
      cases hlook
    · intro a _ f hf
      simp [hlog, lastFiring] at hf
    · intro e he a _ last hlook
      rw [hlookup e he a.id] at hlook
      cases hlook
  have ht : Running t := by
    refine hrun.inv (I := Running) h0 ?_
    rintro a ev b h ⟨⟨hen, rfl⟩, hin, hstale⟩
    cases ev with
    | tick update env now => exact running_tick h hen
    | refresh order conditionsOk => exact running_refresh h hstale
    | refreshFailed => exact h
    | change db => exact running_change h hen
    | stop => exact hin.elim
    | start => exact hin.elim
  exact ⟨ht.separated, fun _ _ hstale => refresh_neverOlder cfg ht hstale⟩

/-- A process that has just started. -/
def upAtZero : System := { downAtZero with engine := some AlertEngine.new }

/-- A firing whose write fails, with nothing written before it: the refresh reads no time. -/
theorem separated_of_current_failed_write :
    Separated (runFrom upAtZero
      [.refresh [] true, tickAt 0 false, .refresh [] true, tickAt 61 true]).log := by
  -- no alert has a time in the database
  have hnone : ∀ a ∈ ((upAtZero.step Crates.reference ⟨60⟩ (.refresh [] true)).step Crates.reference
      ⟨60⟩ (tickAt 0 false)).db.alerts.rows, a.lastTriggeredAt = none := by decide +kernel
  have h : Along (fun s ev => InProcess ev ∧ NoStaleRead Crates.reference s ev) upAtZero
      [.refresh [] true, tickAt 0 false, .refresh [] true, tickAt 61 true] := by
    refine ⟨trivial, ⟨trivial, ?_⟩, enabled_tickAt (by decide +kernel), ⟨trivial, trivial⟩,
      trivial, ⟨trivial, ?_⟩, enabled_tickAt (by decide +kernel), ⟨trivial, trivial⟩, trivial⟩
    · intro a _ _ _ _ f hf
      simp [upAtZero, downAtZero, lastFiring] at hf
    · intro a ha _ _ _ _ _ _ last hlast
      rw [hnone a ha] at hlast
      cases hlast
  exact (separated_of_current rfl rfl (Along.steps h)).1

/-- What the alert of `upAtZero` fires `m` minutes in. -/
def firingAt (m : Int) (persisted : Bool) : Firing :=
  let request : NotificationRequest := ⟨7, "bot", "🔔 <b>Price Alert</b>\n\n📊 Will it?\n📈 Type: Above " ++
    "75.00%\n💰 Current: 0.75\n⏰ 1970-01-01 00:00:00 UTC", .alert⟩
  ⟨1, 60, Duration.minutes m, request, true, if persisted then some (Duration.minutes m) else none⟩

/-- **A stale read breaks the cooldown**: a firing that is written, a firing an hour later that is
    not, a refresh, and a firing one minute after the second. Every step is one the source takes;
    the refresh brings back the time of the first firing. -/
theorem stale_refresh_breaks_cooldown :
    Steps (fun a ev b => a.Step Crates.reference ⟨60⟩ ev b ∧ InProcess ev) upAtZero
      [.refresh [] true, tickAt 0 true, tickAt 61 false, .refresh [] true, tickAt 62 true]
      (runFrom upAtZero
        [.refresh [] true, tickAt 0 true, tickAt 61 false, .refresh [] true, tickAt 62 true]) ∧
    ¬ Separated (runFrom upAtZero
      [.refresh [] true, tickAt 0 true, tickAt 61 false, .refresh [] true, tickAt 62 true]).log := by
  constructor
  · have h : Along (fun _ => InProcess) upAtZero
        [.refresh [] true, tickAt 0 true, tickAt 61 false, .refresh [] true, tickAt 62 true] :=
      ⟨trivial, trivial, enabled_tickAt (by decide +kernel), trivial,
        enabled_tickAt (by decide +kernel), trivial, trivial, trivial,
        enabled_tickAt (by decide +kernel), trivial, trivial⟩
    exact h.steps
  · intro h
    have hlog : (runFrom upAtZero [.refresh [] true, tickAt 0 true, tickAt 61 false, .refresh [] true,
        tickAt 62 true]).log = [firingAt 0 true, firingAt 61 false, firingAt 62 true] := by
      decide +kernel
    rw [hlog] at h
    have := h [firingAt 0 true] (firingAt 61 false) [] (firingAt 62 true) [] rfl rfl (by simp)
    exact absurd this (by decide)

end System

end PolyNotifier
