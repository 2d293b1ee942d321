import PolyNotifier.Alert.Engine
import PolyNotifier.Common.Reference

/-!
# What the engine is for

The engine spreads what it knows over a rule cache by token, a map of prices and a map of
cooldowns, and each event touches some of them. What it is for needs none of that: a `Watch` is
the rows of the last successful refresh, the last price of each token, and the time each alert
last fired or was said to have fired. An alert is `Due` at a tick if its row is well formed and
selects the token, its condition holds, and its time is far enough back.

`after_refines` is the simulation: over any run, the engine's state is the watch's state, seen
through `Represents`. From it, a tick fires exactly the alerts that are due.
-/

namespace PolyNotifier

/-! ## Events -/

/-- What the loop of `AlertEngine::run` handles. A refresh carries the rows its queries answered
    and a tick the readings of its clock, so that a run is a list of events and nothing else has to
    be said about the outside. -/
inductive EngineEvent where
  | refresh (rows : List AlertRow) (conditions : Option (List ConditionRow))
  | refreshFailed
  | tick (update : PriceUpdate) (env : AlertEngine.TickEnv)
  | lagged (skipped : Nat)

namespace AlertEngine

variable (x : Crates) (cfg : EngineConfig)

/-- One event, and what it fires. `none`: the task has panicked, and whatever comes finds nobody. A
    lag only loses ticks; what it lost, the state does not show. -/
def step : Option AlertEngine → EngineEvent → Option AlertEngine × List Firing
  | none, _ => (none, [])
  | some e, .refresh rows conditions => (some (refreshCache x (some rows) conditions e), [])
  | some e, .refreshFailed => (some (refreshCache x none none e), [])
  | some e, .tick update env =>
      let (e', fired, panicked) := handlePriceUpdate x cfg env update e
      (if panicked then none else some e', fired)
  | some e, .lagged _ => (some e, [])

/-- The engine after a run from its empty state. -/
def after (es : List EngineEvent) : Option AlertEngine :=
  es.foldl (fun e ev => (step x cfg e ev).1) (some new)

/-- What the channel holds for an alert of what a tick fired, in order. A firing whose request was
    refused is in the list of the tick and not in the channel. -/
def enqueuedFor (fired : List Firing) (a : Int) : List NotificationRequest :=
  (fired.filter fun f => f.alertId == a && f.enqueued).map Firing.request

end AlertEngine

/-! ## The watch -/

/-- What the engine knows, without how it keeps it: rows for the cache by token, and functions for
    the two maps. The rows stay as they were read, also those that are not well formed; it is `Due`
    that passes them over. -/
structure Watch where
  rows : List AlertRow
  lastPrice : String → Option Decimal
  /-- When an alert last fired, or is recorded to have fired. -/
  fireTime : Int → Option NaiveDateTime

namespace Watch

open AlertEngine (TickEnv)

section

variable (x : Crates) (cfg : EngineConfig)

def start : Watch := ⟨[], fun _ => none, fun _ => none⟩

/-- The row says which token to watch and for what. -/
def WellFormed (row : AlertRow) : Prop :=
  ∃ tokenIds tokenId alertType, x.parseStrings row.tokenIds = some tokenIds ∧
    tokenIds[asUsize row.outcomeIndex]? = some tokenId ∧
    AlertType.fromStr row.alertType = some alertType

/-- The condition of the row, on a price and the price before it. It is stated on the row, in the
    words of the three alert types, and does not go through `evaluate`, which `evaluate_iff_holds`
    compares it with. -/
def Holds (row : AlertRow) (current : Decimal) (previous : Option Decimal) : Prop :=
  let threshold := (x.decimalTryFrom row.threshold).getD Decimal.zero
  match AlertType.fromStr row.alertType with
  | some .above => threshold ≤ current
  | some .below => current ≤ threshold
  | some .cross => ∃ prev, previous = some prev ∧
      (prev < threshold ∧ threshold ≤ current ∨ threshold < prev ∧ current ≤ threshold)
  | none => False

/-- The cooldown of the row, in minutes. -/
def cooldown (row : AlertRow) : Int :=
  if 0 < row.cooldownMinutes then row.cooldownMinutes else asI32 cfg.defaultCooldownMinutes

/-- The alert of the row has to fire at this tick. All four clauses are about the watch before the
    tick: what another alert does in the same tick does not enter, and that the engine's loop
    behaves as if it did not is part of what is proved. -/
structure Due (w : Watch) (update : PriceUpdate) (env : TickEnv) (row : AlertRow) : Prop where
  mem : row ∈ w.rows
  selects : ∃ tokenIds, x.parseStrings row.tokenIds = some tokenIds ∧
    tokenIds[asUsize row.outcomeIndex]? = some update.tokenId
  holds : Holds x row update.price (w.lastPrice update.tokenId)
  cooled : ∀ last, w.fireTime row.alertId = some last →
    env.check row.alertId - last > Duration.minutes (cooldown cfg row)

open Classical in
/-- The time a refresh records for an alert: that of its first well formed row. Where alerts are
    distinct there is only one, and a row without a time says nothing, so the watch then keeps the
    time it had. -/
noncomputable def loaded (rows : List AlertRow) (a : Int) : Option NaiveDateTime :=
  (rows.find? fun row => row.alertId = a ∧ WellFormed x row).bind AlertRow.lastTriggeredAt

open Classical in
/-- One event. At a tick all alerts are judged at once on the watch before it, and the firing ones
    get their times together; the engine goes rule by rule and marks in between. The definition is
    classical, since it only has to be compared with, never run. -/
noncomputable def step (w : Watch) : EngineEvent → Watch
  | .refresh rows _ =>
      { w with rows := rows, fireTime := fun a => (loaded x rows a).or (w.fireTime a) }
  | .refreshFailed => w
  | .tick update env =>
      { w with
        lastPrice := fun t => if t = update.tokenId then some update.price else w.lastPrice t
        fireTime := fun a =>
          if ∃ row, row.alertId = a ∧ Due x cfg w update env row then some (env.mark a)
          else w.fireTime a }
  | .lagged _ => w

noncomputable def after (es : List EngineEvent) : Watch := es.foldl (step x cfg) start

/-- The percentage of the row's threshold can be computed. -/
def Fits (row : AlertRow) : Prop :=
  (((x.decimalTryFrom row.threshold).getD Decimal.zero).checkedMul Decimal.hundred).isSome

/-- Every threshold that is a fraction of one fits. -/
theorem fits_of_unit {row : AlertRow}
    (h0 : Decimal.zero ≤ (x.decimalTryFrom row.threshold).getD Decimal.zero)
    (h1 : (x.decimalTryFrom row.threshold).getD Decimal.zero ≤ ⟨1, 0, by decide, by decide⟩) :
    Fits x row := Decimal.checkedMul_hundred_isSome h0 h1

/-- What the database promises of a snapshot, and that no message panics. Distinct alerts come from
    the primary key; that the percentages fit is the one thing nobody checks, and
    `overflow_loses_alert` shows what happens without it. -/
def Admissible : EngineEvent → Prop
  | .refresh rows _ => (rows.map AlertRow.alertId).Nodup ∧ ∀ row ∈ rows, WellFormed x row → Fits x row
  | _ => True

end

/-! ## The engine refines the watch -/

open AlertEngine

variable {x : Crates} {cfg : EngineConfig}

theorem wellFormed_iff {row : AlertRow} : WellFormed x row ↔ ∃ r, buildRule x row = some r := by
  constructor
  · rintro ⟨tokenIds, tokenId, alertType, hids, htok, htype⟩
    unfold buildRule
    rw [hids, Option.bind_some, htok, Option.bind_some, htype, Option.bind_some]
    exact ⟨_, rfl⟩
  · rintro ⟨r, hr⟩
    obtain ⟨tokenIds, hids, htok, htype, _⟩ := buildRule_eq_some.mp hr
    exact ⟨tokenIds, r.tokenId, r.alertType, hids, htok, htype⟩

/-- The rule of a row evaluates to the row's condition. -/
theorem evaluate_iff_holds {row : AlertRow} {r : AlertRule} (hr : buildRule x row = some r)
    (current : Decimal) (previous : Option Decimal) :
    r.evaluate current previous ↔ Holds x row current previous := by
  obtain ⟨_, _, _, htype, heq⟩ := buildRule_eq_some.mp hr
  have hthr : r.threshold = (x.decimalTryFrom row.threshold).getD Decimal.zero := by rw [heq]
  unfold AlertRule.evaluate Holds
  rw [htype, ← hthr]
  cases r.alertType with
  | above => simp
  | below => simp
  | cross => cases previous <;> simp

/-- The engine's state is the watch's state. The first three clauses read the three maps; the last
    two are what the proofs of a tick need of the rows, and a refresh is where they are
    established. -/
structure Represents (e : AlertEngine) (w : Watch) : Prop where
  rules : ∀ t, e.rulesOf t = (w.rows.filterMap (buildRule x)).filter fun r => r.tokenId == t
  prices : ∀ t, e.prevPrices.lookup t = w.lastPrice t
  times : ∀ a, e.dedup.lastTriggered.lookup a = w.fireTime a
  nodup : (w.rows.map AlertRow.alertId).Nodup
  fits : ∀ row ∈ w.rows, WellFormed x row → Fits x row

theorem represents_start : Represents (x := x) AlertEngine.new start where
  rules _ := rfl
  prices _ := rfl
  times _ := rfl
  nodup := List.nodup_nil
  fits _ h := nomatch h

/-- The time a refresh records is the time the cooldown map loads. -/
theorem lookup_load_rows {rows : List AlertRow} (hnd : (rows.map AlertRow.alertId).Nodup)
    (d : AlertDedup) (a : Int) :
    (d.loadFromAlerts (rows.filterMap (buildRule x))).lastTriggered.lookup a
      = (loaded x rows a).or (d.lastTriggered.lookup a) := by
  classical
  unfold loaded
  cases hf : rows.find? fun row => row.alertId = a ∧ WellFormed x row with
  | none =>
    have hnone := List.find?_eq_none.mp hf
    refine AlertDedup.lookup_loadFromAlerts_of_not_mem fun r hr heq => ?_
    obtain ⟨row, hrow, hb⟩ := List.mem_filterMap.mp hr
    have := hnone row hrow
    simp only [decide_eq_true_eq] at this
    exact this ⟨(buildRule_alertId hb).symm.trans heq, wellFormed_iff.mpr ⟨r, hb⟩⟩
  | some row =>
    have hprop := List.find?_some hf
    simp only [decide_eq_true_eq] at hprop
    obtain ⟨rfl, hwf⟩ := hprop
    obtain ⟨r, hb⟩ := wellFormed_iff.mp hwf
    have hmem : r ∈ rows.filterMap (buildRule x) :=
      List.mem_filterMap.mpr ⟨row, List.mem_of_find?_eq_some hf, hb⟩
    rw [← buildRule_alertId hb,
      AlertDedup.lookup_loadFromAlerts (filterMap_buildRule_nodup hnd) hmem,
      buildRule_lastTriggeredAt hb]
    rfl

/-- A refresh rebuilds what the watch keeps of it. -/
theorem represents_refresh {e : AlertEngine} {w : Watch} (h : Represents (x := x) e w)
    {rows : List AlertRow} {conditions : Option (List ConditionRow)}
    (hok : Admissible x (.refresh rows conditions)) :
    Represents (x := x) (refreshCache x (some rows) conditions e)
      (step x cfg w (.refresh rows conditions)) where
  rules t := by
    exact rulesOf_refreshCache x rows conditions e t
  prices t := by
    have : (refreshCache x (some rows) conditions e).prevPrices = e.prevPrices := by
      cases conditions <;> rfl
    rw [this]
    exact h.prices t
  times a := by
    have : (refreshCache x (some rows) conditions e).dedup
        = e.dedup.loadFromAlerts (rows.filterMap (buildRule x)) := by cases conditions <;> rfl
    rw [this, lookup_load_rows hok.1, h.times a]
    rfl
  nodup := hok.1
  fits := hok.2

/-! ### One tick -/

section Tick

variable {e : AlertEngine} {w : Watch} {update : PriceUpdate} {env : TickEnv}

/-- The rules of the tick's token: one for each well formed row that selects it. -/
theorem mem_rulesOf (h : Represents (x := x) e w) {r : AlertRule} {t : String} :
    r ∈ e.rulesOf t ↔ ∃ row ∈ w.rows, buildRule x row = some r ∧ r.tokenId = t := by
  rw [h.rules, List.mem_filter, List.mem_filterMap]
  constructor
  · rintro ⟨⟨row, hrow, hb⟩, ht⟩
    exact ⟨row, hrow, hb, by simpa using ht⟩
  · rintro ⟨row, hrow, hb, ht⟩
    exact ⟨⟨row, hrow, hb⟩, by simpa using ht⟩

theorem rulesOf_nodup (h : Represents (x := x) e w) (t : String) :
    ((e.rulesOf t).map AlertRule.alertId).Nodup := by
  rw [h.rules]
  exact (filterMap_buildRule_nodup h.nodup).sublist (List.filter_sublist.map _)

theorem rulesOf_fits (h : Represents (x := x) e w) (update : PriceUpdate) (t : String) :
    ∀ r ∈ e.rulesOf t, (formatNotification x r update.price update).isSome := by
  intro r hr
  obtain ⟨row, hrow, hb, _⟩ := (mem_rulesOf h).mp hr
  have hfit := h.fits row hrow (wellFormed_iff.mpr ⟨r, hb⟩)
  obtain ⟨_, _, _, _, heq⟩ := buildRule_eq_some.mp hb
  have hthr : r.threshold = (x.decimalTryFrom row.threshold).getD Decimal.zero := by rw [heq]
  rw [Fits, ← hthr] at hfit
  rw [formatNotification, Option.isSome_map]
  exact hfit

variable (cfg update env) in
/-- **The engine fires the rule of a row if and only if the row is due.** -/
theorem mayFire_iff_due (h : Represents (x := x) e w) {row : AlertRow} {r : AlertRule}
    (hrow : row ∈ w.rows) (hb : buildRule x row = some r) :
    (r.tokenId = update.tokenId ∧
      mayFire cfg env update (e.prevPrices.lookup update.tokenId) e.dedup r)
      ↔ Due x cfg w update env row := by
  obtain ⟨tokenIds, hids, htok, _, heq⟩ := buildRule_eq_some.mp hb
  have hid : r.alertId = row.alertId := buildRule_alertId hb
  have hcool : effectiveCooldown cfg r = cooldown cfg row := by
    rw [effectiveCooldown, cooldown, heq]
  have hcan : e.dedup.canFire (env.check row.alertId) row.alertId (cooldown cfg row) ↔
      ∀ last, w.fireTime row.alertId = some last →
        env.check row.alertId - last > Duration.minutes (cooldown cfg row) := by
    rw [AlertDedup.canFire, h.times]
    cases w.fireTime row.alertId <;> simp
  rw [mayFire, Bool.and_eq_true, hid, hcool, h.prices, evaluate_iff_holds hb, hcan]
  constructor
  · rintro ⟨ht, hholds, hcooled⟩
    exact ⟨hrow, ⟨tokenIds, hids, ht ▸ htok⟩, hholds, hcooled⟩
  · rintro ⟨_, ⟨tokenIds', hids', htok'⟩, hholds, hcooled⟩
    obtain rfl : tokenIds = tokenIds' := Option.some.inj (hids.symm.trans hids')
    exact ⟨Option.some.inj (htok.symm.trans htok'), hholds, hcooled⟩

/-- What a rule of the tick fires, as the watch has it. -/
theorem fires_eq_some_iff (h : Represents (x := x) e w) {r : AlertRule}
    (hr : r ∈ e.rulesOf update.tokenId) :
    (∃ f, fires x cfg env update (e.prevPrices.lookup update.tokenId) e.dedup r = some f) ↔
      ∃ row, row.alertId = r.alertId ∧ Due x cfg w update env row := by
  obtain ⟨row, hrow, hb, ht⟩ := (mem_rulesOf h).mp hr
  have hfit := rulesOf_fits h update update.tokenId r hr
  rw [Option.isSome_iff_exists] at hfit
  obtain ⟨message, hm⟩ := hfit
  have hdue := mayFire_iff_due cfg update env h hrow hb
  unfold fires
  constructor
  · rintro ⟨f, hf⟩
    split at hf
    · rename_i hmay
      exact ⟨row, (buildRule_alertId hb).symm, hdue.mp ⟨ht, hmay⟩⟩
    · cases hf
  · rintro ⟨row', hid, hd⟩
    -- the due row is the row of this rule: each alert has one row
    obtain rfl : row' = row := List.inj_on_of_nodup_map h.nodup hd.mem hrow
      (hid.trans (buildRule_alertId hb))
    rw [if_pos (hdue.mpr hd).2, hm]
    exact ⟨_, rfl⟩

/-- A due row has its rule among the rules of the tick. -/
theorem rule_of_due (h : Represents (x := x) e w) {row : AlertRow}
    (hd : Due x cfg w update env row) :
    ∃ r ∈ e.rulesOf update.tokenId, buildRule x row = some r := by
  obtain ⟨tokenIds, hids, htok⟩ := hd.selects
  have hwf : WellFormed x row := by
    have hholds := hd.holds
    unfold Holds at hholds
    cases htype : AlertType.fromStr row.alertType with
    | none => rw [htype] at hholds; exact hholds.elim
    | some k => exact ⟨tokenIds, _, k, hids, htok, htype⟩
  obtain ⟨r, hb⟩ := wellFormed_iff.mp hwf
  exact ⟨r, (mem_rulesOf h).mpr ⟨row, hd.mem, hb,
    ((mayFire_iff_due cfg _ _ h hd.mem hb).mpr hd).1⟩, hb⟩

variable (cfg update env) in
theorem represents_tick (h : Represents (x := x) e w) :
    (handlePriceUpdate x cfg env update e).2.2 = false ∧
    (handlePriceUpdate x cfg env update e).2.1 = (e.rulesOf update.tokenId).filterMap
      (fires x cfg env update (e.prevPrices.lookup update.tokenId) e.dedup) ∧
    Represents (x := x) (handlePriceUpdate x cfg env update e).1
      (step x cfg w (.tick update env)) := by
  classical
  obtain ⟨hp, hf, hin, hout⟩ := foldl_tryRule cfg env update
    (e.prevPrices.lookup update.tokenId) (s := ⟨e.dedup, [], false⟩) rfl (rulesOf_nodup h update.tokenId)
    (rulesOf_fits h update update.tokenId)
  refine ⟨hp, hf.trans (List.nil_append _), ⟨h.rules, ?_, ?_, h.nodup, h.fits⟩⟩
  · intro t
    by_cases ht : t = update.tokenId
    · subst ht
      show (e.prevPrices.insert update.tokenId update.price).lookup update.tokenId = _
      rw [Finmap.lookup_insert]
      simp [step]
    · show (e.prevPrices.insert update.tokenId update.price).lookup t = _
      rw [Finmap.lookup_insert_of_ne _ ht, h.prices]
      simp [step, ht]
  · intro a
    show (tickState x cfg env update e).dedup.lastTriggered.lookup a =
      if ∃ row, row.alertId = a ∧ Due x cfg w update env row then some (env.mark a)
      else w.fireTime a
    -- an alert with a rule on this token is decided by the loop, any other keeps its time
    by_cases hmem : ∃ r ∈ e.rulesOf update.tokenId, r.alertId = a
    · obtain ⟨r, hr, rfl⟩ := hmem
      rw [tickState, hin r hr, ← fires_eq_some_iff h hr]
      cases hfr : fires x cfg env update (e.prevPrices.lookup update.tokenId) e.dedup r with
      | none => rw [if_neg (by simp)]; exact h.times _
      | some f =>
        rw [if_pos ⟨f, rfl⟩, Option.map_some, (fires_alertId hfr).2]
        rfl
    · have hno : ∀ r ∈ e.rulesOf update.tokenId, r.alertId ≠ a := fun r hr heq =>
        hmem ⟨r, hr, heq⟩
      rw [tickState, hout a hno, if_neg, h.times]
      rintro ⟨row, rfl, hd⟩
      obtain ⟨r, hr, hb⟩ := rule_of_due h hd
      exact hno r hr (buildRule_alertId hb)

end Tick

variable (cfg) in
/-- **The engine refines the watch.** -/
theorem after_refines {es : List EngineEvent} (hes : ∀ ev ∈ es, Admissible x ev) :
    ∃ e, AlertEngine.after x cfg es = some e ∧ Represents (x := x) e (after x cfg es) := by
  induction es using List.reverseRecOn with
  | nil => exact ⟨_, rfl, represents_start⟩
  | append_singleton es ev ih =>
    obtain ⟨e, he, hrep⟩ := ih fun ev' hev' => hes ev' (by simp [hev'])
    have hstep : AlertEngine.after x cfg (es ++ [ev]) = (AlertEngine.step x cfg (some e) ev).1 := by
      rw [AlertEngine.after, List.foldl_append, ← AlertEngine.after, he]
      rfl
    have hwatch : after x cfg (es ++ [ev]) = step x cfg (after x cfg es) ev := by
      rw [after, List.foldl_append]
      rfl
    rw [hstep, hwatch]
    cases ev with
    | refresh rows conditions =>
      exact ⟨_, rfl, represents_refresh hrep (hes _ (by simp))⟩
    | refreshFailed => exact ⟨e, rfl, hrep⟩
    | tick update env =>
      obtain ⟨hp, _, hrep'⟩ := represents_tick cfg update env hrep
      refine ⟨_, ?_, hrep'⟩
      show (if (handlePriceUpdate x cfg env update e).2.2 then none else _) = _
      rw [hp]
      rfl
    | lagged n => exact ⟨e, rfl, hrep⟩

/-! ## A tick fires exactly the alerts that are due -/

theorem enqueuedFor_cons (f : Firing) (fs : List Firing) (a : Int) :
    enqueuedFor (f :: fs) a
      = if f.alertId == a && f.enqueued then f.request :: enqueuedFor fs a
        else enqueuedFor fs a := by
  unfold enqueuedFor
  rw [List.filter_cons]
  split <;> rfl

/-- What the channel holds for the alert of a rule is what that rule fired. -/
theorem enqueuedFor_filterMap {rules : List AlertRule} {F : AlertRule → Option Firing}
    (hid : ∀ r f, F r = some f → f.alertId = r.alertId ∧ f.enqueued = true)
    (hnd : (rules.map AlertRule.alertId).Nodup) (a : Int) :
    enqueuedFor (rules.filterMap F) a
      = (((rules.find? fun r => r.alertId == a).bind F).map Firing.request).toList := by
  induction rules with
  | nil => rfl
  | cons r rs ih =>
    rw [List.map_cons, List.nodup_cons] at hnd
    have hrest : r.alertId = a → enqueuedFor (rs.filterMap F) a = [] := by
      rintro rfl
      have hnone : rs.find? (fun r' => r'.alertId == r.alertId) = none := by
        rw [List.find?_eq_none]
        intro r' hr' heq
        exact hnd.1 (List.mem_map.mpr ⟨r', hr', by simpa using heq⟩)
      rw [ih hnd.2, hnone]
      rfl
    by_cases ha : r.alertId = a
    · rw [List.find?_cons_of_pos (by simpa using ha), Option.bind_some]
      cases hf : F r with
      | none => rw [List.filterMap_cons_none hf, hrest ha]; rfl
      | some f =>
        have hkeep : (f.alertId == a && f.enqueued) = true := by
          rw [(hid r f hf).1, (hid r f hf).2, ha]
          simp
        rw [List.filterMap_cons_some hf, enqueuedFor_cons, if_pos hkeep, hrest ha]
        rfl
    · rw [List.find?_cons_of_neg (by simpa using ha), ← ih hnd.2]
      cases hf : F r with
      | none => rw [List.filterMap_cons_none hf]
      | some f =>
        have hdrop : ¬ (f.alertId == a && f.enqueued) = true := by
          rw [(hid r f hf).1]
          simp [ha]
        rw [List.filterMap_cons_some hf, enqueuedFor_cons, if_neg hdrop]

/-- **The engine fires exactly the alerts that are due.** After any events, a tick enqueues one
    request for an alert that is due, addressed as its row says, and none for one that is not; and
    no other event enqueues anything. The watch keeps the rows and says of each whether it is due;
    the engine keeps rules, and a list of them for each token. -/
theorem fires_exactly_due {es : List EngineEvent} (hes : ∀ ev ∈ es, Admissible x ev)
    (update : PriceUpdate) (env : TickEnv) (hopen : ∀ a, env.sendOk a = true) (a : Int) :
    let fired := (AlertEngine.step x cfg (AlertEngine.after x cfg es) (.tick update env)).2
    (∀ row, row.alertId = a → Due x cfg (after x cfg es) update env row →
      ∃ message, enqueuedFor fired a = [⟨row.userTelegramId, row.botId, message, .alert⟩]) ∧
    ((∀ row, row.alertId = a → ¬ Due x cfg (after x cfg es) update env row) →
      enqueuedFor fired a = []) ∧
    (∀ ev, (∀ update env, ev ≠ .tick update env) →
      (AlertEngine.step x cfg (AlertEngine.after x cfg es) ev).2 = []) := by
  obtain ⟨e, he, hrep⟩ := after_refines cfg hes
  obtain ⟨_, hf, _⟩ := represents_tick cfg update env hrep
  have hfired : (AlertEngine.step x cfg (AlertEngine.after x cfg es) (.tick update env)).2
      = (e.rulesOf update.tokenId).filterMap
        (fires x cfg env update (e.prevPrices.lookup update.tokenId) e.dedup) := by
    rw [he]
    exact hf
  have henq := enqueuedFor_filterMap
    (F := fires x cfg env update (e.prevPrices.lookup update.tokenId) e.dedup)
    (fun r f hrf => ⟨(fires_alertId hrf).1, (fires_enqueued hrf).trans (hopen _)⟩)
    (rulesOf_nodup hrep update.tokenId) a
  -- both halves read the one rule of the alert off the list of the token
  refine ⟨?_, ?_, ?_⟩
  · rintro row rfl hd
    obtain ⟨r, hr, hb⟩ := rule_of_due hrep hd
    have hfind : (e.rulesOf update.tokenId).find? (fun r' => r'.alertId == row.alertId)
        = some r := by
      cases hfd : (e.rulesOf update.tokenId).find? fun r' => r'.alertId == row.alertId with
      | none =>
        have := List.find?_eq_none.mp hfd r hr
        simp [buildRule_alertId hb] at this
      | some r' =>
        have hr' := List.mem_of_find?_eq_some hfd
        have hid' : r'.alertId = row.alertId := by simpa using List.find?_some hfd
        rw [List.inj_on_of_nodup_map (rulesOf_nodup hrep update.tokenId) hr' hr
          (hid'.trans (buildRule_alertId hb).symm)]
    obtain ⟨f, hfr⟩ := (fires_eq_some_iff hrep hr).mpr ⟨row, (buildRule_alertId hb).symm, hd⟩
    obtain ⟨message, hreq⟩ := fires_request hfr
    obtain ⟨_, _, _, _, heq⟩ := buildRule_eq_some.mp hb
    refine ⟨message, ?_⟩
    show enqueuedFor _ _ = _
    rw [hfired, henq, hfind, Option.bind_some, hfr, Option.map_some, hreq, heq]
    rfl
  -- a rule that fires comes from a row that is due
  · intro hno
    show enqueuedFor _ _ = _
    rw [hfired, henq]
    cases hfd : (e.rulesOf update.tokenId).find? fun r' => r'.alertId == a with
    | none => rfl
    | some r =>
      have hr := List.mem_of_find?_eq_some hfd
      have hid : r.alertId = a := by simpa using List.find?_some hfd
      cases hfr : fires x cfg env update (e.prevPrices.lookup update.tokenId) e.dedup r with
      | none => rw [Option.bind_some, hfr]; rfl
      | some f =>
        obtain ⟨row, hrow, hd⟩ := (fires_eq_some_iff hrep hr).mp ⟨f, hfr⟩
        exact absurd hd (hno row (hrow.trans hid))
  · intro ev hev
    rw [he]
    cases ev with
    | tick update env => exact absurd rfl (hev update env)
    | refresh rows conditions => rfl
    | refreshFailed => rfl
    | lagged n => rfl

section Example

/-- A row of alert 1 on token `yes`, owned by Telegram user 7 of bot `bot`. -/
def rowOf (alertType : String) (threshold : F64) : AlertRow :=
  { alertId := 1, subscriptionId := 1, alertType, threshold, cooldownMinutes := 60,
    lastTriggeredAt := none, userTelegramId := 7, botId := "bot", outcomeIndex := 0,
    marketQuestion := "Will it?", tokenIds := "[\"yes\",\"no\"]" }

/-- A tick of token `yes` at three quarters. -/
def tickOfYes : PriceUpdate :=
  ⟨"yes", "0xc", .cents 75, 0⟩

/-- A tick all of whose calls succeed at once. -/
def calmEnv : TickEnv := ⟨fun _ => 0, fun _ => 0, fun _ => 0, fun _ => true, fun _ => true⟩

theorem parse_tokenIds : Crates.reference.parseStrings "[\"yes\",\"no\"]" = some ["yes", "no"] := by
  decide +kernel

/-- A row just loaded that holds is due. -/
theorem due_rowOf {alertType : String} {threshold : F64}
    (h : Holds Crates.reference (rowOf alertType threshold) tickOfYes.price none) :
    Due Crates.reference ⟨60⟩ (after Crates.reference ⟨60⟩ [.refresh [rowOf alertType threshold] none])
      tickOfYes calmEnv (rowOf alertType threshold) where
  mem := List.mem_singleton_self _
  selects := ⟨_, parse_tokenIds, rfl⟩
  holds := h
  cooled := by
    intro last hlast
    have hnone : loaded Crates.reference [rowOf alertType threshold]
        (rowOf alertType threshold).alertId = none := by
      unfold loaded
      rw [Option.bind_eq_none_iff]
      intro row hrow
      rw [List.mem_singleton.mp (List.mem_of_find?_eq_some hrow)]
      rfl
    have htime : (after Crates.reference ⟨60⟩ [.refresh [rowOf alertType threshold] none]).fireTime
        (rowOf alertType threshold).alertId = none := by
      show (loaded Crates.reference [rowOf alertType threshold] _).or none = none
      rw [hnone]
      rfl
    rw [htime] at hlast
    cases hlast

/-- An alert above 70% fires at 75%. -/
theorem fires_exactly_due_above :
    ∃ message, enqueuedFor (AlertEngine.step Crates.reference ⟨60⟩
      (AlertEngine.after Crates.reference ⟨60⟩ [.refresh [rowOf "above" (.ofRat (7 / 10))] none])
      (.tick tickOfYes calmEnv)).2 1 = [⟨7, "bot", message, .alert⟩] := by
  refine (fires_exactly_due ?_ tickOfYes calmEnv (fun _ => rfl) 1).1
    (rowOf "above" (.ofRat (7 / 10))) rfl (due_rowOf ?_)
  · intro ev hev
    rw [List.mem_singleton.mp hev]
    refine ⟨List.nodup_singleton _, fun row hrow _ => ?_⟩
    rw [List.mem_singleton.mp hrow]
    show (((Crates.reference.decimalTryFrom (.ofRat (7 / 10))).getD Decimal.zero).checkedMul
      Decimal.hundred).isSome
    decide +kernel
  · show (Crates.reference.decimalTryFrom (.ofRat (7 / 10))).getD Decimal.zero ≤ tickOfYes.price
    decide +kernel

theorem holds_below {threshold : F64} {current : Decimal} {previous : Option Decimal}
    (h : current ≤ (Crates.reference.decimalTryFrom threshold).getD Decimal.zero) :
    Holds Crates.reference (rowOf "below" threshold) current previous := h

/-- **An alert whose percentage does not fit a decimal is due and fires nothing**: below `10 ^ 27`,
    which every price is, the message panics. The threshold is one that a row can have, as the
    column is a `REAL`, although no handler would store it. -/
theorem overflow_loses_alert :
    Due Crates.reference ⟨60⟩
      (after Crates.reference ⟨60⟩ [.refresh [rowOf "below" (.ofRat (10 ^ 27))] none])
      tickOfYes calmEnv (rowOf "below" (.ofRat (10 ^ 27))) ∧
    enqueuedFor (AlertEngine.step Crates.reference ⟨60⟩
      (AlertEngine.after Crates.reference ⟨60⟩ [.refresh [rowOf "below" (.ofRat (10 ^ 27))] none])
      (.tick tickOfYes calmEnv)).2 1 = [] := by
  refine ⟨due_rowOf (holds_below ?_), ?_⟩
  · decide +kernel
  · decide +kernel

end Example

end Watch

end PolyNotifier
