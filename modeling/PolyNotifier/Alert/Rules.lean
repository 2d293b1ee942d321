import PolyNotifier.Common.Models

/-!
# Alert rules and their cooldowns

`AlertRule` is one alert joined with its subscription, market and user, as the engine caches it;
`evaluate` decides whether a price meets it. `AlertDedup` remembers when each alert last fired,
so that the ticks inside the cooldown fire nothing.
-/

namespace PolyNotifier

/-- `rules::AlertRule`. The threshold is a `Decimal` here, although the column is a `REAL`: the
    conversion has been made by the time a rule exists, so comparing a price with it is exact. -/
structure AlertRule where
  alertId : Int
  subscriptionId : Int
  userTelegramId : Int
  botId : String
  tokenId : String
  outcomeIndex : Int
  marketQuestion : String
  alertType : AlertType
  threshold : Decimal
  cooldownMinutes : Int
  lastTriggeredAt : Option NaiveDateTime
  deriving DecidableEq

/-- Whether the rule holds for a price and the price before it. A cross needs both: strictly on
    one side before, at or beyond the threshold now. -/
def AlertRule.evaluate (r : AlertRule) (current : Decimal) (previous : Option Decimal) : Bool :=
  match r.alertType with
  | .above => r.threshold ≤ current
  | .below => current ≤ r.threshold
  | .cross =>
      match previous with
      | some prev =>
          let upward := prev < r.threshold && r.threshold ≤ current
          let downward := r.threshold < prev && current ≤ r.threshold
          upward || downward
      | none => false

/-! ## Cooldowns -/

/-- `dedup::AlertDedup`: when each alert last fired. An alert that is not in the map has no
    cooldown; nothing is ever taken out of it, so the entry of a deleted alert stays and is of no
    consequence, as ids are not given out twice. -/
structure AlertDedup where
  lastTriggered : DashMap Int NaiveDateTime

namespace AlertDedup

def new : AlertDedup := ⟨∅⟩

/-- `now` is the clock reading `can_fire` takes. -/
def canFire (d : AlertDedup) (now : NaiveDateTime) (alertId cooldownMinutes : Int) : Bool :=
  match d.lastTriggered.lookup alertId with
  | some last => now - last > Duration.minutes cooldownMinutes
  | none => true

def markFired (d : AlertDedup) (now : NaiveDateTime) (alertId : Int) : AlertDedup :=
  ⟨d.lastTriggered.insert alertId now⟩

/-- The body of the loop of `load_from_alerts`. It inserts what the row says, whether that is later
    or earlier than what the map has: a row that is behind takes the map back with it. -/
def load (d : AlertDedup) (r : AlertRule) : AlertDedup :=
  match r.lastTriggeredAt with
  | some last => ⟨d.lastTriggered.insert r.alertId last⟩
  | none => d

def loadFromAlerts (d : AlertDedup) (alerts : List AlertRule) : AlertDedup := alerts.foldl load d

@[simp] theorem lookup_markFired (d : AlertDedup) (now : NaiveDateTime) (a : Int) :
    (d.markFired now a).lastTriggered.lookup a = some now := Finmap.lookup_insert _

theorem lookup_markFired_ne {d : AlertDedup} {now : NaiveDateTime} {a b : Int} (h : b ≠ a) :
    (d.markFired now a).lastTriggered.lookup b = d.lastTriggered.lookup b :=
  Finmap.lookup_insert_of_ne _ h

theorem lookup_load_ne {d : AlertDedup} {r : AlertRule} {b : Int} (h : b ≠ r.alertId) :
    (d.load r).lastTriggered.lookup b = d.lastTriggered.lookup b := by
  unfold load
  cases r.lastTriggeredAt with
  | none => rfl
  | some last => exact Finmap.lookup_insert_of_ne _ h

theorem lookup_load_self {d : AlertDedup} {r : AlertRule} :
    (d.load r).lastTriggered.lookup r.alertId
      = r.lastTriggeredAt.or (d.lastTriggered.lookup r.alertId) := by
  unfold load
  cases r.lastTriggeredAt with
  | none => rfl
  | some last => exact Finmap.lookup_insert _

/-- Loading the rules of other alerts leaves an alert as it is. -/
theorem lookup_loadFromAlerts_of_not_mem {alerts : List AlertRule} {d : AlertDedup} {a : Int}
    (h : ∀ r ∈ alerts, r.alertId ≠ a) :
    (d.loadFromAlerts alerts).lastTriggered.lookup a = d.lastTriggered.lookup a := by
  induction alerts generalizing d with
  | nil => rfl
  | cons r rs ih =>
    show ((d.load r).loadFromAlerts rs).lastTriggered.lookup a = _
    rw [ih fun r' hr' => h r' (by simp [hr'])]
    exact lookup_load_ne (Ne.symm (h r (by simp)))

/-- **Loading sets an alert to the time of its rule, if that has one.** Each alert has one
    rule. -/
theorem lookup_loadFromAlerts {alerts : List AlertRule} {d : AlertDedup}
    (hnd : (alerts.map AlertRule.alertId).Nodup) {r : AlertRule} (hr : r ∈ alerts) :
    (d.loadFromAlerts alerts).lastTriggered.lookup r.alertId
      = r.lastTriggeredAt.or (d.lastTriggered.lookup r.alertId) := by
  induction alerts generalizing d with
  | nil => cases hr
  | cons r' rs ih =>
    rw [List.map_cons, List.nodup_cons] at hnd
    show ((d.load r').loadFromAlerts rs).lastTriggered.lookup r.alertId = _
    rcases List.mem_cons.mp hr with rfl | hr
    · have hrest : ∀ r' ∈ rs, r'.alertId ≠ r.alertId := fun r' hr' heq =>
        hnd.1 (List.mem_map.mpr ⟨r', hr', heq⟩)
      rw [lookup_loadFromAlerts_of_not_mem hrest]
      exact lookup_load_self
    · have hne : r.alertId ≠ r'.alertId := fun heq => hnd.1 (List.mem_map.mpr ⟨r, hr, heq⟩)
      rw [ih hnd.2 hr, lookup_load_ne hne]

end AlertDedup

end PolyNotifier
