import Mathlib.Data.List.Dedup
import Mathlib.Data.List.Sort
import PolyNotifier.Common.Models
import PolyNotifier.Lib.Table

/-!
# The database

The six tables of the migrations, and every statement the services send them.

A `Db` carries the constraints of the schema: the primary keys, the `UNIQUE` keys and the
`CHECK`s are fields of each `Table`, the foreign keys are fields here. `PRAGMA foreign_keys=ON`
is set on every connection, so they hold in every state the services can see.

A statement is a function from the database to its answer and the database after it, or to an
error. Statements are atomic: an error leaves the database as it was. `created_at` columns
default to `datetime('now')`, which has whole seconds.
-/

namespace PolyNotifier

open Lib (Table RowSpec TableError)

/-! ## Rows -/

structure User where
  id : Int
  telegramId : Int
  botId : String
  username : Option String
  tier : String
  maxSubscriptions : Int
  timezone : String
  createdAt : NaiveDateTime
  updatedAt : NaiveDateTime
  deriving DecidableEq

/-- The three JSON columns (`outcomes`, `tokenIds`, `lastPrices`) are stored as text. -/
structure Market where
  id : Int
  conditionId : String
  question : String
  slug : Option String
  outcomes : String
  tokenIds : String
  lastPrices : String
  isActive : Bool
  createdAt : NaiveDateTime
  updatedAt : NaiveDateTime
  deriving DecidableEq

/-- `Market::parse_last_prices`. -/
def Market.parseLastPrices (x : Crates) (m : Market) : Option (List Decimal) :=
  x.parseDecimals m.lastPrices

structure Subscription where
  id : Int
  userId : Int
  marketId : Int
  outcomeIndex : Int
  isActive : Bool
  createdAt : NaiveDateTime
  deriving DecidableEq

structure Alert where
  id : Int
  subscriptionId : Int
  alertType : String
  threshold : F64
  isTriggered : Bool
  cooldownMinutes : Int
  lastTriggeredAt : Option NaiveDateTime
  createdAt : NaiveDateTime
  deriving DecidableEq

/-- `alert_id` is left out: every writer stores `NULL` there. -/
structure NotificationLog where
  id : Int
  userId : Int
  notificationType : String
  message : String
  delivered : Bool
  errorMessage : Option String
  createdAt : NaiveDateTime
  deriving DecidableEq

structure Feedback where
  id : Int
  userId : Int
  message : String
  createdAt : NaiveDateTime
  deriving DecidableEq

/-! ## Tables -/

def tiers : List String := ["free", "premium", "unlimited"]

def alertTypes : List String := ["above", "below", "cross"]

def userSpec : RowSpec User (Int × String) :=
  ⟨User.id, fun u => (u.telegramId, u.botId), fun u => tiers.contains u.tier⟩

def marketSpec : RowSpec Market String := ⟨Market.id, Market.conditionId, fun _ => true⟩

def subscriptionSpec : RowSpec Subscription (Int × Int × Int) :=
  ⟨Subscription.id, fun s => (s.userId, s.marketId, s.outcomeIndex), fun _ => true⟩

/-- A NaN is stored as `NULL`, which `threshold` refuses. -/
def alertSpec : RowSpec Alert Int :=
  ⟨Alert.id, Alert.id, fun a => alertTypes.contains a.alertType && a.threshold != .nan⟩

def notificationLogSpec : RowSpec NotificationLog Int :=
  ⟨NotificationLog.id, NotificationLog.id,
    fun l => ["alert", "daily_summary"].contains l.notificationType⟩

def feedbackSpec : RowSpec Feedback Int := ⟨Feedback.id, Feedback.id, fun _ => true⟩

/-- The database, with the foreign keys it enforces. They are fields, so a database in which a
    subscription has lost its user cannot be written down: a statement that would break one has to
    say what it does instead, and each does what SQLite does. -/
structure Db where
  users : Table userSpec
  markets : Table marketSpec
  subscriptions : Table subscriptionSpec
  alerts : Table alertSpec
  notificationLog : Table notificationLogSpec
  feedback : Table feedbackSpec
  subscriptionUser : ∀ s ∈ subscriptions.rows, users.hasKey s.userId
  subscriptionMarket : ∀ s ∈ subscriptions.rows, markets.hasKey s.marketId
  alertSubscription : ∀ a ∈ alerts.rows, subscriptions.hasKey a.subscriptionId
  notificationLogUser : ∀ l ∈ notificationLog.rows, users.hasKey l.userId
  feedbackUser : ∀ f ∈ feedback.rows, users.hasKey f.userId

/-- Why a statement failed. `decode`: a stored integer does not fit the `i32` of the row type.
    `unavailable`: anything that is not in the data (the pool is exhausted, the file is locked,
    the disk is full). -/
inductive DbError where
  | constraint (e : TableError)
  | decode
  | rowNotFound
  | unavailable
  deriving DecidableEq

/-- What SQLite's `datetime('now')` stores at a time: whole seconds. -/
def datetimeNow (clock : NaiveDateTime) : NaiveDateTime := clock - clock % 1000000000

/-- `fetch_all`: one row that does not decode fails the fetch. Decoding is by the type of a column
    in the row struct; here that comes down to the columns read as an `i32`, as SQLite itself
    stores any integer. -/
def decodeAll {ρ : Type} (ok : ρ → Bool) (rows : List ρ) : Except DbError (List ρ) :=
  if rows.all ok then .ok rows else .error .decode

theorem decodeAll_ok {ρ : Type} {ok : ρ → Bool} {rows rows' : List ρ}
    (h : decodeAll ok rows = .ok rows') : rows' = rows ∧ ∀ r ∈ rows, ok r := by
  unfold decodeAll at h
  split at h
  · cases h
    exact ⟨rfl, List.all_eq_true.mp ‹_›⟩
  · cases h

theorem ok_of_toOption {ε ρ : Type} {x : Except ε ρ} {a : ρ} (h : x.toOption = some a) :
    x = .ok a := by
  cases x with
  | ok b =>
    cases h
    rfl
  | error e => cases h

namespace Db

def empty : Db :=
  ⟨Table.empty, Table.empty, Table.empty, Table.empty, Table.empty, Table.empty,
    by simp [Table.empty], by simp [Table.empty], by simp [Table.empty], by simp [Table.empty],
    by simp [Table.empty]⟩

instance : Inhabited Db := ⟨empty⟩

/-! ## Replacing one table

Each keeps the foreign keys that point from or to the table. -/

/-- Users never go away. The proof is what a statement on users owes the three tables that point at
    them. -/
def setUsers (d : Db) (t : Table userSpec) (h : ∀ k, d.users.hasKey k → t.hasKey k) : Db :=
  { d with
    users := t
    subscriptionUser := fun s hs => h _ (d.subscriptionUser s hs)
    notificationLogUser := fun l hl => h _ (d.notificationLogUser l hl)
    feedbackUser := fun f hf => h _ (d.feedbackUser f hf) }

/-- Markets never go away. -/
def setMarkets (d : Db) (t : Table marketSpec) (h : ∀ k, d.markets.hasKey k → t.hasKey k) : Db :=
  { d with
    markets := t
    subscriptionMarket := fun s hs => h _ (d.subscriptionMarket s hs) }

/-- A key of the subscriptions that no row gets. -/
def spendSubscription (d : Db) (t : Table subscriptionSpec) (h : d.subscriptions.spend = .ok t) :
    Db :=
  { d with
    subscriptions := t
    subscriptionUser := by rw [(Table.spend_ok h).1]; exact d.subscriptionUser
    subscriptionMarket := by rw [(Table.spend_ok h).1]; exact d.subscriptionMarket
    alertSubscription := fun a ha => (Table.hasKey_spend h _).trans (d.alertSubscription a ha) }

def setAlerts (d : Db) (t : Table alertSpec)
    (h : ∀ a ∈ t.rows, d.subscriptions.hasKey a.subscriptionId) : Db :=
  { d with alerts := t, alertSubscription := h }

@[simp] theorem setUsers_users (d : Db) (t h) : (d.setUsers t h).users = t := rfl
@[simp] theorem setUsers_markets (d : Db) (t h) : (d.setUsers t h).markets = d.markets := rfl
@[simp] theorem setUsers_subscriptions (d : Db) (t h) :
    (d.setUsers t h).subscriptions = d.subscriptions := rfl
@[simp] theorem setUsers_alerts (d : Db) (t h) : (d.setUsers t h).alerts = d.alerts := rfl

@[simp] theorem setMarkets_users (d : Db) (t h) : (d.setMarkets t h).users = d.users := rfl
@[simp] theorem setMarkets_markets (d : Db) (t h) : (d.setMarkets t h).markets = t := rfl
@[simp] theorem setMarkets_subscriptions (d : Db) (t h) :
    (d.setMarkets t h).subscriptions = d.subscriptions := rfl
@[simp] theorem setMarkets_alerts (d : Db) (t h) : (d.setMarkets t h).alerts = d.alerts := rfl

@[simp] theorem setAlerts_users (d : Db) (t h) : (d.setAlerts t h).users = d.users := rfl
@[simp] theorem setAlerts_markets (d : Db) (t h) : (d.setAlerts t h).markets = d.markets := rfl
@[simp] theorem setAlerts_subscriptions (d : Db) (t h) :
    (d.setAlerts t h).subscriptions = d.subscriptions := rfl
@[simp] theorem setAlerts_alerts (d : Db) (t h) : (d.setAlerts t h).alerts = t := rfl

/-! ## Users -/

/-- `SELECT .. FROM users WHERE telegram_id = ? AND bot_id = ?` -/
def selectUser (telegramId : Int) (botId : String) (d : Db) : Except DbError (Option User) :=
  match d.users.rows.find? fun u => u.telegramId == telegramId && u.botId == botId with
  | some u => if InI32 u.maxSubscriptions then .ok (some u) else .error .decode
  | none => .ok none

/-- `SELECT .. FROM users WHERE id = ?` with `fetch_one`. -/
def selectUserById (id : Int) (d : Db) : Except DbError User :=
  match d.users.find id with
  | some u => if InI32 u.maxSubscriptions then .ok u else .error .decode
  | none => .error .rowNotFound

/-- `UPDATE users SET username = ?, updated_at = ? WHERE id = ?` -/
def updateUsername (username : Option String) (now : NaiveDateTime) (id : Int) (d : Db) :
    Except DbError Db :=
  match h : d.users.update (fun u => u.id == id)
      (fun u => { u with username := username, updatedAt := now }) (fun _ => rfl)
      (fun _ => rfl) with
  | .ok t => .ok (d.setUsers t (fun k hk => (Table.update_hasKey h k).trans hk))
  | .error e => .error (.constraint e)

/-- `INSERT INTO users (telegram_id, bot_id, username) VALUES (?, ?, ?)`; `last_insert_rowid`. The
    other columns have the defaults of the schema. -/
def insertUser (clock : NaiveDateTime) (telegramId : Int) (botId : String)
    (username : Option String) (d : Db) : Except DbError (Int × Db) :=
  match h : d.users.insert (fun id =>
      { id, telegramId, botId, username, tier := "free", maxSubscriptions := 5,
        timezone := "UTC", createdAt := datetimeNow clock, updatedAt := datetimeNow clock })
      (fun _ => rfl) with
  | .ok t => .ok (t.seq, d.setUsers t (fun _ => Table.hasKey_insert h))
  | .error e => .error (.constraint e)

/-- `UPDATE users SET timezone = ?, updated_at = ? WHERE id = ?` -/
def updateTimezone (timezone : String) (now : NaiveDateTime) (id : Int) (d : Db) :
    Except DbError Db :=
  match h : d.users.update (fun u => u.id == id)
      (fun u => { u with timezone := timezone, updatedAt := now }) (fun _ => rfl)
      (fun _ => rfl) with
  | .ok t => .ok (d.setUsers t (fun k hk => (Table.update_hasKey h k).trans hk))
  | .error e => .error (.constraint e)

/-- `SELECT id FROM users WHERE telegram_id = ? LIMIT 1`. Without `ORDER BY` the database decides
    which of the rows comes first: `first`, counted around. -/
def resolveUserIdByTelegram (first : Nat) (telegramId : Int) (d : Db) : Option Int :=
  let rows := d.users.rows.filter fun u => u.telegramId == telegramId
  rows[first % rows.length]?.map User.id

/-! ## Markets -/

/-- `INSERT INTO markets .. ON CONFLICT(condition_id) DO UPDATE SET .. RETURNING id`. A conflict
    spends a key of the table, and finds it full where an insertion would. -/
def upsertMarket (clock now : NaiveDateTime) (conditionId question : String)
    (slug : Option String) (outcomes tokenIds : String) (d : Db) : Except DbError (Int × Db) :=
  match d.markets.rows.find? fun m => m.conditionId == conditionId with
  | some old =>
      match h : d.markets.updateOnConflict (fun m => m.conditionId == conditionId)
          (fun m => { m with question, slug, outcomes, tokenIds, isActive := true,
                             updatedAt := now }) (fun _ => rfl) (fun _ => rfl) with
      | .ok t =>
          .ok (old.id, d.setMarkets t (fun k hk => (Table.hasKey_updateOnConflict h k).trans hk))
      | .error e => .error (.constraint e)
  | none =>
      match h : d.markets.insert (fun id =>
          { id, conditionId, question, slug, outcomes, tokenIds, lastPrices := "[]",
            isActive := true, createdAt := datetimeNow clock, updatedAt := now })
          (fun _ => rfl) with
      | .ok t => .ok (t.seq, d.setMarkets t (fun _ => Table.hasKey_insert h))
      | .error e => .error (.constraint e)

/-- `UPDATE markets SET last_prices = ?, updated_at = ? WHERE id = ?` -/
def updateMarketPrices (lastPrices : String) (now : NaiveDateTime) (id : Int) (d : Db) :
    Except DbError Db :=
  match h : d.markets.update (fun m => m.id == id)
      (fun m => { m with lastPrices := lastPrices, updatedAt := now }) (fun _ => rfl)
      (fun _ => rfl) with
  | .ok t => .ok (d.setMarkets t (fun k hk => (Table.update_hasKey h k).trans hk))
  | .error e => .error (.constraint e)

/-- `SELECT outcomes FROM markets WHERE condition_id = ?` -/
def selectOutcomes (conditionId : String) (d : Db) : Option String :=
  (d.markets.rows.find? fun m => m.conditionId == conditionId).map Market.outcomes

/-! ## Subscriptions -/

/-- The columns of `models::SubscriptionDetail`, and the column the rows are ordered by. -/
structure SubscriptionDetail where
  subscriptionId : Int
  outcomeIndex : Int
  marketId : Int
  conditionId : String
  question : String
  tokenIds : String
  lastPrices : String
  userId : Int
  telegramId : Int
  botId : String
  timezone : String
  createdAt : NaiveDateTime
  deriving DecidableEq

/-- The joined row of a subscription, if it and its market are active. -/
def detail (d : Db) (s : Subscription) : Option SubscriptionDetail :=
  (d.markets.find s.marketId).bind fun m =>
    (d.users.find s.userId).bind fun u =>
      if s.isActive && m.isActive then
        some ⟨s.id, s.outcomeIndex, m.id, m.conditionId, m.question, m.tokenIds, m.lastPrices,
          u.id, u.telegramId, u.botId, u.timezone, s.createdAt⟩
      else none

/-- `db::get_user_subscriptions`: `WHERE s.user_id = ? .. ORDER BY s.created_at`. Times are whole
    seconds; the rows of one second come in the order of their ids. -/
def getUserSubscriptions (userId : Int) (d : Db) : Except DbError (List SubscriptionDetail) :=
  decodeAll (fun r => decide (InI32 r.outcomeIndex)) <|
    ((d.subscriptions.rows.filter fun s => s.userId == userId).filterMap d.detail).insertionSort
      fun a b => a.createdAt ≤ b.createdAt

/-- The active subscriptions of a user. -/
def activeSubscriptions (d : Db) (userId : Int) : List Subscription :=
  d.subscriptions.rows.filter fun s => s.userId == userId && s.isActive

/-- `SELECT COUNT(*) FROM subscriptions WHERE user_id = ? AND is_active = 1` -/
def countActiveSubscriptions (userId : Int) (d : Db) : Int := (d.activeSubscriptions userId).length

/-- `INSERT OR IGNORE INTO subscriptions (user_id, market_id, outcome_index) VALUES (?, ?, ?)`:
    the number of rows affected. A broken `UNIQUE` key is ignored, though the key of the row is
    spent; a broken foreign key is not ignored. -/
def insertSubscription (clock : NaiveDateTime) (userId marketId outcomeIndex : Int) (d : Db) :
    Except DbError (Nat × Db) :=
  match h : d.subscriptions.insert (fun id =>
      { id, userId, marketId, outcomeIndex, isActive := true, createdAt := datetimeNow clock })
      (fun _ => rfl) with
  | .error .unique =>
      match h : d.subscriptions.spend with
      | .ok t => .ok (0, d.spendSubscription t h)
      | .error e => .error (.constraint e)
  | .error e => .error (.constraint e)
  | .ok t =>
      if hfk : d.users.hasKey userId ∧ d.markets.hasKey marketId then
        .ok (1, { d with
          subscriptions := t
          subscriptionUser := by
            intro s hs
            rw [(Table.insert_ok h).1, List.mem_append, List.mem_singleton] at hs
            rcases hs with hs | rfl
            · exact d.subscriptionUser s hs
            · exact hfk.1
          subscriptionMarket := by
            intro s hs
            rw [(Table.insert_ok h).1, List.mem_append, List.mem_singleton] at hs
            rcases hs with hs | rfl
            · exact d.subscriptionMarket s hs
            · exact hfk.2
          alertSubscription := fun a ha => Table.hasKey_insert h (d.alertSubscription a ha) })
      else .error (.constraint .foreignKey)

/-- `SELECT id FROM subscriptions WHERE user_id = ? AND market_id = ? AND outcome_index = ?
    AND is_active = 1` -/
def selectSubscriptionId (userId marketId outcomeIndex : Int) (d : Db) : Option Int :=
  (d.subscriptions.rows.find? fun s =>
    s.userId == userId && s.marketId == marketId && s.outcomeIndex == outcomeIndex &&
      s.isActive).map Subscription.id

/-- `SELECT m.question FROM subscriptions s JOIN markets m ON m.id = s.market_id
    WHERE s.id = ?` -/
def selectQuestion (id : Int) (d : Db) : Option String :=
  (d.subscriptions.find id).bind fun s => (d.markets.find s.marketId).map Market.question

/-- `DELETE FROM subscriptions WHERE id = ?`, with the alerts that hang off the row: the number
    of rows affected. -/
def deleteSubscription (id : Int) (d : Db) : Nat × Db :=
  ((d.subscriptions.rows.filter fun s => s.id == id).length, { d with
    subscriptions := d.subscriptions.delete fun s => s.id == id
    alerts := d.alerts.delete fun a => a.subscriptionId == id
    subscriptionUser := fun s hs => d.subscriptionUser s (List.mem_of_mem_filter hs)
    subscriptionMarket := fun s hs => d.subscriptionMarket s (List.mem_of_mem_filter hs)
    alertSubscription := by
      intro a ha
      rw [Table.delete_rows, List.mem_filter] at ha
      obtain ⟨s, hs, hk⟩ := Table.hasKey_iff.mp (d.alertSubscription a ha.1)
      have hne : (a.subscriptionId == id) = false := by simpa using ha.2
      refine Table.hasKey_iff.mpr ⟨s, ?_, hk⟩
      rw [Table.delete_rows, List.mem_filter]
      have hk' : s.id = a.subscriptionId := hk
      exact ⟨hs, by rw [hk', hne]; rfl⟩ })

/-! ## Alerts -/

/-- `INSERT INTO alerts (subscription_id, alert_type, threshold) VALUES (?, ?, ?)`, with the
    defaults of the migration for the other columns. The `CHECK`s of the table are looked at before
    the foreign key. -/
def insertAlert (clock : NaiveDateTime) (subscriptionId : Int) (alertType : String)
    (threshold : F64) (d : Db) : Except DbError Db :=
  match h : d.alerts.insert (fun id =>
      { id, subscriptionId, alertType, threshold, isTriggered := false, cooldownMinutes := 60,
        lastTriggeredAt := none, createdAt := datetimeNow clock }) (fun _ => rfl) with
  | .error e => .error (.constraint e)
  | .ok t =>
      if hfk : d.subscriptions.hasKey subscriptionId then
        .ok (d.setAlerts t (by
          intro a ha
          rw [(Table.insert_ok h).1, List.mem_append, List.mem_singleton] at ha
          rcases ha with ha | rfl
          · exact d.alertSubscription a ha
          · exact hfk))
      else .error (.constraint .foreignKey)

/-- `SELECT COUNT(*) FROM alerts WHERE subscription_id = ?` -/
def countAlerts (subscriptionId : Int) (d : Db) : Int :=
  (d.alerts.rows.filter fun a => a.subscriptionId == subscriptionId).length

/-- The alerts of a subscription, `ORDER BY created_at`. -/
def alertsOf (d : Db) (subscriptionId : Int) : List Alert :=
  (d.alerts.rows.filter fun a => a.subscriptionId == subscriptionId).insertionSort
    fun a b => a.createdAt ≤ b.createdAt

/-- `SELECT alert_type, threshold FROM alerts WHERE subscription_id = ? ORDER BY created_at` -/
def selectAlerts (subscriptionId : Int) (d : Db) : List (String × F64) :=
  (d.alertsOf subscriptionId).map fun a => (a.alertType, a.threshold)

/-- What an update of alerts keeps of the foreign key. -/
theorem alertSubscription_update {d : Db} {t : Table alertSpec} {p : Alert → Bool}
    {f : Alert → Alert} {hk : ∀ r, alertSpec.key (f r) = alertSpec.key r}
    {hu : ∀ r, alertSpec.ukey (f r) = alertSpec.ukey r}
    (h : d.alerts.update p f hk hu = .ok t)
    (hs : ∀ r, (f r).subscriptionId = r.subscriptionId) :
    ∀ a ∈ t.rows, d.subscriptions.hasKey a.subscriptionId := by
  intro a ha
  rw [(Table.update_ok h).1] at ha
  obtain ⟨r, hr, rfl⟩ := List.mem_map.mp ha
  have hsub : (if p r then f r else r).subscriptionId = r.subscriptionId := by
    by_cases hp : p r <;> simp [hp, hs]
  rw [hsub]
  exact d.alertSubscription r hr

/-- `UPDATE alerts SET alert_type = ?, threshold = ? WHERE subscription_id = ?
    AND id = (SELECT id FROM alerts WHERE subscription_id = ? ORDER BY created_at LIMIT 1)` -/
def updateAlert (alertType : String) (threshold : F64) (subscriptionId : Int) (d : Db) :
    Except DbError Db :=
  let first := (d.alertsOf subscriptionId).head?.map Alert.id
  match h : d.alerts.update
      (fun a => a.subscriptionId == subscriptionId && first == some a.id)
      (fun a => { a with alertType := alertType, threshold := threshold }) (fun _ => rfl)
      (fun _ => rfl) with
  | .ok t => .ok (d.setAlerts t (alertSubscription_update h fun _ => rfl))
  | .error e => .error (.constraint e)

/-- `UPDATE alerts SET is_triggered = 1, last_triggered_at = ? WHERE id = ?` -/
def recordAlertTriggered (now : NaiveDateTime) (id : Int) (d : Db) : Except DbError Db :=
  match h : d.alerts.update (fun a => a.id == id)
      (fun a => { a with isTriggered := true, lastTriggeredAt := some now }) (fun _ => rfl)
      (fun _ => rfl) with
  | .ok t => .ok (d.setAlerts t (alertSubscription_update h fun _ => rfl))
  | .error e => .error (.constraint e)

/-! ## Notification log and feedback -/

/-- `INSERT INTO notification_log .. RETURNING id`. The log is only ever added to, so its rows
    stand in the order in which they were written. -/
def insertNotificationLog (clock : NaiveDateTime) (userId : Int) (notificationType : String)
    (message : String) (delivered : Bool) (errorMessage : Option String) (d : Db) :
    Except DbError (Int × Db) :=
  match h : d.notificationLog.insert (fun id =>
      { id, userId, notificationType, message, delivered, errorMessage,
        createdAt := datetimeNow clock }) (fun _ => rfl) with
  | .error e => .error (.constraint e)
  | .ok t =>
      if hfk : d.users.hasKey userId then
        .ok (t.seq, { d with
          notificationLog := t
          notificationLogUser := by
            intro l hl
            rw [(Table.insert_ok h).1, List.mem_append, List.mem_singleton] at hl
            rcases hl with hl | rfl
            · exact d.notificationLogUser l hl
            · exact hfk })
      else .error (.constraint .foreignKey)

/-- `INSERT INTO feedback (user_id, message) VALUES (?, ?) RETURNING id`. The time is the default
    of the column, which is in whole seconds. -/
def insertFeedback (clock : NaiveDateTime) (userId : Int) (message : String) (d : Db) :
    Except DbError (Int × Db) :=
  match h : d.feedback.insert (fun id =>
      { id, userId, message, createdAt := datetimeNow clock }) (fun _ => rfl) with
  | .error e => .error (.constraint e)
  | .ok t =>
      if hfk : d.users.hasKey userId then
        .ok (t.seq, { d with
          feedback := t
          feedbackUser := by
            intro f hf
            rw [(Table.insert_ok h).1, List.mem_append, List.mem_singleton] at hf
            rcases hf with hf | rfl
            · exact d.feedbackUser f hf
            · exact hfk })
      else .error (.constraint .foreignKey)

/-- `SELECT created_at FROM feedback WHERE user_id = ? ORDER BY created_at DESC LIMIT 1` -/
def getLastFeedbackTime (userId : Int) (d : Db) : Option NaiveDateTime :=
  ((d.feedback.rows.filter fun f => f.userId == userId).map Feedback.createdAt).max?

end Db

end PolyNotifier
