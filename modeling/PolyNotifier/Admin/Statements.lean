import Mathlib.Algebra.BigOperators.Group.List.Basic
import PolyNotifier.Common.Statements

/-!
# The statements of the admin API

Two updates and seven queries. The updates go by the Telegram id alone, so they reach the rows of
a person at every bot; the queries are counts and two listings.
-/

namespace PolyNotifier

open Lib (Table)

namespace Db

/-! ## Updates -/

/-- `UPDATE users SET tier = ?, updated_at = ? WHERE telegram_id = ?`: the number of rows
    affected. -/
def updateTier (tier : String) (now : NaiveDateTime) (telegramId : Int) (d : Db) :
    Except DbError (Nat × Db) :=
  match h : d.users.update (fun u => u.telegramId == telegramId)
      (fun u => { u with tier := tier, updatedAt := now }) (fun _ => rfl) (fun _ => rfl) with
  | .ok t => .ok ((d.users.rows.filter fun u => u.telegramId == telegramId).length,
      d.setUsers t (fun k hk => (Table.update_hasKey h k).trans hk))
  | .error e => .error (.constraint e)

/-- `UPDATE users SET max_subscriptions = ?, updated_at = ? WHERE telegram_id = ?`: the number of
    rows affected. -/
def updateMaxSubscriptions (maxSubscriptions : Int) (now : NaiveDateTime) (telegramId : Int)
    (d : Db) : Except DbError (Nat × Db) :=
  match h : d.users.update (fun u => u.telegramId == telegramId)
      (fun u => { u with maxSubscriptions := maxSubscriptions, updatedAt := now })
      (fun _ => rfl) (fun _ => rfl) with
  | .ok t => .ok ((d.users.rows.filter fun u => u.telegramId == telegramId).length,
      d.setUsers t (fun k hk => (Table.update_hasKey h k).trans hk))
  | .error e => .error (.constraint e)

/-! ## Listings -/

structure UserListEntry where
  id : Int
  telegramId : Int
  botId : String
  username : Option String
  tier : String
  maxSubscriptions : Int
  timezone : String
  /-- `COUNT(s.id)` over the active subscriptions joined to the user. -/
  subscriptionCount : Int
  deriving DecidableEq

def userListEntry (d : Db) (u : User) : UserListEntry :=
  ⟨u.id, u.telegramId, u.botId, u.username, u.tier, u.maxSubscriptions, u.timezone,
    d.countActiveSubscriptions u.id⟩

/-- `SELECT .. FROM users u LEFT JOIN subscriptions s ON s.user_id = u.id AND s.is_active = 1
    GROUP BY u.id ORDER BY u.id` -/
def listUsers (d : Db) : Except DbError (List UserListEntry) :=
  decodeAll (fun e => decide (InI32 e.maxSubscriptions)) <|
    (d.users.rows.insertionSort fun a b => a.id ≤ b.id).map d.userListEntry

structure FeedbackListEntry where
  id : Int
  userId : Int
  telegramId : Int
  username : Option String
  message : String
  createdAt : String
  deriving DecidableEq

/-- The joined row; `strftime` is SQLite's. -/
def feedbackListEntry (strftime : NaiveDateTime → String) (d : Db) (f : Feedback) :
    Option FeedbackListEntry :=
  (d.users.find f.userId).map fun u =>
    ⟨f.id, f.userId, u.telegramId, u.username, f.message, strftime f.createdAt⟩

/-- `SELECT .. FROM feedback f JOIN users u ON u.id = f.user_id ORDER BY f.created_at DESC`. Times
    are whole seconds, and the rows of one second come in any order: that of `order`, as the sort
    keeps what it finds equal. -/
def listFeedback (strftime : NaiveDateTime → String) (order : List Nat) (d : Db) :
    List FeedbackListEntry :=
  ((Lib.arrange order d.feedback.rows).insertionSort fun a b => b.createdAt ≤ a.createdAt).filterMap
    (d.feedbackListEntry strftime)

/-! ## Counts -/

/-- `SELECT COUNT(*) FROM users` -/
def countUsers (d : Db) : Int := d.users.rows.length

/-- `SELECT COUNT(*) FROM subscriptions WHERE is_active = 1` -/
def countSubscriptions (d : Db) : Int := (d.subscriptions.rows.filter fun s => s.isActive).length

/-- `SELECT COUNT(*) FROM alerts a JOIN subscriptions s ON s.id = a.subscription_id
    WHERE s.is_active = 1` -/
def countActiveAlerts (d : Db) : Int :=
  (d.alerts.rows.filter fun a =>
    (d.subscriptions.find a.subscriptionId).any fun s => s.isActive).length

/-- `SELECT COUNT(*) FROM markets WHERE is_active = 1` -/
def countMarkets (d : Db) : Int := (d.markets.rows.filter fun m => m.isActive).length

/-- `date('now')`: the midnight before a time. -/
def dateNow (clock : NaiveDateTime) : NaiveDateTime := clock - clock % Duration.hours 24

/-- `SELECT COUNT(*) FROM notification_log WHERE created_at >= date('now')` -/
def countNotifications (clock : NaiveDateTime) (d : Db) : Int :=
  (d.notificationLog.rows.filter fun l => decide (dateNow clock ≤ l.createdAt)).length

/-! ## What the updates do -/

/-- The tables but for the users. -/
structure OthersKept (d d' : Db) : Prop where
  markets : d'.markets = d.markets
  subscriptions : d'.subscriptions = d.subscriptions
  alerts : d'.alerts = d.alerts
  notificationLog : d'.notificationLog = d.notificationLog
  feedback : d'.feedback = d.feedback

variable {d d' d'' : Db}

theorem OthersKept.refl (d : Db) : OthersKept d d := ⟨rfl, rfl, rfl, rfl, rfl⟩

theorem OthersKept.trans (h : OthersKept d d') (h' : OthersKept d' d'') : OthersKept d d'' :=
  ⟨h'.markets.trans h.markets, h'.subscriptions.trans h.subscriptions, h'.alerts.trans h.alerts,
    h'.notificationLog.trans h.notificationLog, h'.feedback.trans h.feedback⟩

/-- **A tier is written to every row of the Telegram id**, and nothing else is. -/
theorem updateTier_ok {tier : String} {now : NaiveDateTime} {telegramId : Int} {n : Nat}
    (h : d.updateTier tier now telegramId = .ok (n, d')) :
    OthersKept d d' ∧ n = (d.users.rows.filter fun u => u.telegramId == telegramId).length ∧
      d'.users.seq = d.users.seq ∧
      d'.users.rows = d.users.rows.map fun u =>
        if u.telegramId == telegramId then { u with tier := tier, updatedAt := now } else u := by
  unfold updateTier at h
  split at h
  · rename_i t ht
    cases h
    exact ⟨⟨rfl, rfl, rfl, rfl, rfl⟩, rfl, (Table.update_ok ht).2, (Table.update_ok ht).1⟩
  · cases h

/-- **A limit is written to every row of the Telegram id**, and nothing else is. -/
theorem updateMaxSubscriptions_ok {maxSubscriptions : Int} {now : NaiveDateTime}
    {telegramId : Int} {n : Nat}
    (h : d.updateMaxSubscriptions maxSubscriptions now telegramId = .ok (n, d')) :
    OthersKept d d' ∧ n = (d.users.rows.filter fun u => u.telegramId == telegramId).length ∧
      d'.users.seq = d.users.seq ∧
      d'.users.rows = d.users.rows.map fun u =>
        if u.telegramId == telegramId then
          { u with maxSubscriptions := maxSubscriptions, updatedAt := now }
        else u := by
  unfold updateMaxSubscriptions at h
  split at h
  · rename_i t ht
    cases h
    exact ⟨⟨rfl, rfl, rfl, rfl, rfl⟩, rfl, (Table.update_ok ht).2, (Table.update_ok ht).1⟩
  · cases h

/-- A tier of the three is always stored. -/
theorem updateTier_isOk {tier : String} (htier : tiers.contains tier = true)
    (now : NaiveDateTime) (telegramId : Int) (d : Db) :
    ∃ r, d.updateTier tier now telegramId = .ok r := by
  have hok : ∃ t, d.users.update (fun u => u.telegramId == telegramId)
      (fun u => { u with tier := tier, updatedAt := now }) (fun _ => rfl) (fun _ => rfl)
      = .ok t := Table.update_isOk fun _ _ _ => htier
  obtain ⟨t, ht⟩ := hok
  unfold updateTier
  split
  · exact ⟨_, rfl⟩
  · rename_i e he
    rw [ht] at he
    cases he

/-- So is any limit. -/
theorem updateMaxSubscriptions_isOk (maxSubscriptions : Int) (now : NaiveDateTime)
    (telegramId : Int) (d : Db) :
    ∃ r, d.updateMaxSubscriptions maxSubscriptions now telegramId = .ok r := by
  have hok : ∃ t, d.users.update (fun u => u.telegramId == telegramId)
      (fun u => { u with maxSubscriptions := maxSubscriptions, updatedAt := now })
      (fun _ => rfl) (fun _ => rfl) = .ok t :=
    Table.update_isOk fun u hu _ => d.users.check u hu
  obtain ⟨t, ht⟩ := hok
  unfold updateMaxSubscriptions
  split
  · exact ⟨_, rfl⟩
  · rename_i e he
    rw [ht] at he
    cases he

end Db

end PolyNotifier
