import PolyNotifier.Common.Db
import PolyNotifier.Lib.Prog
import PolyNotifier.Polymarket.Gamma

/-!
# What a handler of the bot can do

A handler talks to Telegram, to the dialogue storage, to the database, to two web services and
to the clock, and its code is fixed by their answers. It is a `Handler`: a program over
`BotOp`, one operation for each call.

`World.perform` answers the operations one after another. The database and the storage are
state; whether Telegram accepts a call, whether the database executes a statement, what the web
services say and what the clock shows is the `Env`, by the number of the call.
-/

namespace PolyNotifier

open Lib (Sig Prog)

/-! ## Updates -/

/-- `teloxide::types::User`. -/
structure Sender where
  id : Nat
  username : Option String
  firstName : String
  deriving DecidableEq

/-- `from.id.0 as i64` -/
def Sender.telegramId (s : Sender) : Int := asI64 s.id

structure Message where
  chat : Int
  sender : Option Sender
  text : Option String
  caption : Option String
  deriving DecidableEq

/-- `message` is the chat of the message the button was on. -/
structure CallbackQuery where
  id : String
  sender : Sender
  message : Option Int
  data : Option String
  deriving DecidableEq

/-- What the dispatcher is handed. Every kind of update the schema has no branch for is one case:
    it differs from the others in being dropped, and in nothing else. -/
inductive Update where
  | message (m : Message)
  | callbackQuery (q : CallbackQuery)
  | other

/-- One inline button: its label and its callback data. -/
structure Button where
  label : String
  data : String
  deriving DecidableEq

/-- `InlineKeyboardMarkup`, by rows. -/
abbrev Keyboard := List (List Button)

/-! ## Dialogue states -/

/-- `dialogues::MarketOption`. -/
structure MarketOption where
  conditionId : String
  question : String
  outcomes : List String
  tokenIds : List String
  deriving DecidableEq

/-- `dialogues::DialogueState`. A state carries along what its flow has collected so far, and every
    value in it has come in through a callback or from the web; what may be relied on of it is
    `DialogueState.WellFormed`, and nothing here enforces that. -/
inductive DialogueState where
  | idle
  | awaitingUrl
  | awaitingMarketSelection (markets : List MarketOption)
  | awaitingOutcomeSelection (conditionId question : String) (outcomes tokenIds : List String)
  | awaitingSubscribeAlertType (conditionId question : String) (outcomes tokenIds : List String)
      (outcomeIndex : Int)
  | awaitingSubscribeAlertThreshold (conditionId question : String)
      (outcomes tokenIds : List String) (outcomeIndex : Int) (alertType : String)
  | awaitingAlertSubscription
  | awaitingAlertType (subscriptionId : Int) (question : String)
  | awaitingAlertThreshold (subscriptionId : Int) (question alertType : String)
  deriving DecidableEq

/-! ## Statements -/

/-- The statements the bot sends, one constructor for each text of SQL in the source with its bound
    parameters. A `now` is a clock reading the code binds itself; what `datetime('now')` yields
    inside the database is the clock of `exec`. -/
inductive Stmt where
  | selectUser (telegramId : Int) (botId : String)
  | selectUserById (id : Int)
  | updateUsername (username : Option String) (now : NaiveDateTime) (id : Int)
  | insertUser (telegramId : Int) (botId : String) (username : Option String)
  | updateTimezone (timezone : String) (now : NaiveDateTime) (id : Int)
  | upsertMarket (now : NaiveDateTime) (conditionId question : String) (slug : Option String)
      (outcomes tokenIds : String)
  | selectOutcomes (conditionId : String)
  | getUserSubscriptions (userId : Int)
  | countActiveSubscriptions (userId : Int)
  | insertSubscription (userId marketId outcomeIndex : Int)
  | selectSubscriptionId (userId marketId outcomeIndex : Int)
  | selectQuestion (subscriptionId : Int)
  | deleteSubscription (id : Int)
  | insertAlert (subscriptionId : Int) (alertType : String) (threshold : F64)
  | countAlerts (subscriptionId : Int)
  | selectAlerts (subscriptionId : Int)
  | updateAlert (alertType : String) (threshold : F64) (subscriptionId : Int)
  | insertFeedback (userId : Int) (message : String)
  | getLastFeedbackTime (userId : Int)

namespace Stmt

/-- The answer to a statement, as the code reads it off the row: an `Option` where the query is a
    `fetch_optional`, a number of rows where `rows_affected` is looked at. -/
abbrev Res : Stmt → Type
  | selectUser .. => Option User
  | selectUserById .. => User
  | updateUsername .. => Unit
  | insertUser .. => Int
  | updateTimezone .. => Unit
  | upsertMarket .. => Int
  | selectOutcomes .. => Option String
  | getUserSubscriptions .. => List Db.SubscriptionDetail
  | countActiveSubscriptions .. => Int
  | insertSubscription .. => Nat
  | selectSubscriptionId .. => Option Int
  | selectQuestion .. => Option String
  | deleteSubscription .. => Nat
  | insertAlert .. => Unit
  | countAlerts .. => Int
  | selectAlerts .. => List (String × F64)
  | updateAlert .. => Unit
  | insertFeedback .. => Int
  | getLastFeedbackTime .. => Option NaiveDateTime

/-- A statement that only reads. -/
def reading {α : Type} (d : Db) (r : Except DbError α) : Except DbError (α × Db) :=
  r.map fun a => (a, d)

/-- A statement that only writes. -/
def writing (r : Except DbError Db) : Except DbError (Unit × Db) := r.map fun d => ((), d)

theorem reading_ok {α : Type} {d d' : Db} {r : Except DbError α} {a : α}
    (h : reading d r = .ok (a, d')) : r = .ok a ∧ d' = d := by
  cases r with
  | ok a' => cases h; exact ⟨rfl, rfl⟩
  | error e => cases h

theorem writing_ok {d' : Db} {r : Except DbError Db} {u : Unit} (h : writing r = .ok (u, d')) :
    r = .ok d' := by
  cases r with
  | ok d => cases h; rfl
  | error e => cases h

theorem reading_error {α : Type} {d : Db} {r : Except DbError α} {e : DbError}
    (h : reading d r = .error e) : r = .error e := by
  cases r with
  | ok a => cases h
  | error e' => cases h; rfl

theorem writing_error {r : Except DbError Db} {e : DbError} (h : writing r = .error e) :
    r = .error e := by
  cases r with
  | ok d => cases h
  | error e' => cases h; rfl

/-- What the database does with a statement it executes, and `clock` is the time `datetime('now')`
    sees. That it may not execute it at all is decided in `World.execute`, before this. -/
def exec (clock : NaiveDateTime) : (s : Stmt) → Db → Except DbError (s.Res × Db)
  | selectUser telegramId botId, d => reading d (d.selectUser telegramId botId)
  | selectUserById id, d => reading d (d.selectUserById id)
  | updateUsername username now id, d => writing (d.updateUsername username now id)
  | insertUser telegramId botId username, d => d.insertUser clock telegramId botId username
  | updateTimezone timezone now id, d => writing (d.updateTimezone timezone now id)
  | upsertMarket now conditionId question slug outcomes tokenIds, d =>
      d.upsertMarket clock now conditionId question slug outcomes tokenIds
  | selectOutcomes conditionId, d => .ok (d.selectOutcomes conditionId, d)
  | getUserSubscriptions userId, d => reading d (d.getUserSubscriptions userId)
  | countActiveSubscriptions userId, d => .ok (d.countActiveSubscriptions userId, d)
  | insertSubscription userId marketId outcomeIndex, d =>
      d.insertSubscription clock userId marketId outcomeIndex
  | selectSubscriptionId userId marketId outcomeIndex, d =>
      .ok (d.selectSubscriptionId userId marketId outcomeIndex, d)
  | selectQuestion id, d => .ok (d.selectQuestion id, d)
  | deleteSubscription id, d => .ok (d.deleteSubscription id)
  | insertAlert subscriptionId alertType threshold, d =>
      writing (d.insertAlert clock subscriptionId alertType threshold)
  | countAlerts subscriptionId, d => .ok (d.countAlerts subscriptionId, d)
  | selectAlerts subscriptionId, d => .ok (d.selectAlerts subscriptionId, d)
  | updateAlert alertType threshold subscriptionId, d =>
      writing (d.updateAlert alertType threshold subscriptionId)
  | insertFeedback userId message, d => d.insertFeedback clock userId message
  | getLastFeedbackTime userId, d => .ok (d.getLastFeedbackTime userId, d)

end Stmt

/-! ## Operations -/

/-- The calls a handler can make. Each is one `await` of the source, since that is where another
    handler may run: two statements in a row are two operations, never one. -/
inductive BotOp where
  | answerCallbackQuery (id : String)
  | sendMessage (chat : Int) (text : String) (keyboard : Option Keyboard)
  | updateDialogue (chat : Int) (state : DialogueState)
  | sql (s : Stmt)
  | gammaEvents (query : List (String × String))
  | getMidpoints (tokenIds : List String)
  | now

namespace BotOp

/-- Whether Telegram accepted the call; the answer of a statement; the events or prices of a
    response, if it arrived, was a success and could be parsed. -/
abbrev Res : BotOp → Type
  | answerCallbackQuery _ => Bool
  | sendMessage .. => Bool
  | updateDialogue .. => Unit
  | sql s => Except DbError s.Res
  | gammaEvents _ => Option (List GammaEvent)
  | getMidpoints _ => Option (List (String × Decimal))
  | now => NaiveDateTime

end BotOp

abbrev botSig : Sig := ⟨BotOp, BotOp.Res⟩

/-- What a handler fails with. The kinds are kept apart so that a result can say which of them a
    handler comes to: the last two are what the outside may do at any call, a panic is the code's
    own. -/
inductive BotError where
  | panic
  | telegram
  | database (e : DbError)
  deriving DecidableEq

abbrev Handler (α : Type) := Prog botSig BotError α

/-- `bot.answer_callback_query(id).await?` -/
def answerCallbackQuery (id : String) : Handler Unit :=
  .op (.answerCallbackQuery id) fun (ok : Bool) => if ok then .ret () else .fail .telegram

/-- `bot.send_message(chat, text).reply_markup(keyboard).await?` -/
def sendMessage (chat : Int) (text : String) (keyboard : Option Keyboard) : Handler Unit :=
  .op (.sendMessage chat text keyboard) fun (ok : Bool) =>
    if ok then .ret () else .fail .telegram

/-- `bot.send_message(chat, text).await?` -/
def reply (chat : Int) (text : String) : Handler Unit := sendMessage chat text none

/-- `dialogue.update(state).await?`; the storage is in memory and does not fail. -/
def updateDialogue (chat : Int) (state : DialogueState) : Handler Unit :=
  .op (.updateDialogue chat state) fun _ => .ret ()

/-- A statement whose result the code looks at: the handler goes on when it failed, and may tell
    the user. -/
def sql (s : Stmt) : Handler (Except DbError s.Res) :=
  .op (.sql s) fun (r : Except DbError s.Res) => .ret r

/-- A statement with `?`: if it fails, the handler ends there, without a message and with the
    dialogue where it was. -/
def query (s : Stmt) : Handler s.Res :=
  .op (.sql s) fun (r : Except DbError s.Res) =>
    match r with
    | .ok a => .ret a
    | .error e => .fail (.database e)

def utcNow : Handler NaiveDateTime := .op .now fun (t : NaiveDateTime) => .ret t

/-! ## The world -/

/-- What the outside answers, by the number of the call. There is no law between two answers: the
    clock may stand still or go back, and Telegram may refuse every second message. Results that
    need more say so. -/
structure Env where
  telegram : Nat → Bool
  database : Nat → Bool
  clock : Nat → NaiveDateTime
  gamma : Nat → List (String × String) → Option (List GammaEvent)
  midpoints : Nat → List String → Option (List (String × Decimal))

/-- A message Telegram accepted. -/
structure Sent where
  chat : Int
  text : String
  keyboard : Option Keyboard
  deriving DecidableEq

/-- What the handlers share. `calls` only counts, so that every operation of a run has its own
    answer of the environment; no handler can see it. -/
structure World where
  db : Db
  /-- The dialogue storage: a chat without an entry is idle. -/
  dialogues : Int → DialogueState
  sent : List Sent
  /-- How many operations have been performed. -/
  calls : Nat

namespace World

/-- The database gets the statement, or it does not. -/
def execute (env : Env) (s : Stmt) (w : World) : Except DbError (s.Res × Db) :=
  if env.database w.calls then s.exec (env.clock w.calls) w.db else .error .unavailable

/-- What an operation does, given what its service answers. Every operation takes one tick of
    `calls`, which is what the answers of the environment are indexed by, so each of them may be
    different. A message counts as sent where Telegram accepts it. -/
def perform (env : Env) : (o : BotOp) → World → o.Res × World
  | .answerCallbackQuery _, w => (env.telegram w.calls, { w with calls := w.calls + 1 })
  | .sendMessage chat text keyboard, w =>
      (env.telegram w.calls,
        { w with
          sent := if env.telegram w.calls then w.sent ++ [⟨chat, text, keyboard⟩] else w.sent
          calls := w.calls + 1 })
  | .updateDialogue chat state, w =>
      ((), { w with dialogues := Function.update w.dialogues chat state, calls := w.calls + 1 })
  | .sql s, w =>
      match execute env s w with
      | .ok (a, d) => (.ok a, { w with db := d, calls := w.calls + 1 })
      | .error e => (.error e, { w with calls := w.calls + 1 })
  | .gammaEvents query, w => (env.gamma w.calls query, { w with calls := w.calls + 1 })
  | .getMidpoints tokenIds, w => (env.midpoints w.calls tokenIds, { w with calls := w.calls + 1 })
  | .now, w => (env.clock w.calls, { w with calls := w.calls + 1 })

theorem perform_sql_ok {env : Env} {s : Stmt} {w : World} {a : s.Res} {d : Db}
    (h : execute env s w = .ok (a, d)) :
    perform env (.sql s) w = (.ok a, { w with db := d, calls := w.calls + 1 }) := by
  simp only [perform, h]

theorem perform_sql_error {env : Env} {s : Stmt} {w : World} {e : DbError}
    (h : execute env s w = .error e) :
    perform env (.sql s) w = (.error e, { w with calls := w.calls + 1 }) := by
  simp only [perform, h]

theorem execute_ok {env : Env} {s : Stmt} {w : World} {r : s.Res × Db}
    (h : execute env s w = .ok r) : s.exec (env.clock w.calls) w.db = .ok r := by
  unfold execute at h
  split at h
  · exact h
  · cases h

/-- The world after a handler, however the handler ends. -/
def after {α : Type} (env : Env) (p : Handler α) (w : World) : World := (p.run (perform env) w).2

end World

end PolyNotifier
