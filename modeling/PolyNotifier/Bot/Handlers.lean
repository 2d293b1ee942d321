import PolyNotifier.Bot.Dialogues

/-!
# Command handlers

The handlers of `handlers.rs`, in the order of the file. `/list` and `/prices` loop over the
user's subscriptions and send one message at the end; the loops are the functions `listLines`
and `pricesLines`.
-/

namespace PolyNotifier

open Lib (stripPrefix trim join)

/-- `commands::Command`. -/
inductive Command where
  | start
  | subscribe
  | unsubscribe
  | alert
  | list
  | prices
  | timezone (tz : String)
  | feedback
  | help
  deriving DecidableEq

/-- What the dispatcher hands to the handlers, and the two functions the `BotCommands` derive
    generates. -/
structure BotDeps where
  crates : Crates
  botId : String
  parseCommand : String → Option Command
  descriptions : String

/-- `/start`. It is one of the handlers that pass on the username, so it may rename the row it
    finds. -/
def start (deps : BotDeps) (msg : Message) : Handler Unit :=
  match msg.sender with
  | none => pure ()
  | some sender => do
      let user ← getOrCreateUser sender.telegramId deps.botId sender.username
      let used ← query (.countActiveSubscriptions user.id)
      let greeting := if sender.firstName = "" then "Welcome" else "Welcome, " ++ sender.firstName
      reply msg.chat (greeting ++ "! I'm the Poly-Notifier bot.\n\n" ++
        "I can notify you about price movements on Polymarket.\n\nYour account:\nTier: " ++
        user.tier ++ "\nSubscription slots: " ++ toString used ++ "/" ++
        toString user.maxSubscriptions ++ "\n\nUse /help to see all commands.")

def help (deps : BotDeps) (msg : Message) : Handler Unit := reply msg.chat deps.descriptions

/-! ## `/list` -/

/-- The price of the subscribed outcome, as `/list` shows it. A column that does not parse
    counts as an empty list. -/
def listPrice (x : Crates) (lastPrices : String) (outcomeIndex : Int) : String :=
  match ((x.parseF64s lastPrices).getD [])[asUsize outcomeIndex]? with
  | some p => p.mul100.fixed 1 ++ "%"
  | none => "N/A"

/-- The label of the subscribed outcome, from the market's `outcomes` column. -/
def storedOutcomeLabel (x : Crates) (outcomes : Option String) (outcomeIndex : Int) : String :=
  outcomeLabel ((outcomes.bind x.parseStrings).getD []) outcomeIndex

def alertLine (row : String × F64) : String :=
  "   Alert: " ++ row.1 ++ " " ++ row.2.mul100.fixed 0 ++ "%"

/-- The loop of `list`. A failed query of a market's outcomes ends the handler, a failed query of
    the alerts counts as none. -/
def listLines (x : Crates) : List (Db.SubscriptionDetail × Nat) → Handler (List String)
  | [] => pure []
  | (s, i) :: rest => do
      let outcomes ← query (.selectOutcomes s.conditionId)
      let label := storedOutcomeLabel x outcomes s.outcomeIndex
      let price := listPrice x s.lastPrices s.outcomeIndex
      let alerts ← sql (.selectAlerts s.subscriptionId)
      let alertRows := match alerts with
        | .ok rows => rows
        | .error _ => []
      let alertStr :=
        if alertRows = [] then "   No alerts" else join "\n" (alertRows.map alertLine)
      let lines ← listLines x rest
      pure ([toString (i + 1) ++ ". " ++ s.question, "   " ++ label ++ " @ " ++ price, alertStr, ""]
        ++ lines)

/-- `/list`. Each line is made of a row and its number; the price is what the market's column has,
    and nobody is asked for a newer one. -/
def list (deps : BotDeps) (msg : Message) : Handler Unit :=
  match msg.sender with
  | none => pure ()
  | some sender => do
      let user ← getOrCreateUser sender.telegramId deps.botId none
      let subs ← query (.getUserSubscriptions user.id)
      if subs = [] then
        reply msg.chat "You have no active subscriptions.\n\nUse /subscribe to add one."
      else do
        let lines ← listLines deps.crates subs.zipIdx
        reply msg.chat (join "\n" (["Your Subscriptions (" ++ toString subs.length ++ "/" ++
          toString (asUsize user.maxSubscriptions) ++ "):", ""] ++ lines))

/-! ## `/prices` -/

/-- A midpoint as a percentage. `none` where the multiplication panics. -/
def midpointPercent (x : Crates) (p : Decimal) : Option String :=
  (p.checkedMul Decimal.hundred).map fun pct => x.formatDecimal1 pct ++ "%"

/-- The loop of `prices`: one request to the order book for each subscription, in their order. The
    multiplication by a hundred can panic, and then no price is sent for any of them. -/
def pricesLines (x : Crates) : List (Db.SubscriptionDetail × Nat) → Handler (List String)
  | [] => pure []
  | (s, i) :: rest => do
      let outcomes ← query (.selectOutcomes s.conditionId)
      let label := storedOutcomeLabel x outcomes s.outcomeIndex
      let entry ← match ((x.parseStrings s.tokenIds).getD [])[asUsize s.outcomeIndex]? with
        | none => pure [toString (i + 1) ++ ". " ++ s.question ++ " – token not found", ""]
        | some tokenId =>
            .op (.getMidpoints [tokenId]) fun (map : Option (List (String × Decimal))) =>
              let price := match map with
                | none => some "fetch error"
                | some map =>
                    match map.find? fun e => e.1 == tokenId with
                    | none => some "N/A"
                    | some (_, p) => midpointPercent x p
              match price with
              | none => .fail .panic
              | some price =>
                  .ret [toString (i + 1) ++ ". " ++ s.question, "   " ++ label ++ " @ " ++ price, ""]
      let lines ← pricesLines x rest
      pure (entry ++ lines)

/-- `/prices`. The prices are asked for while the lines are made, one request for each
    subscription, and one that fails costs its line only. -/
def prices (deps : BotDeps) (msg : Message) : Handler Unit :=
  match msg.sender with
  | none => pure ()
  | some sender => do
      let user ← getOrCreateUser sender.telegramId deps.botId none
      let subs ← query (.getUserSubscriptions user.id)
      if subs = [] then
        reply msg.chat "You have no active subscriptions. Use /subscribe to add one."
      else do
        reply msg.chat "Fetching current prices…"
        let lines ← pricesLines deps.crates subs.zipIdx
        reply msg.chat (join "\n" (["Current Prices:", ""] ++ lines))

/-! ## `/unsubscribe` and its button -/

/-- `/unsubscribe`. The buttons carry the ids of the subscriptions; no dialogue state goes with
    them, so the callback handler takes the press whenever the dialogue does not. -/
def unsubscribe (deps : BotDeps) (msg : Message) : Handler Unit :=
  match msg.sender with
  | none => pure ()
  | some sender => do
      let user ← getOrCreateUser sender.telegramId deps.botId none
      let subs ← query (.getUserSubscriptions user.id)
      if subs = [] then reply msg.chat "You have no active subscriptions."
      else
        sendMessage msg.chat "Select a subscription to remove:"
          (some (unsubscribeKeyboard (subscriptionItems subs)))

/-- The alerts go with the subscription: the foreign key cascades. The id is the one of the button,
    and the `DELETE` asks for nothing else, so the sender of the update is not looked at. -/
def callbackUnsubscribe (q : CallbackQuery) (subId : Int) : Handler Unit := do
  answerCallbackQuery q.id
  match q.message with
  | none => pure ()
  | some chat => do
      let result ← sql (.deleteSubscription subId)
      match result with
      | .ok rowsAffected =>
          if 0 < rowsAffected then reply chat "Subscription and its alerts removed."
          else reply chat "Subscription not found."
      | .error _ => reply chat "Failed to remove subscription."

/-! ## `/timezone` and `/feedback` -/

/-- `/timezone`. The name is not looked up anywhere: any text without quotes, semicolon and
    backslash is stored. -/
def timezone (deps : BotDeps) (msg : Message) (tz : String) : Handler Unit :=
  match msg.sender with
  | none => pure ()
  | some sender =>
      if trim tz = "" then
        reply msg.chat "Usage: /timezone America/New_York\nProvide a valid IANA timezone name."
      else if (trim tz).toList.any fun c => [';', '\'', '"', '\\'].contains c then
        reply msg.chat "Invalid timezone string."
      else do
        let user ← getOrCreateUser sender.telegramId deps.botId none
        let now ← utcNow
        query (.updateTimezone (trim tz) now user.id)
        reply msg.chat ("Timezone updated to: " ++ trim tz)

/-- How long until the user may send feedback again, in whole minutes; `none` if they may. The
    minutes are rounded up to the next, so what is shown is never too short. -/
def feedbackWait (now last : NaiveDateTime) : Option Int :=
  let remaining := Duration.hours 1 - (now - last)
  if remaining > 0 then some (remaining / Duration.minutes 1 + 1) else none

/-- The length is that of the text in bytes. The interval is kept by the last time in the table and
    a clock reading of the handler: two statements, with nothing to hold a second handler off in
    between. -/
def feedback (deps : BotDeps) (msg : Message) : Handler Unit :=
  match msg.sender with
  | none => pure ()
  | some sender =>
      let body := ((stripPrefix "/feedback" (msg.text.getD "")).map trim).getD ""
      if body = "" then
        reply msg.chat "Usage: /feedback <your message>\n\nExample: /feedback I'd love to see Bitcoin markets!"
      else if 1000 < body.utf8ByteSize then
        reply msg.chat "Feedback is too long. Please keep it under 1000 characters."
      else do
        let user ← getOrCreateUser sender.telegramId deps.botId none
        let last ← query (.getLastFeedbackTime user.id)
        let wait ← match last with
          | none => pure none
          | some last => do
              let now ← utcNow
              pure (feedbackWait now last)
        match wait with
        | some mins =>
            reply msg.chat ("You can submit feedback again in " ++ toString mins ++ " minute(s).")
        | none => do
            let _ ← query (.insertFeedback user.id body)
            reply msg.chat "Thank you for your feedback! 🙏"

/-! ## Routing -/

/-- The command branch of the schema. `subscribe` and `alert` delegate to the dialogues. It is
    taken in every dialogue state, so a command gets through while a dialogue waits for something
    else. -/
def runCommand (deps : BotDeps) (msg : Message) : Command → Handler Unit
  | .start => start deps msg
  | .help => help deps msg
  | .list => list deps msg
  | .prices => prices deps msg
  | .subscribe => handleSubscribeStart msg
  | .unsubscribe => unsubscribe deps msg
  | .alert => handleAlertStart deps.botId msg
  | .feedback => feedback deps msg
  | .timezone tz => timezone deps msg tz

/-- `dispatch_callback`: the one-shot buttons. -/
def dispatchCallback (q : CallbackQuery) : Handler Unit :=
  match q.data with
  | none => answerCallbackQuery q.id
  | some data =>
      match decodeUnsub data with
      | some subId => callbackUnsubscribe q subId
      | none => answerCallbackQuery q.id

/-- The plain-message branches of the dialogue handler; `none` where no case matches, and then
    nobody answers the message. -/
def messageBranch (deps : BotDeps) (msg : Message) : DialogueState → Option (Handler Unit)
  | .awaitingUrl => some (handleUrlInput deps.crates msg)
  | .awaitingSubscribeAlertThreshold conditionId question outcomes tokenIds outcomeIndex
      alertType =>
      some (handleSubscribeAlertThreshold deps.crates deps.botId msg conditionId question outcomes
        tokenIds outcomeIndex alertType)
  | .awaitingAlertThreshold subscriptionId question alertType =>
      some (handleAlertThreshold deps.botId msg subscriptionId question alertType)
  | _ => none

/-- The callback branches of the dialogue handler; `none` where no case matches, and then the query
    goes on to the handlers of the menus. -/
def callbackBranch (chat : Int) (q : CallbackQuery) : DialogueState → Option (Handler Unit)
  | .awaitingMarketSelection markets => some (handleMarketSelection chat q markets)
  | .awaitingOutcomeSelection conditionId question outcomes tokenIds =>
      some (handleOutcomeSelection chat q conditionId question outcomes tokenIds)
  | .awaitingSubscribeAlertType conditionId question outcomes tokenIds outcomeIndex =>
      some (handleSubscribeAlertTypeSelection chat q conditionId question outcomes tokenIds
        outcomeIndex)
  | .awaitingAlertSubscription => some (handleAlertSubscriptionSelection chat q)
  | .awaitingAlertType subscriptionId question =>
      some (handleAlertTypeSelection chat q subscriptionId question)
  | _ => none

/-- `schema`: the first branch that matches handles the update. A command goes first, in whatever
    state the dialogue is. The dialogue handler needs the chat of the update, which a callback
    query on no message lacks; what it does not handle goes to the callback handler. -/
def schema (deps : BotDeps) (dialogues : Int → DialogueState) : Update → Option (Handler Unit)
  | .message msg =>
      match (msg.text.or msg.caption).bind deps.parseCommand with
      | some command => some (runCommand deps msg command)
      | none => messageBranch deps msg (dialogues msg.chat)
  | .callbackQuery q =>
      match q.message with
      | none => some (dispatchCallback q)
      | some chat => some ((callbackBranch chat q (dialogues chat)).getD (dispatchCallback q))
  | .other => none

/-- One update: an error of the handler is logged, an update no branch takes is dropped. -/
def dispatch (deps : BotDeps) (env : Env) (update : Update) (w : World) : World :=
  match schema deps w.dialogues update with
  | some handler => World.after env handler w
  | none => w

section Routing

variable {deps : BotDeps} {dialogues : Int → DialogueState} {msg : Message} {q : CallbackQuery}

theorem schema_command {command : Command}
    (h : (msg.text.or msg.caption).bind deps.parseCommand = some command) :
    schema deps dialogues (.message msg) = some (runCommand deps msg command) := by
  simp only [schema, h]

theorem schema_message (h : (msg.text.or msg.caption).bind deps.parseCommand = none) :
    schema deps dialogues (.message msg) = messageBranch deps msg (dialogues msg.chat) := by
  simp only [schema, h]

theorem schema_button {chat : Int} (h : q.message = some chat) :
    schema deps dialogues (.callbackQuery q)
      = some ((callbackBranch chat q (dialogues chat)).getD (dispatchCallback q)) := by
  simp only [schema, h]

theorem schema_noMessage (h : q.message = none) :
    schema deps dialogues (.callbackQuery q) = some (dispatchCallback q) := by
  simp only [schema, h]

theorem dispatch_some {env : Env} {update : Update} {w : World} {handler : Handler Unit}
    (h : schema deps w.dialogues update = some handler) :
    dispatch deps env update w = World.after env handler w := by
  simp only [dispatch, h]

theorem dispatch_none {env : Env} {update : Update} {w : World}
    (h : schema deps w.dialogues update = none) : dispatch deps env update w = w := by
  simp only [dispatch, h]

end Routing

end PolyNotifier
