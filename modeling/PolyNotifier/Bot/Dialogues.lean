import PolyNotifier.Bot.Keyboards

/-!
# Dialogue flows

The handlers of `dialogues.rs`, in the order of the file: the subscribe flow from the pasted URL
to the rows of the new subscription and its alert, then the flow that puts an alert on a
subscription that exists. The state a handler was entered with is its arguments.
-/

namespace PolyNotifier

open Lib (afterFirst trim)

/-! ## Users

`get_or_create_user` of `pn-common`, one statement at a time. -/

def fetchUserById (id : Int) : Handler User := query (.selectUserById id)

/-- `get_or_create_user`. Between the `SELECT` that finds nothing and the `INSERT` another handler
    may have inserted the same account; the `INSERT` then breaks the key and the handler is over,
    as there is no second look. -/
def getOrCreateUser (telegramId : Int) (botId : String) (username : Option String) :
    Handler User := do
  let existing ← query (.selectUser telegramId botId)
  match existing with
  | some user =>
      if username.isSome ∧ username ≠ user.username then do
        let now ← utcNow
        query (.updateUsername username now user.id)
        fetchUserById user.id
      else pure user
  | none => do
      let insertedId ← query (.insertUser telegramId botId username)
      fetchUserById insertedId

/-! ## Subscribe flow -/

/-- The text after `/event/`, up to the next `/`, `?` or `#`. Nothing before `/event/` is looked
    at: it need not be the address of Polymarket, nor an address at all. -/
def extractSlugFromUrl (text : String) : Option String :=
  (afterFirst "/event/".toList (trim text).toList).bind fun after =>
    let slug := after.takeWhile fun c => c != '/' && c != '?' && c != '#'
    if slug = [] then none else some (String.ofList slug)

/-- `GammaClient::search_markets`. -/
def searchMarkets (x : Crates) (q : String) : Handler (Option (List GammaMarket)) :=
  .op (.gammaEvents [("closed", "false"), ("limit", "10"), ("title", q)])
    fun (events : Option (List GammaEvent)) => .ret (events.map (flattenEvents x))

/-- `GammaClient::get_market_by_slug`: no market for the slug, and the title is searched. -/
def getMarketBySlug (x : Crates) (slug : String) : Handler (Option (List GammaMarket)) :=
  .op (.gammaEvents [("slug", slug)]) fun (events : Option (List GammaEvent)) =>
    match events with
    | none => .ret none
    | some events =>
        if flattenEvents x events = [] then searchMarkets x slug
        else .ret (some (flattenEvents x events))

def handleSubscribeStart (msg : Message) : Handler Unit := do
  updateDialogue msg.chat .awaitingUrl
  reply msg.chat "Paste a Polymarket event URL (e.g. https://polymarket.com/event/…)\nor type a search query:"

/-- `m.tokens` as two lists of the same length. -/
def marketOption (m : GammaMarket) : MarketOption :=
  { conditionId := m.conditionId, question := m.question,
    outcomes := m.tokens.map GammaToken.outcome, tokenIds := m.tokens.map GammaToken.tokenId }

/-- The question and the keyboard of the outcomes of a market, and the state that waits for
    one. -/
def askOutcome (chat : Int) (market : MarketOption) : Handler Unit := do
  sendMessage chat ("Market: " ++ market.question ++ "\n\nSelect an outcome:")
    (some (outcomeKeyboard market.outcomes))
  updateDialogue chat
    (.awaitingOutcomeSelection market.conditionId market.question market.outcomes market.tokenIds)

/-- What `handle_url_input` does with the markets it found: at most ten are offered, and a single
    one is not asked about. The shortcut and the list meet again in the question for an outcome. -/
def showMarkets (chat : Int) (gammaMarkets : List GammaMarket) : Handler Unit :=
  if gammaMarkets = [] then
    reply chat "No active markets found. Try a different URL or search term."
  else
    match (gammaMarkets.take 10).map marketOption with
    | [market] => askOutcome chat market
    | options => do
        sendMessage chat "Select a market:" (some (marketListKeyboard options))
        updateDialogue chat (.awaitingMarketSelection options)

/-- `handle_url_input`. A slug that can be cut out of the text is looked up, any other text is
    searched for; a request that fails and one that finds nothing are told apart. -/
def handleUrlInput (x : Crates) (msg : Message) : Handler Unit :=
  match msg.text with
  | none => reply msg.chat "Please send a text message."
  | some text =>
      let text := trim text
      if text = "" then reply msg.chat "Input cannot be empty. Try again:"
      else do
        reply msg.chat "Searching…"
        let found ← match extractSlugFromUrl text with
          | some slug => getMarketBySlug x slug
          | none => searchMarkets x text
        match found with
        | none => reply msg.chat "Search failed. Please try again later."
        | some gammaMarkets => showMarkets msg.chat gammaMarkets

/-- `dialogue` is the chat the state belongs to; the message of the button is in it. An index
    without a market ends the dialogue. This is the one place of the flow where an index from a
    button is compared with a list. -/
def handleMarketSelection (dialogue : Int) (q : CallbackQuery) (markets : List MarketOption) :
    Handler Unit := do
  answerCallbackQuery q.id
  match q.data.bind decodeMarket with
  | none => pure ()
  | some index =>
      match markets[index]? with
      | none => do
          if let some chat := q.message then
            reply chat "Invalid selection. Please try /subscribe again."
          updateDialogue dialogue .idle
      | some market =>
          match q.message with
          | none => pure ()
          | some chat => do
              sendMessage chat ("Market: " ++ market.question ++ "\n\nSelect an outcome:")
                (some (outcomeKeyboard market.outcomes))
              updateDialogue dialogue
                (.awaitingOutcomeSelection market.conditionId market.question market.outcomes
                  market.tokenIds)

/-- The index of the button goes into the next state unseen: for one that is no outcome the label
    is made up, and the flow goes on. -/
def handleOutcomeSelection (dialogue : Int) (q : CallbackQuery) (conditionId question : String)
    (outcomes tokenIds : List String) : Handler Unit := do
  answerCallbackQuery q.id
  match q.data.bind decodeOutcome with
  | none => pure ()
  | some outcomeIndex =>
      match q.message with
      | none => pure ()
      | some chat => do
          sendMessage chat ("Market: " ++ question ++ "\nOutcome: " ++
            outcomeLabel outcomes outcomeIndex ++ "\n\nSelect alert type:") (some alertTypeKeyboard)
          updateDialogue dialogue
            (.awaitingSubscribeAlertType conditionId question outcomes tokenIds outcomeIndex)

/-- The prompt for a threshold. `none` where the code is `unreachable!()`. -/
def thresholdPrompt (alertType : String) : Option String :=
  match alertType with
  | "above" => some "Enter the price threshold (0–100%). Alert fires when price rises ABOVE it:"
  | "below" => some "Enter the price threshold (0–100%). Alert fires when price falls BELOW it:"
  | "cross" => some "Enter the price threshold (0–100%). Alert fires when price CROSSES it:"
  | _ => none

/-- The common body of the two alert-type handlers; they differ in the next state. The data has
    been decoded to one of three types when the prompt is chosen, and for any other text the source
    has an `unreachable!`, which is a panic here. -/
def selectAlertType (dialogue : Int) (q : CallbackQuery) (next : String → DialogueState) :
    Handler Unit := do
  answerCallbackQuery q.id
  match q.data.bind decodeAlertType with
  | none => pure ()
  | some alertType =>
      match q.message with
      | none => pure ()
      | some chat =>
          match thresholdPrompt alertType with
          | none => .fail .panic
          | some prompt => do
              reply chat prompt
              updateDialogue dialogue (next alertType)

def handleSubscribeAlertTypeSelection (dialogue : Int) (q : CallbackQuery)
    (conditionId question : String) (outcomes tokenIds : List String) (outcomeIndex : Int) :
    Handler Unit :=
  selectAlertType dialogue q
    (.awaitingSubscribeAlertThreshold conditionId question outcomes tokenIds outcomeIndex)

/-- What a threshold message says: a percentage in range, or the text to answer with. `NaN` parses
    as an `f64` but is in no range, and an infinity is out of it, so whatever is accepted is a
    number. -/
def parseThreshold (msg : Message) : Except String F64 :=
  match msg.text with
  | none => .error "Please send a number (e.g. 70)."
  | some text =>
      match F64.parse (trim text) with
      | none => .error "Invalid number. Please enter a value like 70:"
      | some pct =>
          if pct.inRange 0 100 then .ok pct
          else .error "Threshold must be between 0 and 100. Try again:"

/-- A threshold that is accepted is stored as a fraction of one. -/
theorem parseThreshold_unit {msg : Message} {pct : F64} (h : parseThreshold msg = .ok pct) :
    ∃ q, pct.div100 = .num q ∧ 0 ≤ q ∧ q ≤ 1 := by
  unfold parseThreshold at h
  split at h
  · cases h
  · split at h
    · cases h
    · split at h
      · rename_i hin
        cases h
        exact F64.div100_unit hin
      · cases h

/-- The last part of `handle_subscribe_alert_threshold`: the alert of the new subscription. If it
    cannot be written, the subscription stays without one and the user is told so; nothing is taken
    back. -/
def createFirstAlert (chat : Int) (subscriptionId : Int) (question label alertType : String)
    (pct : F64) : Handler Unit := do
  let result ← sql (.insertAlert subscriptionId alertType pct.div100)
  match result with
  | .ok _ =>
      reply chat ("Subscribed with alert!\nMarket: " ++ question ++ "\nOutcome: " ++ label ++
        "\nAlert: " ++ alertType ++ " " ++ pct.fixed 0 ++ "%")
  | .error _ =>
      reply chat ("Subscribed to " ++ label ++ " on:\n" ++ question ++
        "\n\n⚠️ Failed to create alert. Use /alert to add one.")
  updateDialogue chat .idle

/-- The middle part: insert the subscription, unless it is there, and find its id. The code keeps
    the number of rows of the `INSERT OR IGNORE` and not the key it gave out, so the id is looked
    up by the three columns afterwards. -/
def createSubscription (chat : Int) (userId marketId outcomeIndex : Int)
    (question label alertType : String) (pct : F64) : Handler Unit := do
  let result ← sql (.insertSubscription userId marketId outcomeIndex)
  match result with
  | .ok 0 => do
      reply chat ("You are already subscribed to " ++ label ++ " on:\n" ++ question)
      updateDialogue chat .idle
  | .ok _ => do
      let row ← query (.selectSubscriptionId userId marketId outcomeIndex)
      match row with
      | some subscriptionId => createFirstAlert chat subscriptionId question label alertType pct
      | none => do
          reply chat "Failed to find subscription. Please try again."
          updateDialogue chat .idle
  | .error _ => do
      reply chat "Failed to create subscription. Please try again."
      updateDialogue chat .idle

/-- The first part: the user, the quota, the market. The count and the insertion are two statements
    with the market's in between, and no transaction is around them. -/
def handleSubscribeAlertThreshold (x : Crates) (botId : String) (msg : Message)
    (conditionId question : String) (outcomes tokenIds : List String) (outcomeIndex : Int)
    (alertType : String) : Handler Unit :=
  match parseThreshold msg with
  | .error text => reply msg.chat text
  | .ok pct =>
      match msg.sender with
      | none => pure ()
      | some sender => do
          let user ← getOrCreateUser sender.telegramId botId sender.username
          let activeCount ← query (.countActiveSubscriptions user.id)
          if user.maxSubscriptions ≤ activeCount then do
            reply msg.chat ("You have reached your subscription limit (" ++
              toString user.maxSubscriptions ++ "). Unsubscribe from a market first.")
            updateDialogue msg.chat .idle
          else do
            let now ← utcNow
            let marketId ← query (.upsertMarket now conditionId question none
              (x.writeStrings outcomes) (x.writeStrings tokenIds))
            createSubscription msg.chat user.id marketId outcomeIndex question
              (outcomeLabel outcomes outcomeIndex) alertType pct

/-! ## Alert flow -/

/-- The entries of the two subscription keyboards. -/
def subscriptionItems (subs : List Db.SubscriptionDetail) : List (Int × String) :=
  subs.map fun s =>
    (s.subscriptionId, s.question ++ " (outcome " ++ toString s.outcomeIndex ++ ")")

/-- `handle_alert_start`. The keyboard carries the ids of the subscriptions, and the dialogue only
    that one of them is waited for. -/
def handleAlertStart (botId : String) (msg : Message) : Handler Unit :=
  match msg.sender with
  | none => pure ()
  | some sender => do
      let user ← getOrCreateUser sender.telegramId botId none
      let subs ← query (.getUserSubscriptions user.id)
      if subs = [] then
        reply msg.chat "You have no active subscriptions. Use /subscribe first."
      else do
        sendMessage msg.chat "Select a subscription to set an alert on:"
          (some (subscriptionListKeyboard (subscriptionItems subs)))
        updateDialogue msg.chat .awaitingAlertSubscription

/-- `handle_alert_subscription_selection`. The id comes out of the data of the button and is looked
    up as it is, without the user who pressed it. -/
def handleAlertSubscriptionSelection (dialogue : Int) (q : CallbackQuery) : Handler Unit := do
  answerCallbackQuery q.id
  match q.data.bind decodeSub with
  | none => pure ()
  | some subId =>
      match q.message with
      | none => pure ()
      | some chat => do
          let row ← query (.selectQuestion subId)
          match row with
          | some question => do
              sendMessage chat ("Market: " ++ question ++ "\n\nSelect alert type:")
                (some alertTypeKeyboard)
              updateDialogue dialogue (.awaitingAlertType subId question)
          | none => do
              reply chat "Subscription not found. Please try /alert again."
              updateDialogue dialogue .idle

def handleAlertTypeSelection (dialogue : Int) (q : CallbackQuery) (subscriptionId : Int)
    (question : String) : Handler Unit :=
  selectAlertType dialogue q (.awaitingAlertThreshold subscriptionId question)

/-- `insert_alert` of `dialogues.rs`: a failed `INSERT` is only reported. The dialogue is reset by
    the caller, in both cases. -/
def insertAlert (chat : Int) (subscriptionId : Int) (alertType question : String) (pct : F64) :
    Handler Unit := do
  let result ← sql (.insertAlert subscriptionId alertType pct.div100)
  match result with
  | .ok _ =>
      reply chat ("Alert created!\nMarket: " ++ question ++ "\nType: " ++ alertType ++
        "\nThreshold: " ++ pct.fixed 0 ++ "%")
  | .error _ => reply chat "Failed to create alert. Please try again."

/-- The branch of `handle_alert_threshold` for a free user whose subscription has an alert: the
    first of its alerts gets the type and the threshold, and the others stay. -/
def updateFirstAlert (chat : Int) (subscriptionId : Int) (alertType question : String)
    (pct : F64) : Handler Unit := do
  let result ← sql (.updateAlert alertType pct.div100 subscriptionId)
  match result with
  | .ok _ =>
      reply chat ("Alert updated!\nMarket: " ++ question ++ "\nType: " ++ alertType ++
        "\nThreshold: " ++ pct.fixed 0 ++ "%")
  | .error _ => reply chat "Failed to update alert. Please try again."

/-- Free users have one alert for each subscription, which a second flow rewrites. The subscription
    is the one the dialogue carries: whose it is is not asked again. -/
def handleAlertThreshold (botId : String) (msg : Message) (subscriptionId : Int)
    (question alertType : String) : Handler Unit :=
  match parseThreshold msg with
  | .error text => reply msg.chat text
  | .ok pct =>
      match msg.sender with
      | none => pure ()
      | some sender => do
          let user ← getOrCreateUser sender.telegramId botId none
          let alertCount ← query (.countAlerts subscriptionId)
          if user.tier = "free" ∧ 0 < alertCount then
            updateFirstAlert msg.chat subscriptionId alertType question pct
          else
            insertAlert msg.chat subscriptionId alertType question pct
          updateDialogue msg.chat .idle

end PolyNotifier
