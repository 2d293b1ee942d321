import PolyNotifier.Alert.Engine
import PolyNotifier.Bot.Handlers
import PolyNotifier.Bot.Runs
import PolyNotifier.Common.Reference

/-!
# The outcome the user picks is the token that is watched

The subscribe flow from the URL to the first refresh of the alert engine. The user sees
keyboards and presses their buttons; what travels is an index, through the callback data, the
dialogue state, the two JSON columns of the market and the rule the engine builds.

`Shows` is what holds between two steps of the flow: the state the chat is in and the keyboard
it shows. Each step is one lemma from one `Shows` to the next; the last step is the database
after the threshold (`Subscribed`). `watches_pressed_outcome` puts them together.
-/

namespace PolyNotifier

open Lib (Prog Table trim)

/-- Telegram and the database answer every call. -/
structure Env.Answers (env : Env) : Prop where
  telegram : ∀ n, env.telegram n = true
  database : ∀ n, env.database n = true

namespace World

/-! ## What a chat shows -/

/-- The keyboard of the last message sent to a chat. -/
def lastKeyboard (w : World) (chat : Int) : Option Keyboard :=
  (w.sent.filter fun m => m.chat == chat).getLast?.bind Sent.keyboard

/-- The `n`-th button of the keyboard a chat shows. -/
def shownButton (w : World) (chat : Int) (n : Nat) : Option Button :=
  (w.lastKeyboard chat).bind fun keyboard => keyboard.flatten[n]?

/-- Between two steps of the flow. The keyboard is that of the last message to the chat, which is
    all the user can press; the database is named because the steps in between must not have
    touched it. -/
structure Shows (w : World) (chat : Int) (state : DialogueState) (keyboard : Keyboard) (d : Db) :
    Prop where
  state : w.dialogues chat = state
  keyboard : w.lastKeyboard chat = some keyboard
  db : w.db = d

variable {env : Env} {w : World} {chat : Int} {d : Db}

/-- The world after an accepted message. -/
def messaged (w : World) (chat : Int) (text : String) (keyboard : Option Keyboard) : World :=
  { w with sent := w.sent ++ [⟨chat, text, keyboard⟩], calls := w.calls + 1 }

/-- The world after a dialogue has moved on. -/
def entered (w : World) (chat : Int) (state : DialogueState) : World :=
  { w with dialogues := Function.update w.dialogues chat state, calls := w.calls + 1 }

theorem run_sendMessage_ok {text : String} {keyboard : Option Keyboard}
    (h : env.telegram w.calls = true) :
    (sendMessage chat text keyboard).run (perform env) w
      = (.ok (), w.messaged chat text keyboard) := by
  rw [sendMessage, Prog.run_op]
  simp only [perform, h]
  rfl

@[simp] theorem entered_dialogue {state : DialogueState} :
    (w.entered chat state).dialogues chat = state := by
  simp [entered]

@[simp] theorem lastKeyboard_messaged {text : String} {keyboard : Option Keyboard} :
    (w.messaged chat text keyboard).lastKeyboard chat = keyboard := by
  simp [lastKeyboard, messaged]

/-- **A message with a keyboard, then a new state**: the end of every step but the last. -/
theorem shows_of_prompt {text : String} {keyboard : Keyboard} {state : DialogueState}
    (hans : env.Answers) (hdb : w.db = d) :
    Shows (after env (do
        sendMessage chat text (some keyboard)
        updateDialogue chat state : Handler Unit) w) chat state keyboard d := by
  rw [after_bind_ok (run_sendMessage_ok (hans.telegram _))]
  refine ⟨?_, ?_, hdb⟩
  · exact entered_dialogue
  · exact lastKeyboard_messaged

/-! ## The user's steps -/

section Steps

variable (deps : BotDeps) (env : Env) (sender : Sender) (chat : Int)

/-- The user sends a text. -/
def say (text : String) (w : World) : World :=
  dispatch deps env (.message ⟨chat, some sender, some text, none⟩) w

/-- The user presses the `n`-th button of the keyboard shown. -/
def press (id : String) (n : Nat) (w : World) : World :=
  match w.shownButton chat n with
  | some button => dispatch deps env (.callbackQuery ⟨id, sender, some chat, some button.data⟩) w
  | none => w

end Steps

variable {deps : BotDeps} {sender : Sender}

/-- A text that is no command, in a state that waits for one. -/
theorem say_eq {text : String} {state : DialogueState} {handler : Handler Unit}
    (hcommand : deps.parseCommand text = none) (hstate : w.dialogues chat = state)
    (hbranch : messageBranch deps ⟨chat, some sender, some text, none⟩ state = some handler) :
    say deps env sender chat text w = after env handler w := by
  apply dispatch_some
  refine (schema_message ?_).trans ?_
  · exact hcommand
  · rw [hstate]
    exact hbranch

/-- A button of the keyboard shown, in a state that waits for one. -/
theorem press_eq {id : String} {n : Nat} {button : Button} {state : DialogueState}
    {keyboard : Keyboard} {handler : Handler Unit} (h : Shows w chat state keyboard d)
    (hbutton : keyboard.flatten[n]? = some button)
    (hbranch : callbackBranch chat ⟨id, sender, some chat, some button.data⟩ state
      = some handler) :
    press deps env sender chat id n w = after env handler w := by
  have hshown : w.shownButton chat n = some button := by
    rw [shownButton, h.keyboard, Option.bind_some, hbutton]
  simp only [press, hshown]
  apply dispatch_some
  rw [schema_button rfl, h.state, hbranch, Option.getD_some]

/-! ### Buttons -/

/-- A keyboard with one button a row. -/
theorem flatten_singletons {α : Type} (items : List α) (f : α → Button) (n : Nat) :
    (items.map fun a => [f a]).flatten[n]? = items[n]?.map f := by
  induction items generalizing n with
  | nil => rfl
  | cons a as ih =>
    cases n with
    | zero => rfl
    | succ n => exact ih n

theorem marketButton {options : List MarketOption} {n : Nat} {market : MarketOption}
    (h : options[n]? = some market) :
    (marketListKeyboard options).flatten[n]?
      = some ⟨truncate market.question, "market:" ++ toString n⟩ := by
  refine (flatten_singletons options.zipIdx _ n).trans ?_
  simp [List.getElem?_zipIdx, h]

theorem outcomeButton {outcomes : List String} {n : Nat} {label : String}
    (h : outcomes[n]? = some label) :
    (outcomeKeyboard outcomes).flatten[n]? = some ⟨label, "outcome:" ++ toString n⟩ := by
  refine (flatten_singletons outcomes.zipIdx _ n).trans ?_
  simp [List.getElem?_zipIdx, h]

/-! ### The search -/

/-- The query of a search by title. -/
def titleQuery (text : String) : List (String × String) :=
  [("closed", "false"), ("limit", "10"), ("title", text)]

/-- The response the search for a text ends with, from call `n` on: that for the title, or that
    for the slug in the text, or that for the slug as a title if the slug has no market. -/
inductive Found (x : Crates) (env : Env) (n : Nat) (text : String) (events : List GammaEvent) :
    Prop where
  | title (htext : extractSlugFromUrl text = none)
      (h : env.gamma n (titleQuery text) = some events)
  | slug {slug : String} (htext : extractSlugFromUrl text = some slug)
      (h : env.gamma n [("slug", slug)] = some events)
  | slugAsTitle {slug : String} {first : List GammaEvent}
      (htext : extractSlugFromUrl text = some slug)
      (hfirst : env.gamma n [("slug", slug)] = some first) (hnone : flattenEvents x first = [])
      (h : env.gamma (n + 1) (titleQuery slug) = some events)

theorem run_searchMarkets {x : Crates} {text : String} {events : List GammaEvent}
    (h : env.gamma w.calls (titleQuery text) = some events) :
    (searchMarkets x text).run (perform env) w
      = (.ok (some (flattenEvents x events)), w.called) := by
  rw [searchMarkets, Prog.run_op]
  simp only [perform]
  rw [show env.gamma w.calls [("closed", "false"), ("limit", "10"), ("title", text)] = some events
    from h]
  rfl

theorem run_getMarketBySlug {x : Crates} {slug : String} {events : List GammaEvent}
    (hne : flattenEvents x events ≠ []) (h : env.gamma w.calls [("slug", slug)] = some events) :
    (getMarketBySlug x slug).run (perform env) w
      = (.ok (some (flattenEvents x events)), w.called) := by
  rw [getMarketBySlug, Prog.run_op]
  simp only [perform, h, if_neg hne]
  rfl

theorem run_getMarketBySlug_title {x : Crates} {slug : String} {events first : List GammaEvent}
    (hfirst : env.gamma w.calls [("slug", slug)] = some first) (hnone : flattenEvents x first = [])
    (h : env.gamma (w.calls + 1) (titleQuery slug) = some events) :
    (getMarketBySlug x slug).run (perform env) w
      = (.ok (some (flattenEvents x events)), w.called.called) := by
  rw [getMarketBySlug, Prog.run_op]
  simp only [perform, hfirst, if_pos hnone]
  exact run_searchMarkets (w := w.called) h

/-- **The keyboard after the search**: the outcomes of the market, or the markets. -/
theorem shows_of_markets (chat : Int) (w : World) {markets : List GammaMarket}
    (hans : env.Answers) (hne : markets ≠ []) :
    (∃ market, (markets.take 10).map marketOption = [market] ∧
      Shows (after env (showMarkets chat markets) w) chat
        (.awaitingOutcomeSelection market.conditionId market.question market.outcomes
          market.tokenIds) (outcomeKeyboard market.outcomes) w.db) ∨
    (1 < (markets.take 10).length ∧
      Shows (after env (showMarkets chat markets) w) chat
        (.awaitingMarketSelection ((markets.take 10).map marketOption))
        (marketListKeyboard ((markets.take 10).map marketOption)) w.db) := by
  unfold showMarkets
  rw [if_neg hne]
  split
  · rename_i market hmarket
    exact .inl ⟨market, hmarket, shows_of_prompt hans rfl⟩
  · rename_i hmany
    right
    refine ⟨?_, shows_of_prompt hans rfl⟩
    cases markets with
    | nil => exact absurd rfl hne
    | cons m ms =>
      cases ms with
      | nil => exact absurd rfl (hmany (marketOption m))
      | cons m' ms => simp

theorem shows_of_url {text : String} {events : List GammaEvent} (hans : env.Answers)
    (hcommand : deps.parseCommand text = none) (hstate : w.dialogues chat = .awaitingUrl)
    (htext : trim text ≠ "") (hfound : Found deps.crates env (w.calls + 1) (trim text) events)
    (hne : flattenEvents deps.crates events ≠ []) :
    ∃ w₁, w₁.db = w.db ∧ say deps env sender chat text w
      = after env (showMarkets chat (flattenEvents deps.crates events)) w₁ := by
  rw [say_eq hcommand hstate rfl]
  unfold handleUrlInput
  dsimp only
  rw [if_neg htext, reply, after_bind_ok (run_sendMessage_ok (hans.telegram _))]
  cases hfound with
  | title hslug h =>
    rw [hslug]
    refine ⟨_, ?_, after_bind_ok (run_searchMarkets h)⟩
    rfl
  | slug hslug h =>
    rw [hslug]
    refine ⟨_, ?_, after_bind_ok (run_getMarketBySlug hne h)⟩
    rfl
  | slugAsTitle hslug hfirst hnone h =>
    rw [hslug]
    refine ⟨_, ?_, after_bind_ok (run_getMarketBySlug_title hfirst hnone h)⟩
    rfl

/-! ### The three buttons -/

theorem shows_of_marketButton {id : String} {n : Nat} {options : List MarketOption}
    {market : MarketOption} (hans : env.Answers)
    (h : Shows w chat (.awaitingMarketSelection options) (marketListKeyboard options) d)
    (hmarket : options[n]? = some market) (hn : n < 2 ^ 64) :
    Shows (press deps env sender chat id n w) chat
      (.awaitingOutcomeSelection market.conditionId market.question market.outcomes
        market.tokenIds) (outcomeKeyboard market.outcomes) d := by
  rw [press_eq h (marketButton hmarket) rfl]
  unfold handleMarketSelection
  rw [after_bind_ok (run_answer_ok (hans.telegram _))]
  simp only [Option.bind_some, decodeMarket_data hn, hmarket]
  exact shows_of_prompt hans h.db

variable (deps sender) in
theorem shows_of_outcomeButton (id : String) {n : Nat} {conditionId question label : String}
    {outcomes tokenIds : List String} (hans : env.Answers)
    (h : Shows w chat (.awaitingOutcomeSelection conditionId question outcomes tokenIds)
      (outcomeKeyboard outcomes) d)
    (hlabel : outcomes[n]? = some label) (hn : n < 2 ^ 63) :
    Shows (press deps env sender chat id n w) chat
      (.awaitingSubscribeAlertType conditionId question outcomes tokenIds n) alertTypeKeyboard
      d := by
  rw [press_eq h (outcomeButton hlabel) rfl]
  unfold handleOutcomeSelection
  rw [after_bind_ok (run_answer_ok (hans.telegram _))]
  have hdecode : decodeOutcome ("outcome:" ++ toString n) = some (n : Int) := by
    rw [show toString n = toString (n : Int) from rfl]
    apply decodeOutcome_data <;> omega
  simp only [Option.bind_some, hdecode]
  exact shows_of_prompt hans h.db

/-- The three alert types, in the order of their buttons. -/
def alertTypeButtons : List AlertType := [.above, .below, .cross]

variable (deps sender) in
/-- After the third button the chat waits for the threshold, and shows no keyboard. -/
theorem state_of_alertTypeButton (id : String) {n : Nat} {conditionId question : String}
    {outcomes tokenIds : List String} {outcomeIndex : Int} {alertType : AlertType}
    (hans : env.Answers)
    (h : Shows w chat (.awaitingSubscribeAlertType conditionId question outcomes tokenIds
      outcomeIndex) alertTypeKeyboard d)
    (htype : alertTypeButtons[n]? = some alertType) :
    (press deps env sender chat id n w).db = d ∧
      (press deps env sender chat id n w).dialogues chat
        = .awaitingSubscribeAlertThreshold conditionId question outcomes tokenIds outcomeIndex
          alertType.toString := by
  have hbutton : ∃ label, alertTypeKeyboard.flatten[n]?
      = some ⟨label, "alert_type:" ++ alertType.toString⟩ := by
    rcases n with _ | _ | _ | n
    · cases htype
      exact ⟨_, rfl⟩
    · cases htype
      exact ⟨_, rfl⟩
    · cases htype
      exact ⟨_, rfl⟩
    · cases htype
  have hprompt : ∃ prompt, thresholdPrompt alertType.toString = some prompt := by
    cases alertType <;> exact ⟨_, rfl⟩
  obtain ⟨label, hbutton⟩ := hbutton
  obtain ⟨prompt, hprompt⟩ := hprompt
  rw [press_eq h hbutton rfl]
  simp only [handleSubscribeAlertTypeSelection, selectAlertType]
  rw [after_bind_ok (run_answer_ok (hans.telegram _))]
  simp only [Option.bind_some, decodeAlertType_data, hprompt]
  rw [reply, after_bind_ok (run_sendMessage_ok (hans.telegram _))]
  exact ⟨h.db, entered_dialogue⟩

/-! ### The threshold -/

/-- What the flow leaves in the database: one more subscription, of the user and the market, and
    one more alert on it. The old rows are still there, in place, so what belonged to others is as
    it was. -/
structure Subscribed (x : Crates) (d d' : Db) (who : Int × String) (conditionId : String)
    (tokenIds : List String) (outcomeIndex : Int) (alertType : String) (threshold : F64)
    (s : Subscription) (a : Alert) : Prop where
  subscriptions : d'.subscriptions.rows = d.subscriptions.rows ++ [s]
  alerts : d'.alerts.rows = d.alerts.rows ++ [a]
  alertOf : a.subscriptionId = s.id
  outcomeIndex : s.outcomeIndex = outcomeIndex
  isActive : s.isActive = true
  alertType : a.alertType = alertType
  threshold : a.threshold = threshold
  user : d'.owner s.userId = some who
  market : ∃ m, d'.markets.find s.marketId = some m ∧ m.conditionId = conditionId ∧
    m.tokenIds = x.writeStrings tokenIds ∧ m.isActive = true

/-- No id sequence is used up. SQLite refuses an insertion into a table whose largest key is the
    largest integer, and then there is no new row to speak of. -/
structure Roomy (d : Db) : Prop where
  markets : d.markets.seq + 1 < 2 ^ 63
  subscriptions : d.subscriptions.seq + 1 < 2 ^ 63
  alerts : d.alerts.seq + 1 < 2 ^ 63

/-- The user has no subscription to the outcome. -/
def NotSubscribed (d : Db) (who : Int × String) (conditionId : String) (outcomeIndex : Int) :
    Prop :=
  ∀ s ∈ d.subscriptions.rows, d.owner s.userId = some who →
    ∀ m, d.markets.find s.marketId = some m → m.conditionId = conditionId →
      s.outcomeIndex ≠ outcomeIndex

theorem alertTypes_contains (t : AlertType) : alertTypes.contains t.toString := by
  cases t <;> rfl

/-- **The new rows**: the statements of the last step, one after another. -/
theorem subscribed_of_statements {x : Crates} {d₁ d₂ d₃ d₄ : Db} {who : Int × String} {u : User}
    {c₁ now c₂ c₃ : NaiveDateTime} {conditionId question : String} {outcomes tokenIds : List String}
    {outcomeIndex marketId : Int} {t : AlertType} {threshold : F64}
    (hd : d.UsersOnly d₁) (hu : d₁.users.find u.id = some u) (hwho : (u.telegramId, u.botId) = who)
    (hmarket : d₁.upsertMarket c₁ now conditionId question none (x.writeStrings outcomes)
      (x.writeStrings tokenIds) = .ok (marketId, d₂))
    (hsub : d₂.insertSubscription c₂ u.id marketId outcomeIndex = .ok (1, d₃))
    (halert : d₃.insertAlert c₃ (d.subscriptions.seq + 1) t.toString threshold = .ok d₄) :
    ∃ s a, Subscribed x d d₄ who conditionId tokenIds outcomeIndex t.toString threshold s a := by
  obtain ⟨husers, hsubs, halerts, ⟨m, hm, _, hcond, _, _, htok, hact⟩, _⟩ :=
    Db.upsertMarket_ok hmarket
  rcases Db.insertSubscription_ok hsub with ⟨h, _⟩ | ⟨_, husers', hmarkets', halerts', _, hrows⟩
  · cases h
  obtain ⟨_, husers'', hmarkets'', hsubs'', _, hrows''⟩ := Db.insertAlert_ok halert
  rw [hsubs, hd.subscriptions] at hrows
  rw [halerts', halerts, hd.alerts] at hrows''
  refine ⟨⟨d.subscriptions.seq + 1, u.id, marketId, outcomeIndex, true, datetimeNow c₂⟩,
    ⟨d.alerts.seq + 1, d.subscriptions.seq + 1, t.toString, threshold, false, 60, none,
      datetimeNow c₃⟩, ?_, hrows'', rfl, rfl, rfl, rfl, rfl, ?_, ⟨m, ?_, hcond, htok, hact⟩⟩
  · rw [hsubs'', hrows]
  · rw [Db.owner, husers'', husers', husers, hu, ← hwho]
    rfl
  · rw [hmarkets'', hmarkets']
    exact hm

/-- The statements after the upsert: the two insertions go through. -/
theorem after_createSubscription {userId marketId outcomeIndex : Int}
    (hans : env.Answers) (hsubs : w.db.subscriptions.seq + 1 < 2 ^ 63)
    (halerts : w.db.alerts.seq + 1 < 2 ^ 63) (huser : w.db.users.hasKey userId)
    (hmarket : w.db.markets.hasKey marketId)
    (hnew : ∀ s ∈ w.db.subscriptions.rows,
      ¬ (s.userId = userId ∧ s.marketId = marketId ∧ s.outcomeIndex = outcomeIndex))
    (question label : String) (chat : Int) (t : AlertType) {pct : F64}
    (hnan : pct.div100 ≠ .nan) :
    ∃ c₂ c₃ d₃, w.db.insertSubscription c₂ userId marketId outcomeIndex = .ok (1, d₃) ∧
      d₃.insertAlert c₃ (w.db.subscriptions.seq + 1) t.toString pct.div100
        = .ok (after env (createSubscription chat userId marketId outcomeIndex question label
          t.toString pct) w).db := by
  obtain ⟨d₃, hsub⟩ : ∃ d₃, w.db.insertSubscription (env.clock w.calls) userId marketId outcomeIndex
      = .ok (1, d₃) := Db.insertSubscription_isOk hsubs huser hmarket hnew
  rcases Db.insertSubscription_ok hsub with ⟨h, _⟩ | ⟨_, _, _, hsame, _, hrows⟩
  · cases h
  have hexec : execute env (.insertSubscription userId marketId outcomeIndex) w = .ok (1, d₃) :=
    (execute_of_database (hans.database _)).trans hsub
  unfold createSubscription
  rw [after_bind_ok (run_sql_ok hexec)]
  -- the id is read back
  have hmem : (⟨w.db.subscriptions.seq + 1, userId, marketId, outcomeIndex, true,
      datetimeNow (env.clock w.calls)⟩ : Subscription) ∈ d₃.subscriptions.rows := by
    rw [hrows]
    simp
  have hread : execute env (.selectSubscriptionId userId marketId outcomeIndex) (w.stored d₃)
      = .ok (some (w.db.subscriptions.seq + 1), d₃) := by
    rw [execute_of_database (hans.database _)]
    exact congrArg (fun id => Except.ok (id, d₃)) (Db.selectSubscriptionId_isSome hmem rfl)
  show ∃ c₂ c₃ d, w.db.insertSubscription c₂ userId marketId outcomeIndex = .ok (1, d) ∧
    d.insertAlert c₃ (w.db.subscriptions.seq + 1) t.toString pct.div100 = .ok (after env
      (query (.selectSubscriptionId userId marketId outcomeIndex) >>= _) (w.stored d₃)).db
  rw [after_bind_ok (run_query_ok hread)]
  generalize hw' : (w.stored d₃).stored d₃ = w'
  have hdb' : w'.db = d₃ := by rw [← hw']; rfl
  -- the alert
  have hroom' : d₃.alerts.seq + 1 < 2 ^ 63 := by
    rw [hsame]
    exact halerts
  obtain ⟨d₄, halert⟩ : ∃ d₄, d₃.insertAlert (env.clock w'.calls) (w.db.subscriptions.seq + 1)
      t.toString pct.div100 = .ok d₄ :=
    Db.insertAlert_isOk hroom' (alertTypes_contains t) hnan
      (Table.hasKey_iff.mpr ⟨_, hmem, rfl⟩)
  refine ⟨_, env.clock w'.calls, d₃, hsub, ?_⟩
  rw [halert]
  have hexec' : execute env (.insertAlert (w.db.subscriptions.seq + 1) t.toString
      pct.div100) w' = .ok ((), d₄) := by
    rw [execute_of_database (hans.database _), hdb']
    show Stmt.writing _ = _
    rw [halert]
    rfl
  unfold createFirstAlert
  rw [after_bind_ok (run_sql_ok hexec')]
  exact congrArg Except.ok
    (((keepsDb_reply _ _).bind fun _ => keepsDb_updateDialogue _ _) (w'.stored d₄)).symm

/-- **The threshold ends the flow**: a user below the quota who is not subscribed is. -/
theorem subscribed_of_threshold {x : Crates} {botId : String} {msg : Message} {pct : F64}
    {conditionId question : String} {outcomes tokenIds : List String} {outcomeIndex : Int}
    {t : AlertType} (hans : env.Answers) (hp : parseThreshold msg = .ok pct)
    (hs : msg.sender = some sender)
    (hquota : ∃ acc, w.db.account sender.telegramId botId = some acc ∧
      acc.active < acc.maxSubscriptions)
    (hroom : Roomy w.db)
    (hnew : NotSubscribed w.db (sender.telegramId, botId) conditionId outcomeIndex) :
    ∃ s a, Subscribed x w.db (after env (handleSubscribeAlertThreshold x botId msg conditionId
      question outcomes tokenIds outcomeIndex t.toString) w).db (sender.telegramId, botId)
      conditionId tokenIds outcomeIndex t.toString pct.div100 s a := by
  obtain ⟨acc, hacc, hlt⟩ := hquota
  have hnan : pct.div100 ≠ .nan := by
    obtain ⟨q, hq, _⟩ := parseThreshold_unit hp
    rw [hq]
    exact fun h => nomatch h
  unfold handleSubscribeAlertThreshold
  rw [hp, hs]
  dsimp only
  have hout := run_getOrCreateUser env w sender.telegramId botId sender.username
  -- the statements of the handler one after the other, from the user on; none of them fails
  cases hrun : (getOrCreateUser sender.telegramId botId sender.username).run (perform env) w with
  | mk r w₁ =>
    rw [hrun] at hout
    obtain ⟨hd, _, hr⟩ := hout
    cases r with
    | error e =>
      rcases hr with hno | ⟨n, hno⟩
      · rw [hacc] at hno
        cases hno
      · rw [hans.database] at hno
        cases hno
    | ok u =>
      dsimp only at hd hr
      rw [after_bind_ok hrun]
      have hcount : execute env (.countActiveSubscriptions u.id) w₁
          = .ok (w₁.db.countActiveSubscriptions u.id, w₁.db) :=
        execute_of_database (hans.database _)
      rw [after_bind_ok (run_query_ok hcount)]
      -- the quota is read from the row that was returned, and counted in the same database
      have hbelow : w₁.db.countActiveSubscriptions u.id < u.maxSubscriptions := by
        obtain rfl := Option.some.inj (hacc.symm.trans hr.account)
        exact hlt
      rw [if_neg (not_le.mpr hbelow), after_bind_ok run_utcNow]
      -- the clock is read before the market is written
      generalize hw₂ : w₁.stored w₁.db = w₂
      have hdb₂ : w₂.db = w₁.db := by rw [← hw₂]; rfl
      obtain ⟨marketId, d₂, hmarket⟩ : ∃ id d₂, w₁.db.upsertMarket (env.clock w₂.called.calls)
          (env.clock w₂.calls) conditionId question none (x.writeStrings outcomes)
          (x.writeStrings tokenIds) = .ok (id, d₂) :=
        Db.upsertMarket_isOk (by rw [hd.markets]; exact hroom.markets)
      obtain ⟨husers, hsubs, halerts, ⟨m, hm, hmid, _⟩, _, hold⟩ := Db.upsertMarket_ok hmarket
      have hexec₂ : execute env (.upsertMarket (env.clock w₂.calls) conditionId question none
          (x.writeStrings outcomes) (x.writeStrings tokenIds)) w₂.called = .ok (marketId, d₂) := by
        rw [execute_of_database (hans.database _), called_db, hdb₂]
        exact hmarket
      rw [after_bind_ok (run_query_ok hexec₂)]
      generalize hw₃ : w₂.called.stored d₂ = w₃
      obtain rfl : w₃.db = d₂ := by rw [← hw₃]; rfl
      -- still unsubscribed after the upsert: it kept the ids of the markets there were
      have hnew₃ : ∀ s ∈ w₃.db.subscriptions.rows,
          ¬ (s.userId = u.id ∧ s.marketId = marketId ∧ s.outcomeIndex = outcomeIndex) := by
        rintro s hs ⟨huser, hmid', hout⟩
        rw [hsubs, hd.subscriptions] at hs
        have huserKey := w.db.subscriptionUser s hs
        obtain ⟨m', hm'⟩ := Table.find_isSome (w.db.subscriptionMarket s hs)
        apply hnew s hs _ m' hm' _ hout
        · rw [← hd.owner s.userId huserKey, huser, Db.owner, hr.find, ← hr.identity]
          rfl
        · exact hold m' (hd.markets ▸ hmid' ▸ hm')
      have huser : w₃.db.users.hasKey u.id := by
        rw [husers]
        exact Table.hasKey_iff.mpr ⟨u, (Table.mem_of_find hr.find).1, rfl⟩
      have hmkey : w₃.db.markets.hasKey marketId :=
        Table.hasKey_iff.mpr ⟨m, (Table.mem_of_find hm).1, hmid⟩
      obtain ⟨c₂, c₃, d₃, hsub, halert⟩ := after_createSubscription hans
        (by rw [hsubs, hd.subscriptions]; exact hroom.subscriptions)
        (by rw [halerts, hd.alerts]; exact hroom.alerts) huser hmkey hnew₃ question
        (outcomeLabel outcomes outcomeIndex) msg.chat t hnan
      rw [hsubs, hd.subscriptions] at halert
      exact subscribed_of_statements hd hr.find hr.identity hmarket hsub halert

/-! ### The refresh -/

/-- **The next refresh watches the token at the outcome index**, for the new alert. -/
theorem rule_of_subscribed {x : Crates} (hx : x.Lawful) {d' : Db} {who : Int × String}
    {conditionId tokenId : String} {tokenIds : List String} {n : Nat} {t : AlertType}
    {threshold : F64} {s : Subscription} {a : Alert} {order : List Nat} {rows : List AlertRow}
    (h : Subscribed x d d' who conditionId tokenIds n t.toString threshold s a)
    (htoken : tokenIds[n]? = some tokenId) (hn : n < 2 ^ 63)
    (hrows : d'.fetchAlertRows order = .ok rows) :
    ∃ r ∈ rows.filterMap (AlertEngine.buildRule x), r.alertId = a.id ∧ r.tokenId = tokenId ∧
      r.alertType = t ∧ r.threshold = (x.decimalTryFrom threshold).getD Decimal.zero := by
  obtain ⟨m, hm, _, htok, hact⟩ := h.market
  have hmem : a ∈ d'.alerts.rows := by
    rw [h.alerts]
    simp
  have hfind : d'.subscriptions.find a.subscriptionId = some s := by
    rw [h.alertOf]
    refine Table.find_eq_some.mpr ⟨?_, rfl⟩
    rw [h.subscriptions]
    simp
  have hindex : asUsize s.outcomeIndex = n := by
    rw [h.outcomeIndex, asUsize_of_nonneg] <;> omega
  rw [← h.threshold]
  refine AlertEngine.rule_of_alert hmem hfind h.isActive hm hact ?_ (hindex ▸ htoken) ?_ hrows
  · rw [htok, hx.parseStrings_writeStrings]
  · rw [h.alertType, AlertType.fromStr_toString]

end World

/-! ## The whole flow -/

/-- What the user does: two texts and the positions of up to three buttons. Positions, and not
    callback data: what is pressed is a button that is shown, and its data is whatever the keyboard
    has put there. -/
structure Choices where
  url : String
  market : Nat
  outcome : Nat
  alertType : Nat
  threshold : String

section Flow

variable (deps : BotDeps) (env : Env) (sender : Sender) (chat : Int) (ids : Nat → String)
  (c : Choices)

/-- The URL, and the market button if several markets are shown: now the outcomes are. -/
def askedOutcome (w : World) : World :=
  let shown := World.say deps env sender chat c.url w
  match shown.dialogues chat with
  | .awaitingMarketSelection _ => World.press deps env sender chat (ids 0) c.market shown
  | _ => shown

/-- The rest: the outcome button, the alert-type button, the threshold. -/
def subscribeFlow (w : World) : World :=
  World.say deps env sender chat c.threshold <|
    World.press deps env sender chat (ids 2) c.alertType <|
      World.press deps env sender chat (ids 1) c.outcome <|
        askedOutcome deps env sender chat ids c w

end Flow

theorem shows_askedOutcome {deps : BotDeps} {env : Env} (sender : Sender) {chat : Int}
    (ids : Nat → String) {c : Choices} {w : World} {events : List GammaEvent} {gm : GammaMarket}
    (hans : env.Answers) (hcommand : deps.parseCommand c.url = none)
    (hstate : w.dialogues chat = .awaitingUrl) (htext : trim c.url ≠ "")
    (hfound : World.Found deps.crates env (w.calls + 1) (trim c.url) events)
    (hmarket : ((flattenEvents deps.crates events).take 10)[c.market]? = some gm) :
    World.Shows (askedOutcome deps env sender chat ids c w) chat
      (.awaitingOutcomeSelection gm.conditionId gm.question (gm.tokens.map GammaToken.outcome)
        (gm.tokens.map GammaToken.tokenId))
      (outcomeKeyboard (gm.tokens.map GammaToken.outcome)) w.db := by
  have hne : flattenEvents deps.crates events ≠ [] := by
    intro hnil
    rw [hnil] at hmarket
    cases hmarket
  obtain ⟨w₁, hdb, hsay⟩ := World.shows_of_url hans hcommand hstate htext hfound hne
  have hoption : (((flattenEvents deps.crates events).take 10).map marketOption)[c.market]?
      = some (marketOption gm) := by
    rw [List.getElem?_map, hmarket, Option.map_some]
  unfold askedOutcome
  rw [hsay, ← hdb]
  rcases World.shows_of_markets chat w₁ hans hne with
    ⟨market, hone, hshows⟩ | ⟨_, hshows⟩
  · -- one market: its button is skipped
    rw [hone] at hoption
    have hzero : c.market = 0 := by
      by_contra hpos
      rw [List.getElem?_eq_none (by simp; omega)] at hoption
      cases hoption
    rw [hzero] at hoption
    obtain rfl : market = marketOption gm := Option.some.inj hoption
    dsimp only
    rw [hshows.state]
    exact hshows
  · dsimp only
    rw [hshows.state]
    apply World.shows_of_marketButton hans hshows hoption
    -- the index is one of the ten, so the button has it as its text
    have hlt := (List.getElem?_eq_some_iff.mp hmarket).1
    rw [List.length_take] at hlt
    omega

/-- What the user who pressed `button` for outcome `n` of a market of the response can expect of
    the database `d'` that was `d`: one more subscription and one more alert, and a rule for the
    alert on the token of that outcome after any refresh that succeeds. The label and the token are
    both read off the response, by its own two lists; nothing of the flow in between is mentioned.
    The threshold is the `f64` that was stored, as `Decimal::try_from` has it. -/
structure WatchesPressed (x : Crates) (raw : GammaRawMarket) (button : Button) (n : Nat)
    (t : AlertType) (threshold : F64) (d d' : Db) : Prop where
  label : (parseLabels x raw.outcomes)[n]? = some button.label
  watches : ∃ s a tokenId, (parseLabels x raw.clobTokenIds)[n]? = some tokenId ∧
    d'.subscriptions.rows = d.subscriptions.rows ++ [s] ∧
    d'.alerts.rows = d.alerts.rows ++ [a] ∧ a.subscriptionId = s.id ∧
    ∀ order rows conditions e, d'.fetchAlertRows order = .ok rows →
      ∃ r ∈ (AlertEngine.refreshCache x (some rows) conditions e).rulesOf tokenId,
        r.alertId = a.id ∧ r.tokenId = tokenId ∧ r.alertType = t ∧
        x.decimalTryFrom threshold = some r.threshold

/-- **The outcome the user picks is the token that is watched.** The user sends a URL, presses the
    buttons that are shown, and types a threshold. The index of the button is written into the
    keyboard, comes back as callback data, is looked up in the lists of the dialogue, is stored
    with the subscription, and is looked up again by the refresh: through all of it the token stays
    the one that the response has next to the label on the button. -/
theorem watches_pressed_outcome {deps : BotDeps} {env : Env} {sender : Sender} {chat : Int}
    {c : Choices} {w : World} {events : List GammaEvent} {gm : GammaMarket} {t : AlertType}
    {pct : F64} (hx : deps.crates.Lawful) (hans : env.Answers) (ids : Nat → String)
    (hstate : w.dialogues chat = .awaitingUrl) (hurl : deps.parseCommand c.url = none)
    (htext : trim c.url ≠ "")
    (hfound : World.Found deps.crates env (w.calls + 1) (trim c.url) events)
    (hmarket : ((flattenEvents deps.crates events).take 10)[c.market]? = some gm)
    (houtcome : c.outcome < gm.tokens.length) (hsize : gm.tokens.length < 2 ^ 63)
    (htype : World.alertTypeButtons[c.alertType]? = some t)
    (hcommand : deps.parseCommand c.threshold = none)
    (hthreshold : parseThreshold ⟨chat, some sender, some c.threshold, none⟩ = .ok pct)
    (hquota : ∃ acc, w.db.account sender.telegramId deps.botId = some acc ∧
      acc.active < acc.maxSubscriptions)
    (hnew : World.NotSubscribed w.db (sender.telegramId, deps.botId) gm.conditionId c.outcome)
    (hroom : World.Roomy w.db) :
    ∃ event ∈ events, ∃ raw ∈ event.markets.getD [], ∃ button,
      parseRawMarket deps.crates raw (event.slug.getD "") = some gm ∧
      (askedOutcome deps env sender chat ids c w).shownButton chat c.outcome = some button ∧
      WatchesPressed deps.crates raw button c.outcome t pct.div100 w.db
        (subscribeFlow deps env sender chat ids c w).db := by
  have hasked := shows_askedOutcome sender ids hans hurl hstate htext hfound
    hmarket
  obtain ⟨event, hevent, raw, hraw, hparse⟩ :=
    mem_flattenEvents.mp (List.mem_of_mem_take (List.mem_of_getElem? hmarket))
  obtain ⟨_, hlabel, htoken⟩ := parseRawMarket_token hparse houtcome
  have hn : c.outcome < 2 ^ 63 := by omega
  -- the button, and the token behind it
  have hlabels : (gm.tokens.map GammaToken.outcome)[c.outcome]?
      = some gm.tokens[c.outcome].outcome := by
    rw [List.getElem?_map, List.getElem?_eq_getElem houtcome, Option.map_some]
  have htokens : (gm.tokens.map GammaToken.tokenId)[c.outcome]?
      = some gm.tokens[c.outcome].tokenId := by
    rw [List.getElem?_map, List.getElem?_eq_getElem houtcome, Option.map_some]
  have hbutton := World.outcomeButton hlabels
  refine ⟨event, hevent, raw, hraw, ⟨gm.tokens[c.outcome].outcome,
    "outcome:" ++ toString c.outcome⟩, hparse, ?_, hlabel, ?_⟩
  · rw [World.shownButton, hasked.keyboard, Option.bind_some]
    exact hbutton
  -- the rest of the flow
  have hpressed := World.shows_of_outcomeButton deps sender (ids 1) hans hasked hlabels hn
  obtain ⟨hdb, hthird⟩ := World.state_of_alertTypeButton deps sender (ids 2) hans hpressed htype
  unfold subscribeFlow
  rw [World.say_eq hcommand hthird rfl]
  rw [← hdb] at hquota hroom hnew ⊢
  obtain ⟨s, a, hsub⟩ := World.subscribed_of_threshold hans hthreshold rfl hquota hroom hnew
  refine ⟨s, a, _, htoken, hsub.subscriptions, hsub.alerts, hsub.alertOf, ?_⟩
  intro order rows conditions e hrows
  obtain ⟨r, hr, hid, htok, hty, hthr⟩ := World.rule_of_subscribed hx hsub htokens hn hrows
  obtain ⟨q, hq, h0, h1⟩ := parseThreshold_unit hthreshold
  obtain ⟨dec, hdec⟩ := hx.tryFrom_unit q h0 h1
  rw [hq, hdec, Option.getD_some] at hthr
  refine ⟨r, ?_, hid, htok, hty, ?_⟩
  · rw [AlertEngine.rulesOf_refreshCache]
    exact List.mem_filter.mpr ⟨hr, by rw [htok, beq_self_eq_true]⟩
  · rw [hq, hdec, hthr]

/-- One event with one market. -/
def rainEvents : List GammaEvent :=
  [⟨some "rain", some [⟨some "0xd", some "Rain?", some "[\"Yes\",\"No\"]", some "[\"ty\",\"tn\"]",
    some true, none⟩]⟩]

def rainMarket : GammaMarket :=
  ⟨"0xd", "Rain?", "rain", "[\"Yes\",\"No\"]", [⟨"ty", "Yes"⟩, ⟨"tn", "No"⟩], true⟩

/-- The sample database and a bot without commands; every chat waits for a URL. -/
def rainDeps : BotDeps := ⟨Crates.reference, "bot", fun _ => none, ""⟩

def rainWorld : World := ⟨Db.sampleDb, fun _ => .awaitingUrl, [], 0⟩

def rainEnv : Env :=
  ⟨fun _ => true, fun _ => true, fun _ => 0, fun _ _ => some rainEvents, fun _ _ => none⟩

/-- A new user searches for rain and wants to know when "No" rises above 70%. -/
theorem watches_pressed_outcome_rain :
    ∃ event ∈ rainEvents, ∃ raw ∈ event.markets.getD [], ∃ button,
      parseRawMarket Crates.reference raw (event.slug.getD "") = some rainMarket ∧
      (askedOutcome rainDeps rainEnv ⟨9, none, "Ann"⟩ 90 toString ⟨"rain", 0, 1, 0, "70"⟩
        rainWorld).shownButton 90 1 = some button ∧
      WatchesPressed Crates.reference raw button 1 .above (F64.num 70).div100 rainWorld.db
        (subscribeFlow rainDeps rainEnv ⟨9, none, "Ann"⟩ 90 toString ⟨"rain", 0, 1, 0, "70"⟩
          rainWorld).db := by
  have hnot : ∀ s ∈ rainWorld.db.subscriptions.rows,
      rainWorld.db.owner s.userId ≠ some (9, "bot") := by decide +kernel
  exact @watches_pressed_outcome rainDeps rainEnv ⟨9, none, "Ann"⟩ 90 ⟨"rain", 0, 1, 0, "70"⟩
    rainWorld rainEvents rainMarket .above (.num 70)
    Crates.reference_lawful ⟨fun _ => rfl, fun _ => rfl⟩ toString rfl rfl
    (by decide +kernel) (.title (by decide +kernel) rfl) (by decide +kernel) (by decide)
    (by decide) rfl rfl (by decide +kernel) ⟨⟨"free", 5, 0⟩, by decide +kernel, by decide⟩
    (fun s hs how => absurd how (hnot s hs))
    ⟨by decide +kernel, by decide +kernel, by decide +kernel⟩

/-- The world after the same user has typed 3.7. -/
def typedWorld : World :=
  subscribeFlow rainDeps rainEnv ⟨9, none, "Ann"⟩ 90 toString ⟨"rain", 0, 1, 0, "3.7"⟩ rainWorld

/-- **The threshold that is watched is not a hundredth of the number that was typed**: 3.7 is
rounded when it is read and once more when it is divided, and what the refresh makes of the stored
`f64` shows it in the 17th digit. -/
theorem typed_threshold_rounds :
    F64.parseNumber "3.7".toList = some (37 / 10) ∧
      typedWorld.db.alerts.rows.map Alert.id = rainWorld.db.alerts.rows.map Alert.id ++ [3] ∧
      ∃ rows ∈ (typedWorld.db.fetchAlertRows []).toOption,
        (∃ r ∈ rows.filterMap (AlertEngine.buildRule Crates.reference), r.alertId = 3) ∧
        ∀ r ∈ rows.filterMap (AlertEngine.buildRule Crates.reference), r.alertId = 3 →
          r.threshold.value = 3700000000000001 / 100000000000000000 ∧
          r.threshold.value ≠ 37 / 10 / 100 := by
  decide +kernel

end PolyNotifier
