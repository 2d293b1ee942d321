import PolyNotifier.Bot.Dispatcher
import PolyNotifier.Bot.Isolation
import PolyNotifier.Bot.States

/-!
# An update is answered where it came from

A handler has the chat of its update, the id of the query if a button was pressed, and the sender.
`confined` is the monitor that holds it to these: messages and dialogue states go to the chat, the
acknowledgement to the query, and a user is inserted for the sender under the id of the bot. Every
handler is walked under it once, from `confined_start` to `confined_schema`.

So in every run of a bot, whatever handlers are under way, each call is confined to the update its
handler was started for.
-/

namespace PolyNotifier

open Lib (Prog Pool Event Steps trim)
open Lib.Prog (Monitor Obeys obeys_bind)

/-- Where an update is from. -/
structure Origin where
  chat : Option Int
  query : Option String
  sender : Option Identity
  deriving DecidableEq

def Update.origin (botId : String) (u : Update) : Origin where
  chat := u.chat
  query :=
    match u with
    | .callbackQuery q => some q.id
    | _ => none
  sender := u.identity botId

/-- Messages and dialogue states go to the chat, the acknowledgement to the query, a new user is
    the sender. The monitor says nothing of the rows a handler writes: which of them belong to whom
    is a question to the database, and `Bot.Ownership` asks it. -/
def confined (o : Origin) : Monitor botSig Unit where
  allows _
    | .sendMessage chat _ _ => o.chat = some chat
    | .updateDialogue chat _ => o.chat = some chat
    | .answerCallbackQuery id => o.query = some id
    | .sql (.insertUser telegramId botId _) => o.sender = some (telegramId, botId)
    | _ => True
  next _ _ _ := ()

/-- Every call of the program is for the update. -/
abbrev Confined {α : Type} (o : Origin) (p : Handler α) : Prop :=
  Obeys (confined o) () p fun _ _ => True

/-- A statement that inserts no user. -/
def Stmt.InsertsNoUser : Stmt → Prop
  | .insertUser .. => False
  | _ => True

/-! ## Calls -/

section Calls

variable {α β : Type} {o : Origin}

theorem Confined.bind {p : Handler α} {f : α → Handler β} (hp : Confined o p)
    (hf : ∀ a, Confined o (f a)) : Confined o (p >>= f) :=
  obeys_bind.mpr (hp.imp fun _ a _ => hf a)

theorem confined_sendMessage {chat : Int} (h : o.chat = some chat) (text : String)
    (keyboard : Option Keyboard) : Confined o (sendMessage chat text keyboard) := by
  refine ⟨h, fun ok => ?_⟩
  cases ok <;> trivial

theorem confined_reply {chat : Int} (h : o.chat = some chat) (text : String) :
    Confined o (reply chat text) := confined_sendMessage h text none

theorem confined_answer {id : String} (h : o.query = some id) :
    Confined o (answerCallbackQuery id) := by
  refine ⟨h, fun ok => ?_⟩
  cases ok <;> trivial

theorem confined_enter {chat : Int} (h : o.chat = some chat) (state : DialogueState) :
    Confined o (updateDialogue chat state) := ⟨h, fun _ => trivial⟩

theorem confined_now : Confined o utcNow := ⟨trivial, fun _ => trivial⟩

theorem confined_allows {s : Stmt} (h : s.InsertsNoUser) (g : Unit) :
    (confined o).allows g (.sql s) := by
  cases s with
  | insertUser => exact h.elim
  | _ => trivial

theorem confined_sql {s : Stmt} (h : s.InsertsNoUser) : Confined o (sql s) :=
  ⟨confined_allows h (), fun _ => trivial⟩

theorem confined_query {s : Stmt} (h : s.InsertsNoUser) : Confined o (query s) := by
  refine ⟨confined_allows h (), fun r => ?_⟩
  cases r <;> trivial

theorem confined_getOrCreateUser {telegramId : Int} {botId : String}
    (h : o.sender = some (telegramId, botId)) (username : Option String) :
    Confined o (getOrCreateUser telegramId botId username) := by
  unfold getOrCreateUser fetchUserById
  refine Confined.bind (confined_query trivial) fun existing => ?_
  cases existing with
  | some user =>
    dsimp only
    split
    · refine confined_now.bind fun now => ?_
      exact Confined.bind (confined_query trivial) fun _ => confined_query trivial
    · trivial
  | none =>
    refine Confined.bind ⟨h, fun r => ?_⟩ fun id => confined_query trivial
    cases r <;> trivial

theorem confined_prompt {chat dialogue : Int} (h : o.chat = some chat)
    (hd : o.chat = some dialogue) (text : String) (keyboard : Option Keyboard)
    (state : DialogueState) : Confined o (do
      sendMessage chat text keyboard
      updateDialogue dialogue state) :=
  (confined_sendMessage h text keyboard).bind fun _ => confined_enter hd state

end Calls

/-! ## Commands -/

section Commands

variable (deps : BotDeps) (msg : Message)

theorem confined_sender {sender : Sender} (h : msg.sender = some sender)
    (username : Option String) : Confined ((Update.message msg).origin deps.botId)
      (getOrCreateUser sender.telegramId deps.botId username) := by
  refine confined_getOrCreateUser ?_ username
  show msg.sender.map _ = _
  rw [h, Option.map_some]

theorem confined_here (text : String) :
    Confined ((Update.message msg).origin deps.botId) (reply msg.chat text) :=
  confined_reply rfl text

theorem confined_start : Confined ((Update.message msg).origin deps.botId) (start deps msg) := by
  unfold start
  cases hs : msg.sender with
  | none => trivial
  | some sender =>
    refine (confined_sender deps msg hs _).bind fun u => ?_
    refine Confined.bind (confined_query trivial) fun used => ?_
    exact confined_here deps msg _

theorem confined_unsubscribe :
    Confined ((Update.message msg).origin deps.botId) (unsubscribe deps msg) := by
  unfold unsubscribe
  cases hs : msg.sender with
  | none => trivial
  | some sender =>
    refine (confined_sender deps msg hs _).bind fun u => ?_
    refine Confined.bind (confined_query trivial) fun subs => ?_
    split
    · exact confined_here deps msg _
    · exact confined_sendMessage rfl _ _

theorem confined_listLines (o : Origin) (x : Crates) (rows : List (Db.SubscriptionDetail × Nat)) :
    Confined o (listLines x rows) := by
  induction rows with
  | nil => trivial
  | cons row rows ih =>
    refine Confined.bind (confined_query trivial) fun outcomes => ?_
    refine Confined.bind (confined_sql trivial) fun alerts => ?_
    exact Confined.bind ih fun lines => trivial

theorem confined_list : Confined ((Update.message msg).origin deps.botId) (list deps msg) := by
  unfold list
  cases hs : msg.sender with
  | none => trivial
  | some sender =>
    refine (confined_sender deps msg hs _).bind fun u => ?_
    refine Confined.bind (confined_query trivial) fun subs => ?_
    split
    · exact confined_here deps msg _
    · exact Confined.bind (confined_listLines _ _ _) fun lines => confined_here deps msg _

theorem confined_pricesLines (o : Origin) (x : Crates)
    (rows : List (Db.SubscriptionDetail × Nat)) : Confined o (pricesLines x rows) := by
  induction rows with
  | nil => trivial
  | cons row rows ih =>
    refine Confined.bind (confined_query trivial) fun outcomes => ?_
    dsimp only
    split
    · rw [Prog.pure_eq, Prog.ret_bind]
      exact Confined.bind ih fun lines => trivial
    · refine Confined.bind ⟨trivial, fun map => ?_⟩ fun entry => Confined.bind ih fun lines => trivial
      dsimp only
      split <;> trivial

theorem confined_prices : Confined ((Update.message msg).origin deps.botId) (prices deps msg) := by
  unfold prices
  cases hs : msg.sender with
  | none => trivial
  | some sender =>
    refine (confined_sender deps msg hs _).bind fun u => ?_
    refine Confined.bind (confined_query trivial) fun subs => ?_
    split
    · exact confined_here deps msg _
    · refine (confined_here deps msg _).bind fun _ => ?_
      exact Confined.bind (confined_pricesLines _ _ _) fun lines => confined_here deps msg _

theorem confined_timezone (tz : String) :
    Confined ((Update.message msg).origin deps.botId) (timezone deps msg tz) := by
  unfold timezone
  cases hs : msg.sender with
  | none => trivial
  | some sender =>
    generalize trim tz = name
    dsimp only
    split
    · exact confined_here deps msg _
    · split
      · exact confined_here deps msg _
      · refine (confined_sender deps msg hs _).bind fun u => ?_
        refine confined_now.bind fun now => ?_
        exact Confined.bind (confined_query trivial) fun _ => confined_here deps msg _

theorem confined_feedback :
    Confined ((Update.message msg).origin deps.botId) (feedback deps msg) := by
  unfold feedback
  cases hs : msg.sender with
  | none => trivial
  | some sender =>
    dsimp only
    split
    · exact confined_here deps msg _
    · split
      · exact confined_here deps msg _
      · refine (confined_sender deps msg hs _).bind fun u => ?_
        refine Confined.bind (confined_query trivial) fun last => ?_
        have hthank : Confined ((Update.message msg).origin deps.botId) (do
            let _ ← query (.insertFeedback u.id
              (((Lib.stripPrefix "/feedback" (msg.text.getD "")).map trim).getD ""))
            reply msg.chat "Thank you for your feedback! 🙏") :=
          Confined.bind (confined_query trivial) fun _ => confined_here deps msg _
        cases last with
        | none => exact hthank
        | some last =>
          refine confined_now.bind fun now => ?_
          cases feedbackWait now last with
          | some mins =>
            exact confined_here deps msg _
          | none =>
            exact hthank

theorem confined_handleAlertStart :
    Confined ((Update.message msg).origin deps.botId) (handleAlertStart deps.botId msg) := by
  unfold handleAlertStart
  cases hs : msg.sender with
  | none => trivial
  | some sender =>
    refine (confined_sender deps msg hs _).bind fun u => ?_
    refine Confined.bind (confined_query trivial) fun subs => ?_
    split
    · exact confined_here deps msg _
    · exact confined_prompt rfl rfl _ _ _

theorem confined_runCommand (command : Command) :
    Confined ((Update.message msg).origin deps.botId) (runCommand deps msg command) := by
  cases command with
  | start => exact confined_start deps msg
  | subscribe => exact (confined_enter rfl _).bind fun _ => confined_here deps msg _
  | unsubscribe => exact confined_unsubscribe deps msg
  | alert => exact confined_handleAlertStart deps msg
  | list => exact confined_list deps msg
  | prices => exact confined_prices deps msg
  | timezone tz => exact confined_timezone deps msg tz
  | feedback => exact confined_feedback deps msg
  | help => exact confined_here deps msg _

end Commands

/-! ## Dialogues -/

section Dialogues

variable {deps : BotDeps}

theorem confined_showMarkets {o : Origin} {chat : Int} (h : o.chat = some chat)
    (markets : List GammaMarket) : Confined o (showMarkets chat markets) := by
  unfold showMarkets
  split
  · exact confined_reply h _
  · split
    · exact confined_prompt h h _ _ _
    · exact confined_prompt h h _ _ _

theorem confined_handleUrlInput (msg : Message) :
    Confined ((Update.message msg).origin deps.botId) (handleUrlInput deps.crates msg) := by
  unfold handleUrlInput
  cases msg.text with
  | none => exact confined_here deps msg _
  | some text =>
    dsimp only
    split
    · exact confined_here deps msg _
    · refine (confined_here deps msg _).bind fun _ => ?_
      have hfound : ∀ found, Confined ((Update.message msg).origin deps.botId) (match found with
          | none => reply msg.chat "Search failed. Please try again later."
          | some gammaMarkets => showMarkets msg.chat gammaMarkets) := by
        intro found
        cases found with
        | none => exact confined_here deps msg _
        | some markets => exact confined_showMarkets rfl markets
      have hsearch : ∀ q, Confined ((Update.message msg).origin deps.botId)
          (searchMarkets deps.crates q) := fun q => ⟨trivial, fun _ => trivial⟩
      split
      · refine Confined.bind ⟨trivial, fun events => ?_⟩ hfound
        dsimp only
        split
        · trivial
        · split
          · exact hsearch _
          · trivial
      · exact (hsearch _).bind hfound

theorem confined_handleMarketSelection {o : Origin} {chat : Int} {q : CallbackQuery}
    (hq : o.query = some q.id) (hc : o.chat = some chat) (hm : q.message = some chat)
    (markets : List MarketOption) : Confined o (handleMarketSelection chat q markets) := by
  refine (confined_answer hq).bind fun _ => ?_
  split
  · trivial
  · rw [hm]
    split
    · exact confined_prompt hc hc _ none _
    · exact confined_prompt hc hc _ _ _

theorem confined_handleOutcomeSelection {o : Origin} {chat : Int} {q : CallbackQuery}
    (hq : o.query = some q.id) (hc : o.chat = some chat) (hm : q.message = some chat)
    (conditionId question : String) (outcomes tokenIds : List String) :
    Confined o (handleOutcomeSelection chat q conditionId question outcomes tokenIds) := by
  refine (confined_answer hq).bind fun _ => ?_
  split
  · trivial
  · rw [hm]
    exact confined_prompt hc hc _ _ _

theorem confined_selectAlertType {o : Origin} {chat : Int} {q : CallbackQuery}
    (hq : o.query = some q.id) (hc : o.chat = some chat) (hm : q.message = some chat)
    (next : String → DialogueState) : Confined o (selectAlertType chat q next) := by
  refine (confined_answer hq).bind fun _ => ?_
  split
  · trivial
  · rw [hm]
    dsimp only
    split
    · trivial
    · exact confined_prompt hc hc _ none _

theorem confined_handleAlertSubscriptionSelection {o : Origin} {chat : Int} {q : CallbackQuery}
    (hq : o.query = some q.id) (hc : o.chat = some chat) (hm : q.message = some chat) :
    Confined o (handleAlertSubscriptionSelection chat q) := by
  refine (confined_answer hq).bind fun _ => ?_
  split
  · trivial
  · rw [hm]
    refine Confined.bind (confined_query trivial) fun row => ?_
    cases row with
    | some question => exact confined_prompt hc hc _ _ _
    | none => exact confined_prompt hc hc _ none _

theorem confined_handleSubscribeAlertThreshold (msg : Message)
    (conditionId question : String) (outcomes tokenIds : List String) (outcomeIndex : Int)
    (alertType : String) : Confined ((Update.message msg).origin deps.botId)
      (handleSubscribeAlertThreshold deps.crates deps.botId msg conditionId question outcomes
        tokenIds outcomeIndex alertType) := by
  unfold handleSubscribeAlertThreshold
  split
  · exact confined_here deps msg _
  · rename_i pct _
    cases hs : msg.sender with
    | none => trivial
    | some sender =>
      refine (confined_sender deps msg hs _).bind fun u => ?_
      refine Confined.bind (confined_query trivial) fun activeCount => ?_
      split
      · exact confined_prompt rfl rfl _ none _
      · refine confined_now.bind fun now => ?_
        refine Confined.bind (confined_query trivial) fun marketId => ?_
        refine Confined.bind (confined_sql trivial) fun result => ?_
        split
        · exact confined_prompt rfl rfl _ none _
        · refine Confined.bind (confined_query trivial) fun row => ?_
          cases row with
          | none => exact confined_prompt rfl rfl _ none _
          | some subscriptionId =>
            refine Confined.bind (confined_sql trivial) fun result => ?_
            cases result <;> exact confined_prompt rfl rfl _ none _
        · exact confined_prompt rfl rfl _ none _

theorem confined_handleAlertThreshold (msg : Message) (subscriptionId : Int)
    (question alertType : String) : Confined ((Update.message msg).origin deps.botId)
      (handleAlertThreshold deps.botId msg subscriptionId question alertType) := by
  unfold handleAlertThreshold
  split
  · exact confined_here deps msg _
  · cases hs : msg.sender with
    | none => trivial
    | some sender =>
      refine (confined_sender deps msg hs _).bind fun u => ?_
      refine Confined.bind (confined_query trivial) fun alertCount => ?_
      split
      · refine Confined.bind (Confined.bind (confined_sql trivial) fun result => ?_)
          fun _ => confined_enter rfl _
        cases result <;> exact confined_here deps msg _
      · refine Confined.bind (Confined.bind (confined_sql trivial) fun result => ?_)
          fun _ => confined_enter rfl _
        cases result <;> exact confined_here deps msg _

theorem confined_dispatchCallback {o : Origin} {q : CallbackQuery} (hq : o.query = some q.id)
    (hc : o.chat = q.message) : Confined o (dispatchCallback q) := by
  unfold dispatchCallback
  split
  · exact confined_answer hq
  · split
    · refine (confined_answer hq).bind fun _ => ?_
      cases hm : q.message with
      | none => trivial
      | some chat =>
        have hchat : o.chat = some chat := hc.trans hm
        refine Confined.bind (confined_sql trivial) fun result => ?_
        cases result with
        | ok n =>
          dsimp only
          split <;> exact confined_reply hchat _
        | error e => exact confined_reply hchat _
    · exact confined_answer hq

/-- **Every handler of the schema is confined to its update.** -/
theorem confined_schema {dialogues : Int → DialogueState} {u : Update} {handler : Handler Unit}
    (h : schema deps dialogues u = some handler) : Confined (u.origin deps.botId) handler := by
  cases u with
  | message msg =>
    cases hcommand : (msg.text.or msg.caption).bind deps.parseCommand with
    | some command =>
      rw [schema_command hcommand] at h
      cases h
      exact confined_runCommand deps msg command
    | none =>
      rw [schema_message hcommand] at h
      cases hstate : dialogues msg.chat with
      | awaitingUrl =>
        rw [hstate] at h
        cases h
        exact confined_handleUrlInput msg
      | awaitingSubscribeAlertThreshold conditionId question outcomes tokenIds index alertType =>
        rw [hstate] at h
        cases h
        exact confined_handleSubscribeAlertThreshold msg _ _ _ _ _ _
      | awaitingAlertThreshold subscriptionId question alertType =>
        rw [hstate] at h
        cases h
        exact confined_handleAlertThreshold msg _ _ _
      | _ =>
        rw [hstate] at h
        cases h
  | callbackQuery q =>
    have hone : Confined ((Update.callbackQuery q).origin deps.botId) (dispatchCallback q) :=
      confined_dispatchCallback rfl rfl
    cases hchat : q.message with
    | none =>
      rw [schema_noMessage hchat] at h
      cases h
      exact hone
    | some chat =>
      rw [schema_button hchat] at h
      cases h
      have hc : ((Update.callbackQuery q).origin deps.botId).chat = some chat := hchat
      -- the states that expect a button, and for the others the callbacks of the menus
      cases hstate : dialogues chat with
      | awaitingMarketSelection markets =>
        exact confined_handleMarketSelection rfl hc hchat markets
      | awaitingOutcomeSelection conditionId question outcomes tokenIds =>
        exact confined_handleOutcomeSelection rfl hc hchat _ _ _ _
      | awaitingSubscribeAlertType conditionId question outcomes tokenIds outcomeIndex =>
        exact confined_selectAlertType rfl hc hchat _
      | awaitingAlertSubscription =>
        exact confined_handleAlertSubscriptionSelection rfl hc hchat
      | awaitingAlertType subscriptionId question =>
        exact confined_selectAlertType rfl hc hchat _
      | _ => exact hone
  | other => cases h

end Dialogues

/-! ## The users a statement inserts -/

namespace Db

/-- The identities of the users, in the order they came. -/
def identities (d : Db) : List Identity := d.users.rows.map fun u => (u.telegramId, u.botId)

theorem identities_update {d : Db} {t : Lib.Table userSpec} {p : User → Bool} {f : User → User}
    {hk : ∀ r, userSpec.key (f r) = userSpec.key r}
    {hu : ∀ r, userSpec.ukey (f r) = userSpec.ukey r} (h : d.users.update p f hk hu = .ok t)
    {hgrow} : (d.setUsers t hgrow).identities = d.identities := by
  unfold identities
  rw [setUsers_users, (Lib.Table.update_ok h).1, List.map_map]
  refine List.map_congr_left fun u _ => ?_
  have hf : ((f u).telegramId, (f u).botId) = (u.telegramId, u.botId) := hu u
  show ((if p u then f u else u).telegramId, (if p u then f u else u).botId) = _
  split
  · exact hf
  · rfl

theorem identities_congr {d d' : Db} (h : d'.users = d.users) : d'.identities = d.identities := by
  rw [identities, identities, h]

end Db

/-- **A statement inserts the user it names, or none.** -/
theorem exec_identities {clock : NaiveDateTime} {s : Stmt} {d d' : Db} {a : s.Res}
    (h : s.exec clock d = .ok (a, d')) :
    (s.InsertsNoUser ∧ d'.identities = d.identities) ∨ ∃ telegramId botId username,
      s = .insertUser telegramId botId username ∧
        d'.identities = d.identities ++ [(telegramId, botId)] := by
  cases s with
  | insertUser telegramId botId username =>
    refine .inr ⟨telegramId, botId, username, rfl, ?_⟩
    have hins : d.insertUser clock telegramId botId username = .ok (a, d') := h
    unfold Db.insertUser at hins
    split at hins
    · rename_i t ht
      cases hins
      rw [Db.identities, Db.setUsers_users, (Lib.Table.insert_ok ht).1, List.map_append]
      rfl
    · cases hins
  | selectUser => exact .inl ⟨trivial, Db.identities_congr (by rw [(Stmt.reading_ok h).2])⟩
  | selectUserById => exact .inl ⟨trivial, Db.identities_congr (by rw [(Stmt.reading_ok h).2])⟩
  | getUserSubscriptions =>
    exact .inl ⟨trivial, Db.identities_congr (by rw [(Stmt.reading_ok h).2])⟩
  -- an UPDATE of a user keeps the unique key, which is the identity
  | updateUsername username now id =>
    refine .inl ⟨trivial, ?_⟩
    have hr := Stmt.writing_ok h
    unfold Db.updateUsername at hr
    split at hr
    · rename_i t ht
      cases hr
      exact Db.identities_update ht
    · cases hr
  | updateTimezone timezone now id =>
    refine .inl ⟨trivial, ?_⟩
    have hr := Stmt.writing_ok h
    unfold Db.updateTimezone at hr
    split at hr
    · rename_i t ht
      cases hr
      exact Db.identities_update ht
    · cases hr
  | upsertMarket => exact .inl ⟨trivial, Db.identities_congr (Db.upsertMarket_ok h).1⟩
  | insertSubscription userId marketId outcomeIndex =>
    refine .inl ⟨trivial, ?_⟩
    rcases Db.insertSubscription_ok h with ⟨_, hsame, _⟩ | ⟨_, hu, _⟩
    · exact Db.identities_congr hsame.users
    · exact Db.identities_congr hu
  | insertAlert =>
    exact .inl ⟨trivial, Db.identities_congr (Db.insertAlert_ok (Stmt.writing_ok h)).2.1⟩
  | updateAlert =>
    exact .inl ⟨trivial, Db.identities_congr (Db.updateAlert_ok (Stmt.writing_ok h)).1⟩
  | insertFeedback => exact .inl ⟨trivial, Db.identities_congr (Db.insertFeedback_ok h).1⟩
  | _ => cases h; exact .inl ⟨trivial, rfl⟩

/-! ## Runs -/

namespace Bot

variable {deps : BotDeps} {env : Env}

/-- The updates that have been taken up, in order: the handler of the `i`-th is thread `i`. -/
def taken (ls : List BotLabel) : List Update :=
  ls.filterMap fun l => match l with
    | .update u => some u
    | .call _ => none

@[simp] theorem taken_update (ls : List BotLabel) (u : Update) :
    taken (ls ++ [.update u]) = taken ls ++ [u] := by
  simp [taken]

@[simp] theorem taken_call (ls : List BotLabel) (ev : Event botSig) :
    taken (ls ++ [.call ev]) = taken ls := by
  simp [taken]

/-- What is left of each handler is confined to its update, and so is what has been done. The
    update of a handler is found by its place, so a run does not have to carry it along with the
    program. -/
structure Answering (deps : BotDeps) (d : Db) (us : List Update) (B : Bot) : Prop where
  length : B.pool.threads.length = us.length
  threads : ∀ (i : Nat) p, B.pool.threads[i]? = some p →
    ∃ u, us[i]? = some u ∧ Confined (u.origin deps.botId) p
  sent : ∀ m ∈ B.pool.state.sent, ∃ u ∈ us, u.chat = some m.chat
  dialogues : ∀ chat, B.pool.state.dialogues chat ≠ .idle → ∃ u ∈ us, u.chat = some chat
  users : ∀ who ∈ B.pool.state.db.identities,
    who ∈ d.identities ∨ ∃ u ∈ us, u.identity deps.botId = some who

theorem answering_start (d : Db) : Answering deps d [] (start d) := by
  refine ⟨rfl, fun i p hi => ?_, fun m hm => ?_, fun chat h => absurd rfl h, fun _ h => .inl h⟩
  · cases hi
  · cases hm

/-- What one allowed call does. -/
theorem performed (env : Env) {o : BotOp} {w : World} {origin : Origin}
    (h : (confined origin).allows () o) :
    (∀ m ∈ (World.perform env o w).2.sent, m ∈ w.sent ∨ origin.chat = some m.chat) ∧
    (∀ chat, (World.perform env o w).2.dialogues chat = w.dialogues chat ∨
      origin.chat = some chat) ∧
    ∀ who ∈ (World.perform env o w).2.db.identities,
      who ∈ w.db.identities ∨ origin.sender = some who := by
  cases o with
  | sendMessage chat text keyboard =>
    refine ⟨fun m hm => ?_, fun _ => .inl rfl, fun _ h => .inl h⟩
    simp only [World.perform] at hm
    split at hm
    · rcases List.mem_append.mp hm with hm | hm
      · exact .inl hm
      · obtain rfl := List.mem_singleton.mp hm
        exact .inr h
    · exact .inl hm
  | updateDialogue chat state =>
    refine ⟨fun _ h => .inl h, fun c => ?_, fun _ h => .inl h⟩
    by_cases hc : c = chat
    · exact .inr (hc ▸ h)
    · exact .inl (Function.update_of_ne hc _ _)
  | sql s =>
    cases hexec : World.execute env s w with
    | error e =>
      rw [World.perform_sql_error hexec]
      exact ⟨fun _ h => .inl h, fun _ => .inl rfl, fun _ h => .inl h⟩
    | ok r =>
      rw [World.perform_sql_ok hexec]
      refine ⟨fun _ h => .inl h, fun _ => .inl rfl, fun who hwho => ?_⟩
      rcases exec_identities (World.execute_ok hexec) with ⟨_, hsame⟩ | ⟨t, b, n, rfl, hnew⟩
      · rw [hsame] at hwho
        exact .inl hwho
      · rw [hnew, List.mem_append, List.mem_singleton] at hwho
        rcases hwho with hwho | rfl
        · exact .inl hwho
        · exact .inr h
  | _ => exact ⟨fun _ h => .inl h, fun _ => .inl rfl, fun _ h => .inl h⟩

/-- **An update is answered where it came from.** Whatever handlers are under way, each call is
    confined to the update its handler was started for; so a message is only ever sent to a chat
    an update came from, a dialogue only ever in a state there, and a user only ever inserted for
    a sender, under the id of the bot. -/
theorem confined_run {d : Db} {ls : List BotLabel} {B : Bot}
    (hrun : Steps (Step deps env) (start d) ls B) :
    Answering deps d (taken ls) B ∧ ∀ ev, .call ev ∈ ls →
      ∃ u, (taken ls)[ev.thread]? = some u ∧ (confined (u.origin deps.botId)).allows () ev.op := by
  induction hrun with
  | nil => exact ⟨answering_start d, fun ev hev => by cases hev⟩
  | @snoc ls l B B' hrun hs ih =>
    obtain ⟨hB, hcalls⟩ := ih
    cases hs with
    | @update u handler hturn hbranch =>
      rw [taken_update]
      refine ⟨⟨?_, ?_, ?_, ?_, ?_⟩, ?_⟩
      · rw [List.length_append, ← hB.length]
        exact List.length_append
      -- a thread is an older one, with an older update, or the one that was just spawned
      · intro i p hi
        rcases Pool.getElem?_spawn hi with hold | ⟨rfl, rfl⟩
        · obtain ⟨v, hv, hconf⟩ := hB.threads i p hold
          refine ⟨v, ?_, hconf⟩
          rw [List.getElem?_append_left (List.getElem?_eq_some_iff.mp hv).1, hv]
        · refine ⟨u, ?_, confined_schema hbranch⟩
          rw [hB.length]
          exact List.getElem?_concat_length
      · intro m hm
        obtain ⟨v, hv, hchat⟩ := hB.sent m hm
        exact ⟨v, List.mem_append_left _ hv, hchat⟩
      · intro chat hne
        obtain ⟨v, hv, hchat⟩ := hB.dialogues chat hne
        exact ⟨v, List.mem_append_left _ hv, hchat⟩
      · intro who hwho
        rcases hB.users who hwho with hold | ⟨v, hv, hid⟩
        · exact .inl hold
        · exact .inr ⟨v, List.mem_append_left _ hv, hid⟩
      · intro ev hev
        rw [List.mem_append, List.mem_singleton] at hev
        rcases hev with hev | hev
        · obtain ⟨v, hv, hallow⟩ := hcalls ev hev
          refine ⟨v, ?_, hallow⟩
          rw [List.getElem?_append_left (List.getElem?_eq_some_iff.mp hv).1, hv]
        · cases hev
    -- a call: the thread that made it was confined to its update, and so is its continuation
    | @call ev P hcall =>
      rw [taken_call]
      have hthreads := fun {i p} => hcall.threads (i := i) (p := p)
      cases hcall with
      | @mk j o k hj =>
        obtain ⟨u, hu, hconf⟩ := hB.threads j _ hj
        obtain ⟨hsent, hdialogues, husers⟩ := performed env (w := B.pool.state) hconf.1
        have hmem : u ∈ taken ls := List.mem_of_getElem? hu
        refine ⟨⟨?_, ?_, ?_, ?_, ?_⟩, ?_⟩
        · rw [← hB.length]
          exact List.length_set
        · intro i p hi
          rcases hthreads hi with ⟨_, hold⟩ | ⟨rfl, k', hold, rfl⟩
          · exact hB.threads i p hold
          · obtain ⟨v, hv, hconf'⟩ := hB.threads i _ hold
            exact ⟨v, hv, hconf'.2 _⟩
        · intro m hm
          rcases hsent m hm with hold | hnew
          · exact hB.sent m hold
          · exact ⟨u, hmem, hnew⟩
        -- a dialogue left its start state before, or by this call in a chat of its update
        · intro chat hne
          rcases hdialogues chat with hold | hnew
          · exact hB.dialogues chat (hold ▸ hne)
          · exact ⟨u, hmem, hnew⟩
        · intro who hwho
          rcases husers who hwho with hold | hnew
          · exact hB.users who hold
          · exact .inr ⟨u, hmem, hnew⟩
        · intro ev hev
          rw [List.mem_append, List.mem_singleton] at hev
          rcases hev with hev | hev
          · exact hcalls ev hev
          · cases hev
            exact ⟨u, hu, hconf.1⟩

theorem confined_run_snow :
    ∃ ls B, Steps (Step snowDeps snowEnv) (start .empty) ls B ∧
      (B.pool.state.sent.map fun m => m.chat) = [90, 90, 90, 90, 90, 90] ∧
      B.pool.state.db.identities = [(9, "bot")] ∧
      Answering snowDeps .empty (taken ls) B ∧ ∀ ev, .call ev ∈ ls →
        ∃ u, (taken ls)[ev.thread]? = some u ∧
          (confined (u.origin snowDeps.botId)).allows () ev.op := by
  obtain ⟨ls, B, hrun, hstate⟩ := snow_run "outcome:1"
  have hsent : ((snowWorld "outcome:1").sent.map fun m => m.chat) = [90, 90, 90, 90, 90, 90] := by
    decide +kernel
  have husers : (snowWorld "outcome:1").db.identities = [(9, "bot")] := by decide +kernel
  refine ⟨ls, B, hrun, ?_, ?_, confined_run hrun⟩
  · rw [hstate]
    exact hsent
  · rw [hstate]
    exact husers

end Bot

end PolyNotifier
