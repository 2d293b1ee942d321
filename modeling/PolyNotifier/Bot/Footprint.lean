import PolyNotifier.Bot.Effects
import PolyNotifier.Bot.Handlers
import PolyNotifier.Bot.Rules

/-!
# What each handler may write

Most handlers write next to nothing: a row of their user, a line of feedback, one of three plain
dialogue states. `writing` is the monitor that sees the dialogue states entered and the statements
sent, and nothing else. Every handler is walked under it once, with what it does beyond the plain
(the states of the two flows, the writes of the two last steps, the unsubscribe button) as its
hypotheses; the results about all handlers instantiate the two predicates.
-/

namespace PolyNotifier

open Lib (Prog trim)
open Lib.Prog (Monitor Obeys obeys_bind obeys_ret)

/-- Dialogues enter states in `St`, statements are in `Sq`. The monitor has no memory, so what it
    allows depends on the call alone and never on what was answered before. -/
def writing (St : DialogueState → Prop) (Sq : Stmt → Prop) : Monitor botSig Unit where
  allows _
    | .updateDialogue _ state => St state
    | .sql s => Sq s
    | _ => True
  next _ _ _ := ()

instance (St : DialogueState → Prop) (Sq : Stmt → Prop) : Quiet (writing St Sq) where
  allows g o ho := by
    cases o with
    | sql s => exact absurd rfl (ho.1 s)
    | updateDialogue chat state => exact absurd rfl (ho.2 chat state)
    | _ => trivial
  next _ _ _ _ := rfl

/-- Everything the handler writes is in the two predicates. -/
abbrev Footprint (St : DialogueState → Prop) (Sq : Stmt → Prop) (p : Handler Unit) : Prop :=
  Obeys (writing St Sq) () p fun _ _ => True

/-- The predicates allow what is plain. -/
structure Permits (St : DialogueState → Prop) (Sq : Stmt → Prop) : Prop where
  plain : ∀ s, s.Plain → Sq s
  idle : St .idle
  awaitingUrl : St .awaitingUrl
  awaitingAlertSubscription : St .awaitingAlertSubscription

/-- A statement of `/feedback`. -/
def Stmt.OnFeedback : Stmt → Prop
  | .insertFeedback .. => True
  | .getLastFeedbackTime _ => True
  | _ => False

/-- The predicates allow what is plain but for the feedback. -/
structure Calm (St : DialogueState → Prop) (Sq : Stmt → Prop) : Prop where
  plain : ∀ s, s.Plain → ¬ s.OnFeedback → Sq s
  idle : St .idle
  awaitingUrl : St .awaitingUrl
  awaitingAlertSubscription : St .awaitingAlertSubscription

theorem Permits.calm {St : DialogueState → Prop} {Sq : Stmt → Prop} (h : Permits St Sq) :
    Calm St Sq :=
  ⟨fun s hs _ => h.plain s hs, h.idle, h.awaitingUrl, h.awaitingAlertSubscription⟩

/-- The states after a search, whatever it finds. -/
structure Finds (St : DialogueState → Prop) : Prop where
  one : ∀ m : GammaMarket, St (.awaitingOutcomeSelection (marketOption m).conditionId
    (marketOption m).question (marketOption m).outcomes (marketOption m).tokenIds)
  several : ∀ ms : List GammaMarket, 2 ≤ ms.length → ms.length ≤ 10 →
    St (.awaitingMarketSelection (ms.map marketOption))

theorem Finds.any : Finds fun _ => True := ⟨fun _ => trivial, fun _ _ _ => trivial⟩

variable {St : DialogueState → Prop} {Sq : Stmt → Prop}

/-- A message, then a new state: the end of most steps. -/
theorem footprint_prompt {chat dialogue : Int} {text : String} {keyboard : Option Keyboard}
    {state : DialogueState} (h : St state) :
    Footprint St Sq (do
      sendMessage chat text keyboard
      updateDialogue dialogue state) :=
  obeys_bind.mpr (obeys_sendMessage.mpr (obeys_enter.mpr ⟨h, trivial⟩))

section

variable (hp : Calm St Sq)
include hp

theorem writing_getOrCreateUser {telegramId : Int} {botId : String} {username : Option String}
    {Q : Unit → User → Prop} (hQ : ∀ u, Q () u) :
    Obeys (writing St Sq) () (getOrCreateUser telegramId botId username) Q := by
  have hrules : UserRules (writing St Sq) () telegramId botId (fun _ _ => True) fun _ _ => True :=
    { select := hp.plain _ trivial id
      found := fun _ => ⟨trivial, trivial⟩
      rename := fun _ _ _ _ _ => ⟨hp.plain _ trivial id, trivial⟩
      insert := fun _ _ _ => ⟨hp.plain _ trivial id, fun _ => trivial⟩
      reread := fun _ _ _ => ⟨hp.plain _ trivial id, fun _ => trivial⟩ }
  exact hrules.obeys fun _ u _ => hQ u

/-! ## Commands -/

section Commands

variable (deps : BotDeps) (msg : Message)

theorem footprint_start : Footprint St Sq (start deps msg) := by
  unfold start
  cases msg.sender with
  | none => trivial
  | some sender =>
    refine obeys_bind.mpr (writing_getOrCreateUser hp fun u => ?_)
    refine obeys_bind.mpr (obeys_query.mpr ⟨hp.plain _ trivial id, fun used => ?_⟩)
    exact obeys_reply.mpr trivial

theorem footprint_unsubscribe : Footprint St Sq (unsubscribe deps msg) := by
  unfold unsubscribe
  cases msg.sender with
  | none => trivial
  | some sender =>
    refine obeys_bind.mpr (writing_getOrCreateUser hp fun u => ?_)
    refine obeys_bind.mpr (obeys_query.mpr ⟨hp.plain _ trivial id, fun subs => ?_⟩)
    split <;> simp

theorem writing_listLines (x : Crates) (rows : List (Db.SubscriptionDetail × Nat))
    {Q : Unit → List String → Prop} (hQ : ∀ lines, Q () lines) :
    Obeys (writing St Sq) () (listLines x rows) Q := by
  induction rows generalizing Q with
  | nil => exact hQ []
  | cons row rows ih =>
    refine obeys_bind.mpr (obeys_query.mpr ⟨hp.plain _ trivial id, fun outcomes => ?_⟩)
    refine obeys_bind.mpr (obeys_sql.mpr ⟨hp.plain _ trivial id, fun alerts => ?_⟩)
    exact obeys_bind.mpr (ih fun lines => hQ _)

theorem footprint_list : Footprint St Sq (list deps msg) := by
  unfold list
  cases msg.sender with
  | none => trivial
  | some sender =>
    refine obeys_bind.mpr (writing_getOrCreateUser hp fun u => ?_)
    refine obeys_bind.mpr (obeys_query.mpr ⟨hp.plain _ trivial id, fun subs => ?_⟩)
    split
    · exact obeys_reply.mpr trivial
    · exact obeys_bind.mpr (writing_listLines hp _ _ fun lines => obeys_reply.mpr trivial)

theorem writing_pricesLines (x : Crates) (rows : List (Db.SubscriptionDetail × Nat))
    {Q : Unit → List String → Prop} (hQ : ∀ lines, Q () lines) :
    Obeys (writing St Sq) () (pricesLines x rows) Q := by
  induction rows generalizing Q with
  | nil => exact hQ []
  | cons row rows ih =>
    refine obeys_bind.mpr (obeys_query.mpr ⟨hp.plain _ trivial id, fun outcomes => ?_⟩)
    dsimp only
    split
    · rw [Prog.pure_eq, Prog.ret_bind]
      exact obeys_bind.mpr (ih fun lines => hQ _)
    · refine obeys_bind.mpr ⟨trivial, fun map => ?_⟩
      dsimp only
      split
      · trivial
      · exact obeys_bind.mpr (ih fun lines => hQ _)

theorem footprint_prices : Footprint St Sq (prices deps msg) := by
  unfold prices
  cases msg.sender with
  | none => trivial
  | some sender =>
    refine obeys_bind.mpr (writing_getOrCreateUser hp fun u => ?_)
    refine obeys_bind.mpr (obeys_query.mpr ⟨hp.plain _ trivial id, fun subs => ?_⟩)
    split
    · exact obeys_reply.mpr trivial
    · refine obeys_bind.mpr (obeys_reply.mpr ?_)
      exact obeys_bind.mpr (writing_pricesLines hp _ _ fun lines => obeys_reply.mpr trivial)

theorem footprint_timezone (tz : String) : Footprint St Sq (timezone deps msg tz) := by
  unfold timezone
  cases msg.sender with
  | none => trivial
  | some sender =>
    -- what the name is trimmed to does not matter
    generalize trim tz = name
    dsimp only
    split
    · exact obeys_reply.mpr trivial
    · split
      · exact obeys_reply.mpr trivial
      · refine obeys_bind.mpr (writing_getOrCreateUser hp fun u => ?_)
        refine obeys_bind.mpr (obeys_utcNow.mpr fun now => ?_)
        refine obeys_bind.mpr (obeys_query.mpr ⟨hp.plain _ trivial id, fun _ => ?_⟩)
        exact obeys_reply.mpr trivial

theorem footprint_handleAlertStart (botId : String) :
    Footprint St Sq (handleAlertStart botId msg) := by
  unfold handleAlertStart
  cases msg.sender with
  | none => trivial
  | some sender =>
    refine obeys_bind.mpr (writing_getOrCreateUser hp fun u => ?_)
    refine obeys_bind.mpr (obeys_query.mpr ⟨hp.plain _ trivial id, fun subs => ?_⟩)
    split
    · exact obeys_reply.mpr trivial
    · exact footprint_prompt hp.awaitingAlertSubscription

theorem footprint_command {command : Command} (hne : command ≠ .feedback) :
    Footprint St Sq (runCommand deps msg command) := by
  cases command with
  | start => exact footprint_start hp deps msg
  | subscribe =>
    exact obeys_bind.mpr (obeys_enter.mpr ⟨hp.awaitingUrl, obeys_reply.mpr trivial⟩)
  | unsubscribe => exact footprint_unsubscribe hp deps msg
  | alert => exact footprint_handleAlertStart hp msg deps.botId
  | list => exact footprint_list hp deps msg
  | prices => exact footprint_prices hp deps msg
  | timezone tz => exact footprint_timezone hp deps msg tz
  | feedback => exact absurd rfl hne
  | help => exact obeys_reply.mpr trivial

omit hp in
theorem footprint_feedback (hp : Permits St Sq) : Footprint St Sq (feedback deps msg) := by
  unfold feedback
  cases msg.sender with
  | none => trivial
  | some sender =>
    dsimp only
    split
    · exact obeys_reply.mpr trivial
    · split
      · exact obeys_reply.mpr trivial
      · refine obeys_bind.mpr (writing_getOrCreateUser hp.calm fun u => ?_)
        refine obeys_bind.mpr (obeys_query.mpr ⟨hp.plain _ trivial, fun last => ?_⟩)
        cases last with
        | none =>
          refine obeys_bind.mpr (obeys_ret.mpr ?_)
          refine obeys_bind.mpr (obeys_query.mpr ⟨hp.plain _ trivial, fun _ => ?_⟩)
          exact obeys_reply.mpr trivial
        | some last =>
          refine obeys_bind.mpr (obeys_utcNow.mpr fun now => ?_)
          refine obeys_bind.mpr (obeys_ret.mpr ?_)
          generalize feedbackWait now last = wait
          cases wait with
          | some mins => exact obeys_reply.mpr trivial
          | none =>
            refine obeys_bind.mpr (obeys_query.mpr ⟨hp.plain _ trivial, fun _ => ?_⟩)
            exact obeys_reply.mpr trivial

omit hp in
/-- **A command writes what is plain, and nothing else.** -/
theorem footprint_runCommand (hp : Permits St Sq) (command : Command) :
    Footprint St Sq (runCommand deps msg command) := by
  by_cases hfeedback : command = .feedback
  · subst hfeedback
    exact footprint_feedback deps msg hp
  · exact footprint_command hp.calm deps msg hfeedback

end Commands

/-! ## Dialogues -/

section Dialogues

variable {x : Crates}

omit hp in
theorem writing_searchMarkets (q : String) {Q : Unit → Option (List GammaMarket) → Prop}
    (hQ : ∀ found, Q () found) : Obeys (writing St Sq) () (searchMarkets x q) Q :=
  ⟨trivial, fun _ => hQ _⟩

omit hp in
theorem writing_getMarketBySlug (slug : String) {Q : Unit → Option (List GammaMarket) → Prop}
    (hQ : ∀ found, Q () found) : Obeys (writing St Sq) () (getMarketBySlug x slug) Q := by
  refine ⟨trivial, fun events => ?_⟩
  dsimp only
  split
  · apply hQ
  · split
    · exact writing_searchMarkets _ hQ
    · apply hQ

omit hp in
/-- The state after the search: one market, or two to ten of them. -/
theorem footprint_showMarkets (chat : Int) (markets : List GammaMarket)
    (hone : ∀ m ∈ markets, St (.awaitingOutcomeSelection (marketOption m).conditionId
      (marketOption m).question (marketOption m).outcomes (marketOption m).tokenIds))
    (hmany : ∀ ms : List GammaMarket, ms ⊆ markets → 2 ≤ ms.length → ms.length ≤ 10 →
      St (.awaitingMarketSelection (ms.map marketOption))) :
    Footprint St Sq (showMarkets chat markets) := by
  unfold showMarkets
  split
  · exact obeys_reply.mpr trivial
  · rename_i hne
    split
    · rename_i market hmarket
      obtain ⟨m, hm, rfl⟩ : ∃ m ∈ markets.take 10, marketOption m = market := by
        apply List.mem_map.mp
        rw [hmarket]
        exact List.mem_singleton_self market
      exact footprint_prompt (hone m (List.mem_of_mem_take hm))
    · rename_i hnot
      have htwo : 2 ≤ (markets.take 10).length := by
        cases markets with
        | nil => exact absurd rfl hne
        | cons m ms =>
          cases ms with
          | nil => exact absurd rfl (hnot (marketOption m))
          | cons m' ms => simp
      exact footprint_prompt
        (hmany _ (List.take_subset 10 markets) htwo (List.length_take_le 10 markets))

omit hp in
theorem footprint_handleUrlInput (msg : Message) (hfinds : Finds St) :
    Footprint St Sq (handleUrlInput x msg) := by
  unfold handleUrlInput
  cases msg.text with
  | none => exact obeys_reply.mpr trivial
  | some text =>
    dsimp only
    split
    · exact obeys_reply.mpr trivial
    · refine obeys_bind.mpr (obeys_reply.mpr ?_)
      have hfound : ∀ found, Footprint St Sq (match found with
          | none => reply msg.chat "Search failed. Please try again later."
          | some gammaMarkets => showMarkets msg.chat gammaMarkets) := by
        intro found
        cases found with
        | none => exact obeys_reply.mpr trivial
        | some markets =>
          exact footprint_showMarkets _ _ (fun m _ => hfinds.one m) fun ms _ => hfinds.several ms
      split
      · exact obeys_bind.mpr (writing_getMarketBySlug _ hfound)
      · exact obeys_bind.mpr (writing_searchMarkets _ hfound)

/-- An index the state does not have ends the dialogue. -/
theorem footprint_handleMarketSelection (dialogue : Int) (q : CallbackQuery)
    (markets : List MarketOption)
    (hnext : ∀ m ∈ markets,
      St (.awaitingOutcomeSelection m.conditionId m.question m.outcomes m.tokenIds)) :
    Footprint St Sq (handleMarketSelection dialogue q markets) := by
  refine obeys_bind.mpr (obeys_answerCallbackQuery.mpr ?_)
  split
  · trivial
  · split
    · cases q.message with
      | none => exact obeys_enter.mpr ⟨hp.idle, trivial⟩
      | some chat =>
        exact obeys_bind.mpr (obeys_reply.mpr (obeys_enter.mpr ⟨hp.idle, trivial⟩))
    · rename_i market hmarket
      cases q.message with
      | none => trivial
      | some chat => exact footprint_prompt (hnext market (List.mem_of_getElem? hmarket))

omit hp in
/-- Any index the data decodes to is taken. -/
theorem footprint_handleOutcomeSelection (dialogue : Int) (q : CallbackQuery)
    (conditionId question : String) (outcomes tokenIds : List String)
    (hnext : ∀ i, q.data.bind decodeOutcome = some i →
      St (.awaitingSubscribeAlertType conditionId question outcomes tokenIds i)) :
    Footprint St Sq (handleOutcomeSelection dialogue q conditionId question outcomes tokenIds) := by
  refine obeys_bind.mpr (obeys_answerCallbackQuery.mpr ?_)
  split
  · trivial
  · rename_i i hi
    cases q.message with
    | none => trivial
    | some chat => exact footprint_prompt (hnext i hi)

omit hp in
/-- A type the data decodes to is one of the three. -/
theorem footprint_selectAlertType (dialogue : Int) (q : CallbackQuery)
    (next : String → DialogueState)
    (hnext : ∀ alertType, alertTypes.contains alertType → St (next alertType)) :
    Footprint St Sq (selectAlertType dialogue q next) := by
  refine obeys_bind.mpr (obeys_answerCallbackQuery.mpr ?_)
  split
  · trivial
  · rename_i alertType htype
    obtain ⟨data, _, htype⟩ := Option.bind_eq_some_iff.mp htype
    cases q.message with
    | none => trivial
    | some chat =>
      dsimp only
      split
      · trivial
      · exact footprint_prompt (hnext alertType (Option.filter_eq_some_iff.mp htype).2)

theorem footprint_handleAlertSubscriptionSelection (dialogue : Int) (q : CallbackQuery)
    (hnext : ∀ subscriptionId question, St (.awaitingAlertType subscriptionId question)) :
    Footprint St Sq (handleAlertSubscriptionSelection dialogue q) := by
  refine obeys_bind.mpr (obeys_answerCallbackQuery.mpr ?_)
  split
  · trivial
  · rename_i subId _
    cases q.message with
    | none => trivial
    | some chat =>
      refine obeys_bind.mpr (obeys_query.mpr ⟨hp.plain _ trivial id, fun row => ?_⟩)
      cases row with
      | some question => exact footprint_prompt (hnext subId question)
      | none => exact footprint_prompt hp.idle

/-! ### The last steps -/

/-- One market, one subscription and one alert. -/
theorem footprint_handleSubscribeAlertThreshold (botId : String) (msg : Message)
    {conditionId question : String} {outcomes tokenIds : List String} {outcomeIndex : Int}
    {alertType : String}
    (hmarket : ∀ now, Sq (.upsertMarket now conditionId question none (x.writeStrings outcomes)
      (x.writeStrings tokenIds)))
    (hsubscription : ∀ userId marketId, Sq (.insertSubscription userId marketId outcomeIndex))
    (halert : ∀ id pct, parseThreshold msg = .ok pct → Sq (.insertAlert id alertType pct.div100)) :
    Footprint St Sq (handleSubscribeAlertThreshold x botId msg conditionId question outcomes
      tokenIds outcomeIndex alertType) := by
  unfold handleSubscribeAlertThreshold
  split
  · exact obeys_reply.mpr trivial
  · rename_i pct hpct
    cases msg.sender with
    | none => trivial
    | some sender =>
      refine obeys_bind.mpr (writing_getOrCreateUser hp fun u => ?_)
      refine obeys_bind.mpr (obeys_query.mpr ⟨hp.plain _ trivial id, fun activeCount => ?_⟩)
      split
      · exact footprint_prompt hp.idle
      · refine obeys_bind.mpr (obeys_utcNow.mpr fun now => ?_)
        refine obeys_bind.mpr (obeys_query.mpr ⟨hmarket now, fun marketId => ?_⟩)
        refine obeys_bind.mpr (obeys_sql.mpr ⟨hsubscription _ _, fun result => ?_⟩)
        split
        · exact footprint_prompt hp.idle
        · refine obeys_bind.mpr (obeys_query.mpr ⟨hp.plain _ trivial id, fun row => ?_⟩)
          cases row with
          | none => exact footprint_prompt hp.idle
          | some subscriptionId =>
            refine obeys_bind.mpr (obeys_sql.mpr ⟨halert _ pct hpct, fun result => ?_⟩)
            cases result <;> exact footprint_prompt hp.idle
        · exact footprint_prompt hp.idle

/-- One alert, new or rewritten. -/
theorem footprint_handleAlertThreshold (botId : String) (msg : Message) {subscriptionId : Int}
    {question alertType : String}
    (hinsert : ∀ pct, parseThreshold msg = .ok pct →
      Sq (.insertAlert subscriptionId alertType pct.div100))
    (hupdate : ∀ pct, parseThreshold msg = .ok pct →
      Sq (.updateAlert alertType pct.div100 subscriptionId)) :
    Footprint St Sq (handleAlertThreshold botId msg subscriptionId question alertType) := by
  unfold handleAlertThreshold
  split
  · exact obeys_reply.mpr trivial
  · rename_i pct hpct
    cases msg.sender with
    | none => trivial
    | some sender =>
      refine obeys_bind.mpr (writing_getOrCreateUser hp fun u => ?_)
      refine obeys_bind.mpr (obeys_query.mpr ⟨hp.plain _ trivial id, fun alertCount => ?_⟩)
      have hend : ∀ text, Obeys (writing St Sq) () (reply msg.chat text) fun g _ =>
          Obeys (writing St Sq) g (updateDialogue msg.chat .idle) fun _ _ => True :=
        fun _ => obeys_reply.mpr (obeys_enter.mpr ⟨hp.idle, trivial⟩)
      split
      · refine obeys_bind.mpr (obeys_bind.mpr (obeys_sql.mpr ⟨hupdate pct hpct, fun result => ?_⟩))
        cases result <;> exact hend _
      · refine obeys_bind.mpr (obeys_bind.mpr (obeys_sql.mpr ⟨hinsert pct hpct, fun result => ?_⟩))
        cases result <;> exact hend _

omit hp in
theorem footprint_callbackUnsubscribe (q : CallbackQuery) {subId : Int}
    (hdelete : Sq (.deleteSubscription subId)) : Footprint St Sq (callbackUnsubscribe q subId) := by
  refine obeys_bind.mpr (obeys_answerCallbackQuery.mpr ?_)
  cases q.message with
  | none => trivial
  | some chat =>
    refine obeys_bind.mpr (obeys_sql.mpr ⟨hdelete, fun result => ?_⟩)
    cases result with
    | ok n =>
      dsimp only
      split <;> exact obeys_reply.mpr trivial
    | error _ => exact obeys_reply.mpr trivial

omit hp in
theorem footprint_dispatchCallback (q : CallbackQuery)
    (hdelete : ∀ subId, Sq (.deleteSubscription subId)) : Footprint St Sq (dispatchCallback q) := by
  unfold dispatchCallback
  split
  · exact obeys_answerCallbackQuery.mpr trivial
  · split
    · exact footprint_callbackUnsubscribe q (hdelete _)
    · exact obeys_answerCallbackQuery.mpr trivial

end Dialogues

end

/-! ## Branches -/

/-- What the dialogue states of the two flows lead to, from the states the dialogues are in. `St`
    is what one wants to know of a state; a handler then only enters states in `St`, and no handler
    has to be looked at again for another `St`. -/
structure Leads (St : DialogueState → Prop) (dialogues : Int → DialogueState) (u : Update) :
    Prop where
  market : ∀ chat markets, dialogues chat = .awaitingMarketSelection markets → ∀ m ∈ markets,
    St (.awaitingOutcomeSelection m.conditionId m.question m.outcomes m.tokenIds)
  outcome : ∀ chat q conditionId question outcomes tokenIds i, u = .callbackQuery q →
    q.message = some chat →
    dialogues chat = .awaitingOutcomeSelection conditionId question outcomes tokenIds →
    q.data.bind decodeOutcome = some i →
    St (.awaitingSubscribeAlertType conditionId question outcomes tokenIds i)
  alertType : ∀ chat conditionId question outcomes tokenIds i alertType,
    dialogues chat = .awaitingSubscribeAlertType conditionId question outcomes tokenIds i →
    alertTypes.contains alertType →
    St (.awaitingSubscribeAlertThreshold conditionId question outcomes tokenIds i alertType)
  subscription : ∀ subscriptionId question, St (.awaitingAlertType subscriptionId question)
  alertTypeOf : ∀ subscriptionId question alertType, alertTypes.contains alertType →
    St (.awaitingAlertThreshold subscriptionId question alertType)

theorem Leads.any {dialogues : Int → DialogueState} {u : Update} :
    Leads (fun _ => True) dialogues u := by
  constructor <;> intros <;> trivial

/-- The handler of an update: the search, the last step of one of the two flows, or one that writes
    what is plain, deletes a subscription or moves a dialogue on. A result about all handlers has
    four cases, and not one for each branch of the schema. -/
inductive Branch (deps : BotDeps) (dialogues : Int → DialogueState) (u : Update) :
    Handler Unit → Prop
  | search {msg : Message} (update : u = .message msg)
      (state : dialogues msg.chat = .awaitingUrl) :
      Branch deps dialogues u (handleUrlInput deps.crates msg)
  | subscribe {msg : Message} {conditionId question : String} {outcomes tokenIds : List String}
      {outcomeIndex : Int} {alertType : String} (update : u = .message msg)
      (state : dialogues msg.chat = .awaitingSubscribeAlertThreshold conditionId question outcomes
        tokenIds outcomeIndex alertType) :
      Branch deps dialogues u (handleSubscribeAlertThreshold deps.crates deps.botId msg conditionId
        question outcomes tokenIds outcomeIndex alertType)
  | alert {msg : Message} {subscriptionId : Int} {question alertType : String}
      (update : u = .message msg)
      (state : dialogues msg.chat = .awaitingAlertThreshold subscriptionId question alertType) :
      Branch deps dialogues u (handleAlertThreshold deps.botId msg subscriptionId question alertType)
  | other {handler : Handler Unit} (footprint : ∀ St Sq, Permits St Sq →
      (∀ id, Sq (.deleteSubscription id)) → Leads St dialogues u → Footprint St Sq handler) :
      Branch deps dialogues u handler

/-- A button moves the dialogue on, or deletes a subscription. -/
theorem footprint_callbackQuery {deps : BotDeps} {dialogues : Int → DialogueState}
    {q : CallbackQuery} {handler : Handler Unit} (hp : Calm St Sq)
    (hdelete : ∀ id, Sq (.deleteSubscription id)) (hleads : Leads St dialogues (.callbackQuery q))
    (h : schema deps dialogues (.callbackQuery q) = some handler) : Footprint St Sq handler := by
  have hone : Footprint St Sq (dispatchCallback q) := footprint_dispatchCallback q hdelete
  cases hchat : q.message with
  | none =>
    rw [schema_noMessage hchat] at h
    cases h
    exact hone
  | some chat =>
    rw [schema_button hchat] at h
    cases h
    cases hstate : dialogues chat with
    | awaitingMarketSelection markets =>
      exact footprint_handleMarketSelection hp _ _ _ (hleads.market chat markets hstate)
    | awaitingOutcomeSelection conditionId question outcomes tokenIds =>
      exact footprint_handleOutcomeSelection _ _ _ _ _ _ fun i hi =>
        hleads.outcome chat q _ _ _ _ i rfl hchat hstate hi
    | awaitingSubscribeAlertType conditionId question outcomes tokenIds outcomeIndex =>
      exact footprint_selectAlertType _ _ _ fun alertType htype =>
        hleads.alertType chat _ _ _ _ _ alertType hstate htype
    | awaitingAlertSubscription =>
      exact footprint_handleAlertSubscriptionSelection hp _ _ hleads.subscription
    | awaitingAlertType subscriptionId question =>
      exact footprint_selectAlertType _ _ _ (hleads.alertTypeOf subscriptionId question)
    | _ => exact hone

/-- **Every branch of the schema is one of the four.** -/
theorem branch_of_schema {deps : BotDeps} {dialogues : Int → DialogueState} {u : Update}
    {handler : Handler Unit} (h : schema deps dialogues u = some handler) :
    Branch deps dialogues u handler := by
  cases u with
  | message msg =>
    cases hcommand : (msg.text.or msg.caption).bind deps.parseCommand with
    | some command =>
      rw [schema_command hcommand] at h
      cases h
      exact .other fun St Sq hp _ _ => footprint_runCommand deps msg hp command
    | none =>
      rw [schema_message hcommand] at h
      cases hstate : dialogues msg.chat with
      | awaitingUrl =>
        rw [hstate] at h
        cases h
        exact .search rfl hstate
      | awaitingSubscribeAlertThreshold conditionId question outcomes tokenIds index alertType =>
        rw [hstate] at h
        cases h
        exact .subscribe rfl hstate
      | awaitingAlertThreshold subscriptionId question alertType =>
        rw [hstate] at h
        cases h
        exact .alert rfl hstate
      | _ =>
        rw [hstate] at h
        cases h
  | callbackQuery q =>
    exact .other fun St Sq hp hd hl => footprint_callbackQuery hp.calm hd hl h
  | other => cases h

end PolyNotifier
