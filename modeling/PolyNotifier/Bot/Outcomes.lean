import PolyNotifier.Alert.Engine
import PolyNotifier.Bot.States

/-!
# Which outcome a subscription denotes

The index of an outcome is parsed from callback data in one state and written to the database
three states later, next to the list of tokens it is an index of. Nothing on the way compares the
two: `handle_market_selection` looks its index up and ends the dialogue if it is not there,
`handle_outcome_selection` takes any `i64`.

`subscribes_real_outcomes` says that this is all that is missing. Where every outcome button that
is pressed names an outcome of the market the chat is asked about (`NamesOutcome`), every
subscription gets an index of the list its handler has just written, and the engine builds a rule
for its alerts.
-/

namespace PolyNotifier

open Lib (Prog Pool Event Steps Table)
open Lib.Prog (Monitor Obeys)

/-! ## States with an index of their market -/

/-- The index is one of the tokens. -/
def DialogueState.InRange : DialogueState → Prop
  | .awaitingSubscribeAlertType _ _ _ tokenIds outcomeIndex =>
      0 ≤ outcomeIndex ∧ outcomeIndex < tokenIds.length
  | .awaitingSubscribeAlertThreshold _ _ _ tokenIds outcomeIndex _ =>
      0 ≤ outcomeIndex ∧ outcomeIndex < tokenIds.length
  | _ => True

def DialogueState.Denotes (state : DialogueState) : Prop := state.WellFormed ∧ state.InRange

def namesOutcome (dialogues : Int → DialogueState) : Update → Bool
  | .callbackQuery q =>
      match q.message.map dialogues, q.data.bind decodeOutcome with
      | some (.awaitingOutcomeSelection _ _ _ tokenIds), some i => 0 ≤ i && i < tokenIds.length
      | _, _ => true
  | _ => true

/-- If the update presses an outcome button in a chat that waits for one, its data holds an index
    of the market the chat is asked about. It is a condition on the update and on the state it
    meets, and on no other: what keyboard the button was on is not known to the bot either. -/
def NamesOutcome (dialogues : Int → DialogueState) (u : Update) : Prop := namesOutcome dialogues u

instance (dialogues : Int → DialogueState) (u : Update) : Decidable (NamesOutcome dialogues u) :=
  inferInstanceAs (Decidable (namesOutcome dialogues u = true))

theorem NamesOutcome.inRange {dialogues : Int → DialogueState} {q : CallbackQuery} {chat : Int}
    {conditionId question : String} {outcomes tokenIds : List String} {i : Int}
    (h : NamesOutcome dialogues (.callbackQuery q)) (hchat : q.message = some chat)
    (hstate : dialogues chat = .awaitingOutcomeSelection conditionId question outcomes tokenIds)
    (hi : q.data.bind decodeOutcome = some i) : 0 ≤ i ∧ i < tokenIds.length := by
  simpa [NamesOutcome, namesOutcome, hchat, hstate, hi] using h

theorem finds_denotes : Finds DialogueState.Denotes where
  one m := ⟨finds_wellFormed.one m, trivial⟩
  several ms h2 h10 := ⟨finds_wellFormed.several ms h2 h10, trivial⟩

/-- **A state with an index of its market leads to such states**, if the button names an
    outcome. -/
theorem leads_denotes {dialogues : Int → DialogueState} {u : Update}
    (h : ∀ chat, (dialogues chat).Denotes) (hu : NamesOutcome dialogues u) :
    Leads DialogueState.Denotes dialogues u := by
  have hwf := leads_wellFormed (u := u) fun chat => (h chat).1
  constructor
  case market => exact fun chat markets hstate m hm => ⟨hwf.market chat markets hstate m hm, trivial⟩
  case outcome =>
    intro chat q conditionId question outcomes tokenIds i hq hchat hstate hi
    subst hq
    exact ⟨hwf.outcome chat q _ _ _ _ i rfl hchat hstate hi, hu.inRange hchat hstate hi⟩
  case alertType =>
    intro chat conditionId question outcomes tokenIds i alertType hstate htype
    have hchat := (h chat).2
    rw [hstate] at hchat
    exact ⟨hwf.alertType chat _ _ _ _ i alertType hstate htype, hchat⟩
  case subscription => exact fun _ _ => ⟨trivial, trivial⟩
  case alertTypeOf => exact fun _ _ _ htype => ⟨htype, trivial⟩

theorem permits_denotes : Permits DialogueState.Denotes Stmt.GoodAlerts :=
  permits_goodAlerts ⟨trivial, trivial⟩ ⟨trivial, trivial⟩ ⟨trivial, trivial⟩

/-! ## What a handler has written -/

/-- A subscription gets an index of the list the handler wrote last, to the market the subscription
    is on. The monitor remembers one market and its list, which is all a handler writes before it
    inserts. -/
def indexWritten (x : Crates) : Monitor botSig (Option (Int × String)) where
  allows written
    | .sql (.insertSubscription _ marketId outcomeIndex) =>
        ∃ tokenIds, written = some (marketId, x.writeStrings tokenIds) ∧ 0 ≤ outcomeIndex ∧
          outcomeIndex < tokenIds.length
    | _ => True
  next written
    | .sql (.upsertMarket _ _ _ _ _ tokenIds), .ok marketId => some (marketId, tokenIds)
    | _, _ => written

instance (x : Crates) : SqlOnly (indexWritten x) where
  allows g o ho := by
    cases o with
    | sql s => exact absurd rfl (ho s)
    | _ => trivial
  next g o r ho := by
    cases o with
    | sql s => exact absurd rfl (ho s)
    | _ => rfl

section Obeys

variable {x : Crates} {g : Option (Int × String)}

theorem indexWritten_of_footprint {p : Handler Unit}
    (hp : Footprint (fun _ => True) (¬ ·.InsertsSubscription) p) :
    Obeys (indexWritten x) g p fun _ _ => True := by
  refine hp.weaken (fun _ o _ ho => ?_) g
  cases o with
  | sql s =>
    cases s with
    | insertSubscription userId marketId outcomeIndex => exact (ho trivial).elim
    | _ => trivial
  | _ => trivial

theorem permits_noSubscription :
    Permits (fun _ => True) (¬ ·.InsertsSubscription) := by
  refine ⟨fun s hs hins => ?_, trivial, trivial, trivial⟩
  cases s with
  | insertSubscription => exact hs
  | _ => exact hins

theorem userRules_indexWritten (telegramId : Int) (botId : String) :
    UserRules (indexWritten x) g telegramId botId (fun _ _ => True) fun _ _ => True where
  select := trivial
  found _ := ⟨trivial, trivial⟩
  rename _ _ _ _ _ := ⟨trivial, trivial⟩
  insert _ _ _ := ⟨trivial, fun _ => trivial⟩
  reread _ _ _ := ⟨trivial, fun _ => trivial⟩

/-- **The last step of the subscribe flow**: the list and the index are those of its state. -/
theorem indexWritten_handleSubscribeAlertThreshold {botId : String} {msg : Message}
    {conditionId question : String} {outcomes tokenIds : List String} {outcomeIndex : Int}
    {alertType : String} (h0 : 0 ≤ outcomeIndex) (hlt : outcomeIndex < tokenIds.length) :
    Obeys (indexWritten x) g (handleSubscribeAlertThreshold x botId msg conditionId question
      outcomes tokenIds outcomeIndex alertType) fun _ _ => True := by
  refine obeys_handleSubscribeAlertThreshold (fun s _ => userRules_indexWritten s.telegramId botId)
    (fun _ _ _ => trivial) ?_
  rintro g' u n _ now - - rfl
  refine ⟨trivial, fun marketId pct => obeys_createSubscription ?_ fun _ _ _ _ => ?_⟩
  · -- the list was just written, to the market of the answer
    exact ⟨tokenIds, rfl, h0, hlt⟩
  · exact ⟨trivial, fun _ => trivial⟩

/-- **Every handler that is started in states with an index of their market obeys.** -/
theorem indexWritten_of_branch {deps : BotDeps} {dialogues : Int → DialogueState} {u : Update}
    {handler : Handler Unit} (h : ∀ chat, (dialogues chat).Denotes)
    (hbranch : Branch deps dialogues u handler) :
    Obeys (indexWritten deps.crates) none handler fun _ _ => True := by
  cases hbranch with
  | search hu hstate =>
    exact indexWritten_of_footprint (footprint_handleUrlInput _ .any)
  | @subscribe msg _ _ _ _ _ _ hu hstate =>
    have hchat := (h msg.chat).2
    rw [hstate] at hchat
    exact indexWritten_handleSubscribeAlertThreshold hchat.1 hchat.2
  | alert hu hstate =>
    apply indexWritten_of_footprint
    exact footprint_handleAlertThreshold permits_noSubscription.calm _ _ (fun _ _ => id)
      fun _ _ => id
  | other hf =>
    exact indexWritten_of_footprint (hf _ _ permits_noSubscription (fun _ => id) .any)

end Obeys

/-! ## What the engine makes of it -/

/-- In every database in which the market has the list, a refresh builds a rule for every alert on
    the subscription: it watches the token at the index. It is the list that is fixed, not the
    database: the market may have been written again since, with the same list, and rows of others
    may be anything. -/
def RefreshBuilds (x : Crates) (marketId outcomeIndex : Int) (tokenIds : List String) : Prop :=
  ∀ (d : Db) order rows m s a t, d.fetchAlertRows order = .ok rows → d.markets.find marketId = some m →
    m.isActive = true → m.tokenIds = x.writeStrings tokenIds →
    d.subscriptions.find a.subscriptionId = some s → s.marketId = marketId →
    s.outcomeIndex = outcomeIndex → s.isActive = true → a ∈ d.alerts.rows →
    AlertType.fromStr a.alertType = some t →
    ∃ r ∈ rows.filterMap (AlertEngine.buildRule x), r.alertId = a.id ∧ r.alertType = t ∧
      tokenIds[outcomeIndex.toNat]? = some r.tokenId

theorem refreshBuilds_of_lt {x : Crates} (hx : x.Lawful) {outcomeIndex : Int}
    {tokenIds : List String} (h0 : 0 ≤ outcomeIndex) (hlt : outcomeIndex < tokenIds.length)
    (marketId : Int) : RefreshBuilds x marketId outcomeIndex tokenIds := by
  intro d order rows m s a t hrows hm hmactive hids hs hmarket hindex hactive ha htype
  subst hmarket
  have hi32 := AlertEngine.inI32_of_fetchAlertRows ha hs hactive hm hmactive hrows
  obtain ⟨_, hi⟩ := hi32
  have husize : asUsize s.outcomeIndex = outcomeIndex.toNat := by
    rw [asUsize_of_nonneg, hindex] <;> omega
  have hget : outcomeIndex.toNat < tokenIds.length := by omega
  obtain ⟨r, hr, hid, htok, hty, _⟩ := AlertEngine.rule_of_alert ha hs hactive hm hmactive
    (by rw [hids, hx.parseStrings_writeStrings])
    (by rw [husize]; exact List.getElem?_eq_getElem hget) htype hrows
  exact ⟨r, hr, hid, hty, by rw [htok]; exact List.getElem?_eq_getElem hget⟩

/-! ## Every run -/

/-- The market a handler wrote last and the token ids it wrote, as the history has them. -/
def lastMarket (x : Crates) (thread : Nat) (ls : List BotLabel) : Option (Int × String) :=
  Bot.watch (indexWritten x) none ls thread

theorem obeys_indexWritten {deps : BotDeps} {env : Env} {d : Db} {ls : List BotLabel} {B : Bot}
    (hrun : Steps (Bot.Guarded NamesOutcome deps env) (Bot.start d) ls B) :
    B.pool.Obeys (indexWritten deps.crates) (Bot.watch (indexWritten deps.crates) none ls) := by
  have hstep : ∀ B l B', Sound DialogueState.Denotes d B → Bot.Guarded NamesOutcome deps env B l B' →
      Bot.Step deps env B l B' ∧ Sound DialogueState.Denotes d B' := by
    intro B l B' hB hs
    refine ⟨hs.1, hB.step permits_denotes finds_denotes (fun _ h => h.1) (fun u hu => ?_) hs.1⟩
    exact leads_denotes hB.dialogues (hs.2 u hu)
  have hstarts : ∀ B u B' handler, Sound DialogueState.Denotes d B →
      Bot.Guarded NamesOutcome deps env B (.update u) B' →
      schema deps B.pool.state.dialogues u = some handler →
      Obeys (indexWritten deps.crates) none handler fun _ _ => True := by
    intro B u B' handler hB _ hbranch
    exact indexWritten_of_branch hB.dialogues (branch_of_schema hbranch)
  exact (Bot.obeys_watch hstep hstarts (sound_start permits_denotes d) hrun).2.1

/-- Every subscription a handler inserts has an index of the list the same handler has written to
    its market before, and the engine builds a rule for its alerts. -/
def RealOutcomes (x : Crates) (ls : List BotLabel) : Prop :=
  ∀ (before after : List BotLabel) (ev : Event botSig) (userId marketId outcomeIndex : Int),
    ls = before ++ .call ev :: after →
    ev.op = .sql (.insertSubscription userId marketId outcomeIndex) →
    ∃ tokenIds, lastMarket x ev.thread before = some (marketId, x.writeStrings tokenIds) ∧
      0 ≤ outcomeIndex ∧ outcomeIndex < tokenIds.length ∧
      RefreshBuilds x marketId outcomeIndex tokenIds

/-- **Every subscription denotes a real outcome** in every run in which outcome buttons name one.
    The index comes out of callback data and is never compared with the list; that the list is
    still the one of the dialogue when the subscription is inserted is what the monitor keeps, over
    handlers that are stopped and resumed between any two of their statements. -/
theorem subscribes_real_outcomes {deps : BotDeps} {env : Env} (hx : deps.crates.Lawful) {d : Db}
    {ls : List BotLabel} {B : Bot}
    (hrun : Steps (Bot.Guarded NamesOutcome deps env) (Bot.start d) ls B) :
    RealOutcomes deps.crates ls := by
  rintro before after ev userId marketId outcomeIndex rfl hop
  obtain ⟨B₁, B₂, hbefore, ⟨hs, _⟩, _⟩ := hrun.split_at
  have hobeys := obeys_indexWritten hbefore
  cases hs with
  | call hcall =>
    have hallow := (Pool.obeys_step hobeys hcall).1
    rw [hop] at hallow
    obtain ⟨tokenIds, hwritten, h0, hlt⟩ := hallow
    exact ⟨tokenIds, hwritten, h0, hlt, refreshBuilds_of_lt hx h0 hlt marketId⟩

/-- The flow with the button of the second outcome. -/
theorem subscribes_real_outcomes_snow :
    ∃ ls B, Steps (Bot.Guarded NamesOutcome snowDeps snowEnv) (Bot.start .empty) ls B ∧
      B.pool.state.db.subscriptions.rows.map Subscription.outcomeIndex = [1] ∧
      RealOutcomes snowDeps.crates ls := by
  have halong : Bot.Along NamesOutcome snowDeps snowEnv (snowFlow "outcome:1")
      (Bot.start .empty).pool.state := by decide +kernel
  obtain ⟨ls, B, hrun, _, hstate⟩ := Bot.steps_of_dispatches (Bot.idle_start .empty) halong
  have hindex : (snowWorld "outcome:1").db.subscriptions.rows.map Subscription.outcomeIndex
      = [1] := by decide +kernel
  have hstate : B.pool.state = snowWorld "outcome:1" := hstate
  exact ⟨ls, B, hrun, hstate ▸ hindex, subscribes_real_outcomes Crates.reference_lawful hrun⟩

/-- **A button that no keyboard carries, and the subscription denotes nothing**: the market has
    two tokens, the index is 7, the alert is there and the engine has no rule. -/
theorem outcome_button_out_of_range :
    ∃ ls B, Steps (Bot.Step snowDeps snowEnv) (Bot.start .empty) ls B ∧
      (∃ s ∈ B.pool.state.db.subscriptions.rows, s.outcomeIndex = 7 ∧
        (∃ a ∈ B.pool.state.db.alerts.rows, a.subscriptionId = s.id) ∧
        (B.pool.state.db.markets.find s.marketId).map Market.tokenIds
          = some (Crates.reference.writeStrings ["sy", "sn"])) ∧
      ∃ rows, B.pool.state.db.fetchAlertRows [] = .ok rows ∧
        rows.filterMap (AlertEngine.buildRule Crates.reference) = [] := by
  obtain ⟨ls, B, hrun, hstate⟩ := snow_run "outcome:7"
  have hsub : ∃ s ∈ (snowWorld "outcome:7").db.subscriptions.rows, s.outcomeIndex = 7 ∧
      (∃ a ∈ (snowWorld "outcome:7").db.alerts.rows, a.subscriptionId = s.id) ∧
      ((snowWorld "outcome:7").db.markets.find s.marketId).map Market.tokenIds
        = some (Crates.reference.writeStrings ["sy", "sn"]) := by decide +kernel
  have hrows : ((snowWorld "outcome:7").db.fetchAlertRows []).toOption.map
      (List.filterMap (AlertEngine.buildRule Crates.reference)) = some [] := by decide +kernel
  obtain ⟨rows, hread, hnone⟩ := Option.map_eq_some_iff.mp hrows
  exact ⟨ls, B, hrun, hstate ▸ hsub, rows, hstate ▸ ok_of_toOption hread, hnone⟩

end PolyNotifier
