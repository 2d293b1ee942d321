import PolyNotifier.Bot.Dispatcher
import PolyNotifier.Bot.Footprint
import PolyNotifier.Common.Reference

/-!
# Dialogue states are well formed

What a dialogue carries from one step to the next comes from the web, from the callback data and
from the user's text. `DialogueState.WellFormed` is what every step may rely on: one outcome for
each token, between two and ten markets to choose from, one of the three alert types. Every
handler enters such states only, if it was entered in one.

So no alert type is unknown where the code says it cannot be, and every alert the bot writes has a
type the engine knows and a threshold between 0 and 1.
-/

namespace PolyNotifier

open Lib (Prog Pool Event Steps)
open Lib.Prog (Obeys FailsOnly)

/-! ## Well-formed states -/

/-- The two lists of a market are of one length: the index of an outcome is the index of its token.
    -/
def MarketOption.WellFormed (m : MarketOption) : Prop := m.outcomes.length = m.tokenIds.length

/-- What every step may rely on. The outcome index of a state is not part of it: it comes from a
    button as it is, and that it is in range takes a condition on the buttons that are pressed
    (`DialogueState.InRange`). -/
def DialogueState.WellFormed : DialogueState → Prop
  | .awaitingMarketSelection markets =>
      2 ≤ markets.length ∧ markets.length ≤ 10 ∧ ∀ m ∈ markets, m.WellFormed
  | .awaitingOutcomeSelection _ _ outcomes tokenIds => outcomes.length = tokenIds.length
  | .awaitingSubscribeAlertType _ _ outcomes tokenIds _ => outcomes.length = tokenIds.length
  | .awaitingSubscribeAlertThreshold _ _ outcomes tokenIds _ alertType =>
      outcomes.length = tokenIds.length ∧ alertTypes.contains alertType
  | .awaitingAlertThreshold _ _ alertType => alertTypes.contains alertType
  | _ => True

/-- The two lists of a market are cut from one list of tokens. -/
theorem marketOption_wellFormed (m : GammaMarket) : (marketOption m).WellFormed := by
  rw [MarketOption.WellFormed, marketOption, List.length_map, List.length_map]

theorem finds_wellFormed : Finds DialogueState.WellFormed where
  one m := marketOption_wellFormed m
  several ms h2 h10 := by
    refine ⟨by rwa [List.length_map], by rwa [List.length_map], fun m hm => ?_⟩
    obtain ⟨g, _, rfl⟩ := List.mem_map.mp hm
    exact marketOption_wellFormed g

/-- **A well-formed state leads to well-formed states.** -/
theorem leads_wellFormed {dialogues : Int → DialogueState} {u : Update}
    (h : ∀ chat, (dialogues chat).WellFormed) : Leads DialogueState.WellFormed dialogues u where
  market chat markets hstate m hm := by
    have hchat := h chat
    rw [hstate] at hchat
    exact hchat.2.2 m hm
  outcome chat q conditionId question outcomes tokenIds i _ _ hstate _ := by
    have hchat := h chat
    rwa [hstate] at hchat
  alertType chat conditionId question outcomes tokenIds i alertType hstate htype := by
    have hchat := h chat
    rw [hstate] at hchat
    exact ⟨hchat, htype⟩
  subscription _ _ := trivial
  alertTypeOf _ _ _ htype := htype

/-! ## Good alerts -/

/-- The type passes the `CHECK` and is known to the engine, the threshold is between 0 and 1. -/
structure GoodAlert (alertType : String) (threshold : F64) : Prop where
  check : alertTypes.contains alertType
  fromStr : ∃ t, AlertType.fromStr alertType = some t
  threshold : ∃ q, threshold = .num q ∧ 0 ≤ q ∧ q ≤ 1

theorem fromStr_of_contains {alertType : String} (h : alertTypes.contains alertType) :
    ∃ t, AlertType.fromStr alertType = some t := by
  have hmem : alertType ∈ ["above", "below", "cross"] := by simpa [alertTypes] using h
  simp only [List.mem_cons, List.not_mem_nil, or_false] at hmem
  rcases hmem with rfl | rfl | rfl
  · exact ⟨.above, rfl⟩
  · exact ⟨.below, rfl⟩
  · exact ⟨.cross, rfl⟩

/-- **A threshold message in range makes a good alert** of a type that is one of the three. -/
theorem goodAlert_of_threshold {msg : Message} {pct : F64} {alertType : String}
    (h : parseThreshold msg = .ok pct) (htype : alertTypes.contains alertType) :
    GoodAlert alertType pct.div100 where
  check := htype
  fromStr := fromStr_of_contains htype
  threshold := parseThreshold_unit h

/-- The alerts a statement writes are good. -/
def Stmt.GoodAlerts : Stmt → Prop
  | .insertAlert _ alertType threshold => GoodAlert alertType threshold
  | .updateAlert alertType threshold _ => GoodAlert alertType threshold
  | _ => True

theorem permits_goodAlerts {St : DialogueState → Prop} (hidle : St .idle)
    (hurl : St .awaitingUrl) (hsub : St .awaitingAlertSubscription) :
    Permits St Stmt.GoodAlerts where
  plain s hs := by
    cases s with
    | insertAlert => exact hs.elim
    | updateAlert => exact hs.elim
    | _ => trivial
  idle := hidle
  awaitingUrl := hurl
  awaitingAlertSubscription := hsub

/-- **A handler started in well-formed states writes good alerts**, and enters what its states
    lead to. -/
theorem footprint_of_branch {deps : BotDeps} {dialogues : Int → DialogueState} {u : Update}
    {handler : Handler Unit} {St : DialogueState → Prop} (hp : Permits St Stmt.GoodAlerts)
    (hfinds : Finds St) (hleads : Leads St dialogues u) (hwf : ∀ chat, (dialogues chat).WellFormed)
    (h : Branch deps dialogues u handler) : Footprint St Stmt.GoodAlerts handler := by
  cases h with
  | search hu hstate => exact footprint_handleUrlInput _ hfinds
  | @subscribe msg _ _ _ _ _ _ hu hstate =>
    have hchat := hwf msg.chat
    rw [hstate] at hchat
    exact footprint_handleSubscribeAlertThreshold hp.calm _ _ (fun _ => trivial) (fun _ _ => trivial)
      fun _ _ hpct => goodAlert_of_threshold hpct hchat.2
  | @alert msg _ _ _ hu hstate =>
    have hchat := hwf msg.chat
    rw [hstate] at hchat
    exact footprint_handleAlertThreshold hp.calm _ _ (fun _ hpct => goodAlert_of_threshold hpct hchat)
      fun _ hpct => goodAlert_of_threshold hpct hchat
  | other hf => exact hf _ _ hp (fun _ => trivial) hleads

/-! ## The unreachable arms -/

theorem failsOnly_answerCallbackQuery {E : BotError → Prop} (hE : E .telegram) (id : String) :
    FailsOnly E (answerCallbackQuery id) := by
  intro ok
  cases ok with
  | true => trivial
  | false => exact hE

theorem failsOnly_reply {E : BotError → Prop} (hE : E .telegram) (chat : Int) (text : String) :
    FailsOnly E (reply chat text) := by
  intro ok
  cases ok with
  | true => trivial
  | false => exact hE

theorem thresholdPrompt_isSome {alertType : String} (h : alertTypes.contains alertType) :
    ∃ prompt, thresholdPrompt alertType = some prompt := by
  have hmem : alertType ∈ ["above", "below", "cross"] := by simpa [alertTypes] using h
  simp only [List.mem_cons, List.not_mem_nil, or_false] at hmem
  rcases hmem with rfl | rfl | rfl <;> exact ⟨_, rfl⟩

/-- **The two alert-type handlers do not reach their `unreachable!()`**: where one of them fails,
    Telegram has refused a call. -/
theorem failsOnly_selectAlertType (dialogue : Int) (q : CallbackQuery)
    (next : String → DialogueState) :
    FailsOnly (· = .telegram) (selectAlertType dialogue q next) := by
  refine FailsOnly.bind (failsOnly_answerCallbackQuery (E := (· = .telegram)) rfl q.id) fun _ => ?_
  split
  · trivial
  · rename_i alertType htype
    obtain ⟨data, _, htype⟩ := Option.bind_eq_some_iff.mp htype
    obtain ⟨prompt, hprompt⟩ := thresholdPrompt_isSome (Option.filter_eq_some_iff.mp htype).2
    cases q.message with
    | none => trivial
    | some chat =>
      dsimp only
      rw [hprompt]
      exact FailsOnly.bind (failsOnly_reply (E := (· = .telegram)) rfl chat prompt) fun _ _ => trivial

/-! ## Every run -/

/-- The alert has the type and the threshold it had. -/
def KeptAlert (d : Db) (a : Alert) : Prop :=
  ∃ a₀ ∈ d.alerts.rows, a₀.id = a.id ∧ a₀.alertType = a.alertType ∧ a₀.threshold = a.threshold

/-- Every alert is one of the database `d₀`, unchanged, or good. Alerts that were there may be
    anything, as no handler has ever seen them; what the run itself writes is good. -/
def GoodOrKept (d₀ d : Db) : Prop :=
  ∀ a ∈ d.alerts.rows, KeptAlert d₀ a ∨ GoodAlert a.alertType a.threshold

/-- **One statement.** -/
theorem Effect.goodOrKept {d₀ d d' : Db} {s : Stmt} (h : GoodOrKept d₀ d) (hs : s.GoodAlerts)
    (he : Effect d d' s) : GoodOrKept d₀ d' := by
  cases he with
  | plain _ hu _ =>
    rw [GoodOrKept, hu.alerts]
    exact h
  | upsertMarket _ _ ha =>
    rw [GoodOrKept, ha]
    exact h
  | ignored hsame =>
    rw [GoodOrKept, hsame.alerts]
    exact h
  | insertSubscription _ _ _ ha _ _ =>
    rw [GoodOrKept, ha]
    exact h
  | deleteSubscription hdel =>
    rw [hdel]
    intro a ha
    exact h a (List.mem_of_mem_filter ha)
  | insertAlert _ _ _ _ _ hrows =>
    intro a ha
    rw [hrows, List.mem_append, List.mem_singleton] at ha
    rcases ha with ha | rfl
    · exact h a ha
    · exact .inr hs
  | updateAlert _ _ _ _ hrows =>
    intro a ha
    rw [hrows] at ha
    obtain ⟨a₁, ha₁, rfl⟩ := List.mem_map.mp ha
    split
    · exact .inr hs
    · exact h a₁ ha₁

/-- What every state of a run satisfies: `St` of every dialogue, the handlers under way obey, the
    alerts are good. The predicate on the dialogues is a parameter, as `Bot.Outcomes` has the same
    argument with a stronger one. -/
structure Sound (St : DialogueState → Prop) (d₀ : Db) (B : Bot) : Prop where
  dialogues : ∀ chat, St (B.pool.state.dialogues chat)
  threads : B.pool.Obeys (writing St Stmt.GoodAlerts) fun _ => ()
  alerts : GoodOrKept d₀ B.pool.state.db

/-- One call: a dialogue enters a state in `St`, or no dialogue moves. -/
theorem perform_dialogues {St : DialogueState → Prop} {Sq : Stmt → Prop} (env : Env) {o : BotOp}
    {w : World} (hallow : (writing St Sq).allows () o) (h : ∀ chat, St (w.dialogues chat))
    (chat : Int) : St ((World.perform env o w).2.dialogues chat) := by
  cases o with
  | updateDialogue c state =>
    show St (Function.update w.dialogues c state chat)
    by_cases hc : chat = c
    · rw [hc, Function.update_self]
      exact hallow
    · rw [Function.update_of_ne hc]
      exact h chat
  | sql s =>
    cases hexec : World.execute env s w with
    | ok r =>
      rw [World.perform_sql_ok hexec]
      exact h chat
    | error e =>
      rw [World.perform_sql_error hexec]
      exact h chat
  | _ => exact h chat

section Runs

variable {deps : BotDeps} {env : Env} {St : DialogueState → Prop} {d₀ : Db} {B B' : Bot}

theorem sound_start (hp : Permits St Stmt.GoodAlerts) (d : Db) : Sound St d (Bot.start d) where
  dialogues _ := hp.idle
  threads := nofun
  alerts a ha := .inl ⟨a, ha, rfl, rfl, rfl⟩

/-- **One step keeps it**, if what the states lead to at an update is in `St`. -/
theorem Sound.step {l : BotLabel} (hp : Permits St Stmt.GoodAlerts)
    (hfinds : Finds St) (hwf : ∀ state, St state → state.WellFormed)
    (hleads : ∀ u, l = .update u → Leads St B.pool.state.dialogues u) (h : Sound St d₀ B)
    (hs : Bot.Step deps env B l B') : Sound St d₀ B' := by
  cases hs with
  | @update u handler _ hbranch =>
    refine ⟨h.dialogues, h.threads.spawn ?_, h.alerts⟩
    exact footprint_of_branch hp hfinds (hleads u rfl) (fun chat => hwf _ (h.dialogues chat))
      (branch_of_schema hbranch)
  | @call ev P hcall =>
    obtain ⟨hallow, hobeys⟩ := Pool.obeys_step h.threads hcall
    cases hcall with
    | @mk i o k hi =>
      refine ⟨perform_dialogues env hallow h.dialogues, hobeys, ?_⟩
      show GoodOrKept d₀ (World.perform env o B.pool.state).2.db
      rcases perform_effect env o B.pool.state with hsame | ⟨s, rfl, he⟩
      · rw [hsame]
        exact h.alerts
      · exact he.goodOrKept h.alerts hallow

theorem permits_wellFormed : Permits DialogueState.WellFormed Stmt.GoodAlerts :=
  permits_goodAlerts trivial trivial trivial

theorem sound_step (B : Bot) (l : BotLabel) (B' : Bot) (h : Sound DialogueState.WellFormed d₀ B)
    (hs : Bot.Step deps env B l B') : Sound DialogueState.WellFormed d₀ B' :=
  h.step permits_wellFormed finds_wellFormed (fun _ h => h)
    (fun _ _ => leads_wellFormed h.dialogues) hs

theorem sound_of_run {d : Db} {ls : List BotLabel}
    (hrun : Steps (Bot.Step deps env) (Bot.start d) ls B) : Sound DialogueState.WellFormed d B :=
  hrun.inv (sound_start permits_wellFormed d) sound_step

/-- **Dialogue states are well formed in every run**, of the dispatcher with any handlers at once.
    That is what the two alert-type handlers rely on, so they do not panic whatever button is
    pressed; every statement that is sent writes good alerts; and so every alert is as it was at
    the start, or good. -/
theorem dialogues_well_formed {d : Db} {ls : List BotLabel}
    (hrun : Steps (Bot.Step deps env) (Bot.start d) ls B) :
    (∀ chat, (B.pool.state.dialogues chat).WellFormed) ∧
    (∀ dialogue q conditionId question outcomes tokenIds outcomeIndex, FailsOnly (· = .telegram)
      (handleSubscribeAlertTypeSelection dialogue q conditionId question outcomes tokenIds
        outcomeIndex)) ∧
    (∀ dialogue q subscriptionId question, FailsOnly (· = .telegram)
      (handleAlertTypeSelection dialogue q subscriptionId question)) ∧
    (∀ ev s, BotLabel.call ev ∈ ls → ev.op = .sql s → s.GoodAlerts) ∧
    ∀ a ∈ B.pool.state.db.alerts.rows, KeptAlert d a ∨ GoodAlert a.alertType a.threshold := by
  have hsound := sound_of_run hrun
  refine ⟨hsound.dialogues, ?_, ?_, ?_, hsound.alerts⟩
  · intros
    apply failsOnly_selectAlertType
  · intros
    apply failsOnly_selectAlertType
  · intro ev s hev hop
    obtain ⟨B₁, B₂, hB₁, hs⟩ := hrun.inv_at (sound_start permits_wellFormed d) sound_step hev
    cases hs with
    | call hcall =>
      have hallow := (Pool.obeys_step hB₁.threads hcall).1
      rw [hop] at hallow
      exact hallow

end Runs

/-! ## A subscribe flow

The bot knows one command, the search finds one market, and user 9 subscribes in chat 90. -/

def snowEvents : List GammaEvent :=
  [⟨some "snow", some [⟨some "0xe", some "Snow?", some "[\"Yes\",\"No\"]", some "[\"sy\",\"sn\"]",
    some true, none⟩]⟩]

def snowDeps : BotDeps :=
  ⟨Crates.reference, "bot", fun s => if s = "/subscribe" then some .subscribe else none, ""⟩

def snowEnv : Env :=
  ⟨fun _ => true, fun _ => true, fun _ => 0, fun _ _ => some snowEvents, fun _ _ => none⟩

def textOf (s : String) : Update := .message ⟨90, some ⟨9, none, "Ann"⟩, some s, none⟩

def buttonOf (data : String) : Update := .callbackQuery ⟨"q", ⟨9, none, "Ann"⟩, some 90, some data⟩

/-- The flow, with the data of the outcome button. -/
def snowFlow (outcome : String) : List Update :=
  [textOf "/subscribe", textOf "snow", buttonOf outcome, buttonOf "alert_type:above", textOf "70"]

/-- The world after the flow, from an empty database. -/
def snowWorld (outcome : String) : World :=
  (snowFlow outcome).foldl (fun w u => dispatch snowDeps snowEnv u w) (Bot.start .empty).pool.state

theorem snow_run (outcome : String) :
    ∃ ls B, Steps (Bot.Step snowDeps snowEnv) (Bot.start .empty) ls B ∧
      B.pool.state = snowWorld outcome := by
  obtain ⟨ls, B, hrun, _, hstate⟩ := @Bot.steps_of_dispatches snowDeps snowEnv (fun _ _ => True)
    (snowFlow outcome) _ (Bot.idle_start .empty) (Bot.along_of_forall (fun _ _ _ => trivial) _)
  exact ⟨ls, B, hrun.mono fun _ _ _ h => h.1, hstate⟩

theorem dialogues_well_formed_snow :
    ∃ ls B, Steps (Bot.Step snowDeps snowEnv) (Bot.start .empty) ls B ∧
      (B.pool.state.db.alerts.rows.map fun a => (a.alertType, a.threshold))
        = [("above", .ofRat (7 / 10))] ∧
      (∀ chat, (B.pool.state.dialogues chat).WellFormed) ∧
      (∀ dialogue q conditionId question outcomes tokenIds outcomeIndex, FailsOnly (· = .telegram)
        (handleSubscribeAlertTypeSelection dialogue q conditionId question outcomes tokenIds
          outcomeIndex)) ∧
      (∀ dialogue q subscriptionId question, FailsOnly (· = .telegram)
        (handleAlertTypeSelection dialogue q subscriptionId question)) ∧
      (∀ ev s, BotLabel.call ev ∈ ls → ev.op = .sql s → s.GoodAlerts) ∧
      ∀ a ∈ B.pool.state.db.alerts.rows,
        KeptAlert .empty a ∨ GoodAlert a.alertType a.threshold := by
  obtain ⟨ls, B, hrun, hstate⟩ := snow_run "outcome:1"
  have halerts : ((snowWorld "outcome:1").db.alerts.rows.map fun a => (a.alertType, a.threshold))
      = [("above", .ofRat (7 / 10))] := by decide +kernel
  refine ⟨ls, B, hrun, ?_, dialogues_well_formed hrun⟩
  rw [hstate]
  exact halerts

end PolyNotifier
