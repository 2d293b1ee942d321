import PolyNotifier.Alert.Engine
import PolyNotifier.Bot.States

/-!
# The market row is shared

All subscriptions on a market hang off one row, and a subscription is an index into the list of
tokens the row has. The last step of every subscribe flow on the market writes the list anew: the
one its dialogue has carried, which was cut from an answer of the web service.

`carrying` is the monitor that says where the lists come from: a dialogue is only ever given a
market that was found, and the upsert writes the lists of one. What an upsert does to the other
subscriptions follows. `upsert_refreshes_list` says for every call of every run that it touches
what the subscriptions of one market watch and no other, and that these watch the new list.
-/

namespace PolyNotifier

open Lib (Prog Pool Event Steps Table)
open Lib.Prog (Monitor Obeys obeys_bind)

/-! ## What a subscription watches -/

/-- The token at the index of a subscription, in the list its market has. The index is the
    subscription's own, the list is shared: what is watched can change without the subscription. -/
def Db.watched (x : Crates) (d : Db) (s : Subscription) : Option String :=
  (d.markets.find s.marketId).bind fun m =>
    (x.parseStrings m.tokenIds).bind fun tokenIds => tokenIds[asUsize s.outcomeIndex]?

theorem Db.watched_congr {x : Crates} {d d' : Db} {s : Subscription}
    (h : d'.markets.find s.marketId = d.markets.find s.marketId) :
    d'.watched x s = d.watched x s := by
  rw [Db.watched, Db.watched, h]

/-! ## Where the lists come from -/

/-- The markets of an answer. -/
def served (x : Crates) : (o : BotOp) → o.Res → List GammaMarket
  | .gammaEvents _, some events => flattenEvents x events
  | _, _ => []

/-- The market was in an answer that has arrived. -/
def Served (x : Crates) (ls : List BotLabel) (m : GammaMarket) : Prop :=
  ∃ ev, .call ev ∈ ls ∧ m ∈ served x ev.op ev.res

/-- The option is cut from one of the markets. -/
def MarketOption.From (known : GammaMarket → Prop) (option : MarketOption) : Prop :=
  ∃ m, known m ∧ marketOption m = option

/-- The lists a dialogue carries are those of one of the markets. -/
def DialogueState.From (known : GammaMarket → Prop) : DialogueState → Prop
  | .awaitingMarketSelection markets => ∀ m ∈ markets, m.From known
  | .awaitingOutcomeSelection conditionId question outcomes tokenIds =>
      MarketOption.From known ⟨conditionId, question, outcomes, tokenIds⟩
  | .awaitingSubscribeAlertType conditionId question outcomes tokenIds _ =>
      MarketOption.From known ⟨conditionId, question, outcomes, tokenIds⟩
  | .awaitingSubscribeAlertThreshold conditionId question outcomes tokenIds _ _ =>
      MarketOption.From known ⟨conditionId, question, outcomes, tokenIds⟩
  | _ => True

/-- The upsert writes the lists of one of the markets. -/
def Stmt.From (x : Crates) (known : GammaMarket → Prop) : Stmt → Prop
  | .upsertMarket _ conditionId question _ outcomes tokenIds =>
      ∃ option : MarketOption, option.From known ∧ option.conditionId = conditionId ∧
        option.question = question ∧ x.writeStrings option.outcomes = outcomes ∧
        x.writeStrings option.tokenIds = tokenIds
  | _ => True

/-- What a handler carries on and writes comes from the markets it knows: those its dialogues knew
    when it was started, and those it was answered. What is known only grows; that a market has
    been served says nothing of when, and a dialogue may carry an old list for as long as the user
    leaves it open. -/
def carrying (x : Crates) : Monitor botSig (GammaMarket → Prop) where
  allows known
    | .updateDialogue _ state => state.From known
    | .sql s => s.From x known
    | _ => True
  next known o r := fun m => known m ∨ m ∈ served x o r

section Known

variable {x : Crates} {known known' : GammaMarket → Prop}

theorem MarketOption.From.mono {option : MarketOption} (h : option.From known)
    (hsub : ∀ m, known m → known' m) : option.From known' := by
  obtain ⟨m, hm, heq⟩ := h
  exact ⟨m, hsub m hm, heq⟩

theorem DialogueState.From.mono {state : DialogueState} (h : state.From known)
    (hsub : ∀ m, known m → known' m) : state.From known' := by
  cases state with
  | awaitingMarketSelection markets => exact fun m hm => (h m hm).mono hsub
  | awaitingOutcomeSelection => exact MarketOption.From.mono h hsub
  | awaitingSubscribeAlertType => exact MarketOption.From.mono h hsub
  | awaitingSubscribeAlertThreshold => exact MarketOption.From.mono h hsub
  | _ => trivial

theorem Stmt.From.mono {s : Stmt} (h : s.From x known) (hsub : ∀ m, known m → known' m) :
    s.From x known' := by
  cases s with
  | upsertMarket =>
    obtain ⟨option, hoption, hrest⟩ := h
    exact ⟨option, hoption.mono hsub, hrest⟩
  | _ => trivial

theorem carrying_mono {o : BotOp} (h : (carrying x).allows known o)
    (hsub : ∀ m, known m → known' m) : (carrying x).allows known' o := by
  cases o with
  | updateDialogue chat state => exact DialogueState.From.mono h hsub
  | sql s => exact Stmt.From.mono h hsub
  | _ => trivial

/-- What is written from markets that are known stays so as more are answered. -/
theorem carrying_of_footprint {p : Handler Unit}
    (hp : Footprint (DialogueState.From known) (Stmt.From x known) p) :
    Obeys (carrying x) known p fun _ _ => True := by
  refine hp.simulate (fun _ known' => ∀ m, known m → known' m) ?_ fun _ hm => hm
  intro _ known' o hsub hallow
  refine ⟨?_, fun r m hm => .inl (hsub m hm)⟩
  cases o with
  | updateDialogue chat state => exact DialogueState.From.mono hallow hsub
  | sql s => exact Stmt.From.mono hallow hsub
  | _ => trivial

theorem permits_from : Permits (DialogueState.From known) (Stmt.From x known) where
  plain s hs := by
    cases s with
    | upsertMarket => exact hs.elim
    | _ => trivial
  idle := trivial
  awaitingUrl := trivial
  awaitingAlertSubscription := trivial

/-- **A dialogue carries its market on.** -/
theorem leads_from {dialogues : Int → DialogueState} {u : Update}
    (h : ∀ chat, (dialogues chat).From known) : Leads (DialogueState.From known) dialogues u where
  market chat markets hstate m hm := by
    have hchat := h chat
    rw [hstate] at hchat
    exact hchat m hm
  outcome chat q conditionId question outcomes tokenIds i _ _ hstate _ := by
    have hchat := h chat
    rwa [hstate] at hchat
  alertType chat conditionId question outcomes tokenIds i alertType hstate _ := by
    have hchat := h chat
    rwa [hstate] at hchat
  subscription _ _ := trivial
  alertTypeOf _ _ _ _ := trivial

/-! ### The search -/

theorem carrying_next {o : BotOp} {r : o.Res} (h : served x o r = []) :
    (carrying x).next known o r = known := by
  funext m
  simp [carrying, h]

theorem carrying_reply {chat : Int} {text : String} {Q : (GammaMarket → Prop) → Unit → Prop}
    (hQ : Q known ()) : Obeys (carrying x) known (reply chat text) Q := by
  refine ⟨trivial, fun ok => ?_⟩
  rw [carrying_next rfl]
  cases ok with
  | true => exact hQ
  | false => trivial

/-- The answer to a request, and the markets in it are known from then on. -/
theorem carrying_searchMarkets {q : String}
    {Q : (GammaMarket → Prop) → Option (List GammaMarket) → Prop}
    (hQ : ∀ found known', (∀ ms, found = some ms → ∀ m ∈ ms, known' m) → Q known' found) :
    Obeys (carrying x) known (searchMarkets x q) Q := by
  refine ⟨trivial, fun (events : Option (List GammaEvent)) => ?_⟩
  cases events with
  | none => exact hQ none _ nofun
  | some events =>
    refine hQ (some (flattenEvents x events)) _ fun ms hms m hm => ?_
    cases hms
    exact .inr hm

theorem carrying_getMarketBySlug {slug : String}
    {Q : (GammaMarket → Prop) → Option (List GammaMarket) → Prop}
    (hQ : ∀ found known', (∀ ms, found = some ms → ∀ m ∈ ms, known' m) → Q known' found) :
    Obeys (carrying x) known (getMarketBySlug x slug) Q := by
  refine ⟨trivial, fun (events : Option (List GammaEvent)) => ?_⟩
  cases events with
  | none => exact hQ none _ nofun
  | some events =>
    dsimp only
    split
    · exact carrying_searchMarkets hQ
    · refine hQ (some (flattenEvents x events)) _ fun ms hms m hm => ?_
      cases hms
      exact .inr hm

/-- What is shown is what was found. -/
theorem carrying_showMarkets {chat : Int} {markets : List GammaMarket}
    (h : ∀ m ∈ markets, known m) :
    Obeys (carrying x) known (showMarkets chat markets) fun _ _ => True := by
  apply carrying_of_footprint
  apply footprint_showMarkets
  · exact fun m hm => ⟨m, h m hm, rfl⟩
  · intro ms hsub _ _ option hoption
    obtain ⟨m, hm, rfl⟩ := List.mem_map.mp hoption
    exact ⟨m, h m (hsub hm), rfl⟩

theorem carrying_handleUrlInput (msg : Message) :
    Obeys (carrying x) known (handleUrlInput x msg) fun _ _ => True := by
  unfold handleUrlInput
  cases msg.text with
  | none => exact carrying_reply trivial
  | some text =>
    dsimp only
    split
    · exact carrying_reply trivial
    · refine obeys_bind.mpr (carrying_reply ?_)
      split
      · refine obeys_bind.mpr (carrying_getMarketBySlug fun found known' hknown => ?_)
        cases found with
        | none => exact carrying_reply trivial
        | some markets => exact carrying_showMarkets (hknown markets rfl)
      · refine obeys_bind.mpr (carrying_searchMarkets fun found known' hknown => ?_)
        cases found with
        | none => exact carrying_reply trivial
        | some markets => exact carrying_showMarkets (hknown markets rfl)

/-- **Every handler obeys**, if the dialogues carry known markets when it is started. -/
theorem carrying_of_branch {deps : BotDeps} {dialogues : Int → DialogueState} {u : Update}
    {handler : Handler Unit} (h : ∀ chat, (dialogues chat).From known)
    (hbranch : Branch deps dialogues u handler) :
    Obeys (carrying deps.crates) known handler fun _ _ => True := by
  cases hbranch with
  | search hu hstate => exact carrying_handleUrlInput _
  | @subscribe msg _ _ _ _ _ _ hu hstate =>
    have hchat := h msg.chat
    rw [hstate] at hchat
    apply carrying_of_footprint
    exact footprint_handleSubscribeAlertThreshold permits_from.calm _ _
      (fun _ => ⟨_, hchat, rfl, rfl, rfl, rfl⟩) (fun _ _ => trivial) fun _ _ _ => trivial
  | alert hu hstate =>
    apply carrying_of_footprint
    exact footprint_handleAlertThreshold permits_from.calm _ _ (fun _ _ => trivial)
      fun _ _ => trivial
  | other hf =>
    exact carrying_of_footprint (hf _ _ permits_from (fun _ => trivial) (leads_from h))

end Known

/-! ## Runs -/

/-- After the calls `ls`: dialogues carry markets that were served, and so do the handlers under
    way. -/
structure Carries (x : Crates) (ls : List BotLabel) (B : Bot) : Prop where
  dialogues : ∀ chat, (B.pool.state.dialogues chat).From (Served x ls)
  threads : ∃ known : Nat → GammaMarket → Prop, B.pool.Obeys (carrying x) known ∧
    ∀ i m, known i m → Served x ls m

section Runs

variable {deps : BotDeps} {env : Env} {d : Db} {ls : List BotLabel} {l : BotLabel} {B B' : Bot}

theorem Served.append {x : Crates} {m : GammaMarket} (h : Served x ls m) (l : BotLabel) :
    Served x (ls ++ [l]) m := by
  obtain ⟨ev, hev, hm⟩ := h
  exact ⟨ev, List.mem_append_left _ hev, hm⟩

/-- One call: a dialogue enters a state with known markets, or no dialogue moves. -/
theorem perform_dialogues_from {x : Crates} {known : GammaMarket → Prop} {o : BotOp} {w : World}
    (hallow : (carrying x).allows known o) (h : ∀ chat, (w.dialogues chat).From known)
    (chat : Int) : ((World.perform env o w).2.dialogues chat).From known := by
  have hwriting : (writing (DialogueState.From known) fun _ => True).allows () o := by
    cases o with
    | updateDialogue c state => exact hallow
    | _ => trivial
  exact perform_dialogues env hwriting h chat

/-- **One step.** -/
theorem Carries.step (h : Carries deps.crates ls B) (hs : Bot.Step deps env B l B') :
    Carries deps.crates (ls ++ [l]) B' := by
  obtain ⟨known, hobeys, hknown⟩ := h.threads
  cases hs with
  | @update u handler hturn hbranch =>
    refine ⟨fun chat => (h.dialogues chat).mono fun m hm => hm.append _, ?_⟩
    -- the new handler knows what the dialogues know
    refine ⟨Function.update known B.pool.threads.length (Served deps.crates ls), ?_, ?_⟩
    · apply Pool.Obeys.spawn
      · intro i p hi
        have hlt : i < B.pool.threads.length := (List.getElem?_eq_some_iff.mp hi).1
        rw [Function.update_of_ne (by omega)]
        exact hobeys i p hi
      · rw [Function.update_self]
        exact carrying_of_branch h.dialogues (branch_of_schema hbranch)
    · intro i m hm
      by_cases hi : i = B.pool.threads.length
      · rw [hi, Function.update_self] at hm
        exact hm.append _
      · rw [Function.update_of_ne hi] at hm
        exact (hknown i m hm).append _
  | @call ev P hcall =>
    obtain ⟨hallow, hobeys'⟩ := Pool.obeys_step hobeys hcall
    refine ⟨fun chat => ?_, _, hobeys', ?_⟩
    · cases hcall with
      | @mk i o k hi =>
        refine DialogueState.From.mono ?_ fun m (hm : Served deps.crates ls m) => hm.append _
        exact perform_dialogues_from (carrying_mono hallow (hknown i)) h.dialogues chat
    · intro i m hm
      unfold Pool.advance at hm
      split at hm
      · rcases hm with hm | hm
        · exact (hknown i m hm).append _
        · exact ⟨ev, List.mem_append_right _ (List.mem_singleton.mpr rfl), hm⟩
      · exact (hknown i m hm).append _

theorem carries_of_run (hrun : Steps (Bot.Step deps env) (Bot.start d) ls B) :
    Carries deps.crates ls B := by
  induction hrun with
  | nil => exact ⟨fun _ => trivial, fun _ _ => False, nofun, nofun⟩
  | snoc _ hs ih => exact ih.step hs

end Runs

/-! ## What an upsert does to the others -/

/-- The condition and the id of the market an operation has upserted. It is the id of the row that
    was there, if there was one. -/
def upserted : (o : BotOp) → o.Res → Option (String × Int)
  | .sql (.upsertMarket _ conditionId ..), .ok id => some (conditionId, id)
  | _, _ => none

def BotLabel.upserted : BotLabel → Option (String × Int)
  | .call ev => PolyNotifier.upserted ev.op ev.res
  | .update _ => none

section Upsert

variable {x : Crates} {d d' : Db} {s : Subscription}

/-- A statement of a handler that writes a market is an upsert. -/
theorem Effect.markets {stmt : Stmt} (h : Effect d d' stmt) (hne : ¬ stmt.UpsertsMarket) :
    d'.markets = d.markets := by
  cases h with
  | plain _ hu _ => exact hu.markets
  | upsertMarket => exact (hne trivial).elim
  | ignored hsame => exact hsame.markets
  | insertSubscription _ _ hm => exact hm
  | deleteSubscription hdel => rw [hdel]; rfl
  | insertAlert _ _ hm => exact hm
  | updateAlert _ hm => exact hm

/-- **An operation that upserts no market** leaves what is watched. -/
theorem perform_watched {env : Env} {o : BotOp} {w : World}
    (h : upserted o (World.perform env o w).1 = none) :
    (World.perform env o w).2.db.watched x s = w.db.watched x s := by
  cases o with
  | sql stmt =>
    cases hexec : World.execute env stmt w with
    | error e => rw [World.perform_sql_error hexec]
    | ok r =>
      obtain ⟨a, d'⟩ := r
      rw [World.perform_sql_ok hexec] at h ⊢
      refine Db.watched_congr ?_
      have heffect := exec_effect (World.execute_ok hexec)
      rw [heffect.markets]
      intro hupserts
      cases stmt with
      | upsertMarket => cases h
      | _ => exact hupserts
  | _ => rfl

/-- **An upsert**: the subscriptions of the market watch the new list, the others what they
    watched. -/
theorem upsertMarket_watched (hx : x.Lawful) {clock now : NaiveDateTime}
    {conditionId question : String} {slug : Option String} {outcomes : String}
    {tokenIds : List String} {id : Int}
    (h : d.upsertMarket clock now conditionId question slug outcomes (x.writeStrings tokenIds)
      = .ok (id, d')) (hs : s ∈ d.subscriptions.rows) :
    (s.marketId ≠ id → d'.watched x s = d.watched x s) ∧
      (s.marketId = id → d'.watched x s = tokenIds[asUsize s.outcomeIndex]?) := by
  obtain ⟨_, _, _, ⟨m, hm, _, _, _, _, hids, _⟩, hothers, _⟩ := Db.upsertMarket_ok h
  constructor
  · intro hne
    exact Db.watched_congr (hothers _ hne (d.subscriptionMarket s hs))
  · intro heq
    rw [Db.watched, heq, hm, Option.bind_some, hids, hx.parseStrings_writeStrings,
      Option.bind_some]

/-- A list that only grows keeps what is watched. -/
theorem watched_of_prefix {m : Market} {old new : List String} {tokenId : String}
    (hm : d.markets.find s.marketId = some m) (hold : x.parseStrings m.tokenIds = some old)
    (hgrow : old <+: new) (hwatched : d.watched x s = some tokenId) :
    new[asUsize s.outcomeIndex]? = some tokenId := by
  rw [Db.watched, hm, Option.bind_some, hold, Option.bind_some] at hwatched
  obtain ⟨rest, rfl⟩ := hgrow
  have hlt := (List.getElem?_eq_some_iff.mp hwatched).1
  rw [List.getElem?_append_left hlt]
  exact hwatched

end Upsert

section Steps

variable {deps : BotDeps} {env : Env} {d : Db} {ls : List BotLabel} {l : BotLabel} {B B' : Bot}

/-- **Whoever subscribes, the others' subscriptions stay as they are, and watch what they
    watched**, except where the list of their market is written anew. The new list is that of a
    market which the web service has served; a subscription on the market watches its entry at
    the index, which is the token from before if the list has only grown. -/
theorem upsert_refreshes_list (hx : deps.crates.Lawful)
    (hrun : Steps (Bot.Step deps env) (Bot.start d) ls B) (hs : Bot.Step deps env B l B') :
    (l.upserted = none → ∀ s,
      B'.pool.state.db.watched deps.crates s = B.pool.state.db.watched deps.crates s) ∧
    ∀ conditionId id, l.upserted = some (conditionId, id) →
      B'.pool.state.db.subscriptions = B.pool.state.db.subscriptions ∧
      ∃ m, Served deps.crates ls m ∧ m.conditionId = conditionId ∧
        ∀ s ∈ B.pool.state.db.subscriptions.rows,
          (s.marketId ≠ id →
            B'.pool.state.db.watched deps.crates s = B.pool.state.db.watched deps.crates s) ∧
          (s.marketId = id → B'.pool.state.db.watched deps.crates s =
            (m.tokens.map GammaToken.tokenId)[asUsize s.outcomeIndex]? ∧
            ∀ row old tokenId, B.pool.state.db.markets.find id = some row →
              deps.crates.parseStrings row.tokenIds = some old →
              old <+: m.tokens.map GammaToken.tokenId →
              B.pool.state.db.watched deps.crates s = some tokenId →
              B'.pool.state.db.watched deps.crates s = some tokenId) := by
  obtain ⟨known, hobeys, hknown⟩ := (carries_of_run hrun).threads
  cases hs with
  | update hturn hbranch => exact ⟨fun _ _ => rfl, nofun⟩
  | @call ev P hcall =>
    have hallow := (Pool.obeys_step hobeys hcall).1
    cases hcall with
    | @mk i o k hi =>
      refine ⟨fun hnone s => perform_watched hnone, fun conditionId id hsome => ?_⟩
      -- only an executed upsert writes a list; the rules of the handler say that a served market
      -- gave it
      cases o with
      | sql stmt =>
        cases hexec : World.execute env stmt B.pool.state with
        | error e =>
          simp only [BotLabel.upserted, World.perform_sql_error hexec] at hsome
          cases stmt <;> cases hsome
        | ok r =>
          obtain ⟨a, d'⟩ := r
          simp only [BotLabel.upserted, World.perform_sql_ok hexec] at hsome ⊢
          cases stmt with
          | upsertMarket now condition question slug outcomes tokenIds =>
            obtain ⟨rfl, rfl⟩ := Prod.mk.inj (Option.some.inj hsome)
            obtain ⟨option, ⟨m, hm, rfl⟩, rfl, _, _, rfl⟩ := hallow
            have hok := World.execute_ok hexec
            refine ⟨(Db.upsertMarket_ok hok).2.1, m, hknown i m hm, rfl, fun s hmem => ?_⟩
            obtain ⟨hothers, hown⟩ := upsertMarket_watched hx hok hmem
            refine ⟨hothers, fun heq => ⟨hown heq, ?_⟩⟩
            intro row old tokenId hrow hold hgrow hwatched
            refine (hown heq).trans ?_
            exact watched_of_prefix (by rw [heq]; exact hrow) hold hgrow hwatched
          | _ => cases hsome
      | _ => cases hsome

end Steps

/-! ## The answer changes its order -/

/-- The same market, its outcomes the other way round. -/
def turnedEvents : List GammaEvent :=
  [⟨some "snow", some [⟨some "0xe", some "Snow?", some "[\"No\",\"Yes\"]", some "[\"sn\",\"sy\"]",
    some true, none⟩]⟩]

/-- The first search is answered one way, later ones the other. -/
def turningEnv : Env :=
  { snowEnv with gamma := fun n _ => some (if n < 10 then snowEvents else turnedEvents) }

def bobSays (s : String) : Update := .message ⟨80, some ⟨8, none, "Bob"⟩, some s, none⟩

def bobPresses (data : String) : Update :=
  .callbackQuery ⟨"q", ⟨8, none, "Bob"⟩, some 80, some data⟩

def bobFlow : List Update :=
  [bobSays "/subscribe", bobSays "snow", bobPresses "outcome:0", bobPresses "alert_type:above",
    bobSays "70"]

/-- Ann has subscribed to the second outcome. -/
def annWorld : World :=
  (snowFlow "outcome:1").foldl (fun w u => dispatch snowDeps turningEnv u w)
    (Bot.start .empty).pool.state

/-- Then Bob subscribes. -/
def bobWorld : World := bobFlow.foldl (fun w u => dispatch snowDeps turningEnv u w) annWorld

theorem turning_run :
    ∃ ls₁ B₁ ls₂ B₂, Steps (Bot.Step snowDeps turningEnv) (Bot.start .empty) ls₁ B₁ ∧
      Steps (Bot.Step snowDeps turningEnv) B₁ ls₂ B₂ ∧ B₁.pool.state = annWorld ∧
      B₂.pool.state = bobWorld := by
  obtain ⟨ls₁, B₁, hrun₁, hidle, hstate₁⟩ := @Bot.steps_of_dispatches snowDeps turningEnv
    (fun _ _ => True) (snowFlow "outcome:1") _ (Bot.idle_start .empty)
    (Bot.along_of_forall (fun _ _ _ => trivial) _)
  obtain ⟨ls₂, B₂, hrun₂, _, hstate₂⟩ := @Bot.steps_of_dispatches snowDeps turningEnv
    (fun _ _ => True) bobFlow _ hidle (Bot.along_of_forall (fun _ _ _ => trivial) _)
  refine ⟨ls₁, B₁, ls₂, B₂, hrun₁.mono fun _ _ _ h => h.1, hrun₂.mono fun _ _ _ h => h.1, hstate₁, ?_⟩
  rw [hstate₂, hstate₁]
  rfl

/-- The upsert on the way from one to the other. -/
theorem upsert_refreshes_list_turned :
    ∃ ls B l B' conditionId id, Steps (Bot.Step snowDeps turningEnv) (Bot.start .empty) ls B ∧
      Bot.Step snowDeps turningEnv B l B' ∧ l.upserted = some (conditionId, id) ∧
      ∃ m, Served Crates.reference ls m ∧ m.conditionId = conditionId ∧
        ∀ s ∈ B.pool.state.db.subscriptions.rows, s.marketId = id →
          B'.pool.state.db.watched Crates.reference s =
            (m.tokens.map GammaToken.tokenId)[asUsize s.outcomeIndex]? := by
  obtain ⟨ls₁, B₁, ls₂, B₂, hrun₁, hrun₂, hstate₁, hstate₂⟩ := turning_run
  have hturned : ∃ s ∈ annWorld.db.subscriptions.rows,
      annWorld.db.watched Crates.reference s = some "sn" ∧
      ¬ bobWorld.db.watched Crates.reference s = some "sn" := by decide +kernel
  obtain ⟨s, _, hann, hbob⟩ := hturned
  obtain ⟨ls, B, l, B', hrun, hs, hbefore, hafter⟩ := hrun₂.lost_at
    (I := fun B => B.pool.state.db.watched Crates.reference s = some "sn")
    (by rw [hstate₁]; exact hann) (by rw [hstate₂]; exact hbob)
  obtain ⟨hsame, hnew⟩ := upsert_refreshes_list Crates.reference_lawful (hrun₁.append hrun) hs
  cases hupserted : l.upserted with
  | none => exact absurd ((hsame hupserted s).trans hbefore) hafter
  | some upserted =>
    obtain ⟨_, m, hserved, hcondition, hwatched⟩ := hnew _ _ hupserted
    exact ⟨_, B, l, B', _, _, hrun₁.append hrun, hs, hupserted, m, hserved, hcondition,
      fun s hs heq => ((hwatched s hs).2 heq).1⟩

/-- **Bob subscribes, and Ann's subscription watches the other outcome.** The web service lists the
    tokens of the market in another order than before, the upsert writes the new list, and an index
    of the old list means another token. -/
theorem subscribe_turns_anothers_token :
    ∃ ls₁ B₁ ls₂ B₂, Steps (Bot.Step snowDeps turningEnv) (Bot.start .empty) ls₁ B₁ ∧
      Steps (Bot.Step snowDeps turningEnv) B₁ ls₂ B₂ ∧
      B₂.pool.state = bobFlow.foldl (fun w u => dispatch snowDeps turningEnv u w) B₁.pool.state ∧
      ∃ s ∈ B₁.pool.state.db.subscriptions.rows, s ∈ B₂.pool.state.db.subscriptions.rows ∧
        B₂.pool.state.db.owner s.userId = some (9, "bot") ∧
        B₁.pool.state.db.watched Crates.reference s = some "sn" ∧
        B₂.pool.state.db.watched Crates.reference s = some "sy" ∧
        ∃ s' ∈ B₂.pool.state.db.subscriptions.rows, s'.marketId = s.marketId ∧
          B₂.pool.state.db.owner s'.userId = some (8, "bot") := by
  obtain ⟨ls₁, B₁, ls₂, B₂, hrun₁, hrun₂, hstate₁, hstate₂⟩ := turning_run
  have hturned : ∃ s ∈ annWorld.db.subscriptions.rows, s ∈ bobWorld.db.subscriptions.rows ∧
      bobWorld.db.owner s.userId = some (9, "bot") ∧
      annWorld.db.watched Crates.reference s = some "sn" ∧
      bobWorld.db.watched Crates.reference s = some "sy" ∧
      ∃ s' ∈ bobWorld.db.subscriptions.rows, s'.marketId = s.marketId ∧
        bobWorld.db.owner s'.userId = some (8, "bot") := by decide +kernel
  refine ⟨ls₁, B₁, ls₂, B₂, hrun₁, hrun₂, ?_, ?_⟩
  · rw [hstate₁, hstate₂]
    rfl
  · rw [hstate₁, hstate₂]
    exact hturned

end PolyNotifier
