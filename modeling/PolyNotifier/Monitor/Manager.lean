import PolyNotifier.Common.Reference
import PolyNotifier.Lib.Run
import PolyNotifier.Polymarket.Ws

/-!
# The connection manager

One manager serves one set of tokens: session after session with the WebSocket, a wait between
two sessions that grows while they bring nothing, until its token is cancelled.

`Manager.step` is the machine, one step for each `await` that matters. The WebSocket task runs
beside the manager: it turns frames into events on an unbounded channel, in order, and may go on
at any time. `frame_updates` says which price updates come of a frame.
-/

namespace PolyNotifier

open Lib (Json Steps)

/-! ## From an event to an update -/

/-- `ws_event_to_price_update`. A token that the map does not have gets the empty condition: the
    source takes `unwrap_or_default()`, so an update is never held back for want of a market.
    `Monitor.Enrichment` is about what that costs. -/
def wsEventToPriceUpdate (tokenToCondition : DashMap String String) (now : NaiveDateTime)
    (event : WsEvent) : Option PriceUpdate :=
  event.quote.map fun (assetId, price) =>
    { tokenId := assetId, conditionId := (tokenToCondition.lookup assetId).getD "", price,
      timestamp := now }

/-- An update but for the time it was made at. -/
def PriceUpdate.untimed (u : PriceUpdate) : PriceUpdate := { u with timestamp := 0 }

section

variable (x : Crates) (tokenToCondition : DashMap String String) (now : NaiveDateTime)

/-- The update of one element of a frame. -/
def elementUpdate (value : Json) : Option PriceUpdate :=
  wsEventToPriceUpdate tokenToCondition now (parseSingleEvent x value)

/-- The updates of one frame. -/
def frameUpdates (text : String) : List PriceUpdate :=
  (parseWsMessage x text).filterMap (wsEventToPriceUpdate tokenToCondition now)

variable {x tokenToCondition now} {text : String}

/-- **An element has an update if and only if it quotes a price**, and the update carries its
    asset and its price. -/
theorem elementUpdate_iff {value : Json} {u : PriceUpdate} :
    elementUpdate x tokenToCondition now value = some u ↔
      ∃ assetId price, Quotes x value assetId price ∧
        u = ⟨assetId, (tokenToCondition.lookup assetId).getD "", price, now⟩ := by
  unfold elementUpdate wsEventToPriceUpdate
  rw [Option.map_eq_some_iff]
  constructor
  · rintro ⟨⟨assetId, price⟩, hquote, rfl⟩
    exact ⟨assetId, price, quote_parseSingleEvent.mp hquote, rfl⟩
  · rintro ⟨assetId, price, hquotes, rfl⟩
    exact ⟨(assetId, price), quote_parseSingleEvent.mpr hquotes, rfl⟩

theorem parseWsMessage_array {values : List Json} (h : x.fromStr text = some (.arr values)) :
    parseWsMessage x text = values.map (parseSingleEvent x) := by
  rw [parseWsMessage, h]

/-- The updates of an array are those of its elements, in order. -/
theorem frameUpdates_array {values : List Json} (h : x.fromStr text = some (.arr values)) :
    frameUpdates x tokenToCondition now text
      = values.filterMap (elementUpdate x tokenToCondition now) := by
  rw [frameUpdates, parseWsMessage_array h, List.filterMap_map]
  rfl

theorem frameUpdates_other (h : ∀ values, x.fromStr text ≠ some (.arr values)) :
    frameUpdates x tokenToCondition now text = [] := by
  have hone : parseWsMessage x text = [.unknown text] := by
    unfold parseWsMessage
    split
    · rename_i values heq
      exact absurd heq (h values)
    · rfl
  rw [frameUpdates, hone]
  rfl

/-- The time does not decide what is sent. -/
theorem wsEventToPriceUpdate_untimed (event : WsEvent) :
    (wsEventToPriceUpdate tokenToCondition now event).map PriceUpdate.untimed
      = wsEventToPriceUpdate tokenToCondition 0 event := by
  unfold wsEventToPriceUpdate
  rw [Option.map_map]
  rfl

end

/-! ## The machine -/

/-- Delays in whole seconds, as they are configured. -/
structure ReconnectConfig where
  baseDelay : Nat
  maxDelay : Nat

/-- `calculate_backoff`: the factor `2 ^ attempt` saturates at the largest `u32`, and the product
    is cut off at the maximum. `none` where the product does not fit a `Duration`: `Duration * u32`
    panics before the maximum can cut anything off. -/
def calculateBackoff (cfg : ReconnectConfig) (attempt : Nat) : Option Nat :=
  let delay := cfg.baseDelay * min (2 ^ attempt) (2 ^ 32 - 1)
  if delay < 2 ^ 64 then some (min delay cfg.maxDelay) else none

/-- Where `ConnectionManager::run` is. There is a place for every `await` and for every decision
    that is made between two of them, because the token can be cancelled, and the WebSocket task
    can end, at any of these. -/
inductive ManagerPc where
  /-- No tokens: only the cancellation is waited for. -/
  | idle
  /-- At the head of the outer loop. -/
  | top
  /-- At the `select!` of the inner loop. -/
  | reading
  /-- The `select!` took an event. -/
  | converting (event : WsEvent)
  /-- The sender is gone: the WebSocket task is joined. -/
  | closing
  /-- Joined, before the token is looked at again. -/
  | ended
  | backoff (delay : Nat)
  | returned
  | panicked
  deriving DecidableEq

/-- A task that is over sends nothing any more. -/
def ManagerPc.gone : ManagerPc → Bool
  | .returned => true
  | .panicked => true
  | _ => false

/-- The event that was taken and is not converted yet. -/
def ManagerPc.taken : ManagerPc → List WsEvent
  | .converting event => [event]
  | _ => []

/-- A manager with the channel its WebSocket task writes to. The task itself is not here: all the
    manager sees of it is what is in the channel and whether its sender is still there. `frames`,
    `session` and `published` are ghosts: no step asks what they are, and the account of a session
    is stated with them. -/
structure Manager where
  tokenIds : List String
  tokenToCondition : DashMap String String
  pc : ManagerPc
  cancelled : Bool
  attempt : Nat
  receivedAny : Bool
  /-- Events that were sent and not yet received. -/
  queue : List WsEvent
  /-- The WebSocket task holds the sender of the events. -/
  connected : Bool
  /-- The frames of this session, -/
  frames : List String
  /-- and the updates it has published. -/
  session : List PriceUpdate
  /-- All updates ever published. -/
  published : List PriceUpdate

/-- What a step of a manager is. The labels `frame` and `disconnect` belong to the WebSocket task,
    which here hands over all events of a frame at once; `Monitor.Link` shows that the manager
    cannot tell this from the real task, which sends them one by one. -/
inductive ManagerLabel where
  | start
  /-- The WebSocket task reads a text frame. -/
  | frame (text : String)
  /-- The WebSocket task ends. -/
  | disconnect
  | cancelled
  | recv
  /-- The channel is empty and its sender is gone. -/
  | drained
  | convert (now : NaiveDateTime)
  /-- The WebSocket task is joined; `aborted`: it was cancelled from outside. -/
  | joined (aborted : Bool)
  | check
  | slept
  | panic

namespace Manager

/-- `ConnectionManager::run`, at its first line. Without tokens there is nothing to connect to, and
    the manager only waits for its cancellation. -/
def new (tokenIds : List String) (tokenToCondition : DashMap String String) : Manager where
  tokenIds := tokenIds
  tokenToCondition := tokenToCondition
  pc := if tokenIds = [] then .idle else .top
  cancelled := false
  attempt := 0
  receivedAny := false
  queue := []
  connected := false
  frames := []
  session := []
  published := []

variable (x : Crates) (cfg : ReconnectConfig)

/-- One step of `ConnectionManager::run`, or of the task behind its channel; `none` where the step
    cannot be taken. Every branch names the place of the code it starts from, so what can happen at
    a place is read off the branches for it. The `select!` of the inner loop is `biased` and has
    the cancellation first, so `recv` and `drained` ask for a token that is not cancelled, while
    the sleep of the backoff may still end after the cancellation. -/
def step (m : Manager) : ManagerLabel → Option Manager
  | .start =>
      match m.pc with
      | .top =>
          if m.cancelled then some { m with pc := .returned }
          else some { m with
            pc := .reading, receivedAny := false, queue := [], connected := true, frames := [],
            session := [] }
      | _ => none
  | .frame text =>
      if m.connected then
        some { m with queue := m.queue ++ parseWsMessage x text, frames := m.frames ++ [text] }
      else none
  | .disconnect => if m.connected then some { m with connected := false } else none
  | .cancelled =>
      match m.pc with
      | .idle => if m.cancelled then some { m with pc := .returned } else none
      | .reading =>
          if m.cancelled then some { m with pc := .returned, connected := false } else none
      | .backoff _ => if m.cancelled then some { m with pc := .returned } else none
      | _ => none
  | .recv =>
      -- the `select!` is biased: an event is taken only while the token is not cancelled
      match m.pc, m.queue with
      | .reading, event :: rest =>
          if m.cancelled then none else some { m with pc := .converting event, queue := rest }
      | _, _ => none
  | .drained =>
      match m.pc, m.queue with
      | .reading, [] => if m.cancelled || m.connected then none else some { m with pc := .closing }
      | _, _ => none
  | .convert now =>
      match m.pc with
      | .converting event =>
          match wsEventToPriceUpdate m.tokenToCondition now event with
          | some update =>
              some { m with
                pc := .reading, receivedAny := true, session := m.session ++ [update],
                published := m.published ++ [update] }
          | none => some { m with pc := .reading }
      | _ => none
  | .joined aborted =>
      match m.pc with
      | .closing => some { m with pc := if aborted then .returned else .ended }
      | _ => none
  | .check =>
      match m.pc with
      | .ended =>
          if m.cancelled then some { m with pc := .returned }
          else
            let attempt := if m.receivedAny then 0 else m.attempt
            match calculateBackoff cfg attempt with
            | some delay =>
                some { m with pc := .backoff delay, attempt := min (attempt + 1) (2 ^ 32 - 1) }
            | none => some { m with pc := .panicked }
      | _ => none
  | .slept =>
      match m.pc with
      | .backoff _ => some { m with pc := .top }
      | _ => none
  | .panic => if m.pc.gone then none else some { m with pc := .panicked }

/-- A step that can be taken, and where it leads. -/
def Step (m : Manager) (l : ManagerLabel) (m' : Manager) : Prop := m.step x cfg l = some m'

variable {x cfg} {m m' : Manager} {l : ManagerLabel}

/-! ## What a step can do -/

/-- What a step does, with what it has seen. `step` is written for the reader of the source, branch
    by branch; `Move` is for the proofs: one case for each thing that can happen, with the guard it
    was taken under. `step_cases` is the one place that takes `step` apart. -/
inductive Move (x : Crates) (cfg : ReconnectConfig) (m : Manager) : ManagerLabel → Manager → Prop
  | ends {l : ManagerLabel} {pc : ManagerPc} {connected : Bool} (live : m.pc.gone = false)
      (gone : pc.gone = true) : Move x cfg m l { m with pc, connected }
  | starts (pc : m.pc = .top) : Move x cfg m .start { m with
      pc := .reading, receivedAny := false, queue := [], connected := true, frames := [],
      session := [] }
  | frame {text : String} (connected : m.connected = true) : Move x cfg m (.frame text) { m with
      queue := m.queue ++ parseWsMessage x text, frames := m.frames ++ [text] }
  | disconnects : Move x cfg m .disconnect { m with connected := false }
  | takes {event : WsEvent} {rest : List WsEvent} (pc : m.pc = .reading)
      (queue : m.queue = event :: rest) :
      Move x cfg m .recv { m with pc := .converting event, queue := rest }
  | closes (pc : m.pc = .reading) (queue : m.queue = []) (connected : m.connected = false) :
      Move x cfg m .drained { m with pc := .closing }
  | publishes {now : NaiveDateTime} {event : WsEvent} {update : PriceUpdate}
      (pc : m.pc = .converting event)
      (converted : wsEventToPriceUpdate m.tokenToCondition now event = some update) :
      Move x cfg m (.convert now) { m with
        pc := .reading, receivedAny := true, session := m.session ++ [update],
        published := m.published ++ [update] }
  | drops {now : NaiveDateTime} {event : WsEvent} (pc : m.pc = .converting event)
      (converted : wsEventToPriceUpdate m.tokenToCondition now event = none) :
      Move x cfg m (.convert now) { m with pc := .reading }
  | joins (pc : m.pc = .closing) : Move x cfg m (.joined false) { m with pc := .ended }
  | waits {delay : Nat} (pc : m.pc = .ended)
      (backoff : calculateBackoff cfg (if m.receivedAny then 0 else m.attempt) = some delay) :
      Move x cfg m .check { m with
        pc := .backoff delay
        attempt := min ((if m.receivedAny then 0 else m.attempt) + 1) (2 ^ 32 - 1) }
  | wakes {delay : Nat} (pc : m.pc = .backoff delay) : Move x cfg m .slept { m with pc := .top }

/-- The step ends the manager where it is. -/
theorem Move.ends_at {pc pc' : ManagerPc} {connected : Bool} (hpc : m.pc = pc)
    (hlive : pc.gone = false) (hgone : pc'.gone = true) :
    Move x cfg m l { m with pc := pc', connected } :=
  .ends (by rw [hpc, hlive]) hgone

/-- **Every step is one of these.** -/
theorem step_cases (h : Step x cfg m l m') : Move x cfg m l m' := by
  unfold Step step at h
  cases l with
  | start =>
    dsimp only at h
    split at h
    · rename_i hpc
      split at h <;> cases h
      · exact .ends_at hpc rfl rfl
      · exact .starts hpc
    · cases h
  | frame text =>
    dsimp only at h
    split at h
    · rename_i hconnected
      cases h
      exact .frame hconnected
    · cases h
  | disconnect =>
    dsimp only at h
    split at h
    · cases h
      exact .disconnects
    · cases h
  -- the three places where the token is looked at: the loop, the select!, the sleep
  | cancelled =>
    dsimp only at h
    split at h
    · rename_i hpc
      split at h <;> cases h
      exact .ends_at hpc rfl rfl
    · rename_i hpc
      split at h <;> cases h
      exact .ends_at hpc rfl rfl
    · rename_i hpc
      split at h <;> cases h
      exact .ends_at hpc rfl rfl
    · cases h
  | recv =>
    dsimp only at h
    split at h
    · rename_i hpc hqueue
      split at h <;> cases h
      exact .takes hpc hqueue
    · cases h
  -- the receiver ends only when the socket task is gone and the channel is empty
  | drained =>
    dsimp only at h
    split at h
    · rename_i hpc hqueue
      split at h
      · cases h
      · rename_i hopen
        simp only [Bool.or_eq_true, not_or, Bool.not_eq_true] at hopen
        cases h
        exact .closes hpc hqueue hopen.2
    · cases h
  | convert now =>
    dsimp only at h
    split at h
    · rename_i hpc
      split at h
      · rename_i hupdate
        cases h
        exact .publishes hpc hupdate
      · rename_i hupdate
        cases h
        exact .drops hpc hupdate
    · cases h
  | joined aborted =>
    dsimp only at h
    split at h
    · rename_i hpc
      cases h
      cases aborted with
      | true => exact .ends_at hpc rfl rfl
      | false => exact .joins hpc
    · cases h
  -- the shutdown test and the attempt limit both end the manager, in this order
  | check =>
    dsimp only at h
    split at h
    · rename_i hpc
      split at h
      · cases h
        exact .ends_at hpc rfl rfl
      · split at h
        · rename_i hdelay
          cases h
          exact .waits hpc hdelay
        · cases h
          exact .ends_at hpc rfl rfl
    · cases h
  | slept =>
    dsimp only at h
    split at h
    · rename_i hpc
      cases h
      exact .wakes hpc
    · cases h
  | panic =>
    dsimp only at h
    split at h
    · cases h
    · rename_i hlive
      cases h
      exact .ends (Bool.eq_false_of_not_eq_true hlive) rfl

/-- What a step leaves alone. A manager that is gone stays gone and publishes nothing. -/
structure StepFrame (m m' : Manager) : Prop where
  tokenIds : m'.tokenIds = m.tokenIds
  tokenToCondition : m'.tokenToCondition = m.tokenToCondition
  cancelled : m'.cancelled = m.cancelled
  gone : m.pc.gone = true → m'.pc = m.pc ∧ m'.published = m.published

theorem StepFrame.of_pc {pc : ManagerPc} (hpc : m.pc = pc) (hlive : pc.gone = false)
    (h1 : m'.tokenIds = m.tokenIds) (h2 : m'.tokenToCondition = m.tokenToCondition)
    (h3 : m'.cancelled = m.cancelled) : StepFrame m m' where
  tokenIds := h1
  tokenToCondition := h2
  cancelled := h3
  gone hgone := by
    rw [hpc, hlive] at hgone
    cases hgone

theorem step_frame (h : Step x cfg m l m') : StepFrame m m' := by
  cases step_cases h with
  | ends hlive => exact .of_pc rfl hlive rfl rfl rfl
  | frame => exact ⟨rfl, rfl, rfl, fun _ => ⟨rfl, rfl⟩⟩
  | disconnects => exact ⟨rfl, rfl, rfl, fun _ => ⟨rfl, rfl⟩⟩
  | starts hpc => exact .of_pc hpc rfl rfl rfl rfl
  | takes hpc => exact .of_pc hpc rfl rfl rfl rfl
  | closes hpc => exact .of_pc hpc rfl rfl rfl rfl
  | publishes hpc => exact .of_pc hpc rfl rfl rfl rfl
  | drops hpc => exact .of_pc hpc rfl rfl rfl rfl
  | joins hpc => exact .of_pc hpc rfl rfl rfl rfl
  | waits hpc => exact .of_pc hpc rfl rfl rfl rfl
  | wakes hpc => exact .of_pc hpc rfl rfl rfl rfl

/-! ## Sessions -/

variable (x) in
/-- **The account of a session.** What it has published, and what it will publish of the events it
    holds, is what its frames say, in order; nothing else is ever published, whatever ends the
    session; and the session counts as productive if and only if it has published something. The
    conversion of an event happens at some time, and this does not matter to the account, so
    updates are compared but for their times. -/
structure Accounts (m : Manager) : Prop where
  balance : m.pc.gone = false →
    m.session.map PriceUpdate.untimed ++ (m.pc.taken ++ m.queue).filterMap
      (wsEventToPriceUpdate m.tokenToCondition 0)
        = m.frames.flatMap (frameUpdates x m.tokenToCondition 0)
  published : m.session.map PriceUpdate.untimed <+:
    m.frames.flatMap (frameUpdates x m.tokenToCondition 0)
  productive : m.receivedAny = true ↔ m.session ≠ []
  drained : m.pc = .closing ∨ m.pc = .ended → m.queue = [] ∧ m.connected = false

theorem accounts_new (tokenIds : List String) (tokenToCondition : DashMap String String) :
    Accounts x (new tokenIds tokenToCondition) where
  balance _ := by
    unfold new
    dsimp only
    split <;> rfl
  published := List.prefix_refl _
  productive := ⟨fun h => (Bool.false_ne_true h).elim, fun h => absurd rfl h⟩
  drained h := by
    unfold new at h
    dsimp only at h
    split at h <;> rcases h with h | h <;> cases h

theorem Accounts.same (h : Accounts x m) (hsession : m'.session = m.session)
    (hframes : m'.frames = m.frames) (hqueue : m'.queue = m.queue)
    (hmap : m'.tokenToCondition = m.tokenToCondition) (hany : m'.receivedAny = m.receivedAny)
    (hpc : m'.pc.gone = false → m.pc.gone = false ∧ m'.pc.taken = m.pc.taken)
    (hdrained : m'.pc = .closing ∨ m'.pc = .ended → m'.queue = [] ∧ m'.connected = false) :
    Accounts x m' where
  balance hlive := by
    rw [hsession, hframes, hqueue, hmap, (hpc hlive).2]
    exact h.balance (hpc hlive).1
  published := by
    rw [hsession, hframes, hmap]
    exact h.published
  productive := by
    rw [hany, hsession]
    exact h.productive
  drained := hdrained

/-- At no other place the queue has to be empty. -/
theorem Accounts.same_open (h : Accounts x m) (hsession : m'.session = m.session)
    (hframes : m'.frames = m.frames) (hqueue : m'.queue = m.queue)
    (hmap : m'.tokenToCondition = m.tokenToCondition) (hany : m'.receivedAny = m.receivedAny)
    (hpc : m'.pc.gone = false → m.pc.gone = false ∧ m'.pc.taken = m.pc.taken)
    (hopen : ¬ (m'.pc = .closing ∨ m'.pc = .ended)) : Accounts x m' :=
  h.same hsession hframes hqueue hmap hany hpc fun hc => absurd hc hopen

/-- The event taken from the queue goes from the events that are held to the published ones. -/
theorem Accounts.convert {event : WsEvent} (h : Accounts x m) (now : NaiveDateTime)
    (hpc : m.pc = .converting event) :
    (m.session ++ (wsEventToPriceUpdate m.tokenToCondition now event).toList).map
        PriceUpdate.untimed ++ m.queue.filterMap (wsEventToPriceUpdate m.tokenToCondition 0)
      = m.frames.flatMap (frameUpdates x m.tokenToCondition 0) := by
  have hb := h.balance (by rw [hpc]; rfl)
  have hone : (wsEventToPriceUpdate m.tokenToCondition now event).map PriceUpdate.untimed
      = wsEventToPriceUpdate m.tokenToCondition 0 event := wsEventToPriceUpdate_untimed event
  rw [← hb, hpc, ManagerPc.taken, List.singleton_append, List.filterMap_cons, ← hone]
  cases wsEventToPriceUpdate m.tokenToCondition now event with
  | none => rw [Option.toList_none, List.append_nil, Option.map_none]
  | some update =>
    rw [Option.toList_some, Option.map_some, List.map_append, List.append_assoc]
    rfl

theorem accounts_step (h : Accounts x m) (hs : Step x cfg m l m') : Accounts x m' := by
  cases step_cases hs with
  | @ends _ pc _ hlive hgone =>
    refine h.same_open rfl rfl rfl rfl rfl (fun hl => ?_) ?_
    · exact absurd (hgone.symm.trans hl) Bool.true_eq_false.mp
    · rintro (rfl | rfl) <;> cases hgone
  | starts =>
    -- a new session, with empty books
    exact ⟨fun _ => rfl, List.prefix_refl _,
      ⟨fun hf => (Bool.false_ne_true hf).elim, fun hne => absurd rfl hne⟩,
      fun hc => by rcases hc with hc | hc <;> cases hc⟩
  | frame hconnected =>
    refine ⟨fun hlive => ?_, ?_, h.productive, fun hc => ?_⟩
    · dsimp only at hlive ⊢
      rw [List.flatMap_append, List.flatMap_singleton, ← h.balance hlive, List.append_assoc,
        ← List.append_assoc m.pc.taken, List.filterMap_append]
      rfl
    · dsimp only
      rw [List.flatMap_append]
      exact h.published.trans (List.prefix_append _ _)
    · rw [(h.drained hc).2] at hconnected
      cases hconnected
  | disconnects =>
    exact h.same rfl rfl rfl rfl rfl (fun hlive => ⟨hlive, rfl⟩)
      (fun hc => ⟨(h.drained hc).1, rfl⟩)
  | takes hpc hqueue =>
    refine ⟨fun _ => ?_, h.published, h.productive,
      fun hc => by rcases hc with hc | hc <;> cases hc⟩
    have hb := h.balance (by rw [hpc]; rfl)
    rw [hpc, hqueue] at hb
    exact hb
  | closes hpc hqueue hconnected =>
    exact h.same rfl rfl rfl rfl rfl (fun _ => ⟨by rw [hpc]; rfl, by rw [hpc]; rfl⟩)
      (fun _ => ⟨hqueue, hconnected⟩)
  | @publishes now event update hpc hupdate =>
    have hb := h.convert now hpc
    rw [hupdate, Option.toList_some] at hb
    refine ⟨fun _ => hb, ?_, ⟨fun _ => by simp, fun _ => rfl⟩,
      fun hc => by rcases hc with hc | hc <;> cases hc⟩
    dsimp only
    rw [← hb]
    exact List.prefix_append _ _
  | @drops now event hpc hupdate =>
    have hb := h.convert now hpc
    rw [hupdate, Option.toList_none, List.append_nil] at hb
    exact ⟨fun _ => hb, h.published, h.productive,
      fun hc => by rcases hc with hc | hc <;> cases hc⟩
  | joins hpc =>
    exact h.same rfl rfl rfl rfl rfl (fun _ => ⟨by rw [hpc]; rfl, by rw [hpc]; rfl⟩)
      (fun _ => h.drained (.inl hpc))
  | waits hpc =>
    exact h.same_open rfl rfl rfl rfl rfl (fun _ => ⟨by rw [hpc]; rfl, by rw [hpc]; rfl⟩) (by simp)
  | wakes hpc =>
    exact h.same_open rfl rfl rfl rfl rfl (fun _ => ⟨by rw [hpc]; rfl, by rw [hpc]; rfl⟩) (by simp)

/-- **Every session of every run is accounted for.** -/
theorem accounts_of_run {tokenIds : List String} {tokenToCondition : DashMap String String}
    {ls : List ManagerLabel} (h : Steps (Step x cfg) (new tokenIds tokenToCondition) ls m) :
    Accounts x m :=
  h.inv (accounts_new tokenIds tokenToCondition) fun _ _ _ ha hs => accounts_step ha hs

/-- A session that is over has published everything its frames say, and counts as productive if
    and only if that is something. -/
theorem Accounts.ended (h : Accounts x m) (hpc : m.pc = .ended) :
    m.session.map PriceUpdate.untimed = m.frames.flatMap (frameUpdates x m.tokenToCondition 0) ∧
      (m.receivedAny = true ↔
        m.frames.flatMap (frameUpdates x m.tokenToCondition 0) ≠ []) := by
  have hb := h.balance (by rw [hpc]; rfl)
  rw [hpc, (h.drained (.inr hpc)).1] at hb
  simp only [ManagerPc.taken, List.append_nil, List.filterMap_nil] at hb
  refine ⟨hb, h.productive.trans ?_⟩
  rw [← hb, ne_eq, ne_eq, List.map_eq_nil_iff]

/-- **The delay after a session**: the shortest if it was productive, else the next one. -/
theorem Accounts.backoff (h : Accounts x m) (hs : Step x cfg m .check m') {delay : Nat}
    (hpc : m'.pc = .backoff delay) :
    calculateBackoff cfg (if m.session = [] then m.attempt else 0) = some delay := by
  have hany : (if m.receivedAny = true then 0 else m.attempt)
      = if m.session = [] then m.attempt else 0 := by
    by_cases hp : m.receivedAny = true
    · rw [if_pos hp, if_neg (h.productive.mp hp)]
    · rw [if_neg hp, if_pos (not_not.mp fun hne => hp (h.productive.mpr hne))]
  cases step_cases hs with
  | ends _ hgone =>
    cases hpc
    cases hgone
  | waits _ hdelay =>
    cases hpc
    rwa [hany] at hdelay

end Manager

/-! ## What comes of a frame -/

/-- The updates of a frame, said of the text alone. An element is an event of its own, and each is
    decided by itself, so a bad one costs no other; text that is no array yields nothing, also
    where it is a single event. -/
structure FrameSpec (x : Crates) (tokenToCondition : DashMap String String) : Prop where
  /-- No JSON array, no update. -/
  other : ∀ now text, (∀ values, x.fromStr text ≠ some (.arr values)) →
    frameUpdates x tokenToCondition now text = []
  /-- One event for each element, and the updates of the elements in order. -/
  array : ∀ now text values, x.fromStr text = some (.arr values) →
    (parseWsMessage x text).length = values.length ∧
      frameUpdates x tokenToCondition now text
        = values.filterMap (elementUpdate x tokenToCondition now)
  /-- The elements that have one. -/
  element : ∀ now value u, elementUpdate x tokenToCondition now value = some u ↔
    ∃ assetId price, Quotes x value assetId price ∧
      u = ⟨assetId, (tokenToCondition.lookup assetId).getD "", price, now⟩
  /-- Each element is decided by itself. -/
  append : ∀ now text first second values values', x.fromStr text = some (.arr (values ++ values')) →
    x.fromStr first = some (.arr values) → x.fromStr second = some (.arr values') →
    frameUpdates x tokenToCondition now text
      = frameUpdates x tokenToCondition now first ++ frameUpdates x tokenToCondition now second

theorem frameSpec (x : Crates) (tokenToCondition : DashMap String String) :
    FrameSpec x tokenToCondition where
  other _ _ h := frameUpdates_other h
  array _ _ _ h := ⟨by rw [parseWsMessage_array h, List.length_map], frameUpdates_array h⟩
  element _ _ _ := elementUpdate_iff
  append _ _ _ _ _ _ h h₁ h₂ := by
    rw [frameUpdates_array h, frameUpdates_array h₁, frameUpdates_array h₂, List.filterMap_append]

/-- **Each frame yields exactly its valid updates**, and in every run of a manager they are what is
    broadcast, in order. What a frame yields is said of the text alone, element by element, so that
    one bad element costs no other; the rest is the accounts of the run. A session that ends by
    itself has published all it was sent, and whether it published anything decides the next delay.
    -/
theorem frames_yield_valid_updates {x : Crates} {cfg : ReconnectConfig} {tokenIds : List String}
    {tokenToCondition : DashMap String String} {ls : List ManagerLabel} {m : Manager}
    (hrun : Steps (Manager.Step x cfg) (.new tokenIds tokenToCondition) ls m) :
    FrameSpec x tokenToCondition ∧ m.tokenToCondition = tokenToCondition ∧ m.Accounts x ∧
      (m.pc = .ended →
        m.session.map PriceUpdate.untimed
          = m.frames.flatMap (frameUpdates x tokenToCondition 0)) ∧
      ∀ m' delay, Manager.Step x cfg m .check m' → m'.pc = .backoff delay →
        calculateBackoff cfg (if m.session = [] then m.attempt else 0) = some delay := by
  have hacc := Manager.accounts_of_run hrun
  have hmap : m.tokenToCondition = tokenToCondition :=
    hrun.inv (I := fun m => m.tokenToCondition = tokenToCondition) rfl fun _ _ _ hm hs =>
      (Manager.step_frame hs).tokenToCondition.trans hm
  refine ⟨frameSpec x tokenToCondition, hmap, hacc, ?_, fun _ _ hs hpc => hacc.backoff hs hpc⟩
  intro hpc
  rw [← hmap]
  exact (hacc.ended hpc).1

/-- A frame with one element. -/
def quoteFrame : String :=
  "[\x7b\"event_type\":\"price_change\",\"asset_id\":\"yes\",\"price\":\"0.55\"\x7d]"

/-- The reference functions, and what a JSON parser makes of `quoteFrame`. -/
def quoteCrates : Crates :=
  { Crates.reference with
    fromStr := fun s =>
      if s = quoteFrame then
        some (.arr [.obj [("event_type", .str "price_change"), ("asset_id", .str "yes"),
          ("price", .str "0.55")]])
      else Crates.reference.fromStr s }

/-- A session in which the frame comes in and its event is converted. -/
def quoteSession : List ManagerLabel := [.start, .frame quoteFrame, .recv, .convert 5]

theorem frames_yield_valid_updates_quote :
    ∃ m, Steps (Manager.Step quoteCrates ⟨1, 60⟩) (.new ["yes"] ∅) quoteSession m ∧
      m.session = [⟨"yes", "", .cents 55, 5⟩] ∧ FrameSpec quoteCrates ∅ ∧
      m.tokenToCondition = ∅ ∧ m.Accounts quoteCrates ∧
      (m.pc = .ended → m.session.map PriceUpdate.untimed
        = m.frames.flatMap (frameUpdates quoteCrates ∅ 0)) ∧
      ∀ m' delay, Manager.Step quoteCrates ⟨1, 60⟩ m .check m' → m'.pc = .backoff delay →
        calculateBackoff ⟨1, 60⟩ (if m.session = [] then m.attempt else 0) = some delay := by
  have hrun : ∃ m, quoteSession.foldlM (Manager.step quoteCrates ⟨1, 60⟩) (.new ["yes"] ∅)
      = some m ∧ m.session = [⟨"yes", "", .cents 55, 5⟩] := ⟨_, rfl, by decide +kernel⟩
  obtain ⟨m, hm, hsession⟩ := hrun
  exact ⟨m, Lib.steps_of_foldlM hm, hsession, frames_yield_valid_updates (Lib.steps_of_foldlM hm)⟩

end PolyNotifier
