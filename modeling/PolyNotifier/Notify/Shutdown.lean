import PolyNotifier.Alert.Prices
import PolyNotifier.Common.Reference
import PolyNotifier.Lib.Channel
import PolyNotifier.Lib.Run
import PolyNotifier.Notify.Service

/-!
# The engine, the notification service, and the token that stops both

`AlertEngine::run` and `NotifyService::run` share a bounded channel and a cancellation token.
Here both are small-step machines over one `State`, and a run is any interleaving of their steps
with the cancellation and with whatever else sends on the channel.

A step of the engine is what happens between two `await`s that matter: a `select!` branch, one
rule of a tick, the send of a notification, the write of a fired alert. The service takes a
request, handles it, or leaves its loop; when it leaves, the receiver is dropped, and what is
queued is never handled. `fired_handled_unless_left` accounts for every firing.
-/

namespace PolyNotifier
namespace Shutdown

open Lib (Channel Steps)
open AlertEngine (TickEnv Firing)

/-! ## States -/

/-- A tick while it is handled: the price before it, the clocks and the database's answers of its
    rules, and the rules still to try. -/
structure Tick where
  update : PriceUpdate
  previous : Option Decimal
  env : TickEnv
  rest : List AlertRule

/-- Where `AlertEngine::run` is. Inside a tick the place is the loop over the rules, with the rules
    that are left; a rule that fires passes through the send and the write, because at both of them
    the other tasks go on and the receiver may be dropped. -/
inductive EnginePc where
  /-- Before the initial refresh. -/
  | starting
  /-- At the head of the loop. -/
  | select
  | rules (t : Tick)
  | sending (t : Tick) (r : AlertRule) (message : String)
  /-- The send is over; `slot` is the place in the channel, if it was accepted. -/
  | persisting (t : Tick) (r : AlertRule) (message : String) (slot : Option Nat)
  /-- Cancelled, before the final flush. -/
  | flushing
  | returned
  | panicked

inductive ServicePc where
  | waiting
  | handling (req : NotificationRequest)
  | returned
  deriving DecidableEq

/-- Both services and all they share. `fired` and `handled` are ghosts, the first with the slot
    each request got in the channel: a slot is a place in the whole history of the channel, so that
    a request can be followed after it has left the queue. -/
structure State where
  engine : AlertEngine
  pc : EnginePc
  channel : Channel NotificationRequest
  /-- The senders of the channel besides the engine's. -/
  senders : Nat
  service : ServicePc
  limiter : RateLimiter
  db : Db
  cancelled : Bool
  /-- The firings that are over, each with its slot. -/
  fired : List (Firing × Option Nat)
  handled : List Handling

/-! ## Steps -/

/-- What a step of the engine is. The answers of the queries, the clocks of a tick and the outcome
    of its writes are in the label: a run is any answers whatever. -/
inductive EngineLabel where
  | cancelled
  | refresh (rows : Option (List AlertRow)) (conditions : Option (List ConditionRow))
  | flush (env : FlushEnv)
  | tick (update : PriceUpdate) (env : TickEnv)
  | lagged
  /-- The price channel is closed. -/
  | closed
  | tryRule
  | send
  | persist
  | finalFlush (env : FlushEnv)

inductive ServiceLabel where
  | cancelled
  | recv
  | handle (env : HandleEnv)
  /-- The notification channel is closed. -/
  | closed

/-- A step of the engine, of the service, of another sender, or the cancellation, which may come at
    any time and reaches both. -/
inductive Label where
  | cancel
  | engine (l : EngineLabel)
  | service (l : ServiceLabel)
  /-- Another sender puts a request on the channel. -/
  | enqueue (req : NotificationRequest)
  | dropSender

section

variable (x : Crates) (cfg : EngineConfig) (bots : BotRegistry)

/-- A branch of the engine's `select!` other than the first. The `select!` is `biased` and has the
    cancellation first, so once the token is cancelled no other branch is taken: that is why an
    update that is still in the price channel is lost then. -/
def branch (s : State) (next : State) : Option State :=
  match s.pc with
  | .select => if s.cancelled then none else some next
  | _ => none

/-- One step of `AlertEngine::run`. The source has one long `async` function for a tick; it is cut
    where the engine waits, at the send and at the write, and between two rules, since what another
    task does in the meantime shows exactly there. The mark comes with the evaluation, before the
    send: a send that fails does not take it back. `send` on a full channel waits (`none`: the step
    cannot be taken), on a closed one it is an error that is logged, and the write comes all the
    same. -/
def engineStep (s : State) : EngineLabel → Option State
  | .cancelled =>
      match s.pc with
      | .select => if s.cancelled then some { s with pc := .flushing } else none
      | _ => none
  | .refresh rows conditions =>
      let engine := s.engine.refreshCache x rows conditions
      match s.pc with
      | .starting => some { s with engine, pc := .select }
      | _ => branch s { s with engine }
  | .flush env => branch s { s with db := s.engine.flushPricesToDb x env s.db }
  | .tick update env =>
      branch s { s with
        engine := { s.engine with
          prevPrices := s.engine.prevPrices.insert update.tokenId update.price }
        pc := .rules ⟨update, s.engine.prevPrices.lookup update.tokenId, env,
          s.engine.rulesOf update.tokenId⟩ }
  | .lagged => branch s s
  | .closed => branch s { s with pc := .returned }
  | .tryRule =>
      match s.pc with
      | .rules ⟨_, _, _, []⟩ => some { s with pc := .select }
      | .rules ⟨update, previous, env, r :: rest⟩ =>
          let t : Tick := ⟨update, previous, env, rest⟩
          if AlertEngine.mayFire cfg env update previous s.engine.dedup r then
            let engine :=
              { s.engine with dedup := s.engine.dedup.markFired (env.mark r.alertId) r.alertId }
            match AlertEngine.formatNotification x r update.price update with
            | none => some { s with engine, pc := .panicked }
            | some message => some { s with engine, pc := .sending t r message }
          else some { s with pc := .rules t }
      | _ => none
  | .send =>
      match s.pc with
      | .sending t r message =>
          -- a full channel makes the engine wait, a closed one an error that is logged
          if s.channel.alive then
            match s.channel.push (AlertEngine.notificationOf r message) with
            | some channel =>
                some { s with
                  channel, pc := .persisting t r message (some s.channel.accepted.length) }
            | none => none
          else some { s with pc := .persisting t r message none }
      | _ => none
  | .persist =>
      match s.pc with
      | .persisting t r message slot =>
          let env : TickEnv := { t.env with sendOk := fun _ => slot.isSome }
          let db :=
            if env.persistOk r.alertId then
              match s.db.recordAlertTriggered (env.persist r.alertId) r.alertId with
              | .ok d => d
              | .error _ => s.db
            else s.db
          some { s with
            db, pc := .rules t
            fired := s.fired ++ [(AlertEngine.firingOf cfg env r message, slot)] }
      | _ => none
  | .finalFlush env =>
      match s.pc with
      | .flushing => some { s with pc := .returned, db := s.engine.flushPricesToDb x env s.db }
      | _ => none

/-- The engine holds its sender until it is gone. -/
def EnginePc.gone : EnginePc → Bool
  | .returned => true
  | .panicked => true
  | _ => false

/-- One step of `NotifyService::run`. Its `select!` is not `biased`: it takes any branch that is
    ready, so a request and the cancellation may both be ready and either may win. Handling a
    request is one step, because nothing the other tasks do can get in between that the service
    would see; leaving drops the receiver, and with it whatever is queued. -/
def serviceStep (s : State) : ServiceLabel → Option State
  | .cancelled =>
      if s.service = .waiting ∧ s.cancelled = true then
        some { s with service := .returned, channel := s.channel.close }
      else none
  | .recv =>
      if s.service = .waiting then
        s.channel.recv.map fun r => { s with service := .handling r.1, channel := r.2 }
      else none
  | .handle env =>
      match s.service with
      | .handling req =>
          let r := NotifyService.handle bots env req s.limiter s.db
          some { s with
            service := .waiting, limiter := r.2.1, db := r.2.2, handled := s.handled ++ [r.1] }
      | _ => none
  | .closed =>
      if s.service = .waiting ∧ s.channel.queue = [] ∧ s.senders = 0 ∧ s.pc.gone = true then
        some { s with service := .returned, channel := s.channel.close }
      else none

def step (s : State) : Label → Option State
  | .cancel => some { s with cancelled := true }
  | .engine l => engineStep x cfg s l
  | .service l => serviceStep bots s l
  | .enqueue req =>
      if 0 < s.senders then (s.channel.push req).map fun channel => { s with channel } else none
  | .dropSender => if 0 < s.senders then some { s with senders := s.senders - 1 } else none

def Step (s : State) (l : Label) (s' : State) : Prop := step x cfg bots s l = some s'

end

/-! ## What a step can do -/

/-- The send whose firing is not over. -/
def EnginePc.pending : EnginePc → List (NotificationRequest × Option Nat)
  | .persisting _ r message slot => [(AlertEngine.notificationOf r message, slot)]
  | _ => []

/-- What the engine has sent, in order: the firings that are over, and the one that is not. -/
def State.sends (s : State) : List (NotificationRequest × Option Nat) :=
  s.fired.map (fun p => (p.1.request, p.2)) ++ s.pc.pending

/-- What a step does to the channel, the service, the sends and the log. The invariant is about
    these four, and most steps touch none of them, so each clause is proved for six effects and not
    for every step of either machine. -/
inductive Effect (s : State) (l : Label) (s' : State) : Prop
  /-- Nothing. -/
  | quiet (hc : s'.channel = s.channel) (hv : s'.service = s.service)
      (hh : s'.handled = s.handled) (hs : s'.sends = s.sends)
      (hl : s'.db.notificationLog = s.db.notificationLog)
  /-- The engine's request, or another one, is accepted. -/
  | accepted (req : NotificationRequest) (hc : s.channel.push req = some s'.channel)
      (hv : s'.service = s.service) (hh : s'.handled = s.handled)
      (hs : s'.sends = s.sends ∨
        s'.sends = s.sends ++ [(req, some s.channel.accepted.length)])
      (hl : s'.db.notificationLog = s.db.notificationLog)
  /-- The engine's request is refused: the receiver is gone. -/
  | refused (req : NotificationRequest) (ha : s.channel.alive = false)
      (hc : s'.channel = s.channel) (hv : s'.service = s.service) (hh : s'.handled = s.handled)
      (hs : s'.sends = s.sends ++ [(req, none)])
      (hl : s'.db.notificationLog = s.db.notificationLog)
  | taken (req : NotificationRequest) (hw : s.service = .waiting)
      (hc : s.channel.recv = some (req, s'.channel)) (hv : s'.service = .handling req)
      (hh : s'.handled = s.handled) (hs : s'.sends = s.sends)
      (hl : s'.db.notificationLog = s.db.notificationLog)
  | handled (req : NotificationRequest) (h : Handling) (hw : s.service = .handling req)
      (hc : s'.channel = s.channel) (hv : s'.service = .waiting)
      (hh : s'.handled = s.handled ++ [h]) (hs : s'.sends = s.sends)
      (hspec : NotifyService.HandleSpec req s.db h s'.db)
  /-- The service leaves its loop: the token is cancelled, or nobody can send any more. -/
  | left (hlabel : l = .service .cancelled ∨ l = .service .closed ∧ s.channel.queue = [])
      (hw : s.service = .waiting) (hc : s'.channel = s.channel.close)
      (hv : s'.service = .returned) (hh : s'.handled = s.handled) (hs : s'.sends = s.sends)
      (hl : s'.db.notificationLog = s.db.notificationLog)

section

variable {x : Crates} {cfg : EngineConfig} {bots : BotRegistry} {s s' : State}

theorem branch_eq_some {next : State} (h : branch s next = some s') :
    s.pc = .select ∧ s' = next := by
  unfold branch at h
  split at h
  · rename_i hpc
    split at h
    · cases h
    · cases h
      exact ⟨hpc, rfl⟩
  · cases h

theorem Effect.silent {l : Label} (hc : s'.channel = s.channel) (hv : s'.service = s.service)
    (hh : s'.handled = s.handled) (hf : s'.fired = s.fired)
    (hp : s'.pc.pending = s.pc.pending)
    (hl : s'.db.notificationLog = s.db.notificationLog) : Effect s l s' :=
  .quiet hc hv hh (by rw [State.sends, State.sends, hf, hp]) hl

theorem effect_engine {l : EngineLabel} (h : engineStep x cfg s l = some s') :
    Effect s (.engine l) s' := by
  cases l with
  | cancelled =>
    simp only [engineStep] at h
    split at h
    · rename_i hpc
      split at h
      · cases h
        exact .silent rfl rfl rfl rfl (by rw [hpc]; rfl) rfl
      · cases h
    · cases h
  | refresh rows conditions =>
    simp only [engineStep] at h
    split at h
    · rename_i hpc
      cases h
      exact .silent rfl rfl rfl rfl (by rw [hpc]; rfl) rfl
    · obtain ⟨hpc, rfl⟩ := branch_eq_some h
      exact .silent rfl rfl rfl rfl rfl rfl
  | flush env =>
    obtain ⟨hpc, rfl⟩ := branch_eq_some h
    exact .silent rfl rfl rfl rfl rfl (AlertEngine.flushPricesToDb_log ..)
  | tick update env =>
    obtain ⟨hpc, rfl⟩ := branch_eq_some h
    exact .silent rfl rfl rfl rfl (by rw [hpc]; rfl) rfl
  | lagged =>
    obtain ⟨hpc, rfl⟩ := branch_eq_some h
    exact .silent rfl rfl rfl rfl rfl rfl
  | closed =>
    obtain ⟨hpc, rfl⟩ := branch_eq_some h
    exact .silent rfl rfl rfl rfl (by rw [hpc]; rfl) rfl
  -- a rule that is tried sends nothing yet, also where it makes the engine panic
  | tryRule =>
    simp only [engineStep] at h
    split at h
    · rename_i hpc
      cases h
      exact .silent rfl rfl rfl rfl (by rw [hpc]; rfl) rfl
    · rename_i hpc
      split at h
      · split at h
        · cases h
          exact .silent rfl rfl rfl rfl (by rw [hpc]; rfl) rfl
        · cases h
          exact .silent rfl rfl rfl rfl (by rw [hpc]; rfl) rfl
      · cases h
        exact .silent rfl rfl rfl rfl (by rw [hpc]; rfl) rfl
    · cases h
  -- the only step of the engine that reaches the channel
  | send =>
    simp only [engineStep] at h
    split at h
    · rename_i t r message hpc
      have hsends : s.sends = s.fired.map fun p => (p.1.request, p.2) := by
        simp [State.sends, hpc, EnginePc.pending]
      split at h
      · split at h
        · rename_i channel hpush
          cases h
          refine .accepted _ hpush rfl rfl (.inr ?_) rfl
          rw [hsends]
          rfl
        · cases h
      · rename_i halive
        cases h
        refine .refused (AlertEngine.notificationOf r message) ?_ rfl rfl rfl ?_ rfl
        · exact Bool.eq_false_iff.mpr halive
        · rw [hsends]
          rfl
    · cases h
  | persist =>
    simp only [engineStep] at h
    split at h
    · rename_i t r message slot hpc
      cases h
      refine .quiet rfl rfl rfl ?_ ?_
      · -- the pending send becomes the last firing
        simp [State.sends, hpc, EnginePc.pending, AlertEngine.firingOf]
      · dsimp only
        split
        · split
          · rename_i h
            exact Db.recordAlertTriggered_log h
          · rfl
        · rfl
    · cases h
  | finalFlush env =>
    simp only [engineStep] at h
    split at h
    · rename_i hpc
      cases h
      exact .silent rfl rfl rfl rfl (by rw [hpc]; rfl) (AlertEngine.flushPricesToDb_log ..)
    · cases h

theorem effect_service {l : ServiceLabel} (h : serviceStep bots s l = some s') :
    Effect s (.service l) s' := by
  cases l with
  | cancelled =>
    simp only [serviceStep] at h
    split at h
    · rename_i hc
      cases h
      exact .left (.inl rfl) hc.1 rfl rfl rfl rfl rfl
    · cases h
  | recv =>
    simp only [serviceStep] at h
    split at h
    · rename_i hw
      obtain ⟨⟨req, channel⟩, hrecv, rfl⟩ := Option.map_eq_some_iff.mp h
      exact .taken req hw hrecv rfl rfl rfl rfl
    · cases h
  -- the request in hand is done, and the specification of the handling says what it left
  | handle env =>
    simp only [serviceStep] at h
    split at h
    · rename_i req hw
      cases h
      exact .handled req _ hw rfl rfl rfl rfl (NotifyService.handle_spec bots env req _ _)
    · cases h
  | closed =>
    simp only [serviceStep] at h
    split at h
    · rename_i hc
      cases h
      exact .left (.inr ⟨rfl, hc.2.1⟩) hc.1 rfl rfl rfl rfl rfl
    · cases h

/-- **Every step has one of these effects.** -/
theorem effect_of_step {l : Label} (h : Step x cfg bots s l s') : Effect s l s' := by
  cases l with
  | cancel =>
    cases h
    exact .quiet rfl rfl rfl rfl rfl
  | engine l => exact effect_engine h
  | service l => exact effect_service h
  | enqueue req =>
    simp only [Step, step] at h
    split at h
    · obtain ⟨channel, hpush, rfl⟩ := Option.map_eq_some_iff.mp h
      exact .accepted req hpush rfl rfl (.inl rfl) rfl
    · cases h
  | dropSender =>
    simp only [Step, step] at h
    split at h
    · cases h
      exact .quiet rfl rfl rfl rfl rfl
    · cases h

end

/-! ## Accounting -/

def ServicePc.inHand : ServicePc → List NotificationRequest
  | .handling req => [req]
  | _ => []

/-- A send is in its slot, or there was no receiver. The slot is a place in all that was ever
    accepted, which only grows, so what is placed once stays placed. -/
def Placed (c : Channel NotificationRequest) (p : NotificationRequest × Option Nat) : Prop :=
  match p.2 with
  | some n => c.accepted[n]? = some p.1
  | none => c.alive = false

/-- What is in the log of a request that was handled; unless a statement failed, a known user was
    served, or the log says not. -/
structure Done (d : Db) (h : Handling) : Prop where
  recorded : h.RecordedIn d
  accounted : h.failed = false → h.userId.isSome = true → h.Accounted

/-- **What every run keeps.** A request that was accepted is in the queue, in the hand of the
    service or handled, in the order of acceptance; and a send that was accepted is the request in
    its slot. Together they follow each firing to the log. -/
structure Inv (s : State) : Prop where
  alive : s.channel.alive = true ↔ s.service ≠ .returned
  taken : s.channel.taken = s.handled.map Handling.request ++ s.service.inHand
  placed : ∀ p ∈ s.sends, Placed s.channel p
  done : ∀ h ∈ s.handled, Done s.db h

/-- Before both services run: a channel with any content, and a token in any state. -/
structure Start (s : State) : Prop where
  pc : s.pc = .starting
  service : s.service = .waiting
  alive : s.channel.alive = true
  taken : s.channel.taken = []
  fired : s.fired = []
  handled : s.handled = []

section

variable {x : Crates} {cfg : EngineConfig} {bots : BotRegistry} {s s' : State} {l : Label}
  {c c' : Channel NotificationRequest} {p : NotificationRequest × Option Nat}

theorem Start.inv (h : Start s) : Inv s where
  alive := by
    rw [h.alive, h.service]
    simp
  taken := by
    rw [h.taken, h.handled, h.service]
    rfl
  placed := by
    intro p hp
    rw [State.sends, h.fired, h.pc] at hp
    cases hp
  done := by
    intro r hr
    rw [h.handled] at hr
    cases hr

theorem Placed.push {req : NotificationRequest} (h : Placed c p) (hc : c.push req = some c') :
    Placed c' p := by
  obtain ⟨req', slot⟩ := p
  cases slot with
  | some n => exact Channel.slot_push_of hc h
  | none =>
    -- a refused send is later than the receiver
    have hdead : c.alive = false := h
    rw [(Channel.push_eq_some hc).1] at hdead
    cases hdead

theorem Placed.recv {req : NotificationRequest} (h : Placed c p) (hc : c.recv = some (req, c')) :
    Placed c' p := by
  obtain ⟨req', slot⟩ := p
  cases slot with
  | some n =>
    show c'.accepted[n]? = some req'
    rw [Channel.accepted_recv hc]
    exact h
  | none =>
    have hdead : c.alive = false := h
    rw [(Channel.recv_eq_some hc).1] at hdead
    cases hdead

theorem Placed.close (h : Placed c p) : Placed c.close p := by
  obtain ⟨req', slot⟩ := p
  cases slot with
  | some n => exact h
  | none => rfl

theorem Done.mono {d d' : Db} {h : Handling} (hd : Done d h)
    (hsub : d.notificationLog.rows ⊆ d'.notificationLog.rows) : Done d' h :=
  ⟨hd.recorded.mono hsub, hd.accounted⟩

theorem Inv.step (hi : Inv s) (h : Step x cfg bots s l s') : Inv s' := by
  have hsame : s'.db.notificationLog = s.db.notificationLog → s'.handled = s.handled →
      ∀ r ∈ s'.handled, Done s'.db r := by
    intro hl hh r hr
    rw [hh] at hr
    exact (hi.done r hr).mono (by rw [hl]; exact List.Subset.refl _)
  cases effect_of_step h with
  | quiet hc hv hh hs hl =>
    refine ⟨?_, ?_, ?_, hsame hl hh⟩
    · rw [hc, hv]
      exact hi.alive
    · rw [hc, hh, hv]
      exact hi.taken
    · rw [hs, hc]
      exact hi.placed
  -- an accepted request has its slot, and the slots before it stay
  | accepted req hc hv hh hs hl =>
    obtain ⟨halive, halive', htaken, _⟩ := Channel.push_eq_some hc
    refine ⟨?_, ?_, ?_, hsame hl hh⟩
    · rw [halive', hv, ← hi.alive, halive]
    · rw [htaken, hh, hv]
      exact hi.taken
    · intro p hp
      rcases hs with hs | hs
      · rw [hs] at hp
        exact (hi.placed p hp).push hc
      · rw [hs, List.mem_append, List.mem_singleton] at hp
        rcases hp with hp | rfl
        · exact (hi.placed p hp).push hc
        · exact Channel.slot_push hc
  -- a request is refused only by a channel whose receiver is gone
  | refused req ha hc hv hh hs hl =>
    refine ⟨?_, ?_, ?_, hsame hl hh⟩
    · rw [hc, hv]
      exact hi.alive
    · rw [hc, hh, hv]
      exact hi.taken
    · intro p hp
      rw [hs, List.mem_append, List.mem_singleton] at hp
      rw [hc]
      rcases hp with hp | rfl
      · exact hi.placed p hp
      · exact ha
  | taken req hw hc hv hh hs hl =>
    obtain ⟨_, halive', htaken, _⟩ := Channel.recv_eq_some hc
    refine ⟨?_, ?_, ?_, hsame hl hh⟩
    · rw [halive', hv]
      simp
    · rw [htaken, hi.taken, hh, hv, hw]
      simp [ServicePc.inHand]
    · intro p hp
      rw [hs] at hp
      exact (hi.placed p hp).recv hc
  | handled req r hw hc hv hh hs hspec =>
    refine ⟨?_, ?_, ?_, ?_⟩
    · rw [hc, hv, hi.alive, hw]
      simp
    · rw [hc, hi.taken, hh, hv, hw, List.map_append]
      simp [ServicePc.inHand, hspec.request]
    · rw [hs, hc]
      exact hi.placed
    · intro r' hr'
      rw [hh, List.mem_append, List.mem_singleton] at hr'
      rcases hr' with hr' | rfl
      · exact (hi.done r' hr').mono hspec.keeps.subset
      · exact ⟨hspec.recorded, hspec.accounted⟩
  -- the service leaves: what is still queued is dropped, what was placed is accounted for
  | left _ hw hc hv hh hs hl =>
    refine ⟨?_, ?_, ?_, hsame hl hh⟩
    · rw [hc, hv]
      simp
    · rw [hc, hh, hv, Channel.close_taken, hi.taken, hw]
      rfl
    · intro p hp
      rw [hs] at hp
      rw [hc]
      exact (hi.placed p hp).close

theorem Inv.steps {es : List Label} (hi : Inv s) (h : Steps (Step x cfg bots) s es s') : Inv s' :=
  h.inv hi fun _ _ _ ha hs => ha.step hs

/-- Once the service has left, the channel and what was handled stay as they are. -/
theorem Step.after_left (hi : Inv s) (hv : s.service = .returned) (h : Step x cfg bots s l s') :
    s'.service = .returned ∧ s'.channel = s.channel ∧ s'.handled = s.handled := by
  cases effect_of_step h with
  | quiet hc hv' hh => exact ⟨hv'.trans hv, hc, hh⟩
  | accepted req hc =>
    exact absurd hv (hi.alive.mp (Channel.push_eq_some hc).1)
  | refused req _ hc hv' hh => exact ⟨hv'.trans hv, hc, hh⟩
  | taken req hw =>
    rw [hv] at hw
    cases hw
  | handled req r hw =>
    rw [hv] at hw
    cases hw
  | left _ hw =>
    rw [hv] at hw
    cases hw

/-- **The service leaves once.** What is in the channel then is what is left in it. -/
theorem left_of_steps {es : List Label} (hi : Inv s) (hv : s.service ≠ .returned)
    (h : Steps (Step x cfg bots) s es s') (hv' : s'.service = .returned) :
    ∃ pre ev post s₁, es = pre ++ ev :: post ∧ Steps (Step x cfg bots) s pre s₁ ∧
      (ev = .service .cancelled ∨ ev = .service .closed ∧ s₁.channel.queue = []) ∧
      s₁.service = .waiting ∧ s'.channel = s₁.channel.close ∧ s'.handled = s₁.handled := by
  induction h with
  | nil => exact absurd hv' hv
  | @snoc es e a b hrun hs ih =>
    by_cases hva : a.service = .returned
    · obtain ⟨_, hc, hh⟩ := hs.after_left (hi.steps hrun) hva
      obtain ⟨pre, ev, post, s₁, rfl, hpre, hev, hw, hc', hh'⟩ := ih hva
      exact ⟨pre, ev, post ++ [e], s₁, by simp, hpre, hev, hw, hc.trans hc', hh.trans hh'⟩
    · cases effect_of_step hs with
      | left hlabel hw hc _ hh =>
        exact ⟨es, e, [], a, rfl, hrun, hlabel, hw, hc, hh⟩
      | quiet _ hvb => exact absurd (hvb.symm.trans hv') hva
      | accepted _ _ hvb => exact absurd (hvb.symm.trans hv') hva
      | refused _ _ _ hvb => exact absurd (hvb.symm.trans hv') hva
      | taken _ _ _ hvb =>
        rw [hvb] at hv'
        cases hv'
      | handled _ _ _ _ hvb =>
        rw [hvb] at hv'
        cases hv'

/-- **Every firing is accounted for.** When the service has returned, it has handled what the
    channel accepted, in that order and up to what was queued when it left. The request of a
    firing was handled, or it was in the channel then, or it was sent after that. -/
theorem fired_handled_unless_left {es : List Label} (hstart : Start s)
    (h : Steps (Step x cfg bots) s es s') (hservice : s'.service = .returned) :
    ∃ pre ev post s₁, es = pre ++ ev :: post ∧ Steps (Step x cfg bots) s pre s₁ ∧
      (ev = .service .cancelled ∨ ev = .service .closed ∧ s₁.channel.queue = []) ∧
      s'.channel.accepted = s'.handled.map Handling.request ++ s₁.channel.queue ∧
      ∀ f slot, (f, slot) ∈ s'.fired →
        (∃ n r, slot = some n ∧ s'.handled[n]? = some r ∧ r.request = f.request ∧
          Done s'.db r) ∨
        (∃ k, slot = some (s'.handled.length + k) ∧ s₁.channel.queue[k]? = some f.request) ∨
        (slot = none ∧ ∀ p ∈ s₁.fired, p.2 ≠ none) := by
  have hinv := hstart.inv.steps h
  obtain ⟨pre, ev, post, s₁, hes, hpre, hev, hw, hc, hh⟩ :=
    left_of_steps hstart.inv (by simp [hstart.service]) h hservice
  have htaken : s'.channel.taken = s'.handled.map Handling.request := by
    rw [hinv.taken, hservice]
    exact List.append_nil _
  have haccepted : s'.channel.accepted = s'.handled.map Handling.request ++ s₁.channel.queue := by
    rw [Channel.accepted, htaken, hc, Channel.close_queue]
  refine ⟨pre, ev, post, s₁, hes, hpre, hev, haccepted, ?_⟩
  intro f slot hf
  have hplaced : Placed s'.channel (f.request, slot) := by
    apply hinv.placed
    exact List.mem_append_left _ (List.mem_map.mpr ⟨(f, slot), hf, rfl⟩)
  cases slot with
  | none =>
    -- while the service was there, no send was refused
    refine .inr (.inr ⟨rfl, fun p hp hnone => ?_⟩)
    have hinv₁ := hstart.inv.steps hpre
    have hp' : Placed s₁.channel (p.1.request, p.2) := by
      apply hinv₁.placed
      exact List.mem_append_left _ (List.mem_map.mpr ⟨p, hp, rfl⟩)
    rw [hnone] at hp'
    have hdead : s₁.channel.alive = false := hp'
    rw [hinv₁.alive.mpr (by simp [hw])] at hdead
    cases hdead
  | some n =>
    rcases Channel.slot_cases hplaced with ht | ⟨k, hk, hq⟩
    · rw [htaken, List.getElem?_map] at ht
      obtain ⟨r, hr, hreq⟩ := Option.map_eq_some_iff.mp ht
      exact .inl ⟨n, r, rfl, hr, hreq, hinv.done r (List.mem_of_getElem? hr)⟩
    · rw [htaken, List.length_map] at hk
      rw [hc, Channel.close_queue] at hq
      exact .inr (.inl ⟨k, congrArg some hk, hq⟩)

end

/-! ## Runs that lose a notification -/

/-- Every persisted firing has been handled: delivered, or logged as undelivered. -/
def AllHandled (s : State) : Prop :=
  ∀ f slot, (f, slot) ∈ s.fired → f.persistedAt.isSome = true →
    ∃ n r, slot = some n ∧ s.handled[n]? = some r ∧ r.request = f.request ∧ r.Accounted

/-- The sample database, an empty channel, and a bot that answers. -/
def sampleState : State where
  engine := AlertEngine.new
  pc := .starting
  channel := ⟨1024, [], [], true, Nat.zero_le _⟩
  senders := 1
  service := .waiting
  limiter := RateLimiter.new 20
  db := Db.sampleDb
  cancelled := false
  fired := []
  handled := []

theorem sampleState_start : Start sampleState := ⟨rfl, rfl, rfl, rfl, rfl, rfl⟩

/-- User 7 waits for at least 75%, and the market is at 75%. -/
def fireOnce : List Label :=
  [.engine (.refresh (Db.sampleDb.fetchAlertRows []).toOption (some [])),
    .engine (.tick ⟨"yes", "0xc", .cents 75, 0⟩
      ⟨fun _ => 0, fun _ => 0, fun _ => 0, fun _ => true, fun _ => true⟩),
    .engine .tryRule, .engine .send, .engine .persist]

/-- The engine ends its tick and leaves. -/
def engineLeaves : List Label :=
  [.engine .tryRule, .engine .cancelled, .engine (.finalFlush ⟨[], fun _ => 0, fun _ => true⟩)]

/-- The service sees the cancellation before it sees the request. -/
def leftBehind : List Label := fireOnce ++ [.cancel, .service .cancelled] ++ engineLeaves

/-- The service takes the request, and the database does not answer. -/
def notLookedUp : List Label :=
  fireOnce ++ [.service .recv, .service (.handle ⟨false, 0, 0, fun _ => none, true, 0⟩), .cancel,
    .service .cancelled] ++ engineLeaves

/-- What is seen of a state: whether the engine has returned, the service, the slots of the
    persisted firings, and for each request that was handled whether it is accounted for. -/
def view (s : State) : Bool × ServicePc × List (Option Nat) × List Bool :=
  (match s.pc with
    | .returned => true
    | _ => false,
    s.service, (s.fired.filter fun p => p.1.persistedAt.isSome).map Prod.snd,
    s.handled.map fun h => h.delivered || (h.logged.map Prod.fst) == some false)

abbrev sampleStep : State → Label → State → Prop := Step Crates.reference ⟨60⟩ .sample

theorem run_of_view {es : List Label} {v : Bool × ServicePc × List (Option Nat) × List Bool}
    (h : (es.foldlM (step Crates.reference ⟨60⟩ .sample) sampleState).map view = some v) :
    ∃ s, Steps sampleStep sampleState es s ∧ view s = v := by
  obtain ⟨s, hs, hv⟩ := Option.map_eq_some_iff.mp h
  exact ⟨s, Lib.steps_of_foldlM hs, hv⟩

theorem leftBehind_run : ∃ s, Steps sampleStep sampleState leftBehind s ∧
    view s = (true, .returned, [some 0], []) := run_of_view (by decide +kernel)

theorem notLookedUp_run : ∃ s, Steps sampleStep sampleState notLookedUp s ∧
    view s = (true, .returned, [some 0], [false]) := run_of_view (by decide +kernel)

theorem returned_of_view {s : State} {slots : List (Option Nat)} {bs : List Bool}
    (h : view s = (true, .returned, slots, bs)) : s.pc = .returned ∧ s.service = .returned := by
  unfold view at h
  obtain ⟨hpc, hrest⟩ := Prod.mk.inj h
  refine ⟨?_, (Prod.mk.inj hrest).1⟩
  split at hpc
  · assumption
  · cases hpc

/-- A persisted firing with a slot, and no request that is accounted for. -/
theorem not_allHandled_of_view {s : State} {v : ServicePc} {engine : Bool} {bs : List Bool}
    (h : view s = (engine, v, [some 0], bs)) (hbs : ∀ b ∈ bs, b = false) : ¬ AllHandled s := by
  intro hall
  unfold view at h
  obtain ⟨_, hrest⟩ := Prod.mk.inj h
  obtain ⟨_, hrest⟩ := Prod.mk.inj hrest
  obtain ⟨hslots, hhandled⟩ := Prod.mk.inj hrest
  have hmem : some 0 ∈ (s.fired.filter fun p => p.1.persistedAt.isSome).map Prod.snd := by
    rw [hslots]
    exact List.mem_singleton_self _
  obtain ⟨⟨f, slot⟩, hf, _⟩ := List.mem_map.mp hmem
  obtain ⟨hfired, hpersisted⟩ := List.mem_filter.mp hf
  obtain ⟨n, r, _, hr, _, hacc⟩ := hall f slot hfired hpersisted
  have hfalse : (r.delivered || (r.logged.map Prod.fst) == some false) = false := by
    apply hbs
    rw [← hhandled]
    exact List.mem_map.mpr ⟨r, List.mem_of_getElem? hr, rfl⟩
  rcases hacc with hdel | ⟨error, hlog⟩
  · simp [hdel] at hfalse
  · simp [hlog] at hfalse

/-- The request of the first run was in the channel when the service left. -/
theorem fired_handled_unless_left_behind :
    ∃ s pre s₁ f k, Steps sampleStep sampleState leftBehind s ∧
      Steps sampleStep sampleState pre s₁ ∧ (f, some k) ∈ s.fired ∧
      s₁.channel.queue[k]? = some f.request := by
  obtain ⟨s, hrun, hview⟩ := leftBehind_run
  obtain ⟨pre, ev, post, s₁, _, hpre, _, _, hacc⟩ :=
    fired_handled_unless_left sampleState_start hrun (returned_of_view hview).2
  unfold view at hview
  obtain ⟨_, hrest⟩ := Prod.mk.inj hview
  obtain ⟨_, hrest⟩ := Prod.mk.inj hrest
  obtain ⟨hslots, hhandled⟩ := Prod.mk.inj hrest
  have hnone : s.handled = [] := List.map_eq_nil_iff.mp hhandled
  have hmem : some 0 ∈ (s.fired.filter fun p => p.1.persistedAt.isSome).map Prod.snd := by
    rw [hslots]
    exact List.mem_singleton_self _
  obtain ⟨⟨f, slot⟩, hf, rfl⟩ := List.mem_map.mp hmem
  have hfired := (List.mem_filter.mp hf).1
  rcases hacc f _ hfired with ⟨n, r, _, hr, _⟩ | ⟨k, hk, hq⟩ | ⟨hnot, _⟩
  · rw [hnone] at hr
    cases hr
  · rw [hnone, List.length_nil, Nat.zero_add] at hk
    exact ⟨s, pre, s₁, f, k, hrun, hpre, hk ▸ hfired, hq⟩
  · cases hnot

/-- **A notification is lost at shutdown**: it is still queued when the service leaves, or it was
    taken while the database was away. Both runs end with the engine and the service returned, so
    nobody is left to handle it. -/
theorem shutdown_loses_notification :
    Start sampleState ∧
      (∃ s, Steps sampleStep sampleState leftBehind s ∧ s.pc = .returned ∧
        s.service = .returned ∧ ¬ AllHandled s) ∧
      ∃ s, Steps sampleStep sampleState notLookedUp s ∧ s.pc = .returned ∧
        s.service = .returned ∧ ¬ AllHandled s := by
  refine ⟨sampleState_start, ?_, ?_⟩
  · obtain ⟨s, hrun, hview⟩ := leftBehind_run
    obtain ⟨hpc, hservice⟩ := returned_of_view hview
    exact ⟨s, hrun, hpc, hservice, not_allHandled_of_view hview (by simp)⟩
  · obtain ⟨s, hrun, hview⟩ := notLookedUp_run
    obtain ⟨hpc, hservice⟩ := returned_of_view hview
    exact ⟨s, hrun, hpc, hservice, not_allHandled_of_view hview (by simp)⟩

end Shutdown
end PolyNotifier
