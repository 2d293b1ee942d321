import Mathlib.Data.List.Infix
import PolyNotifier.Lib.Run
import PolyNotifier.Polymarket.Ws

/-!
# The WebSocket client

`PolymarketWs::run` as a machine, one step for each `await` and for each event it forwards. It
connects, subscribes, and then does what comes first: the cancellation, the next ping, the next
message. What the server and the network do is in the label of a step. A task remembers what it
has read, written and forwarded; `Law` is what these three have to do with each other.
-/

namespace PolyNotifier

open Lib (Json)

/-! ## Messages -/

/-- `tungstenite::Message`; what the client ignores is one case. -/
inductive WsMessage where
  | text (s : String)
  | ping (data : List UInt8)
  | pong (data : List UInt8)
  | close
  | other
  deriving DecidableEq

namespace WsMessage

def asText : WsMessage → Option String
  | .text s => some s
  | _ => none

def asPing : WsMessage → Option (List UInt8)
  | .ping data => some data
  | _ => none

def asPong : WsMessage → Option (List UInt8)
  | .pong data => some data
  | _ => none

/-- A message that keeps the connection alive. -/
def KeepsAlive : WsMessage → Prop
  | .ping data => data = []
  | .pong _ => True
  | _ => False

end WsMessage

/-- `build_subscribe_message`; the fields of a JSON object are written in their order. -/
def buildSubscribeMessage (x : Crates) (tokenIds : List String) : String :=
  x.toString (.obj [("assets_ids", .strings tokenIds), ("type", .str "market")])

/-! ## The machine -/

/-- Where `PolymarketWs::run` is. A frame is worked off between two reads of the stream, so what is
    left of it, the events to forward or the ping to answer, is part of the place. -/
inductive WsPc where
  | connecting
  | subscribing
  /-- At the `select!`. -/
  | select
  | pinging
  /-- In the loop over the events of a frame. -/
  | forwarding (rest : List WsEvent)
  | ponging (data : List UInt8)
  | closing
  | returned
  deriving DecidableEq

namespace WsPc

/-- The events of the frame that are not forwarded yet. -/
def pending : WsPc → List WsEvent
  | .forwarding rest => rest
  | _ => []

/-- The ping that is not answered yet. -/
def owed : WsPc → List (List UInt8)
  | .ponging data => [data]
  | _ => []

/-- The task waits: it can be aborted here. -/
def awaits : WsPc → Bool
  | .forwarding _ => false
  | .returned => false
  | _ => true

/-- It has not subscribed yet. -/
def opening : WsPc → Bool
  | .connecting => true
  | .subscribing => true
  | _ => false

end WsPc

/-- The task and what has gone over its connection. `read`, `written` and `forwarded` are whole
    histories, because the law of the task is about their order: which message comes after which,
    and what is a prefix of what. -/
structure WsTask where
  tokenIds : List String
  pc : WsPc
  read : List WsMessage
  written : List WsMessage
  forwarded : List WsEvent

/-- What the task does or sees next. `ok` is the answer of the socket to a write, which decides
    where the task goes on. -/
inductive WsLabel where
  | connect (ok : Bool)
  | subscribe (ok : Bool)
  | cancelled
  | tick
  | ping (ok : Bool)
  /-- `read.next()`; `none`: the stream is closed, or reading fails. -/
  | next (msg : Option WsMessage)
  | forward
  | pong (ok : Bool)
  | close (ok : Bool)
  | abort

/-- The text frame a step reads. -/
def WsLabel.text : WsLabel → Option String
  | .next (some msg) => msg.asText
  | _ => none

namespace WsTask

def new (tokenIds : List String) : WsTask := ⟨tokenIds, .connecting, [], [], []⟩

/-- The text frames that have come in. -/
def texts (t : WsTask) : List String := t.read.filterMap WsMessage.asText

/-- The task writes a message and goes on. -/
def write (t : WsTask) (msg : WsMessage) (pc : WsPc) : WsTask :=
  { t with pc, written := t.written ++ [msg] }

section

variable (x : Crates)

/-- What a message is answered with. -/
def onMessage : WsMessage → WsPc
  | .text s => .forwarding (parseWsMessage x s)
  | .ping data => .ponging data
  | .close => .returned
  | _ => .select

variable (cancelled listening : Bool)

/-- One step of `PolymarketWs::run`. `listening`: the receiver of the events has not been dropped.
    What the server sends is in the label, so a run is any behaviour of the server; a read that
    fails, a close frame and the end of the stream all leave the loop, and only the cancellation
    writes a close before it does. -/
def step (t : WsTask) : WsLabel → Option WsTask
  | .connect ok =>
      match t.pc with
      | .connecting => some { t with pc := if ok then .subscribing else .returned }
      | _ => none
  | .subscribe ok =>
      match t.pc with
      | .subscribing =>
          if ok then some (t.write (.text (buildSubscribeMessage x t.tokenIds)) .select)
          else some { t with pc := .returned }
      | _ => none
  | .cancelled =>
      match t.pc with
      | .select => if cancelled then some { t with pc := .closing } else none
      | _ => none
  | .tick =>
      -- the `select!` is biased: not once the token is cancelled
      match t.pc with
      | .select => if cancelled then none else some { t with pc := .pinging }
      | _ => none
  | .ping ok =>
      match t.pc with
      | .pinging =>
          if ok then some (t.write (.ping []) .select) else some { t with pc := .returned }
      | _ => none
  | .next msg =>
      match t.pc with
      | .select =>
          if cancelled then none
          else
            match msg with
            | none => some { t with pc := .returned }
            | some msg => some { t with pc := onMessage x msg, read := t.read ++ [msg] }
      | _ => none
  | .forward =>
      match t.pc with
      | .forwarding [] => some { t with pc := .select }
      | .forwarding (event :: rest) =>
          if listening then
            some { t with pc := .forwarding rest, forwarded := t.forwarded ++ [event] }
          else some { t with pc := .returned }
      | _ => none
  | .pong ok =>
      match t.pc with
      | .ponging data =>
          -- nobody looks whether a pong is sent
          if ok then some (t.write (.pong data) .select) else some { t with pc := .select }
      | _ => none
  | .close ok =>
      match t.pc with
      | .closing =>
          if ok then some (t.write .close .returned) else some { t with pc := .returned }
      | _ => none
  | .abort => if t.pc.awaits then some { t with pc := .returned } else none

/-! ## What a step can do -/

/-- What a step does, with what it has seen. All the ways to end are one case, `ends`: they leave
    nothing pending that somebody still listens for, and read nothing. -/
inductive Move (t : WsTask) : WsLabel → WsTask → Prop
  | connects (pc : t.pc = .connecting) : Move t (.connect true) { t with pc := .subscribing }
  | subscribes (pc : t.pc = .subscribing) :
      Move t (.subscribe true) (t.write (.text (buildSubscribeMessage x t.tokenIds)) .select)
  | closes (pc : t.pc = .select) : Move t .cancelled { t with pc := .closing }
  | ticks (pc : t.pc = .select) : Move t .tick { t with pc := .pinging }
  | pings (pc : t.pc = .pinging) : Move t (.ping true) (t.write (.ping []) .select)
  | hears {msg : WsMessage} (pc : t.pc = .select) (live : cancelled = false) :
      Move t (.next (some msg)) { t with pc := onMessage x msg, read := t.read ++ [msg] }
  | finishes (pc : t.pc = .forwarding []) : Move t .forward { t with pc := .select }
  | forwards {event : WsEvent} {rest : List WsEvent} (pc : t.pc = .forwarding (event :: rest))
      (listens : listening = true) :
      Move t .forward { t with
        pc := .forwarding rest, forwarded := t.forwarded ++ [event] }
  | pongs {data : List UInt8} (pc : t.pc = .ponging data) :
      Move t (.pong true) (t.write (.pong data) .select)
  | forgets {data : List UInt8} (pc : t.pc = .ponging data) :
      Move t (.pong false) { t with pc := .select }
  | leaves (pc : t.pc = .closing) : Move t (.close true) (t.write .close .returned)
  /-- It fails, is aborted, or its receiver is gone. -/
  | ends {l : WsLabel} (live : t.pc ≠ .returned) (held : t.pc.pending = [] ∨ listening = false)
      (quiet : ∀ msg, l ≠ .next (some msg)) : Move t l { t with pc := .returned }

variable {x cancelled listening} {t t' : WsTask} {l : WsLabel}

theorem Move.ends_at {pc : WsPc} (hpc : t.pc = pc) (hlive : pc ≠ .returned)
    (hheld : pc.pending = [] ∨ listening = false) (hquiet : ∀ msg, l ≠ .next (some msg)) :
    Move x cancelled listening t l { t with pc := .returned } :=
  .ends (by rw [hpc]; exact hlive) (by rw [hpc]; exact hheld) hquiet

/-- **Every step is one of these.** -/
theorem step_cases (h : t.step x cancelled listening l = some t') :
    Move x cancelled listening t l t' := by
  unfold step at h
  cases l with
  | connect ok =>
    dsimp only at h
    split at h <;> cases h
    rename_i hpc
    cases ok with
    | true => exact .connects hpc
    | false => exact .ends_at hpc nofun (.inl rfl) nofun
  | subscribe ok =>
    dsimp only at h
    split at h
    · rename_i hpc
      cases ok with
      | true =>
        cases h
        exact .subscribes hpc
      | false =>
        cases h
        exact .ends_at hpc nofun (.inl rfl) nofun
    · cases h
  | cancelled =>
    dsimp only at h
    split at h
    · rename_i hpc
      split at h <;> cases h
      exact .closes hpc
    · cases h
  | tick =>
    dsimp only at h
    split at h
    · rename_i hpc
      split at h <;> cases h
      exact .ticks hpc
    · cases h
  | ping ok =>
    dsimp only at h
    split at h
    · rename_i hpc
      cases ok with
      | true =>
        cases h
        exact .pings hpc
      | false =>
        cases h
        exact .ends_at hpc nofun (.inl rfl) nofun
    · cases h
  -- a message that is none ends the loop, any other is handled by its kind
  | next msg =>
    dsimp only at h
    split at h
    · rename_i hpc
      split at h
      · cases h
      · rename_i hlive
        cases msg with
        | none =>
          cases h
          exact .ends_at hpc nofun (.inl rfl) nofun
        | some msg =>
          cases h
          exact .hears hpc (Bool.eq_false_of_not_eq_true hlive)
    · cases h
  -- the forwarding of one message is several sends, and a dropped receiver ends it between two
  | forward =>
    dsimp only at h
    split at h
    · rename_i hpc
      cases h
      exact .finishes hpc
    · rename_i hpc
      split at h
      · rename_i hlistens
        cases h
        exact .forwards hpc hlistens
      · rename_i hdeaf
        cases h
        exact .ends_at hpc nofun (.inr (Bool.eq_false_of_not_eq_true hdeaf)) nofun
    · cases h
  | pong ok =>
    dsimp only at h
    split at h
    · rename_i hpc
      cases ok with
      | true =>
        cases h
        exact .pongs hpc
      | false =>
        cases h
        exact .forgets hpc
    · cases h
  | close ok =>
    dsimp only at h
    split at h
    · rename_i hpc
      cases ok with
      | true =>
        cases h
        exact .leaves hpc
      | false =>
        cases h
        exact .ends_at hpc nofun (.inl rfl) nofun
    · cases h
  -- an abort takes effect at an await, so not while a batch is being forwarded
  | abort =>
    dsimp only at h
    split at h <;> cases h
    rename_i hawaits
    cases hpc : t.pc with
    | forwarding rest =>
      rw [hpc] at hawaits
      cases hawaits
    | returned =>
      rw [hpc] at hawaits
      cases hawaits
    | _ => exact .ends_at hpc nofun (.inl rfl) nofun

/-! ## The law of the client -/

theorem filterMap_snoc {α β : Type} (f : α → Option β) (as : List α) (a : α) :
    (as ++ [a]).filterMap f = as.filterMap f ++ (f a).toList := by
  rw [List.filterMap_append]
  cases ha : f a with
  | none => rw [List.filterMap_cons_none ha]; rfl
  | some b => rw [List.filterMap_cons_some ha]; rfl

variable (x) in
/-- What the client writes: nothing before it subscribes, then what keeps the connection alive, and
    at most a close at the very end. -/
structure Speaks (t : WsTask) (kept : List WsMessage) : Prop where
  keeps : ∀ msg ∈ kept, msg.KeepsAlive
  opening : t.pc.opening = true → t.written = [] ∧ t.read = [] ∧ kept = []
  talking : t.pc.opening = false → t.pc ≠ .returned →
    t.written = .text (buildSubscribeMessage x t.tokenIds) :: kept
  returned : t.pc = .returned → (t.written = [] ∧ t.read = []) ∨
    t.written = .text (buildSubscribeMessage x t.tokenIds) :: kept ∨
    t.written = .text (buildSubscribeMessage x t.tokenIds) :: (kept ++ [.close])

variable (x) in
/-- **What the task has read, written and forwarded.** The first clause fixes what may be written
    and in which order, the others tie what was written and forwarded to what was read; none of
    them looks at the place of the code except to say what is still owed there. -/
structure Law (t : WsTask) : Prop where
  speaks : ∃ kept, Speaks x t kept
  /-- Pongs answer pings, in order, with their data. -/
  answers : (t.written.filterMap WsMessage.asPong ++ t.pc.owed).Sublist
    (t.read.filterMap WsMessage.asPing)
  /-- Nothing is lost while the task runs. -/
  balance : t.pc ≠ .returned →
    t.forwarded ++ t.pc.pending = t.texts.flatMap (parseWsMessage x)
  forwarded : t.forwarded <+: t.texts.flatMap (parseWsMessage x)

theorem law_new (tokenIds : List String) : Law x (new tokenIds) where
  speaks := ⟨[], nofun, fun _ => ⟨rfl, rfl, rfl⟩, nofun, nofun⟩
  answers := .slnil
  balance _ := rfl
  forwarded := List.prefix_refl _

/-- The task goes on, or ends, and has said nothing more. -/
theorem Law.moves (h : Law x t) {before pc : WsPc} (hpc : t.pc = before)
    (hlive : before ≠ .returned) (hopening : pc = .returned ∨ pc.opening = before.opening)
    (howed : pc.owed.Sublist before.owed)
    (hpending : pc = .returned ∨ pc.pending = before.pending) : Law x { t with pc } := by
  subst hpc
  obtain ⟨kept, hkept⟩ := h.speaks
  refine ⟨⟨kept, hkept.keeps, fun ho => ?_, fun ho hr => ?_, fun _ => ?_⟩, ?_, fun hr => ?_,
    h.forwarded⟩
  · rcases hopening with rfl | heq
    · cases ho
    · exact hkept.opening (heq ▸ ho)
  · exact hkept.talking ((hopening.resolve_left hr) ▸ ho) hlive
  · cases hopen : t.pc.opening with
    | true =>
      obtain ⟨hwritten, hread, _⟩ := hkept.opening hopen
      exact .inl ⟨hwritten, hread⟩
    | false => exact .inr (.inl (hkept.talking hopen hlive))
  · exact ((List.Sublist.refl _).append howed).trans h.answers
  · dsimp only
    rw [hpending.resolve_left hr]
    exact h.balance hlive

theorem Law.subscribes (h : Law x t) (hpc : t.pc = .subscribing) :
    Law x (t.write (.text (buildSubscribeMessage x t.tokenIds)) .select) := by
  obtain ⟨kept, hkept⟩ := h.speaks
  obtain ⟨hwritten, hread, rfl⟩ := hkept.opening (by rw [hpc]; rfl)
  refine ⟨⟨[], nofun, nofun, fun _ _ => ?_, nofun⟩, ?_, fun _ => ?_, h.forwarded⟩
  · show t.written ++ _ = _
    rw [hwritten]
    rfl
  · show ((t.written ++ [WsMessage.text _]).filterMap WsMessage.asPong ++ []).Sublist _
    rw [hwritten]
    exact List.nil_sublist _
  · have hbalance := h.balance (by rw [hpc]; nofun)
    rw [hpc] at hbalance
    exact hbalance

/-- A message that keeps the connection alive is written. -/
theorem Law.keeps (h : Law x t) {msg : WsMessage} (hmsg : msg.KeepsAlive) {before : WsPc}
    (hpc : t.pc = before) (hlive : before ≠ .returned) (htalks : before.opening = false)
    (howed : msg.asPong.toList.Sublist before.owed) (hpending : before.pending = []) :
    Law x (t.write msg .select) := by
  subst hpc
  obtain ⟨kept, hkept⟩ := h.speaks
  refine ⟨⟨kept ++ [msg], fun m hm => ?_, nofun, fun _ _ => ?_, nofun⟩, ?_, fun _ => ?_,
    h.forwarded⟩
  · rw [List.mem_append, List.mem_singleton] at hm
    rcases hm with hm | rfl
    · exact hkept.keeps m hm
    · exact hmsg
  · show t.written ++ [msg] = _
    rw [hkept.talking htalks hlive]
    rfl
  · show ((t.written ++ [msg]).filterMap WsMessage.asPong ++ []).Sublist _
    rw [filterMap_snoc, List.append_nil]
    exact ((List.Sublist.refl _).append howed).trans h.answers
  · have hbalance := h.balance hlive
    rw [hpending] at hbalance
    exact hbalance

theorem Law.leaves (h : Law x t) (hpc : t.pc = .closing) : Law x (t.write .close .returned) := by
  obtain ⟨kept, hkept⟩ := h.speaks
  have hlive : t.pc ≠ .returned := by rw [hpc]; nofun
  have htalks : t.pc.opening = false := by rw [hpc]; rfl
  refine ⟨⟨kept, hkept.keeps, nofun, fun _ hr => absurd rfl hr, fun _ => .inr (.inr ?_)⟩, ?_,
    fun hr => absurd rfl hr, h.forwarded⟩
  · show t.written ++ [WsMessage.close] = _
    rw [hkept.talking htalks hlive]
    rfl
  · have hanswers := h.answers
    rw [hpc] at hanswers
    show ((t.written ++ [WsMessage.close]).filterMap WsMessage.asPong ++ []).Sublist _
    rw [filterMap_snoc, List.append_nil]
    exact hanswers

theorem Law.forwards (h : Law x t) {event : WsEvent} {rest : List WsEvent}
    (hpc : t.pc = .forwarding (event :: rest)) :
    Law x { t with pc := .forwarding rest, forwarded := t.forwarded ++ [event] } := by
  obtain ⟨kept, hkept⟩ := h.speaks
  have hlive : t.pc ≠ .returned := by rw [hpc]; nofun
  have hanswers := h.answers
  have hbalance := h.balance hlive
  rw [hpc] at hanswers hbalance
  have hmoved : t.forwarded ++ [event] ++ rest = t.texts.flatMap (parseWsMessage x) := by
    rw [← hbalance, List.append_assoc]
    rfl
  refine ⟨⟨kept, hkept.keeps, nofun, fun _ _ => hkept.talking (by rw [hpc]; rfl) hlive, nofun⟩,
    hanswers, fun _ => hmoved, ?_⟩
  exact ⟨rest, hmoved⟩

theorem owed_onMessage (x : Crates) (msg : WsMessage) :
    (onMessage x msg).owed = msg.asPing.toList := by
  cases msg <;> rfl

theorem pending_onMessage (x : Crates) (msg : WsMessage) :
    (onMessage x msg).pending = msg.asText.toList.flatMap (parseWsMessage x) := by
  cases msg with
  | text s => exact (List.append_nil _).symm
  | _ => rfl

theorem Law.hears (h : Law x t) (hpc : t.pc = .select) (msg : WsMessage) :
    Law x { t with pc := onMessage x msg, read := t.read ++ [msg] } := by
  have hlive : t.pc ≠ .returned := by rw [hpc]; nofun
  have htalks : t.pc.opening = false := by rw [hpc]; rfl
  have howed : t.pc.owed = [] := by rw [hpc]; rfl
  have hpending : t.pc.pending = [] := by rw [hpc]; rfl
  have hbalance := h.balance hlive
  rw [hpending, List.append_nil] at hbalance
  have htexts : ({ t with pc := onMessage x msg, read := t.read ++ [msg] } : WsTask).texts =
      t.texts ++ msg.asText.toList := filterMap_snoc _ _ _
  refine ⟨?_, ?_, fun _ => ?_, ?_⟩
  · obtain ⟨kept, hkept⟩ := h.speaks
    have hwritten := hkept.talking htalks hlive
    refine ⟨kept, hkept.keeps, fun ho => ?_, fun _ _ => hwritten, fun _ => .inr (.inl hwritten)⟩
    cases msg <;> cases ho
  · have hanswers := h.answers
    rw [howed, List.append_nil] at hanswers
    dsimp only
    rw [owed_onMessage, filterMap_snoc]
    exact hanswers.append (List.Sublist.refl _)
  · rw [htexts, List.flatMap_append, ← hbalance, ← pending_onMessage]
  · rw [htexts, List.flatMap_append, ← hbalance]
    exact List.prefix_append _ _

/-- **Every step keeps the law.** -/
theorem Law.step (h : Law x t) (hs : t.step x cancelled listening l = some t') : Law x t' := by
  cases step_cases hs with
  | connects hpc => exact h.moves hpc nofun (.inr rfl) .slnil (.inr rfl)
  | subscribes hpc => exact h.subscribes hpc
  | closes hpc => exact h.moves hpc nofun (.inr rfl) .slnil (.inr rfl)
  | ticks hpc => exact h.moves hpc nofun (.inr rfl) .slnil (.inr rfl)
  | pings hpc => exact h.keeps (Eq.refl []) hpc nofun rfl .slnil rfl
  | hears hpc => exact h.hears hpc _
  | finishes hpc => exact h.moves hpc nofun (.inr rfl) .slnil (.inr rfl)
  | forwards hpc => exact h.forwards hpc
  | pongs hpc => exact h.keeps trivial hpc nofun rfl (List.Sublist.refl _) rfl
  | forgets hpc => exact h.moves hpc nofun (.inr rfl) (List.nil_sublist _) (.inr rfl)
  | leaves hpc => exact h.leaves hpc
  | ends hlive => exact h.moves rfl hlive (.inl rfl) (List.nil_sublist _) (.inl rfl)

/-- What comes in on a text frame is pending until it is forwarded; only a receiver that is gone
    makes a task drop it. -/
structure Passes (x : Crates) (listening : Bool) (t : WsTask) (l : WsLabel) (t' : WsTask) :
    Prop where
  live : t.pc ≠ .returned
  tokenIds : t'.tokenIds = t.tokenIds
  texts : t'.texts = t.texts ++ l.text.toList
  goesOn : l.text ≠ none → t'.pc ≠ .returned
  grows : t.forwarded <+: t'.forwarded
  balance : listening = true → t.forwarded ++ t.pc.pending ++
    l.text.toList.flatMap (parseWsMessage x) = t'.forwarded ++ t'.pc.pending

/-- A step that reads nothing and forwards nothing. -/
theorem Passes.silent {pc : WsPc} {written : List WsMessage} (hlive : t.pc ≠ .returned)
    (htext : l.text = none) (hpending : listening = true → t.pc.pending = pc.pending) :
    Passes x listening t l { t with pc, written } where
  live := hlive
  tokenIds := rfl
  texts := by
    rw [htext]
    exact (List.append_nil _).symm
  goesOn hne := absurd htext hne
  grows := List.prefix_refl _
  balance hlistens := by
    rw [htext, hpending hlistens]
    exact List.append_nil _

theorem passes_step (h : t.step x cancelled listening l = some t') :
    Passes x listening t l t' := by
  have hat : ∀ {pc : WsPc}, t.pc = pc → pc ≠ .returned → t.pc ≠ .returned :=
    fun hpc hne => by rw [hpc]; exact hne
  cases step_cases h with
  -- a text becomes the events that are pending, any other message brings none
  | @hears msg hpc =>
    refine ⟨hat hpc nofun, rfl, filterMap_snoc _ _ _, fun hne => ?_, List.prefix_refl _, fun _ => ?_⟩
    · cases msg with
      | text s => exact nofun
      | _ => exact absurd rfl hne
    · rw [hpc]
      show t.forwarded ++ [] ++ _ = _
      rw [List.append_nil, pending_onMessage]
      rfl
  | forwards hpc =>
    refine ⟨hat hpc nofun, rfl, (List.append_nil _).symm, fun hne => absurd rfl hne,
      List.prefix_append _ _, fun _ => ?_⟩
    rw [hpc]
    show t.forwarded ++ (_ :: _) ++ [] = t.forwarded ++ [_] ++ _
    rw [List.append_nil, List.append_assoc]
    rfl
  | ends hlive hheld hquiet =>
    refine .silent hlive ?_ fun hlistens => hheld.resolve_right (by rw [hlistens]; nofun)
    unfold WsLabel.text
    split
    · exact absurd rfl (hquiet _)
    · rfl
  | connects hpc => exact .silent (hat hpc nofun) rfl fun _ => by rw [hpc]; rfl
  | subscribes hpc => exact .silent (hat hpc nofun) rfl fun _ => by rw [hpc]; rfl
  | closes hpc => exact .silent (hat hpc nofun) rfl fun _ => by rw [hpc]; rfl
  | ticks hpc => exact .silent (hat hpc nofun) rfl fun _ => by rw [hpc]; rfl
  | pings hpc => exact .silent (hat hpc nofun) rfl fun _ => by rw [hpc]; rfl
  | finishes hpc => exact .silent (hat hpc nofun) rfl fun _ => by rw [hpc]; rfl
  | pongs hpc => exact .silent (hat hpc nofun) rfl fun _ => by rw [hpc]; rfl
  | forgets hpc => exact .silent (hat hpc nofun) rfl fun _ => by rw [hpc]; rfl
  | leaves hpc => exact .silent (hat hpc nofun) rfl fun _ => by rw [hpc]; rfl

end

end WsTask

end PolyNotifier
