import PolyNotifier.Bot.FreeTier

/-!
# An alert flow and its confirmation

The last step of the alert flow inserts the alert, confirms it and leaves the state, in this
order. Where Telegram refuses the confirmation the handler is over before it has left the state:
the user, who has seen nothing, sends the threshold again, and it is inserted again.

`alertFlow` is the order as every handler keeps it: after an `INSERT` that was executed there is
one message, and the dialogue is idle. `adds_one_alert_iff` says that the flow adds one alert, and
is left by the handler that adds it, exactly as long as no confirmation is refused.
-/

namespace PolyNotifier

open Lib (Prog Pool Event Steps)
open Lib.Prog (Monitor Obeys Ends ends_bind obeys_bind)

/-! ## What a run has done -/

/-- An `INSERT INTO alerts` that was executed. -/
def executedInsert : (o : BotOp) → o.Res → Bool
  | .sql (.insertAlert ..), .ok _ => true
  | _, _ => false

/-- A message that Telegram refused. -/
def refusedMessage : (o : BotOp) → o.Res → Bool
  | .sendMessage .., ok => !ok
  | _, _ => false

/-- The state that the operation puts the dialogue of the chat in. -/
def entered (chat : Int) : BotOp → Option DialogueState
  | .updateDialogue c state => if c = chat then some state else none
  | _ => none

def DialogueState.AwaitsAlertThreshold : DialogueState → Prop
  | .awaitingAlertThreshold .. => True
  | _ => False

/-- The state the run has put the dialogue of the chat in. -/
def stateOf (chat : Int) (ls : List BotLabel) : DialogueState :=
  ls.foldl (fun state l => match l with
    | .update _ => state
    | .call ev => (entered chat ev.op).getD state) .idle

/-- How many alerts the run has added since the last change of the dialogue state. -/
def alertsSince (chat : Int) (ls : List BotLabel) : Nat :=
  ls.foldl (fun n l => match l with
    | .update _ => n
    | .call ev =>
        if (entered chat ev.op).isSome then 0
        else if executedInsert ev.op ev.res then n + 1 else n) 0

/-- The handler has added an alert. -/
def InsertedBy (ls : List BotLabel) (thread : Nat) : Prop :=
  ∃ ev, .call ev ∈ ls ∧ ev.thread = thread ∧ executedInsert ev.op ev.res = true

/-- **A flow adds at most one alert**, and the handler that adds it leaves the state: it is not
    there any more when the handler has come to its end. The first clause alone would allow a flow
    that never ends; the second is what lets the user see that it is over. -/
structure AddsOne (chat : Int) (ls : List BotLabel) (B : Bot) : Prop where
  once : (B.pool.state.dialogues chat).AwaitsAlertThreshold → alertsSince chat ls ≤ 1
  leaves : ∀ (i : Nat) (p : Handler Unit), B.pool.threads[i]? = some p → p.Done →
    i + 1 = B.pool.threads.length → InsertedBy ls i →
    ¬ (B.pool.state.dialogues chat).AwaitsAlertThreshold

/-- While the chat waits for the threshold, no handler that has added an alert has a message
    refused. It is read off the labels: what Telegram answered, to whom, and what the handler had
    done before. -/
def Confirmed (chat : Int) (ls : List BotLabel) : Prop :=
  ∀ before ev after, ls = before ++ .call ev :: after →
    (stateOf chat before).AwaitsAlertThreshold → InsertedBy before ev.thread →
    refusedMessage ev.op ev.res = false

section

variable {chat : Int} {ls : List BotLabel}

@[simp] theorem stateOf_update (u : Update) : stateOf chat (ls ++ [.update u]) = stateOf chat ls := by
  simp [stateOf]

@[simp] theorem stateOf_call (ev : Event botSig) :
    stateOf chat (ls ++ [.call ev]) = (entered chat ev.op).getD (stateOf chat ls) := by
  simp [stateOf]

@[simp] theorem alertsSince_update (u : Update) :
    alertsSince chat (ls ++ [.update u]) = alertsSince chat ls := by
  simp [alertsSince]

@[simp] theorem alertsSince_call (ev : Event botSig) :
    alertsSince chat (ls ++ [.call ev]) = if (entered chat ev.op).isSome then 0
      else if executedInsert ev.op ev.res then alertsSince chat ls + 1 else alertsSince chat ls := by
  simp [alertsSince]

theorem insertedBy_snoc {l : BotLabel} {i : Nat} : InsertedBy (ls ++ [l]) i ↔
    InsertedBy ls i ∨ ∃ ev, l = .call ev ∧ ev.thread = i ∧ executedInsert ev.op ev.res = true := by
  constructor
  · rintro ⟨ev, hmem, hrest⟩
    rcases List.mem_append.mp hmem with hmem | hmem
    · exact .inl ⟨ev, hmem, hrest⟩
    · exact .inr ⟨ev, (List.mem_singleton.mp hmem).symm, hrest⟩
  · rintro (⟨ev, hmem, hrest⟩ | ⟨ev, rfl, hrest⟩)
    · exact ⟨ev, List.mem_append_left _ hmem, hrest⟩
    · exact ⟨ev, by simp, hrest⟩

theorem Confirmed.of_append {ls' : List BotLabel} (h : Confirmed chat (ls ++ ls')) :
    Confirmed chat ls := by
  rintro before ev after rfl hawaits hinserted
  exact h before ev (after ++ ls') (by simp) hawaits hinserted

end

/-! ## The order of a handler -/

/-- Where a handler is: it has added no alert, it has, or nothing is left to do. The phase
    `inserted` is the one that counts: in it the alert is there and the chat still waits for the
    threshold. -/
inductive FlowPhase where
  | calm
  | inserted
  | finished
  deriving DecidableEq

/-- After an alert there is a message, and the dialogue of the chat becomes idle; then, or where
    the message is refused, the handler is over. A handler without an alert may do anything, so
    every handler of the bot keeps to it, not only those of the flow. -/
def alertFlow (chat : Int) : Monitor botSig FlowPhase where
  allows
    | .calm, _ => True
    | .inserted, .sendMessage .. => True
    | .inserted, .updateDialogue c state => c = chat ∧ state = .idle
    | .inserted, _ => False
    | .finished, _ => False
  next
    | .calm, o, r => if executedInsert o r then .inserted else .calm
    | .inserted, .sendMessage .., ok => if ok then .inserted else .finished
    | .inserted, .updateDialogue .., _ => .finished
    | .inserted, _, _ => .inserted
    | .finished, _, _ => .finished

/-- A handler does not end here. -/
def FlowPhase.Settled (g : FlowPhase) : Prop := g ≠ .inserted

/-- From `g` on the handler keeps the order, and ends where it may. -/
abbrev KeepsOrder {α : Type} (chat : Int) (g : FlowPhase) (p : Handler α)
    (Q : FlowPhase → α → Prop) : Prop :=
  Ends (fun _ _ => True) (alertFlow chat) FlowPhase.Settled g p Q

section KeepsOrder

variable {chat : Int}

/-- A piece that inserts no alert. -/
theorem keepsOrder_calm {α : Type} {p : Handler α}
    (hp : Obeys (writing (fun _ => True) (¬ ·.InsertsAlert)) () p fun _ _ => True)
    {Q : FlowPhase → α → Prop} (hQ : ∀ a, Q .calm a) : KeepsOrder chat .calm p Q := by
  induction p with
  | ret a => exact hQ a
  | fail e => exact nofun
  | op o k ih =>
    refine ⟨trivial, fun r _ => ?_⟩
    have hcalm : (alertFlow chat).next .calm o r = .calm := by
      show (if executedInsert o r = true then FlowPhase.inserted else .calm) = .calm
      refine if_neg fun hins => ?_
      cases o with
      | sql s =>
        cases s with
        | insertAlert => exact hp.1 trivial
        | _ => cases hins
      | _ => cases hins
    rw [hcalm]
    exact ih r (hp.2 r)

/-- A confirmation, and the dialogue is idle. -/
theorem keepsOrder_confirm (text : String) :
    KeepsOrder chat .inserted (do
      reply chat text
      updateDialogue chat .idle) fun g _ => g.Settled := by
  refine ⟨trivial, fun ok _ => ?_⟩
  cases ok with
  | true => exact ⟨⟨rfl, rfl⟩, fun _ _ => nofun⟩
  | false => exact nofun

theorem keepsOrder_reply_idle (text : String) :
    KeepsOrder chat .calm (do
      reply chat text
      updateDialogue chat .idle) fun g _ => g.Settled :=
  keepsOrder_calm (footprint_prompt trivial) fun _ => nofun

/-- A statement, under the order; `hs` says that it inserts no alert. -/
theorem keepsOrder_query {s : Stmt} (hs : ¬ s.InsertsAlert) {Q : FlowPhase → s.Res → Prop}
    (hQ : ∀ a, Q .calm a) : KeepsOrder chat .calm (query s) Q :=
  keepsOrder_calm (obeys_query.mpr ⟨hs, fun _ => trivial⟩) hQ

theorem keepsOrder_getOrCreateUser {telegramId : Int} {botId : String} {username : Option String}
    {Q : FlowPhase → User → Prop} (hQ : ∀ u, Q .calm u) :
    KeepsOrder chat .calm (getOrCreateUser telegramId botId username) Q :=
  keepsOrder_calm (writing_getOrCreateUser permits_noAlert.calm fun _ => trivial) hQ

/-- **An alert is inserted**: the handler goes on in the phase of the answer. -/
theorem keepsOrder_insertAlert {id : Int} {alertType : String} {threshold : F64}
    {Q : FlowPhase → Except DbError Unit → Prop} (hok : Q .inserted (.ok ()))
    (herror : ∀ e, Q .calm (.error e)) :
    KeepsOrder chat .calm (sql (.insertAlert id alertType threshold)) Q := by
  refine ⟨trivial, fun r _ => ?_⟩
  cases r with
  | ok a => exact hok
  | error e => exact herror e

theorem keepsOrder_createFirstAlert {subscriptionId : Int} {question label alertType : String}
    {pct : F64} : KeepsOrder chat .calm
      (createFirstAlert chat subscriptionId question label alertType pct)
      fun g _ => g.Settled := by
  unfold createFirstAlert
  refine ends_bind.mpr (keepsOrder_insertAlert ?_ fun _ => ?_)
  · exact keepsOrder_confirm _
  · exact keepsOrder_reply_idle _

theorem keepsOrder_createSubscription {userId marketId outcomeIndex : Int}
    {question label alertType : String} {pct : F64} : KeepsOrder chat .calm
      (createSubscription chat userId marketId outcomeIndex question label alertType pct)
      fun g _ => g.Settled := by
  unfold createSubscription
  have hinsert : Obeys (writing (fun _ => True) (¬ ·.InsertsAlert)) ()
      (sql (.insertSubscription userId marketId outcomeIndex)) fun _ _ => True :=
    obeys_sql.mpr ⟨not_false, fun _ => trivial⟩
  refine ends_bind.mpr (keepsOrder_calm hinsert fun result => ?_)
  split
  · exact keepsOrder_reply_idle _
  · refine ends_bind.mpr (keepsOrder_query (by exact not_false) fun row => ?_)
    cases row with
    | some subscriptionId => exact keepsOrder_createFirstAlert
    | none => exact keepsOrder_reply_idle _
  · exact keepsOrder_reply_idle _

theorem keepsOrder_handleSubscribeAlertThreshold {x : Crates} {botId : String} {msg : Message}
    {conditionId question : String} {outcomes tokenIds : List String} {outcomeIndex : Int}
    {alertType : String} (hchat : msg.chat = chat) : KeepsOrder chat .calm
      (handleSubscribeAlertThreshold x botId msg conditionId question outcomes tokenIds outcomeIndex
        alertType) fun g _ => g.Settled := by
  subst hchat
  unfold handleSubscribeAlertThreshold
  split
  · exact keepsOrder_calm (obeys_reply.mpr trivial) fun _ => nofun
  · cases msg.sender with
    | none => exact nofun
    | some sender =>
      refine ends_bind.mpr (keepsOrder_getOrCreateUser fun u => ?_)
      refine ends_bind.mpr (keepsOrder_query (by exact not_false) fun activeCount => ?_)
      split
      · exact keepsOrder_reply_idle _
      · refine ends_bind.mpr (keepsOrder_calm (obeys_utcNow.mpr fun _ => trivial) fun now => ?_)
        refine ends_bind.mpr (keepsOrder_query (by exact not_false) fun marketId => ?_)
        exact keepsOrder_createSubscription

theorem keepsOrder_handleAlertThreshold {botId : String} {msg : Message} {subscriptionId : Int}
    {question alertType : String} (hchat : msg.chat = chat) : KeepsOrder chat .calm
      (handleAlertThreshold botId msg subscriptionId question alertType)
      fun g _ => g.Settled := by
  subst hchat
  unfold handleAlertThreshold
  split
  · exact keepsOrder_calm (obeys_reply.mpr trivial) fun _ => nofun
  · cases msg.sender with
    | none => exact nofun
    | some sender =>
      refine ends_bind.mpr (keepsOrder_getOrCreateUser fun u => ?_)
      refine ends_bind.mpr (keepsOrder_query (by exact not_false) fun alertCount => ?_)
      split
      · -- the alert that is there is rewritten
        have hupdate : Footprint (fun _ => True) (¬ ·.InsertsAlert) (do
            updateFirstAlert msg.chat subscriptionId alertType question ‹F64›
            updateDialogue msg.chat .idle) := by
          refine obeys_bind.mpr (obeys_bind.mpr (obeys_sql.mpr ⟨not_false, fun result => ?_⟩))
          cases result <;> exact obeys_reply.mpr (obeys_enter.mpr ⟨trivial, trivial⟩)
        exact keepsOrder_calm hupdate fun _ => nofun
      · refine ends_bind.mpr (ends_bind.mpr (keepsOrder_insertAlert ?_ fun _ => ?_))
        · exact ends_bind.mp (keepsOrder_confirm _)
        · exact ends_bind.mp (keepsOrder_reply_idle _)

/-- **Every handler keeps the order.** -/
theorem keepsOrder_of_branch {deps : BotDeps} {dialogues : Int → DialogueState} {u : Update}
    {handler : Handler Unit} (hchat : u.chat = some chat)
    (hbranch : Branch deps dialogues u handler) :
    KeepsOrder chat .calm handler fun g _ => g.Settled := by
  cases hbranch with
  | search hu hstate => exact keepsOrder_calm (footprint_handleUrlInput _ .any) fun _ => nofun
  | subscribe hu hstate =>
    subst hu
    exact keepsOrder_handleSubscribeAlertThreshold (Option.some.inj hchat)
  | alert hu hstate =>
    subst hu
    exact keepsOrder_handleAlertThreshold (Option.some.inj hchat)
  | other hf => exact keepsOrder_calm (hf _ _ permits_noAlert (fun _ => id) .any) fun _ => nofun

end KeepsOrder

/-! ## One chat -/

/-- Where each handler is, after its calls so far. -/
abbrev phases (chat : Int) (ls : List BotLabel) : Nat → FlowPhase :=
  Bot.watch (alertFlow chat) .calm ls

theorem phases_update {chat : Int} {ls : List BotLabel} {u : Update} :
    phases chat (ls ++ [.update u]) = phases chat ls := Bot.watch_update ..

theorem phases_call {chat : Int} {ls : List BotLabel} {ev : Event botSig} :
    phases chat (ls ++ [.call ev]) ev.thread =
      (alertFlow chat).next (phases chat ls ev.thread) ev.op ev.res := by
  rw [phases, Bot.watch_call, Pool.advance_self]

/-- A call after which the handler is where it was. -/
theorem phases_call_of_next {chat : Int} {ls : List BotLabel} {ev : Event botSig}
    (h : (alertFlow chat).next (phases chat ls ev.thread) ev.op ev.res =
      phases chat ls ev.thread) : phases chat (ls ++ [.call ev]) = phases chat ls := by
  rw [phases, Bot.watch_call, Pool.advance_of_next h]

theorem phases_call_ne {chat : Int} {ls : List BotLabel} {ev : Event botSig} {i : Nat}
    (h : i ≠ ev.thread) : phases chat (ls ++ [.call ev]) i = phases chat ls i := by
  rw [phases, Bot.watch_call, Pool.advance_ne h]

/-- The phase after a call is calm if it was before and no alert was added. -/
theorem next_eq_calm_iff {chat : Int} {g : FlowPhase} {o : BotOp} {r : o.Res} :
    (alertFlow chat).next g o r = .calm ↔ g = .calm ∧ executedInsert o r = false := by
  cases g with
  | calm =>
    show (if executedInsert o r = true then FlowPhase.inserted else .calm) = .calm ↔ _
    cases executedInsert o r <;> simp
  | inserted =>
    cases o with
    | sendMessage => cases r <;> simp [alertFlow]
    | _ => simp [alertFlow]
  | finished => simp [alertFlow]

/-- A handler is calm as long as it has added no alert. -/
theorem insertedBy_iff (chat : Int) {ls : List BotLabel} {i : Nat} :
    InsertedBy ls i ↔ phases chat ls i ≠ .calm := by
  induction ls using List.reverseRecOn with
  | nil =>
    constructor
    · rintro ⟨_, hmem, _⟩
      cases hmem
    · intro hne
      exact absurd rfl hne
  | append_singleton ls l ih =>
    rw [insertedBy_snoc, ih]
    cases l with
    | update u =>
      rw [phases_update]
      simp
    | call ev =>
      by_cases hi : i = ev.thread
      · subst hi
        rw [phases_call, ne_eq, ne_eq, next_eq_calm_iff, not_and_or, Bool.not_eq_false]
        simp
      · rw [phases_call_ne hi]
        simp [Ne.symm hi]

theorem next_calm {chat : Int} {o : BotOp} {r : o.Res} : (alertFlow chat).next .calm o r =
    if executedInsert o r = true then .inserted else .calm := rfl

theorem entered_of_executedInsert {chat : Int} {o : BotOp} {r : o.Res}
    (h : executedInsert o r = true) : entered chat o = none := by
  cases o with
  | updateDialogue => cases h
  | _ => rfl

/-- What an operation does to the dialogue of the chat. -/
theorem perform_dialogue (env : Env) (chat : Int) (o : BotOp) (w : World) :
    (World.perform env o w).2.dialogues chat = (entered chat o).getD (w.dialogues chat) := by
  cases o with
  | updateDialogue c state =>
    show Function.update w.dialogues c state chat = _
    by_cases hc : c = chat
    · subst hc
      simp [entered]
    · rw [Function.update_of_ne (Ne.symm hc)]
      simp [entered, hc]
  | sql s =>
    cases hexec : World.execute env s w with
    | ok r =>
      rw [World.perform_sql_ok hexec]
      rfl
    | error e =>
      rw [World.perform_sql_error hexec]
      rfl
  | _ => rfl

section Runs

variable {deps : BotDeps} {env : Env} {chat : Int} {d : Db} {ls : List BotLabel} {B : Bot}
  {u : Update}

/-- The labels say what state the dialogue is in. -/
theorem dialogue_of_run (hrun : Steps (Bot.Step deps env) (Bot.start d) ls B) :
    B.pool.state.dialogues chat = stateOf chat ls := by
  induction hrun with
  | nil => rfl
  | snoc _ hs ih =>
    cases hs with
    | update => rw [stateOf_update, ← ih, Pool.spawn_state]
    | call hcall =>
      rw [stateOf_call, ← ih]
      cases hcall with
      | mk hi => exact perform_dialogue env chat _ _

/-- What every run in one chat keeps, confirmed or not. The state of the dialogue is also computed
    from the labels (`stateOf`), so that a condition on a run can speak of it at any moment before.
    -/
structure Ordered (chat : Int) (ls : List BotLabel) (B : Bot) : Prop where
  serial : Bot.Serial chat B
  state : B.pool.state.dialogues chat = stateOf chat ls
  ends : B.pool.Ends (fun _ _ => True) (alertFlow chat) FlowPhase.Settled (phases chat ls)
  fresh : ∀ i, B.pool.threads.length ≤ i → phases chat ls i = .calm

theorem ordered_of_run
    (hrun : Steps (Bot.Guarded (Bot.InChat chat) deps env) (Bot.start d) ls B) :
    Ordered chat ls B := by
  have hwatch : B.pool.Ends (fun _ _ => True) (alertFlow chat) FlowPhase.Settled
      (phases chat ls) ∧ ∀ i, B.pool.threads.length ≤ i → phases chat ls i = .calm := by
    refine (Bot.ends_watch (I := fun _ => True) (fun _ _ _ _ hs => ⟨hs.1, trivial⟩)
      (fun B u B' handler _ hs hbranch => ?_) trivial hrun).2
    exact keepsOrder_of_branch (hs.2 u rfl) (branch_of_schema hbranch)
  exact ⟨Bot.serial_of_run hrun, dialogue_of_run (hrun.mono fun _ _ _ hs => hs.1), hwatch.1,
    hwatch.2⟩

/-- A handler that has added an alert and is not over yet is under way. -/
theorem Ordered.last_of_inserted (h : Ordered chat ls B) {i : Nat}
    (hi : phases chat ls i = .inserted) : i + 1 = B.pool.threads.length := by
  have hlt : i < B.pool.threads.length := by
    by_contra hge
    rw [h.fresh i (by omega)] at hi
    cases hi
  refine h.serial.last i _ (List.getElem?_eq_getElem hlt) fun hdone => ?_
  exact h.ends.done (List.getElem?_eq_getElem hlt) hdone hi

/-- While the chat waits for the threshold: no alert has been added, or one by the handler that is
    under way; and the last handler has something left to do. The second clause shuts out a handler
    whose confirmation was refused: that one is over with the chat still waiting, and the next
    could add a second alert. -/
structure Waiting (chat : Int) (ls : List BotLabel) (B : Bot) : Prop where
  count : alertsSince chat ls = 0 ∨
    alertsSince chat ls = 1 ∧ ∃ i, phases chat ls i = .inserted
  goes : ∀ i, i + 1 = B.pool.threads.length → phases chat ls i ≠ .finished

/-- Nothing has been added when the next update is taken up. -/
theorem Waiting.spawn {B' : Bot} (h : Waiting chat ls B) (ho : Ordered chat ls B)
    (hs : Bot.Guarded (Bot.InChat chat) deps env B (.update u) B') :
    Waiting chat (ls ++ [.update u]) B' := by
  obtain ⟨hbot, hchat⟩ := hs
  cases hbot with
  | @update _ handler hturn hbranch =>
    have hdone := fun {i p} => ho.serial.done (hturn chat (hchat u rfl)) (i := i) (p := p)
    refine ⟨?_, ?_⟩
    · rw [alertsSince_update, phases_update]
      refine .inl (h.count.resolve_right ?_)
      rintro ⟨_, i, hi⟩
      have hlt : i < B.pool.threads.length := by
        have := ho.last_of_inserted hi
        omega
      have hget := List.getElem?_eq_getElem hlt
      exact ho.ends.done hget (hdone hget) hi
    · intro i hi
      have hlen : (B.pool.spawn handler).threads.length = B.pool.threads.length + 1 := by
        simp [Pool.spawn]
      have hlast : i + 1 = B.pool.threads.length + 1 := hi.trans hlen
      rw [phases_update, ho.fresh i (by omega)]
      simp

/-- The handler that makes a call is the last one, and no handler is started. -/
theorem Ordered.last_of_call {B' : Bot} {ev : Event botSig} (ho : Ordered chat ls B)
    (hs : Bot.Step deps env B (.call ev) B') :
    (alertFlow chat).allows (phases chat ls ev.thread) ev.op ∧
      B'.pool.threads.length = B.pool.threads.length ∧
      ev.thread + 1 = B.pool.threads.length := by
  cases hs with
  | call hcall =>
    refine ⟨(Pool.ends_step ho.ends hcall trivial).1, ?_, ?_⟩
    · cases hcall
      simp
    · cases hcall with
      | mk hi => exact ho.serial.last _ _ hi id

/-- A call that adds no alert, and leaves the handler and the dialogue where they are. -/
theorem Waiting.same {B' : Bot} {ev : Event botSig} (h : Waiting chat ls B)
    (hlen : B'.pool.threads.length = B.pool.threads.length)
    (hnext : (alertFlow chat).next (phases chat ls ev.thread) ev.op ev.res =
      phases chat ls ev.thread)
    (hentered : entered chat ev.op = none) (hins : executedInsert ev.op ev.res = false) :
    Waiting chat (ls ++ [.call ev]) B' := by
  have hsame := phases_call_of_next hnext
  refine ⟨?_, ?_⟩
  · rw [hsame, alertsSince_call, hentered, hins]
    exact h.count
  · rw [hsame, hlen]
    exact h.goes

/-- **A calm handler adds an alert**, the first. -/
theorem Waiting.insert {B' : Bot} {ev : Event botSig} (h : Waiting chat ls B)
    (ho : Ordered chat ls B) (hs : Bot.Step deps env B (.call ev) B')
    (hphase : phases chat ls ev.thread = .calm) (hins : executedInsert ev.op ev.res = true) :
    Waiting chat (ls ++ [.call ev]) B' := by
  obtain ⟨_, hlen, hlast⟩ := ho.last_of_call hs
  have hnext : phases chat (ls ++ [.call ev]) ev.thread = .inserted := by
    rw [phases_call, hphase, next_calm, if_pos hins]
  refine ⟨?_, fun i hi => ?_⟩
  · rw [alertsSince_call, entered_of_executedInsert hins, if_neg (by simp), if_pos hins]
    rcases h.count with hzero | ⟨_, i, hi⟩
    · exact .inr ⟨by rw [hzero], _, hnext⟩
    · -- only the handler that acts is under way, and it was calm
      have hi' := ho.last_of_inserted hi
      obtain rfl : i = ev.thread := by omega
      rw [hphase] at hi
      cases hi
  · obtain rfl : i = ev.thread := by omega
    rw [hnext]
    simp

/-- A calm handler moves the dialogue on. -/
theorem waiting_of_entered {B' : Bot} {ev : Event botSig} {state : DialogueState}
    (ho : Ordered chat ls B) (hs : Bot.Step deps env B (.call ev) B')
    (hphase : phases chat ls ev.thread = .calm) (hins : executedInsert ev.op ev.res = false)
    (hentered : entered chat ev.op = some state) : Waiting chat (ls ++ [.call ev]) B' := by
  obtain ⟨_, hlen, hlast⟩ := ho.last_of_call hs
  refine ⟨?_, fun i hi => ?_⟩
  · rw [alertsSince_call, hentered]
    exact .inl rfl
  · obtain rfl : i = ev.thread := by omega
    rw [phases_call, hphase, next_calm, hins]
    simp

/-- **One call of the handler under way**, that is not a refused confirmation. -/
theorem waiting_of_call {B' : Bot} {ev : Event botSig} (ho : Ordered chat ls B)
    (h : (stateOf chat ls).AwaitsAlertThreshold → Waiting chat ls B)
    (hs : Bot.Step deps env B (.call ev) B')
    (hconf : (stateOf chat ls).AwaitsAlertThreshold → InsertedBy ls ev.thread →
      refusedMessage ev.op ev.res = false)
    (hawaits : (stateOf chat (ls ++ [.call ev])).AwaitsAlertThreshold) :
    Waiting chat (ls ++ [.call ev]) B' := by
  obtain ⟨hallow, hlen, _⟩ := ho.last_of_call hs
  rw [stateOf_call] at hawaits
  cases hphase : phases chat ls ev.thread with
  | calm =>
    cases hentered : entered chat ev.op with
    | none =>
      rw [hentered, Option.getD_none] at hawaits
      cases hins : executedInsert ev.op ev.res with
      | true => exact (h hawaits).insert ho hs hphase hins
      | false =>
        refine (h hawaits).same hlen ?_ hentered hins
        rw [hphase, next_calm, hins]
        simp
    | some state =>
      cases hins : executedInsert ev.op ev.res with
      | true =>
        rw [entered_of_executedInsert hins] at hentered
        cases hentered
      | false => exact waiting_of_entered ho hs hphase hins hentered
  | inserted =>
    rw [hphase] at hallow
    have hinserted : InsertedBy ls ev.thread := (insertedBy_iff chat).mpr (by simp [hphase])
    obtain ⟨i, o, r⟩ := ev
    cases o with
    | sendMessage c text keyboard =>
      have haccepted := hconf hawaits hinserted
      cases r with
      | false => cases haccepted
      | true =>
        refine (h hawaits).same hlen ?_ rfl rfl
        rw [hphase]
        rfl
    | updateDialogue c state =>
      -- the handler leaves the state
      obtain ⟨rfl, rfl⟩ := hallow
      simp [entered, DialogueState.AwaitsAlertThreshold] at hawaits
    | _ => exact hallow.elim
  | finished =>
    rw [hphase] at hallow
    exact hallow.elim

theorem waiting_of_run
    (hrun : Steps (Bot.Guarded (Bot.InChat chat) deps env) (Bot.start d) ls B)
    (hconf : Confirmed chat ls) (hawaits : (stateOf chat ls).AwaitsAlertThreshold) :
    Waiting chat ls B := by
  induction hrun with
  | nil => exact hawaits.elim
  | @snoc ls l B B' hrun hs ih =>
    have ho := ordered_of_run hrun
    have hprev := ih hconf.of_append
    cases l with
    | update u =>
      rw [stateOf_update] at hawaits
      exact (hprev hawaits).spawn ho hs
    | call ev =>
      exact waiting_of_call ho hprev hs.1 (fun hstate hins => hconf ls ev [] rfl hstate hins) hawaits

/-- Confirmed so far, the flow has added one alert and the handler that did has left the state. -/
theorem addsOne_of_confirmed
    (hrun : Steps (Bot.Guarded (Bot.InChat chat) deps env) (Bot.start d) ls B)
    (hconf : Confirmed chat ls) : AddsOne chat ls B := by
  have ho := ordered_of_run hrun
  have hwaiting := waiting_of_run hrun hconf
  rw [← ho.state] at hwaiting
  refine ⟨fun hawaits => ?_, fun i p hi hdone hlast hinserted hawaits => ?_⟩
  · rcases (hwaiting hawaits).count with hzero | ⟨hone, _⟩ <;> omega
  · have hcalm := (insertedBy_iff chat).mp hinserted
    have hsettled := ho.ends.done hi hdone
    have hover := (hwaiting hawaits).goes i hlast
    cases hphase : phases chat ls i with
    | calm => exact hcalm hphase
    | inserted => exact hsettled hphase
    | finished => exact hover hphase

/-- **A refused confirmation**: the handler is over, and the chat waits for the threshold still. -/
theorem not_addsOne_of_refused {B' : Bot} {ev : Event botSig}
    (hrun : Steps (Bot.Guarded (Bot.InChat chat) deps env) (Bot.start d) ls B)
    (hs : Bot.Guarded (Bot.InChat chat) deps env B (.call ev) B')
    (hawaits : (stateOf chat ls).AwaitsAlertThreshold) (hinserted : InsertedBy ls ev.thread)
    (hrefused : refusedMessage ev.op ev.res = true) :
    ¬ AddsOne chat (ls ++ [.call ev]) B' := by
  intro h
  have ho := ordered_of_run hrun
  have ho' := ordered_of_run (hrun.snoc hs)
  obtain ⟨hallow, hlen, hlast⟩ := ho.last_of_call hs.1
  -- the handler was about to leave, and is over
  have hover : phases chat (ls ++ [.call ev]) ev.thread = .finished := by
    rw [phases_call]
    have hcalm := (insertedBy_iff chat).mp hinserted
    cases hphase : phases chat ls ev.thread with
    | calm => exact absurd hphase hcalm
    | inserted =>
      obtain ⟨i, o, r⟩ := ev
      cases o with
      | sendMessage c text keyboard =>
        cases r with
        | false => rfl
        | true => cases hrefused
      | _ => cases hrefused
    | finished =>
      rw [hphase] at hallow
      exact hallow.elim
  have hentered : entered chat ev.op = none := by
    obtain ⟨i, o, r⟩ := ev
    cases o with
    | updateDialogue => cases hrefused
    | _ => rfl
  have hget := List.getElem?_eq_getElem (show ev.thread < B'.pool.threads.length by omega)
  refine h.leaves ev.thread _ hget ?_ (hlast.trans hlen.symm)
    (insertedBy_snoc.mpr (.inl hinserted)) ?_
  · -- in this phase the handler may make no call
    have hends := ho'.ends _ _ hget
    rw [hover] at hends
    generalize B'.pool.threads[ev.thread] = p at hends
    cases p with
    | ret a => trivial
    | fail e => trivial
    | op o k => exact hends.1.elim
  · rw [ho'.state, stateOf_call, hentered, Option.getD_none]
    exact hawaits

/-- **The flow adds one alert, and is left by the handler that adds it, at every moment of a run
    exactly if no confirmation in it is refused.** The alert is inserted before the user is told,
    and the dialogue is left after: a message that Telegram refuses in between keeps the chat where
    the next number adds another alert. The condition is on Telegram's answers and nothing else. -/
theorem adds_one_alert_iff
    (hrun : Steps (Bot.Guarded (Bot.InChat chat) deps env) (Bot.start d) ls B) :
    (∀ before after B₁, ls = before ++ after →
      Steps (Bot.Guarded (Bot.InChat chat) deps env) (Bot.start d) before B₁ →
      Steps (Bot.Guarded (Bot.InChat chat) deps env) B₁ after B → AddsOne chat before B₁) ↔
    Confirmed chat ls := by
  constructor
  · rintro h before ev after rfl hawaits hinserted
    obtain ⟨B₁, B₂, hbefore, hs, hafter⟩ := hrun.split_at
    have hadds := h (before ++ [.call ev]) after B₂ (by simp) (hbefore.snoc hs) hafter
    cases hrefused : refusedMessage ev.op ev.res with
    | false => rfl
    | true => exact absurd hadds (not_addsOne_of_refused hbefore hs hawaits hinserted hrefused)
  · rintro hconf before after B₁ rfl hbefore _
    exact addsOne_of_confirmed hbefore hconf.of_append

end Runs

/-! ## A refused confirmation -/

section Example

/-- In every run in the chat. -/
def AlwaysAddsOne (deps : BotDeps) (env : Env) (d : Db) (chat : Int) : Prop :=
  ∀ ls B, Steps (Bot.Guarded (Bot.InChat chat) deps env) (Bot.start d) ls B → AddsOne chat ls B

/-- User 9, on the premium tier, with one subscription. -/
def premiumDb : Db where
  users := ⟨[⟨1, 9, "bot", none, "premium", 50, "UTC", 0, 0⟩], 1, by decide, by decide, by decide,
    by decide, by decide, by decide⟩
  markets := ⟨[⟨1, "0xe", "Snow?", none, "[\"Yes\",\"No\"]", "[\"sy\",\"sn\"]", "[]", true, 0, 0⟩],
    1, by decide, by decide, by decide, by decide, by decide, by decide⟩
  subscriptions := ⟨[⟨1, 1, 1, 0, true, 0⟩], 1, by decide, by decide, by decide, by decide,
    by decide, by decide⟩
  alerts := .empty
  notificationLog := .empty
  feedback := .empty
  subscriptionUser := by decide
  subscriptionMarket := by decide
  alertSubscription := nofun
  notificationLogUser := nofun
  feedbackUser := nofun

/-- Telegram refuses one call, the one with that number. -/
def refusing (n : Nat) : Env :=
  ⟨fun k => k != n, fun _ => true, fun _ => 0, fun _ _ => none, fun _ _ => none⟩

/-- An alert flow up to the message with the threshold, and the calls of its three handlers. -/
def flowToThreshold : List (Update ⊕ Nat) :=
  [.inl (textOf "/alert"), .inr 0, .inr 0, .inr 0, .inr 0,
    .inl (buttonOf "sub:1"), .inr 1, .inr 1, .inr 1, .inr 1,
    .inl (buttonOf "alert_type:above"), .inr 2, .inr 2, .inr 2]

/-- The threshold is sent: the row of the user, the count, the `INSERT`. -/
def thresholdSent (thread : Nat) : List (Update ⊕ Nat) :=
  [.inl (textOf "40"), .inr thread, .inr thread, .inr thread]

/-- The confirmation is refused, and the threshold is sent again. -/
def sentTwice : List (Update ⊕ Nat) :=
  flowToThreshold ++ thresholdSent 3 ++ [.inr 3] ++ thresholdSent 4

/-- The confirmation is accepted, and the dialogue becomes idle. -/
def sentOnce : List (Update ⊕ Nat) := flowToThreshold ++ thresholdSent 3 ++ [.inr 3, .inr 3]

theorem inChat_sentTwice : ∀ u, .inl u ∈ sentTwice → ∀ dialogues, Bot.InChat 90 dialogues u := by
  intro u hu _
  have hchat : ∀ c ∈ sentTwice, ∀ v, c = .inl v → v.chat = some 90 := by
    simp [sentTwice, flowToThreshold, thresholdSent, textOf, buttonOf, Update.chat]
  exact hchat _ hu u rfl

theorem inChat_sentOnce : ∀ u, .inl u ∈ sentOnce → ∀ dialogues, Bot.InChat 90 dialogues u := by
  intro u hu
  refine inChat_sentTwice u ?_
  simp only [sentOnce, sentTwice, List.mem_append] at hu ⊢
  rcases hu with hu | hu
  · exact .inl (.inl hu)
  · simp at hu

theorem adds_one_alert_once :
    ∃ ls B, Steps (Bot.Guarded (Bot.InChat 90) alertingDeps (refusing 20)) (Bot.start premiumDb)
        ls B ∧
      (B.pool.state.db.alerts.rows.length, B.pool.state.dialogues 90) = (1, .idle) ∧
      ((∀ before after B₁, ls = before ++ after →
        Steps (Bot.Guarded (Bot.InChat 90) alertingDeps (refusing 20)) (Bot.start premiumDb)
          before B₁ →
        Steps (Bot.Guarded (Bot.InChat 90) alertingDeps (refusing 20)) B₁ after B →
          AddsOne 90 before B₁) ↔ Confirmed 90 ls) := by
  have hplay : (Bot.play alertingDeps (refusing 20) sentOnce (Bot.start premiumDb)).map
      (fun r => (r.2.pool.state.db.alerts.rows.length, r.2.pool.state.dialogues 90)) =
      some (1, .idle) := by
    decide +kernel
  obtain ⟨⟨ls, B⟩, hrun, heq⟩ := Option.map_eq_some_iff.mp hplay
  have hsteps := Bot.play_steps inChat_sentOnce hrun
  exact ⟨ls, B, hsteps, heq, adds_one_alert_iff hsteps⟩

/-- **A premium user has two alerts of one flow**: the first confirmation is refused, and the user
    types the number again. -/
theorem refused_confirmation_adds_two :
    ¬ AlwaysAddsOne alertingDeps (refusing 14) premiumDb 90 := by
  intro halways
  have hplay : (Bot.play alertingDeps (refusing 14) sentTwice (Bot.start premiumDb)).map
      (fun r => (alertsSince 90 r.1, r.2.pool.state.dialogues 90)) =
      some (2, .awaitingAlertThreshold 1 "Snow?" "above") := by
    decide +kernel
  obtain ⟨⟨ls, B⟩, hrun, heq⟩ := Option.map_eq_some_iff.mp hplay
  have hcount : alertsSince 90 ls = 2 := congrArg Prod.fst heq
  have hstate : B.pool.state.dialogues 90 = .awaitingAlertThreshold 1 "Snow?" "above" :=
    congrArg Prod.snd heq
  have honce := (halways ls B (Bot.play_steps inChat_sentTwice hrun)).once
  rw [hstate, hcount] at honce
  exact absurd (honce trivial) (by decide)

end Example

end PolyNotifier
