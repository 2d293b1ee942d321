import PolyNotifier.Bot.Callbacks
import PolyNotifier.Bot.Isolation

/-!
# The unsubscribe button

The schema gives a callback query to the first branch that matches. A dialogue that waits for a
button matches every button, and its handler drops what is not its own: `handle_*` decodes the
data, finds another prefix and returns. So an unsubscribe button reaches `dispatch_callback`
only in the states that wait for no button.

`Unsubscribed` is what the button promises, and `unsubscribed_iff` says when it is kept.
-/

namespace PolyNotifier

open Lib (Table)

/-- The states in which a dialogue takes every button of its chat. -/
def DialogueState.awaitsButton : DialogueState → Bool
  | .awaitingMarketSelection _ => true
  | .awaitingOutcomeSelection .. => true
  | .awaitingSubscribeAlertType .. => true
  | .awaitingAlertSubscription => true
  | .awaitingAlertType .. => true
  | _ => false

theorem callbackBranch_isSome (chat : Int) (q : CallbackQuery) (state : DialogueState) :
    (callbackBranch chat q state).isSome = state.awaitsButton := by
  cases state <;> rfl

/-! ## Buttons of other flows -/

/-- The data of an unsubscribe button. -/
def unsubData (id : Int) : String := "unsub:" ++ toString id

/-- **No dialogue takes an unsubscribe button for its own.** -/
theorem decode_unsubData (id : Int) :
    decodeMarket (unsubData id) = none ∧ decodeOutcome (unsubData id) = none ∧
      decodeAlertType (unsubData id) = none ∧ decodeSub (unsubData id) = none := by
  have hother : ∀ k : ButtonKind, .unsub ≠ k → ¬ k.accepts (unsubData id) = true :=
    fun k hk => ne_true_of_eq_false (ButtonKind.accepts_other hk _)
  refine ⟨?_, ?_, ?_, ?_⟩ <;> apply Option.not_isSome_iff_eq_none.mp
  · exact hother .market (by decide)
  · exact hother .outcome (by decide)
  · exact hother .alertType (by decide)
  · exact hother .sub (by decide)

namespace World

variable {env : Env} {w : World}

theorem after_answer {p : Unit → Handler Unit} {q : CallbackQuery} (hp : p () = pure ()) :
    after env (answerCallbackQuery q.id >>= p) w = w.called := by
  cases htel : env.telegram w.calls with
  | true => rw [after_bind_ok (run_answer_ok htel), hp]; rfl
  | false => rw [after_bind_error (run_answer_error htel)]

/-- **A dialogue that waits for a button drops an unsubscribe button.** -/
theorem after_callbackBranch {chat : Int} {q : CallbackQuery} {state : DialogueState}
    {handler : Handler Unit} {id : Int} (hdata : q.data = some (unsubData id))
    (h : callbackBranch chat q state = some handler) : after env handler w = w.called := by
  obtain ⟨hmarket, houtcome, htype, hsub⟩ := decode_unsubData id
  cases state with
  | awaitingMarketSelection markets =>
    cases h
    apply after_answer
    rw [hdata, Option.bind_some, hmarket]
  | awaitingOutcomeSelection conditionId question outcomes tokenIds =>
    cases h
    apply after_answer
    rw [hdata, Option.bind_some, houtcome]
  | awaitingSubscribeAlertType conditionId question outcomes tokenIds outcomeIndex =>
    cases h
    apply after_answer
    rw [hdata, Option.bind_some, htype]
  | awaitingAlertSubscription =>
    cases h
    apply after_answer
    rw [hdata, Option.bind_some, hsub]
  | awaitingAlertType subscriptionId question =>
    cases h
    apply after_answer
    rw [hdata, Option.bind_some, htype]
  | _ => cases h

end World

/-! ## The promise of the button -/

/-- A key of a table is an `i64`, so it comes back from the data of a button. -/
theorem decodeUnsub_of_hasKey {d : Db} {id : Int} (h : d.subscriptions.hasKey id) :
    decodeUnsub (unsubData id) = some id := by
  obtain ⟨s, hs, hid⟩ := Table.hasKey_iff.mp h
  have hb := d.subscriptions.bound s hs
  have hlt := d.subscriptions.seq_lt
  rw [hid] at hb
  apply decodeUnsub_data <;> omega

/-- What the button promises: the subscription and its alerts are gone, the others and the
    dialogues are as they were. Rows are compared as lists, so that nothing else went and nothing
    came. -/
structure Unsubscribed (id : Int) (w w' : World) : Prop where
  subscriptions : w'.db.subscriptions.rows = w.db.subscriptions.rows.filter fun s => s.id != id
  alerts : w'.db.alerts.rows = w.db.alerts.rows.filter fun a => a.subscriptionId != id
  dialogues : w'.dialogues = w.dialogues

/-- A subscription that is still there was not unsubscribed. -/
theorem not_unsubscribed_of_same {id : Int} {w w' : World} (hkey : w.db.subscriptions.hasKey id)
    (hsame : w'.db = w.db) : ¬ Unsubscribed id w w' := by
  intro h
  obtain ⟨s, hs, hid⟩ := Table.hasKey_iff.mp hkey
  have hrows := h.subscriptions
  rw [hsame] at hrows
  rw [hrows, List.mem_filter] at hs
  have hid' : s.id = id := hid
  simp [hid'] at hs

/-- **The button keeps its promise if and only if the dialogue of the chat waits for no button**,
    and Telegram accepts the acknowledgement. A state that waits for a button takes the query for
    itself, whatever its data says; and the acknowledgement is the first call of the handler, whose
    failure is the end of it. Both are known before the button is pressed. -/
theorem unsubscribed_iff {deps : BotDeps} {env : Env} {w : World} {q : CallbackQuery}
    {chat id : Int} (hdb : ∀ n, env.database n = true) (hchat : q.message = some chat)
    (hdata : q.data = some (unsubData id)) (hkey : w.db.subscriptions.hasKey id) :
    Unsubscribed id w (dispatch deps env (.callbackQuery q) w) ↔
      (w.dialogues chat).awaitsButton = false ∧ env.telegram w.calls = true := by
  rw [dispatch_some (schema_button hchat)]
  have hsome := callbackBranch_isSome chat q (w.dialogues chat)
  cases hbranch : callbackBranch chat q (w.dialogues chat) with
  -- the state expects a button: its own handler takes the query, and no row is deleted
  | some handler =>
    rw [hbranch, Option.isSome_some] at hsome
    rw [Option.getD_some, World.after_callbackBranch hdata hbranch, ← hsome]
    constructor
    · intro h
      exact absurd h (not_unsubscribed_of_same hkey rfl)
    · rintro ⟨hno, _⟩
      cases hno
  | none =>
    rw [hbranch, Option.isSome_none] at hsome
    simp only [Option.getD_none, dispatchCallback, hdata, decodeUnsub_of_hasKey hkey, ← hsome,
      true_and]
    cases htel : env.telegram w.calls with
    -- the acknowledgement comes before the DELETE, and its failure ends the handler
    | false =>
      rw [callbackUnsubscribe, World.after_bind_error (World.run_answer_error htel)]
      constructor
      · intro h
        exact absurd h (not_unsubscribed_of_same hkey rfl)
      · intro h
        cases h
    | true =>
      obtain ⟨hdel, hdialogues⟩ := World.after_callbackUnsubscribe_ok hchat htel (hdb _) id
      refine ⟨fun _ => rfl, fun _ => ⟨?_, ?_, hdialogues⟩⟩
      · rw [hdel]
        rfl
      · rw [hdel]
        rfl

/-- User 7 presses the button of subscription 1, in chat 70. -/
def pressUnsubscribe : CallbackQuery := ⟨"q", ⟨7, none, ""⟩, some 70, some (unsubData 1)⟩

theorem unsubscribed_iff_idle :
    Unsubscribed 1 sampleWorld
        (dispatch sampleDeps World.answering (.callbackQuery pressUnsubscribe) sampleWorld) ↔
      DialogueState.idle.awaitsButton = false ∧ true = true :=
  unsubscribed_iff (fun _ => rfl) rfl rfl (by decide +kernel)

/-- The bot of the sample database, which knows `/alert`. -/
def alertDeps : BotDeps :=
  { sampleDeps with parseCommand := fun s => if s = "/alert" then some .alert else none }

/-- The sample world after user 7 has sent `/alert`: the chat waits for a subscription. -/
def afterAlert : World :=
  dispatch alertDeps World.answering (.message ⟨70, some ⟨7, none, ""⟩, some "/alert", none⟩)
    sampleWorld

/-- With an alert flow open, the unsubscribe button does nothing: the dialogue takes the query for
    a choice of its own, which it is not. -/
theorem alert_flow_drops_unsubscribe :
    afterAlert.dialogues 70 = .awaitingAlertSubscription ∧
      afterAlert.db.subscriptions.hasKey 1 ∧
      ¬ Unsubscribed 1 afterAlert
        (dispatch alertDeps World.answering (.callbackQuery pressUnsubscribe) afterAlert) := by
  have hstate : afterAlert.dialogues 70 = .awaitingAlertSubscription := by decide +kernel
  have hkey : afterAlert.db.subscriptions.hasKey 1 := by decide +kernel
  have hchat : pressUnsubscribe.message = some 70 := rfl
  refine ⟨hstate, hkey, not_unsubscribed_of_same hkey ?_⟩
  rw [dispatch_some (schema_button hchat), hstate]
  have hbranch : callbackBranch 70 pressUnsubscribe .awaitingAlertSubscription
      = some (handleAlertSubscriptionSelection 70 pressUnsubscribe) := rfl
  rw [hbranch, Option.getD_some, World.after_callbackBranch rfl hbranch]
  rfl

end PolyNotifier
