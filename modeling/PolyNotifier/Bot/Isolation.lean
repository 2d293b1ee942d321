import PolyNotifier.Bot.Footprint
import PolyNotifier.Bot.Ownership
import PolyNotifier.Bot.Runs
import PolyNotifier.Common.Reference

/-!
# Users are isolated, except where an id is taken on trust

Ids reach a handler in two ways. Some it reads from the database itself, under the sender's
identity; others come with the callback data or with the dialogue state. Every handler writes to
rows of the first kind only, and so obeys `ownRows`, but two: the unsubscribe button and the
last step of the alert flow write to a subscription whose id they were handed.
`isolated_iff_not_trespass` says exactly when that subscription is somebody else's.
-/

namespace PolyNotifier

open Lib (Prog Table)
open Lib.Prog (Obeys)

variable {who : Option Identity} {g : Knowledge}

/-! ## The sender's row -/

/-- **`get_or_create_user` teaches the handler the sender's row**, and forgets nothing. -/
theorem userRules_ownRows {telegramId : Int} {botId : String}
    (hwho : who = some (telegramId, botId)) :
    UserRules (ownRows who) g telegramId botId (fun g' id => g'.users id)
      fun g' u => g'.users u.id where
  select := trivial
  found _ := ⟨.inr ⟨rfl, hwho⟩, .inr ⟨rfl, hwho⟩⟩
  rename _ _ _ _ hid := ⟨trivial, hid⟩
  insert _ _ _ := ⟨trivial, fun _ => .inr ⟨rfl, hwho⟩⟩
  reread _ _ hid := ⟨trivial, fun _ => .inr ⟨rfl, hid⟩⟩

/-! ## Handlers that write what is plain -/

theorem permits_plain : Permits (fun _ => True) Stmt.Plain := ⟨fun _ h => h, trivial, trivial, trivial⟩

/-- What is plain is allowed, whatever the handler knows. -/
theorem obeys_of_footprint {p : Handler Unit} (hp : Footprint (fun _ => True) Stmt.Plain p) :
    Obeys (ownRows who) g p fun _ _ => True := by
  refine hp.weaken (fun _ o _ ho => ?_) g
  cases o with
  | sql s =>
    cases s with
    | insertSubscription => exact ho.elim
    | deleteSubscription => exact ho.elim
    | insertAlert => exact ho.elim
    | updateAlert => exact ho.elim
    | _ => trivial
  | _ => trivial

theorem obeys_callbackBranch {chat : Int} {q : CallbackQuery} {state : DialogueState}
    {handler : Handler Unit} (h : callbackBranch chat q state = some handler) :
    Obeys (ownRows who) g handler fun _ _ => True := by
  apply obeys_of_footprint
  cases state with
  | awaitingMarketSelection markets =>
    cases h
    exact footprint_handleMarketSelection permits_plain.calm _ _ _ fun _ _ => trivial
  | awaitingOutcomeSelection conditionId question outcomes tokenIds =>
    cases h
    exact footprint_handleOutcomeSelection _ _ _ _ _ _ fun _ _ => trivial
  | awaitingSubscribeAlertType conditionId question outcomes tokenIds outcomeIndex =>
    cases h
    exact footprint_selectAlertType _ _ _ fun _ _ => trivial
  | awaitingAlertSubscription =>
    cases h
    exact footprint_handleAlertSubscriptionSelection permits_plain.calm _ _ fun _ _ => trivial
  | awaitingAlertType subscriptionId question =>
    cases h
    exact footprint_selectAlertType _ _ _ fun _ _ => trivial
  | _ => cases h

/-! ## The last step of the subscribe flow

It inserts for the sender's row, and puts the alert on the subscription it has read back. -/

/-- The last step of the subscribe flow inserts for the row it has read, and puts the alert on the
    subscription it has looked up for that row. -/
theorem ownRows_handleSubscribeAlertThreshold {x : Crates} {botId : String} {msg : Message}
    (hwho : ∀ s, msg.sender = some s → who = some (s.telegramId, botId))
    (conditionId question : String) (outcomes tokenIds : List String) (outcomeIndex : Int)
    (alertType : String) :
    Obeys (ownRows who) g (handleSubscribeAlertThreshold x botId msg conditionId question outcomes
      tokenIds outcomeIndex alertType) fun _ _ => True := by
  refine obeys_handleSubscribeAlertThreshold (fun s hs => userRules_ownRows (hwho s hs))
    (fun _ _ _ => trivial) ?_
  rintro g' u n _ now hu - rfl
  refine ⟨trivial, fun marketId pct => obeys_createSubscription hu ?_⟩
  rintro m _ - rfl
  exact ⟨trivial, fun id => .inr ⟨rfl, hu⟩⟩

/-! ## The two handlers that are handed an id -/

namespace World

variable {env : Env} {w : World}

/-- **The unsubscribe button** deletes the row, or nothing changes. -/
theorem after_callbackUnsubscribe (q : CallbackQuery) (subId : Int) :
    (after env (callbackUnsubscribe q subId) w).db = w.db ∨
      (∃ chat, q.message = some chat) ∧
        (after env (callbackUnsubscribe q subId) w).db = (w.db.deleteSubscription subId).2 := by
  unfold callbackUnsubscribe
  cases htel : env.telegram w.calls with
  | false =>
    rw [after_bind_error (run_answer_error htel)]
    exact .inl rfl
  | true =>
    rw [after_bind_ok (run_answer_ok htel)]
    cases q.message with
    | none => exact .inl rfl
    | some chat =>
      refine (after_sql_bind (s := .deleteSubscription subId) ?_ w.called).symm.imp And.left ?_
      · intro r
        cases r with
        | ok n =>
          dsimp only
          split <;> apply keepsDb_reply
        | error e => apply keepsDb_reply
      · rintro ⟨a, hexec⟩
        exact ⟨⟨chat, rfl⟩, (congrArg Prod.snd (Except.ok.inj hexec)).symm⟩

/-- The one-shot buttons: only an unsubscribe button changes anything. -/
theorem isolated_dispatchCallback {q : CallbackQuery}
    (h : ∀ chat data subId, q.message = some chat → q.data = some data →
      decodeUnsub data = some subId → ¬ w.db.Foreign who subId) :
    w.db.Isolated who (after env (dispatchCallback q) w).db := by
  unfold dispatchCallback
  cases hdata : q.data with
  | none => exact isolated_of_obeys (Q := fun _ _ => True) (obeys_answerCallbackQuery.mpr trivial) env w
  | some data =>
    dsimp only
    cases hsub : decodeUnsub data with
    | none => exact isolated_of_obeys (Q := fun _ _ => True) (obeys_answerCallbackQuery.mpr trivial) env w
    | some subId =>
      rcases after_callbackUnsubscribe q subId with hsame | ⟨⟨chat, hchat⟩, hdel⟩
      · rw [hsame]
        exact Db.Isolated.refl _ _
      · rw [hdel]
        exact Db.isolated_deleteSubscription (h chat data subId hchat hdata hsub)

end World

/-- The write of the last step of the alert flow. -/
def Db.setAlert (clock : NaiveDateTime) (tier : String) (subscriptionId : Int)
    (alertType : String) (threshold : F64) (d : Db) : Except DbError Db :=
  if tier = "free" ∧ 0 < d.countAlerts subscriptionId then
    d.updateAlert alertType threshold subscriptionId
  else d.insertAlert clock subscriptionId alertType threshold

namespace World

variable {env : Env} {w : World}

/-- A write followed by calls that leave the database alone. -/
theorem after_write {s : Stmt} {f : Except DbError s.Res → Handler Unit} {d' : Except DbError Db}
    (hok : ∀ {a d}, s.exec (env.clock w.calls) w.db = .ok (a, d) → d' = .ok d)
    (herror : ∀ {e}, s.exec (env.clock w.calls) w.db = .error e → d' = .error e)
    (hf : ∀ r, KeepsDb env (f r)) :
    d' = .ok (after env (sql s >>= f) w).db ∨
      (after env (sql s >>= f) w).db = w.db ∧
        ((∃ n, env.database n = false) ∨ ∃ e, d' = .error e) := by
  rcases after_sql_bind hf w with ⟨a, h⟩ | ⟨hsame, hno | ⟨e, h⟩⟩
  · exact .inl (hok h)
  · exact .inr ⟨hsame, .inl ⟨_, hno⟩⟩
  · exact .inr ⟨hsame, .inr ⟨e, herror h⟩⟩

/-- What the last step of the alert flow may leave: it changes user rows, and then makes its one
    write, unless something refuses. The database in between is named, because whether the write
    goes through is a question to it and not to the one the handler was started in. -/
def AlertOutcome (env : Env) (w : World) (telegramId : Int) (botId : String)
    (subscriptionId : Int) (alertType : String) (threshold : F64) (d' : Db) : Prop :=
  ∃ d₁, w.db.UsersOnly d₁ ∧
    ((d' = d₁ ∧ (w.db.account telegramId botId = none ∨ (∃ n, env.database n = false) ∨
      ∃ acc clock e, w.db.account telegramId botId = some acc ∧
        d₁.setAlert clock acc.tier subscriptionId alertType threshold = .error e)) ∨
    ∃ acc clock, w.db.account telegramId botId = some acc ∧
      d₁.setAlert clock acc.tier subscriptionId alertType threshold = .ok d')

theorem after_handleAlertThreshold (botId : String) {msg : Message} {sender : Sender}
    {pct : F64} (hp : parseThreshold msg = .ok pct) (hs : msg.sender = some sender)
    (env : Env) (w : World) (subscriptionId : Int) (question alertType : String) :
    AlertOutcome env w sender.telegramId botId subscriptionId alertType pct.div100
      (after env (handleAlertThreshold botId msg subscriptionId question alertType) w).db := by
  unfold handleAlertThreshold
  rw [hp, hs]
  dsimp only
  have hout := run_getOrCreateUser env w sender.telegramId botId none
  -- the user first: without a row there is no write
  cases hrun : (getOrCreateUser sender.telegramId botId none).run (perform env) w with
  | mk r w₁ =>
    rw [hrun] at hout
    obtain ⟨hu, _, hr⟩ := hout
    cases r with
    | error e =>
      rw [after_bind_error hrun]
      exact ⟨_, hu, .inl ⟨rfl, hr.imp_right .inl⟩⟩
    | ok u =>
      rw [after_bind_ok hrun]
      rcases run_query_cases (.countAlerts subscriptionId) w₁ with
        ⟨n, d, hexec, hq⟩ | ⟨e, hno, hq⟩
      · cases hexec
        rw [after_bind_ok hq]
        have hwrite : ∀ d', (d' = w₁.db ∧ ((∃ n, env.database n = false) ∨ ∃ e,
              w₁.db.setAlert (env.clock (w₁.calls + 1)) u.tier subscriptionId alertType pct.div100
                = .error e)) ∨
            w₁.db.setAlert (env.clock (w₁.calls + 1)) u.tier subscriptionId alertType pct.div100
              = .ok d' →
            AlertOutcome env w sender.telegramId botId subscriptionId alertType pct.div100 d' := by
          rintro d' (⟨rfl, hno | ⟨e, he⟩⟩ | hok)
          · exact ⟨_, hu, .inl ⟨rfl, .inr (.inl hno)⟩⟩
          · exact ⟨_, hu, .inl ⟨rfl, .inr (.inr ⟨_, _, e, hr.account, he⟩)⟩⟩
          · exact ⟨_, hu, .inr ⟨_, _, hr.account, hok⟩⟩
        split
        -- one write either way: the first alert is replaced for a free user, a further one is
        -- added for others
        · rename_i hfree
          apply hwrite
          rw [Db.setAlert, if_pos hfree, updateFirstAlert, Prog.bind_assoc]
          apply Or.symm
          apply after_write
          · exact Stmt.writing_ok
          · exact Stmt.writing_error
          · intro r
            cases r <;> exact (keepsDb_reply _ _).bind fun _ => keepsDb_updateDialogue _ _
        · rename_i hfree
          apply hwrite
          rw [Db.setAlert, if_neg hfree, insertAlert, Prog.bind_assoc]
          apply Or.symm
          apply after_write
          · exact Stmt.writing_ok
          · exact Stmt.writing_error
          · intro r
            cases r <;> exact (keepsDb_reply _ _).bind fun _ => keepsDb_updateDialogue _ _
      · rw [after_bind_error hq]
        refine ⟨_, hu, .inl ⟨rfl, .inr (.inl ?_)⟩⟩
        rcases hno with hno | hexec
        · exact ⟨_, hno⟩
        · cases hexec

end World

namespace Db

variable {d d₁ d' : Db} {acc : Account} {clock : NaiveDateTime} {subscriptionId : Int}
  {alertType : String} {threshold : F64}

theorem UsersOnly.isolated (h : UsersOnly d d₁) : Isolated who d d₁ :=
  isolated_of_same (by rw [h.subscriptions]) (by rw [h.alerts]) h.owner

theorem UsersOnly.foreign_iff (h : UsersOnly d d₁) (id : Int) :
    d₁.Foreign who id ↔ d.Foreign who id := by
  unfold Foreign
  rw [h.subscriptions]
  constructor
  all_goals
    rintro ⟨s, hfind, hne⟩
    refine ⟨s, hfind, ?_⟩
    have ho := h.owner s.userId (d.subscriptionUser s (Table.mem_of_find hfind).1)
    simpa [ho] using hne

/-- A write to a subscription that is not another's. -/
theorem isolated_setAlert {tier : String}
    (h : d.setAlert clock tier subscriptionId alertType threshold = .ok d')
    (hown : ¬ d.Foreign who subscriptionId) : Isolated who d d' := by
  unfold setAlert at h
  split at h
  · obtain ⟨hu, _, hs, _, hrows⟩ := updateAlert_ok h
    apply isolated_updateAlert hu hs hrows _ hown
    intro a ha
    have : a.subscriptionId = subscriptionId := by
      simpa using (Bool.and_eq_true_iff.mp ha).1
    exact ⟨this, this⟩
  · obtain ⟨_, hu, _, hs, _, hrows⟩ := insertAlert_ok h
    exact isolated_insertAlert hu hs hrows hown

/-- The write goes through, and an alert is not what it was: there is an account, the type is one
    of the three, and the free user's first alert was another, or there is room for one more. -/
def Rewrites (d : Db) (telegramId : Int) (botId : String) (subscriptionId : Int)
    (alertType : String) (threshold : F64) : Prop :=
  ∃ acc, d.account telegramId botId = some acc ∧ alertTypes.contains alertType ∧
    if acc.tier = "free" ∧ 0 < d.countAlerts subscriptionId then
      ∀ a, (d.alertsOf subscriptionId).head? = some a →
        (a.alertType, a.threshold) ≠ (alertType, threshold)
    else d.alerts.seq + 1 < 2 ^ 63

theorem countAlerts_pos : 0 < d.countAlerts subscriptionId ↔
    ∃ a, (d.alertsOf subscriptionId).head? = some a := by
  have hlen : (d.alertsOf subscriptionId).length = d.countAlerts subscriptionId := by
    rw [alertsOf, List.length_insertionSort, countAlerts]
  rw [← hlen]
  cases d.alertsOf subscriptionId <;> simp

variable {telegramId : Int} {botId : String}

theorem mem_of_updateAlert {a : Alert}
    (h : d.updateAlert alertType threshold subscriptionId = .ok d')
    (ha : (d.alertsOf subscriptionId).head? = some a) :
    { a with alertType := alertType, threshold := threshold } ∈ d'.alerts.rows := by
  obtain ⟨hmem, hsub⟩ := mem_alertsOf.mp (List.mem_of_head? ha)
  rw [(updateAlert_ok h).2.2.2.2]
  apply List.mem_map.mpr
  exact ⟨a, hmem, if_pos (by simp [hsub, ha])⟩

/-- A write that rewrites nothing, whoever owns the subscription. -/
theorem isolated_of_not_rewrites (hd : UsersOnly d d₁)
    (hacc : d.account telegramId botId = some acc)
    (h : d₁.setAlert clock acc.tier subscriptionId alertType threshold = .ok d')
    (hno : ¬ d.Rewrites telegramId botId subscriptionId alertType threshold) :
    Isolated who d₁ d' := by
  have hof : d₁.alertsOf subscriptionId = d.alertsOf subscriptionId := by
    rw [alertsOf, alertsOf, hd.alerts]
  have hcount : d₁.countAlerts subscriptionId = d.countAlerts subscriptionId := by
    rw [countAlerts, countAlerts, hd.alerts]
  unfold setAlert at h
  split at h
  · rename_i hfree
    -- the first alert is written with the values it has
    obtain ⟨a, ha⟩ := countAlerts_pos.mp hfree.2
    have htype : alertTypes.contains alertType :=
      (Bool.and_eq_true_iff.mp (d'.alerts.check _ (mem_of_updateAlert h ha))).1
    have hsame : (a.alertType, a.threshold) = (alertType, threshold) := by
      by_contra hne
      apply hno
      refine ⟨acc, hacc, htype, ?_⟩
      rw [if_pos (hcount ▸ hfree)]
      intro a' ha'
      obtain rfl : a' = a := Option.some.inj ((hof ▸ ha').symm.trans ha)
      exact hne
    obtain ⟨hu, _, hs, _, hrows⟩ := updateAlert_ok h
    apply isolated_of_same (by rw [hs])
    · rw [hrows]
      refine (List.map_congr_left fun r hr => ?_).trans (List.map_id' _)
      split
      · -- the one row that is written is `a`, which has these values
        rename_i hp
        simp only [ha, Option.map_some, Bool.and_eq_true, beq_iff_eq, Option.some.injEq] at hp
        have hmem := (mem_alertsOf.mp (List.mem_of_head? ha)).1
        obtain rfl : a = r := Table.eq_of_key hmem hr hp.2
        obtain ⟨h1, h2⟩ := Prod.mk.inj hsame
        rw [← h1, ← h2]
      · rfl
    · exact fun k _ => owner_congr hu k
  · rename_i hfree
    obtain ⟨_, _, _, _, hseq, hrows⟩ := insertAlert_ok h
    have hcheck := d'.alerts.check
    rw [hrows] at hcheck
    have hnew := hcheck _ (List.mem_append_right _ (List.mem_singleton_self _))
    -- a new alert is always a rewriting, for its owner is not the one who asks
    exfalso
    apply hno
    refine ⟨acc, hacc, (Bool.and_eq_true_iff.mp hnew).1, ?_⟩
    rw [if_neg (hcount ▸ hfree), ← hd.alerts, ← hseq]
    exact d'.alerts.seq_lt

/-- A write that rewrites something of another's is seen. -/
theorem not_isolated_of_rewrites (clock : NaiveDateTime) (hd : UsersOnly d d₁)
    (hacc : d.account telegramId botId = some acc)
    (hrw : d.Rewrites telegramId botId subscriptionId alertType threshold)
    (hnan : threshold ≠ .nan) (hforeign : d.Foreign who subscriptionId) :
    ∃ d', d₁.setAlert clock acc.tier subscriptionId alertType threshold = .ok d' ∧
      ¬ Isolated who d d' := by
  have hof : d₁.alertsOf subscriptionId = d.alertsOf subscriptionId := by
    rw [alertsOf, alertsOf, hd.alerts]
  have hcount : d₁.countAlerts subscriptionId = d.countAlerts subscriptionId := by
    rw [countAlerts, countAlerts, hd.alerts]
  obtain ⟨acc', hacc', htype, hw⟩ := hrw
  obtain rfl : acc' = acc := Option.some.inj (hacc'.symm.trans hacc)
  unfold setAlert
  rw [hcount]
  split at hw
  · rename_i hfree
    rw [if_pos hfree]
    obtain ⟨d', hok⟩ : ∃ d', d₁.updateAlert alertType threshold subscriptionId = .ok d' :=
      updateAlert_isOk htype hnan
    obtain ⟨a, ha⟩ := countAlerts_pos.mp hfree.2
    refine ⟨d', hok, fun hiso => ?_⟩
    have hmem := mem_alertsOf.mp (List.mem_of_head? ha)
    have hin : a ∈ d'.foreignAlerts who := by
      rw [hiso.2]
      exact mem_foreignAlerts.mpr ⟨hmem.1, hmem.2 ▸ hforeign⟩
    -- the old row and the new one have one key
    have heq := Table.eq_of_key (mem_foreignAlerts.mp hin).1
      (mem_of_updateAlert hok (hof ▸ ha)) rfl
    apply hw a ha
    rw [heq]
  · rename_i hfree
    rw [if_neg hfree]
    obtain ⟨s, hfind, hne⟩ := hforeign
    have hfk : d₁.subscriptions.hasKey subscriptionId := by
      obtain ⟨hs, hk⟩ := Table.mem_of_find hfind
      exact Table.hasKey_iff.mpr ⟨s, hd.subscriptions ▸ hs, hk⟩
    obtain ⟨d', hok⟩ : ∃ d', d₁.insertAlert clock subscriptionId alertType threshold = .ok d' :=
      insertAlert_isOk (by rw [hd.alerts]; exact hw) htype hnan hfk
    refine ⟨d', hok, fun hiso => ?_⟩
    obtain ⟨_, hu, _, hs, _, hrows⟩ := insertAlert_ok hok
    have hin : (⟨d₁.alerts.seq + 1, subscriptionId, alertType, threshold, false, 60, none,
        datetimeNow clock⟩ : Alert) ∈ d.foreignAlerts who := by
      rw [← hiso.2]
      refine mem_foreignAlerts.mpr ⟨by rw [hrows]; simp, ?_⟩
      have hback : d'.Foreign who subscriptionId ↔ d₁.Foreign who subscriptionId := by
        rw [Foreign, Foreign, hs]
        simp only [owner, hu]
      exact hback.mpr ((hd.foreign_iff _).mpr ⟨s, hfind, hne⟩)
    have hb : d₁.alerts.seq + 1 ≤ d.alerts.seq := (d.alerts.bound _ (mem_foreignAlerts.mp hin).1).2
    rw [hd.alerts] at hb
    omega

/-- A deleted subscription of another's is missed. -/
theorem not_isolated_deleteSubscription {id : Int} (h : d.Foreign who id) :
    ¬ Isolated who d (d.deleteSubscription id).2 := by
  intro hiso
  obtain ⟨s, hfind, hne⟩ := h
  obtain ⟨hs, hid⟩ := Table.mem_of_find hfind
  have hin : s ∈ (d.deleteSubscription id).2.foreignSubscriptions who := by
    rw [hiso.1]
    exact mem_foreignSubscriptions.mpr ⟨hs, hne⟩
  have hleft : !(s.id == id) := (List.mem_filter.mp (mem_foreignSubscriptions.mp hin).1).2
  have hid' : s.id = id := hid
  simp [hid'] at hleft

end Db

/-! ## The law -/

/-- The identity an update is handled for. -/
def Update.identity (botId : String) : Update → Option Identity
  | .message msg => msg.sender.map fun s => (s.telegramId, botId)
  | .callbackQuery q => some (q.sender.telegramId, botId)
  | .other => none

/-- The update makes its handler write to a subscription of another's: an unsubscribe button with
    such an id that no dialogue takes, or the threshold that ends an alert flow on such a
    subscription, if the write goes through. It is about the update, the dialogue and the database
    before, with the `UPDATE` or the `INSERT` as the database would execute it; the handler is not
    run for it. -/
def Trespass (deps : BotDeps) (w : World) (update : Update) : Prop :=
  match update with
  | .message msg =>
      (msg.text.or msg.caption).bind deps.parseCommand = none ∧
      ∃ sender subscriptionId question alertType pct, msg.sender = some sender ∧
        w.dialogues msg.chat = .awaitingAlertThreshold subscriptionId question alertType ∧
        parseThreshold msg = .ok pct ∧
        w.db.Foreign (update.identity deps.botId) subscriptionId ∧
        w.db.Rewrites sender.telegramId deps.botId subscriptionId alertType pct.div100
  | .callbackQuery q =>
      ∃ chat data subscriptionId, q.message = some chat ∧
        callbackBranch chat q (w.dialogues chat) = none ∧ q.data = some data ∧
        decodeUnsub data = some subscriptionId ∧
        w.db.Foreign (update.identity deps.botId) subscriptionId
  | .other => False

namespace World

variable {w : World}

theorem isolated_handleAlertThreshold {deps : BotDeps} {msg : Message} {subscriptionId : Int}
    {question alertType : String}
    (hdialogue : w.dialogues msg.chat = .awaitingAlertThreshold subscriptionId question alertType)
    (hcommand : (msg.text.or msg.caption).bind deps.parseCommand = none)
    (h : ¬ Trespass deps w (.message msg)) (env : Env) :
    w.db.Isolated ((Update.message msg).identity deps.botId)
      (after env (handleAlertThreshold deps.botId msg subscriptionId question alertType) w).db := by
  cases hp : parseThreshold msg with
  | error text =>
    have hsame : (after env (reply msg.chat text) w).db = w.db := keepsDb_reply _ _ _
    unfold handleAlertThreshold
    rw [hp]
    dsimp only
    rw [hsame]
    exact Db.Isolated.refl _ _
  | ok pct =>
    cases hs : msg.sender with
    | none =>
      unfold handleAlertThreshold
      rw [hp, hs]
      exact Db.Isolated.refl _ _
    | some sender =>
      obtain ⟨d₁, hu, ⟨hsame, _⟩ | ⟨acc, clock, hacc, hok⟩⟩ :=
        after_handleAlertThreshold deps.botId hp hs env w subscriptionId question alertType
      · rw [hsame]
        exact hu.isolated
      · refine hu.isolated.trans ?_
        -- of another: it rewrites nothing, or it would trespass; of no other: the write is the own
        -- one
        by_cases hforeign : w.db.Foreign ((Update.message msg).identity deps.botId) subscriptionId
        · apply Db.isolated_of_not_rewrites hu hacc hok
          intro hrw
          exact h ⟨hcommand, sender, subscriptionId, question, alertType, pct, hs, hdialogue, hp,
            hforeign, hrw⟩
        · apply Db.isolated_setAlert hok
          rw [hu.foreign_iff]
          exact hforeign

/-- With Telegram and the database answering, the button deletes the row. -/
theorem after_callbackUnsubscribe_ok {env : Env} {q : CallbackQuery} {chat : Int}
    (hchat : q.message = some chat) (htel : env.telegram w.calls = true)
    (hdb : env.database (w.calls + 1) = true) (subId : Int) :
    (after env (callbackUnsubscribe q subId) w).db = (w.db.deleteSubscription subId).2 ∧
      (after env (callbackUnsubscribe q subId) w).dialogues = w.dialogues := by
  unfold callbackUnsubscribe
  rw [after_bind_ok (run_answer_ok htel), hchat]
  dsimp only
  have hexec : execute env (.deleteSubscription subId) w.called
      = .ok (w.db.deleteSubscription subId) := execute_of_database hdb
  rw [after_bind_ok (run_sql_ok hexec)]
  dsimp only
  split <;> exact ⟨keepsDb_reply _ _ _, after_reply_dialogues _ _⟩

theorem not_isolated_handleAlertThreshold {botId : String} {msg : Message} {sender : Sender}
    {pct : F64} {subscriptionId : Int} {question alertType : String}
    (hs : msg.sender = some sender) (hp : parseThreshold msg = .ok pct)
    (hforeign : w.db.Foreign (some (sender.telegramId, botId)) subscriptionId)
    (hrw : w.db.Rewrites sender.telegramId botId subscriptionId alertType pct.div100) :
    ¬ w.db.Isolated (some (sender.telegramId, botId))
      (after answering (handleAlertThreshold botId msg subscriptionId question alertType) w).db := by
  have hnan : pct.div100 ≠ .nan := by
    obtain ⟨q, hq, _⟩ := parseThreshold_unit hp
    rw [hq]
    exact fun h => nomatch h
  obtain ⟨d₁, hu, ⟨_, hno | ⟨n, hno⟩ | ⟨acc, clock, e, hacc, he⟩⟩ | ⟨acc, clock, hacc, hok⟩⟩ :=
    after_handleAlertThreshold botId hp hs answering w subscriptionId question alertType
  · obtain ⟨acc, hacc, _⟩ := hrw
    rw [hno] at hacc
    cases hacc
  · cases hno
  · obtain ⟨d', hok, _⟩ := Db.not_isolated_of_rewrites clock hu hacc hrw hnan hforeign
    rw [he] at hok
    cases hok
  · obtain ⟨d', hok', hnot⟩ := Db.not_isolated_of_rewrites clock hu hacc hrw hnan hforeign
    rw [← Except.ok.inj (hok'.symm.trans hok)]
    exact hnot

end World

/-- **What does not trespass is isolated.** -/
theorem isolated_of_not_trespass {deps : BotDeps} {w : World} {update : Update}
    (h : ¬ Trespass deps w update) (env : Env) :
    w.db.Isolated (update.identity deps.botId) (dispatch deps env update w).db := by
  cases update with
  | message msg =>
    have hwho : ∀ s, msg.sender = some s →
        (Update.message msg).identity deps.botId = some (s.telegramId, deps.botId) := by
      intro s hs
      rw [Update.identity, hs, Option.map_some]
    cases hcommand : (msg.text.or msg.caption).bind deps.parseCommand with
    | some command =>
      rw [dispatch_some (schema_command hcommand)]
      exact isolated_of_obeys (obeys_of_footprint (footprint_runCommand deps msg permits_plain command))
        env w
    | none =>
      have hschema : schema deps w.dialogues (.message msg) = _ := schema_message hcommand
      -- only this state carries a subscription id that the dialogue brought along
      cases hdialogue : w.dialogues msg.chat with
      | awaitingUrl =>
        rw [hdialogue] at hschema
        rw [dispatch_some hschema]
        exact isolated_of_obeys (obeys_of_footprint
          (footprint_handleUrlInput msg .any)) env w
      | awaitingSubscribeAlertThreshold conditionId question outcomes tokenIds index alertType =>
        rw [hdialogue] at hschema
        rw [dispatch_some hschema]
        exact isolated_of_obeys (ownRows_handleSubscribeAlertThreshold hwho ..) env w
      | awaitingAlertThreshold subscriptionId question alertType =>
        rw [hdialogue] at hschema
        rw [dispatch_some hschema]
        exact World.isolated_handleAlertThreshold hdialogue hcommand h env
      | _ =>
        rw [hdialogue] at hschema
        rw [dispatch_none hschema]
        exact Db.Isolated.refl _ _
  | callbackQuery q =>
    cases hchat : q.message with
    | none =>
      rw [dispatch_some (schema_noMessage hchat)]
      apply World.isolated_dispatchCallback
      intro chat _ _ hchat' _ _
      rw [hchat] at hchat'
      cases hchat'
    | some chat =>
      rw [dispatch_some (schema_button hchat)]
      -- a button the state does not expect falls through to the callbacks that carry their own ids
      cases hbranch : callbackBranch chat q (w.dialogues chat) with
      | some handler =>
        apply isolated_of_obeys
        exact obeys_callbackBranch hbranch
      | none =>
        apply World.isolated_dispatchCallback
        intro chat' data subId hchat' hdata hsub hforeign
        obtain rfl : chat' = chat := Option.some.inj (hchat'.symm.trans hchat)
        exact h ⟨chat', data, subId, hchat', hbranch, hdata, hsub, hforeign⟩
  | other => exact Db.Isolated.refl _ _

theorem not_isolated_of_trespass {deps : BotDeps} {w : World} {update : Update}
    (h : Trespass deps w update) :
    ¬ w.db.Isolated (update.identity deps.botId) (dispatch deps World.answering update w).db := by
  cases update with
  | message msg =>
    obtain ⟨hcommand, sender, subscriptionId, question, alertType, pct, hs, hdialogue, hp, hforeign,
      hrw⟩ := h
    have hwho : (Update.message msg).identity deps.botId
        = some (sender.telegramId, deps.botId) := by
      rw [Update.identity, hs, Option.map_some]
    have hschema : schema deps w.dialogues (.message msg) = _ := schema_message hcommand
    rw [hdialogue] at hschema
    rw [dispatch_some hschema, hwho]
    rw [hwho] at hforeign
    exact World.not_isolated_handleAlertThreshold hs hp hforeign hrw
  | callbackQuery q =>
    obtain ⟨chat, data, subscriptionId, hchat, hbranch, hdata, hsub, hforeign⟩ := h
    rw [dispatch_some (schema_button hchat), hbranch, Option.getD_none]
    simp only [dispatchCallback, hdata, hsub]
    rw [(World.after_callbackUnsubscribe_ok hchat rfl rfl _).1]
    exact Db.not_isolated_deleteSubscription hforeign
  | other => exact h.elim

/-- **Users are isolated exactly where nothing trespasses**: a handler leaves what belongs to
    others alone, whatever its environment does, if and only if the update does not make it write
    to a subscription of another's that it was handed. -/
theorem isolated_iff_not_trespass (deps : BotDeps) (w : World) (update : Update) :
    (∀ env, w.db.Isolated (update.identity deps.botId) (dispatch deps env update w).db) ↔
      ¬ Trespass deps w update := by
  constructor
  · intro h htrespass
    exact not_isolated_of_trespass htrespass (h World.answering)
  · intro h env
    exact isolated_of_not_trespass h env

/-- The bot of the sample database, which knows no commands. -/
def sampleDeps : BotDeps := ⟨Crates.reference, "bot", fun _ => none, ""⟩

def sampleWorld : World := ⟨Db.sampleDb, fun _ => .idle, [], 0⟩

def buttonOfUser8 : Update := .callbackQuery ⟨"q", ⟨8, none, ""⟩, some 80, some "unsub:1"⟩

/-- User 8 presses an unsubscribe button with the id of a subscription of user 7. The handler
    deletes by id and asks nobody whose it is. -/
theorem unsubscribe_deletes_anothers :
    ¬ sampleWorld.db.Isolated (buttonOfUser8.identity "bot")
      (dispatch sampleDeps World.answering buttonOfUser8 sampleWorld).db := by
  have hforeign : sampleWorld.db.Foreign (buttonOfUser8.identity "bot") 1 :=
    Db.foreign_of_any (by decide +kernel)
  apply not_isolated_of_trespass
  exact ⟨80, "unsub:1", 1, rfl, rfl, rfl, by decide +kernel, hforeign⟩

end PolyNotifier
