import PolyNotifier.Bot.Dialogues

/-!
# Walking a handler under a monitor

`Prog.Obeys` for the calls of a handler. The monitors of this development watch the statements,
and some of them the dialogue updates (`Quiet`, `SqlOnly`): a message, an acknowledgement or a
request to a web service is always allowed and teaches nothing, and where Telegram refuses a call
the handler is over.

`get_or_create_user` and the last step of the subscribe flow are walked here, once for all monitors
that watch them: what is left to show for one of those is what it makes of each statement.
-/

namespace PolyNotifier

open Lib.Prog (Monitor Obeys Ends obeys_bind)

/-- The monitor watches the statements alone. -/
class SqlOnly {γ : Type} (M : Monitor botSig γ) : Prop where
  allows : ∀ g o, (∀ s, o ≠ .sql s) → M.allows g o
  next : ∀ g o r, (∀ s, o ≠ .sql s) → M.next g o r = g

/-- An operation that writes nothing the bot keeps. -/
def BotOp.Quiet (o : BotOp) : Prop :=
  (∀ s, o ≠ .sql s) ∧ ∀ chat state, o ≠ .updateDialogue chat state

/-- The monitor watches the statements and the dialogue updates. -/
class Quiet {γ : Type} (M : Monitor botSig γ) : Prop where
  allows : ∀ g o, o.Quiet → M.allows g o
  next : ∀ g o r, o.Quiet → M.next g o r = g

instance {γ : Type} (M : Monitor botSig γ) [SqlOnly M] : Quiet M where
  allows g o ho := SqlOnly.allows g o ho.1
  next g o r ho := SqlOnly.next g o r ho.1

variable {γ : Type} {M : Monitor botSig γ} {g : γ}

section Calls

variable [Quiet M]

theorem obeys_call {α : Type} {o : BotOp} {k : o.Res → Handler α} {Q : γ → α → Prop}
    (ho : o.Quiet) : Obeys M g (.op o k) Q ↔ ∀ r, Obeys M g (k r) Q := by
  constructor
  · intro h r
    have hr := h.2 r
    rwa [Quiet.next g o r ho] at hr
  · intro h
    refine ⟨Quiet.allows g o ho, fun r => ?_⟩
    rw [Quiet.next g o r ho]
    exact h r

@[simp] theorem obeys_sendMessage {chat : Int} {text : String} {keyboard : Option Keyboard}
    {Q : γ → Unit → Prop} : Obeys M g (sendMessage chat text keyboard) Q ↔ Q g () := by
  rw [sendMessage, obeys_call (by constructor <;> nofun)]
  constructor
  · intro h
    exact h true
  · intro h ok
    cases ok with
    | true => exact h
    | false => trivial

@[simp] theorem obeys_reply {chat : Int} {text : String} {Q : γ → Unit → Prop} :
    Obeys M g (reply chat text) Q ↔ Q g () := obeys_sendMessage

@[simp] theorem obeys_answerCallbackQuery {id : String} {Q : γ → Unit → Prop} :
    Obeys M g (answerCallbackQuery id) Q ↔ Q g () := by
  rw [answerCallbackQuery, obeys_call (by constructor <;> nofun)]
  constructor
  · intro h
    exact h true
  · intro h ok
    cases ok with
    | true => exact h
    | false => trivial

@[simp] theorem obeys_utcNow {Q : γ → NaiveDateTime → Prop} :
    Obeys M g utcNow Q ↔ ∀ t, Q g t :=
  obeys_call (by constructor <;> nofun)

end Calls

/-- A dialogue update, under a monitor that watches them. -/
theorem obeys_enter {chat : Int} {state : DialogueState} {Q : γ → Unit → Prop} :
    Obeys M g (updateDialogue chat state) Q ↔
      M.allows g (.updateDialogue chat state) ∧ Q (M.next g (.updateDialogue chat state) ()) () :=
  ⟨fun h => ⟨h.1, h.2 ()⟩, fun h => ⟨h.1, fun _ => h.2⟩⟩

@[simp] theorem obeys_updateDialogue [SqlOnly M] {chat : Int} {state : DialogueState}
    {Q : γ → Unit → Prop} : Obeys M g (updateDialogue chat state) Q ↔ Q g () := by
  have ho : ∀ s, BotOp.updateDialogue chat state ≠ .sql s := nofun
  rw [obeys_enter, SqlOnly.next g _ _ ho]
  exact and_iff_right (SqlOnly.allows g _ ho)

@[simp] theorem obeys_sql {s : Stmt} {Q : γ → Except DbError s.Res → Prop} :
    Obeys M g (sql s) Q ↔ M.allows g (.sql s) ∧ ∀ r, Q (M.next g (.sql s) r) r := Iff.rfl

/-- A statement with `?`: where it fails, the handler is over. -/
@[simp] theorem obeys_query {s : Stmt} {Q : γ → s.Res → Prop} :
    Obeys M g (query s) Q ↔
      M.allows g (.sql s) ∧ ∀ a, Q (M.next g (.sql s) (.ok a)) a := by
  constructor
  · intro h
    exact ⟨h.1, fun a => h.2 (.ok a)⟩
  · intro h
    refine ⟨h.1, fun r => ?_⟩
    cases r with
    | ok a => exact h.2 a
    | error e => trivial

/-! ## The sender's row -/

/-- What the statements of `get_or_create_user` teach: `K` of an id that a row may be read by, and
    `R` of a row that was read. A monitor that watches user rows says these five things, and has
    the walk through all the branches of the function in return. -/
structure UserRules (M : Monitor botSig γ) (g : γ) (telegramId : Int) (botId : String)
    (K : γ → Int → Prop) (R : γ → User → Prop) : Prop where
  select : M.allows g (.sql (.selectUser telegramId botId))
  found : ∀ u, K (M.next g (.sql (.selectUser telegramId botId)) (.ok (some u))) u.id ∧
    R (M.next g (.sql (.selectUser telegramId botId)) (.ok (some u))) u
  rename : ∀ g' username now id, K g' id → M.allows g' (.sql (.updateUsername username now id)) ∧
    K (M.next g' (.sql (.updateUsername username now id)) (.ok ())) id
  insert : ∀ g' username, g' = M.next g (.sql (.selectUser telegramId botId)) (.ok none) →
    M.allows g' (.sql (.insertUser telegramId botId username)) ∧
      ∀ id, K (M.next g' (.sql (.insertUser telegramId botId username)) (.ok id)) id
  reread : ∀ g' id, K g' id → M.allows g' (.sql (.selectUserById id)) ∧
    ∀ u, R (M.next g' (.sql (.selectUserById id)) (.ok u)) u

/-- **`get_or_create_user` ends with a row it has read**: the one it found, or one it has renamed or
    inserted before. -/
theorem UserRules.obeys [Quiet M] {telegramId : Int} {botId : String} {username : Option String}
    {K : γ → Int → Prop} {R Q : γ → User → Prop} (h : UserRules M g telegramId botId K R)
    (hQ : ∀ g' u, R g' u → Q g' u) : Obeys M g (getOrCreateUser telegramId botId username) Q := by
  refine obeys_bind.mpr (obeys_query.mpr ⟨h.select, fun existing => ?_⟩)
  cases existing with
  | some user =>
    obtain ⟨hid, hrow⟩ := h.found user
    dsimp only
    split
    · -- the row is read again after the new name is written
      refine obeys_bind.mpr (obeys_utcNow.mpr fun now => ?_)
      obtain ⟨hallow, hid'⟩ := h.rename _ username now user.id hid
      refine obeys_bind.mpr (obeys_query.mpr ⟨hallow, fun _ => ?_⟩)
      obtain ⟨hread, hrow'⟩ := h.reread _ user.id hid'
      exact obeys_query.mpr ⟨hread, fun u => hQ _ u (hrow' u)⟩
    · exact hQ _ user hrow
  | none =>
    obtain ⟨hallow, hid⟩ := h.insert _ username rfl
    refine obeys_bind.mpr (obeys_query.mpr ⟨hallow, fun id => ?_⟩)
    obtain ⟨hread, hrow⟩ := h.reread _ id (hid id)
    exact obeys_query.mpr ⟨hread, fun u => hQ _ u (hrow u)⟩

/-! ## The last step of the subscribe flow

Under a monitor of the statements, what is left of the handler is its five statements: the count,
the upsert, and those of `createSubscription`. -/

section Subscribe

variable [SqlOnly M]

theorem obeys_reply_idle {chat : Int} {text : String} :
    Obeys M g (do
      reply chat text
      updateDialogue chat .idle) fun _ _ => True :=
  obeys_bind.mpr (obeys_reply.mpr (obeys_updateDialogue.mpr trivial))

/-- The row is looked up, and gets an alert, where the `INSERT` has added one. -/
theorem obeys_createSubscription {chat userId marketId outcomeIndex : Int}
    {question label alertType : String} {pct : F64}
    (hinsert : M.allows g (.sql (.insertSubscription userId marketId outcomeIndex)))
    (hcreated : ∀ n g', n ≠ 0 →
      g' = M.next g (.sql (.insertSubscription userId marketId outcomeIndex)) (.ok n) →
      M.allows g' (.sql (.selectSubscriptionId userId marketId outcomeIndex)) ∧
        ∀ id, M.allows (M.next g' (.sql (.selectSubscriptionId userId marketId outcomeIndex))
          (.ok (some id))) (.sql (.insertAlert id alertType pct.div100))) :
    Obeys M g (createSubscription chat userId marketId outcomeIndex question label alertType pct)
      fun _ _ => True := by
  refine obeys_bind.mpr (obeys_sql.mpr ⟨hinsert, fun result => ?_⟩)
  split
  · exact obeys_reply_idle
  · rename_i n hn
    obtain ⟨hselect, halert⟩ := hcreated n _ hn rfl
    refine obeys_bind.mpr (obeys_query.mpr ⟨hselect, fun row => ?_⟩)
    cases row with
    | some subscriptionId =>
      refine obeys_bind.mpr (obeys_sql.mpr ⟨halert subscriptionId, fun result => ?_⟩)
      cases result <;> exact obeys_reply_idle
    | none => exact obeys_reply_idle
  · exact obeys_reply_idle

/-- A market is written, and a subscription is created, after a count below the limit of the row
    that was read. -/
theorem obeys_handleSubscribeAlertThreshold {x : Crates} {botId : String} {msg : Message}
    {conditionId question : String} {outcomes tokenIds : List String} {outcomeIndex : Int}
    {alertType : String} {K : γ → Int → Prop} {R : γ → User → Prop}
    (huser : ∀ sender, msg.sender = some sender → UserRules M g sender.telegramId botId K R)
    (hcount : ∀ g' u, R g' u → M.allows g' (.sql (.countActiveSubscriptions u.id)))
    (hcreate : ∀ g' u n g₁ now, R g' u → ¬ u.maxSubscriptions ≤ n →
      g₁ = M.next g' (.sql (.countActiveSubscriptions u.id)) (.ok n) →
      M.allows g₁ (.sql (.upsertMarket now conditionId question none (x.writeStrings outcomes)
        (x.writeStrings tokenIds))) ∧
      ∀ marketId pct, Obeys M (M.next g₁ (.sql (.upsertMarket now conditionId question none
        (x.writeStrings outcomes) (x.writeStrings tokenIds))) (.ok marketId))
        (createSubscription msg.chat u.id marketId outcomeIndex question
          (outcomeLabel outcomes outcomeIndex) alertType pct) fun _ _ => True) :
    Obeys M g (handleSubscribeAlertThreshold x botId msg conditionId question outcomes tokenIds
      outcomeIndex alertType) fun _ _ => True := by
  unfold handleSubscribeAlertThreshold
  split
  · exact obeys_reply.mpr trivial
  · rename_i pct _
    cases hs : msg.sender with
    | none => trivial
    | some sender =>
      refine obeys_bind.mpr ((huser sender hs).obeys fun g' u hu => ?_)
      refine obeys_bind.mpr (obeys_query.mpr ⟨hcount g' u hu, fun activeCount => ?_⟩)
      split
      · exact obeys_reply_idle
      · rename_i hbelow
        refine obeys_bind.mpr (obeys_utcNow.mpr fun now => ?_)
        obtain ⟨hmarket, hrest⟩ := hcreate g' u activeCount _ now hu hbelow rfl
        exact obeys_bind.mpr (obeys_query.mpr ⟨hmarket, fun marketId => hrest marketId pct⟩)

end Subscribe

/-! ## Runs in which every statement is executed -/

/-- The statement was executed. -/
def Answered : (o : BotOp) → o.Res → Prop
  | .sql _, r => ∃ a, r = .ok a
  | _, _ => True

instance : (o : BotOp) → (r : o.Res) → Decidable (Answered o r)
  | .sql _, .ok a => isTrue ⟨a, rfl⟩
  | .sql _, .error _ => isFalse nofun
  | .answerCallbackQuery _, _ => isTrue trivial
  | .sendMessage .., _ => isTrue trivial
  | .updateDialogue .., _ => isTrue trivial
  | .gammaEvents _, _ => isTrue trivial
  | .getMidpoints _, _ => isTrue trivial
  | .now, _ => isTrue trivial

section Ends

variable {F : γ → Prop}

@[simp] theorem ends_sendMessage [Quiet M] {chat : Int} {text : String}
    {keyboard : Option Keyboard} {Q : γ → Unit → Prop} :
    Ends Answered M F g (sendMessage chat text keyboard) Q ↔ Q g () ∧ F g := by
  have ho : (BotOp.sendMessage chat text keyboard).Quiet := by constructor <;> nofun
  constructor
  · intro h
    have htrue := h.2 true trivial
    have hfalse := h.2 false trivial
    rw [Quiet.next g _ _ ho] at htrue hfalse
    exact ⟨htrue, hfalse⟩
  · intro h
    refine ⟨Quiet.allows g _ ho, fun ok _ => ?_⟩
    rw [Quiet.next g _ _ ho]
    cases ok with
    | true => exact h.1
    | false => exact h.2

@[simp] theorem ends_reply [Quiet M] {chat : Int} {text : String} {Q : γ → Unit → Prop} :
    Ends Answered M F g (reply chat text) Q ↔ Q g () ∧ F g := ends_sendMessage

@[simp] theorem ends_updateDialogue [SqlOnly M] {chat : Int} {state : DialogueState}
    {Q : γ → Unit → Prop} : Ends Answered M F g (updateDialogue chat state) Q ↔ Q g () := by
  have ho : ∀ s, BotOp.updateDialogue chat state ≠ .sql s := nofun
  constructor
  · intro h
    have hunit := h.2 () trivial
    rwa [SqlOnly.next g _ _ ho] at hunit
  · intro h
    refine ⟨SqlOnly.allows g _ ho, fun r _ => ?_⟩
    rw [SqlOnly.next g _ _ ho]
    exact h

@[simp] theorem ends_utcNow [Quiet M] {Q : γ → NaiveDateTime → Prop} :
    Ends Answered M F g utcNow Q ↔ ∀ t, Q g t := by
  have ho : BotOp.now.Quiet := by constructor <;> nofun
  constructor
  · intro h t
    have ht := h.2 t trivial
    rwa [Quiet.next g _ _ ho] at ht
  · intro h
    refine ⟨Quiet.allows g _ ho, fun t _ => ?_⟩
    rw [Quiet.next g _ _ ho]
    exact h t

@[simp] theorem ends_sql {s : Stmt} {Q : γ → Except DbError s.Res → Prop} :
    Ends Answered M F g (sql s) Q ↔
      M.allows g (.sql s) ∧ ∀ a, Q (M.next g (.sql s) (.ok a)) (.ok a) := by
  constructor
  · intro h
    exact ⟨h.1, fun a => h.2 (.ok a) ⟨a, rfl⟩⟩
  · intro h
    refine ⟨h.1, ?_⟩
    rintro _ ⟨a, rfl⟩
    exact h.2 a

@[simp] theorem ends_query {s : Stmt} {Q : γ → s.Res → Prop} :
    Ends Answered M F g (query s) Q ↔
      M.allows g (.sql s) ∧ ∀ a, Q (M.next g (.sql s) (.ok a)) a := by
  constructor
  · intro h
    exact ⟨h.1, fun a => h.2 (.ok a) ⟨a, rfl⟩⟩
  · intro h
    refine ⟨h.1, ?_⟩
    rintro _ ⟨a, rfl⟩
    exact h.2 a

end Ends

end PolyNotifier
