import PolyNotifier.Bot.Api
import PolyNotifier.Common.Statements

/-!
# What one call does to the database

`Effect` is the inversion of a statement: the tables it leaves alone and what it does to the
others, one constructor for each kind of write. `perform_effect` is the same for an operation of
a handler: a statement that was executed, or no change.
-/

namespace PolyNotifier

/-- A statement that writes no market, no subscription and no alert. -/
def Stmt.Plain : Stmt → Prop
  | .upsertMarket .. => False
  | .insertSubscription .. => False
  | .deleteSubscription .. => False
  | .insertAlert .. => False
  | .updateAlert .. => False
  | _ => True

def Stmt.UpsertsMarket : Stmt → Prop
  | .upsertMarket .. => True
  | _ => False

def Stmt.InsertsSubscription : Stmt → Prop
  | .insertSubscription .. => True
  | _ => False

def Stmt.InsertsAlert : Stmt → Prop
  | .insertAlert .. => True
  | _ => False

/-- The database before and after a statement that was executed. There are many statements and few
    kinds of writes: an invariant of the tables is proved for the kinds, and `exec_effect` is the
    only place where all statements are gone through. -/
inductive Effect (d d' : Db) : Stmt → Prop
  | plain {s : Stmt} (isPlain : s.Plain) (users : d.UsersOnly d') (tiers : d.TiersKept d') :
      Effect d d' s
  | upsertMarket {now : NaiveDateTime} {conditionId question outcomes tokenIds : String}
      {slug : Option String} (users : d'.users = d.users)
      (subscriptions : d'.subscriptions = d.subscriptions) (alerts : d'.alerts = d.alerts) :
      Effect d d' (.upsertMarket now conditionId question slug outcomes tokenIds)
  | ignored {userId marketId outcomeIndex : Int} (ignored : d.Ignored d') :
      Effect d d' (.insertSubscription userId marketId outcomeIndex)
  | insertSubscription {userId marketId outcomeIndex : Int} (createdAt : NaiveDateTime)
      (users : d'.users = d.users) (markets : d'.markets = d.markets)
      (alerts : d'.alerts = d.alerts) (seq : d'.subscriptions.seq = d.subscriptions.seq + 1)
      (rows : d'.subscriptions.rows = d.subscriptions.rows ++
        [⟨d.subscriptions.seq + 1, userId, marketId, outcomeIndex, true, createdAt⟩]) :
      Effect d d' (.insertSubscription userId marketId outcomeIndex)
  | deleteSubscription {id : Int} (deleted : d' = (d.deleteSubscription id).2) :
      Effect d d' (.deleteSubscription id)
  | insertAlert {subscriptionId : Int} {alertType : String} {threshold : F64}
      (createdAt : NaiveDateTime) (users : d'.users = d.users) (markets : d'.markets = d.markets)
      (subscriptions : d'.subscriptions = d.subscriptions)
      (seq : d'.alerts.seq = d.alerts.seq + 1)
      (rows : d'.alerts.rows = d.alerts.rows ++ [⟨d.alerts.seq + 1, subscriptionId, alertType,
        threshold, false, 60, none, createdAt⟩]) :
      Effect d d' (.insertAlert subscriptionId alertType threshold)
  | updateAlert {subscriptionId : Int} {alertType : String} {threshold : F64}
      (users : d'.users = d.users) (markets : d'.markets = d.markets)
      (subscriptions : d'.subscriptions = d.subscriptions) (seq : d'.alerts.seq = d.alerts.seq)
      (rows : d'.alerts.rows = d.alerts.rows.map fun a =>
        if a.subscriptionId == subscriptionId &&
            (d.alertsOf subscriptionId).head?.map Alert.id == some a.id then
          { a with alertType := alertType, threshold := threshold }
        else a) :
      Effect d d' (.updateAlert alertType threshold subscriptionId)

variable {d d' : Db}

/-- A plain statement that changed nothing. -/
theorem Effect.read {s : Stmt} (hs : s.Plain) (h : d' = d) : Effect d d' s := by
  subst h
  exact .plain hs (.refl _) (.of_users rfl)

/-- The users stay, or a plain statement has changed them. -/
theorem Effect.users {s : Stmt} (h : Effect d d' s) :
    (d.UsersOnly d' ∧ d.TiersKept d') ∨ d'.users = d.users := by
  cases h with
  | plain _ hu htiers => exact .inl ⟨hu, htiers⟩
  | upsertMarket hu => exact .inr hu
  | ignored hsame => exact .inr hsame.users
  | insertSubscription _ hu => exact .inr hu
  | deleteSubscription hdel => exact .inr (by rw [hdel]; rfl)
  | insertAlert _ hu => exact .inr hu
  | updateAlert hu => exact .inr hu

/-- **No user goes, and no identity changes.** -/
theorem Effect.owner {s : Stmt} (h : Effect d d' s) {k : Int} {who : Int × String}
    (hk : d.owner k = some who) : d'.owner k = some who := by
  rcases h.users with ⟨hu, _⟩ | hu
  · rw [hu.owner k (Db.hasKey_of_owner hk), hk]
  · rw [← hk, Db.owner, Db.owner, hu]

/-- **Every statement has an effect of the kinds above.** -/
theorem exec_effect {clock : NaiveDateTime} {s : Stmt} {a : s.Res}
    (h : s.exec clock d = .ok (a, d')) : Effect d d' s := by
  cases s with
  | selectUser telegramId botId => exact .read trivial (Stmt.reading_ok h).2
  | selectUserById id => exact .read trivial (Stmt.reading_ok h).2
  | updateUsername username now id =>
    have hr := Stmt.writing_ok h
    exact .plain trivial (Db.updateUsername_ok hr) (Db.updateUsername_tiers hr)
  | insertUser telegramId botId username =>
    exact .plain trivial (Db.insertUser_ok h).1 (Db.insertUser_tiers h)
  | updateTimezone timezone now id =>
    have hr := Stmt.writing_ok h
    exact .plain trivial (Db.updateTimezone_ok hr) (Db.updateTimezone_tiers hr)
  | upsertMarket now conditionId question slug outcomes tokenIds =>
    obtain ⟨hu, hs, ha, _⟩ := Db.upsertMarket_ok h
    exact .upsertMarket hu hs ha
  | selectOutcomes conditionId => cases h; exact .read trivial rfl
  | getUserSubscriptions userId => exact .read trivial (Stmt.reading_ok h).2
  | countActiveSubscriptions userId => cases h; exact .read trivial rfl
  -- the one statement with two effects: the key is free, or it is taken and nothing happens
  | insertSubscription userId marketId outcomeIndex =>
    rcases Db.insertSubscription_ok h with ⟨_, hsame, _⟩ | ⟨_, hu, hm, ha, hseq, hrows⟩
    · exact .ignored hsame
    · exact .insertSubscription _ hu hm ha hseq hrows
  | selectSubscriptionId userId marketId outcomeIndex => cases h; exact .read trivial rfl
  | selectQuestion id => cases h; exact .read trivial rfl
  | deleteSubscription id => cases h; exact .deleteSubscription rfl
  | insertAlert subscriptionId alertType threshold =>
    obtain ⟨_, hu, hm, hs, hseq, hrows⟩ := Db.insertAlert_ok (Stmt.writing_ok h)
    exact .insertAlert _ hu hm hs hseq hrows
  | countAlerts subscriptionId => cases h; exact .read trivial rfl
  | selectAlerts subscriptionId => cases h; exact .read trivial rfl
  | updateAlert alertType threshold subscriptionId =>
    obtain ⟨hu, hm, hs, hseq, hrows⟩ := Db.updateAlert_ok (Stmt.writing_ok h)
    exact .updateAlert hu hm hs hseq hrows
  | insertFeedback userId message =>
    obtain ⟨hu, hm, hs, ha⟩ := Db.insertFeedback_ok h
    exact .plain trivial ⟨hm, hs, ha, fun k _ => Db.owner_congr hu k⟩ (.of_users hu)
  | getLastFeedbackTime userId => cases h; exact .read trivial rfl

/-- **The tables the effects say nothing of.** No statement of a handler touches the log of the
    notifications, and only one the feedback. -/
theorem exec_asides {clock : NaiveDateTime} {s : Stmt} {a : s.Res}
    (h : s.exec clock d = .ok (a, d')) :
    d'.notificationLog = d.notificationLog ∧
      ((∀ userId message, s ≠ .insertFeedback userId message) → d'.feedback = d.feedback) := by
  have hread : d' = d → d'.notificationLog = d.notificationLog ∧
      ((∀ userId message, s ≠ .insertFeedback userId message) → d'.feedback = d.feedback) := by
    rintro rfl
    exact ⟨rfl, fun _ => rfl⟩
  -- each statement that writes is unfolded once: it replaces tables, and neither of these two
  cases s with
  | selectUser => exact hread (Stmt.reading_ok h).2
  | selectUserById => exact hread (Stmt.reading_ok h).2
  | getUserSubscriptions => exact hread (Stmt.reading_ok h).2
  | updateUsername =>
    have hr := Stmt.writing_ok h
    unfold Db.updateUsername at hr
    split at hr <;> cases hr
    exact ⟨rfl, fun _ => rfl⟩
  | insertUser telegramId botId username =>
    have hins : d.insertUser clock telegramId botId username = .ok (a, d') := h
    unfold Db.insertUser at hins
    split at hins <;> cases hins
    exact ⟨rfl, fun _ => rfl⟩
  | updateTimezone =>
    have hr := Stmt.writing_ok h
    unfold Db.updateTimezone at hr
    split at hr <;> cases hr
    exact ⟨rfl, fun _ => rfl⟩
  | upsertMarket now conditionId question slug outcomes tokenIds =>
    have hup : d.upsertMarket clock now conditionId question slug outcomes tokenIds
      = .ok (a, d') := h
    unfold Db.upsertMarket at hup
    repeat' split at hup
    all_goals cases hup
    all_goals exact ⟨rfl, fun _ => rfl⟩
  | insertSubscription userId marketId outcomeIndex =>
    have hins : d.insertSubscription clock userId marketId outcomeIndex = .ok (a, d') := h
    unfold Db.insertSubscription at hins
    repeat' split at hins
    all_goals cases hins
    all_goals exact ⟨rfl, fun _ => rfl⟩
  | deleteSubscription =>
    cases h
    exact ⟨rfl, fun _ => rfl⟩
  | insertAlert =>
    have hr := Stmt.writing_ok h
    unfold Db.insertAlert at hr
    repeat' split at hr
    all_goals cases hr
    all_goals exact ⟨rfl, fun _ => rfl⟩
  | updateAlert =>
    have hr := Stmt.writing_ok h
    unfold Db.updateAlert at hr
    dsimp only at hr
    split at hr <;> cases hr
    exact ⟨rfl, fun _ => rfl⟩
  | insertFeedback userId message =>
    -- the one that inserts feedback: the log is as it was
    have hins : d.insertFeedback clock userId message = .ok (a, d') := h
    unfold Db.insertFeedback at hins
    repeat' split at hins
    all_goals cases hins
    all_goals exact ⟨rfl, fun hs => absurd rfl (hs userId message)⟩
  | _ =>
    cases h
    exact ⟨rfl, fun _ => rfl⟩

/-- **An operation of a handler**: a statement that was executed, with its answer, or the
    database is as it was. -/
theorem perform_effect (env : Env) (o : BotOp) (w : World) :
    (World.perform env o w).2.db = w.db ∨
      ∃ s, o = .sql s ∧ Effect w.db (World.perform env o w).2.db s := by
  cases o with
  | sql s =>
    cases hexec : World.execute env s w with
    | ok r =>
      rw [World.perform_sql_ok hexec]
      exact .inr ⟨s, rfl, exec_effect (World.execute_ok hexec)⟩
    | error e =>
      rw [World.perform_sql_error hexec]
      exact .inl rfl
  | _ => exact .inl rfl

end PolyNotifier
