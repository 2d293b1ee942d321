import PolyNotifier.Admin.Updates
import PolyNotifier.Alert.Prices
import PolyNotifier.Bot.Confinement
import PolyNotifier.Bot.States
import PolyNotifier.Notify.Recipient

/-!
# What any task writes

Five tasks write to the one database: the handlers of the bots, those of the admin API, the flush
and the marks of the engine, and the log of the notification service. `Evolves` is what they all
keep: a user stays who they are, an id that was given out and deleted is not given out again, and
the log only grows. Only the bots say what an alert is about: what the others leave of the alerts
is `Maintains`.
-/

namespace PolyNotifier

open Lib (Table)

namespace Db

/-- What the database may become, whoever writes. It is what a request that is still on its way can
    rely on: its user does not go, an id that is gone stays gone, and the log only grows. -/
structure Evolves (d d' : Db) : Prop where
  owners : UsersKept d d'
  subscriptions : Table.Later d.subscriptions d'.subscriptions
  alerts : Table.Later d.alerts d'.alerts
  log : d.notificationLog.rows <+: d'.notificationLog.rows

/-- What the database may become if no bot writes: each alert is one that was there, with the type
    and the threshold it had. The engine writes to alerts too, but only when they last fired. -/
structure Maintains (d d' : Db) : Prop extends Evolves d d' where
  conditions : ∀ a ∈ d'.alerts.rows, KeptAlert d a

variable {d d' : Db}

theorem Evolves.refl (d : Db) : Evolves d d :=
  ⟨fun _ _ h => h, .refl _, .refl _, List.prefix_refl _⟩

/-- A write to other tables than the users, the subscriptions, the alerts and the log. -/
theorem Evolves.of_kept (hu : d'.users = d.users) (hs : d'.subscriptions = d.subscriptions)
    (ha : d'.alerts = d.alerts) (hl : d'.notificationLog = d.notificationLog) : Evolves d d' :=
  ⟨.of_users hu, .of_eq hs, .of_eq ha, by rw [hl]⟩

/-- The alerts are as they were. -/
theorem Evolves.maintains (h : Evolves d d') (ha : d'.alerts = d.alerts) : Maintains d d' :=
  ⟨h, fun a hmem => ⟨a, by rwa [← ha], rfl, rfl, rfl⟩⟩

theorem Maintains.refl (d : Db) : Maintains d d := (Evolves.refl d).maintains rfl

/-! ## The bots -/

/-- **A statement of a handler.** -/
theorem Evolves.exec {clock : NaiveDateTime} {s : Stmt} {a : s.Res}
    (h : s.exec clock d = .ok (a, d')) : Evolves d d' := by
  have hlog : d.notificationLog.rows <+: d'.notificationLog.rows := by rw [(exec_asides h).1]
  have howners : UsersKept d d' := usersKept_exec h
  cases exec_effect h with
  | plain _ hu => exact ⟨howners, .of_eq hu.subscriptions, .of_eq hu.alerts, hlog⟩
  | upsertMarket _ hs ha => exact ⟨howners, .of_eq hs, .of_eq ha, hlog⟩
  | ignored hsame =>
    exact ⟨howners, .of_rows hsame.seq hsame.subscriptions, .of_eq hsame.alerts, hlog⟩
  | insertSubscription _ _ _ ha hseq hrows =>
    exact ⟨howners, .of_append hseq hrows rfl, .of_eq ha, hlog⟩
  | deleteSubscription hdel =>
    subst hdel
    exact ⟨howners, Table.later_delete _ _, Table.later_delete _ _, hlog⟩
  | insertAlert _ _ _ hs hseq hrows =>
    exact ⟨howners, .of_eq hs, .of_append hseq hrows rfl, hlog⟩
  | updateAlert _ _ hs hseq hrows =>
    refine ⟨howners, .of_eq hs, .of_map hseq hrows fun a => ?_, hlog⟩
    split <;> rfl

/-! ## The admin API, the engine and the service -/

/-- The users stay who they are if no column of their identity is written. -/
theorem UsersKept.of_map {f : User → User} (hrows : d'.users.rows = d.users.rows.map f)
    (hf : ∀ u, (f u).id = u.id ∧ (f u).telegramId = u.telegramId ∧ (f u).botId = u.botId) :
    UsersKept d d' := by
  intro k who hk
  obtain ⟨u, hu, rfl⟩ := Option.map_eq_some_iff.mp hk
  obtain ⟨hmem, hid⟩ := Table.mem_of_find hu
  obtain ⟨hid', htelegram, hbot⟩ := hf u
  have hfind : d'.users.find k = some (f u) := by
    refine Table.find_eq_some.mpr ⟨?_, hid'.trans hid⟩
    rw [hrows]
    exact List.mem_map_of_mem hmem
  rw [owner, hfind, Option.map_some, htelegram, hbot]

/-- **A statement of the admin API.** It writes no more than the tiers and limits of users. -/
theorem maintains_admin {x : Admin.AdminCrates} {clock : NaiveDateTime} {order : List Nat}
    {s : Admin.Statement} {a : s.Res} (h : s.exec x clock order d = .ok (a, d')) :
    Maintains d d' ∧ d'.notificationLog = d.notificationLog ∧ d'.identities = d.identities := by
  have hkept : ∀ f : User → User, OthersKept d d' → d'.users.rows = d.users.rows.map f →
      (∀ u, (f u).id = u.id ∧ (f u).telegramId = u.telegramId ∧ (f u).botId = u.botId) →
      Maintains d d' ∧ d'.notificationLog = d.notificationLog ∧ d'.identities = d.identities := by
    intro f hothers hrows hf
    refine ⟨Evolves.maintains ⟨.of_map hrows hf, .of_eq hothers.subscriptions,
      .of_eq hothers.alerts, ?_⟩ hothers.alerts, hothers.notificationLog, ?_⟩
    · rw [hothers.notificationLog]
    · unfold identities
      rw [hrows, List.map_map]
      refine List.map_congr_left fun u _ => ?_
      obtain ⟨_, htelegram, hbot⟩ := hf u
      exact Prod.ext htelegram hbot
  -- the two updates map the rows of the users, everything else reads
  cases s with
  | updateTier tier now telegramId =>
    obtain ⟨hothers, _, _, hrows⟩ := updateTier_ok h
    refine hkept _ hothers hrows fun u => ?_
    split <;> exact ⟨rfl, rfl, rfl⟩
  | updateMaxSubscriptions n now telegramId =>
    obtain ⟨hothers, _, _, hrows⟩ := updateMaxSubscriptions_ok h
    refine hkept _ hothers hrows fun u => ?_
    split <;> exact ⟨rfl, rfl, rfl⟩
  | listUsers =>
    have hsame : d' = d := by
      have hlist : d.listUsers.map (fun entries => (entries, d)) = .ok (a, d') := h
      cases hl : d.listUsers with
      | error e =>
        rw [hl] at hlist
        cases hlist
      | ok entries =>
        rw [hl] at hlist
        cases hlist
        rfl
    subst hsame
    exact ⟨.refl _, rfl, rfl⟩
  | _ =>
    cases h
    exact ⟨.refl _, rfl, rfl⟩

/-- **The flush of one market.** -/
theorem maintains_flushMarket (x : Crates) (env : FlushEnv) (e : AlertEngine) (d : Db)
    (entry : Int × List String) :
    Maintains d (AlertEngine.flushMarket x env e d entry) ∧
      (AlertEngine.flushMarket x env e d entry).notificationLog = d.notificationLog ∧
      (AlertEngine.flushMarket x env e d entry).users = d.users := by
  unfold AlertEngine.flushMarket
  dsimp only
  split
  · exact ⟨.refl _, rfl, rfl⟩
  · split
    · split
      · rename_i d' h
        obtain ⟨d₁, h₁, hu, hs, ha, _⟩ := updateMarketPrices_ok
          (x.writeDecimals (e.pricesOf entry.2)) (env.now entry.1) entry.1 d
        obtain rfl := Except.ok.inj (h₁.symm.trans h)
        exact ⟨(Evolves.of_kept hu hs ha (updateMarketPrices_log h)).maintains ha,
          updateMarketPrices_log h, hu⟩
      · exact ⟨.refl _, rfl, rfl⟩
    · exact ⟨.refl _, rfl, rfl⟩

/-- **The mark of an alert that fired.** -/
theorem maintains_recordAlertTriggered {now : NaiveDateTime} {id : Int}
    (h : d.recordAlertTriggered now id = .ok d') : Maintains d d' := by
  have hlog := recordAlertTriggered_log h
  obtain ⟨_, hsubs⟩ := recordAlertTriggered_markets h
  obtain ⟨d₁, h₁, hseq, hrows⟩ := recordAlertTriggered_ok now id d
  obtain rfl := Except.ok.inj (h₁.symm.trans h)
  refine ⟨⟨.of_users (recordAlertTriggered_users h), .of_eq hsubs, .of_map hseq hrows fun a => ?_,
    by rw [hlog]⟩, fun a ha => ?_⟩
  · split <;> rfl
  · rw [hrows] at ha
    obtain ⟨a₀, ha₀, rfl⟩ := List.mem_map.mp ha
    refine ⟨a₀, ha₀, ?_⟩
    split <;> exact ⟨rfl, rfl, rfl⟩

/-- **A request that is handled.** It adds to the log, and nothing else is written. -/
theorem maintains_handle (bots : BotRegistry) (env : HandleEnv) (req : NotificationRequest)
    (l : RateLimiter) (d : Db) :
    Maintains d (NotifyService.handle bots env req l d).2.2 ∧
      (NotifyService.handle bots env req l d).2.2.users = d.users := by
  have hkeeps := (NotifyService.handle_spec bots env req l d).keeps
  -- the log is what the specification of the handling already says, so only the other tables are
  -- left
  suffices hothers : ∀ d', (NotifyService.handle bots env req l d).2.2 = d' →
      d'.users = d.users ∧ d'.subscriptions = d.subscriptions ∧ d'.alerts = d.alerts by
    obtain ⟨hu, hs, ha⟩ := hothers _ rfl
    exact ⟨Evolves.maintains ⟨.of_users hu, .of_eq hs, .of_eq ha, hkeeps⟩ ha, hu⟩
  have hlogged : ∀ userId sends error, (NotifyService.logged env req userId sends error d).2.users
      = d.users ∧ (NotifyService.logged env req userId sends error d).2.subscriptions
        = d.subscriptions ∧ (NotifyService.logged env req userId sends error d).2.alerts
        = d.alerts := by
    intro userId sends error
    unfold NotifyService.logged
    cases hlog : NotifyService.logAttempt env req userId error.isNone error d with
    | none => exact ⟨rfl, rfl, rfl⟩
    | some d₁ =>
      unfold NotifyService.logAttempt at hlog
      split at hlog
      · split at hlog
        · rename_i d₂ hins
          cases hlog
          unfold insertNotificationLog at hins
          split at hins
          · cases hins
          · split at hins <;> cases hins
            exact ⟨rfl, rfl, rfl⟩
        · cases hlog
      · cases hlog
  intro d' hd'
  subst hd'
  unfold NotifyService.handle
  split
  · cases d.resolveUserIdByTelegram env.first req.userTelegramId with
    | none => exact ⟨rfl, rfl, rfl⟩
    | some userId =>
      dsimp only
      split
      · exact hlogged _ _ _
      · exact hlogged _ _ _
  · exact ⟨rfl, rfl, rfl⟩

end Db

/-! ## Calls -/

/-- **A call of a handler of a bot.** -/
theorem evolves_perform (env : Env) (o : BotOp) (w : World) :
    w.db.Evolves (World.perform env o w).2.db ∧
      (World.perform env o w).2.db.notificationLog = w.db.notificationLog := by
  cases o with
  | sql s =>
    cases hexec : World.execute env s w with
    | ok r =>
      obtain ⟨a, d⟩ := r
      rw [World.perform_sql_ok hexec]
      exact ⟨.exec (World.execute_ok hexec), (exec_asides (World.execute_ok hexec)).1⟩
    | error e =>
      rw [World.perform_sql_error hexec]
      exact ⟨.refl _, rfl⟩
  | _ => exact ⟨.refl _, rfl⟩

/-- **A call of a handler of the admin API.** -/
theorem maintains_adminPerform (x : Admin.AdminCrates) (env : Admin.Env) (o : Admin.AdminOp)
    (w : Admin.Store) : w.db.Maintains (Admin.perform x env o w).2.db ∧
      (Admin.perform x env o w).2.db.notificationLog = w.db.notificationLog ∧
      (Admin.perform x env o w).2.db.identities = w.db.identities := by
  cases o with
  | now => exact ⟨.refl _, rfl, rfl⟩
  | sql s =>
    by_cases hdb : env.database w.calls = true
    · cases hexec : s.exec x (env.clock w.calls) (env.order w.calls) w.db with
      | ok r =>
        simp only [Admin.perform, hdb, if_true, hexec]
        exact Db.maintains_admin hexec
      | error e =>
        simp only [Admin.perform, hdb, if_true, hexec]
        exact ⟨.refl _, trivial, trivial⟩
    · simp only [Admin.perform, if_neg hdb]
      exact ⟨.refl _, trivial, trivial⟩

end PolyNotifier
