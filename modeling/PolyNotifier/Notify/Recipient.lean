import PolyNotifier.Alert.Engine
import PolyNotifier.Bot.Effects
import PolyNotifier.Common.Reference
import PolyNotifier.Notify.Delivery
import PolyNotifier.Scheduler.DailySummary

/-!
# Whose log entry is it

A user of this deployment is a pair: a Telegram id and the bot it talks to. A request carries
both, and the service sends it through that bot. The row of the log carries a `users.id` instead,
which the service looks up by the Telegram id alone.

A `Produced` request is one the alert engine or the daily summary makes, and the pair it carries
is the identity of a user (`Produced.owner`), who stays a user whatever the services do to the
database afterwards (`Db.UsersKept`). `logged_under_own_user_iff` says when the log entry is that
user's.
-/

namespace PolyNotifier

open AlertEngine (Firing TickEnv)
open NotifyService (handle handle_once)

/-! ## Users stay -/

namespace Db

/-- No user has gone, and no identity has changed. -/
def UsersKept (d d' : Db) : Prop := ∀ k who, d.owner k = some who → d'.owner k = some who

variable {d d' : Db}

theorem UsersKept.trans {d'' : Db} (h : UsersKept d d') (h' : UsersKept d' d'') :
    UsersKept d d'' := fun k who hk => h' k who (h k who hk)

theorem UsersKept.of_users (h : d'.users = d.users) : UsersKept d d' := by
  intro k who hk
  rw [owner, h]
  exact hk

/-- **Every statement of the bot keeps the users.** -/
theorem usersKept_exec {clock : NaiveDateTime} {s : Stmt} {a : s.Res}
    (h : s.exec clock d = .ok (a, d')) : UsersKept d d' :=
  fun _ _ hk => (exec_effect h).owner hk

end Db

/-! ## Who is notified -/

/-- A request the alert engine makes on a tick, with the rules it cached from the database; or a
    request the daily summary makes from it. The engine may have been in any state before the
    refresh, and the tick may be any: that the request names a user of the database comes from the
    rows alone. -/
inductive Produced (x : Crates) (cfg : EngineConfig) (d : Db) : NotificationRequest → Prop
  | alert {order : List Nat} {rows : List AlertRow} {conditions : Option (List ConditionRow)}
      {before e : AlertEngine} {env : TickEnv} {update : PriceUpdate} {f : Firing}
      (hrows : d.fetchAlertRows order = .ok rows)
      (hcache : e.ruleCache
        = (AlertEngine.refreshCache x (some rows) conditions before).ruleCache)
      (hf : f ∈ (AlertEngine.handlePriceUpdate x cfg env update e).2.1) :
      Produced x cfg d f.request
  | summary {rows : List SummaryRow} {env : SummaryEnv} {sent : Int × NotificationRequest}
      (hrows : d.fetchSummaryRows = .ok rows) (hsent : sent ∈ sendSummaries x env rows) :
      Produced x cfg d sent.2

namespace Db

variable {d : Db}

/-- An alert row names the owner of its subscription. -/
theorem owner_of_alertRow {a : Alert} {row : AlertRow} (h : d.alertRow a = some row) :
    ∃ k, d.owner k = some (row.userTelegramId, row.botId) := by
  unfold alertRow at h
  obtain ⟨s, _, h⟩ := Option.bind_eq_some_iff.mp h
  obtain ⟨m, _, h⟩ := Option.bind_eq_some_iff.mp h
  obtain ⟨u, hu, h⟩ := Option.bind_eq_some_iff.mp h
  split at h
  · cases h
    exact ⟨s.userId, by rw [owner, hu]; rfl⟩
  · cases h

/-- So does a row of the summary. -/
theorem owner_of_summaryRow {s : Subscription} {row : SummaryRow} (h : d.summaryRow s = some row) :
    ∃ k, d.owner k = some (row.telegramId, row.botId) := by
  unfold summaryRow at h
  obtain ⟨u, hu, h⟩ := Option.bind_eq_some_iff.mp h
  obtain ⟨m, _, h⟩ := Option.bind_eq_some_iff.mp h
  split at h
  · cases h
    exact ⟨s.userId, by rw [owner, hu]; rfl⟩
  · cases h

end Db

variable {x : Crates} {cfg : EngineConfig} {d d' : Db} {req : NotificationRequest}

/-- **Both producers address a user.** -/
theorem Produced.owner (h : Produced x cfg d req) :
    ∃ k, d.owner k = some (req.userTelegramId, req.botId) := by
  cases h with
  | @alert order rows conditions before e env update f hrows hcache hf =>
    obtain ⟨r, hr, message, rfl⟩ := AlertEngine.mem_handlePriceUpdate hf
    have hrules : e.rulesOf update.tokenId = (rows.filterMap (AlertEngine.buildRule x)).filter
        fun r => r.tokenId == update.tokenId := by
      rw [← AlertEngine.rulesOf_refreshCache x rows conditions before update.tokenId]
      rw [AlertEngine.rulesOf, AlertEngine.rulesOf, hcache]
    rw [hrules] at hr
    obtain ⟨row, hrow, hbuild⟩ := List.mem_filterMap.mp (List.mem_filter.mp hr).1
    obtain ⟨_, _, _, _, hreq⟩ := AlertEngine.buildRule_eq_some.mp hbuild
    obtain ⟨a, _, ha⟩ := (Db.mem_fetchAlertRows_iff hrows).mp hrow
    obtain ⟨k, hk⟩ := Db.owner_of_alertRow ha
    refine ⟨k, hk.trans ?_⟩
    rw [hreq]
    rfl
  | @summary rows env sent hrows hsent =>
    obtain ⟨row, hrow, htelegram, hbot⟩ := sendSummaries_row hsent
    rw [(decodeAll_ok hrows).1] at hrow
    obtain ⟨s, _, hs⟩ := List.mem_filterMap.mp hrow
    obtain ⟨k, hk⟩ := Db.owner_of_summaryRow hs
    exact ⟨k, by rw [hk, htelegram, hbot]⟩

/-! ## Whose row is written -/

/-- The service writes a row for the request under the user id `userId`. The id is the one the
    lookup by Telegram id finds, and a Telegram user has a row for each bot. -/
def LoggedUnder (bots : BotRegistry) (l : RateLimiter) (d : Db) (req : NotificationRequest)
    (env : HandleEnv) (userId : Int) : Prop :=
  ∃ row, (handle bots env req l d).2.2.notificationLog.rows = d.notificationLog.rows ++ [row] ∧
    row.userId = userId

/-- **A row is logged under the user the lookup finds.** -/
theorem loggedUnder_iff {bots : BotRegistry} {l : RateLimiter} {env : HandleEnv} {k : Int}
    (hk : d.owner k = some (req.userTelegramId, req.botId)) {userId : Int} :
    LoggedUnder bots l d req env userId ↔
      (handle bots env req l d).1.failed = false ∧
        d.resolveUserIdByTelegram env.first req.userTelegramId = some userId ∧
        d.notificationLog.seq + 1 < 2 ^ 63 := by
  obtain ⟨u, hu, hwho⟩ := Option.map_eq_some_iff.mp hk
  have hmem := Lib.Table.mem_of_find hu
  have hknown : ∃ u ∈ d.users.rows, u.telegramId = req.userTelegramId :=
    ⟨u, hmem.1, congrArg Prod.fst hwho⟩
  constructor
  · rintro ⟨row, hrow, rfl⟩
    have hok : (handle bots env req l d).1.failed = false := by
      by_contra hfailed
      have hsame := NotifyService.handle_failed (Bool.eq_true_of_not_eq_false hfailed)
      rw [hsame] at hrow
      simpa using congrArg List.length hrow
    obtain ⟨row', hrow', ⟨_, hseq⟩, _, hres, _⟩ := handle_once hknown hok
    rw [hrow'] at hrow
    obtain rfl : row' = row := by simpa using hrow
    -- the row has an id, so there was one left
    exact ⟨hok, hres, hseq ▸ Lib.Table.seq_lt _⟩
  · rintro ⟨hok, hres, _⟩
    obtain ⟨row, hrow, _, _, hres', _⟩ := handle_once hknown hok
    exact ⟨row, hrow, Option.some.inj (hres'.symm.trans hres)⟩

/-- **The log entry is the addressed user's if and only if that user is the only one with the
    Telegram id**, or the log has no id left for an entry. A request carries the Telegram id and
    the bot, and the lookup uses the first alone: with a second user of that id the database is
    free to answer with either. Between the request and its handling the database may change in any
    way that keeps the users. -/
theorem logged_under_own_user_iff (hreq : Produced x cfg d req) (hkept : d.UsersKept d')
    (bots : BotRegistry) (l : RateLimiter) :
    ∃ k, d'.owner k = some (req.userTelegramId, req.botId) ∧
      ((∀ env userId, LoggedUnder bots l d' req env userId → userId = k) ↔
        (∀ k' botId, d'.owner k' = some (req.userTelegramId, botId) → botId = req.botId) ∨
          2 ^ 63 ≤ d'.notificationLog.seq + 1) := by
  obtain ⟨k, hk⟩ := hreq.owner
  have hk' := hkept k _ hk
  refine ⟨k, hk', ?_, ?_⟩
  · intro hall
    by_cases hfull : d'.notificationLog.seq + 1 < 2 ^ 63
    · refine .inl fun other botId hother => ?_
      -- the database may find the other row first
      obtain ⟨u, hu, hwho⟩ := Option.map_eq_some_iff.mp hother
      obtain ⟨hmem, hid⟩ := Lib.Table.mem_of_find hu
      obtain ⟨first, hres⟩ := Db.resolveUserIdByTelegram_of_mem hmem (congrArg Prod.fst hwho)
      let env : HandleEnv := ⟨true, first, 0, fun _ => none, true, 0⟩
      have hok : (handle bots env req l d').1.failed = false :=
        NotifyService.handle_succeeds rfl rfl hfull
      have hkey := hall env u.id ((loggedUnder_iff hk').mpr ⟨hok, hres, hfull⟩)
      have hid' : u.id = other := hid
      rw [← hid', hkey, hk'] at hother
      exact (congrArg Prod.snd (Option.some.inj hother)).symm
    · exact .inr (Int.not_lt.mp hfull)
  · rintro hcond env userId hlogged
    obtain ⟨_, hres, hfits⟩ := (loggedUnder_iff hk').mp hlogged
    rcases hcond with hone | hfull
    · obtain ⟨v, hv, ht, rfl⟩ := Db.resolveUserIdByTelegram_some hres
      have hown := Db.owner_of_mem hv
      rw [ht] at hown
      have hbot : v.botId = req.botId := hone _ _ hown
      obtain ⟨u, hu, hwho⟩ := Option.map_eq_some_iff.mp hk'
      obtain ⟨hmem, hid⟩ := Lib.Table.mem_of_find hu
      have hsame : v = u := Lib.Table.eq_of_ukey hv hmem (by
        show (v.telegramId, v.botId) = (u.telegramId, u.botId)
        rw [hwho, ht, hbot])
      rw [hsame]
      exact hid
    · exact absurd hfits (Int.not_lt.mpr hfull)

/-! ## One person, two bots -/

/-- The sample database, where Telegram user 7 has come to a second bot and watches `Yes` there. -/
def twoBots : Except DbError Db := do
  let d ← Db.sample
  let (u, d) ← d.insertUser 0 7 "other" none
  let (_, d) ← d.insertSubscription 0 u 1 0
  d.insertAlert 0 3 "above" (.num (3 / 4))

def twoBotsDb : Db := twoBots.toOption.getD .empty

/-- A summary in which every message is taken. -/
def summaryFor (userId : Int) : SummaryEnv := ⟨[userId], 0, fun _ => true⟩

/-- The database finds the row of the first bot. -/
def calmHandling : HandleEnv := ⟨true, 0, 0, fun _ => none, true, 0⟩

/-- The summary for the only bot of user 7. -/
theorem logged_under_own_user_iff_single :
    ∃ req, Produced Crates.reference ⟨60⟩ Db.sampleDb req ∧
      ∃ k, Db.sampleDb.owner k = some (req.userTelegramId, req.botId) ∧
        ((∀ env userId, LoggedUnder .sample (.new 30) Db.sampleDb req env userId → userId = k) ↔
          (∀ k' botId, Db.sampleDb.owner k' = some (req.userTelegramId, botId) →
            botId = req.botId) ∨ 2 ^ 63 ≤ Db.sampleDb.notificationLog.seq + 1) := by
  have hrows : ∃ rows, Db.sampleDb.fetchSummaryRows = .ok rows ∧
      ∃ sent ∈ sendSummaries Crates.reference (summaryFor 1) rows, sent.1 = 1 :=
    ⟨_, rfl, by decide +kernel⟩
  obtain ⟨rows, hrows, sent, hsent, _⟩ := hrows
  have hreq : Produced Crates.reference ⟨60⟩ Db.sampleDb sent.2 := .summary hrows hsent
  exact ⟨sent.2, hreq, logged_under_own_user_iff hreq (fun _ _ h => h) .sample (.new 30)⟩

/-- **The summary the second bot sends is logged under the user of the first**, who has the same
    Telegram id and the smaller key. -/
theorem second_bot_logged_under_first :
    ∃ req, Produced Crates.reference ⟨60⟩ twoBotsDb req ∧
      twoBotsDb.owner 3 = some (req.userTelegramId, req.botId) ∧
      LoggedUnder (BotRegistry.sample.register "other:BB") (.new 30) twoBotsDb req calmHandling 1 := by
  have hrows : ∃ rows, twoBotsDb.fetchSummaryRows = .ok rows ∧
      ∃ sent ∈ sendSummaries Crates.reference (summaryFor 3) rows,
        twoBotsDb.owner 3 = some (sent.2.userTelegramId, sent.2.botId) :=
    ⟨_, rfl, by decide +kernel⟩
  obtain ⟨rows, hrows, sent, hsent, hown⟩ := hrows
  refine ⟨sent.2, .summary hrows hsent, hown, (loggedUnder_iff hown).mpr ⟨?_, ?_, ?_⟩⟩
  · exact NotifyService.handle_succeeds rfl rfl (by decide +kernel)
  · have htelegram : sent.2.userTelegramId = 7 := by
      have h7 : twoBotsDb.owner 3 = some (7, "other") := by decide +kernel
      rw [h7] at hown
      exact (congrArg Prod.fst (Option.some.inj hown)).symm
    rw [htelegram]
    decide +kernel
  · decide +kernel

end PolyNotifier
