import PolyNotifier.Common.Reference
import PolyNotifier.Notify.Service

/-!
# Every request is accounted for, once

`NotifyService::run` is a loop over the requests it takes from the channel, and what one pass
leaves behind is a row of the log and a change of the rate limiter. `HandledOnce` says what the
two are for one request, and `Accounts` for a list of them: one row each, in the order of the
requests, and the rate limiter asked once for each.

`attempts_spec` is the retry loop, by induction on the attempts that are left.
-/

namespace PolyNotifier

namespace RateLimiter

/-- What a user has consumed of the current minute. -/
def used (l : RateLimiter) (userId : Int) : Nat := ((l.windows.lookup userId).map Prod.fst).getD 0

variable {l : RateLimiter} {now : NaiveDateTime} {userId other : Int}

/-- **One question consumes at most one unit**, and none if the answer is no. -/
theorem used_checkAndConsume (l : RateLimiter) (now : NaiveDateTime) (userId : Int) :
    (l.checkAndConsume now userId).2.used userId ≤
      l.used userId + (l.checkAndConsume now userId).1.toNat := by
  unfold checkAndConsume used
  cases hl : l.windows.lookup userId with
  | none =>
    have h0 : (0, now) = (if 60 ≤ Int.tdiv (now - now) (Duration.seconds 1) then (0, now)
        else (0, now) : Nat × NaiveDateTime) := (ite_self _).symm
    simp only [Option.getD_none, ← h0]
    split <;> simp [Finmap.lookup_insert]
  | some entry =>
    obtain ⟨count, start⟩ := entry
    simp only [Option.getD_some, Option.map_some]
    split_ifs <;> simp [Finmap.lookup_insert]

theorem used_checkAndConsume_of_ne (h : other ≠ userId) :
    (l.checkAndConsume now userId).2.used other = l.used other := by
  unfold checkAndConsume used
  dsimp only
  split_ifs <;> simp [Finmap.lookup_insert_of_ne _ h]

end RateLimiter

namespace NotifyService

variable {bots : BotRegistry} {env : HandleEnv} {req : NotificationRequest} {l l' : RateLimiter}
  {d d' : Db}

/-! ## The attempts -/

/-- How the attempts from `first` on went: `last` is the last one that was made, `error` its
    error. There was no other after one that succeeded, and with none the limit was reached. -/
structure Attempted (result : Nat → Option String) (first limit last : Nat)
    (error : Option String) : Prop where
  range : first ≤ last ∧ last ≤ limit
  failed : ∀ n, first ≤ n → n < last → (result n).isSome = true
  error : error = result last
  stopped : last < limit → result last = none

/-- **The retry loop.** -/
theorem attempts_spec (bots : BotRegistry) (env : HandleEnv) (req : NotificationRequest)
    (attempt left : Nat) :
    Attempted (sendMessage bots env req) attempt (attempt + left)
      (attempts bots env req attempt left).1 (attempts bots env req attempt left).2 := by
  induction left generalizing attempt with
  | zero =>
    exact ⟨⟨Nat.le_refl _, Nat.le_refl _⟩, fun n h1 h2 => absurd h2 (Nat.not_lt.mpr h1), rfl,
      fun h => absurd h (Nat.lt_irrefl _)⟩
  | succ left ih =>
    cases hsend : sendMessage bots env req attempt with
    | none =>
      simp only [attempts, hsend]
      exact ⟨⟨Nat.le_refl _, by omega⟩, fun n h1 h2 => absurd h2 (Nat.not_lt.mpr h1), hsend.symm,
        fun _ => hsend⟩
    | some e =>
      simp only [attempts, hsend]
      obtain ⟨hrange, hfailed, herror, hstopped⟩ := ih (attempt + 1)
      have hlimit : attempt + 1 + left = attempt + (left + 1) := by omega
      rw [hlimit] at hrange hstopped
      refine ⟨⟨by omega, hrange.2⟩, fun n h1 h2 => ?_, herror, hstopped⟩
      by_cases hn : n = attempt
      · rw [hn, hsend]
        rfl
      · exact hfailed n (by omega) h2

/-- The last attempt succeeded if and only if one of them did. -/
theorem Attempted.error_isNone {result : Nat → Option String} {first limit last : Nat}
    {error : Option String} (h : Attempted result first limit last error) :
    error = none ↔ ∃ n, first ≤ n ∧ n ≤ last ∧ result n = none := by
  constructor
  · intro he
    exact ⟨last, h.range.1, Nat.le_refl _, h.error ▸ he⟩
  · rintro ⟨n, h1, h2, hn⟩
    rcases Nat.lt_or_eq_of_le h2 with hlt | rfl
    · have hsome := h.failed n h1 hlt
      rw [hn] at hsome
      cases hsome
    · exact h.error.trans hn

/-! ## One request -/

/-- The `n`-th send of a request goes through: its bot is registered, and Telegram takes the
    message. -/
def Sent (bots : BotRegistry) (env : HandleEnv) (req : NotificationRequest) (n : Nat) : Prop :=
  (bots.get req.botId).isSome = true ∧ env.telegram n = none

/-- The `n`-th send fails: there is no bot of that id, or Telegram answers with an error. -/
def Refused (bots : BotRegistry) (env : HandleEnv) (req : NotificationRequest) (n : Nat)
    (error : String) : Prop :=
  (bots.get req.botId = none ∧ error = "bot '" ++ req.botId ++ "' not found in registry") ∨
    ((bots.get req.botId).isSome = true ∧ env.telegram n = some error)

theorem sendMessage_eq_none {n : Nat} :
    sendMessage bots env req n = none ↔ Sent bots env req n := by
  unfold sendMessage BotRegistry.sendMessage Sent
  cases bots.get req.botId with
  | none =>
    constructor
    · intro h
      cases h
    · rintro ⟨h, _⟩
      cases h
  | some token =>
    constructor
    · intro h
      exact ⟨rfl, h⟩
    · rintro ⟨_, h⟩
      exact h

theorem sendMessage_eq_some {n : Nat} {error : String} :
    sendMessage bots env req n = some error ↔ Refused bots env req n error := by
  unfold sendMessage BotRegistry.sendMessage Refused
  cases bots.get req.botId with
  | none =>
    constructor
    · intro h
      exact .inl ⟨rfl, (Option.some.inj h).symm⟩
    · rintro (⟨_, rfl⟩ | ⟨h, _⟩)
      · rfl
      · cases h
  | some token =>
    constructor
    · intro h
      exact .inr ⟨rfl, h⟩
    · rintro (⟨h, _⟩ | ⟨_, h⟩)
      · cases h
      · exact h

/-- A request of a known user and the row it left behind. `allowed` is the answer of the rate
    limiter. What a send came to is said by the registry and by Telegram, not by the function that
    makes it, so the loop cannot take a failure for a success. -/
structure HandledOnce (bots : BotRegistry) (env : HandleEnv) (req : NotificationRequest)
    (allowed : Bool) (h : Handling) (row : NotificationLog) : Prop where
  user : h.userId = some row.userId
  message : row.message = req.message
  type : row.notificationType = req.notificationType.toString
  /-- Rate-limited: nothing is sent. -/
  limited : allowed = false → h.sends = 0 ∧ row.delivered = false
  /-- Otherwise there are between one and three sends, all but the last of which failed, and
      fewer than three only if the last one succeeded. -/
  sends : allowed = true → 1 ≤ h.sends ∧ h.sends ≤ 3 ∧
    (∀ n, 1 ≤ n → n < h.sends → ∃ error, Refused bots env req n error) ∧
    (h.sends < 3 → Sent bots env req h.sends)
  /-- The row says whether one of them succeeded, -/
  delivered : allowed = true → ((row.delivered = true ∧ row.errorMessage = none) ↔
    ∃ n, 1 ≤ n ∧ n ≤ h.sends ∧ Sent bots env req n)
  /-- and if none did, with which error the last one failed. -/
  undelivered : allowed = true → (∀ n, 1 ≤ n → n ≤ h.sends → ¬ Sent bots env req n) →
    row.delivered = false ∧ ∃ error, row.errorMessage = some error ∧
      Refused bots env req h.sends error

/-- The end of a request whose insert succeeds: one row, with one id, and the users are what they
    were. -/
theorem logged_row {userId : Int} {sends : Nat} {error : Option String}
    (hok : (logged env req userId sends error d).1.failed = false) :
    ∃ row, (logged env req userId sends error d).2.notificationLog.rows
        = d.notificationLog.rows ++ [row] ∧
      ((logged env req userId sends error d).2.users = d.users ∧
        (logged env req userId sends error d).2.notificationLog.seq = d.notificationLog.seq + 1) ∧
      (logged env req userId sends error d).1.userId = some row.userId ∧
      (logged env req userId sends error d).1.sends = sends ∧ row.userId = userId ∧
      row.message = req.message ∧ row.notificationType = req.notificationType.toString ∧
      row.delivered = error.isNone ∧ row.errorMessage = error := by
  unfold logged at hok ⊢
  cases hlog : logAttempt env req userId error.isNone error d with
  | none =>
    rw [hlog] at hok
    cases hok
  | some d₁ =>
    unfold logAttempt at hlog
    split at hlog
    · split at hlog
      · rename_i d₂ hins
        cases hlog
        obtain ⟨row, hrows, huser, hrow⟩ := Db.insertNotificationLog_ok hins
        exact ⟨row, hrows, Db.insertNotificationLog_users hins, congrArg some huser.symm, rfl,
          huser, hrow⟩
      · cases hlog
    · cases hlog

/-- A request whose lookup or insert fails leaves the database as it was. -/
theorem handle_failed (h : (handle bots env req l d).1.failed = true) :
    (handle bots env req l d).2.2 = d := by
  have hlogged : ∀ userId sends error, (logged env req userId sends error d).1.failed = true →
      (logged env req userId sends error d).2 = d := by
    intro userId sends error h
    unfold logged at h ⊢
    cases hlog : logAttempt env req userId error.isNone error d with
    | none => rfl
    | some d₁ =>
      rw [hlog] at h
      cases h
  unfold handle at h ⊢
  split
  · rename_i hlookup
    rw [if_pos hlookup] at h
    cases hres : d.resolveUserIdByTelegram env.first req.userTelegramId with
    | none => rfl
    | some userId =>
      rw [hres] at h
      dsimp only at h ⊢
      split
      · rename_i hallowed
        rw [if_pos hallowed] at h
        exact hlogged _ _ _ h
      · rename_i hallowed
        rw [if_neg hallowed] at h
        exact hlogged _ _ _ h
  · rfl

/-- **A request of a known user that does not fail has had both its statements executed.** -/
theorem handle_answered (hknown : ∃ u ∈ d.users.rows, u.telegramId = req.userTelegramId)
    (hok : (handle bots env req l d).1.failed = false) :
    env.lookupOk = true ∧ env.logOk = true := by
  have hlogged : ∀ userId sends error, (logged env req userId sends error d).1.failed = false →
      env.logOk = true := by
    intro userId sends error h
    unfold logged logAttempt at h
    split at h
    · rename_i hlog
      split at hlog
      · assumption
      · cases hlog
    · cases h
  obtain ⟨u, hu, ht⟩ := hknown
  obtain ⟨userId, hres⟩ := Db.resolveUserIdByTelegram_isSome env.first hu ht
  unfold handle at hok
  split at hok
  · rename_i hlookup
    rw [hres] at hok
    dsimp only at hok
    refine ⟨hlookup, ?_⟩
    split at hok
    · exact hlogged _ _ _ hok
    · exact hlogged _ _ _ hok
  · cases hok

/-- **One request of a known user**, whose lookup and insert succeed. -/
theorem handle_once (hknown : ∃ u ∈ d.users.rows, u.telegramId = req.userTelegramId)
    (hok : (handle bots env req l d).1.failed = false) :
    ∃ row, (handle bots env req l d).2.2.notificationLog.rows
        = d.notificationLog.rows ++ [row] ∧
      ((handle bots env req l d).2.2.users = d.users ∧
        (handle bots env req l d).2.2.notificationLog.seq = d.notificationLog.seq + 1) ∧
      (handle bots env req l d).2.1 = (l.checkAndConsume env.now req.userTelegramId).2 ∧
      d.resolveUserIdByTelegram env.first req.userTelegramId = some row.userId ∧
      HandledOnce bots env req (l.checkAndConsume env.now req.userTelegramId).1
        (handle bots env req l d).1 row := by
  obtain ⟨u, hu, ht⟩ := hknown
  obtain ⟨userId, hres⟩ := Db.resolveUserIdByTelegram_isSome env.first hu ht
  unfold handle at hok ⊢
  split
  · rename_i hlookup
    rw [if_pos hlookup] at hok
    rw [hres] at hok ⊢
    dsimp only at hok ⊢
    cases hallowed : (l.checkAndConsume env.now req.userTelegramId).1 with
    | false =>
      -- over the limit
      rw [hallowed, if_neg Bool.false_ne_true] at hok
      rw [if_neg Bool.false_ne_true]
      obtain ⟨row, hrows, hd, huser, hsends, hid, hmsg, htype, hdel, _⟩ := logged_row hok
      refine ⟨row, hrows, hd, rfl, congrArg some hid.symm, ⟨huser, hmsg, htype,
        fun _ => ⟨hsends, hdel⟩, ?_, ?_, ?_⟩⟩ <;> intro h <;> cases h
    | true =>
      rw [hallowed, if_pos rfl] at hok
      rw [if_pos rfl]
      obtain ⟨row, hrows, hd, huser, hsends, hid, hmsg, htype, hdel, herr⟩ := logged_row hok
      have hspec := attempts_spec bots env req 1 (maxRetries - 1)
      refine ⟨row, hrows, hd, rfl, congrArg some hid.symm, ⟨huser, hmsg, htype, ?_, ?_, ?_, ?_⟩⟩
      · intro h
        cases h
      · intro _
        rw [hsends]
        refine ⟨hspec.range.1, hspec.range.2, fun n h1 h2 => ?_, fun h =>
          sendMessage_eq_none.mp (hspec.stopped h)⟩
        obtain ⟨error, herror⟩ := Option.isSome_iff_exists.mp (hspec.failed n h1 h2)
        exact ⟨error, sendMessage_eq_some.mp herror⟩
      · intro _
        rw [hsends, hdel, herr, Option.isNone_iff_eq_none, and_self]
        simp only [← sendMessage_eq_none]
        exact hspec.error_isNone
      · intro _ hall
        rw [hsends] at hall ⊢
        cases hlast : (sendWithRetries bots env req).2 with
        | none =>
          obtain ⟨n, h1, h2, hn⟩ := hspec.error_isNone.mp hlast
          exact absurd (sendMessage_eq_none.mp hn) (hall n h1 h2)
        | some error =>
          rw [hlast] at hdel herr
          exact ⟨hdel, error, herr, sendMessage_eq_some.mp (hspec.error.symm.trans hlast)⟩
  · rename_i hlookup
    rw [if_neg hlookup] at hok
    cases hok

/-! ## The loop -/

/-- `NotifyService::run`, over the requests it dequeues before it leaves its loop, each with what
    the outside answers while it is handled. -/
def run (bots : BotRegistry) :
    List (HandleEnv × NotificationRequest) → RateLimiter → Db → List Handling × RateLimiter × Db
  | [], l, d => ([], l, d)
  | (env, req) :: rest, l, d =>
      let (h, l, d) := handle bots env req l d
      let (hs, l, d) := run bots rest l d
      (h :: hs, l, d)

/-- The requests, what was done with each, and the rows they left behind: one row a request, in
    the order of the requests, and one question to the rate limiter each. -/
inductive Accounts (bots : BotRegistry) : List (HandleEnv × NotificationRequest) → RateLimiter →
    List Handling → List NotificationLog → RateLimiter → Prop
  | nil (l : RateLimiter) : Accounts bots [] l [] [] l
  | cons {env : HandleEnv} {req : NotificationRequest} {l l' : RateLimiter} {h : Handling}
      {row : NotificationLog} {rest : List (HandleEnv × NotificationRequest)}
      {hs : List Handling} {rows : List NotificationLog}
      (once : HandledOnce bots env req (l.checkAndConsume env.now req.userTelegramId).1 h row)
      (consumes : (l.checkAndConsume env.now req.userTelegramId).2.used req.userTelegramId
        ≤ l.used req.userTelegramId + 1)
      (others : ∀ k, k ≠ req.userTelegramId →
        (l.checkAndConsume env.now req.userTelegramId).2.used k = l.used k)
      (tail : Accounts bots rest (l.checkAndConsume env.now req.userTelegramId).2 hs rows l') :
      Accounts bots ((env, req) :: rest) l (h :: hs) (row :: rows) l'

/-- **Every dequeued request of a known user is accounted for exactly once**, when the database
    answers every lookup and every insert and has an id for each. The rows that the run adds are
    listed along with the requests, one for each; `HandledOnce` says of each pair what Telegram was
    sent and what the row tells of it, and the limiter is charged once at most. -/
theorem accounted_once (reqs : List (HandleEnv × NotificationRequest))
    (hknown : ∀ p ∈ reqs, ∃ u ∈ d.users.rows, u.telegramId = p.2.userTelegramId)
    (hanswers : ∀ p ∈ reqs, p.1.lookupOk = true ∧ p.1.logOk = true)
    (hroom : d.notificationLog.seq + reqs.length < 2 ^ 63) :
    ∃ rows, (run bots reqs l d).2.2.notificationLog.rows = d.notificationLog.rows ++ rows ∧
      Accounts bots reqs l (run bots reqs l d).1 rows (run bots reqs l d).2.1 := by
  induction reqs generalizing l d with
  | nil => exact ⟨[], (List.append_nil _).symm, .nil l⟩
  | cons p rest ih =>
    obtain ⟨env, req⟩ := p
    rw [List.length_cons] at hroom
    push_cast at hroom
    obtain ⟨hlookup, hlog⟩ := hanswers _ (List.mem_cons_self ..)
    have hfirst : (handle bots env req l d).1.failed = false :=
      handle_succeeds hlookup hlog (by omega)
    obtain ⟨row, hrows, ⟨husers, hseq⟩, hlimiter, _, honce⟩ :=
      handle_once (hknown _ (List.mem_cons_self ..)) hfirst
    have hknown' : ∀ p ∈ rest, ∃ u ∈ (handle bots env req l d).2.2.users.rows,
        u.telegramId = p.2.userTelegramId := by
      intro p hp
      rw [husers]
      exact hknown p (List.mem_cons_of_mem _ hp)
    -- the row took one id, so there is still one for each of the rest
    obtain ⟨rows, hrest, htail⟩ := ih (l := (handle bots env req l d).2.1) hknown'
      (fun p hp => hanswers p (List.mem_cons_of_mem _ hp)) (by rw [hseq]; omega)
    refine ⟨row :: rows, ?_, ?_⟩
    · show (run bots rest (handle bots env req l d).2.1
        (handle bots env req l d).2.2).2.2.notificationLog.rows = _
      rw [hrest, hrows, List.append_assoc]
      rfl
    · refine .cons honce ?_ ?_ ?_
      · have hone := l.used_checkAndConsume env.now req.userTelegramId
        have hle := Bool.toNat_le (l.checkAndConsume env.now req.userTelegramId).1
        omega
      · intro k hk
        exact RateLimiter.used_checkAndConsume_of_ne hk
      · rw [hlimiter] at htail
        show Accounts bots rest _ (run bots rest (handle bots env req l d).2.1
          (handle bots env req l d).2.2).1 rows (run bots rest (handle bots env req l d).2.1
          (handle bots env req l d).2.2).2.1
        rw [hlimiter]
        exact htail

/-! ## Two requests, one unit -/

/-- Two attempts fail, the third one succeeds. -/
def thirdTime : HandleEnv :=
  ⟨true, 0, 0, fun n => if n < 3 then some "timeout" else none, true, 0⟩

/-- Twice the same summary for user 7, who may get one message a minute. -/
def twoSummaries : List (HandleEnv × NotificationRequest) :=
  [(thirdTime, ⟨7, "bot", "hello", .dailySummary⟩), (thirdTime, ⟨7, "bot", "hello", .dailySummary⟩)]

theorem accounted_once_twice :
    ∃ rows, (run .sample twoSummaries (.new 1) Db.sampleDb).2.2.notificationLog.rows
        = Db.sampleDb.notificationLog.rows ++ rows ∧
      Accounts .sample twoSummaries (.new 1)
        (run .sample twoSummaries (.new 1) Db.sampleDb).1 rows
        (run .sample twoSummaries (.new 1) Db.sampleDb).2.1 :=
  accounted_once twoSummaries (by decide +kernel) (by decide +kernel) (by decide +kernel)

end NotifyService

end PolyNotifier
