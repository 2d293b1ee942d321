import PolyNotifier.Common.Statements
import PolyNotifier.Notify.Registry

/-!
# The notification service

`handle` takes one request: it looks the user up, asks the rate limiter, sends with up to three
attempts and logs what came of it. A failed statement ends it on the spot; a user without a row
gets the message without a log entry.
-/

namespace PolyNotifier

/-! ## Rate limiter -/

/-- `windows`: for each user the count and the start of the current minute. -/
structure RateLimiter where
  windows : DashMap Int (Nat × NaiveDateTime)
  maxPerMinute : Nat

namespace RateLimiter

def new (maxPerMinute : Nat) : RateLimiter := ⟨∅, maxPerMinute⟩

/-- `check_and_consume`; `now` is the clock. The window starts with the first question of a minute
    and ends a minute later, whatever came in between. A question that is answered no consumes
    nothing. -/
def checkAndConsume (now : NaiveDateTime) (userId : Int) (l : RateLimiter) :
    Bool × RateLimiter :=
  let entry := (l.windows.lookup userId).getD (0, now)
  -- the window has expired: whole seconds, cut off towards zero
  let (count, windowStart) :=
    if 60 ≤ Int.tdiv (now - entry.2) (Duration.seconds 1) then (0, now) else entry
  if l.maxPerMinute ≤ count then
    (false, { l with windows := l.windows.insert userId (count, windowStart) })
  else (true, { l with windows := l.windows.insert userId (count + 1, windowStart) })

end RateLimiter

/-! ## One request -/

/-- What the outside answers while one request is handled: whether the database executes the lookup
    and the insert, which of several rows it finds first, the clock of the rate limiter and of the
    log, and the error of each send attempt, if it has one. A request that is not sent leaves the
    last of these unread. -/
structure HandleEnv where
  lookupOk : Bool
  first : Nat
  now : NaiveDateTime
  telegram : Nat → Option String
  logOk : Bool
  logClock : NaiveDateTime

/-- What was done with a request. It is the account the results are about; the source keeps none
    but the row of the log, and `logged` is what that row says. -/
structure Handling where
  request : NotificationRequest
  /-- The `users.id` the lookup found. -/
  userId : Option Int
  sends : Nat
  delivered : Bool
  /-- The columns `delivered` and `error_message` of the row that was logged. -/
  logged : Option (Bool × Option String)
  /-- `handle` ended with an error: the lookup or the insert failed. -/
  failed : Bool
  deriving DecidableEq

/-- The log has a row for what was logged. -/
def Handling.RecordedIn (h : Handling) (d : Db) : Prop :=
  ∀ delivered error, h.logged = some (delivered, error) →
    ∃ row ∈ d.notificationLog.rows, h.userId = some row.userId ∧ row.message = h.request.message ∧
      row.notificationType = h.request.notificationType.toString ∧ row.delivered = delivered ∧
      row.errorMessage = error

/-- Delivered, or logged as undelivered. -/
def Handling.Accounted (h : Handling) : Prop :=
  h.delivered = true ∨ ∃ error, h.logged = some (false, error)

theorem Handling.RecordedIn.mono {h : Handling} {d d' : Db} (hd : h.RecordedIn d)
    (hsub : d.notificationLog.rows ⊆ d'.notificationLog.rows) : h.RecordedIn d' := by
  intro delivered error hlog
  obtain ⟨row, hrow, hrest⟩ := hd delivered error hlog
  exact ⟨row, hsub hrow, hrest⟩

namespace NotifyService

def maxRetries : Nat := 3

/-- The call of `BotRegistry::send_message` in one attempt: the error, if there is one. The bot of
    a request is the same in every attempt, so what Telegram answers depends on the attempt
    alone. -/
def sendMessage (bots : BotRegistry) (env : HandleEnv) (req : NotificationRequest)
    (attempt : Nat) : Option String :=
  bots.sendMessage (fun _ => env.telegram attempt) req.botId

/-- The attempts from `attempt` on, `left` of them after the first: how many were made in all, and
    the last error. The pause between two attempts is left out: nothing else happens in the service
    meanwhile. -/
def attempts (bots : BotRegistry) (env : HandleEnv) (req : NotificationRequest) (attempt : Nat) :
    Nat → Nat × Option String
  | 0 => (attempt, sendMessage bots env req attempt)
  | left + 1 =>
      match sendMessage bots env req attempt with
      | none => (attempt, none)
      | some _ => attempts bots env req (attempt + 1) left

def sendWithRetries (bots : BotRegistry) (env : HandleEnv) (req : NotificationRequest) :
    Nat × Option String :=
  attempts bots env req 1 (maxRetries - 1)

/-- `log_attempt`; `none` where the insert fails, which `handle` passes on as an error: the message
    may have been sent by then. -/
def logAttempt (env : HandleEnv) (req : NotificationRequest) (userId : Int) (delivered : Bool)
    (error : Option String) (d : Db) : Option Db :=
  if env.logOk then
    match d.insertNotificationLog env.logClock userId req.notificationType.toString req.message
        delivered error with
    | .ok (_, d') => some d'
    | .error _ => none
  else none

/-- The end of a request of a known user. -/
def logged (env : HandleEnv) (req : NotificationRequest) (userId : Int) (sends : Nat)
    (error : Option String) (d : Db) : Handling × Db :=
  match logAttempt env req userId error.isNone error d with
  | some d' => (⟨req, some userId, sends, error.isNone, some (error.isNone, error), false⟩, d')
  | none => (⟨req, some userId, sends, error.isNone, none, true⟩, d)

/-- `NotifyService::handle`. A request whose user is unknown is sent all the same and leaves no
    row, as there is no id to log it under; the rate limiter is asked only for a user that is
    known. -/
def handle (bots : BotRegistry) (env : HandleEnv) (req : NotificationRequest) (l : RateLimiter)
    (d : Db) : Handling × RateLimiter × Db :=
  if env.lookupOk then
    match d.resolveUserIdByTelegram env.first req.userTelegramId with
    | none =>
        let (sends, error) := sendWithRetries bots env req
        (⟨req, none, sends, error.isNone, none, false⟩, l, d)
    | some userId =>
        let (allowed, l) := l.checkAndConsume env.now req.userTelegramId
        if allowed then
          let (sends, error) := sendWithRetries bots env req
          let (h, d) := logged env req userId sends error d
          (h, l, d)
        else
          let (h, d) := logged env req userId 0 (some "rate limit exceeded") d
          (h, l, d)
  else (⟨req, none, 0, false, none, true⟩, l, d)

/-! ## What comes of it -/

section

variable {bots : BotRegistry} {env : HandleEnv} {req : NotificationRequest} {l : RateLimiter}
  {d : Db}

/-- What one request does: rows are added to the log, and nothing else happens to it. -/
structure HandleSpec (req : NotificationRequest) (d : Db) (h : Handling) (d' : Db) : Prop where
  request : h.request = req
  keeps : d.notificationLog.rows <+: d'.notificationLog.rows
  recorded : h.RecordedIn d'
  /-- Unless a statement fails, a known user is served, or the log says not. -/
  accounted : h.failed = false → h.userId.isSome = true → h.Accounted

theorem logged_spec (userId : Int) (sends : Nat) (error : Option String) :
    HandleSpec req d (logged env req userId sends error d).1
      (logged env req userId sends error d).2 := by
  unfold logged
  cases hlog : logAttempt env req userId error.isNone error d with
  -- the INSERT failed: no row, and the handling is marked as failed
  | none =>
    refine ⟨rfl, List.prefix_refl _, ?_, ?_⟩
    · intro delivered err h
      cases h
    · intro h
      cases h
  | some d' =>
    have hrows : ∃ row, d'.notificationLog.rows = d.notificationLog.rows ++ [row] ∧
        row.userId = userId ∧ row.message = req.message ∧
        row.notificationType = req.notificationType.toString ∧
        row.delivered = error.isNone ∧ row.errorMessage = error := by
      unfold logAttempt at hlog
      split at hlog
      · split at hlog
        · rename_i d₁ hins
          cases hlog
          exact Db.insertNotificationLog_ok hins
        · cases hlog
      · cases hlog
    obtain ⟨row, hr, hrow⟩ := hrows
    refine ⟨rfl, ?_, ?_, ?_⟩
    · dsimp only
      rw [hr]
      exact List.prefix_append _ _
    · intro delivered err h
      cases h
      refine ⟨row, ?_, congrArg some hrow.1.symm, hrow.2⟩
      dsimp only
      rw [hr]
      exact List.mem_append_right _ (List.mem_singleton_self _)
    · intro _ _
      cases error with
      | none => exact .inl rfl
      | some err => exact .inr ⟨some err, rfl⟩

/-- **One request.** -/
theorem handle_spec (bots : BotRegistry) (env : HandleEnv) (req : NotificationRequest)
    (l : RateLimiter) (d : Db) :
    HandleSpec req d (handle bots env req l d).1 (handle bots env req l d).2.2 := by
  unfold handle
  split
  · cases d.resolveUserIdByTelegram env.first req.userTelegramId with
    | none =>
      refine ⟨rfl, List.prefix_refl _, ?_, ?_⟩
      · intro delivered err h
        cases h
      · intro _ h
        cases h
    | some userId =>
      dsimp only
      split
      · apply logged_spec
      · apply logged_spec
  · refine ⟨rfl, List.prefix_refl _, ?_, ?_⟩
    · intro delivered err h
      cases h
    · intro h
      cases h

/-- **`handle` fails only where the database does.** -/
theorem handle_succeeds (hlookup : env.lookupOk = true) (hlog : env.logOk = true)
    (hfull : d.notificationLog.seq + 1 < 2 ^ 63) :
    (handle bots env req l d).1.failed = false := by
  have hlogged : ∀ userId sends error, d.users.hasKey userId →
      (logged env req userId sends error d).1.failed = false := by
    intro userId sends error hkey
    obtain ⟨id, d', hins⟩ := Db.insertNotificationLog_isOk env.logClock req.notificationType
      req.message error.isNone error hfull hkey
    unfold logged logAttempt
    rw [if_pos hlog, hins]
  unfold handle
  rw [if_pos hlookup]
  cases hres : d.resolveUserIdByTelegram env.first req.userTelegramId with
  | none => rfl
  | some userId =>
    have hkey := Db.resolveUserIdByTelegram_hasKey hres
    dsimp only
    split
    · exact hlogged _ _ _ hkey
    · exact hlogged _ _ _ hkey

end

end NotifyService

end PolyNotifier
