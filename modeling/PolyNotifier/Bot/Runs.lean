import PolyNotifier.Bot.Dialogues
import PolyNotifier.Common.Statements

/-!
# Running a handler

What each call of a handler does to the world, as an equation for its run: `run_*` for a call
whose service answered, and for one that failed. `after_bind_ok` and `after_bind_error` chain
them. `run_getOrCreateUser` is the one statement sequence that most handlers begin with.
-/

namespace PolyNotifier

open Lib (Prog Table)
open Lib.Prog (Keeps)

variable {env : Env} {w : World} {α β : Type}

namespace World

/-- Telegram and the database always answer; the web services never do. It is what the runs on
    fixed inputs are played in. -/
def answering : Env := ⟨fun _ => true, fun _ => true, fun _ => 0, fun _ _ => none, fun _ _ => none⟩

theorem after_bind_ok {p : Handler α} {f : α → Handler β} {a : α} {w' : World}
    (h : p.run (perform env) w = (.ok a, w')) : after env (p >>= f) w = after env (f a) w' := by
  rw [after, Prog.run_bind, h]
  rfl

theorem after_bind_error {p : Handler α} {f : α → Handler β} {e : BotError} {w' : World}
    (h : p.run (perform env) w = (.error e, w')) : after env (p >>= f) w = w' := by
  rw [after, Prog.run_bind, h]

theorem run_bind_ok {p : Handler α} {f : α → Handler β} {a : α} {w' : World}
    (h : p.run (perform env) w = (.ok a, w')) :
    (p >>= f).run (perform env) w = (f a).run (perform env) w' := by
  rw [Prog.run_bind, h]

theorem run_bind_error {p : Handler α} {f : α → Handler β} {e : BotError} {w' : World}
    (h : p.run (perform env) w = (.error e, w')) :
    (p >>= f).run (perform env) w = (.error e, w') := by
  rw [Prog.run_bind, h]

/-- The world after one more call that changed nothing but the number of calls. -/
def called (w : World) : World := { w with calls := w.calls + 1 }

@[simp] theorem called_db : w.called.db = w.db := rfl
@[simp] theorem called_dialogues : w.called.dialogues = w.dialogues := rfl

/-- The world after a statement. -/
def stored (w : World) (d : Db) : World := { w with db := d, calls := w.calls + 1 }

@[simp] theorem stored_db {d : Db} : (w.stored d).db = d := rfl
@[simp] theorem stored_dialogues {d : Db} : (w.stored d).dialogues = w.dialogues := rfl

/-! ## Statements -/

theorem run_query_ok {s : Stmt} {a : s.Res} {d : Db} (h : execute env s w = .ok (a, d)) :
    (query s).run (perform env) w = (.ok a, w.stored d) := by
  rw [query, Prog.run_op]
  simp only [perform_sql_ok h]
  rfl

theorem run_query_error {s : Stmt} {e : DbError} (h : execute env s w = .error e) :
    (query s).run (perform env) w = (.error (.database e), w.called) := by
  rw [query, Prog.run_op]
  simp only [perform_sql_error h]
  rfl

theorem run_sql_ok {s : Stmt} {a : s.Res} {d : Db} (h : execute env s w = .ok (a, d)) :
    (sql s).run (perform env) w = (.ok (.ok a), w.stored d) := by
  rw [sql, Prog.run_op]
  simp only [perform_sql_ok h]
  rfl

theorem run_sql_error {s : Stmt} {e : DbError} (h : execute env s w = .error e) :
    (sql s).run (perform env) w = (.ok (.error e), w.called) := by
  rw [sql, Prog.run_op]
  simp only [perform_sql_error h]
  rfl

theorem execute_error {s : Stmt} {e : DbError} (h : execute env s w = .error e) :
    env.database w.calls = false ∨ s.exec (env.clock w.calls) w.db = .error e := by
  unfold execute at h
  split at h
  · exact .inr h
  · rename_i hdb
    exact .inl (by simpa using hdb)

/-- A statement with `?` goes on with the answer, or the handler is over. -/
theorem run_query_cases (s : Stmt) (w : World) :
    (∃ a d, s.exec (env.clock w.calls) w.db = .ok (a, d) ∧
        (query s).run (perform env) w = (.ok a, w.stored d)) ∨
      ∃ e, (env.database w.calls = false ∨ s.exec (env.clock w.calls) w.db = .error e) ∧
        (query s).run (perform env) w = (.error (.database e), w.called) := by
  cases h : execute env s w with
  | ok r => exact .inl ⟨r.1, r.2, execute_ok h, run_query_ok h⟩
  | error e => exact .inr ⟨e, execute_error h, run_query_error h⟩

theorem execute_of_database {s : Stmt} (h : env.database w.calls = true) :
    execute env s w = s.exec (env.clock w.calls) w.db := by
  rw [execute, if_pos h]

theorem run_utcNow : utcNow.run (perform env) w = (.ok (env.clock w.calls), w.called) := rfl

/-! ## Calls that leave the database alone -/

/-- The handler leaves the database alone. -/
def KeepsDb (env : Env) (p : Handler α) : Prop :=
  Keeps (perform env) (fun w w' => w'.db = w.db) p

theorem KeepsDb.ret (a : α) : KeepsDb env (.ret a) := fun _ => rfl

theorem KeepsDb.bind {p : Handler α} {f : α → Handler β} (hp : KeepsDb env p)
    (hf : ∀ a, KeepsDb env (f a)) : KeepsDb env (p >>= f) :=
  Keeps.bind (fun _ _ _ hab hbc => hbc.trans hab) hp hf

theorem keepsDb_sendMessage (chat : Int) (text : String) (keyboard : Option Keyboard) :
    KeepsDb env (sendMessage chat text keyboard) := by
  intro w
  rw [sendMessage, Prog.run_op]
  dsimp only
  split <;> rfl

theorem keepsDb_reply (chat : Int) (text : String) : KeepsDb env (reply chat text) :=
  keepsDb_sendMessage chat text none

theorem after_reply_dialogues (chat : Int) (text : String) :
    (after env (reply chat text) w).dialogues = w.dialogues := by
  rw [after, reply, sendMessage, Prog.run_op]
  dsimp only
  split <;> rfl

theorem keepsDb_updateDialogue (chat : Int) (state : DialogueState) :
    KeepsDb env (updateDialogue chat state) := fun _ => rfl

theorem run_answer_ok {id : String} (h : env.telegram w.calls = true) :
    (answerCallbackQuery id).run (perform env) w = (.ok (), w.called) := by
  rw [answerCallbackQuery, Prog.run_op]
  simp only [perform, h]
  rfl

theorem run_answer_error {id : String} (h : env.telegram w.calls = false) :
    (answerCallbackQuery id).run (perform env) w = (.error .telegram, w.called) := by
  rw [answerCallbackQuery, Prog.run_op]
  simp only [perform, h]
  rfl

/-- **A statement followed by calls that leave the database alone**: it was executed, or the
    database is as it was. -/
theorem after_sql_bind {s : Stmt} {f : Except DbError s.Res → Handler β}
    (hf : ∀ r, KeepsDb env (f r)) (w : World) :
    (∃ a, s.exec (env.clock w.calls) w.db = .ok (a, (after env (sql s >>= f) w).db)) ∨
      (after env (sql s >>= f) w).db = w.db ∧
        (env.database w.calls = false ∨ ∃ e, s.exec (env.clock w.calls) w.db = .error e) := by
  cases h : execute env s w with
  | ok r =>
    left
    refine ⟨r.1, ?_⟩
    rw [after_bind_ok (run_sql_ok h), show (after env (f (.ok r.1)) (w.stored r.2)).db = r.2 from
      hf _ _]
    exact execute_ok h
  | error e =>
    right
    rw [after_bind_ok (run_sql_error h)]
    exact ⟨hf _ _, (execute_error h).imp_right fun h => ⟨e, h⟩⟩

/-! ## The sender's account -/

/-- `get_or_create_user` answered with the row of the account. -/
structure Answers (w w' : World) (telegramId : Int) (botId : String) (u : User) : Prop where
  find : w'.db.users.find u.id = some u
  identity : (u.telegramId, u.botId) = (telegramId, botId)
  account : w.db.account telegramId botId =
    some ⟨u.tier, u.maxSubscriptions, w'.db.countActiveSubscriptions u.id⟩

variable {telegramId : Int} {botId : String}

/-- The row that is there, perhaps with a new name. -/
theorem Answers.of_selectUser {u u' : User} {w' : World}
    (h : w.db.selectUser telegramId botId = .ok (some u)) (hu : Db.UsersOnly w.db w'.db)
    (hfind : w'.db.users.find u'.id = some u') (hid : u'.id = u.id)
    (hsame : (u'.telegramId, u'.botId) = (u.telegramId, u.botId)) (htier : u'.tier = u.tier)
    (hmax : u'.maxSubscriptions = u.maxSubscriptions) : Answers w w' telegramId botId u' := by
  obtain ⟨_, ht, hb⟩ := Db.selectUser_some h
  refine ⟨hfind, hsame.trans (by rw [ht, hb]), ?_⟩
  simp only [Db.account, h, htier, hmax, hid, hu.countActiveSubscriptions]

/-- The row that was just inserted. -/
theorem Answers.of_insertUser {clock : NaiveDateTime} {username : Option String} {id : Int}
    {d : Db} (hnone : w.db.selectUser telegramId botId = .ok none)
    (h : w.db.insertUser clock telegramId botId username = .ok (id, d)) :
    ∃ u, d.users.find id = some u ∧ InI32 u.maxSubscriptions ∧
      ∀ w', w'.db = d → Answers w w' telegramId botId u := by
  obtain ⟨hu, hid, hfind⟩ := Db.insertUser_ok h
  have hseq : w.db.users.seq + 1 < 2 ^ 63 := by
    have hle : id ≤ d.users.seq := (d.users.bound _ (Table.mem_of_find hfind).1).2
    have hlt := d.users.seq_lt
    omega
  refine ⟨_, hfind, (by decide : InI32 5), ?_⟩
  rintro w' rfl
  refine ⟨hfind, rfl, ?_⟩
  simp only [Db.account, hnone, if_pos hseq, hu.countActiveSubscriptions,
    Db.countActiveSubscriptions_new hid]

/-- What a run of `get_or_create_user` may end with. It changes user rows only, and answers with
    the row of the account; or it fails, and then the database refused a statement or there is no
    account. The two ends are said in one place because a handler that begins with it goes on after
    the first and is over after the second. -/
def AccountOutcome (env : Env) (w : World) (telegramId : Int) (botId : String)
    (r : Except BotError User × World) : Prop :=
  Db.UsersOnly w.db r.2.db ∧ r.2.dialogues = w.dialogues ∧
    match r.1 with
    | .ok u => Answers w r.2 telegramId botId u
    | .error _ => w.db.account telegramId botId = none ∨ ∃ n, env.database n = false

/-- The row is read back, unless the database refuses. -/
theorem run_fetchUserById (env : Env) (w : World) {id : Int} {u : User}
    (hfind : w.db.users.find id = some u) (hi : InI32 u.maxSubscriptions) :
    (fetchUserById id).run (perform env) w = (.ok u, w.stored w.db) ∨
      ∃ e, (fetchUserById id).run (perform env) w = (.error e, w.called) ∧
        ∃ n, env.database n = false := by
  have hsel := Db.selectUserById_isOk hfind hi
  rcases run_query_cases (.selectUserById id) w with ⟨u', d, hexec, hrun⟩ | ⟨e, hno, hrun⟩
  · obtain ⟨hu, rfl⟩ := Stmt.reading_ok hexec
    obtain rfl : u' = u := Except.ok.inj (hu.symm.trans hsel)
    exact .inl hrun
  · refine .inr ⟨_, hrun, ?_⟩
    rcases hno with hno | hexec
    · exact ⟨_, hno⟩
    · have hu := Stmt.reading_error hexec
      rw [hsel] at hu
      cases hu

/-- A new name: it is stored, and the row is read again. -/
theorem run_rename {user : User} (username : Option String)
    (hsel : w.db.selectUser telegramId botId = .ok (some user)) {w₁ : World}
    (hdb : w₁.db = w.db) (hdialogues : w₁.dialogues = w.dialogues) :
    AccountOutcome env w telegramId botId ((do
      let now ← utcNow
      query (.updateUsername username now user.id)
      fetchUserById user.id : Handler User).run (perform env) w₁) := by
  rw [run_bind_ok run_utcNow]
  -- the UPDATE cannot fail of itself, so an error is one of the database
  obtain ⟨d', hok, hfind'⟩ := Db.updateUsername_isOk username (env.clock w₁.calls) user.id w.db
  have hd := Db.updateUsername_ok hok
  rcases run_query_cases (.updateUsername username (env.clock w₁.calls) user.id) w₁.called with
    ⟨_, d, hexec, hrun⟩ | ⟨e, hno, hrun⟩
  · rw [run_bind_ok hrun]
    have hupd := Stmt.writing_ok hexec
    rw [called_db, hdb] at hupd
    obtain rfl : d' = d := Except.ok.inj (hok.symm.trans hupd)
    have hnew := hfind' user.id
    rw [Db.find_of_selectUser hsel, Option.map_some, if_pos (by simp)] at hnew
    have hi : InI32 user.maxSubscriptions := Db.selectUser_inI32 hsel
    rcases run_fetchUserById env (w₁.called.stored d') hnew hi with hrun | ⟨e, hrun, hno⟩
    · rw [hrun]
      exact ⟨hd, hdialogues, .of_selectUser hsel hd hnew rfl rfl rfl rfl⟩
    · rw [hrun]
      exact ⟨hd, hdialogues, .inr hno⟩
  · rw [run_bind_error hrun]
    refine ⟨by rw [called_db, called_db, hdb]; exact .refl _, hdialogues, .inr ?_⟩
    rcases hno with hno | hexec
    · exact ⟨_, hno⟩
    · have hu := Stmt.writing_error hexec
      rw [called_db, hdb, hok] at hu
      cases hu

/-- A new row: it is inserted and read back. -/
theorem run_register (username : Option String)
    (hsel : w.db.selectUser telegramId botId = .ok none) {w₁ : World} (hdb : w₁.db = w.db)
    (hdialogues : w₁.dialogues = w.dialogues) :
    AccountOutcome env w telegramId botId ((do
      let insertedId ← query (.insertUser telegramId botId username)
      fetchUserById insertedId : Handler User).run (perform env) w₁) := by
  rcases run_query_cases (.insertUser telegramId botId username) w₁ with
    ⟨id, d, hins, hrun⟩ | ⟨e, hno, hrun⟩
  · rw [run_bind_ok hrun]
    have hins' : w.db.insertUser (env.clock w₁.calls) telegramId botId username = .ok (id, d) :=
      hdb ▸ hins
    have hd := (Db.insertUser_ok hins').1
    obtain ⟨u, hfind, hi, hans⟩ := Answers.of_insertUser hsel hins'
    rcases run_fetchUserById env (w₁.stored d) hfind hi with hrun | ⟨e, hrun, hno⟩
    · rw [hrun]
      exact ⟨hd, hdialogues, hans _ rfl⟩
    · rw [hrun]
      exact ⟨hd, hdialogues, .inr hno⟩
  · rw [run_bind_error hrun]
    refine ⟨by rw [called_db, hdb]; exact .refl _, hdialogues, ?_⟩
    rcases hno with hno | hexec
    · exact .inr ⟨_, hno⟩
    · left
      -- no row of the key: the INSERT fails only where the ids have run out
      by_cases hseq : w.db.users.seq + 1 < 2 ^ 63
      · obtain ⟨id, d, hins⟩ := Db.insertUser_isOk (env.clock w₁.calls) username hseq
          (Db.selectUser_none hsel)
        have hexec' : w.db.insertUser (env.clock w₁.calls) telegramId botId username = .error e :=
          hdb ▸ hexec
        rw [hins] at hexec'
        cases hexec'
      · simp only [Db.account, hsel, if_neg hseq]

/-- **What `get_or_create_user` does.** -/
theorem run_getOrCreateUser (env : Env) (w : World) (telegramId : Int) (botId : String)
    (username : Option String) :
    AccountOutcome env w telegramId botId
      ((getOrCreateUser telegramId botId username).run (perform env) w) := by
  unfold getOrCreateUser
  rcases run_query_cases (.selectUser telegramId botId) w with
    ⟨existing, d, hexec, hrun⟩ | ⟨e, hno, hrun⟩
  · obtain ⟨hsel, rfl⟩ := Stmt.reading_ok hexec
    rw [run_bind_ok hrun]
    cases existing with
    | some user =>
      dsimp only
      split
      · apply run_rename username hsel <;> rfl
      · exact ⟨.refl _, rfl,
          .of_selectUser hsel (.refl _) (Db.find_of_selectUser hsel) rfl rfl rfl rfl⟩
    | none => apply run_register username hsel <;> rfl
  · rw [run_bind_error hrun]
    refine ⟨.refl _, rfl, ?_⟩
    rcases hno with hno | hexec
    · exact .inr ⟨_, hno⟩
    · left
      simp only [Db.account, Stmt.reading_error hexec]

end World

end PolyNotifier
