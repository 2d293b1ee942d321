import PolyNotifier.Bot.Runs
import PolyNotifier.Common.Statements

/-!
# Concurrent calls of `get_or_create_user`

A call looks for the row of its pair and, if there is none, inserts one. The two statements are
not one: another call may insert in between, and then the `UNIQUE` constraint refuses the second
insert and the call fails.

`Move` is what one statement of a call does to the row of the pair and to the call, and a
`Race` is a number of calls over that one row; every run of a pool of calls is a race
(`race_of_steps`). `concurrent_calls_iff` is the result: all calls answer with the one row if
and only if at most one of them found no row.
-/

namespace PolyNotifier

open Lib (Event Pool Prog Steps Table)

/-! ## The row of a pair -/

namespace Db

variable {d d' : Db} {telegramId : Int} {botId : String}

def ofPair (telegramId : Int) (botId : String) (u : User) : Bool :=
  u.telegramId == telegramId && u.botId == botId

def userRow (telegramId : Int) (botId : String) (d : Db) : Option User :=
  d.users.rows.find? (ofPair telegramId botId)

theorem ofPair_iff {u : User} :
    ofPair telegramId botId u = true ↔ u.telegramId = telegramId ∧ u.botId = botId := by
  rw [ofPair, Bool.and_eq_true, beq_iff_eq, beq_iff_eq]

theorem userRow_eq_some {u : User} : d.userRow telegramId botId = some u ↔
    u ∈ d.users.rows ∧ u.telegramId = telegramId ∧ u.botId = botId := by
  constructor
  · intro h
    exact ⟨List.mem_of_find?_eq_some h, ofPair_iff.mp (List.find?_some h)⟩
  · rintro ⟨hmem, hpair⟩
    cases hrow : d.userRow telegramId botId with
    | none => exact absurd (ofPair_iff.mpr hpair) (List.find?_eq_none.mp hrow u hmem)
    | some v =>
      have hv := ofPair_iff.mp (List.find?_some hrow)
      rw [Table.eq_of_ukey (List.mem_of_find?_eq_some hrow) hmem
        (Prod.ext (hv.1.trans hpair.1.symm) (hv.2.trans hpair.2.symm))]

/-- **A pair has one row.** -/
theorem filter_ofPair {u : User} (h : d.userRow telegramId botId = some u) :
    d.users.rows.filter (ofPair telegramId botId) = [u] := by
  have hmem : u ∈ d.users.rows.filter (ofPair telegramId botId) := by
    obtain ⟨hu, hpair⟩ := userRow_eq_some.mp h
    exact List.mem_filter.mpr ⟨hu, ofPair_iff.mpr hpair⟩
  have hone : ∀ v ∈ d.users.rows.filter (ofPair telegramId botId), v = u := by
    intro v hv
    obtain ⟨hv, hpair⟩ := List.mem_filter.mp hv
    have hrow := userRow_eq_some.mpr ⟨hv, ofPair_iff.mp hpair⟩
    exact Option.some.inj (hrow.symm.trans h)
  have hnodup : (d.users.rows.filter (ofPair telegramId botId)).Nodup :=
    (List.Nodup.of_map _ d.users.nodup).filter _
  rw [List.eq_replicate_of_mem hone]
  have hle := (List.nodup_iff_count_le_one.mp hnodup) u
  rw [List.eq_replicate_of_mem hone, List.count_replicate_self] at hle
  have hpos := List.length_pos_of_mem hmem
  rw [Nat.le_antisymm hle hpos]
  rfl

/-- A search fails over a row that does not decode. -/
theorem selectUser_error {e : DbError} (h : d.selectUser telegramId botId = .error e) :
    ∃ v, d.userRow telegramId botId = some v ∧ ¬ InI32 v.maxSubscriptions := by
  unfold selectUser at h
  split at h
  · rename_i v hrow
    split at h
    · cases h
    · rename_i hint
      exact ⟨v, hrow, hint⟩
  · cases h

theorem selectUserById_some {id : Int} {u v : User} (hfind : d.users.find id = some v)
    (h : d.selectUserById id = .ok u) : u = v ∧ InI32 u.maxSubscriptions := by
  rw [selectUserById, hfind] at h
  dsimp only at h
  split at h
  · rename_i hint
    cases h
    exact ⟨rfl, hint⟩
  · cases h

/-- The row that is inserted is the first of its pair. -/
theorem userRow_insertUser {clock : NaiveDateTime} {username : Option String} {id : Int}
    (h : d.insertUser clock telegramId botId username = .ok (id, d')) :
    d.userRow telegramId botId = none ∧ d'.userRow telegramId botId = some
      ⟨id, telegramId, botId, username, "free", 5, "UTC", datetimeNow clock,
        datetimeNow clock⟩ := by
  obtain ⟨_, hnew, hfind⟩ := insertUser_ok h
  have hrow := userRow_eq_some.mpr ⟨(Table.mem_of_find hfind).1, rfl, rfl⟩
  refine ⟨?_, hrow⟩
  cases hold : d.userRow telegramId botId with
  | none => rfl
  | some u =>
    -- an older row of the pair would be a second one
    obtain ⟨hu, hpair⟩ := userRow_eq_some.mp hold
    have hu' : u ∈ d'.users.rows := by
      unfold insertUser at h
      split at h
      · rename_i t ht
        cases h
        rw [setUsers_users, (Table.insert_ok ht).1]
        exact List.mem_append_left _ hu
      · cases h
    have heq := (userRow_eq_some.mpr ⟨hu', hpair⟩).symm.trans hrow
    have hbound := (d.users.bound u hu).2
    rw [Option.some.inj heq] at hbound
    exact absurd hnew (not_lt.mpr hbound)

/-- **An insert is refused where the pair has a row.** -/
theorem insertUser_error {clock : NaiveDateTime} {username : Option String} {e : DbError}
    (h : d.insertUser clock telegramId botId username = .error e) (hfull : e ≠ .constraint .full) :
    e = .constraint .unique ∧ ∃ u, d.userRow telegramId botId = some u := by
  unfold insertUser at h
  split at h
  · cases h
  · rename_i e' he
    cases h
    unfold Table.insert at he
    dsimp only at he
    split at he
    · split at he
      · split at he
        · rename_i hmem
          obtain ⟨u, hu, hpair⟩ := List.mem_map.mp hmem
          obtain ⟨h1, h2⟩ := Prod.mk.inj hpair
          cases he
          exact ⟨rfl, u, userRow_eq_some.mpr ⟨hu, h1, h2⟩⟩
        · cases he
      · rename_i hcheck
        exact absurd rfl hcheck
    · cases he
      exact absurd rfl hfull

theorem userRow_updateUsername {username : Option String} {now : NaiveDateTime} {u : User}
    (h : d.updateUsername username now u.id = .ok d') {v : User}
    (hrow : d.userRow telegramId botId = some v) (hid : v.id = u.id) :
    d'.userRow telegramId botId = some { v with username, updatedAt := now } := by
  obtain ⟨hv, hpair⟩ := userRow_eq_some.mp hrow
  obtain ⟨d₁, hd₁, hfind⟩ := updateUsername_isOk username now u.id d
  obtain rfl := Except.ok.inj (hd₁.symm.trans h)
  have hfound : d₁.users.find v.id = some { v with username, updatedAt := now } := by
    have hold : d.users.find v.id = some v := Table.find_eq_some.mpr ⟨hv, rfl⟩
    rw [hfind, hold, Option.map_some, if_pos (beq_iff_eq.mpr hid)]
  exact userRow_eq_some.mpr ⟨(Table.mem_of_find hfound).1, hpair⟩

end Db

/-! ## One call -/

/-- Where a call is: before which of its statements, or at its end. A call holds no lock and
    remembers no more than its phase says, so what the others do in between is all that can
    surprise it. -/
inductive CallPhase where
  | start
  | inserting
  | clock (user : User)
  | updating (user : User) (now : NaiveDateTime)
  | reading (id : Int)
  | returned (user : User)
  | failed (e : BotError)

/-- The rest of the call, as a program: what a thread of the pool still is, after the statements it
    has made. Naming it makes a thread a phase with a few values in it. -/
def CallPhase.rest (telegramId : Int) (botId : String) (username : Option String) :
    CallPhase → Handler User
  | start => getOrCreateUser telegramId botId username
  | inserting => query (.insertUser telegramId botId username) >>= fetchUserById
  | clock user => utcNow >>= fun now =>
      query (.updateUsername username now user.id) >>= fun _ => fetchUserById user.id
  | updating user now =>
      query (.updateUsername username now user.id) >>= fun _ => fetchUserById user.id
  | reading id => fetchUserById id
  | returned user => .ret user
  | failed e => .fail e

/-- What a call hands back is the row, but for the columns other calls may write. -/
structure SameUser (u v : User) : Prop where
  id : u.id = v.id
  telegramId : u.telegramId = v.telegramId
  botId : u.botId = v.botId
  tier : u.tier = v.tier
  maxSubscriptions : u.maxSubscriptions = v.maxSubscriptions
  timezone : u.timezone = v.timezone

/-- What a call knows of the row of its pair. A call that renames was given a name. Others may
    change the row in between, but never its id, and that is all that is relied on. -/
def CallPhase.Known (username : Option String) (row : Option User) : CallPhase → Prop
  | start => True
  | inserting => True
  | clock user => username.isSome ∧ ∃ v, row = some v ∧ SameUser user v
  | updating user _ => username.isSome ∧ ∃ v, row = some v ∧ SameUser user v
  | reading id => ∃ v, row = some v ∧ v.id = id
  | returned user => ∃ v, row = some v ∧ SameUser user v ∧ InI32 user.maxSubscriptions
  | failed _ => True

/-- What one statement of a call does to the row of its pair and to the call. All other rows are
    left out: the `UNIQUE` key makes the row of a pair one, and no statement of a call looks at
    another's. The `Bool` says that the statement is the `SELECT` of the pair and finds no row. -/
inductive Move (telegramId : Int) (botId : String) (username : Option String) :
    Option User → CallPhase → Bool → Option User → CallPhase → Prop
  | found {v : User} (hint : InI32 v.maxSubscriptions)
      (hsame : username.isSome → username = v.username) :
      Move _ _ _ (some v) .start false (some v) (.returned v)
  | renames {v : User} (hsome : username.isSome) :
      Move _ _ _ (some v) .start false (some v) (.clock v)
  | missing : Move _ _ _ none .start true none .inserting
  | inserted {v : User} (hpair : v.telegramId = telegramId ∧ v.botId = botId)
      (hname : v.username = username) (hnew : v.tier = "free" ∧ v.maxSubscriptions = 5 ∧
        v.timezone = "UTC") :
      Move _ _ _ none .inserting false (some v) (.reading v.id)
  | refused {v : User} {e : BotError} : Move _ _ _ (some v) .inserting false (some v) (.failed e)
  | ticks {row : Option User} {user : User} (now : NaiveDateTime) :
      Move _ _ _ row (.clock user) false row (.updating user now)
  | updated {v user : User} {now : NaiveDateTime} (hid : v.id = user.id) :
      Move _ _ _ (some v) (.updating user now) false (some { v with username, updatedAt := now })
        (.reading user.id)
  | read {v : User} (hint : InI32 v.maxSubscriptions) :
      Move _ _ _ (some v) (.reading v.id) false (some v) (.returned v)
  | undecodable {v : User} {φ : CallPhase} {e : BotError} (hint : ¬ InI32 v.maxSubscriptions) :
      Move _ _ _ (some v) φ false (some v) (.failed e)

/-- The statement is the `SELECT` of a pair and finds no row. -/
def FindsNoRow : (o : BotOp) → o.Res → Bool
  | .sql (.selectUser ..), .ok none => true
  | _, _ => false

/-- The database fails in no other way than over the data: a constraint that would break, a column
    that does not decode, a row that is not there. An answer that does not come, and a table
    without an id left, are the two ways that are shut out. -/
def OverData : (o : BotOp) → o.Res → Prop
  | .sql _, .error e => e ≠ .unavailable ∧ e ≠ .constraint .full
  | _, _ => True

instance : (o : BotOp) → (r : o.Res) → Decidable (OverData o r)
  | .sql _, .ok _ => isTrue trivial
  | .sql _, .error e => inferInstanceAs (Decidable (e ≠ .unavailable ∧ e ≠ .constraint .full))
  | .answerCallbackQuery _, _ => isTrue trivial
  | .sendMessage .., _ => isTrue trivial
  | .updateDialogue .., _ => isTrue trivial
  | .gammaEvents _, _ => isTrue trivial
  | .getMidpoints _, _ => isTrue trivial
  | .now, _ => isTrue trivial

section Call

variable {telegramId : Int} {botId : String} {username : Option String} {env : Env} {w : World}

/-- A statement that failed over the data was executed. -/
theorem exec_of_served {s : Stmt} {e : DbError} (h : World.execute env s w = .error e)
    (hserved : e ≠ .unavailable) : s.exec (env.clock w.calls) w.db = .error e := by
  unfold World.execute at h
  split at h
  · exact h
  · exact absurd (Except.error.inj h).symm hserved

/-- **What one statement of a call does.** -/
theorem CallPhase.move {φ : CallPhase} {o : BotOp} {k : o.Res → Handler User}
    (hrest : φ.rest telegramId botId username = .op o k)
    (hknown : φ.Known username (w.db.userRow telegramId botId))
    (hserved : OverData o (World.perform env o w).1) :
    ∃ φ', k (World.perform env o w).1 = φ'.rest telegramId botId username ∧
      Move telegramId botId username (w.db.userRow telegramId botId) φ
        (FindsNoRow o (World.perform env o w).1)
        ((World.perform env o w).2.db.userRow telegramId botId) φ' := by
  cases φ with
  -- the SELECT: no row means the INSERT is next, a row means the name is compared
  | start =>
    cases hrest
    cases hexec : World.execute env (.selectUser telegramId botId) w with
    | ok r =>
      obtain ⟨found, d⟩ := r
      rw [World.perform_sql_ok hexec]
      obtain ⟨hselect, rfl⟩ := Stmt.reading_ok (World.execute_ok hexec)
      cases found with
      | none =>
        have hrow : w.db.userRow telegramId botId = none := Db.selectUser_none hselect
        rw [hrow]
        exact ⟨.inserting, rfl, .missing⟩
      | some v =>
        have hrow := Db.userRow_eq_some.mpr (Db.selectUser_some hselect)
        rw [hrow]
        by_cases hname : username.isSome ∧ username ≠ v.username
        · exact ⟨.clock v, if_pos hname, .renames hname.1⟩
        · refine ⟨.returned v, if_neg hname, .found (Db.selectUser_inI32 hselect) fun hsome => ?_⟩
          by_contra hne
          exact hname ⟨hsome, hne⟩
    | error e =>
      rw [World.perform_sql_error hexec] at hserved ⊢
      obtain ⟨v, hrow, hint⟩ :=
        Db.selectUser_error (Stmt.reading_error (exec_of_served hexec hserved.1))
      rw [hrow]
      exact ⟨.failed (.database e), rfl, .undecodable hint⟩
  -- an INSERT that is refused met a row of the same key, for keys are all the table checks
  | inserting =>
    cases hrest
    cases hexec : World.execute env (.insertUser telegramId botId username) w with
    | ok r =>
      obtain ⟨id, d⟩ := r
      rw [World.perform_sql_ok hexec]
      obtain ⟨hnone, hrow⟩ := Db.userRow_insertUser (World.execute_ok hexec)
      rw [hnone, hrow]
      exact ⟨.reading id, rfl, .inserted ⟨rfl, rfl⟩ rfl ⟨rfl, rfl, rfl⟩⟩
    | error e =>
      rw [World.perform_sql_error hexec] at hserved ⊢
      obtain ⟨_, v, hrow⟩ :=
        Db.insertUser_error (exec_of_served hexec hserved.1) hserved.2
      rw [hrow]
      exact ⟨.failed (.database e), rfl, .refused⟩
  | clock user =>
    cases hrest
    exact ⟨.updating user _, rfl, .ticks _⟩
  -- the UPDATE is by id, and the row of the key still has that id
  | updating user now =>
    cases hrest
    obtain ⟨_, v, hrow, hsame⟩ := hknown
    cases hexec : World.execute env (.updateUsername username now user.id) w with
    | ok r =>
      obtain ⟨u, d⟩ := r
      rw [World.perform_sql_ok hexec, hrow]
      have hupdate := Stmt.writing_ok (World.execute_ok hexec)
      have hrow' := Db.userRow_updateUsername hupdate hrow hsame.id.symm
      exact ⟨.reading user.id, rfl, hrow' ▸ .updated hsame.id.symm⟩
    | error e =>
      rw [World.perform_sql_error hexec] at hserved
      have hupdate := Stmt.writing_error (exec_of_served hexec hserved.1)
      obtain ⟨d, hd, _⟩ := Db.updateUsername_isOk username now user.id w.db
      rw [hd] at hupdate
      cases hupdate
  | reading id =>
    cases hrest
    obtain ⟨v, hrow, rfl⟩ := hknown
    obtain ⟨hv, _⟩ := Db.userRow_eq_some.mp hrow
    have hfind : w.db.users.find v.id = some v := Table.find_eq_some.mpr ⟨hv, rfl⟩
    cases hexec : World.execute env (.selectUserById v.id) w with
    | ok r =>
      obtain ⟨u, d⟩ := r
      rw [World.perform_sql_ok hexec]
      obtain ⟨hselect, rfl⟩ := Stmt.reading_ok (World.execute_ok hexec)
      obtain ⟨heq, hint⟩ := Db.selectUserById_some hfind hselect
      rw [heq] at hint
      rw [hrow, heq]
      exact ⟨.returned v, rfl, .read hint⟩
    | error e =>
      rw [World.perform_sql_error hexec] at hserved ⊢
      have hselect := Stmt.reading_error (exec_of_served hexec hserved.1)
      rw [hrow]
      refine ⟨.failed (.database e), rfl, .undecodable fun hint => ?_⟩
      rw [Db.selectUserById_isOk hfind hint] at hselect
      cases hselect
  | returned user => cases hrest
  | failed e => cases hrest

end Call

/-! ## The calls together -/

/-- A number of calls over the row of their pair. The list of those that found no row is history:
    no call can see it, and the result is about its length. -/
structure Race where
  phase : Nat → CallPhase
  row : Option User
  /-- The calls that found no row. -/
  missed : List Nat

/-- The race after a statement of call `i`. -/
def Race.after (R : Race) (i : Nat) (findsNone : Bool) (row : Option User) (φ : CallPhase) : Race :=
  ⟨Function.update R.phase i φ, row, if findsNone then R.missed ++ [i] else R.missed⟩

/-- The row is still there, with its key and its settings. -/
def Grows (row row' : Option User) : Prop :=
  ∀ v, row = some v → ∃ v', row' = some v' ∧ SameUser v v'

/-- The row is the one there was before the calls, or has the defaults of the schema. -/
def Kept (row₀ : Option User) (v : User) : Prop :=
  match row₀ with
  | some u => SameUser u v
  | none => v.tier = "free" ∧ v.maxSubscriptions = 5 ∧ v.timezone = "UTC"

/-- A name that one of the calls was given. -/
def Passed (usernames : List (Option String)) (name : Option String) : Prop :=
  name.isSome ∧ name ∈ usernames

/-- The call has compared or written the name it was given. -/
def CallPhase.Settled : CallPhase → Prop
  | reading _ => True
  | returned _ => True
  | _ => False

theorem SameUser.refl (u : User) : SameUser u u := ⟨rfl, rfl, rfl, rfl, rfl, rfl⟩

theorem SameUser.trans {u v w : User} (h : SameUser u v) (h' : SameUser v w) : SameUser u w :=
  ⟨h.id.trans h'.id, h.telegramId.trans h'.telegramId, h.botId.trans h'.botId,
    h.tier.trans h'.tier, h.maxSubscriptions.trans h'.maxSubscriptions,
    h.timezone.trans h'.timezone⟩

section Race

variable {telegramId : Int} {botId : String} {username : Option String}
  {usernames : List (Option String)} {row₀ row row' : Option User} {R : Race} {i : Nat}
  {φ φ' : CallPhase} {m : Bool}

theorem Grows.refl (row : Option User) : Grows row row := fun v hv => ⟨v, hv, .refl v⟩

/-- No call takes the row away or changes its settings. -/
theorem Move.grows (h : Move telegramId botId username row φ m row' φ') : Grows row row' := by
  cases h with
  | updated hid =>
    rintro v hv
    cases hv
    exact ⟨_, rfl, rfl, rfl, rfl, rfl, rfl, rfl⟩
  | inserted =>
    intro v hv
    cases hv
  | _ => exact .refl _

theorem Move.isSome (h : Move telegramId botId username row φ m row' φ') (hrow : row.isSome) :
    row'.isSome := by
  obtain ⟨v, hv⟩ := Option.isSome_iff_exists.mp hrow
  obtain ⟨v', hv', _⟩ := h.grows v hv
  rw [hv']
  rfl

/-- What a call knows stays true while others move. -/
theorem CallPhase.Known.mono (h : φ.Known username row) (hgrows : Grows row row') :
    φ.Known username row' := by
  cases φ with
  | clock user =>
    obtain ⟨hsome, v, hv, hsame⟩ := h
    obtain ⟨v', hv', hsame'⟩ := hgrows v hv
    exact ⟨hsome, v', hv', hsame.trans hsame'⟩
  | updating user now =>
    obtain ⟨hsome, v, hv, hsame⟩ := h
    obtain ⟨v', hv', hsame'⟩ := hgrows v hv
    exact ⟨hsome, v', hv', hsame.trans hsame'⟩
  | reading id =>
    obtain ⟨v, hv, hid⟩ := h
    obtain ⟨v', hv', hsame⟩ := hgrows v hv
    exact ⟨v', hv', hsame.id.symm.trans hid⟩
  | returned user =>
    obtain ⟨v, hv, hsame, hint⟩ := h
    obtain ⟨v', hv', hsame'⟩ := hgrows v hv
    exact ⟨v', hv', hsame.trans hsame', hint⟩
  | start => trivial
  | inserting => trivial
  | failed e => trivial

/-- **What a call knows after its own statement.** -/
theorem Move.known (h : Move telegramId botId username row φ m row' φ')
    (hknown : φ.Known username row) : φ'.Known username row' := by
  cases h with
  | found hint _ => exact ⟨_, rfl, .refl _, hint⟩
  | renames hsome => exact ⟨hsome, _, rfl, .refl _⟩
  | missing => trivial
  | inserted => exact ⟨_, rfl, rfl⟩
  | refused => trivial
  | ticks now => exact hknown
  | updated hid => exact ⟨_, rfl, hid⟩
  | read hint => exact ⟨_, rfl, .refl _, hint⟩
  | undecodable => trivial

/-- What the calls do to the row. It is the half of the argument that holds however many calls have
    missed: settings stay, and a name is one that was passed. -/
structure RowInv (telegramId : Int) (botId : String) (usernames : List (Option String))
    (row₀ : Option User) (R : Race) : Prop where
  known : ∀ i username, usernames[i]? = some username → (R.phase i).Known username R.row
  origin : ∀ v, R.row = some v → Kept row₀ v ∧
    (v.username = row₀.bind User.username ∨ Passed usernames v.username)
  persists : row₀.isSome → R.row.isSome
  settled : ∀ i username, usernames[i]? = some username → username.isSome →
    (R.phase i).Settled → ∃ v, R.row = some v ∧ Passed usernames v.username

/-- A row that was not there was inserted. -/
theorem Move.new (h : Move telegramId botId username row φ m row' φ') (hrow : row = none)
    {v : User} (hv : row' = some v) :
    φ = .inserting ∧ Kept none v ∧ v.username = username := by
  subst hrow
  cases h with
  | inserted _ hname hnew =>
    cases hv
    exact ⟨rfl, hnew, hname⟩
  | missing => cases hv
  | ticks => cases hv

/-- The name in a row that was there is the old one, or one that was passed. -/
theorem Move.name (h : Move telegramId botId username row φ m row' φ')
    (hknown : φ.Known username row) (hpassed : username ∈ usernames) {v v' : User}
    (hv : row = some v) (hv' : row' = some v') :
    v'.username = v.username ∨ Passed usernames v'.username := by
  cases h with
  | inserted => cases hv
  | updated =>
    cases hv'
    exact .inr ⟨hknown.1, hpassed⟩
  | _ => exact .inl (congrArg User.username (Option.some.inj (hv'.symm.trans hv)))

/-- **A call that is past its write leaves a name that was passed**, if it was given one. -/
theorem Move.settled (h : Move telegramId botId username row φ m row' φ')
    (hsome : username.isSome) (hpassed : username ∈ usernames) (hsettled : φ'.Settled)
    (hold : φ.Settled → ∃ v, row = some v ∧ Passed usernames v.username) :
    ∃ v, row' = some v ∧ Passed usernames v.username := by
  cases h with
  | found _ hsame =>
    refine ⟨_, rfl, ?_⟩
    rw [← hsame hsome]
    exact ⟨hsome, hpassed⟩
  | inserted _ hname =>
    refine ⟨_, rfl, ?_⟩
    rw [hname]
    exact ⟨hsome, hpassed⟩
  | updated => exact ⟨_, rfl, hsome, hpassed⟩
  | read => exact hold trivial
  | renames => exact hsettled.elim
  | missing => exact hsettled.elim
  | refused => exact hsettled.elim
  | ticks => exact hsettled.elim
  | undecodable => exact hsettled.elim

theorem Kept.sameUser {u v : User} (h : Kept row₀ u) (hsame : SameUser u v) : Kept row₀ v := by
  cases row₀ with
  | some u₀ => exact SameUser.trans h hsame
  | none =>
    exact ⟨hsame.tier.symm.trans h.1, hsame.maxSubscriptions.symm.trans h.2.1,
      hsame.timezone.symm.trans h.2.2⟩

/-- The row after a step is the one there was before the calls, or a new one. -/
theorem RowInv.origin_step (h : RowInv telegramId botId usernames row₀ R)
    (hi : usernames[i]? = some username)
    (hmove : Move telegramId botId username R.row (R.phase i) m row' φ') {v' : User}
    (hv' : row' = some v') :
    Kept row₀ v' ∧ (v'.username = row₀.bind User.username ∨ Passed usernames v'.username) := by
  have hmem : username ∈ usernames := List.mem_of_getElem? hi
  cases hrow : R.row with
  | some v =>
    -- the row was there
    obtain ⟨hkept, hold⟩ := h.origin v hrow
    obtain ⟨v₁, hv₁, hsame⟩ := hmove.grows v hrow
    obtain rfl : v₁ = v' := Option.some.inj (hv₁.symm.trans hv')
    refine ⟨hkept.sameUser hsame, ?_⟩
    rcases hmove.name (h.known i username hi) hmem hrow hv' with heq | hpassed
    · rwa [heq]
    · exact .inr hpassed
  | none =>
    -- the row was inserted
    have hrow₀ : row₀ = none := by
      cases h₀ : row₀ with
      | none => rfl
      | some u =>
        have hpersists := h.persists (by rw [h₀]; rfl)
        rw [hrow] at hpersists
        cases hpersists
    obtain ⟨_, hkept, hnew⟩ := hmove.new hrow hv'
    rw [hrow₀]
    refine ⟨hkept, ?_⟩
    rw [hnew]
    cases hname : username with
    | none => exact .inl rfl
    | some name => exact .inr ⟨rfl, hname ▸ hmem⟩

/-- A call that has settled its name leaves one that was passed. -/
theorem RowInv.settled_step (h : RowInv telegramId botId usernames row₀ R)
    (hi : usernames[i]? = some username)
    (hmove : Move telegramId botId username R.row (R.phase i) m row' φ') {j : Nat}
    {name : Option String} (hj : usernames[j]? = some name) (hsome : name.isSome)
    (hsettled : (Function.update R.phase i φ' j).Settled) :
    ∃ v, row' = some v ∧ Passed usernames v.username := by
  have hmem : username ∈ usernames := List.mem_of_getElem? hi
  by_cases hji : j = i
  · subst hji
    rw [hi] at hj
    cases hj
    rw [Function.update_self] at hsettled
    exact hmove.settled hsome hmem hsettled (h.settled j username hi hsome)
  · rw [Function.update_of_ne hji] at hsettled
    obtain ⟨v, hv, hpassed⟩ := h.settled j name hj hsome hsettled
    obtain ⟨v', hv', _⟩ := hmove.grows v hv
    refine ⟨v', hv', ?_⟩
    rcases hmove.name (h.known i username hi) hmem hv hv' with heq | hpassed'
    · rwa [heq]
    · exact hpassed'

/-- **One statement keeps it.** -/
theorem RowInv.step (h : RowInv telegramId botId usernames row₀ R)
    (hi : usernames[i]? = some username)
    (hmove : Move telegramId botId username R.row (R.phase i) m row' φ') :
    RowInv telegramId botId usernames row₀ (R.after i m row' φ') := by
  constructor
  · intro j name hj
    by_cases hji : j = i
    · subst hji
      rw [hi] at hj
      cases hj
      show (Function.update R.phase j φ' j).Known username row'
      rw [Function.update_self]
      exact hmove.known (h.known j username hi)
    · show (Function.update R.phase i φ' j).Known name row'
      rw [Function.update_of_ne hji]
      exact (h.known j name hj).mono hmove.grows
  · intro v' hv'
    exact h.origin_step hi hmove hv'
  · exact fun h₀ => hmove.isSome (h.persists h₀)
  · intro j name hj hsome hsettled
    exact h.settled_step hi hmove hj hsome hsettled

/-! ### Who found no row -/

theorem Move.missed (h : Move telegramId botId username row φ true row' φ') :
    φ = .start ∧ φ' = .inserting ∧ row' = none := by
  cases h with
  | missing => exact ⟨rfl, rfl, rfl⟩

theorem Move.ne_start (h : Move telegramId botId username row φ m row' φ') : φ' ≠ .start := by
  intro hstart
  subst hstart
  cases h

theorem Move.to_inserting (h : Move telegramId botId username row φ m row' .inserting) :
    m = true := by
  cases h with
  | missing => rfl

theorem Move.to_failed {e : BotError}
    (h : Move telegramId botId username row φ m row' (.failed e)) :
    ∃ v, row = some v ∧ (φ = .inserting ∨ ¬ InI32 v.maxSubscriptions) := by
  cases h with
  | refused => exact ⟨_, rfl, .inl rfl⟩
  | undecodable hint => exact ⟨_, rfl, .inr hint⟩

theorem Move.of_inserting (h : Move telegramId botId username row .inserting m row' φ') :
    (∃ e, φ' = .failed e) ∨ row = none ∧ row'.isSome := by
  cases h with
  | inserted => exact .inr ⟨rfl, rfl⟩
  | refused => exact .inl ⟨_, rfl⟩
  | undecodable => exact .inl ⟨_, rfl⟩

theorem Move.of_failed {e : BotError}
    (h : Move telegramId botId username row (.failed e) m row' φ') : ∃ e', φ' = .failed e' := by
  cases h with
  | undecodable => exact ⟨_, rfl⟩

/-- Which calls fail, and who inserted the row. `creator` names the one call whose `INSERT` went
    through; any other call that found no row has its `INSERT` ahead, where it will be refused, or
    behind it, where it was. -/
structure MissInv (row₀ : Option User) (R : Race) : Prop where
  nodup : R.missed.Nodup
  started : ∀ i ∈ R.missed, R.phase i ≠ .start
  inserting : ∀ i, R.phase i = .inserting →
    i ∈ R.missed ∧ (R.row.isSome → ∃ j ∈ R.missed, j ≠ i)
  failed : ∀ i e, R.phase i = .failed e → (∃ v, row₀ = some v ∧ ¬ InI32 v.maxSubscriptions) ∨
    ∃ j ∈ R.missed, ∃ k ∈ R.missed, j ≠ k
  creator : ∃ c : Option Nat, (c.isSome → R.row.isSome) ∧ ∀ i ∈ R.missed,
    R.phase i = .inserting ∨ (∃ e, R.phase i = .failed e) ∨ c = some i

theorem mem_after_missed {j : Nat} (h : j ∈ (R.after i m row' φ').missed) :
    j ∈ R.missed ∨ m = true ∧ j = i := by
  cases m with
  | false => exact .inl h
  | true =>
    rcases List.mem_append.mp h with h | h
    · exact .inl h
    · exact .inr ⟨rfl, List.mem_singleton.mp h⟩

theorem mem_missed_after {j : Nat} (h : j ∈ R.missed) : j ∈ (R.after i m row' φ').missed := by
  cases m with
  | false => exact h
  | true => exact List.mem_append_left _ h

theorem after_phase_self : (R.after i m row' φ').phase i = φ' := Function.update_self ..

theorem after_phase_ne {j : Nat} (h : j ≠ i) : (R.after i m row' φ').phase j = R.phase j :=
  Function.update_of_ne h ..

/-- A call that has found no row is not alone once there is one. -/
theorem MissInv.inserting_step (h : MissInv row₀ R)
    (hmove : Move telegramId botId username R.row (R.phase i) m row' φ') {j : Nat}
    (hj : (R.after i m row' φ').phase j = .inserting) :
    j ∈ (R.after i m row' φ').missed ∧
      (row'.isSome → ∃ k ∈ (R.after i m row' φ').missed, k ≠ j) := by
  by_cases hji : j = i
  · subst hji
    rw [after_phase_self] at hj
    subst hj
    obtain rfl := hmove.to_inserting
    refine ⟨List.mem_append_right _ (List.mem_singleton_self j), fun hsome => ?_⟩
    have hnone := hmove.missed.2.2
    subst hnone
    cases hsome
  · rw [after_phase_ne hji] at hj
    obtain ⟨hmem, hother⟩ := h.inserting j hj
    refine ⟨mem_missed_after hmem, fun hsome => ?_⟩
    cases hold : R.row with
    | some v =>
      obtain ⟨k, hk, hne⟩ := hother (by rw [hold]; rfl)
      exact ⟨k, mem_missed_after hk, hne⟩
    | none =>
      -- call `i` has just inserted the row
      obtain ⟨v', hv'⟩ := Option.isSome_iff_exists.mp hsome
      obtain ⟨hins, _⟩ := hmove.new hold hv'
      exact ⟨i, mem_missed_after (h.inserting i hins).1, Ne.symm hji⟩

/-- A call that fails has lost a race, or the row was bad from the start. -/
theorem MissInv.failed_step (h : MissInv row₀ R)
    (hrow : RowInv telegramId botId usernames row₀ R)
    (hmove : Move telegramId botId username R.row (R.phase i) m row' φ') {j : Nat} {e : BotError}
    (hj : (R.after i m row' φ').phase j = .failed e) :
    (∃ v, row₀ = some v ∧ ¬ InI32 v.maxSubscriptions) ∨
      ∃ k ∈ (R.after i m row' φ').missed, ∃ l ∈ (R.after i m row' φ').missed, k ≠ l := by
  by_cases hji : j = i
  · subst hji
    rw [after_phase_self] at hj
    subst hj
    obtain ⟨v, hv, hins | hint⟩ := hmove.to_failed
    · obtain ⟨hmem, hother⟩ := h.inserting j hins
      obtain ⟨k, hk, hne⟩ := hother (by rw [hv]; rfl)
      exact .inr ⟨k, mem_missed_after hk, j, mem_missed_after hmem, hne⟩
    · left
      have hkept := (hrow.origin v hv).1
      cases row₀ with
      | some u =>
        refine ⟨u, rfl, ?_⟩
        rwa [hkept.maxSubscriptions]
      | none =>
        refine absurd ?_ hint
        rw [hkept.2.1]
        decide
  · rw [after_phase_ne hji] at hj
    rcases h.failed j e hj with hbad | ⟨k, hk, l, hl, hne⟩
    · exact .inl hbad
    · exact .inr ⟨k, mem_missed_after hk, l, mem_missed_after hl, hne⟩

/-- **One call inserts the row**, and the others that found none fail. -/
theorem MissInv.creator_step (h : MissInv row₀ R)
    (hmove : Move telegramId botId username R.row (R.phase i) m row' φ') :
    ∃ c : Option Nat, (c.isSome → row'.isSome) ∧ ∀ j ∈ (R.after i m row' φ').missed,
      (R.after i m row' φ').phase j = .inserting ∨
        (∃ e, (R.after i m row' φ').phase j = .failed e) ∨ c = some j := by
  obtain ⟨c, hc, hall⟩ := h.creator
  by_cases hnew : R.row = none ∧ row'.isSome
  · -- call `i` inserts the row, and is the first to
    refine ⟨some i, fun _ => hnew.2, fun j hj => ?_⟩
    by_cases hji : j = i
    · exact .inr (.inr (by rw [hji]))
    · rw [after_phase_ne hji]
      rcases hall j ((mem_after_missed hj).resolve_right fun hm => hji hm.2) with
        hins | hfail | hcreator
      · exact .inl hins
      · exact .inr (.inl hfail)
      · have hsome := hc (by rw [hcreator]; rfl)
        rw [hnew.1] at hsome
        cases hsome
  -- the creator stays who it was; a call that was inserting has failed by now, or is the creator
  · refine ⟨c, fun hsome => hmove.isSome (hc hsome), fun j hj => ?_⟩
    by_cases hji : j = i
    · subst hji
      rw [after_phase_self]
      rcases mem_after_missed hj with hold | ⟨rfl, _⟩
      · rcases hall j hold with hins | ⟨e, hfail⟩ | hcreator
        · rw [hins] at hmove
          exact .inr (.inl (hmove.of_inserting.resolve_right hnew))
        · rw [hfail] at hmove
          exact .inr (.inl hmove.of_failed)
        · exact .inr (.inr hcreator)
      · exact .inl hmove.missed.2.1
    · rw [after_phase_ne hji]
      exact hall j ((mem_after_missed hj).resolve_right fun hm => hji hm.2)

/-- **One statement keeps it.** -/
theorem MissInv.step (h : MissInv row₀ R) (hrow : RowInv telegramId botId usernames row₀ R)
    (hmove : Move telegramId botId username R.row (R.phase i) m row' φ') :
    MissInv row₀ (R.after i m row' φ') := by
  constructor
  · cases m with
    | false => exact h.nodup
    | true =>
      have hnew : i ∉ R.missed := fun hmem => h.started i hmem hmove.missed.1
      exact List.nodup_append.mpr ⟨h.nodup, List.nodup_singleton i, fun a ha b hb hab =>
        hnew (List.mem_singleton.mp hb ▸ hab ▸ ha)⟩
  · intro j hj
    by_cases hji : j = i
    · rw [hji, after_phase_self]
      exact hmove.ne_start
    · rw [after_phase_ne hji]
      exact h.started j ((mem_after_missed hj).resolve_right fun hnew => hji hnew.2)
  · exact fun j hj => h.inserting_step hmove hj
  · exact fun j e hj => h.failed_step hrow hmove hj
  · exact h.creator_step hmove

/-! ## Runs of a pool are races -/

/-- The calls that found no row, in order. -/
def missedCalls (es : List (Event botSig)) : List Nat :=
  (es.filter fun ev => FindsNoRow ev.op ev.res).map Event.thread

theorem missedCalls_snoc (es : List (Event botSig)) (ev : Event botSig) :
    missedCalls (es ++ [ev])
      = if FindsNoRow ev.op ev.res then missedCalls es ++ [ev.thread] else missedCalls es := by
  rw [missedCalls, List.filter_append, List.map_append, ← missedCalls]
  cases hfinds : FindsNoRow ev.op ev.res <;> simp [hfinds]

/-- The pool is where the race is: each thread is the rest of its phase, and the row and the calls
    that missed it are those of the run. What is proved of races is thereby proved of pools. -/
structure Races (telegramId : Int) (botId : String) (usernames : List (Option String))
    (row₀ : Option User) (es : List (Event botSig)) (P : Pool botSig BotError User World)
    (R : Race) : Prop where
  length : P.threads.length = usernames.length
  threads : ∀ i p, P.threads[i]? = some p → ∃ username, usernames[i]? = some username ∧
    p = (R.phase i).rest telegramId botId username
  row : R.row = P.state.db.userRow telegramId botId
  missed : R.missed = missedCalls es
  bound : ∀ i ∈ R.missed, i < usernames.length
  rowInv : RowInv telegramId botId usernames row₀ R
  missInv : MissInv row₀ R

variable {env : Env} {w : World} {es : List (Event botSig)} {P : Pool botSig BotError User World}

theorem races_start : Races telegramId botId usernames (w.db.userRow telegramId botId) []
    ⟨usernames.map (getOrCreateUser telegramId botId), w⟩
    ⟨fun _ => .start, w.db.userRow telegramId botId, []⟩ := by
  refine ⟨List.length_map _, ?_, rfl, rfl, by simp, ⟨?_, ?_, id, ?_⟩, ⟨List.nodup_nil, by simp, ?_,
    ?_, none, ?_, by simp⟩⟩
  · intro i p hp
    rw [List.getElem?_map] at hp
    obtain ⟨username, hi, rfl⟩ := Option.map_eq_some_iff.mp hp
    exact ⟨username, hi, rfl⟩
  · intro i username _
    trivial
  · intro v hv
    have hrow : w.db.userRow telegramId botId = some v := hv
    rw [hrow]
    exact ⟨.refl v, .inl rfl⟩
  · intro i username _ _ hsettled
    exact hsettled.elim
  · intro i hi
    cases hi
  · intro i e hi
    cases hi
  · intro hsome
    cases hsome

/-- **Every run of the calls is a race.** -/
theorem race_of_steps (hrun : Steps (Pool.Step (World.perform env))
      ⟨usernames.map (getOrCreateUser telegramId botId), w⟩ es P)
    (hserved : ∀ ev ∈ es, OverData ev.op ev.res) :
    ∃ R, Races telegramId botId usernames (w.db.userRow telegramId botId) es P R := by
  induction hrun with
  | nil => exact ⟨_, races_start⟩
  | snoc _ hstep ih =>
    obtain ⟨R, hR⟩ := ih fun ev hev => hserved ev (List.mem_append_left _ hev)
    have hlast := hserved _ (List.mem_append_right _ (List.mem_singleton_self _))
    cases hstep with
    | @mk i o k hi =>
      obtain ⟨username, hname, hrest⟩ := hR.threads i _ hi
      have hknown := hR.rowInv.known i username hname
      rw [hR.row] at hknown
      obtain ⟨φ', hk, hmove⟩ := CallPhase.move hrest.symm hknown hlast
      rw [← hR.row] at hmove
      -- only the call that made the operation moves, and the row moves with it
      refine ⟨R.after i _ _ φ', ?_, ?_, rfl, ?_, ?_, hR.rowInv.step hname hmove,
        hR.missInv.step hR.rowInv hmove⟩
      · rw [List.length_set]
        exact hR.length
      · intro j p hj
        by_cases hji : j = i
        · subst hji
          have hlt : j < _ := (List.getElem?_eq_some_iff.mp hi).1
          rw [List.getElem?_set_self hlt] at hj
          cases hj
          refine ⟨username, hname, ?_⟩
          rw [after_phase_self]
          exact hk
        · rw [List.getElem?_set_ne (Ne.symm hji)] at hj
          rw [after_phase_ne hji]
          exact hR.threads j p hj
      · show (if _ then R.missed ++ [i] else R.missed) = _
        -- a call missed the row if this SELECT found none
        rw [missedCalls_snoc, ← hR.missed]
      · intro j hj
        rcases mem_after_missed hj with hold | ⟨_, rfl⟩
        · exact hR.bound j hold
        · exact (List.getElem?_eq_some_iff.mp hname).1

/-! ## The result -/

/-- Every call answers with the one row of the pair; its settings are those it had, or the
    defaults; its name is one of those that were passed, or the old one if none was. -/
def SafeOutcome (telegramId : Int) (botId : String) (usernames : List (Option String)) (d : Db)
    (P : Pool botSig BotError User World) : Prop :=
  ∃ v, P.state.db.users.rows.filter (Db.ofPair telegramId botId) = [v] ∧
    (∀ p ∈ P.threads, ∃ u, p = .ret u ∧ SameUser u v) ∧
    Kept (d.userRow telegramId botId) v ∧
    ((∃ name ∈ usernames, name.isSome) → Passed usernames v.username) ∧
    ((∀ name ∈ usernames, name = none) →
      v.username = (d.userRow telegramId botId).bind User.username)

/-- A call that has come to its end has returned or failed. -/
theorem CallPhase.of_done (h : (φ.rest telegramId botId username).Done) :
    (∃ u, φ = .returned u) ∨ ∃ e, φ = .failed e := by
  cases φ with
  | returned u => exact .inl ⟨u, rfl⟩
  | failed e => exact .inr ⟨e, rfl⟩
  | _ => exact h.elim

/-- A call that has returned is at its end. -/
theorem CallPhase.of_ret {u : User} (h : φ.rest telegramId botId username = .ret u) :
    φ = .returned u := by
  cases φ with
  | returned v => rw [show v = u from Prog.ret.inj h]
  | _ => cases h

/-- Where at most one call finds no row and the old row decodes, every call that has come to its
    end has returned. -/
theorem Races.returned {row₀ : Option User} {R : Race}
    (hR : Races telegramId botId usernames row₀ es P R) (hmissed : (missedCalls es).length ≤ 1)
    (hint : ∀ v, row₀ = some v → InI32 v.maxSubscriptions)
    {p : Handler User} {i : Nat} (hi : P.threads[i]? = some p) (hdone : p.Done) :
    ∃ u v, R.phase i = .returned u ∧ p = .ret u ∧ R.row = some v ∧ SameUser u v := by
  obtain ⟨username, hname, rfl⟩ := hR.threads i p hi
  rcases CallPhase.of_done hdone with ⟨u, hu⟩ | ⟨e, he⟩
  · have hknown := hR.rowInv.known i username hname
    rw [hu] at hknown
    obtain ⟨v, hv, hsame, _⟩ := hknown
    exact ⟨u, v, hu, by rw [hu]; rfl, hv, hsame⟩
  · rcases hR.missInv.failed i e he with ⟨v, hv, hbad⟩ | ⟨j, hj, k, hk, hne⟩
    · exact absurd (hint v hv) hbad
    · -- two calls found no row
      rw [hR.missed] at hj hk
      match hm : missedCalls es with
      | [] => rw [hm] at hj; cases hj
      | [c] =>
        rw [hm, List.mem_singleton] at hj hk
        exact absurd (hj.trans hk.symm) hne
      | c :: c' :: rest =>
        rw [hm] at hmissed
        simp at hmissed

/-- Where every call has returned, one call found no row at most. -/
theorem Races.missed_le {row₀ : Option User} {R : Race}
    (hR : Races telegramId botId usernames row₀ es P R)
    (hret : ∀ p ∈ P.threads, ∃ u, p = .ret u) : (missedCalls es).length ≤ 1 := by
  obtain ⟨c, _, hall⟩ := hR.missInv.creator
  have hcreator : ∀ i ∈ R.missed, c = some i := by
    intro i hi
    have hlt : i < P.threads.length := hR.length ▸ hR.bound i hi
    obtain ⟨username, _, hrest⟩ := hR.threads i _ (List.getElem?_eq_getElem hlt)
    obtain ⟨u, hu⟩ := hret _ (List.getElem_mem hlt)
    have hphase := CallPhase.of_ret (hrest.symm.trans hu)
    rcases hall i hi with hins | ⟨e, hfail⟩ | hc
    · rw [hphase] at hins
      cases hins
    · rw [hphase] at hfail
      cases hfail
    · exact hc
  rw [← hR.missed]
  match hm : R.missed with
  | [] => exact Nat.zero_le _
  | [i] => exact le_refl _
  | i :: j :: rest =>
    have hnodup := hR.missInv.nodup
    rw [hm] at hnodup hcreator
    have hij : i = j := Option.some.inj ((hcreator i (by simp)).symm.trans (hcreator j (by simp)))
    exact absurd hij (by simp at hnodup; tauto)

/-- **Concurrent calls.** Any number of calls for one pair of ids, each with a name of its own,
    take their steps in any order. All of them answer with the one row of their pair if and only if
    at most one of them finds no row, and the row that is there decodes. A call that finds none
    inserts, and of two that insert the second breaks the `UNIQUE` constraint. -/
theorem concurrent_calls_iff (hcalls : usernames ≠ [])
    (hrun : Steps (Pool.Step (World.perform env))
      ⟨usernames.map (getOrCreateUser telegramId botId), w⟩ es P)
    (hserved : ∀ ev ∈ es, OverData ev.op ev.res) (hdone : ∀ p ∈ P.threads, p.Done) :
    SafeOutcome telegramId botId usernames w.db P ↔
      (missedCalls es).length ≤ 1 ∧
        ∀ v, w.db.userRow telegramId botId = some v → InI32 v.maxSubscriptions := by
  obtain ⟨R, hR⟩ := race_of_steps hrun hserved
  have hthread : ∀ {i : Nat}, i < usernames.length →
      ∃ p, P.threads[i]? = some p ∧ p ∈ P.threads := by
    intro i hi
    rw [← hR.length] at hi
    exact ⟨_, List.getElem?_eq_getElem hi, List.getElem_mem hi⟩
  have hpos := List.length_pos_iff.mpr hcalls
  obtain ⟨p₀, hp₀, hmem₀⟩ := hthread hpos
  constructor
  · rintro ⟨v, _, hret, _⟩
    refine ⟨hR.missed_le fun p hp => (hret p hp).imp fun u hu => hu.1, fun v₀ hv₀ => ?_⟩
    -- the first call has decoded the row
    obtain ⟨u, hu, _⟩ := hret p₀ hmem₀
    obtain ⟨username, hname, hrest⟩ := hR.threads 0 p₀ hp₀
    have hknown := hR.rowInv.known 0 username hname
    rw [CallPhase.of_ret (hrest.symm.trans hu)] at hknown
    obtain ⟨v', hv', hsame, hint⟩ := hknown
    have hkept := (hR.rowInv.origin v' hv').1
    rw [hv₀] at hkept
    rwa [SameUser.maxSubscriptions hkept, ← hsame.maxSubscriptions]
  · rintro ⟨hmissed, hint⟩
    have hreturned := fun {p i} (hi : P.threads[i]? = some p) (hp : p ∈ P.threads) =>
      hR.returned hmissed hint hi (hdone p hp)
    obtain ⟨_, v, _, _, hv, _⟩ := hreturned hp₀ hmem₀
    obtain ⟨hkept, hname⟩ := hR.rowInv.origin v hv
    refine ⟨v, Db.filter_ofPair (hR.row.symm.trans hv), ?_, hkept, ?_, ?_⟩
    · intro p hp
      obtain ⟨i, hi, hget⟩ := List.getElem_of_mem hp
      obtain ⟨u, v', _, hu, hv', hsame⟩ := hreturned (hget ▸ List.getElem?_eq_getElem hi) hp
      rw [hv] at hv'
      cases hv'
      exact ⟨u, hu, hsame⟩
    · rintro ⟨name, hmem, hsome⟩
      obtain ⟨i, hi, rfl⟩ := List.getElem_of_mem hmem
      obtain ⟨p, hp, hpmem⟩ := hthread hi
      obtain ⟨u, _, hphase, _⟩ := hreturned hp hpmem
      obtain ⟨v', hv', hpassed⟩ := hR.rowInv.settled i _ (List.getElem?_eq_getElem hi) hsome
        (by rw [hphase]; trivial)
      rw [hv] at hv'
      cases hv'
      exact hpassed
    · intro hnone
      refine hname.resolve_right fun hpassed => ?_
      have hsome := hpassed.1
      rw [hnone _ hpassed.2] at hsome
      cases hsome

end Race

/-! ### Two first contacts -/

/-- The pool of the two calls of a user the database does not know. -/
def twoContacts : Pool botSig BotError User World :=
  ⟨[none, none].map (getOrCreateUser 7 "bot"), ⟨Db.empty, fun _ => .idle, [], 0⟩⟩

/-- What a call has failed with. -/
def failure : Handler User → Option BotError
  | .fail e => some e
  | _ => none

/-- One call after the other. -/
theorem concurrent_calls_iff_serial : ∃ es P,
    Steps (Pool.Step (World.perform World.answering)) twoContacts es P ∧
    (SafeOutcome 7 "bot" [none, none] Db.empty P ↔
      (missedCalls es).length ≤ 1 ∧
        ∀ v, Db.empty.userRow 7 "bot" = some v → InI32 v.maxSubscriptions) := by
  have hcheck : (Pool.schedule (World.perform World.answering) [0, 0, 0, 1] twoContacts).map
      (fun r => (r.1.all fun ev => decide (OverData ev.op ev.res),
        r.2.threads.all fun p => decide p.Done)) = some (true, true) := by decide +kernel
  obtain ⟨⟨es, P⟩, hsched, hall⟩ := Option.map_eq_some_iff.mp hcheck
  obtain ⟨hserved, hdone⟩ := Prod.mk.inj hall
  have hrun := Pool.schedule_steps hsched
  exact ⟨es, P, hrun, concurrent_calls_iff (by simp) hrun
    (fun ev hev => of_decide_eq_true (List.all_eq_true.mp hserved ev hev))
    fun p hp => of_decide_eq_true (List.all_eq_true.mp hdone p hp)⟩

/-- **Both calls look before either inserts**: the second insert breaks the `UNIQUE` constraint,
    and its call fails. -/
theorem two_first_contacts : ∃ es P,
    Steps (Pool.Step (World.perform World.answering)) twoContacts es P ∧
    (∀ ev ∈ es, OverData ev.op ev.res) ∧ (∀ p ∈ P.threads, p.Done) ∧
    P.threads.map failure = [none, some (.database (.constraint .unique))] ∧
    ¬ SafeOutcome 7 "bot" [none, none] Db.empty P := by
  have hcheck : (Pool.schedule (World.perform World.answering) [0, 1, 0, 1, 0] twoContacts).map
      (fun r => (r.1.all fun ev => decide (OverData ev.op ev.res),
        r.2.threads.all fun p => decide p.Done, r.2.threads.map failure))
      = some (true, true, [none, some (.database (.constraint .unique))]) := by decide +kernel
  obtain ⟨⟨es, P⟩, hsched, hall⟩ := Option.map_eq_some_iff.mp hcheck
  obtain ⟨hserved, hall⟩ := Prod.mk.inj hall
  obtain ⟨hdone, hfailed⟩ := Prod.mk.inj hall
  refine ⟨es, P, Pool.schedule_steps hsched,
    fun ev hev => of_decide_eq_true (List.all_eq_true.mp hserved ev hev),
    fun p hp => of_decide_eq_true (List.all_eq_true.mp hdone p hp), hfailed, ?_⟩
  rintro ⟨v, _, hret, _⟩
  -- a call that returned has failed with nothing
  have hnone : ∀ e ∈ P.threads.map failure, e = none := by
    intro e he
    obtain ⟨p, hp, rfl⟩ := List.mem_map.mp he
    obtain ⟨u, rfl, _⟩ := hret p hp
    rfl
  rw [hfailed] at hnone
  exact absurd (hnone _ (List.mem_cons_of_mem _ (List.mem_singleton_self _))) (by simp)

end PolyNotifier
