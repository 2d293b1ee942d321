import PolyNotifier.Bot.Dialogues
import PolyNotifier.Bot.Rules
import PolyNotifier.Bot.Runs
import PolyNotifier.Common.Reference

/-!
# The subscription quota and concurrent requests

The last step of the subscribe flow counts the user's active subscriptions in one statement and
inserts the new one in a later statement; updates from several chats of one user are handled at
the same time. Here the runs are the threads of a `Pool` over one database, and a step is one
call of one of them.

`countFirst` is what every run obeys, whatever the others do: it inserts for the user's own row
only, and only after it has read a count below the limit. What it cannot know is what the others
have added since, and this is the whole defect: the check is right about a count that may be out
of date. `Undisturbed` says of an interleaving that it never is. It speaks of the order of the
statements alone, and neither of the limit nor of what was counted: that the quota then holds is
the work of the check.
-/

namespace PolyNotifier

open Lib (Prog Pool Event Steps Table)
open Lib.Prog (Monitor Obeys)

/-! ## What a run obeys -/

/-- What a run has read: ids of the sender's row, the limit in it, the last count. None of it is
    compared with the database here; whether the count is still the count is the question of the
    module. -/
structure QuotaView where
  ids : Int → Prop
  limit : Option Int
  count : Option Int

/-- A run asks for its sender's row alone, counts for that row, and inserts for it after a count
    below the limit. It sends no other statements than these. -/
def countFirst (telegramId : Int) (botId : String) : Monitor botSig QuotaView where
  allows g
    | .sql (.selectUser t b) => t = telegramId ∧ b = botId
    | .sql (.insertUser t b _) => t = telegramId ∧ b = botId
    | .sql (.selectUserById id) => g.ids id
    | .sql (.countActiveSubscriptions id) => g.ids id
    | .sql (.insertSubscription id _ _) =>
        g.ids id ∧ ∃ limit n, g.limit = some limit ∧ g.count = some n ∧ n < limit
    | .sql (.updateUsername _ _ _) => True
    | .sql (.upsertMarket ..) => True
    | .sql (.selectSubscriptionId ..) => True
    | .sql (.insertAlert ..) => True
    | .sql _ => False
    | _ => True
  next g
    | .sql (.selectUser _ _), .ok (some u) =>
        { g with ids := fun k => g.ids k ∨ k = u.id, limit := some u.maxSubscriptions }
    | .sql (.selectUserById _), .ok u =>
        { g with ids := fun k => g.ids k ∨ k = u.id, limit := some u.maxSubscriptions }
    | .sql (.insertUser _ _ _), .ok id => { g with ids := fun k => g.ids k ∨ k = id }
    | .sql (.countActiveSubscriptions _), .ok n => { g with count := some n }
    -- a count serves for one row
    | .sql (.insertSubscription _ _ _), .ok _ => { g with count := none }
    | _, _ => g

instance (telegramId : Int) (botId : String) : SqlOnly (countFirst telegramId botId) where
  allows g o ho := by
    cases o with
    | sql s => exact absurd rfl (ho s)
    | _ => trivial
  next g o r ho := by
    cases o with
    | sql s => exact absurd rfl (ho s)
    | _ => rfl

section Obeys

variable {telegramId : Int} {botId : String} {g : QuotaView}

theorem userRules_countFirst :
    UserRules (countFirst telegramId botId) g telegramId botId (fun g' id => g'.ids id)
      fun g' u => g'.ids u.id ∧ g'.limit = some u.maxSubscriptions where
  select := ⟨rfl, rfl⟩
  found _ := ⟨.inr rfl, .inr rfl, rfl⟩
  rename _ _ _ _ hid := ⟨trivial, hid⟩
  insert _ _ _ := ⟨⟨rfl, rfl⟩, fun _ => .inr rfl⟩
  reread _ _ hid := ⟨hid, fun _ => ⟨.inr rfl, rfl⟩⟩

/-- **One run obeys**, whatever the answers are. -/
theorem countFirst_handleSubscribeAlertThreshold {x : Crates} {msg : Message}
    (hsender : ∀ s, msg.sender = some s → s.telegramId = telegramId)
    (conditionId question : String) (outcomes tokenIds : List String) (outcomeIndex : Int)
    (alertType : String) :
    Obeys (countFirst telegramId botId) g (handleSubscribeAlertThreshold x botId msg conditionId
      question outcomes tokenIds outcomeIndex alertType) fun _ _ => True := by
  have huser : ∀ s, msg.sender = some s → UserRules (countFirst telegramId botId) g s.telegramId
      botId (fun g' id => g'.ids id) fun g' u => g'.ids u.id ∧ g'.limit = some u.maxSubscriptions := by
    intro s hs
    rw [hsender s hs]
    exact userRules_countFirst
  refine obeys_handleSubscribeAlertThreshold huser (fun _ _ hu => hu.1) ?_
  rintro g' u n _ now ⟨hid, hlimit⟩ hbelow rfl
  refine ⟨trivial, fun marketId pct => obeys_createSubscription ?_ fun _ _ _ _ => ?_⟩
  · -- the count is below the limit, and both were read from the sender's row
    exact ⟨hid, _, _, hlimit, rfl, not_le.mp hbelow⟩
  · exact ⟨trivial, fun _ => trivial⟩

end Obeys

/-! ## What one statement does to the count -/

/-- The user of the runs: a row with the identity and the limit. -/
def HasLimit (d : Db) (telegramId : Int) (botId : String) (id limit : Int) : Prop :=
  ∃ u, d.users.find id = some u ∧ u.telegramId = telegramId ∧ u.botId = botId ∧
    u.maxSubscriptions = limit

/-- What a run has read of the row is what the row says. -/
structure QuotaView.Holds (g : QuotaView) (id limit : Int) : Prop where
  ids : ∀ k, g.ids k → k = id
  limit : ∀ m, g.limit = some m → m = limit

/-- The count an operation read. -/
def counts : (o : BotOp) → o.Res → Option Int
  | .sql (.countActiveSubscriptions _), .ok n => some n
  | _, _ => none

/-- The rows an operation added to the subscriptions of its user. -/
def added : (o : BotOp) → o.Res → Int
  | .sql (.insertSubscription ..), .ok n => (n : Nat)
  | _, _ => 0

theorem added_of_counts {o : BotOp} {r : o.Res} {n : Int} (h : counts o r = some n) :
    added o r = 0 := by
  cases o with
  | sql s =>
    cases s with
    | insertSubscription => cases h
    | _ => rfl
  | _ => rfl

section Statement

variable {telegramId : Int} {botId : String} {id limit : Int} {g : QuotaView} {d d' : Db}

theorem HasLimit.eq_of_identity (h : HasLimit d telegramId botId id limit) {u : User}
    (hu : u ∈ d.users.rows) (ht : u.telegramId = telegramId) (hb : u.botId = botId) :
    u.id = id ∧ u.maxSubscriptions = limit := by
  obtain ⟨u', hfind, ht', hb', hmax⟩ := h
  obtain ⟨hu', hid⟩ := Table.mem_of_find hfind
  obtain rfl : u = u' := by
    apply Table.eq_of_ukey hu hu'
    show (u.telegramId, u.botId) = (u'.telegramId, u'.botId)
    rw [ht, hb, ht', hb']
  exact ⟨hid, hmax⟩

theorem HasLimit.same (h : HasLimit d telegramId botId id limit) (hu : d'.users = d.users) :
    HasLimit d' telegramId botId id limit := by
  rwa [HasLimit, hu]

/-- The identity has a row, and two rows never share one: it is not inserted again. -/
theorem HasLimit.no_insertUser {clock : NaiveDateTime} {username : Option String} {newId : Int}
    (hrow : HasLimit d telegramId botId id limit)
    (h : d.insertUser clock telegramId botId username = .ok (newId, d')) : False := by
  obtain ⟨hsame, hnew, hfind⟩ := Db.insertUser_ok h
  obtain ⟨u, hu, ht, hb, _⟩ := hrow
  obtain ⟨hmem, hid⟩ := Table.mem_of_find hu
  have hbound : u.id ≤ d.users.seq := (d.users.bound u hmem).2
  have howner := hsame.owner id (Table.hasKey_iff.mpr ⟨u, hmem, hid⟩)
  rw [Db.owner, Db.owner, hu] at howner
  cases hu' : d'.users.find id with
  | none =>
    rw [hu'] at howner
    cases howner
  | some u' =>
    rw [hu'] at howner
    obtain ⟨ht', hb'⟩ := Prod.mk.inj (Option.some.inj howner)
    obtain ⟨hmem', hid'⟩ := Table.mem_of_find hu'
    have heq := Table.eq_of_ukey hmem' (Table.mem_of_find hfind).1
      (Prod.ext (ht'.trans ht) (hb'.trans hb))
    have hold : u.id = id := hid
    have hnewId : u'.id = newId := congrArg User.id heq
    have hid' : u'.id = id := hid'
    omega

theorem QuotaView.Holds.read (h : g.Holds id limit) {u : User} (hid : u.id = id)
    (hmax : u.maxSubscriptions = limit) :
    QuotaView.Holds { g with ids := fun k => g.ids k ∨ k = u.id, limit := some u.maxSubscriptions }
      id limit where
  ids k hk := by
    rcases hk with hk | rfl
    · exact h.ids k hk
    · exact hid
  limit m hm := by
    rw [← Option.some.inj hm]
    exact hmax

theorem countActiveSubscriptions_congr (hs : d'.subscriptions = d.subscriptions) :
    d'.countActiveSubscriptions id = d.countActiveSubscriptions id := by
  rw [Db.countActiveSubscriptions, Db.countActiveSubscriptions, Db.activeSubscriptions,
    Db.activeSubscriptions, hs]

/-- **One statement of a run**: the row and what was read of it stay in step, and the count grows
    by the rows the statement added. -/
theorem exec_count {clock : NaiveDateTime} {s : Stmt} {a : s.Res}
    (hrow : HasLimit d telegramId botId id limit) (hg : g.Holds id limit)
    (hallow : (countFirst telegramId botId).allows g (.sql s))
    (h : s.exec clock d = .ok (a, d')) :
    HasLimit d' telegramId botId id limit ∧
      ((countFirst telegramId botId).next g (.sql s) (.ok a)).Holds id limit ∧
      d'.countActiveSubscriptions id = d.countActiveSubscriptions id + added (.sql s) (.ok a) := by
  cases s with
  | selectUser t b =>
    obtain ⟨hr, rfl⟩ := Stmt.reading_ok h
    obtain ⟨rfl, rfl⟩ := hallow
    refine ⟨hrow, ?_, (Int.add_zero _).symm⟩
    cases a with
    | none => exact hg
    | some u =>
      obtain ⟨hu, ht, hb⟩ := Db.selectUser_some hr
      obtain ⟨hid, hmax⟩ := hrow.eq_of_identity hu ht hb
      exact hg.read hid hmax
  | selectUserById k =>
    obtain ⟨hr, rfl⟩ := Stmt.reading_ok h
    obtain rfl : k = id := hg.ids k hallow
    obtain ⟨hu, hid⟩ := Db.selectUserById_ok hr
    obtain ⟨u', hfind, _, _, hmax⟩ := id hrow
    obtain rfl : u' = a := Option.some.inj (hfind.symm.trans (Table.find_eq_some.mpr ⟨hu, hid⟩))
    exact ⟨hrow, hg.read hid hmax, (Int.add_zero _).symm⟩
  | updateUsername username now k =>
    have hd := Stmt.writing_ok h
    obtain ⟨d₁, hok, hfind⟩ := Db.updateUsername_isOk username now k d
    obtain rfl : d' = d₁ := Except.ok.inj (hd.symm.trans hok)
    refine ⟨?_, hg, ?_⟩
    · obtain ⟨u, hu, ht, hb, hmax⟩ := hrow
      rw [HasLimit, hfind, hu]
      -- a new name is no new identity and no new limit
      by_cases hk : u.id == k
      · exact ⟨_, (Option.map_some ..).trans (congrArg some (if_pos hk)), ht, hb, hmax⟩
      · exact ⟨_, (Option.map_some ..).trans (congrArg some (if_neg hk)), ht, hb, hmax⟩
    · rw [(Db.updateUsername_ok hd).countActiveSubscriptions]
      exact (Int.add_zero _).symm
  | insertUser t b username =>
    obtain ⟨rfl, rfl⟩ := hallow
    exact (hrow.no_insertUser h).elim
  | upsertMarket now conditionId question slug outcomes tokenIds =>
    obtain ⟨hu, hs, _⟩ := Db.upsertMarket_ok h
    exact ⟨hrow.same hu, hg, by rw [countActiveSubscriptions_congr hs]; exact (Int.add_zero _).symm⟩
  | countActiveSubscriptions k =>
    cases h
    exact ⟨hrow, ⟨hg.ids, hg.limit⟩, (Int.add_zero _).symm⟩
  | insertSubscription k marketId outcomeIndex =>
    obtain rfl : k = id := hg.ids k hallow.1
    rcases Db.insertSubscription_ok h with ⟨rfl, hsame, _⟩ | ⟨rfl, hu, _, _, _, hrows⟩
    · refine ⟨hrow.same hsame.users, ⟨hg.ids, hg.limit⟩, ?_⟩
      rw [Db.countActiveSubscriptions, Db.countActiveSubscriptions, Db.activeSubscriptions,
        Db.activeSubscriptions, hsame.subscriptions]
      exact (Int.add_zero _).symm
    · refine ⟨hrow.same hu, ⟨hg.ids, hg.limit⟩, ?_⟩
      rw [Db.countActiveSubscriptions, Db.countActiveSubscriptions, Db.activeSubscriptions,
        Db.activeSubscriptions, hrows, List.filter_append, List.length_append]
      simp [added]
  | selectSubscriptionId k marketId outcomeIndex =>
    cases h
    exact ⟨hrow, hg, (Int.add_zero _).symm⟩
  | insertAlert subscriptionId alertType threshold =>
    obtain ⟨_, hu, _, hs, _⟩ := Db.insertAlert_ok (Stmt.writing_ok h)
    exact ⟨hrow.same hu, hg, by rw [countActiveSubscriptions_congr hs]; exact (Int.add_zero _).symm⟩
  | _ => exact hallow.elim

/-- **One operation of a run.** A count it reads is the count that is there. -/
theorem perform_count {env : Env} {o : BotOp} {w : World}
    (hrow : HasLimit w.db telegramId botId id limit) (hg : g.Holds id limit)
    (hallow : (countFirst telegramId botId).allows g o) :
    HasLimit (World.perform env o w).2.db telegramId botId id limit ∧
      ((countFirst telegramId botId).next g o (World.perform env o w).1).Holds id limit ∧
      (World.perform env o w).2.db.countActiveSubscriptions id =
        w.db.countActiveSubscriptions id + added o (World.perform env o w).1 ∧
      ∀ n, counts o (World.perform env o w).1 = some n →
        n = w.db.countActiveSubscriptions id := by
  by_cases ho : ∀ s, o ≠ .sql s
  · -- no statement: the database is not involved
    rw [SqlOnly.next g o _ ho]
    cases o with
    | sql s => exact absurd rfl (ho s)
    | _ => exact ⟨hrow, hg, (Int.add_zero _).symm, by intro n h; cases h⟩
  · obtain ⟨s, rfl⟩ : ∃ s, o = .sql s := by simpa using ho
    cases hexec : World.execute env s w with
    | error e =>
      rw [World.perform_sql_error hexec]
      cases s with
      | _ => exact ⟨hrow, hg, (Int.add_zero _).symm, by intro n h; cases h⟩
    | ok r =>
      obtain ⟨a, d'⟩ := r
      rw [World.perform_sql_ok hexec]
      have hok := World.execute_ok hexec
      obtain ⟨h1, h2, h3⟩ := exec_count hrow hg hallow hok
      refine ⟨h1, h2, h3, ?_⟩
      intro n hn
      cases s with
      | countActiveSubscriptions k =>
        cases hok
        rw [← Option.some.inj hn, hg.ids k hallow]
      | _ => cases hn

end Statement

/-! ## The history of a pool -/

/-- **No run is overtaken**: between a count that a run has read and a row that the same run adds
    after it, no other run adds a row.

    Other runs may count, write markets and be refused in between; only a row that is added makes
    a count out of date. -/
def Undisturbed (es : List (Event botSig)) : Prop :=
  ∀ pre c mid e post, es = pre ++ c :: (mid ++ e :: post) → c.thread = e.thread →
    (counts c.op c.res).isSome → 0 < added e.op e.res →
    ∀ o ∈ mid, o.thread ≠ e.thread → added o.op o.res = 0

/-- The last count of thread `i` was `n`, and the thread has added no row since: what is more than
    `n` in `active` was added by the others after that. -/
def CountedIn (es : List (Event botSig)) (i : Nat) (n active : Int) : Prop :=
  ∃ pre c mid, es = pre ++ c :: mid ∧ c.thread = i ∧ counts c.op c.res = some n ∧
    (∀ o ∈ mid, o.thread = i → added o.op o.res = 0) ∧
    n + (mid.map fun o => added o.op o.res).sum = active

section History

variable {es : List (Event botSig)} {ev : Event botSig} {i : Nat} {n active : Int}

theorem countedIn_last (h : counts ev.op ev.res = some n) :
    CountedIn (es ++ [ev]) ev.thread n n :=
  ⟨es, ev, [], rfl, rfl, h, by simp, by simp⟩

theorem CountedIn.snoc (h : CountedIn es i n active)
    (hown : ev.thread = i → added ev.op ev.res = 0) :
    CountedIn (es ++ [ev]) i n (active + added ev.op ev.res) := by
  obtain ⟨pre, c, mid, rfl, hthread, hcounts, hmid, hsum⟩ := h
  refine ⟨pre, c, mid ++ [ev], by simp, hthread, hcounts, fun o ho hi => ?_, ?_⟩
  · rcases List.mem_append.mp ho with ho | ho
    · exact hmid o ho hi
    · obtain rfl := List.mem_singleton.mp ho
      exact hown hi
  · rw [List.map_append, List.sum_append, List.map_singleton, List.sum_singleton, ← hsum,
      Int.add_assoc]

/-- **In an undisturbed run a count is still right when the row is added.** -/
theorem CountedIn.upToDate (h : CountedIn es ev.thread n active)
    (halone : Undisturbed (es ++ [ev])) (hadd : 0 < added ev.op ev.res) : active = n := by
  obtain ⟨pre, c, mid, rfl, hthread, hcounts, hmid, hsum⟩ := h
  have hnone : ∀ o ∈ mid, added o.op o.res = 0 := by
    intro o ho
    by_cases hi : o.thread = ev.thread
    · exact hmid o ho hi
    · exact halone pre c mid ev [] (by simp) hthread (by rw [hcounts]; rfl) hadd o ho hi
  have hzero : (mid.map fun o => added o.op o.res).sum = 0 := by
    rw [List.map_congr_left hnone]
    simp
  omega

end History

/-! ## What a run of the pool keeps -/

/-- The active subscriptions of the user, as the database has them. -/
def activeIn (id : Int) (P : Pool botSig BotError Unit World) : Int :=
  P.state.db.countActiveSubscriptions id

/-- Every thread has read the truth, and the count it goes by is in the history: together with
    the rows the others have added since it is the count that is there. -/
structure QuotaInv (telegramId : Int) (botId : String) (id limit : Int)
    (es : List (Event botSig)) (P : Pool botSig BotError Unit World) : Prop where
  row : HasLimit P.state.db telegramId botId id limit
  threads : ∃ g, Pool.Obeys (countFirst telegramId botId) g P ∧ ∀ i, (g i).Holds id limit ∧
    ∀ n, (g i).count = some n → CountedIn es i n (activeIn id P)

section Runs

variable {telegramId : Int} {botId : String} {id limit : Int} {env : Env}
  {es : List (Event botSig)} {P P' : Pool botSig BotError Unit World} {ev : Event botSig}

/-- A count a thread goes by is one it has just read, or one it went by before, and then it has
    added no row. -/
theorem next_count {g : QuotaView} {o : BotOp} {r : o.Res} {n : Int}
    (h : ((countFirst telegramId botId).next g o r).count = some n) :
    counts o r = some n ∨ g.count = some n ∧ added o r = 0 := by
  cases o with
  | sql s =>
    cases s with
    | countActiveSubscriptions k =>
      cases r with
      | ok m => exact .inl h
      | error e => exact .inr ⟨h, rfl⟩
    | insertSubscription k marketId outcomeIndex =>
      cases r with
      | ok m => cases h
      | error e => exact .inr ⟨h, rfl⟩
    | selectUser t b => rcases r with e | _ | u <;> exact .inr ⟨h, rfl⟩
    | _ => cases r <;> exact .inr ⟨h, rfl⟩
  | _ => exact .inr ⟨h, rfl⟩

/-- A statement that adds a row was allowed: the thread had counted fewer than the limit. -/
theorem counted_of_added {g : QuotaView} {o : BotOp} {r : o.Res} (hg : g.Holds id limit)
    (hallow : (countFirst telegramId botId).allows g o) (hadd : 0 < added o r) :
    ∃ n, g.count = some n ∧ n < limit := by
  cases o with
  | sql s =>
    cases s with
    | insertSubscription k marketId outcomeIndex =>
      obtain ⟨_, m, n, hm, hn, hlt⟩ := hallow
      exact ⟨n, hn, hg.limit m hm ▸ hlt⟩
    | _ => exact absurd hadd (lt_irrefl 0)
  | _ => exact absurd hadd (lt_irrefl 0)

/-- **One step of the pool.** It keeps the invariant; the count grows by the rows it adds; and who
    adds one has counted fewer than the limit, as the history knows. -/
theorem QuotaInv.step (h : QuotaInv telegramId botId id limit es P)
    (hs : Pool.Step (World.perform env) P ev P') :
    QuotaInv telegramId botId id limit (es ++ [ev]) P' ∧
      activeIn id P' = activeIn id P + added ev.op ev.res ∧
      (0 < added ev.op ev.res → ∃ n < limit, CountedIn es ev.thread n (activeIn id P)) := by
  obtain ⟨g, hobeys, hg⟩ := h.threads
  obtain ⟨hallow, hobeys'⟩ := Pool.obeys_step hobeys hs
  cases hs with
  | @mk i o k hi =>
    dsimp only at hallow ⊢
    obtain ⟨hrow, hview, hcount, hread⟩ := perform_count h.row (hg i).1 hallow
    refine ⟨⟨hrow, _, hobeys', fun j => ?_⟩, hcount, fun hadd => ?_⟩
    · by_cases hj : j = i
      · -- the thread that moved
        subst hj
        simp only [Pool.advance, if_pos]
        refine ⟨hview, fun n hn => ?_⟩
        -- it counted just now, or it has the count of before and added nothing since
        rcases next_count hn with hnew | ⟨hold, hnone⟩
        · have hactive : activeIn id ⟨P.threads.set j (k (World.perform env o P.state).1),
              (World.perform env o P.state).2⟩ = n := by
            rw [activeIn, hcount, added_of_counts hnew, Int.add_zero, hread n hnew]
          rw [hactive]
          have hlast : CountedIn (es ++ [⟨j, o, (World.perform env o P.state).1⟩]) j n n :=
            countedIn_last hnew
          exact hlast
        · rw [activeIn, hcount]
          exact ((hg j).2 n hold).snoc fun _ => hnone
      · -- the count of another thread is as old as before
        simp only [Pool.advance, if_neg hj]
        refine ⟨(hg j).1, fun n hn => ?_⟩
        rw [activeIn, hcount]
        exact ((hg j).2 n hn).snoc fun heq => absurd heq.symm hj
    · obtain ⟨n, hn, hlt⟩ := counted_of_added (hg i).1 hallow hadd
      exact ⟨n, hlt, (hg i).2 n hn⟩

/-- `INSERT OR IGNORE` adds one row at most. -/
theorem added_le_one (hs : Pool.Step (World.perform env) P ev P') : added ev.op ev.res ≤ 1 := by
  cases hs with
  | @mk i o k hi =>
    cases o with
    | sql s =>
      cases s with
      | insertSubscription user marketId outcomeIndex =>
        dsimp only
        cases hexec : World.execute env (.insertSubscription user marketId outcomeIndex)
            P.state with
        | error e =>
          rw [World.perform_sql_error hexec]
          exact Int.zero_le_ofNat 1
        | ok r =>
          obtain ⟨a, d'⟩ := r
          rw [World.perform_sql_ok hexec]
          rcases Db.insertSubscription_ok (World.execute_ok hexec) with ⟨rfl, _⟩ | ⟨rfl, _⟩
          · exact Int.zero_le_ofNat 1
          · exact Int.le_refl 1
      | _ => exact Int.zero_le_ofNat 1
    | _ => exact Int.zero_le_ofNat 1

theorem QuotaInv.steps (h : QuotaInv telegramId botId id limit [] P)
    (hrun : Steps (Pool.Step (World.perform env)) P es P') :
    QuotaInv telegramId botId id limit es P' := by
  induction hrun with
  | nil => exact h
  | snoc _ hs ih => exact (ih.step hs).1

/-- A run of the last step of the subscribe flow, for a message of the identity. -/
def IsRequest (x : Crates) (telegramId : Int) (botId : String) (p : Handler Unit) : Prop :=
  ∃ msg conditionId question outcomes tokenIds outcomeIndex alertType,
    (∀ s, msg.sender = some s → s.telegramId = telegramId) ∧
    p = handleSubscribeAlertThreshold x botId msg conditionId question outcomes tokenIds
      outcomeIndex alertType

theorem quotaInv_start {x : Crates} (hrow : HasLimit P.state.db telegramId botId id limit)
    (hthreads : ∀ p ∈ P.threads, IsRequest x telegramId botId p) :
    QuotaInv telegramId botId id limit [] P where
  row := hrow
  threads := by
    refine ⟨fun _ => ⟨fun _ => False, none, none⟩, ?_, fun i => ⟨⟨?_, ?_⟩, ?_⟩⟩
    · intro i p hp
      obtain ⟨msg, _, _, _, _, _, _, hsender, rfl⟩ := hthreads p (List.mem_of_getElem? hp)
      apply countFirst_handleSubscribeAlertThreshold hsender
    · intro k hk
      exact hk.elim
    · intro m hm
      cases hm
    · intro n hn
      cases hn

theorem Undisturbed.of_append {post : List (Event botSig)} (h : Undisturbed (es ++ post)) :
    Undisturbed es := by
  rintro pre c mid e post' rfl
  exact h pre c mid e (post' ++ post) (by simp)

/-- **The quota is kept after every statement of an undisturbed run.** Any number of requests of
    one user run at once, each from any chat and for any market, and the database and Telegram may
    fail any of their calls; `P'` is the state after any of the statements. As long as no run adds
    a row between the count and the insertion of another, the count was still right when the row
    was added, and so the check was. -/
theorem quota_kept_of_undisturbed {x : Crates}
    (hrow : HasLimit P.state.db telegramId botId id limit)
    (hthreads : ∀ p ∈ P.threads, IsRequest x telegramId botId p) (h0 : activeIn id P ≤ limit)
    (hrun : Steps (Pool.Step (World.perform env)) P es P') (halone : Undisturbed es) :
    activeIn id P' ≤ limit := by
  have hstart := quotaInv_start hrow hthreads
  -- induction on the statements so far; only one that adds a row can break the bound
  induction hrun with
  | nil => exact h0
  | @snoc es ev A B hrun hs ih =>
    have hA := ih halone.of_append
    obtain ⟨_, hcount, hcounted⟩ := (hstart.steps hrun).step hs
    by_cases hadd : 0 < added ev.op ev.res
    · obtain ⟨n, hlt, hin⟩ := hcounted hadd
      have hnow := hin.upToDate halone hadd
      have hone := added_le_one hs
      omega
    · omega

end Runs

/-! ## Two chats of one user -/

/-- User 7 of the sample database, with four subscriptions of the five allowed. -/
def crowdedDb : Db :=
  [1, 2, 3].foldl (fun d k => (d.insertSubscription 0 1 1 k).toOption.elim d Prod.snd) Db.sampleDb

/-- The message `70` in a chat that waits for the threshold of an alert on market `conditionId`. -/
def thresholdIn (chat : Int) (conditionId : String) : Handler Unit :=
  handleSubscribeAlertThreshold Crates.reference "bot" ⟨chat, some ⟨7, none, ""⟩, some "70", none⟩
    conditionId "Will it?" ["Yes", "No"] ["yes", "no"] 0 "above"

/-- The private chat of user 7 and a group. -/
def twoChats : Pool botSig BotError Unit World :=
  ⟨[thresholdIn 70 "0xa", thresholdIn (-5) "0xb"], ⟨crowdedDb, fun _ => .idle, [], 0⟩⟩

theorem twoChats_hasLimit : HasLimit twoChats.state.db 7 "bot" 1 5 :=
  ⟨(twoChats.state.db.users.find 1).get (by decide +kernel), by decide +kernel, by decide +kernel,
    by decide +kernel, by decide +kernel⟩

theorem twoChats_requests : ∀ p ∈ twoChats.threads, IsRequest Crates.reference 7 "bot" p := by
  intro p hp
  have hsender : ∀ s, some (⟨7, none, ""⟩ : Sender) = some s → s.telegramId = 7 := by
    intro s hs
    cases hs
    decide
  have hp' : p = thresholdIn 70 "0xa" ∨ p = thresholdIn (-5) "0xb" := List.mem_pair.mp hp
  have hrequest : ∀ chat conditionId,
      IsRequest Crates.reference 7 "bot" (thresholdIn chat conditionId) := fun chat conditionId =>
    ⟨⟨chat, some ⟨7, none, ""⟩, some "70", none⟩, conditionId, "Will it?", ["Yes", "No"],
      ["yes", "no"], 0, "above", hsender, rfl⟩
  rcases hp' with hp' | hp'
  · rw [hp']
    exact hrequest _ _
  · rw [hp']
    exact hrequest _ _

/-- One chat after the other: the second counts what the first has added. -/
def inTurn : List Nat := [0, 0, 0, 0, 0, 1, 1, 1]

/-- Where one row is added at most, no run is overtaken. -/
theorem undisturbed_of_single {es : List (Event botSig)}
    (h : (es.filter fun e => decide (added e.op e.res ≠ 0)).length ≤ 1) : Undisturbed es := by
  rintro pre c mid e post rfl _ _ hadd o ho _
  by_contra hne
  have ho' : o ∈ mid.filter fun e => decide (added e.op e.res ≠ 0) :=
    List.mem_filter.mpr ⟨ho, decide_eq_true hne⟩
  have he : e ∈ (e :: post).filter fun e => decide (added e.op e.res ≠ 0) :=
    List.mem_filter.mpr ⟨List.mem_cons_self .., decide_eq_true (by omega)⟩
  have hmid := List.length_pos_of_mem ho'
  have hlast := List.length_pos_of_mem he
  rw [show pre ++ c :: (mid ++ e :: post) = (pre ++ [c]) ++ mid ++ (e :: post) by simp,
    List.filter_append, List.filter_append, List.length_append, List.length_append] at h
  omega

/-- The first chat takes the fifth subscription, and the second is refused. -/
theorem quota_kept_of_undisturbed_inTurn :
    ∃ es P, Steps (Pool.Step (World.perform World.answering)) twoChats es P ∧ Undisturbed es ∧
      activeIn 1 P = 5 ∧ activeIn 1 P ≤ 5 := by
  have hrun : (Pool.schedule (World.perform World.answering) inTurn twoChats).map
      (fun r => ((r.1.filter fun e => decide (added e.op e.res ≠ 0)).length, activeIn 1 r.2)) =
        some (1, 5) := by decide +kernel
  obtain ⟨⟨es, P⟩, hsched, heq⟩ := Option.map_eq_some_iff.mp hrun
  obtain ⟨hone, hfive⟩ := Prod.mk.inj heq
  have hsteps := Pool.schedule_steps hsched
  have halone : Undisturbed es := undisturbed_of_single (Nat.le_of_eq hone)
  exact ⟨es, P, hsteps, halone, hfive,
    quota_kept_of_undisturbed twoChats_hasLimit twoChats_requests (by decide +kernel) hsteps
      halone⟩

/-- Both chats count four subscriptions before either inserts the fifth. -/
def race : List Nat := [0, 0, 1, 1, 0, 0, 0, 1, 1, 1]

theorem race_steps : ∃ es P, Steps (Pool.Step (World.perform World.answering)) twoChats es P ∧
    activeIn 1 P = 6 := by
  have hrun : (Pool.schedule (World.perform World.answering) race twoChats).map
      (fun r => activeIn 1 r.2) = some 6 := by decide +kernel
  obtain ⟨⟨es, P⟩, hsched, hsix⟩ := Option.map_eq_some_iff.mp hrun
  exact ⟨es, P, Pool.schedule_steps hsched, hsix⟩

/-- **Two chats of one user take the sixth subscription of five.** -/
theorem two_chats_exceed_quota :
    HasLimit twoChats.state.db 7 "bot" 1 5 ∧
      (∀ p ∈ twoChats.threads, IsRequest Crates.reference 7 "bot" p) ∧
      activeIn 1 twoChats ≤ 5 ∧
      ∃ es P, Steps (Pool.Step (World.perform World.answering)) twoChats es P ∧
        5 < activeIn 1 P := by
  refine ⟨twoChats_hasLimit, twoChats_requests, by decide +kernel, ?_⟩
  obtain ⟨es, P, hrun, hsix⟩ := race_steps
  exact ⟨es, P, hrun, by omega⟩

end PolyNotifier
