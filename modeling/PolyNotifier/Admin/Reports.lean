import Mathlib.Algebra.BigOperators.Group.Finset.Basic
import PolyNotifier.Admin.Updates

/-!
# What the reports say

`GET /admin/users`, `/admin/feedback` and `/admin/stats` are answered while other requests are
served, and the statistics are five statements with other calls between them. As long as the
admin API is all that writes, none of this shows: every answer is about the database the requests
found, up to the tiers and limits that were changed since, and so the answers agree with each
other.
-/

namespace PolyNotifier

open Lib (Table)

namespace Db

/-! ## What the listings list -/

variable {d : Db}

/-- Keys counted over a list that has each of them once. -/
theorem sum_count_eq_length {keys ks : List Int} (hnodup : keys.Nodup)
    (hmem : ∀ k ∈ ks, k ∈ keys) :
    (keys.map fun k => (ks.count k : Int)).sum = ks.length := by
  have hcard : ∑ k ∈ keys.toFinset, (ks : Multiset Int).count k = (ks : Multiset Int).card :=
    Multiset.sum_count_eq_card fun k hk => List.mem_toFinset.mpr (hmem k hk)
  rw [List.sum_toFinset _ hnodup] at hcard
  have hnat : (keys.map fun k => ks.count k).sum = ks.length := by
    simpa using hcard
  rw [← hnat]
  clear hcard hnat hmem hnodup
  induction keys with
  | nil => rfl
  | cons k keys ih =>
    rw [List.map_cons, List.map_cons, List.sum_cons, List.sum_cons, ih, Nat.cast_add]

/-- **The counts of the users add up to the active subscriptions.** -/
theorem sum_countActiveSubscriptions (d : Db) :
    (d.users.rows.map fun u => d.countActiveSubscriptions u.id).sum = d.countSubscriptions := by
  let ks := (d.subscriptions.rows.filter fun s => s.isActive).map Subscription.userId
  have hcount : ∀ k, d.countActiveSubscriptions k = (ks.count k : Int) := by
    intro k
    rw [countActiveSubscriptions, activeSubscriptions]
    show _ = (((d.subscriptions.rows.filter fun s => s.isActive).map
      Subscription.userId).count k : Int)
    rw [List.count_eq_countP, List.countP_map, List.countP_filter, List.countP_eq_length_filter]
    rfl
  have hmem : ∀ k ∈ ks, k ∈ d.users.rows.map User.id := by
    intro k hk
    obtain ⟨s, hs, rfl⟩ := List.mem_map.mp hk
    obtain ⟨u, hu, hkey⟩ := Table.hasKey_iff.mp
      (d.subscriptionUser s (List.mem_of_mem_filter hs))
    exact List.mem_map.mpr ⟨u, hu, hkey⟩
  have hsum := sum_count_eq_length d.users.nodup hmem
  have hlen : (ks.length : Int) = d.countSubscriptions := by
    show (((d.subscriptions.rows.filter fun s => s.isActive).map
      Subscription.userId).length : Int) = _
    rw [List.length_map]
    rfl
  rw [← hlen, ← hsum, List.map_map]
  exact congrArg List.sum (List.map_congr_left fun u _ => hcount u.id)

/-- The users are listed by id, each once. -/
theorem pairwise_usersById (d : Db) :
    ((d.users.rows.insertionSort fun a b => a.id ≤ b.id).map User.id).Pairwise (· < ·) := by
  have hsort : (d.users.rows.insertionSort fun a b => a.id ≤ b.id).map User.id =
      (d.users.rows.map User.id).insertionSort (· ≤ ·) :=
    List.map_insertionSort _ _ _ _ fun _ _ _ _ => Iff.rfl
  have hnodup : ((d.users.rows.map User.id).insertionSort (· ≤ ·)).Nodup :=
    (List.perm_insertionSort _ _).nodup_iff.mpr d.users.nodup
  rw [hsort]
  have hle := (List.pairwise_insertionSort (· ≤ ·) (d.users.rows.map User.id)).and hnodup
  refine hle.imp fun {a b} h => ?_
  have := h.1
  have := h.2
  omega

/-- The rows, the newest first, the rows of one time in any order. The query sorts by the time
    alone, and two rows of the same second may be told either way round. -/
structure NewestFirst (rows listed : List Feedback) : Prop where
  perm : listed.Perm rows
  newest : listed.Pairwise fun a b => b.createdAt ≤ a.createdAt

theorem newestFirst_insertionSort (order : List Nat) (rows : List Feedback) :
    NewestFirst rows
      ((Lib.arrange order rows).insertionSort fun a b => b.createdAt ≤ a.createdAt) where
  perm := (List.perm_insertionSort _ _).trans (Lib.arrange_perm order rows)
  newest := by
    have : Std.Total fun a b : Feedback => b.createdAt ≤ a.createdAt := ⟨fun a b => le_total _ _⟩
    have : IsTrans Feedback fun a b => b.createdAt ≤ a.createdAt := ⟨fun _ _ _ h h' => h'.trans h⟩
    exact List.pairwise_insertionSort _ _

/-- **Every feedback is listed**, the newest first. -/
theorem map_listFeedback (strftime : NaiveDateTime → String) (order : List Nat) (d : Db) :
    ∃ listed, NewestFirst d.feedback.rows listed ∧
      (d.listFeedback strftime order).map (fun e => (e.id, e.userId, e.message, e.createdAt)) =
        listed.map fun f => (f.id, f.userId, f.message, strftime f.createdAt) := by
  have hall : ∀ rows : List Feedback, (∀ f ∈ rows, f ∈ d.feedback.rows) →
      (rows.filterMap (d.feedbackListEntry strftime)).map
          (fun e => (e.id, e.userId, e.message, e.createdAt)) =
        rows.map fun f => (f.id, f.userId, f.message, strftime f.createdAt) := by
    intro rows hrows
    induction rows with
    | nil => rfl
    | cons f rows ih =>
      obtain ⟨u, hu⟩ := Table.find_isSome (d.feedbackUser f (hrows f (List.mem_cons_self ..)))
      have hentry : d.feedbackListEntry strftime f = some ⟨f.id, f.userId, u.telegramId,
          u.username, f.message, strftime f.createdAt⟩ := by
        rw [feedbackListEntry, hu, Option.map_some]
      rw [List.filterMap_cons_some hentry, List.map_cons, List.map_cons,
        ih fun g hg => hrows g (List.mem_cons_of_mem _ hg)]
  have hlisted := newestFirst_insertionSort order d.feedback.rows
  exact ⟨_, hlisted, hall _ fun f hf => hlisted.perm.mem_iff.mp hf⟩

theorem user_of_listFeedback {strftime : NaiveDateTime → String} {order : List Nat}
    {e : FeedbackListEntry} (h : e ∈ d.listFeedback strftime order) :
    ∃ u ∈ d.users.rows, u.id = e.userId ∧ u.telegramId = e.telegramId ∧
      u.username = e.username := by
  obtain ⟨f, _, hf⟩ := List.mem_filterMap.mp h
  obtain ⟨u, hu, rfl⟩ := Option.map_eq_some_iff.mp hf
  obtain ⟨hmem, hkey⟩ := Table.mem_of_find hu
  exact ⟨u, hmem, hkey, rfl, rfl⟩

end Db

namespace Admin

open Lib (Prog Pool Event Call Steps)

/-! ## What a call reads -/

/-- An entry but for what requests change. -/
def fixed (e : Db.UserListEntry) : Db.UserListEntry := { e with tier := "", maxSubscriptions := 0 }

/-- The entries of the users of a database, by id. -/
def entriesOf (d : Db) : List Db.UserListEntry :=
  (d.users.rows.insertionSort fun a b => a.id ≤ b.id).map d.userListEntry

/-- What an answer reports, it reports of `d`. The entries of the users are compared without the
    columns an update may write in between (`fixed`), since `d` is the database a run has started
    from and not the one at the moment of the query. -/
structure ReportsOf (x : AdminCrates) (d : Db) (res : Response) : Prop where
  users : ∀ entries, res.body = .users entries → entries.map fixed = (entriesOf d).map fixed
  feedback : ∀ entries, res.body = .feedback entries →
    ∃ order, entries = d.listFeedback x.strftime order
  stats : ∀ s, res.body = .stats s → s.totalUsers = d.countUsers ∧
    s.activeSubscriptions = d.countSubscriptions ∧ s.activeAlerts = d.countActiveAlerts ∧
    s.activeMarkets = d.countMarkets

/-- So does the answer to a query. -/
def Reads (x : AdminCrates) (d : Db) : Call adminSig → Prop
  | ⟨.sql .listUsers, .ok entries⟩ => entries.map fixed = (entriesOf d).map fixed
  | ⟨.sql .listFeedback, .ok entries⟩ => ∃ order, entries = d.listFeedback x.strftime order
  | ⟨.sql .countUsers, .ok n⟩ => n = d.countUsers
  | ⟨.sql .countSubscriptions, .ok n⟩ => n = d.countSubscriptions
  | ⟨.sql .countActiveAlerts, .ok n⟩ => n = d.countActiveAlerts
  | ⟨.sql .countMarkets, .ok n⟩ => n = d.countMarkets
  | _ => True

variable {x : AdminCrates} {state : AdminState} {req : Request} {d d' : Db}
  {es : List (Event adminSig)}

/-- The entries are the same but for tiers and limits. -/
theorem WrittenFrom.entriesOf (h : WrittenFrom d es d') :
    (entriesOf d').map fixed = (entriesOf d).map fixed := by
  have hsort : d'.users.rows.insertionSort (fun a b => a.id ≤ b.id) =
      (d.users.rows.insertionSort fun a b => a.id ≤ b.id).map (written es) := by
    rw [h.rows]
    exact (List.map_insertionSort (fun a b : User => a.id ≤ b.id)
      (fun a b : User => a.id ≤ b.id) (written es) _ fun _ _ _ _ => Iff.rfl).symm
  unfold Admin.entriesOf
  rw [hsort, List.map_map, List.map_map, List.map_map]
  refine List.map_congr_left fun u _ => ?_
  have hcount : d'.countActiveSubscriptions u.id = d.countActiveSubscriptions u.id := by
    rw [Db.countActiveSubscriptions, Db.countActiveSubscriptions, Db.activeSubscriptions,
      Db.activeSubscriptions, h.others.subscriptions]
  show fixed (d'.userListEntry (written es u)) = fixed (d.userListEntry u)
  simp only [fixed, Db.userListEntry, written, hcount]

/-- The feedback is the same, and so are those who sent it. -/
theorem WrittenFrom.listFeedback (h : WrittenFrom d es d') (strftime : NaiveDateTime → String)
    (order : List Nat) : d'.listFeedback strftime order = d.listFeedback strftime order := by
  have hfind : ∀ k, d'.users.find k = (d.users.find k).map (written es) := by
    intro k
    rw [Table.find, Table.find, h.rows, List.find?_map]
    rfl
  have hentry : d'.feedbackListEntry strftime = d.feedbackListEntry strftime := by
    funext f
    rw [Db.feedbackListEntry, Db.feedbackListEntry, hfind, Option.map_map]
    rfl
  rw [Db.listFeedback, Db.listFeedback, h.others.feedback, hentry]

theorem WrittenFrom.counts (h : WrittenFrom d es d') :
    d'.countUsers = d.countUsers ∧ d'.countSubscriptions = d.countSubscriptions ∧
      d'.countActiveAlerts = d.countActiveAlerts ∧ d'.countMarkets = d.countMarkets := by
  refine ⟨?_, ?_, ?_, ?_⟩
  · rw [Db.countUsers, Db.countUsers, h.rows, List.length_map]
  · rw [Db.countSubscriptions, Db.countSubscriptions, h.others.subscriptions]
  · rw [Db.countActiveAlerts, Db.countActiveAlerts, h.others.alerts, h.others.subscriptions]
  · rw [Db.countMarkets, Db.countMarkets, h.others.markets]

/-- **A query reads what the requests found.** -/
theorem WrittenFrom.reads {w : Store} (h : WrittenFrom d es w.db) (env : Env) (o : AdminOp) :
    Reads x d ⟨o, (Admin.perform x env o w).1⟩ := by
  obtain ⟨husers, hsubs, halerts, hmarkets⟩ := h.counts
  cases o with
  | now => trivial
  | sql s =>
    by_cases hdb : env.database w.calls = true
    · cases s with
      | listUsers =>
        simp only [Admin.perform, hdb, if_true, Statement.exec]
        cases hlist : w.db.listUsers with
        | error e => trivial
        | ok entries =>
          show entries.map fixed = _
          rw [(decodeAll_ok hlist).1]
          exact h.entriesOf
      | listFeedback =>
        simp only [Admin.perform, hdb, if_true, Statement.exec]
        exact ⟨_, h.listFeedback x.strftime (env.order w.calls)⟩
      | countUsers =>
        simp only [Admin.perform, hdb, if_true, Statement.exec]
        exact husers
      | countSubscriptions =>
        simp only [Admin.perform, hdb, if_true, Statement.exec]
        exact hsubs
      | countActiveAlerts =>
        simp only [Admin.perform, hdb, if_true, Statement.exec]
        exact halerts
      | countMarkets =>
        simp only [Admin.perform, hdb, if_true, Statement.exec]
        exact hmarkets
      | _ => trivial
    · simp only [Admin.perform, hdb]
      cases s <;> trivial

/-! ## What a request reports -/

/-- A request reports, from answers that report. -/
def ReportsRequest (x : AdminCrates) (d : Db) (p : Serving) : Prop :=
  Prog.Serves (Reads x d) (fun _ => True) (fun _ r => ∀ res, r = .ok res → ReportsOf x d res) [] p

theorem reports_plain {res : Response} (husers : ∀ entries, res.body ≠ .users entries)
    (hfeedback : ∀ entries, res.body ≠ .feedback entries) (hstats : ∀ s, res.body ≠ .stats s) :
    ReportsOf x d res :=
  ⟨fun entries h => absurd h (husers entries), fun entries h => absurd h (hfeedback entries),
    fun s h => absurd h (hstats s)⟩

theorem reports_dbError : ReportsOf x d dbError :=
  reports_plain (by simp [dbError]) (by simp [dbError]) (by simp [dbError])

theorem reports_answer {res : Response} (h : ReportsOf x d res) :
    ReportsRequest x d (.ret res) := by
  intro res' hres
  cases hres
  exact h

theorem reports_updated {telegramId : Int} {value : Body}
    (hvalue : ReportsOf x d ⟨.ok, value⟩) (r : Except DbError Nat) :
    ReportsOf x d (updated telegramId value r) := by
  cases r with
  | error e => exact reports_dbError
  | ok n =>
    cases n with
    | zero => exact reports_plain (by simp [updated]) (by simp [updated]) (by simp [updated])
    | succ n => exact hvalue

theorem reports_getStats : ReportsRequest x d getStats := by
  have hfailed : ∀ calls : List (Call adminSig),
      Prog.Serves (Reads x d) (fun _ => True) (fun _ r => ∀ res, r = .ok res → ReportsOf x d res)
        calls (pure dbError : Serving) := by
    intro calls res hres
    cases hres
    exact reports_dbError
  unfold ReportsRequest getStats
  rw [Prog.serves_bind, Prog.serves_attempt]
  unfold fetchStats
  -- the five queries in their order; the first that fails ends the request
  refine ⟨trivial, fun r husers => ?_⟩
  cases r with
  | error e => exact hfailed []
  | ok users =>
    refine ⟨trivial, fun r hsubs => ?_⟩
    cases r with
    | error e => exact hfailed []
    | ok subscriptions =>
      refine ⟨trivial, fun r halerts => ?_⟩
      cases r with
      | error e => exact hfailed []
      | ok alerts =>
        refine ⟨trivial, fun r hmarkets => ?_⟩
        cases r with
        | error e => exact hfailed []
        | ok markets =>
          refine ⟨trivial, fun r _ => ?_⟩
          cases r with
          | error e => exact hfailed []
          | ok notifications =>
            intro res hres
            cases hres
            refine ⟨by simp, by simp, fun s hs => ?_⟩
            cases hs
            exact ⟨husers, hsubs, halerts, hmarkets⟩

/-- **Every request reports.** -/
theorem Served.reports {p : Serving} (h : Served x state req p) : ReportsRequest x d p := by
  induction h with
  | status h => exact reports_answer (reports_plain (by simp) (by simp) (by simp))
  | rejection r =>
    exact reports_answer (reports_plain (by simp [Rejection.intoResponse])
      (by simp [Rejection.intoResponse]) (by simp [Rejection.intoResponse]))
  | updateTier =>
    unfold Admin.updateTier
    dsimp only
    split
    · refine ⟨trivial, fun now _ => ⟨trivial, fun r _ => ?_⟩⟩
      exact reports_answer (reports_updated (reports_plain (by simp) (by simp) (by simp)) r)
    · exact reports_answer (reports_plain (by simp) (by simp) (by simp))
  | updateLimit =>
    unfold Admin.updateLimit
    split
    · exact reports_answer (reports_plain (by simp) (by simp) (by simp))
    · refine ⟨trivial, fun now _ => ⟨trivial, fun r _ => ?_⟩⟩
      exact reports_answer (reports_updated (reports_plain (by simp) (by simp) (by simp)) r)
  | listUsers =>
    refine ⟨trivial, fun r hr => ?_⟩
    cases r with
    | error e => exact reports_answer reports_dbError
    | ok entries =>
      refine reports_answer ⟨fun entries' h => ?_, by simp, by simp⟩
      cases h
      exact hr
  | listFeedback =>
    refine ⟨trivial, fun r hr => ?_⟩
    cases r with
    | error e => exact reports_answer reports_dbError
    | ok entries =>
      refine reports_answer ⟨by simp, fun entries' h => ?_, by simp⟩
      cases h
      exact hr
  | getStats => exact reports_getStats
  -- the answer to HEAD has no body, so it reports nothing
  | head _ ih =>
    unfold ReportsRequest
    rw [Prog.serves_bind]
    refine Prog.Serves.imp ih (fun _ h => h) fun calls r _ => ?_
    cases r with
    | ok res => exact reports_answer (reports_plain (by simp) (by simp) (by simp))
    | error e => cases e

/-! ## Reports of one run -/

variable {env : Env} {reqs : List Request} {w : Store} {P : Pool adminSig Empty Response Store}

/-- Every answer of a run is about the database the requests found. -/
theorem reportsOf_run
    (hrun : Steps (Pool.Step (perform x env)) ⟨reqs.map (serve x state), w⟩ es P) {i : Nat}
    {res : Response} (hi : P.threads[i]? = some (.ret res)) : ReportsOf x w.db res := by
  obtain ⟨_, _, hserves⟩ := Pool.serves_run (C := Reads x w.db) (A := fun _ _ => True)
    (Q := fun _ _ r => ∀ res, r = .ok res → ReportsOf x w.db res)
    (I := fun es s => WrittenFrom w.db es s.db)
    (fun es i o s hs _ => ⟨hs.reads env o, hs.perform i o⟩) (writtenFrom_nil w.db)
    (fun i p hi => by
      obtain ⟨req, _, hserved⟩ := getElem?_serves hi
      exact hserved.reports)
    hrun
  exact hserves i _ hi res rfl

/-- **However requests are served together, their reports agree**: the statistics count the users
    that are listed, and the active subscriptions are the sum of theirs; every user is listed
    once, in the order of the ids; and every feedback is listed once, with its text and its time,
    the newest first, and with a user of the list. -/
theorem reports_agree
    (hrun : Steps (Pool.Step (perform x env)) ⟨reqs.map (serve x state), w⟩ es P)
    {i j k : Nat} {si sj sk : StatusCode} {s : StatsResponse} {users : List Db.UserListEntry}
    {feedback : List Db.FeedbackListEntry}
    (hstats : P.threads[i]? = some (.ret ⟨si, .stats s⟩))
    (husers : P.threads[j]? = some (.ret ⟨sj, .users users⟩))
    (hfeedback : P.threads[k]? = some (.ret ⟨sk, .feedback feedback⟩)) :
    s.totalUsers = users.length ∧
    s.activeSubscriptions = (users.map Db.UserListEntry.subscriptionCount).sum ∧
    (users.map Db.UserListEntry.id).Pairwise (· < ·) ∧
    (∃ listed, Db.NewestFirst w.db.feedback.rows listed ∧
      feedback.map (fun f => (f.id, f.userId, f.message, f.createdAt)) =
        listed.map fun f => (f.id, f.userId, f.message, x.strftime f.createdAt)) ∧
    ∀ f ∈ feedback, ∃ u ∈ users,
      u.id = f.userId ∧ u.telegramId = f.telegramId ∧ u.username = f.username := by
  obtain ⟨htotal, hactive, _, _⟩ := (reportsOf_run hrun hstats).stats s rfl
  have hlist := (reportsOf_run hrun husers).users users rfl
  obtain ⟨order, hfb⟩ := (reportsOf_run hrun hfeedback).feedback feedback rfl
  -- what `fixed` leaves can be read off either list
  have hread : ∀ {β : Type} (f : Db.UserListEntry → β), (∀ e, f (fixed e) = f e) →
      users.map f = (entriesOf w.db).map f := by
    intro β f hf
    have hcomp : f ∘ fixed = f := funext hf
    have := congrArg (List.map f) hlist
    rwa [List.map_map, List.map_map, hcomp] at this
  have hperm := List.perm_insertionSort (fun a b : User => a.id ≤ b.id) w.db.users.rows
  refine ⟨?_, ?_, ?_, ?_, ?_⟩
  · have hlen := congrArg List.length (hread Db.UserListEntry.id fun _ => rfl)
    rw [List.length_map, List.length_map, entriesOf, List.length_map, hperm.length_eq] at hlen
    rw [htotal, Db.countUsers, hlen]
  · rw [hactive, hread Db.UserListEntry.subscriptionCount fun _ => rfl, entriesOf, List.map_map,
      ← Db.sum_countActiveSubscriptions]
    exact ((hperm.map _).sum_eq).symm
  · rw [hread Db.UserListEntry.id fun _ => rfl, entriesOf, List.map_map]
    exact Db.pairwise_usersById w.db
  · rw [hfb]
    exact Db.map_listFeedback x.strftime order w.db
  · intro f hf
    rw [hfb] at hf
    obtain ⟨u, hu, hid, htelegram, hname⟩ := Db.user_of_listFeedback hf
    let key : Db.UserListEntry → Int × Int × Option String :=
      fun e => (e.id, e.telegramId, e.username)
    have hmem : (f.userId, f.telegramId, f.username) ∈ users.map key := by
      rw [hread key fun _ => rfl, entriesOf, List.map_map]
      refine List.mem_map.mpr ⟨u, hperm.mem_iff.mpr hu, ?_⟩
      rw [← hid, ← htelegram, ← hname]
      rfl
    obtain ⟨e, he, hkey⟩ := List.mem_map.mp hmem
    obtain ⟨h1, h2⟩ := Prod.mk.inj hkey
    obtain ⟨h2, h3⟩ := Prod.mk.inj h2
    exact ⟨e, he, h1, h2, h3⟩

/-- The reports of the sample, one of them interrupted by updates. -/
theorem reports_agree_sample :
    ∃ es P s users feedback,
      Steps (Pool.Step (perform .reference sampleEnv)) samplePool es P ∧
      P.threads[0]? = some (.ret ⟨.ok, .stats s⟩) ∧
      P.threads[1]? = some (.ret ⟨.ok, .users users⟩) ∧
      P.threads[2]? = some (.ret ⟨.ok, .feedback feedback⟩) ∧
      s.totalUsers = users.length ∧
      s.activeSubscriptions = (users.map Db.UserListEntry.subscriptionCount).sum := by
  obtain ⟨es, P, hrun, _, hanswers⟩ := sample_run
  have hthread : ∀ (i : Nat) res, sampleAnswers[i]? = some (some res) →
      P.threads[i]? = some (.ret res) := by
    intro i res hi
    rw [← hanswers, List.getElem?_map, Option.map_eq_some_iff] at hi
    obtain ⟨p, hp, hres⟩ := hi
    rw [hp, answer_eq_some hres]
  have hstats := hthread 0 _ rfl
  have husers := hthread 1 _ rfl
  have hfeedback := hthread 2 _ rfl
  obtain ⟨htotal, hsum, _⟩ := reports_agree hrun hstats husers hfeedback
  exact ⟨es, P, _, _, _, hrun, hstats, husers, hfeedback, htotal, hsum⟩

end Admin

end PolyNotifier
