import PolyNotifier.Lib.Window
import PolyNotifier.Notify.Service

/-!
# What the rate limiter promises

The limiter is one fixed-window counter for each user: `run_user` reads the calls of one user off
any run, and whatever the other users do, they are a run of `Lib.FixedWindow`.

A window is a minute from its first call, not the last minute before now. So a user never gets
more than the cap in one window, but the end of a window and the start of the next can meet in
one minute.
-/

namespace PolyNotifier
namespace RateLimiter

open Lib

/-- One `check_and_consume`: for whom, and what the clock says. -/
structure Call where
  userId : Int
  now : NaiveDateTime
  deriving DecidableEq

/-- The calls so far, each with its result. The limiter keeps a counter and a time; what it is for
    is a statement about all calls. -/
abbrev History := List (Call × Bool)

def step (s : RateLimiter × History) (c : Call) : RateLimiter × History :=
  let (ok, l) := s.1.checkAndConsume c.now c.userId
  (l, s.2 ++ [(c, ok)])

/-- The limiter after the calls. -/
def run (m : Nat) (calls : List Call) : RateLimiter × History :=
  calls.foldl step (new m, [])

/-- The clock never goes backward. -/
def Clocked (calls : List Call) : Prop := calls.Pairwise fun c c' => c.now ≤ c'.now

instance (calls : List Call) : Decidable (Clocked calls) :=
  inferInstanceAs (Decidable (List.Pairwise _ _))

/-- How many calls for the user returned true at such a time. -/
def History.accepted (h : History) (userId : Int) (p : NaiveDateTime → Prop) [DecidablePred p] :
    Nat :=
  h.countP fun r => r.2 && decide (r.1.userId = userId ∧ p r.1.now)

/-- The calls of one user, and their results. -/
def History.ofUser (h : History) (userId : Int) : History :=
  h.filter fun r => r.1.userId = userId

/-! ## One user -/

/-- One minute. -/
def minute : Duration := Duration.seconds 60

theorem minute_pos : 0 < minute := by
  decide

/-- Whole seconds, cut off towards zero, reach sixty when the minute is over. -/
theorem expired_iff (start now : Int) :
    60 ≤ Int.tdiv (now - start) (Duration.seconds 1) ↔ start + minute ≤ now := by
  have hsec : Duration.seconds 1 = (1000000000 : Int) := rfl
  have hmin : minute = (60000000000 : Int) := rfl
  rw [hsec, hmin]
  rcases le_or_gt 0 (now - start) with h | h
  · rw [Int.tdiv_eq_ediv_of_nonneg h]
    omega
  · have hneg : 0 ≤ Int.tdiv (-(now - start)) 1000000000 :=
      Int.tdiv_nonneg (by omega) (by decide)
    rw [Int.neg_tdiv] at hneg
    omega

theorem checkAndConsume_eq (l : RateLimiter) (c : Call) :
    l.checkAndConsume c.now c.userId =
      let (ok, entry) :=
        FixedWindow.call minute l.maxPerMinute (l.windows.lookup c.userId) c.now
      (ok, { l with windows := l.windows.insert c.userId entry }) := by
  unfold checkAndConsume FixedWindow.call FixedWindow.current
  simp only [expired_iff]
  cases l.windows.lookup c.userId with
  | none =>
    have hopen : ¬ c.now + minute ≤ c.now := not_le_of_gt (Int.lt_add_of_pos_right _ minute_pos)
    simp only [Option.getD_none, if_neg hopen]
    split <;> rfl
  | some entry =>
    simp only [Option.getD_some]
    split <;> split <;> rfl

theorem run_snoc (m : Nat) (calls : List Call) (c : Call) :
    run m (calls ++ [c]) = step (run m calls) c := by
  rw [run, List.foldl_append]
  rfl

/-- The times of the calls for one user. -/
def timesOf (userId : Int) (calls : List Call) : List NaiveDateTime :=
  (calls.filter fun c => c.userId = userId).map Call.now

/-- The calls for one user with their times alone. -/
def History.timed (h : History) : List (NaiveDateTime × Bool) := h.map fun r => (r.1.now, r.2)

/-- **The calls of one user are a run of the fixed-window counter**, whoever else calls. -/
theorem run_user (m : Nat) (calls : List Call) (userId : Int) :
    (run m calls).1.maxPerMinute = m ∧
      (run m calls).1.windows.lookup userId =
        (FixedWindow.run minute m (timesOf userId calls)).entry ∧
      ((run m calls).2.ofUser userId).timed =
        (FixedWindow.run minute m (timesOf userId calls)).history := by
  induction calls using List.reverseRecOn with
  | nil => exact ⟨rfl, rfl, rfl⟩
  | append_singleton calls c ih =>
    obtain ⟨hmax, hentry, hhistory⟩ := ih
    rw [run_snoc, step, checkAndConsume_eq, hmax]
    dsimp only
    refine ⟨rfl, ?_⟩
    by_cases huser : c.userId = userId
    · have htimes : timesOf userId (calls ++ [c]) = timesOf userId calls ++ [c.now] := by
        simp [timesOf, huser]
      rw [htimes, FixedWindow.run_snoc, FixedWindow.Run.step, ← hhistory, ← hentry, huser]
      refine ⟨Finmap.lookup_insert _, ?_⟩
      simp [History.ofUser, History.timed, huser]
    · have htimes : timesOf userId (calls ++ [c]) = timesOf userId calls := by
        simp [timesOf, huser]
      rw [htimes, ← hhistory, ← hentry]
      refine ⟨Finmap.lookup_insert_of_ne _ (Ne.symm huser), ?_⟩
      simp [History.ofUser, History.timed, huser]

theorem accepted_eq (h : History) (userId : Int) (p : NaiveDateTime → Prop) [DecidablePred p] :
    h.accepted userId p = FixedWindow.passed (h.ofUser userId).timed p := by
  unfold History.accepted FixedWindow.passed History.timed History.ofUser
  rw [List.countP_map, List.countP_filter]
  apply List.countP_congr
  intro r _
  simp only [Bool.and_eq_true, decide_eq_true_eq, Function.comp_apply]
  tauto

theorem Clocked.timesOf {calls : List Call} (h : Clocked calls) (userId : Int) :
    (timesOf userId calls).Pairwise (· ≤ ·) :=
  List.pairwise_map.mpr (h.sublist List.filter_sublist)

/-! ## The cap -/

/-- Every sliding minute of every user has at most `m` calls that returned true. -/
def CapsEveryMinute (m : Nat) : Prop :=
  ∀ calls, Clocked calls → ∀ userId t,
    (run m calls).2.accepted userId (fun now => t ≤ now ∧ now < t + minute) ≤ m

/-- No minute has more than `2 * m - 1` calls that returned true. -/
theorem accepted_sliding (m : Nat) {calls : List Call} (hclock : Clocked calls) (userId : Int)
    (t : NaiveDateTime) :
    (run m calls).2.accepted userId (fun now => t ≤ now ∧ now < t + minute) ≤ 2 * m - 1 := by
  rw [accepted_eq, (run_user m calls userId).2.2]
  exact FixedWindow.run_sliding minute_pos (hclock.timesOf userId) t

/-- The windows cap every minute only where one call fills them. -/
theorem capsEveryMinute_iff (m : Nat) : CapsEveryMinute m ↔ m ≤ 1 := by
  constructor
  · intro h
    by_contra hm
    -- one call, the others of its window 59 seconds later, and at 60 seconds a full window more
    let times : List NaiveDateTime :=
      [0] ++ List.replicate (m - 1) (Duration.seconds 59) ++ List.replicate m (0 + minute)
    have hcap : 0 < m := by omega
    have hattained := FixedWindow.sliding_attained hcap
      (show (0 : Duration) < Duration.seconds 59 by decide)
      (show Duration.seconds 59 < 0 + minute by decide)
    have htimes : timesOf 0 (times.map fun now => ⟨0, now⟩) = times := by
      simp [timesOf, List.filter_map, Function.comp_def]
    have hclock : Clocked (times.map fun now => ⟨0, now⟩) := by
      have h1 : (0 : Duration) ≤ Duration.seconds 59 := by decide
      have h2 : (0 : Duration) ≤ 0 + minute := by decide
      have h3 : Duration.seconds 59 ≤ 0 + minute := by decide
      refine List.pairwise_map.mpr ?_
      refine List.pairwise_append.mpr ⟨List.pairwise_append.mpr ⟨List.pairwise_singleton _ _,
        List.pairwise_replicate.mpr (.inr le_rfl), ?_⟩,
        List.pairwise_replicate.mpr (.inr le_rfl), ?_⟩
      · intro a ha b hb
        rw [List.mem_singleton.mp ha, List.eq_of_mem_replicate hb]
        exact h1
      · intro a ha b hb
        rw [List.eq_of_mem_replicate hb]
        rcases List.mem_append.mp ha with ha | ha
        · rw [List.mem_singleton.mp ha]
          exact h2
        · rw [List.eq_of_mem_replicate ha]
          exact h3
    have hcapped := h _ hclock 0 (Duration.seconds 59)
    rw [accepted_eq, (run_user m _ 0).2.2, htimes, hattained] at hcapped
    omega
  · intro hm calls hclock userId t
    have := accepted_sliding m hclock userId t
    omega

/-- **The windows are capped.** A user's windows start with the first call, and with the first
    call a minute or more after the last start. Every call is in one, no window has more than `m`
    calls that returned true, and no minute at all has more than `2 * m - 1`. -/
theorem checkAndConsume_caps (m : Nat) (calls : List Call) (hclock : Clocked calls)
    (userId : Int) :
    (∀ c ∈ calls, c.userId = userId →
      ∃ s ∈ FixedWindow.windowStarts minute (timesOf userId calls),
        s ≤ c.now ∧ c.now < s + minute) ∧
    (∀ s ∈ FixedWindow.windowStarts minute (timesOf userId calls),
      (run m calls).2.accepted userId (fun now => s ≤ now ∧ now < s + minute) ≤ m) ∧
    ∀ t, (run m calls).2.accepted userId (fun now => t ≤ now ∧ now < t + minute) ≤ 2 * m - 1 := by
  obtain ⟨_, _, hhistory⟩ := run_user m calls userId
  obtain ⟨hcover, hcap⟩ :=
    FixedWindow.run_windows m minute_pos (hclock.timesOf userId)
  refine ⟨?_, ?_, accepted_sliding m hclock userId⟩
  · intro c hc huser
    apply hcover
    exact List.mem_map_of_mem (List.mem_filter.mpr ⟨hc, decide_eq_true huser⟩)
  · intro s hs
    rw [accepted_eq, hhistory]
    exact hcap s hs

/-- Two at the end of a window and two at the start of the next: of the four, three come within
    one second. -/
theorem two_not_capped : ¬ CapsEveryMinute 2 := by
  intro h
  have hfour := h [⟨7, 0⟩, ⟨7, Duration.seconds 59⟩, ⟨7, Duration.seconds 60⟩,
    ⟨7, Duration.seconds 60⟩] (by decide) 7 (Duration.seconds 59)
  revert hfour
  decide

theorem checkAndConsume_caps_four :
    Clocked [⟨7, 0⟩, ⟨7, Duration.seconds 59⟩, ⟨7, Duration.seconds 60⟩,
        ⟨7, Duration.seconds 60⟩] ∧
      (run 2 [⟨7, 0⟩, ⟨7, Duration.seconds 59⟩, ⟨7, Duration.seconds 60⟩,
          ⟨7, Duration.seconds 60⟩]).2.accepted 7
        (fun now => Duration.seconds 59 ≤ now ∧ now < Duration.seconds 59 + minute) ≤ 3 :=
  have hclock : Clocked [⟨7, 0⟩, ⟨7, Duration.seconds 59⟩, ⟨7, Duration.seconds 60⟩,
      ⟨7, Duration.seconds 60⟩] := by decide
  ⟨hclock, (checkAndConsume_caps 2 _ hclock 7).2.2 (Duration.seconds 59)⟩

/-! ## The cause of a rejection -/

/-- Users do not affect each other: the results for one are those of a run with no one else. -/
theorem run_independent (m : Nat) (calls : List Call) (userId : Int) :
    (run m calls).2.ofUser userId = (run m (calls.filter fun c => c.userId = userId)).2 := by
  induction calls using List.reverseRecOn with
  | nil => rfl
  | append_singleton calls c ih =>
    obtain ⟨hmax, hentry, _⟩ := run_user m calls userId
    obtain ⟨hmax', hentry', _⟩ := run_user m (calls.filter fun c => c.userId = userId) userId
    have htimes : timesOf userId (calls.filter fun c => c.userId = userId) =
        timesOf userId calls := by
      simp [timesOf]
    by_cases huser : c.userId = userId
    · have hfilter : (calls ++ [c]).filter (fun c => c.userId = userId) =
          (calls.filter fun c => c.userId = userId) ++ [c] := by
        simp [huser]
      rw [hfilter, run_snoc, run_snoc, step, step, checkAndConsume_eq, checkAndConsume_eq, hmax,
        hmax', huser, hentry, hentry', htimes, ← ih]
      simp [History.ofUser, huser]
    · have hfilter : (calls ++ [c]).filter (fun c => c.userId = userId) =
          calls.filter fun c => c.userId = userId := by
        simp [huser]
      rw [hfilter, run_snoc, step, ← ih]
      simp [History.ofUser, huser]

/-- Each call's result is what the limiter says in the state its predecessors left. -/
theorem run_history_split {m : Nat} {calls : List Call} {before after : History} {c : Call}
    {ok : Bool} (h : (run m calls).2 = before ++ (c, ok) :: after) :
    ∃ pre post, calls = pre ++ c :: post ∧ (run m pre).2 = before ∧
      ((run m pre).1.checkAndConsume c.now c.userId).1 = ok := by
  induction calls using List.reverseRecOn generalizing after with
  | nil => simp [run] at h
  | append_singleton calls c' ih =>
    rw [run_snoc, step] at h
    dsimp only at h
    rcases List.eq_nil_or_concat after with rfl | ⟨after', last, rfl⟩
    · obtain ⟨hbefore, hlast⟩ := List.append_inj' h rfl
      cases hlast
      exact ⟨calls, [], rfl, hbefore, rfl⟩
    · have h' : (run m calls).2 ++ [(c', ((run m calls).1.checkAndConsume c'.now c'.userId).1)] =
          (before ++ (c, ok) :: after') ++ [last] := by
        rw [h, List.concat_eq_append, List.append_assoc, List.cons_append]
      obtain ⟨hinit, _⟩ := List.append_inj' h' rfl
      obtain ⟨pre, post, rfl, hpre⟩ := ih hinit
      exact ⟨pre, post ++ [c'], by simp, hpre⟩

/-- **A rejection has its cause with the same user**: `m` calls of theirs were let through within
    the last minute. The counter stays below `2 ^ 32` in every state, so it never wraps; and what a
    user is told does not depend on the calls of the others, which may be left out of the history.
    -/
theorem checkAndConsume_just (m : Nat) (hm : m < 2 ^ 32) (calls : List Call)
    (hclock : Clocked calls) :
    (∀ (before after : History) (c : Call), (run m calls).2 = before ++ (c, false) :: after →
      m ≤ before.accepted c.userId fun now => c.now - now < minute) ∧
    (∀ pre, pre <+: calls → ∀ userId count start,
      (run m pre).1.windows.lookup userId = some (count, start) → count < 2 ^ 32) ∧
    ∀ userId,
      (run m calls).2.ofUser userId = (run m (calls.filter fun c => c.userId = userId)).2 := by
  refine ⟨?_, ?_, run_independent m calls⟩
  · intro before after c h
    obtain ⟨pre, post, rfl, rfl, hno⟩ := run_history_split h
    obtain ⟨hmax, hentry, hhistory⟩ := run_user m pre c.userId
    rw [checkAndConsume_eq, hmax, hentry] at hno
    have hpre : Clocked (pre ++ [c]) := hclock.sublist (by simp)
    have htimes : timesOf c.userId (pre ++ [c]) = timesOf c.userId pre ++ [c.now] := by
      simp [timesOf]
    have hfull := FixedWindow.run_rejects minute_pos (htimes ▸ hpre.timesOf c.userId) hno
    rw [accepted_eq, hhistory]
    refine le_trans hfull (FixedWindow.passed_mono fun r _ h => ?_)
    exact Int.sub_left_lt_of_lt_add h
  · intro pre hpre userId count start hentry
    rw [(run_user m pre userId).2.1] at hentry
    have hpre : Clocked pre := hclock.sublist hpre.sublist
    exact lt_of_le_of_lt (FixedWindow.run_count_le minute_pos (hpre.timesOf userId) hentry) hm

theorem checkAndConsume_just_three :
    1 < 2 ^ 32 ∧ Clocked [⟨1, 0⟩, ⟨1, 5⟩, ⟨2, 6⟩] ∧
      (run 1 [⟨1, 0⟩, ⟨1, 5⟩, ⟨2, 6⟩]).2 =
        [(⟨1, 0⟩, true)] ++ (⟨1, 5⟩, false) :: [(⟨2, 6⟩, true)] ∧
      1 ≤ History.accepted [(⟨1, 0⟩, true)] 1 (fun now => 5 - now < minute) :=
  have hclock : Clocked [⟨1, 0⟩, ⟨1, 5⟩, ⟨2, 6⟩] := by decide
  have hrun : (run 1 [⟨1, 0⟩, ⟨1, 5⟩, ⟨2, 6⟩]).2 =
      [(⟨1, 0⟩, true)] ++ (⟨1, 5⟩, false) :: [(⟨2, 6⟩, true)] := by decide
  ⟨by decide, hclock, hrun,
    (checkAndConsume_just 1 (by decide) _ hclock).1 [(⟨1, 0⟩, true)] [(⟨2, 6⟩, true)] ⟨1, 5⟩ hrun⟩

end RateLimiter
end PolyNotifier
