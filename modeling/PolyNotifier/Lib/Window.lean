import Mathlib.Algebra.Order.Monoid.Defs
import Mathlib.Data.List.Induction
import Mathlib.Tactic.Common

/-!
# Fixed-window counters

A counter lets at most `cap` calls pass in a window of a given width. A window starts with the
first call, and again with the first call that comes a whole width or more after the last start.
The windows are disjoint, so the bound for one of them is immediate; any other interval of that
width meets at most two windows, and never the start of the earlier of two.

The invariant is `Tracks`: it ties the stored count and start to the history of the calls.
-/

namespace PolyNotifier
namespace Lib
namespace FixedWindow

universe u

variable {τ : Type u} [AddCommMonoid τ] [LinearOrder τ]

/-! ## The counter -/

/-- The count and the start of the window a call at `now` falls in. A window is not ended by a
    clock: the first call after its end finds that it is over. -/
def current (width : τ) (entry : Option (ℕ × τ)) (now : τ) : ℕ × τ :=
  match entry with
  | none => (0, now)
  | some (count, start) => if start + width ≤ now then (0, now) else (count, start)

/-- One call: it passes while the count is below the cap. A call that is rejected still starts a
    window, if the last one is over. -/
def call (width : τ) (cap : ℕ) (entry : Option (ℕ × τ)) (now : τ) : Bool × (ℕ × τ) :=
  let (count, start) := current width entry now
  if cap ≤ count then (false, (count, start)) else (true, (count + 1, start))

theorem call_eq (width : τ) (cap : ℕ) (entry : Option (ℕ × τ)) (now : τ) :
    call width cap entry now =
      let (count, start) := current width entry now
      (decide (count < cap), (count + (decide (count < cap)).toNat, start)) := by
  unfold call
  dsimp only
  split
  · rename_i h
    simp [Nat.not_lt.mpr h]
  · rename_i h
    simp [Nat.lt_of_not_le h]

/-- A counter after its calls: its entry, and each call with its result. -/
structure Run (τ : Type u) where
  entry : Option (ℕ × τ)
  history : List (τ × Bool)

def Run.step (width : τ) (cap : ℕ) (r : Run τ) (now : τ) : Run τ :=
  let (ok, entry) := call width cap r.entry now
  ⟨some entry, r.history ++ [(now, ok)]⟩

def run (width : τ) (cap : ℕ) (times : List τ) : Run τ :=
  times.foldl (Run.step width cap) ⟨none, []⟩

@[simp] theorem run_snoc (width : τ) (cap : ℕ) (times : List τ) (now : τ) :
    run width cap (times ++ [now]) = (run width cap times).step width cap now := by
  simp [run]

theorem history_times (width : τ) (cap : ℕ) (times : List τ) :
    (run width cap times).history.map Prod.fst = times := by
  induction times using List.reverseRecOn with
  | nil => rfl
  | append_singleton times now ih =>
    rw [run_snoc, Run.step, List.map_append, ih]
    rfl

/-! ## Windows -/

/-- The starts of the windows, the newest first. -/
def opens (width : τ) (starts : List τ) (now : τ) : List τ :=
  match starts with
  | [] => [now]
  | start :: older => if start + width ≤ now then now :: start :: older else start :: older

def windowStarts (width : τ) (times : List τ) : List τ :=
  times.foldl (opens width) []

theorem mem_opens {width : τ} {starts : List τ} {now s : τ} (h : s ∈ opens width starts now) :
    s = now ∨ s ∈ starts := by
  unfold opens at h
  split at h
  · exact .inl (List.mem_singleton.mp h)
  · split at h
    · exact List.mem_cons.mp h
    · exact .inr h

theorem subset_opens (width : τ) (starts : List τ) (now : τ) :
    starts ⊆ opens width starts now := by
  intro s hs
  unfold opens
  split
  · cases hs
  · split
    · exact List.mem_cons_of_mem _ hs
    · exact hs

@[simp] theorem windowStarts_snoc (width : τ) (times : List τ) (now : τ) :
    windowStarts width (times ++ [now]) = opens width (windowStarts width times) now := by
  simp [windowStarts]

/-! ## How many passed -/

/-- How many of the calls with such a clock passed. -/
def passed (history : List (τ × Bool)) (p : τ → Prop) [DecidablePred p] : ℕ :=
  history.countP fun r => r.2 && decide (p r.1)

section

variable {history : List (τ × Bool)} {p q : τ → Prop} [DecidablePred p] [DecidablePred q]

omit [AddCommMonoid τ] [LinearOrder τ] in
theorem passed_snoc (now : τ) (ok : Bool) :
    passed (history ++ [(now, ok)]) p =
      passed history p + if ok = true ∧ p now then 1 else 0 := by
  rw [passed, List.countP_append, List.countP_singleton, passed]
  simp

omit [AddCommMonoid τ] [LinearOrder τ] in
theorem passed_mono (h : ∀ r ∈ history, p r.1 → q r.1) : passed history p ≤ passed history q := by
  unfold passed
  apply List.countP_mono_left
  intro r hr hp
  rw [Bool.and_eq_true, decide_eq_true_eq] at hp ⊢
  exact ⟨hp.1, h r hr hp.2⟩

omit [AddCommMonoid τ] [LinearOrder τ] in
theorem passed_eq_zero (h : ∀ r ∈ history, ¬ p r.1) : passed history p = 0 := by
  unfold passed
  rw [List.countP_eq_zero]
  intro r hr
  simp [h r hr]

omit [AddCommMonoid τ] [LinearOrder τ] in
theorem passed_or_le [DecidablePred fun a => p a ∨ q a] :
    passed history (fun a => p a ∨ q a) ≤ passed history p + passed history q := by
  induction history using List.reverseRecOn with
  | nil => simp [passed]
  | append_singleton history r ih =>
    obtain ⟨now, ok⟩ := r
    rw [passed_snoc, passed_snoc, passed_snoc]
    split <;> split <;> split <;> first | omega | (exfalso; tauto)

end

/-! ## The invariant -/

/-- What the entry says of the history. The last two clauses are the bound on any interval of a
    width; they are kept together with the rest because a new window needs both, the calls that
    passed before its start and those that passed in the one before it. -/
structure Tracks (width : τ) (cap : ℕ) (history : List (τ × Bool)) (count : ℕ) (start : τ) :
    Prop where
  count_le : count ≤ cap
  /-- The window started with a call. -/
  started : ∃ r ∈ history, r.1 = start
  /-- The count is that of the calls that passed in the current window, -/
  current : passed history (start ≤ ·) = count
  /-- which has not expired: no call came after its end, -/
  recent : ∀ r ∈ history, r.1 < start + width
  /-- and the call that started it passed. -/
  opened : 0 < cap → passed history (start < ·) + 1 ≤ count
  /-- An interval that reaches into the current window misses the start of the one before. -/
  previous : ∀ t, start < t + width → passed history (fun a => t ≤ a ∧ a < start) ≤ cap - 1
  sliding : ∀ t, passed history (fun a => t ≤ a ∧ a < t + width) ≤ 2 * cap - 1

variable {width : τ} {cap : ℕ} {history : List (τ × Bool)}

namespace Tracks

variable {count : ℕ} {start now : τ}

/-- An interval that reaches into the current window and goes on to now. -/
theorem recent_le (ht : Tracks width cap history count start) {t : τ} (hstart : start < t + width) :
    passed history (t ≤ ·) ≤ cap - 1 + count := by
  calc passed history (t ≤ ·)
      ≤ passed history (fun a => (t ≤ a ∧ a < start) ∨ start ≤ a) := by
        apply passed_mono
        intro r _ hr
        rcases lt_or_ge r.1 start with h | h
        · exact .inl ⟨hr, h⟩
        · exact .inr h
    _ ≤ passed history (fun a => t ≤ a ∧ a < start) + passed history (start ≤ ·) := passed_or_le
    _ ≤ cap - 1 + count := Nat.add_le_add (ht.previous t hstart) ht.current.le

/-- An interval that starts inside the current window. -/
theorem newer_le (ht : Tracks width cap history count start) {t : τ} (hstart : start < t) :
    passed history (t ≤ ·) ≤ cap - 1 := by
  have hsub : passed history (t ≤ ·) ≤ passed history (start < ·) :=
    passed_mono fun _ _ h => lt_of_lt_of_le hstart h
  have hle : passed history (start < ·) ≤ passed history (start ≤ ·) :=
    passed_mono fun _ _ h => h.le
  have hopened := ht.opened
  have hcount := ht.count_le
  have hcurrent := ht.current
  omega

/-- A call in the current window. -/
theorem within (ht : Tracks width cap history count start) (hle : start ≤ now)
    (hnow : now < start + width) (ok : Bool) (hok : ok = true → count < cap) :
    Tracks width cap (history ++ [(now, ok)]) (count + ok.toNat) start := by
  have hrecent : ∀ r ∈ history ++ [(now, ok)], r.1 < start + width := by
    intro r hr
    rcases List.mem_append.mp hr with hr | hr
    · exact ht.recent r hr
    · obtain rfl := List.mem_singleton.mp hr
      exact hnow
  obtain ⟨r, hr, hstart⟩ := ht.started
  have hstarted : ∃ r ∈ history ++ [(now, ok)], r.1 = start :=
    ⟨r, List.mem_append_left _ hr, hstart⟩
  cases ok with
  -- a rejected call passes nothing, so every count is as it was
  | false =>
    constructor
    · exact ht.count_le
    · exact hstarted
    · simpa [passed_snoc] using ht.current
    · exact hrecent
    · simpa [passed_snoc] using ht.opened
    · simpa [passed_snoc] using ht.previous
    · simpa [passed_snoc] using ht.sliding
  | true =>
    constructor
    · exact hok rfl
    · exact hstarted
    · rw [passed_snoc, ht.current, if_pos ⟨rfl, hle⟩]
      rfl
    · exact hrecent
    · intro hcap
      have hopened := ht.opened hcap
      rw [passed_snoc, Bool.toNat_true]
      split <;> omega
    · intro t hreach
      rw [passed_snoc, if_neg fun h => absurd hle (not_le_of_gt h.2.2), Nat.add_zero]
      exact ht.previous t hreach
    -- an interval that holds this call reaches back no further than the window before
    · intro t
      rw [passed_snoc]
      split
      · rename_i h
        have hreach := ht.recent_le (lt_of_le_of_lt hle h.2.2)
        have hsub : passed history (fun a => t ≤ a ∧ a < t + width) ≤ passed history (t ≤ ·) :=
          passed_mono fun _ _ h => h.1
        have hcount := hok rfl
        omega
      · exact ht.sliding t

end Tracks

/-- A call that starts a window: what an interval that holds it sees of the calls before leaves
    room for one more. -/
theorem Tracks.start {now : τ} (hwidth : now < now + width)
    (hbefore : ∀ r ∈ history, r.1 < now)
    (hexpired : ∀ t, now < t + width → passed history (t ≤ ·) ≤ cap - 1)
    (hsliding : ∀ t, passed history (fun a => t ≤ a ∧ a < t + width) ≤ 2 * cap - 1) :
    Tracks width cap (history ++ [(now, decide (0 < cap))]) (decide (0 < cap)).toNat now := by
  have hnone : passed history (now ≤ ·) = 0 :=
    passed_eq_zero fun r hr => not_le_of_gt (hbefore r hr)
  have hnone' : passed history (now < ·) = 0 :=
    passed_eq_zero fun r hr => not_lt_of_gt (hbefore r hr)
  constructor
  · cases cap <;> simp
  · exact ⟨_, List.mem_append_right _ (List.mem_singleton_self _), rfl⟩
  · rw [passed_snoc, hnone]
    cases cap <;> simp
  · intro r hr
    rcases List.mem_append.mp hr with hr | hr
    · exact lt_trans (hbefore r hr) hwidth
    · obtain rfl := List.mem_singleton.mp hr
      exact hwidth
  · intro hcap
    rw [passed_snoc, hnone', if_neg fun h => lt_irrefl _ h.2, decide_eq_true hcap]
    rfl
  · intro t hreach
    rw [passed_snoc, if_neg fun h => lt_irrefl _ h.2.2, Nat.add_zero]
    exact le_trans (passed_mono fun _ _ h => h.1) (hexpired t hreach)
  -- an interval that reaches back over the start sees at most what is left of the window before
  · intro t
    rw [passed_snoc]
    split
    · rename_i h
      have hsub : passed history (fun a => t ≤ a ∧ a < t + width) ≤ passed history (t ≤ ·) :=
        passed_mono fun _ _ h => h.1
      have hroom := hexpired t h.2.2
      have hcap := of_decide_eq_true h.1
      omega
    · exact hsliding t

/-! ## Runs -/

section

variable [IsOrderedCancelAddMonoid τ] {times : List τ}

variable (cap) in
/-- **What every run keeps**: the entry and the newest start are what the history says. -/
theorem run_tracks (hwidth : 0 < width) (hclock : times.Pairwise (· ≤ ·)) (hne : times ≠ []) :
    ∃ count start older, (run width cap times).entry = some (count, start) ∧
      windowStarts width times = start :: older ∧
      Tracks width cap (run width cap times).history count start := by
  induction times using List.reverseRecOn with
  | nil => exact absurd rfl hne
  | append_singleton times now ih =>
    obtain ⟨hbefore, _, hafter⟩ := List.pairwise_append.mp hclock
    have hpos : ∀ t : τ, t < t + width := fun t => lt_add_of_pos_right t hwidth
    rw [run_snoc, windowStarts_snoc, Run.step, call_eq]
    -- the first call opens the first window
    rcases List.eq_nil_or_concat times with rfl | hsnoc
    · refine ⟨_, now, [], rfl, rfl, ?_⟩
      dsimp only [run, current, List.foldl_nil]
      rw [Nat.zero_add]
      apply Tracks.start (hpos now)
      · intro r hr
        cases hr
      · intro t _
        exact Nat.zero_le _
      · intro t
        exact Nat.zero_le _
    · have hne' : times ≠ [] := by
        obtain ⟨_, _, rfl⟩ := hsnoc
        simp
      obtain ⟨count, start, older, hentry, hstarts, ht⟩ := ih hbefore hne'
      have hlast : ∀ r ∈ (run width cap times).history, r.1 ≤ now := by
        intro r hr
        refine hafter r.1 ?_ now (List.mem_singleton_self _)
        rw [← history_times width cap times]
        exact List.mem_map_of_mem hr
      rw [hentry, hstarts]
      unfold current opens
      dsimp only
      -- the window is over and the call opens the next, or the call is one more in it
      by_cases hexp : start + width ≤ now
      · rw [if_pos hexp, if_pos hexp]
        refine ⟨_, _, _, rfl, rfl, ?_⟩
        rw [Nat.zero_add]
        apply Tracks.start (hpos now)
        · intro r hr
          exact lt_of_lt_of_le (ht.recent r hr) hexp
        · intro t hreach
          exact ht.newer_le (lt_of_add_lt_add_right (lt_of_le_of_lt hexp hreach))
        · exact ht.sliding
      · rw [if_neg hexp, if_neg hexp]
        refine ⟨_, _, _, rfl, rfl, ?_⟩
        obtain ⟨r, hr, hstart⟩ := ht.started
        apply ht.within (hstart ▸ hlast r hr) (lt_of_not_ge hexp)
        exact of_decide_eq_true

/-- **No interval of a width lets more than `2 * cap - 1` calls pass.** -/
theorem run_sliding (hwidth : 0 < width) (hclock : times.Pairwise (· ≤ ·)) (t : τ) :
    passed (run width cap times).history (fun a => t ≤ a ∧ a < t + width) ≤ 2 * cap - 1 := by
  rcases eq_or_ne times [] with rfl | hne
  · exact Nat.zero_le _
  · obtain ⟨_, _, _, _, _, ht⟩ := run_tracks cap hwidth hclock hne
    exact ht.sliding t

theorem run_count_le (hwidth : 0 < width) (hclock : times.Pairwise (· ≤ ·)) {count : ℕ}
    {start : τ} (hentry : (run width cap times).entry = some (count, start)) : count ≤ cap := by
  rcases eq_or_ne times [] with rfl | hne
  · cases hentry
  · obtain ⟨count', start', _, hentry', _, ht⟩ := run_tracks cap hwidth hclock hne
    rw [hentry] at hentry'
    cases hentry'
    exact ht.count_le

/-- **A call is rejected only for as many that passed less than a width before it.** -/
theorem run_rejects (hwidth : 0 < width) {now : τ} (hclock : (times ++ [now]).Pairwise (· ≤ ·))
    (hno : (call width cap (run width cap times).entry now).1 = false) :
    cap ≤ passed (run width cap times).history (now < · + width) := by
  rw [call_eq] at hno
  have hfull := of_decide_eq_false hno
  rcases eq_or_ne times [] with rfl | hne
  · simp only [run, List.foldl_nil, current] at hfull
    omega
  · obtain ⟨count, start, _, hentry, _, ht⟩ :=
      run_tracks cap hwidth (List.pairwise_append.mp hclock).1 hne
    rw [hentry] at hfull
    unfold current at hfull
    dsimp only at hfull
    by_cases hexp : start + width ≤ now
    · rw [if_pos hexp] at hfull
      omega
    · rw [if_neg hexp] at hfull
      calc cap ≤ count := Nat.le_of_not_lt hfull
        _ = passed (run width cap times).history (start ≤ ·) := ht.current.symm
        _ ≤ passed (run width cap times).history (now < · + width) :=
          passed_mono fun r _ h =>
            lt_of_lt_of_le (lt_of_not_ge hexp) (add_le_add_left h width)

/-- The windows of a run are disjoint. -/
theorem windowStarts_apart (hwidth : 0 < width) (times : List τ) :
    (windowStarts width times).Pairwise fun start older => older + width ≤ start := by
  induction times using List.reverseRecOn with
  | nil => exact .nil
  | append_singleton times now ih =>
    rw [windowStarts_snoc]
    cases hstarts : windowStarts width times with
    | nil => exact List.pairwise_singleton _ _
    | cons start older =>
      rw [hstarts] at ih
      unfold opens
      dsimp only
      split
      · rename_i hexp
        refine List.pairwise_cons.mpr ⟨?_, ih⟩
        intro s hs
        rcases List.mem_cons.mp hs with rfl | hs
        · exact hexp
        · calc s + width ≤ start := List.rel_of_pairwise_cons ih hs
            _ ≤ start + width := (lt_add_of_pos_right start hwidth).le
            _ ≤ now := hexp
      · exact ih

omit [IsOrderedCancelAddMonoid τ] in
/-- The last call of a run falls in the window that is open. -/
theorem Tracks.holds_last {now : τ} {count : ℕ} {start : τ}
    (ht : Tracks width cap (run width cap (times ++ [now])).history count start)
    (hclock : (times ++ [now]).Pairwise (· ≤ ·)) : start ≤ now ∧ now < start + width := by
  have htimes := history_times width cap (times ++ [now])
  constructor
  · obtain ⟨r, hr, rfl⟩ := ht.started
    have hmem := List.mem_map_of_mem (f := Prod.fst) hr
    rw [htimes] at hmem
    rcases List.mem_append.mp hmem with hmem | hmem
    · exact (List.pairwise_append.mp hclock).2.2 _ hmem now (List.mem_singleton_self _)
    · exact (List.mem_singleton.mp hmem).le
  · have hmem : now ∈ (run width cap (times ++ [now])).history.map Prod.fst := by
      rw [htimes]
      exact List.mem_append_right _ (List.mem_singleton_self _)
    obtain ⟨r, hr, rfl⟩ := List.mem_map.mp hmem
    exact ht.recent r hr

variable (cap) in
/-- **Every call falls in a window, and no window lets more than `cap` of them pass.** -/
theorem run_windows (hwidth : 0 < width) (hclock : times.Pairwise (· ≤ ·)) :
    (∀ a ∈ times, ∃ s ∈ windowStarts width times, s ≤ a ∧ a < s + width) ∧
      ∀ s ∈ windowStarts width times,
        passed (run width cap times).history (fun a => s ≤ a ∧ a < s + width) ≤ cap := by
  induction times using List.reverseRecOn with
  | nil =>
    constructor
    · intro a ha
      cases ha
    · intro s hs
      cases hs
  | append_singleton times now ih =>
    obtain ⟨hcover, hcap⟩ := ih (List.pairwise_append.mp hclock).1
    obtain ⟨count, start, older, _, hstarts, ht⟩ :=
      run_tracks cap hwidth hclock (List.append_ne_nil_of_right_ne_nil _ (by simp))
    obtain ⟨hstart, hnow⟩ := ht.holds_last hclock
    have hapart := windowStarts_apart hwidth (times ++ [now])
    have hopens := windowStarts_snoc width times now
    rw [hstarts] at hapart hopens ⊢
    constructor
    · intro a ha
      rcases List.mem_append.mp ha with ha | ha
      · obtain ⟨s, hs, hsa⟩ := hcover a ha
        exact ⟨s, hopens ▸ subset_opens width _ now hs, hsa⟩
      · obtain rfl := List.mem_singleton.mp ha
        exact ⟨start, List.mem_cons_self, hstart, hnow⟩
    · intro s hs
      rcases List.mem_cons.mp hs with rfl | hs
      -- the newest window: the counter has counted what passed in it
      · calc passed (run width cap (times ++ [now])).history (fun a => s ≤ a ∧ a < s + width)
            ≤ passed (run width cap (times ++ [now])).history (s ≤ ·) :=
              passed_mono fun _ _ h => h.1
          _ = count := ht.current
          _ ≤ cap := ht.count_le
      · -- an older window: the call comes after its end
        have hend : s + width ≤ now := le_trans (List.rel_of_pairwise_cons hapart hs) hstart
        have hold : s ∈ windowStarts width times := by
          have hs' := List.mem_cons_of_mem start hs
          rw [hopens] at hs'
          rcases mem_opens hs' with rfl | hs'
          · exact absurd hend (not_le_of_gt (lt_add_of_pos_right s hwidth))
          · exact hs'
        rw [run_snoc, Run.step, passed_snoc, if_neg fun h => absurd h.2.2 (not_lt_of_ge hend),
          Nat.add_zero]
        exact hcap s hold

omit [IsOrderedCancelAddMonoid τ] in
/-- Calls at one time, in a window that has room for them all. -/
theorem run_burst {count : ℕ} {start now : τ}
    (hentry : (run width cap times).entry = some (count, start)) (hnow : now < start + width)
    (k : ℕ) (hroom : count + k ≤ cap) :
    run width cap (times ++ List.replicate k now) =
      ⟨some (count + k, start), (run width cap times).history ++ List.replicate k (now, true)⟩ := by
  induction k with
  | zero =>
    rw [List.replicate_zero, List.replicate_zero, List.append_nil, List.append_nil, Nat.add_zero,
      ← hentry]
  | succ k ih =>
    rw [List.replicate_succ', ← List.append_assoc, run_snoc, ih (by omega), Run.step, call_eq]
    have hlt : count + k < cap := by omega
    simp [current, not_le_of_gt hnow, hlt, List.replicate_succ', Nat.add_assoc]

/-- **The bound is attained**: by one call that starts a window, the rest of its calls at `a`, and
    a full window as soon as it is over. -/
theorem sliding_attained (hcap : 0 < cap) {start a : τ} (hstart : start < a)
    (ha : a < start + width) :
    passed (run width cap
        ([start] ++ List.replicate (cap - 1) a ++ List.replicate cap (start + width))).history
      (fun b => a ≤ b ∧ b < a + width) = 2 * cap - 1 := by
  obtain ⟨k, rfl⟩ : ∃ k, cap = k + 1 := ⟨cap - 1, by omega⟩
  have hwidth : ∀ t : τ, t < t + width := by
    intro t
    have hpos : start + 0 < start + width := by
      rw [add_zero]
      exact lt_trans hstart ha
    exact lt_add_of_pos_right t (lt_of_add_lt_add_left hpos)
  have hfirst : run width (k + 1) [start] = ⟨some (1, start), [(start, true)]⟩ := by
    simp [run, Run.step, call_eq, current]
  -- first window: one call at its start, the others at `a`
  have hold := run_burst (congrArg Run.entry hfirst) ha k (by omega)
  have hreset : run width (k + 1) ([start] ++ List.replicate k a ++ [start + width]) =
      ⟨some (1, start + width), (start, true) :: List.replicate k (a, true) ++
        [(start + width, true)]⟩ := by
    rw [run_snoc, hold, hfirst, Run.step, call_eq]
    simp [current]
  -- second window: all its calls at its start
  have hnew := run_burst (congrArg Run.entry hreset) (hwidth (start + width)) k (by omega)
  have hcalls : [start] ++ List.replicate (k + 1 - 1) a ++
      List.replicate (k + 1) (start + width) =
      [start] ++ List.replicate k a ++ [start + width] ++ List.replicate k (start + width) := by
    simp [List.replicate_succ]
  have hend : start + width < a + width := add_lt_add_left hstart width
  rw [hcalls, hnew, hreset]
  simp [passed, List.countP_append, List.countP_replicate, not_le_of_gt hstart,
    hwidth a, ha.le, hend]
  omega

end

end FixedWindow
end Lib
end PolyNotifier
