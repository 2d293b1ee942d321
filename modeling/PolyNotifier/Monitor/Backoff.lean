import PolyNotifier.Monitor.Manager

/-!
# The waits between sessions

A run of a connection manager is a session, a wait, a session, and so on. `Wait` records one of
them: whether the session before it published an update, and how long the wait was. What the
waits of a run should look like is `BackoffLaw`, and they always do.

What can go wrong is the product of the base delay and the power of two. The power saturates, the
product does not: it is a multiplication of a `Duration`, which panics where the seconds do not
fit 64 bits. A base delay of more than `2 ^ 32 + 1` seconds gets there, and a streak of sessions
without an update leads to it.
-/

namespace PolyNotifier

open Lib (Steps)

/-! ## Waits -/

structure Wait where
  /-- The session before it has published an update. -/
  productive : Bool
  delay : Nat
  deriving DecidableEq

/-- The delay after `k` waits since the reset. -/
def nthDelay (cfg : ReconnectConfig) (k : Nat) : Nat :=
  min (cfg.baseDelay * min (2 ^ k) (2 ^ 32 - 1)) cfg.maxDelay

/-- The waits since the reset, with the next session unproductive. -/
def streak (log : List Wait) : Nat :=
  log.foldl (fun k w => (if w.productive then 0 else k) + 1) 0

/-- What the waits of a run should be, said without the counter of the code: a wait depends on how
    many sessions in a row have brought nothing, and on nothing else. -/
structure BackoffLaw (cfg : ReconnectConfig) (log : List Wait) : Prop where
  bounded : ∀ w ∈ log, w.delay ≤ cfg.maxDelay
  first : ∀ w ∈ log.head?, w.delay = min cfg.baseDelay cfg.maxDelay
  reset : ∀ w ∈ log, w.productive = true → w.delay = min cfg.baseDelay cfg.maxDelay
  /-- Within a streak no wait is shorter than one before it. -/
  monotone : ∀ before between after w w', log = before ++ w :: (between ++ w' :: after) →
    (∀ v ∈ between, v.productive = false) → w'.productive = false → w.delay ≤ w'.delay
  /-- The `k`-th wait of a streak, counted from the first wait or from a productive session. -/
  nth : ∀ before between after w w', log = before ++ w :: (between ++ w' :: after) →
    before = [] ∨ w.productive = true → (∀ v ∈ between, v.productive = false) →
    w'.productive = false → w'.delay =
      min (cfg.baseDelay * min (2 ^ (between.length + 1)) (2 ^ 32 - 1)) cfg.maxDelay

/-- Each wait is the one its place in the streak says. -/
def Follows (cfg : ReconnectConfig) (log : List Wait) : Prop :=
  ∀ before after w, log = before ++ w :: after →
    w.delay = nthDelay cfg (if w.productive then 0 else streak before)

section

variable {cfg : ReconnectConfig} {log : List Wait} {w : Wait}

theorem nthDelay_zero (cfg : ReconnectConfig) :
    nthDelay cfg 0 = min cfg.baseDelay cfg.maxDelay := by
  have hone : min (2 ^ 0) (2 ^ 32 - 1) = 1 := by decide
  rw [nthDelay, hone, Nat.mul_one]

theorem nthDelay_mono (cfg : ReconnectConfig) {k l : Nat} (h : k ≤ l) :
    nthDelay cfg k ≤ nthDelay cfg l := by
  have hpow : 2 ^ k ≤ 2 ^ l := Nat.pow_le_pow_right (by decide) h
  have hsat : min (2 ^ k) (2 ^ 32 - 1) ≤ min (2 ^ l) (2 ^ 32 - 1) :=
    min_le_min hpow (Nat.le_refl _)
  exact min_le_min (Nat.mul_le_mul_left _ hsat) (Nat.le_refl _)

theorem streak_snoc (log : List Wait) (w : Wait) :
    streak (log ++ [w]) = (if w.productive then 0 else streak log) + 1 := by
  rw [streak, List.foldl_append]
  rfl

/-- A stretch without a productive session only counts on. -/
theorem streak_append (log : List Wait) {between : List Wait}
    (h : ∀ v ∈ between, v.productive = false) :
    streak (log ++ between) = streak log + between.length := by
  induction between using List.reverseRecOn with
  | nil => rw [List.append_nil]; rfl
  | append_singleton between v ih =>
    have hv : v.productive = false := h v (by simp)
    rw [← List.append_assoc, streak_snoc, hv, ih fun u hu => h u (by simp [hu]),
      List.length_append]
    rfl

theorem Follows.snoc (h : Follows cfg log)
    (hw : w.delay = nthDelay cfg (if w.productive then 0 else streak log)) :
    Follows cfg (log ++ [w]) := by
  intro before after v hsplit
  rcases List.eq_nil_or_concat after with rfl | ⟨after', last, rfl⟩
  · obtain ⟨rfl, hlast⟩ := List.append_inj' hsplit rfl
    cases hlast
    exact hw
  · have hinit : log ++ [w] = (before ++ v :: after') ++ [last] := by
      rw [hsplit, List.concat_eq_append, List.append_assoc, List.cons_append]
    obtain ⟨rfl, _⟩ := List.append_inj' hinit rfl
    exact h before after' v rfl

/-- **Waits that follow the count obey the law.** -/
theorem Follows.law (h : Follows cfg log) : BackoffLaw cfg log where
  bounded w hw := by
    obtain ⟨before, after, hsplit⟩ := List.append_of_mem hw
    rw [h before after w hsplit]
    exact Nat.min_le_right _ _
  first w hw := by
    cases log with
    | nil => cases hw
    | cons v rest =>
      cases hw
      rw [h [] rest w rfl, ← nthDelay_zero]
      congr 1
      split <;> rfl
  reset w hw hproductive := by
    obtain ⟨before, after, hsplit⟩ := List.append_of_mem hw
    rw [h before after w hsplit, if_pos hproductive, nthDelay_zero]
  -- between the two waits the streak has only grown
  monotone before between after w w' hsplit hbetween hw' := by
    have hsplit' : log = (before ++ w :: between) ++ w' :: after := by
      rw [hsplit, List.append_assoc, List.cons_append]
    have hstreak : streak (before ++ w :: between) =
        (if w.productive then 0 else streak before) + 1 + between.length := by
      rw [← List.singleton_append, ← List.append_assoc, streak_append _ hbetween, streak_snoc]
    rw [h before _ w hsplit, h _ after w' hsplit', hw', hstreak]
    apply nthDelay_mono
    rw [if_neg Bool.false_ne_true, Nat.add_assoc]
    exact Nat.le_add_right _ _
  nth before between after w w' hsplit hstart hbetween hw' := by
    have hsplit' : log = (before ++ w :: between) ++ w' :: after := by
      rw [hsplit, List.append_assoc, List.cons_append]
    have hzero : (if w.productive then 0 else streak before) = 0 := by
      rcases hstart with rfl | hproductive
      · split <;> rfl
      · exact if_pos hproductive
    have hstreak : streak (before ++ w :: between) = between.length + 1 := by
      rw [← List.singleton_append, ← List.append_assoc, streak_append _ hbetween, streak_snoc,
        hzero]
      omega
    rw [h _ after w' hsplit', hw', hstreak]
    rfl

end

/-! ## Runs of a manager -/

namespace Manager

/-- What happens to a manager: its own steps, and the cancellation from outside. -/
inductive Event where
  | own (l : ManagerLabel)
  | cancel

/-- The wait that a step begins. -/
def waitOf (m m' : Manager) : ManagerLabel → List Wait
  | .check =>
      match m'.pc with
      | .backoff delay => [⟨!m.session.isEmpty, delay⟩]
      | _ => []
  | _ => []

variable (x : Crates) (cfg : ReconnectConfig)

/-- One step of a manager whose waits are written down. -/
def LoggedStep (s : Manager × List Wait) (ev : Event) (s' : Manager × List Wait) : Prop :=
  match ev with
  | .own l => Step x cfg s.1 l s'.1 ∧ s'.2 = s.2 ++ waitOf s.1 s'.1 l
  | .cancel => s' = ({ s.1 with cancelled := true }, s.2)

/-- The manager has been through the events, and these were its waits. -/
def Ran (tokenIds : List String) (tokenToCondition : DashMap String String) (evs : List Event)
    (m : Manager) (log : List Wait) : Prop :=
  Steps (LoggedStep x cfg) (new tokenIds tokenToCondition, []) evs (m, log)

variable {x cfg} {m m' : Manager} {log log' : List Wait}

/-- What the counter says of the waits so far. The counter saturates and the streak does not, so
    the two are equal only up to the largest `u32`; from there on the delay is the same for both,
    because the factor has saturated as well. -/
structure Counts (x : Crates) (cfg : ReconnectConfig) (s : Manager × List Wait) : Prop where
  accounts : Accounts x s.1
  attempt : s.1.attempt = min (streak s.2) (2 ^ 32 - 1)
  follows : Follows cfg s.2

/-- Past the bound the power is saturated, whatever the exponent. -/
theorem min_two_pow_min (k bound : Nat) :
    min (2 ^ min k bound) bound = min (2 ^ k) bound := by
  rcases Nat.le_total k bound with h | h
  · rw [Nat.min_eq_left h]
  · have hbound : bound ≤ 2 ^ bound := Nat.lt_two_pow_self.le
    rw [Nat.min_eq_right h, Nat.min_eq_right hbound,
      Nat.min_eq_right (hbound.trans (Nat.pow_le_pow_right (by decide) h))]

theorem calculateBackoff_eq_some {attempt delay : Nat}
    (h : calculateBackoff cfg attempt = some delay) : delay = nthDelay cfg attempt := by
  unfold calculateBackoff at h
  dsimp only at h
  split at h <;> cases h
  rfl

theorem nthDelay_saturated (cfg : ReconnectConfig) (k : Nat) :
    nthDelay cfg (min k (2 ^ 32 - 1)) = nthDelay cfg k := by
  rw [nthDelay, nthDelay, min_two_pow_min]

/-- A step that begins no wait and leaves the counter. -/
theorem Counts.same {s : Manager × List Wait} (h : Counts x cfg s) (hacc : Accounts x m')
    (hattempt : m'.attempt = s.1.attempt) (hlog : log' = s.2 ++ []) :
    Counts x cfg (m', log') where
  accounts := hacc
  attempt := by
    rw [hattempt, h.attempt, hlog, List.append_nil]
  follows := by
    rw [hlog, List.append_nil]
    exact h.follows

theorem waitOf_gone {l : ManagerLabel} (h : m'.pc.gone = true) : waitOf m m' l = [] := by
  unfold waitOf
  split
  · split
    · rename_i hpc
      rw [hpc] at h
      cases h
    · rfl
  · rfl

/-- **The counter is the length of the streak**, until it saturates; then the delay has. -/
theorem counts_step {s s' : Manager × List Wait} {ev : Event} (h : Counts x cfg s)
    (hs : LoggedStep x cfg s ev s') : Counts x cfg s' := by
  cases ev with
  | cancel =>
    obtain rfl : s' = ({ s.1 with cancelled := true }, s.2) := hs
    exact ⟨h.accounts.same rfl rfl rfl rfl rfl (fun hlive => ⟨hlive, rfl⟩) h.accounts.drained,
      h.attempt, h.follows⟩
  | own l =>
    obtain ⟨m, log⟩ := s
    obtain ⟨m', log'⟩ := s'
    obtain ⟨hstep, hlog⟩ : Step x cfg m l m' ∧ log' = log ++ waitOf m m' l := hs
    have hacc := accounts_step h.accounts hstep
    cases step_cases hstep with
    | ends _ hgone =>
      rw [waitOf_gone hgone] at hlog
      exact h.same hacc rfl hlog
    | starts => exact h.same hacc rfl hlog
    | frame => exact h.same hacc rfl hlog
    | disconnects => exact h.same hacc rfl hlog
    | takes => exact h.same hacc rfl hlog
    | closes => exact h.same hacc rfl hlog
    | publishes => exact h.same hacc rfl hlog
    | drops => exact h.same hacc rfl hlog
    | joins => exact h.same hacc rfl hlog
    | wakes => exact h.same hacc rfl hlog
    -- the counter is zero after a productive session, and one more than the streak otherwise
    | @waits delay _ hbackoff =>
      have hattempt : m.attempt = min (streak log) (2 ^ 32 - 1) := h.attempt
      obtain rfl : log' = log ++ [⟨!m.session.isEmpty, delay⟩] := hlog
      have hproductive : m.receivedAny = !m.session.isEmpty := by
        rw [Bool.eq_iff_iff, h.accounts.productive]
        simp
      have hcount : (if m.receivedAny then 0 else m.attempt) =
          min (if (!m.session.isEmpty) = true then 0 else streak log) (2 ^ 32 - 1) := by
        rw [hproductive, hattempt]
        split
        · rfl
        · rfl
      refine ⟨hacc, ?_, h.follows.snoc ?_⟩
      · rw [streak_snoc]
        dsimp only
        rw [hcount]
        omega
      · dsimp only
        rw [calculateBackoff_eq_some hbackoff, hcount, nthDelay_saturated]

theorem counts_of_run {tokenIds : List String} {tokenToCondition : DashMap String String}
    {evs : List Event} (h : Ran x cfg tokenIds tokenToCondition evs m log) :
    Counts x cfg (m, log) := by
  refine h.inv ⟨accounts_new tokenIds tokenToCondition, rfl, ?_⟩ fun _ _ _ hc hs =>
    counts_step hc hs
  intro before after w hsplit
  cases before <;> cases hsplit

/-! ## Where the product does not fit -/

theorem calculateBackoff_isSome (h : cfg.baseDelay ≤ 2 ^ 32 + 1) (attempt : Nat) :
    (calculateBackoff cfg attempt).isSome := by
  have hsat : min (2 ^ attempt) (2 ^ 32 - 1) ≤ 2 ^ 32 - 1 := Nat.min_le_right _ _
  have hfits : cfg.baseDelay * min (2 ^ attempt) (2 ^ 32 - 1) < 2 ^ 64 :=
    calc cfg.baseDelay * min (2 ^ attempt) (2 ^ 32 - 1)
        ≤ (2 ^ 32 + 1) * (2 ^ 32 - 1) := Nat.mul_le_mul h hsat
      _ < 2 ^ 64 := by decide
  unfold calculateBackoff
  dsimp only
  rw [if_pos hfits]
  rfl

theorem calculateBackoff_none (h : 2 ^ 32 + 1 < cfg.baseDelay) :
    calculateBackoff cfg 32 = none := by
  have hsat : min (2 ^ 32) (2 ^ 32 - 1) = 2 ^ 32 - 1 := by decide
  unfold calculateBackoff
  dsimp only
  rw [hsat, if_neg (by omega)]

/-- A manager at the head of its loop that nobody has cancelled. -/
structure AtTop (m : Manager) : Prop where
  pc : m.pc = .top
  live : m.cancelled = false

/-- The WebSocket task ends before a frame comes in. -/
def emptySession : List Event :=
  [.own .start, .own .disconnect, .own .drained, .own (.joined false)]

variable (x cfg) in
/-- A session without a frame ends as it began, and unproductive. -/
theorem emptySession_steps (h : AtTop m) (log : List Wait) :
    ∃ m', Steps (LoggedStep x cfg) (m, log) emptySession (m', log) ∧ m'.pc = .ended ∧
      m'.cancelled = false ∧ m'.receivedAny = false ∧ m'.attempt = m.attempt := by
  refine ⟨{ m with
      pc := .ended, receivedAny := false, queue := [], connected := false, frames := [],
      session := [] }, ?_, rfl, h.live, rfl, rfl⟩
  have hlog : log = log ++ [] := (List.append_nil log).symm
  refine .cons (a := ({ m with
      pc := .reading, receivedAny := false, queue := [], connected := true, frames := [],
      session := [] }, log)) ⟨?_, hlog⟩ ?_
  · simp only [Step, step, h.pc, h.live]
    rfl
  refine .cons (a := ({ m with
      pc := .reading, receivedAny := false, queue := [], connected := false, frames := [],
      session := [] }, log)) ⟨rfl, hlog⟩ ?_
  refine .cons (a := ({ m with
      pc := .closing, receivedAny := false, queue := [], connected := false, frames := [],
      session := [] }, log)) ⟨?_, hlog⟩ ?_
  · simp only [Step, step, h.live]
    rfl
  exact .cons (a := ({ m with
      pc := .ended, receivedAny := false, queue := [], connected := false, frames := [],
      session := [] }, log)) ⟨rfl, hlog⟩ .nil

variable (x) in
/-- The wait after such a session, if its delay can be computed. -/
theorem wait_steps (hpc : m.pc = .ended) (hlive : m.cancelled = false)
    (hany : m.receivedAny = false) (hfew : m.attempt < 2 ^ 32 - 1) {delay : Nat}
    (hdelay : calculateBackoff cfg m.attempt = some delay) (log : List Wait) :
    ∃ m' log', Steps (LoggedStep x cfg) (m, log) [.own .check, .own .slept] (m', log') ∧
      AtTop m' ∧ m'.attempt = m.attempt + 1 := by
  have hlog : ∀ log : List Wait, log = log ++ [] := fun log => (List.append_nil log).symm
  refine ⟨{ m with pc := .top, attempt := m.attempt + 1 },
    log ++ [⟨!m.session.isEmpty, delay⟩], ?_, ⟨rfl, hlive⟩, rfl⟩
  refine .cons (a := ({ m with pc := .backoff delay, attempt := m.attempt + 1 },
    log ++ [⟨!m.session.isEmpty, delay⟩])) ⟨?_, rfl⟩ ?_
  · have hnext : min (m.attempt + 1) (2 ^ 32 - 1) = m.attempt + 1 := by omega
    simp only [Step, step, hpc, hlive, hany, Bool.false_eq_true, if_false, hdelay, hnext]
  exact .cons (a := ({ m with pc := .top, attempt := m.attempt + 1 },
    log ++ [⟨!m.session.isEmpty, delay⟩])) ⟨rfl, hlog _⟩ .nil

variable (x) in
/-- A streak goes on for as long as its delays can be computed. -/
theorem exists_streak (n : Nat) (hn : n ≤ 32)
    (h : ∀ k < n, (calculateBackoff cfg k).isSome) :
    ∃ evs m log, Ran x cfg ["yes"] ∅ evs m log ∧ AtTop m ∧ m.attempt = n := by
  induction n with
  | zero => exact ⟨[], _, _, .nil, ⟨rfl, rfl⟩, rfl⟩
  | succ n ih =>
    obtain ⟨evs, m, log, hrun, htop, hattempt⟩ := ih (by omega) fun k hk => h k (by omega)
    obtain ⟨m₁, hsession, hpc, hlive, hany, hsame⟩ := emptySession_steps x cfg htop log
    obtain ⟨delay, hdelay⟩ := Option.isSome_iff_exists.mp (h n (by omega))
    rw [hattempt] at hsame
    rw [← hsame] at hdelay
    obtain ⟨m₂, log', hwait, htop', hnext⟩ := wait_steps x hpc hlive hany (by omega) hdelay log
    exact ⟨_, m₂, log', (hrun.append hsession).append hwait, htop', by omega⟩

variable (x) in
/-- **The overflow is reached**: by a streak of at most 32 sessions that bring nothing. -/
theorem exists_panic (h : 2 ^ 32 + 1 < cfg.baseDelay) :
    ∃ evs m log m', Ran x cfg ["yes"] ∅ evs m log ∧ Step x cfg m .check m' ∧
      m'.pc = .panicked := by
  have hnone : ∃ n, calculateBackoff cfg n = none := ⟨32, calculateBackoff_none h⟩
  have hle : Nat.find hnone ≤ 32 := Nat.find_le (calculateBackoff_none h)
  obtain ⟨evs, m, log, hrun, htop, hattempt⟩ := exists_streak x (Nat.find hnone) hle
    fun k hk => Option.isSome_iff_ne_none.mpr (Nat.find_min hnone hk)
  obtain ⟨m₁, hsession, hpc, hlive, hany, hsame⟩ := emptySession_steps x cfg htop log
  refine ⟨_, m₁, log, { m₁ with pc := .panicked }, hrun.append hsession, ?_, rfl⟩
  have hoverflow : calculateBackoff cfg m₁.attempt = none := by
    rw [hsame, hattempt]
    exact Nat.find_spec hnone
  simp only [Step, step, hpc, hlive, hany, Bool.false_eq_true, if_false, hoverflow]

variable (x cfg) in
/-- The law of the waits in every run, and no delay that cannot be computed: in no run, and for
    no number of attempts. -/
structure BackoffHolds : Prop where
  law : ∀ tokenIds tokenToCondition evs m log, Ran x cfg tokenIds tokenToCondition evs m log →
    BackoffLaw cfg log
  computes : ∀ tokenIds tokenToCondition evs m log m',
    Ran x cfg tokenIds tokenToCondition evs m log → Step x cfg m .check m' → m'.pc ≠ .panicked
  total : ∀ attempt < 2 ^ 32, (calculateBackoff cfg attempt).isSome

variable (x cfg) in
/-- **The backoff is as it should be if and only if the largest product fits.** The factor
    saturates at `2 ^ 32 - 1`, and the base times that is below `2 ^ 64` up to this base and no
    further. The product is taken before the maximum cuts it off, and every run of sessions without
    an update that is long enough takes it. -/
theorem backoffHolds_iff : BackoffHolds x cfg ↔ cfg.baseDelay ≤ 2 ^ 32 + 1 := by
  constructor
  · intro h
    by_contra hlarge
    obtain ⟨evs, m, log, m', hrun, hstep, hpanicked⟩ :=
      exists_panic x (Nat.lt_of_not_le hlarge)
    exact h.computes _ _ _ _ _ _ hrun hstep hpanicked
  · intro h
    refine ⟨?_, ?_, ?_⟩
    · intro _ _ _ _ _ hrun
      exact (counts_of_run hrun).follows.law
    · intro _ _ _ m _ m' _ hstep hpanicked
      obtain ⟨delay, hdelay⟩ := Option.isSome_iff_exists.mp
        (calculateBackoff_isSome h (if m.receivedAny then 0 else m.attempt))
      unfold Step step at hstep
      dsimp only at hstep
      rw [hdelay] at hstep
      split at hstep
      · split at hstep <;> cases hstep <;> cases hpanicked
      · cases hstep
    · intro attempt _
      exact calculateBackoff_isSome h attempt

/-- The third session without an update would wait for four times `2 ^ 62` seconds, which is one
    more than an `u64` holds. -/
theorem large_base_panics : ¬ BackoffHolds Crates.reference ⟨2 ^ 62, 60⟩ := by
  intro h
  have hlarge : 2 ^ 32 + 1 < (⟨2 ^ 62, 60⟩ : ReconnectConfig).baseDelay := by decide
  obtain ⟨evs, m, log, m', hrun, hstep, hpanicked⟩ := exists_panic Crates.reference hlarge
  exact h.computes _ _ _ _ _ _ hrun hstep hpanicked

end Manager

end PolyNotifier
