import Mathlib.Algebra.Ring.Int.Defs
import Mathlib.Data.Finset.Card
import Mathlib.Data.List.Forall2
import PolyNotifier.Common.Models
import PolyNotifier.Lib.Run

/-!
# When the daily summary runs

The loop of `DailySummaryJob::run` looks at the schedule, sleeps, sends the summaries, and looks
again. A look reads the clock three times: for `upcoming`, for the delay, and where the sleep
begins.

`Schedule` is a parsed cron expression with what the code relies on. `JobLaw` is what the
executions of a run should be: each has an instant of the schedule to itself. They are, as long
as each look finds an instant (`Meets`): it may have passed before the delay is computed, and the
minute that is slept instead is still past it. Where the schedule has come to its end the same
minute is slept, and the summaries are sent every minute from then on.
-/

namespace PolyNotifier

open Lib (Steps)

/-- `cron::Schedule`. It is a parameter with the law the crate documents for `upcoming`, and
    nothing else is known of an expression: its instants may come to an end, and may lie as close
    as they like. -/
structure Schedule where
  Instant : NaiveDateTime → Prop
  /-- `upcoming(Utc).next()` at a reading of the clock. -/
  upcoming : NaiveDateTime → Option NaiveDateTime
  /-- It is the first instant after that, -/
  upcoming_some : ∀ {now next}, upcoming now = some next →
    Instant next ∧ now < next ∧ ∀ t, Instant t → now < t → next ≤ t
  /-- if there is one. -/
  upcoming_none : ∀ {now}, upcoming now = none → ∀ t, Instant t → t ≤ now

/-! ## The loop -/

/-- `TimeDelta::to_std`: there is no negative `std::time::Duration`. -/
def toStd (d : Duration) : Option Duration := if 0 ≤ d then some d else none

/-- How long to sleep: until the instant, or for a minute where there is none to come, or where it
    is already past when the delay is computed. -/
def sleepDelay (next : Option NaiveDateTime) (now : NaiveDateTime) : Duration :=
  (next.bind fun next => toStd (next - now)).getD (Duration.seconds 60)

inductive JobPc where
  | looking
  | sleeping (deadline : NaiveDateTime)
  | sending
  | returned

/-- `DailySummaryJob` at work. The executions are history: the source keeps no list, and the law is
    about it. -/
structure Job where
  /-- When `run` was called. -/
  start : NaiveDateTime
  /-- The last reading of the clock. -/
  clock : NaiveDateTime
  pc : JobPc
  /-- When the executions of `send_summaries` started. -/
  executions : List NaiveDateTime

inductive JobEvent where
  /-- The readings for `upcoming`, for the delay and by `sleep`. -/
  | look (upcoming now sleep : NaiveDateTime)
  | wake (now : NaiveDateTime)
  | sent (now : NaiveDateTime)
  | cancelled (now : NaiveDateTime)

namespace Job

def new (start : NaiveDateTime) : Job := ⟨start, start, .looking, []⟩

variable (s : Schedule)

/-- A round of the loop: look for the next instant, sleep, send. Looking takes the clock three
    times (to find the instant, to subtract, and when the sleep begins), and they need not agree.
    -/
def step (j : Job) : JobEvent → Option Job
  | .look upcoming now sleep =>
      match j.pc with
      | .looking => some { j with
          clock := sleep, pc := .sleeping (sleep + sleepDelay (s.upcoming upcoming) now) }
      | _ => none
  | .wake now =>
      match j.pc with
      | .sleeping _ => some { j with
          clock := now, pc := .sending, executions := j.executions ++ [now] }
      | _ => none
  | .sent now =>
      match j.pc with
      | .sending => some { j with clock := now, pc := .looking }
      | _ => none
  | .cancelled now =>
      match j.pc with
      | .sleeping _ => some { j with clock := now, pc := .returned }
      | _ => none

/-- The clock does not go backward, and a sleep does not end before its deadline. It may end any
    time after, and sending may take any time: then instants are passed over, which the law allows.
    -/
def Timely (j : Job) : JobEvent → Prop
  | .look upcoming now sleep => j.clock ≤ upcoming ∧ upcoming ≤ now ∧ now ≤ sleep
  | .wake now => j.clock ≤ now ∧ ∀ deadline, j.pc = .sleeping deadline → deadline ≤ now
  | .sent now => j.clock ≤ now
  | .cancelled now => j.clock ≤ now

def Step (j : Job) (ev : JobEvent) (j' : Job) : Prop := j.Timely ev ∧ j.step s ev = some j'

/-! ## The law and the condition -/

/-- The instant is past at the execution, and after the start of the job. -/
def Serves (j : Job) (t execution : NaiveDateTime) : Prop :=
  s.Instant t ∧ j.start < t ∧ t ≤ execution

/-- **The law.** Executions need not be on time and need not be for every instant; what is ruled
    out is one too many, or one for no instant at all. -/
structure JobLaw (j : Job) : Prop where
  /-- Each execution has an instant that no other one has. -/
  served : ∃ served : List NaiveDateTime, served.Nodup ∧
    List.Forall₂ (Serves s j) served j.executions
  /-- There are no more executions than instants that have passed. -/
  count : ∀ passed : List NaiveDateTime,
    (∀ t, s.Instant t → j.start < t → t ≤ j.clock → t ∈ passed) →
      j.executions.length ≤ passed.length

/-- **The condition**: a look finds an instant to come. -/
def Meets : JobEvent → Prop
  | .look upcoming _ _ => (s.upcoming upcoming).isSome
  | _ => True

/-- Every run keeps the law. -/
def KeepsLaw : Prop :=
  ∀ start evs j, Steps (Step s) (new start) evs j → JobLaw s j

/-- A run in which every look finds one. -/
def OnSchedule (start : NaiveDateTime) (evs : List JobEvent) (j : Job) : Prop :=
  Steps (fun j ev j' => Step s j ev j' ∧ Meets s ev) (new start) evs j

/-! ## Runs -/

/-- What a run keeps: the instants served so far are in order, and the one that is slept for is
    after them. The order is not asked for by the law; it is what makes the instant of the next
    execution a new one. -/
structure Inv (j : Job) (served : List NaiveDateTime) : Prop where
  start_le : j.start ≤ j.clock
  serves : List.Forall₂ (Serves s j) served j.executions
  ordered : served.Pairwise (· < ·)
  past : ∀ t ∈ served, t ≤ j.clock
  awaited : ∀ deadline, j.pc = .sleeping deadline → ∃ next, s.Instant next ∧ j.start < next ∧
    (∀ t ∈ served, t < next) ∧ next ≤ deadline

variable {s} {j j' : Job} {served : List NaiveDateTime}

/-- The sleep goes past the instant, whether the delay to it could be computed or not. -/
theorem next_le_deadline {now sleep next : Int} (h : now ≤ sleep) :
    next ≤ sleep + sleepDelay (some next) now := by
  unfold sleepDelay toStd
  rw [Option.bind_some]
  have hminute : Duration.seconds 60 = (60000000000 : Int) := rfl
  by_cases hdelay : 0 ≤ next - now
  · rw [if_pos hdelay, Option.getD_some]
    omega
  · rw [if_neg hdelay, Option.getD_none, hminute]
    omega

theorem inv_new (start : NaiveDateTime) : Inv s (new start) [] where
  start_le := Int.le_refl start
  serves := .nil
  ordered := .nil
  past t ht := by cases ht
  awaited deadline h := by cases h

theorem Inv.wait (h : Inv s j served) (hstart : j'.start = j.start)
    (hexec : j'.executions = j.executions) (hclock : j.clock ≤ j'.clock)
    (hawaited : ∀ deadline, j'.pc = .sleeping deadline → ∃ next, s.Instant next ∧
      j.start < next ∧ (∀ t ∈ served, t < next) ∧ next ≤ deadline) : Inv s j' served where
  start_le := by
    rw [hstart]
    exact le_trans h.start_le hclock
  serves := by
    rw [hexec]
    refine h.serves.imp fun t e ht => ?_
    unfold Serves
    rw [hstart]
    exact ht
  ordered := h.ordered
  past t ht := le_trans (h.past t ht) hclock
  awaited := by
    rw [hstart]
    exact hawaited

/-- An execution serves an instant after all those served before. -/
theorem Inv.serve {now next : NaiveDateTime} (h : Inv s j served) (hstart : j'.start = j.start)
    (hexec : j'.executions = j.executions ++ [now]) (hclock : j.clock ≤ now)
    (hnow : j'.clock = now) (hpc : j'.pc = .sending) (hinstant : s.Instant next)
    (hlater : j.start < next) (hafter : ∀ t ∈ served, t < next) (hpast : next ≤ now) :
    Inv s j' (served ++ [next]) where
  start_le := by
    rw [hstart, hnow]
    exact le_trans h.start_le hclock
  serves := by
    -- an instant that was served by an earlier execution stays served by it
    have hserves : ∀ t e, Serves s j t e → Serves s j' t e := by
      unfold Serves
      rw [hstart]
      exact fun _ _ ht => ht
    rw [hexec]
    exact List.rel_append (h.serves.imp hserves)
      (.cons (hserves _ _ ⟨hinstant, hlater, hpast⟩) .nil)
  ordered := by
    refine List.pairwise_append.mpr ⟨h.ordered, List.pairwise_singleton _ _, ?_⟩
    intro t ht u hu
    obtain rfl := List.mem_singleton.mp hu
    exact hafter t ht
  past t ht := by
    rw [hnow]
    rcases List.mem_append.mp ht with ht | ht
    · exact le_trans (h.past t ht) hclock
    · obtain rfl := List.mem_singleton.mp ht
      exact hpast
  awaited deadline hd := by
    rw [hpc] at hd
    cases hd

/-- **A step serves at most the instant it was waiting for.** -/
theorem inv_step {ev : JobEvent} (h : Inv s j served) (hs : Step s j ev j') (hm : Meets s ev) :
    ∃ served', Inv s j' served' := by
  obtain ⟨htimely, hstep⟩ := hs
  unfold step at hstep
  cases ev with
  | look upcoming now sleep =>
    obtain ⟨h1, h2, h3⟩ := htimely
    dsimp only at hstep
    split at hstep
    · cases hstep
      refine ⟨served, h.wait rfl rfl (le_trans h1 (le_trans h2 h3)) ?_⟩
      intro deadline hdeadline
      cases hdeadline
      obtain ⟨next, hnext⟩ := Option.isSome_iff_exists.mp hm
      obtain ⟨hinstant, hlater, _⟩ := s.upcoming_some hnext
      -- the look comes after all that was served
      refine ⟨next, hinstant, lt_of_le_of_lt (le_trans h.start_le h1) hlater, ?_, ?_⟩
      · intro t ht
        exact lt_of_le_of_lt (le_trans (h.past t ht) h1) hlater
      · rw [hnext]
        exact next_le_deadline h3
    · cases hstep
  | wake now =>
    obtain ⟨hclock, hdeadline⟩ := htimely
    dsimp only at hstep
    split at hstep
    · rename_i deadline hpc
      cases hstep
      obtain ⟨next, hinstant, hstart, hafter, hle⟩ := h.awaited deadline hpc
      exact ⟨served ++ [next], h.serve rfl rfl hclock rfl rfl hinstant hstart hafter
        (le_trans hle (hdeadline deadline hpc))⟩
    · cases hstep
  | sent now =>
    dsimp only at hstep
    split at hstep
    · cases hstep
      refine ⟨served, h.wait rfl rfl htimely ?_⟩
      intro deadline hd
      cases hd
    · cases hstep
  | cancelled now =>
    dsimp only at hstep
    split at hstep
    · cases hstep
      refine ⟨served, h.wait rfl rfl htimely ?_⟩
      intro deadline hd
      cases hd
    · cases hstep

theorem Inv.law (h : Inv s j served) : JobLaw s j where
  served := ⟨served, h.ordered.imp fun hlt => ne_of_lt hlt, h.serves⟩
  count passed hpassed := by
    have hserves : ∀ {ts es : List NaiveDateTime}, List.Forall₂ (Serves s j) ts es →
        ∀ t ∈ ts, s.Instant t ∧ j.start < t := by
      intro ts es hall
      induction hall with
      | nil => exact fun t ht => by cases ht
      | cons hfirst _ ih => exact List.forall_mem_cons.mpr ⟨⟨hfirst.1, hfirst.2.1⟩, ih⟩
    have hmem : served ⊆ passed := by
      intro t ht
      obtain ⟨hinstant, hstart⟩ := hserves h.serves t ht
      exact hpassed t hinstant hstart (h.past t ht)
    have hnodup : served.Nodup := h.ordered.imp fun hlt => ne_of_lt hlt
    rw [← h.serves.length_eq]
    exact (hnodup.subperm hmem).length_le

theorem law_of_onSchedule {start : NaiveDateTime} {evs : List JobEvent}
    (h : OnSchedule s start evs j) : JobLaw s j := by
  obtain ⟨served, hinv⟩ := h.inv (I := fun j => ∃ served, Inv s j served)
    ⟨[], inv_new start⟩ fun _ _ _ hinv hs => by
      obtain ⟨served, hinv⟩ := hinv
      exact inv_step hinv hs.1 hs.2
  exact hinv.law

/-- A job that starts when the schedule is over runs a minute later. -/
theorem overrun_steps {now : NaiveDateTime} (h : s.upcoming now = none) :
    Steps (Step s) (new now) [.look now now now, .wake (now + Duration.seconds 60)]
      ⟨now, now + Duration.seconds 60, .sending, [now + Duration.seconds 60]⟩ := by
  have hpos : now ≤ now + Duration.seconds 60 := Int.le_add_of_nonneg_right (by decide)
  refine .cons (a := ⟨now, now, .sleeping (now + Duration.seconds 60), []⟩) ⟨?_, ?_⟩ ?_
  · exact ⟨le_rfl, le_rfl, le_rfl⟩
  · unfold step
    dsimp only [new]
    rw [h]
    rfl
  refine .cons (a := ⟨now, now + Duration.seconds 60, .sending, [now + Duration.seconds 60]⟩)
    ⟨⟨hpos, ?_⟩, rfl⟩ .nil
  intro deadline hd
  cases hd
  exact le_rfl

theorem not_keepsLaw {now : NaiveDateTime} (h : s.upcoming now = none) : ¬ KeepsLaw s := by
  intro hall
  obtain ⟨served, _, hserves⟩ := (hall _ _ _ (overrun_steps h)).served
  cases hserves with
  | cons hfirst _ =>
    exact absurd hfirst.2.1 (not_lt_of_ge (s.upcoming_none h _ hfirst.1))

variable (s) in
/-- **On a schedule that goes on every run keeps the law**, and on one that comes to an end not
    every run does. Without a next instant the job sleeps for a minute and runs all the same, so it
    runs where the schedule has nothing. The first half asks each run only that there was a next
    instant whenever it looked for one. -/
theorem keepsLaw_iff :
    (∀ start evs j, OnSchedule s start evs j → JobLaw s j) ∧
      (KeepsLaw s ↔ ∀ now, (s.upcoming now).isSome) := by
  refine ⟨fun _ _ _ h => law_of_onSchedule h, ?_, ?_⟩
  · intro hall now
    by_contra hnone
    exact not_keepsLaw (Option.not_isSome_iff_eq_none.mp hnone) hall
  · intro hsome start evs j h
    have hon : OnSchedule s start evs j := by
      refine h.mono fun _ ev _ hs => ⟨hs, ?_⟩
      cases ev with
      | look upcoming now sleep => exact hsome upcoming
      | wake now => trivial
      | sent now => trivial
      | cancelled now => trivial
    exact law_of_onSchedule hon

/-- One instant, at the tenth second. -/
def once : Schedule where
  Instant t := t = Duration.seconds 10
  upcoming now := if now < Duration.seconds 10 then some (Duration.seconds 10) else none
  upcoming_some := by
    intro now next h
    split at h
    · rename_i hlt
      cases h
      exact ⟨rfl, hlt, fun t ht _ => ht.ge⟩
    · cases h
  upcoming_none := by
    rintro now h t rfl
    split at h
    · cases h
    · rename_i hge
      exact not_lt.mp hge

/-- At the twentieth second the schedule is over, and a job that starts then runs at the eightieth.
    -/
theorem once_breaks_law : ¬ KeepsLaw once := by
  have hover : once.upcoming (Duration.seconds 20) = none := by decide
  exact not_keepsLaw hover

end Job

end PolyNotifier
