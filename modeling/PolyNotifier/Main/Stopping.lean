import Mathlib.Data.Prod.Lex
import PolyNotifier.Lib.Fair
import PolyNotifier.Main.Schedule

/-!
# The shutdown comes to an end

`main` cancels the token and waits for its tasks. The engine may be in the middle of a tick, wait
for room in the channel of the notifications, or walk over the database; the service may hold a
request, the scheduler a list of them. Each of the three gets to its end, in every fair run. The
service leaves at its next turn, and with that the channel is closed: nobody waits for room any
more. The steps of the engine wear out `rank`, for after the cancellation it begins no tick and no
walk but the last flush.
-/

namespace PolyNotifier

open Lib (Channel Enabled Endless Often Steps)

namespace Process

open Shutdown (EnginePc engineStep serviceStep)

/-! ## Whose step it is -/

/-- A step of the engine's task, the queries of its refresh and the writes of its flush included.
    -/
def IsEngine : ProcessLabel → Prop
  | .tick .. => True
  | .lagged => True
  | .engine _ => True
  | .readAlerts _ => True
  | .readConditions _ => True
  | .beginFlush _ => True
  | .writePrices => True
  | .endFlush => True
  | _ => False

def IsHandle (l : ProcessLabel) : Prop := ∃ env, l = .service (.handle env)

/-- The engine has left its loop, or panicked. -/
def EngineGone (p : Process) : Prop := p.phase = .free ∧ p.core.pc.gone = true

/-- The three tasks of the notifications have come to their end. -/
structure Stopped (p : Process) : Prop where
  engine : p.EngineGone
  service : p.core.service = .returned
  scheduler : p.schedulerReturned = true

variable {c : Setup} {d : Db} {ls : List ProcessLabel} {l : ProcessLabel} {p p' : Process}

/-! ## What a step leaves as it is -/

theorem engineMove_frame {e : Shutdown.EngineLabel} {s s' : Shutdown.State}
    (h : EngineMove c.crates c.alert s e s') :
    s'.cancelled = s.cancelled ∧ (s'.service = s.service ∧ s'.handled = s.handled) ∧
      (s.channel.alive = false → s'.channel.alive = false) := by
  cases h with
  | sends hpc hpush =>
    obtain ⟨halive, _⟩ := Channel.push_eq_some hpush
    exact ⟨rfl, ⟨rfl, rfl⟩, fun hclosed => by rw [halive] at hclosed; cases hclosed⟩
  | _ => exact ⟨rfl, ⟨rfl, rfl⟩, id⟩

theorem cancelled_step (h : p.core.cancelled = true) (hs : Step c p l p') :
    p'.core.cancelled = true := by
  cases hs with
  | cancel => rfl
  | tick _ _ hstep =>
    exact (engineMove_frame (engineStep_cases (.inr (.inr ⟨_, _, rfl⟩)) hstep)).1.trans h
  | lagged _ _ hstep =>
    exact (engineMove_frame (engineStep_cases (.inr (.inl rfl)) hstep)).1.trans h
  | engine _ halone hstep =>
    exact (engineMove_frame (engineStep_cases (.inl halone) hstep)).1.trans h
  | service hstep =>
    cases serviceStep_cases hstep with
    | _ => exact h
  | _ => exact h

theorem service_step (hs : Step c p l p') (hl : ∀ v, l ≠ .service v) :
    p'.core.service = p.core.service ∧ p'.core.handled = p.core.handled := by
  cases hs with
  | tick _ _ hstep =>
    exact (engineMove_frame (engineStep_cases (.inr (.inr ⟨_, _, rfl⟩)) hstep)).2.1
  | lagged _ _ hstep =>
    exact (engineMove_frame (engineStep_cases (.inr (.inl rfl)) hstep)).2.1
  | engine _ halone hstep =>
    exact (engineMove_frame (engineStep_cases (.inl halone) hstep)).2.1
  | service => exact absurd rfl (hl _)
  | _ => exact ⟨rfl, rfl⟩

theorem channel_closed_step (h : p.core.channel.alive = false) (hs : Step c p l p') :
    p'.core.channel.alive = false := by
  cases hs with
  | tick _ _ hstep =>
    exact (engineMove_frame (engineStep_cases (.inr (.inr ⟨_, _, rfl⟩)) hstep)).2.2 h
  | lagged _ _ hstep =>
    exact (engineMove_frame (engineStep_cases (.inr (.inl rfl)) hstep)).2.2 h
  | engine _ halone hstep =>
    exact (engineMove_frame (engineStep_cases (.inl halone) hstep)).2.2 h
  | service hstep =>
    cases serviceStep_cases hstep with
    | takes _ hrecv =>
      have halive := (Channel.recv_eq_some hrecv).1
      rw [h] at halive
      cases halive
    | handles => exact h
    | _ => rfl
  | sendSummary _ hpush =>
    have halive := (Channel.push_eq_some hpush).1
    rw [h] at halive
    cases halive
  | _ => exact h

/-- A service that has left has closed the channel. -/
theorem closed_of_returned (hrun : Runs c d ls p) (h : p.core.service = .returned) :
    p.core.channel.alive = false := by
  induction hrun with
  | nil => cases h
  | @snoc ls l q p hrun hs ih =>
    by_cases hl : ∃ v, l = .service v
    · obtain ⟨v, rfl⟩ := hl
      cases hs with
      | service hstep =>
        cases serviceStep_cases hstep with
        | takes => cases h
        | handles => cases h
        | _ => rfl
    · have hreturned := (service_step hs fun v heq => hl ⟨v, heq⟩).1.symm.trans h
      exact channel_closed_step (ih hreturned) hs

/-- The service has left, and the channel is closed. From here on no send waits: it fails at once.
    -/
structure Closed (p : Process) : Prop where
  cancelled : p.core.cancelled = true
  returned : p.core.service = .returned
  closed : p.core.channel.alive = false

theorem serviceStep_returned {bots : BotRegistry} {s : Shutdown.State} (h : s.service = .returned)
    (v : Shutdown.ServiceLabel) : serviceStep bots s v = none := by
  cases v <;> simp [serviceStep, h]

theorem Closed.step (h : Closed p) (hs : Step c p l p') : Closed p' := by
  refine ⟨cancelled_step h.cancelled hs, ?_, channel_closed_step h.closed hs⟩
  refine (service_step hs fun v heq => ?_).1.trans h.returned
  subst heq
  cases hs with
  | service hstep =>
    rw [serviceStep_returned h.returned] at hstep
    cases hstep

/-! ## The service -/

section Service

variable {r : Endless (Step c)} {n : Nat}

theorem handled_of_handling (hfair : r.Fair IsHandle) {req : NotificationRequest}
    (h : (r.state n).core.service = .handling req) :
    ∃ m, n ≤ m ∧ (r.state m).core.service = .waiting ∧
      ∃ done, (r.state m).core.handled = (r.state n).core.handled ++ [done] := by
  have hhandle : ∀ {p p' : Process} {v : Shutdown.ServiceLabel},
      p.core.service = .handling req → Step c p (.service v) p' →
        p'.core.service = .waiting ∧ ∃ done, p'.core.handled = p.core.handled ++ [done] := by
    intro p p' v hp hs
    cases hs with
    | service hstep =>
      cases serviceStep_cases hstep with
      | handles => exact ⟨rfl, _, rfl⟩
      | leaves hwaits => rw [hp] at hwaits; cases hwaits
      | ends hwaits => rw [hp] at hwaits; cases hwaits
      | takes hwaits => rw [hp] at hwaits; cases hwaits
  refine hfair.leads
    (P := fun p => p.core.service = .handling req ∧ p.core.handled = (r.state n).core.handled)
    (Q := fun p => p.core.service = .waiting ∧
      ∃ done, p.core.handled = (r.state n).core.handled ++ [done])
    (fun p hp => ?_) (fun p l p' hp hs => ?_) (fun p l p' hp hl hs => ?_) ⟨h, rfl⟩
  -- whatever the user, the database and Telegram answer, the handling comes to an end
  · let env : HandleEnv := ⟨true, 0, 0, fun _ => none, true, 0⟩
    obtain ⟨s, hs⟩ : ∃ s, serviceStep c.bots p.core (.handle env) = some s := by
      simp [serviceStep, hp.1]
    exact ⟨_, _, ⟨env, rfl⟩, .service hs⟩
  · by_cases hl : ∃ v, l = .service v
    · obtain ⟨v, rfl⟩ := hl
      have hdone := hhandle hp.1 hs
      rw [hp.2] at hdone
      exact .inr hdone
    · obtain ⟨hservice, hhandled⟩ := service_step hs fun v heq => hl ⟨v, heq⟩
      exact .inl ⟨hservice.trans hp.1, hhandled.trans hp.2⟩
  · obtain ⟨env, rfl⟩ := hl
    have hdone := hhandle hp.1 hs
    rw [hp.2] at hdone
    exact hdone

/-- **The service leaves.** -/
theorem service_returns (hhandle : r.Fair IsHandle) (hcancel : r.Fair (· = .service .cancelled))
    (hruns : ∀ m, ∃ ls, Runs c d ls (r.state m))
    (hcancelled : (r.state n).core.cancelled = true) : ∃ m, n ≤ m ∧ Closed (r.state m) := by
  by_contra hnever
  have hkept : ∀ m, n ≤ m → (r.state m).core.cancelled = true := fun m hm =>
    r.inv (I := fun p => p.core.cancelled = true) (fun _ _ _ h hs => cancelled_step h hs) hm
      hcancelled
  -- whenever it waits, it may leave
  have hwaiting : ∀ m, n ≤ m → (r.state m).core.service = .waiting →
      Enabled (Step c) (· = .service .cancelled) (r.state m) := by
    intro m hm hwaits
    obtain ⟨s, hs⟩ : ∃ s, serviceStep c.bots (r.state m).core .cancelled = some s := by
      simp [serviceStep, hwaits, hkept m hm]
    exact ⟨_, _, rfl, .service hs⟩
  have hoften : Often fun m => Enabled (Step c) (· = .service .cancelled) (r.state m) := by
    intro k
    cases hservice : (r.state (max n k)).core.service with
    | waiting => exact ⟨_, Nat.le_max_right n k, hwaiting _ (Nat.le_max_left n k) hservice⟩
    | handling req =>
      obtain ⟨m, hm, hwaits, _⟩ := handled_of_handling hhandle hservice
      exact ⟨m, (Nat.le_max_right n k).trans hm,
        hwaiting m ((Nat.le_max_left n k).trans hm) hwaits⟩
    | returned =>
      obtain ⟨ls, hrun⟩ := hruns (max n k)
      exact absurd ⟨_, Nat.le_max_left n k, hkept _ (Nat.le_max_left n k), hservice,
        closed_of_returned hrun hservice⟩ hnever
  obtain ⟨m, hm, hlabel⟩ := hcancel hoften n
  refine hnever ⟨m + 1, Nat.le_succ_of_le hm, ?_⟩
  have hs := r.steps m
  have hkept := hkept m hm
  rw [hlabel] at hs
  generalize r.state (m + 1) = p' at hs ⊢
  cases hs with
  | service hstep =>
    cases serviceStep_cases hstep with
    | leaves => exact ⟨hkept, rfl, rfl⟩

end Service

/-! ## The engine -/

/-- The steps that are left to the engine, the writes of its walks apart. A rule takes at most
    three, as it may have to be sent and written; the numbers in between only have to fall. -/
def pcStage : EnginePc → Nat
  | .starting => 5
  | .select => 3
  | .rules t => 3 * t.rest.length + 4
  | .sending t _ _ => 3 * t.rest.length + 6
  | .persisting t _ _ _ => 3 * t.rest.length + 5
  | .flushing => 2
  | .returned => 0
  | .panicked => 0

def stage (p : Process) : Nat :=
  match p.phase, p.core.pc with
  | .free, pc => pcStage pc
  | .refreshing _, _ => 4
  | .flushing _ _, .flushing => 1
  | .flushing _ _, pc => pcStage pc + 1

/-- The writes that are left of the walk the engine is on. -/
def writes (p : Process) : Nat :=
  match p.phase with
  | .flushing _ rest => rest.length
  | _ => 0

/-- The stage, and the writes below it: the first step of a flush brings as many writes as there
    are markets, so no one number falls with every step. -/
def rank (p : Process) : ℕ ×ₗ ℕ := toLex (p.stage, p.writes)

theorem rank_lt_of_stage (h : p'.stage < p.stage) : p'.rank < p.rank :=
  Prod.Lex.toLex_lt_toLex.mpr (.inl h)

theorem branch_of_busy {next : Shutdown.State} (hfree : p.phase = .free) (h : ¬ p.Selects) :
    Shutdown.branch p.core next = none := by
  unfold Shutdown.branch
  split
  · rename_i hpc
    have hcancelled : p.core.cancelled = true :=
      Bool.eq_true_of_not_eq_false fun hnot => h ⟨hfree, hpc, hnot⟩
    rw [hcancelled]
    rfl
  · rfl

theorem stage_free (h : p.phase = .free) : p.stage = pcStage p.core.pc := by
  unfold stage
  rw [h]

/-- **Every step of the engine lowers the rank**, unless it selects what to do next. -/
theorem rank_engine (hbusy : ¬ p.Selects) (hl : IsEngine l)
    (hs : Step c p l p') : p'.rank < p.rank := by
  cases hs with
  -- busy means that no tick and no lag can be selected
  | tick hfree hrecv hstep =>
    simp only [engineStep, branch_of_busy hfree hbusy] at hstep
    cases hstep
  | lagged hfree hlag hstep =>
    simp only [engineStep, branch_of_busy hfree hbusy] at hstep
    cases hstep
  | @engine e s hfree halone hstep =>
    refine rank_lt_of_stage ?_
    have hfree' : ({ p with core := s } : Process).phase = .free := hfree
    rw [stage_free hfree, stage_free hfree']
    cases engineStep_cases (.inl halone) hstep with
    | ticks => exact halone.elim
    | lags => exact halone.elim
    | cancels hpc => simp [hpc, pcStage]
    | finishes hpc => simp [hpc, pcStage]
    | skips hpc =>
      simp only [hpc, pcStage, List.length_cons]
      omega
    | panics hpc => simp [hpc, pcStage]
    | composes hpc =>
      simp only [hpc, pcStage, List.length_cons]
      omega
    | sends hpc => simp [hpc, pcStage]
    | fails hpc => simp [hpc, pcStage]
    | persists hpc => simp [hpc, pcStage]
  | readAlerts hturn =>
    obtain ⟨hfree, hpc⟩ := hturn.resolve_right hbusy
    refine rank_lt_of_stage ?_
    rw [stage_free hfree, hpc]
    simp [stage, pcStage]
  | readConditions hphase =>
    refine rank_lt_of_stage ?_
    simp [stage, hphase, pcStage]
  | beginFlush hturn =>
    obtain ⟨hfree, hpc⟩ := hturn.resolve_right hbusy
    refine rank_lt_of_stage ?_
    rw [stage_free hfree, hpc]
    simp [stage, pcStage, hpc]
  -- the stage stays the same, and there is one write less to do
  | writePrices hphase =>
    refine Prod.Lex.toLex_lt_toLex.mpr (.inr ⟨?_, ?_⟩)
    · simp only [stage, hphase]
      cases p.core.pc <;> rfl
    · simp [writes, hphase]
  | endFlush hphase =>
    refine rank_lt_of_stage ?_
    simp only [stage, hphase]
    cases p.core.pc <;> simp [pcStage]
  | _ => exact hl.elim

/-- No other step changes it. -/
theorem rank_other (hl : ¬ IsEngine l) (hs : Step c p l p') : p'.rank = p.rank := by
  cases hs with
  | service hstep =>
    obtain ⟨_, hpc, _⟩ := service_engine hstep
    simp only [rank, stage, writes, hpc]
  | tick => exact absurd trivial hl
  | lagged => exact absurd trivial hl
  | engine => exact absurd trivial hl
  | readAlerts => exact absurd trivial hl
  | readConditions => exact absurd trivial hl
  | beginFlush => exact absurd trivial hl
  | writePrices => exact absurd trivial hl
  | endFlush => exact absurd trivial hl
  | _ => rfl

/-- **An engine that is not gone has a step to take**, if the channel is closed or has room. -/
theorem enabled_engine (hbusy : ¬ p.Selects)
    (hroom : p.core.channel.alive = true →
      p.core.channel.queue.length < p.core.channel.capacity) (hgone : ¬ p.EngineGone) :
    Enabled (Step c) IsEngine p := by
  have hengine : ∀ e, EngineStepsAlone e → p.phase = .free →
      (∃ s, engineStep c.crates c.alert p.core e = some s) → Enabled (Step c) IsEngine p := by
    rintro e halone hfree ⟨s, hs⟩
    exact .of_step (.engine hfree halone hs) trivial
  cases hphase : p.phase with
  | refreshing rows =>
    exact .of_step (Step.readConditions hphase (.inl (Eq.refl none))) trivial
  | flushing env rest =>
    cases rest with
    | nil => exact .of_step (.endFlush hphase) trivial
    | cons entry rest => exact .of_step (.writePrices hphase) trivial
  | free =>
    cases hpc : p.core.pc with
    | starting =>
      exact .of_step (Step.readAlerts (.inl ⟨hphase, hpc⟩) (.inl (Eq.refl none))) trivial
    -- at the select! and still busy: the token is cancelled, so the engine can leave
    | select =>
      refine hengine .cancelled trivial hphase ?_
      have hcancelled : p.core.cancelled = true :=
        Bool.eq_true_of_not_eq_false fun hnot => hbusy ⟨hphase, hpc, hnot⟩
      simp [engineStep, hpc, hcancelled]
    | rules t =>
      refine hengine .tryRule trivial hphase ?_
      obtain ⟨update, previous, env, rest⟩ := t
      cases rest with
      | nil => simp [engineStep, hpc]
      | cons r rest =>
        simp only [engineStep, hpc]
        split
        · split
          · exact ⟨_, rfl⟩
          · exact ⟨_, rfl⟩
        · exact ⟨_, rfl⟩
    -- the send waits for room, or fails where the receiver is gone
    | sending t r message =>
      refine hengine .send trivial hphase ?_
      cases halive : p.core.channel.alive with
      | false => simp [engineStep, hpc, halive]
      | true => simp [engineStep, hpc, halive, Channel.push, hroom halive]
    | persisting t r message slot =>
      refine hengine .persist trivial hphase ?_
      simp [engineStep, hpc]
    | flushing =>
      let env : FlushEnv := ⟨[], fun _ => 0, fun _ => true⟩
      have hbegin : Step c p (.beginFlush env) _ := .beginFlush (.inl ⟨hphase, hpc⟩)
      exact .of_step hbegin trivial
    | returned => exact absurd ⟨hphase, by rw [hpc]; rfl⟩ hgone
    | panicked => exact absurd ⟨hphase, by rw [hpc]; rfl⟩ hgone

theorem Closed.busy (h : Closed p) : ¬ p.Selects := fun hselects => by
  rw [Selects, h.cancelled] at hselects
  cases hselects.2.2

/-- An engine that selects nothing any more runs out of steps. -/
theorem exists_quiet {r : Endless (Step c)} {n : Nat} (hfair : r.Fair IsEngine)
    (hbusy : ∀ k, n ≤ k → ¬ (r.state k).Selects) :
    ∃ m, n ≤ m ∧ ∀ k, m ≤ k → ¬ Enabled (Step c) IsEngine (r.state k) := by
  refine hfair.exhausts (I := fun p => ¬ p.Selects) hbusy (fun p l p' hp hs => ?_)
    (fun p l p' hp hl hs => rank_engine hp hl hs)
  by_cases hl : IsEngine l
  · exact (rank_engine hp hl hs).le
  · exact (rank_other hl hs).le

/-- **The engine comes to its end**, once the channel is closed. -/
theorem engine_leaves {r : Endless (Step c)} {n : Nat} (hfair : r.Fair IsEngine)
    (h : Closed (r.state n)) : ∃ m, n ≤ m ∧ ∀ k, m ≤ k → (r.state k).EngineGone := by
  have hclosed : ∀ k, n ≤ k → Closed (r.state k) := fun k hk =>
    r.inv (fun _ _ _ h hs => h.step hs) hk h
  obtain ⟨m, hm, hquiet⟩ := exists_quiet hfair fun k hk => (hclosed k hk).busy
  refine ⟨m, hm, fun k hk => ?_⟩
  by_contra hgone
  have hkept := hclosed k (hm.trans hk)
  refine hquiet k hk (enabled_engine hkept.busy (fun halive => ?_) hgone)
  rw [hkept.closed] at halive
  cases halive

/-! ## The scheduler -/

section Scheduler

variable {r : Endless (Step c)} {n : Nat}

/-- The scheduler gets through the requests it has written. -/
theorem summaries_run_out (hfair : r.Fair (· = .sendSummary)) (h : Closed (r.state n)) :
    ∃ m, n ≤ m ∧ (r.state m).summaries = [] := by
  generalize hlist : (r.state n).summaries = reqs
  -- induction on the requests that are left: each send fails at once, the channel being closed
  induction reqs generalizing n with
  | nil => exact ⟨n, Nat.le_refl n, hlist⟩
  | cons req rest ih =>
    have hnext : ∃ m, n ≤ m ∧ (r.state m).summaries = rest := by
      refine hfair.leads (P := fun p => Closed p ∧ p.summaries = req :: rest)
        (Q := fun p => p.summaries = rest) (fun p hp => ?_) (fun p l p' hp hs => ?_)
        (fun p l p' hp hl hs => ?_) ⟨h, hlist⟩
      · exact .of_step (.refuseSummary hp.2 hp.1.closed) rfl
      · have hclosed := hp.1.step hs
        cases hs with
        | summarize _ hsent =>
          rw [hp.2] at hsent
          cases hsent
        | sendSummary hfirst hpush =>
          rw [hp.2] at hfirst
          cases hfirst
          exact .inr rfl
        | refuseSummary hfirst =>
          rw [hp.2] at hfirst
          cases hfirst
          exact .inr rfl
        | _ => exact .inl ⟨hclosed, hp.2⟩
      · cases hs with
        | sendSummary hfirst hpush =>
          rw [hp.2] at hfirst
          cases hfirst
          rfl
        | refuseSummary hfirst =>
          rw [hp.2] at hfirst
          cases hfirst
          rfl
        | _ => cases hl
    obtain ⟨m, hm, hrest⟩ := hnext
    have hclosed : Closed (r.state m) := r.inv (fun _ _ _ h hs => h.step hs) hm h
    obtain ⟨k, hk, hempty⟩ := ih hclosed hrest
    exact ⟨k, hm.trans hk, hempty⟩

theorem schedulerReturned_step (h : p.schedulerReturned = true) (hs : Step c p l p') :
    p'.schedulerReturned = true := by
  cases hs with
  | schedulerReturns => rfl
  | _ => exact h

/-- **The scheduler leaves.** -/
theorem scheduler_returns (hsend : r.Fair (· = .sendSummary))
    (hreturn : r.Fair (· = .schedulerReturns)) (h : Closed (r.state n)) :
    ∃ m, n ≤ m ∧ (r.state m).schedulerReturned = true := by
  by_contra hnever
  have hoften : Often fun m => Enabled (Step c) (· = .schedulerReturns) (r.state m) := by
    intro k
    have hclosed : ∀ m, n ≤ m → Closed (r.state m) := fun m hm =>
      r.inv (fun _ _ _ h hs => h.step hs) hm h
    obtain ⟨m, hm, hempty⟩ := summaries_run_out hsend (hclosed _ (Nat.le_max_left n k))
    have hle := (Nat.le_max_left n k).trans hm
    have hrunning : (r.state m).schedulerReturned = false :=
      Bool.eq_false_iff.mpr fun hreturned => hnever ⟨m, hle, hreturned⟩
    exact ⟨m, (Nat.le_max_right n k).trans hm,
      .of_step (.schedulerReturns hrunning hempty (hclosed m hle).cancelled) rfl⟩
  obtain ⟨m, hm, hlabel⟩ := hreturn hoften n
  refine hnever ⟨m + 1, Nat.le_succ_of_le hm, ?_⟩
  have hs := r.steps m
  rw [hlabel] at hs
  generalize r.state (m + 1) = p' at hs ⊢
  cases hs with
  | schedulerReturns => rfl

end Scheduler

/-! ## The shutdown -/

/-- The run is fair to the engine, to the request the service has in hand, to the branch of its
    `select!` for the token, and to the scheduler. The service needs it of the branch and not of
    the task: a `select!` that always takes a request, while there are any, never leaves. -/
structure FairRun (r : Endless (Step c)) : Prop where
  engine : r.Fair IsEngine
  handle : r.Fair IsHandle
  cancel : r.Fair (· = .service .cancelled)
  send : r.Fair (· = .sendSummary)
  schedulerReturns : r.Fair (· = .schedulerReturns)

/-- **The shutdown comes to an end.** In every fair run of the process from a state in which the
    token is cancelled, wherever its tasks are and whatever the others do, there is a point from
    which on the engine, the notification service and the scheduler are gone. -/
theorem shutdown_completes {r : Endless (Step c)} (hrun : Runs c d ls (r.state 0))
    (hcancelled : (r.state 0).core.cancelled = true) (hfair : FairRun r) :
    ∃ n, ∀ m, n ≤ m → Stopped (r.state m) := by
  have hruns : ∀ m, ∃ ls, Runs c d ls (r.state m) := fun m => ⟨_, hrun.append (r.run m)⟩
  obtain ⟨n, _, hclosed⟩ := service_returns hfair.handle hfair.cancel hruns hcancelled
  obtain ⟨m₁, hm₁, hgone⟩ := engine_leaves hfair.engine hclosed
  obtain ⟨m₂, hm₂, hreturned⟩ := scheduler_returns hfair.send hfair.schedulerReturns hclosed
  refine ⟨max m₁ m₂, fun m hm => ⟨?_, ?_, ?_⟩⟩
  · exact hgone m ((Nat.le_max_left m₁ m₂).trans hm)
  · have hle := hm₁.trans ((Nat.le_max_left m₁ m₂).trans hm)
    exact (r.inv (I := Closed) (fun _ _ _ h hs => h.step hs) hle hclosed).returned
  · exact r.inv (I := fun p => p.schedulerReturned = true)
      (fun _ _ _ h hs => schedulerReturned_step h hs) ((Nat.le_max_right m₁ m₂).trans hm) hreturned

/-! ## A sample

The token is cancelled when the engine has a message to send. -/

theorem engineStep_gone {x : Crates} {cfg : EngineConfig} {s : Shutdown.State}
    (h : s.pc.gone = true) (e : Shutdown.EngineLabel) : engineStep x cfg s e = none := by
  cases hpc : s.pc with
  | returned => cases e <;> simp [engineStep, Shutdown.branch, hpc]
  | panicked => cases e <;> simp [engineStep, Shutdown.branch, hpc]
  | _ =>
    rw [hpc] at h
    cases h

/-- What has stopped takes no step. -/
theorem Stopped.quiet (h : Stopped p) (hempty : p.summaries = []) (hs : Step c p l p') :
    ¬ IsEngine l ∧ (∀ v, l ≠ .service v) ∧ l ≠ .sendSummary ∧ l ≠ .schedulerReturns := by
  obtain ⟨⟨hfree, hgone⟩, hreturned, hscheduler⟩ := h
  have hnone : ∀ e, engineStep c.crates c.alert p.core e = none := engineStep_gone hgone
  have hturn : ¬ ((p.phase = .free ∧ p.core.pc = .starting) ∨ p.Selects) := by
    rintro (⟨_, hpc⟩ | ⟨_, hpc, _⟩) <;> rw [hpc] at hgone <;> cases hgone
  cases hs with
  | tick _ _ hstep => rw [hnone] at hstep; cases hstep
  | lagged _ _ hstep => rw [hnone] at hstep; cases hstep
  | engine _ _ hstep => rw [hnone] at hstep; cases hstep
  | readAlerts hreads => exact absurd hreads hturn
  | readConditions hphase => rw [hfree] at hphase; cases hphase
  | beginFlush hflush =>
    rcases hflush with ⟨_, hpc⟩ | hselects
    · rw [hpc] at hgone
      cases hgone
    · exact absurd (.inr hselects) hturn
  | writePrices hphase => rw [hfree] at hphase; cases hphase
  | endFlush hphase => rw [hfree] at hphase; cases hphase
  | service hstep => rw [serviceStep_returned hreturned] at hstep; cases hstep
  | sendSummary hnext => rw [hempty] at hnext; cases hnext
  | refuseSummary hnext => rw [hempty] at hnext; cases hnext
  | schedulerReturns hrunning => rw [hscheduler] at hrunning; cases hrunning
  | _ => exact ⟨id, nofun, nofun, nofun⟩

/-- A run that comes to rest where all have stopped is fair. -/
theorem fairRun_of_stopped {r : Endless (Step c)} {n : Nat}
    (h : ∀ m, n ≤ m → Stopped (r.state m) ∧ (r.state m).summaries = []) : FairRun r := by
  have hquiet : ∀ A : ProcessLabel → Prop,
      (∀ l, A l → IsEngine l ∨ (∃ v, l = .service v) ∨ l = .sendSummary ∨ l = .schedulerReturns) →
        r.Fair A := by
    intro A hA
    refine Endless.Fair.of_disabled (n := n) fun m hm henabled => ?_
    obtain ⟨l, p', hl, hs⟩ := henabled
    obtain ⟨hengine, hservice, hsend, hreturn⟩ := (h m hm).1.quiet (h m hm).2 hs
    rcases hA l hl with he | ⟨v, hv⟩ | heq | heq
    · exact hengine he
    · exact hservice v hv
    · exact hsend heq
    · exact hreturn heq
  refine ⟨hquiet _ fun l hl => .inl hl, hquiet _ fun l hl => ?_, hquiet _ fun l hl => ?_,
    hquiet _ fun l hl => ?_, hquiet _ fun l hl => ?_⟩
  · obtain ⟨env, rfl⟩ := hl
    exact .inr (.inl ⟨_, rfl⟩)
  · exact .inr (.inl ⟨_, hl⟩)
  · exact .inr (.inr (.inl hl))
  · exact .inr (.inr (.inr hl))

theorem step_cancel (h : p.core.cancelled = true) (hmonitor : p.monitor.cancelled = true) :
    Step c p .cancel p := by
  have hcore : { p.core with cancelled := true } = p.core := by rw [← h]
  have hfeed : { p.monitor with cancelled := true } = p.monitor := by rw [← hmonitor]
  have hstep : Step c p .cancel { p with
      core := { p.core with cancelled := true }
      monitor := { p.monitor with cancelled := true } } := .cancel
  rwa [hcore, hfeed] at hstep

/-- Cancelled, with a message that is not sent yet. -/
def cancelSchedule : List Turn :=
  [.readAlerts, .readConditions, .readTokens, .monitor .check, .spawn ["yes", "no"],
    .monitor (.current .start), .monitor (.current (.frame alarmFrame)),
    .monitor (.current .recv), .monitor (.current (.convert 5)), .tick calmTick,
    .engine .tryRule, .cancel]

/-- The service leaves, the send fails, and the others leave too. -/
def leaveSchedule : List Turn :=
  [.service .cancelled, .engine .send, .engine .persist, .engine .tryRule, .engine .cancelled,
    .beginFlush ⟨[], fun _ => 0, fun _ => true⟩, .endFlush, .schedulerReturns]

/-- What the sample ends with. -/
def atEnd (p : Process) : Bool :=
  match p.phase with
  | .free => p.core.pc.gone && decide (p.core.service = .returned) && p.schedulerReturned &&
      p.summaries.isEmpty && p.core.cancelled && p.monitor.cancelled
  | _ => false

theorem atEnd_spec (h : p.atEnd = true) :
    Stopped p ∧ p.summaries = [] ∧ p.core.cancelled = true ∧ p.monitor.cancelled = true := by
  unfold atEnd at h
  split at h
  · rename_i hfree
    simp only [Bool.and_eq_true, decide_eq_true_eq, List.isEmpty_iff] at h
    obtain ⟨⟨⟨⟨⟨hgone, hservice⟩, hscheduler⟩, hempty⟩, hcancelled⟩, hmonitor⟩ := h
    exact ⟨⟨⟨hfree, hgone⟩, hservice, hscheduler⟩, hempty, hcancelled, hmonitor⟩
  · cases h

theorem shutdown_completes_alarm : ∃ (ls : List ProcessLabel) (r : Endless (Step sampleSetup)),
    Runs sampleSetup Db.sampleDb ls (r.state 0) ∧ (r.state 0).core.cancelled = true ∧
    ¬ Stopped (r.state 0) ∧ FairRun r ∧ ∃ n, ∀ m, n ≤ m → Stopped (r.state m) := by
  have hcheck : ((play sampleSetup cancelSchedule (.start sampleSetup Db.sampleDb)).bind fun p =>
      (play sampleSetup leaveSchedule p).map fun q =>
        (p.core.cancelled, p.core.pc.gone, q.atEnd)) = some (true, false, true) := by
    decide +kernel
  obtain ⟨p, hp, hcheck⟩ := Option.bind_eq_some_iff.mp hcheck
  obtain ⟨q, hq, hcheck⟩ := Option.map_eq_some_iff.mp hcheck
  obtain ⟨hcancelled, hrest⟩ := Prod.mk.inj hcheck
  obtain ⟨hworks, hend⟩ := Prod.mk.inj hrest
  obtain ⟨hstopped, hempty, hcancel, hmonitor⟩ := atEnd_spec hend
  obtain ⟨ls, hrun⟩ := play_run hp
  obtain ⟨ls', hleave⟩ := play_run hq
  obtain ⟨r, hstart, hstay⟩ := Endless.exists_stay hleave (step_cancel hcancel hmonitor)
  have hfair : FairRun r := fairRun_of_stopped fun m hm => by
    rw [hstay m hm]
    exact ⟨hstopped, hempty⟩
  rw [← hstart] at hrun hcancelled hworks
  refine ⟨ls, r, hrun, hcancelled, fun h => ?_, hfair, shutdown_completes hrun hcancelled hfair⟩
  have hgone := h.engine.2
  rw [hworks] at hgone
  cases hgone

end Process

end PolyNotifier
