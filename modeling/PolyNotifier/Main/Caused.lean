import PolyNotifier.Main.Delivered

/-!
# Why a message is sent

Two tasks put requests on the channel. What the engine sends is about a rule it has evaluated, what
the scheduler sends it has written from the rows of one query. So for whatever the service hands
to Telegram there is a point of the run that was the cause of it, and nothing is made up.
-/

namespace PolyNotifier

open Lib (Channel Steps Visits)
open AlertEngine (notificationOf)

namespace Process

/-- A database of the run has the rows the summary was written from. -/
def Summarizes (c : Setup) (d : Db) (ls : List ProcessLabel) (p : Process)
    (req : NotificationRequest) : Prop :=
  ∃ env : SummaryEnv, Visits (Step c) (start c d) ls p fun q => ∃ rows,
    q.db.fetchSummaryRows = .ok rows ∧ req ∈ (sendSummaries c.crates env rows).map Prod.snd

/-- The request is the notification of an alert that has its grounds. -/
def Alerts (c : Setup) (d : Db) (ls : List ProcessLabel) (p : Process)
    (req : NotificationRequest) : Prop :=
  ∃ update previous r message, Grounds c d ls p update previous r message ∧
    req = notificationOf r message

/-- **What every run keeps.** The two senders of the channel, and the one list that is not on the
    channel yet: the scheduler makes all its requests at once and sends them one by one. -/
structure Caused (c : Setup) (d : Db) (ls : List ProcessLabel) (p : Process) : Prop where
  accepted : ∀ req ∈ p.core.channel.accepted, Alerts c d ls p req ∨ Summarizes c d ls p req
  summaries : ∀ req ∈ p.summaries, Summarizes c d ls p req

variable {c : Setup} {d : Db} {ls : List ProcessLabel} {l : ProcessLabel} {p p' : Process}
  {req : NotificationRequest}

theorem Summarizes.later (h : Summarizes c d ls p req) (hs : Step c p l p') :
    Summarizes c d (ls ++ [l]) p' req := by
  obtain ⟨env, hvisits⟩ := h
  exact ⟨env, hvisits.snoc hs⟩

/-- The engine forgets no update it has received. -/
theorem received_step (hrun : Runs c d ls p) (hs : Step c p l p') :
    ∃ us, p'.feed.received = p.feed.received ++ us := by
  refine ⟨[l].filterMap ProcessLabel.ticked, ?_⟩
  rw [(fed_of_run (hrun.snoc hs)).ticked, (fed_of_run hrun).ticked, List.filterMap_append]

theorem Alerts.later (h : Alerts c d ls p req) (hrun : Runs c d ls p) (hs : Step c p l p') :
    Alerts c d (ls ++ [l]) p' req := by
  obtain ⟨update, previous, r, message, hgrounds, hreq⟩ := h
  exact ⟨update, previous, r, message, hgrounds.later hs (received_step hrun hs), hreq⟩

/-- A step after which the channel and the scheduler hold what they held, or what has a cause. -/
theorem Caused.keep (h : Caused c d ls p) (hrun : Runs c d ls p) (hs : Step c p l p')
    (haccepted : ∀ req ∈ p'.core.channel.accepted, req ∈ p.core.channel.accepted ∨
      Alerts c d ls p req ∨ Summarizes c d ls p req)
    (hsummaries : ∀ req ∈ p'.summaries, req ∈ p.summaries ∨ Summarizes c d ls p req) :
    Caused c d (ls ++ [l]) p' := by
  refine ⟨fun req hreq => ?_, fun req hreq => ?_⟩
  · have hcause : Alerts c d ls p req ∨ Summarizes c d ls p req :=
      (haccepted req hreq).elim (h.accepted req) id
    exact hcause.imp (fun ha => ha.later hrun hs) fun hsum => hsum.later hs
  · have hcause : Summarizes c d ls p req := (hsummaries req hreq).elim (h.summaries req) id
    exact hcause.later hs

theorem Caused.other (h : Caused c d ls p) (hrun : Runs c d ls p) (hs : Step c p l p')
    (hchannel : p'.core.channel.accepted = p.core.channel.accepted)
    (hsummaries : p'.summaries = p.summaries) : Caused c d (ls ++ [l]) p' := by
  refine h.keep hrun hs (fun req hreq => ?_) fun req hreq => ?_
  · rw [hchannel] at hreq
    exact .inl hreq
  · rw [hsummaries] at hreq
    exact .inl hreq

theorem Caused.engine (h : Caused c d ls p) (hrun : Runs c d ls p) (hs : Step c p l p')
    {e : Shutdown.EngineLabel} (hmove : EngineMove c.crates c.alert p.core e p'.core)
    (hsummaries : p'.summaries = p.summaries) : Caused c d (ls ++ [l]) p' := by
  have hpc := (grounded_of_run hrun).pc
  generalize hcore : p'.core = s at hmove
  cases hmove with
  | @sends t r message channel hat hpush =>
    rw [hat] at hpc
    refine h.keep hrun hs (fun req hreq => ?_) fun req hreq => ?_
    · rw [hcore] at hreq
      dsimp only at hreq
      rw [Channel.accepted_push hpush, List.mem_append, List.mem_singleton] at hreq
      exact hreq.imp id fun heq => .inl ⟨t.update, t.previous, r, message, hpc.1, heq⟩
    · rw [hsummaries] at hreq
      exact .inl hreq
  | _ => exact h.other hrun hs (by rw [hcore]) hsummaries

theorem Caused.step (h : Caused c d ls p) (hrun : Runs c d ls p) (hs : Step c p l p') :
    Caused c d (ls ++ [l]) p' := by
  have hs' := hs
  cases hs with
  | tick hfree hrecv hstep =>
    exact h.engine hrun hs' (engineStep_cases (.inr (.inr ⟨_, _, rfl⟩)) hstep) rfl
  | lagged hfree hlag hstep =>
    exact h.engine hrun hs' (engineStep_cases (.inr (.inl rfl)) hstep) rfl
  | engine hfree halone hstep =>
    exact h.engine hrun hs' (engineStep_cases (.inl halone) hstep) rfl
  | service hstep => exact h.other hrun hs' (accepted_service hstep) rfl
  -- the rows are read off the database of this step, and the requests are computed from them
  | @summarize env rows hrunning hsent hanswer =>
    refine h.keep hrun hs' (fun req hreq => .inl hreq) fun req hreq => .inr ?_
    exact ⟨_, .last hrun ⟨rows, hanswer, hreq⟩⟩
  | @sendSummary req rest channel hnext hpush =>
    have hsummaries : ∀ r ∈ req :: rest, Summarizes c d ls p r := hnext ▸ h.summaries
    refine h.keep hrun hs' (fun r hr => ?_) fun r hr => ?_
    · have hr : r ∈ channel.accepted := hr
      rw [Channel.accepted_push hpush, List.mem_append, List.mem_singleton] at hr
      refine hr.imp id fun heq => .inr ?_
      rw [heq]
      exact hsummaries req (List.mem_cons_self ..)
    · exact .inr (hsummaries r (List.mem_cons_of_mem _ hr))
  | @refuseSummary req rest hnext hclosed =>
    refine h.keep hrun hs' (fun r hr => .inl hr) fun r hr => .inl ?_
    rw [hnext]
    exact List.mem_cons_of_mem _ hr
  | _ => exact h.other hrun hs' rfl rfl

theorem caused_of_run (hrun : Runs c d ls p) : Caused c d ls p := by
  induction hrun with
  | nil => exact ⟨nofun, nofun⟩
  | snoc hrun hs ih => exact ih.step hrun hs

/-- **No message without a cause.** Every request the service has handled is the notification of a
    rule that was in the database at some point of the run and held for an update the engine had
    received, or one of the summaries the scheduler writes from the rows of a database the run
    has passed. -/
theorem messages_caused (hrun : Runs c d ls p) : ∀ h ∈ p.core.handled,
    Alerts c d ls p h.request ∨ Summarizes c d ls p h.request := by
  intro h hh
  refine (caused_of_run hrun).accepted h.request ?_
  rw [Channel.accepted, (addressed_of_run hrun).taken]
  exact List.mem_append_left _ (List.mem_append_left _ (List.mem_map_of_mem hh))

theorem messages_caused_alarm : ∃ ls p, Runs sampleSetup Db.sampleDb ls p ∧
    p.outcome = ([(1, some 0)], [(some 1, true)], 1) ∧ ∀ h ∈ p.core.handled,
      Alerts sampleSetup Db.sampleDb ls p h.request ∨
        Summarizes sampleSetup Db.sampleDb ls p h.request := by
  obtain ⟨ls, p, hrun, houtcome⟩ := alarm_run
  exact ⟨ls, p, hrun, houtcome, messages_caused hrun⟩

end Process

end PolyNotifier
