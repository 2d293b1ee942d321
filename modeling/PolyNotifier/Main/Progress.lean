import PolyNotifier.Main.Delivered
import PolyNotifier.Main.Exact
import PolyNotifier.Main.Stopping

/-!
# The process keeps up

As long as the token is not cancelled, the engine, the service and the scheduler are there, and the
channel between them is open. In a fair run none of them waits for ever: the service takes one
request after the other, so there is room in the channel again and again, so the engine comes to
the end of every tick and every walk, so it gets to every update of the price channel. An alert
that is due at a tick goes all this way: its notification is handled in the end.
-/

namespace PolyNotifier

open Lib (Broadcast Channel Enabled Endless Often Steps)
open AlertEngine (Firing TickEnv firingOf notificationOf)

namespace Process

open Shutdown (EnginePc serviceStep engineStep)

variable {c : Setup} {d : Db} {ls : List ProcessLabel} {l : ProcessLabel} {p p' : Process}

/-! ## As long as the token is not cancelled -/

/-- The tasks are there, and their channel is open. It holds as long as nobody cancels, and is what
    a step of the engine or of the service needs to be possible. -/
structure Alive (p : Process) : Prop where
  senders : 0 < p.core.senders
  service : p.core.service ≠ .returned
  channel : p.core.channel.alive = true
  capacity : 0 < p.core.channel.capacity
  engine : p.core.pc ≠ .flushing ∧ p.core.pc ≠ .returned

theorem alive_start (c : Setup) (d : Db) : Alive (start c d) where
  senders := Nat.succ_pos 1
  service := nofun
  channel := rfl
  capacity := Nat.succ_pos 1023
  engine := ⟨nofun, nofun⟩

/-- A step that leaves the channel and its ends as they are. -/
theorem Alive.other (h : Alive p) (hsenders : p'.core.senders = p.core.senders)
    (hservice : p'.core.service = p.core.service) (hchannel : p'.core.channel = p.core.channel)
    (hpc : p'.core.pc = p.core.pc) : Alive p' := by
  refine ⟨?_, ?_, ?_, ?_, ?_⟩
  · rw [hsenders]
    exact h.senders
  · rw [hservice]
    exact h.service
  · rw [hchannel]
    exact h.channel
  · rw [hchannel]
    exact h.capacity
  · rw [hpc]
    exact h.engine

theorem Alive.engineMove (h : Alive p) (hlive : p.core.cancelled = false)
    {e : Shutdown.EngineLabel} {s : Shutdown.State} {feed : Broadcast PriceUpdate}
    (hmove : EngineMove c.crates c.alert p.core e s) : Alive { p with core := s, feed } := by
  cases hmove with
  | cancels _ hcancelled =>
    rw [hlive] at hcancelled
    cases hcancelled
  | lags => exact h.other rfl rfl rfl rfl
  | sends _ hpush =>
    obtain ⟨_, halive, _, _⟩ := Channel.push_eq_some hpush
    refine ⟨h.senders, h.service, halive, ?_, nofun, nofun⟩
    exact h.capacity.trans_eq (Channel.capacity_push hpush).symm
  | _ => exact ⟨h.senders, h.service, h.channel, h.capacity, nofun, nofun⟩

theorem Alive.step (h : Alive p) (hlive : p.core.cancelled = false) (hs : Step c p l p') :
    Alive p' := by
  cases hs with
  | tick _ _ hstep => exact h.engineMove hlive (engineStep_cases (.inr (.inr ⟨_, _, rfl⟩)) hstep)
  | lagged _ _ hstep => exact h.engineMove hlive (engineStep_cases (.inr (.inl rfl)) hstep)
  | engine _ halone hstep => exact h.engineMove hlive (engineStep_cases (.inl halone) hstep)
  | readConditions => exact ⟨h.senders, h.service, h.channel, h.capacity, nofun, nofun⟩
  | endFlush =>
    -- not the last flush: that one begins when the token is cancelled
    refine h.other rfl rfl rfl ?_
    dsimp only
    split
    · rename_i hpc
      exact absurd hpc h.engine.1
    · rfl
  | service hstep =>
    cases serviceStep_cases hstep with
    | leaves _ hcancelled =>
      rw [hlive] at hcancelled
      cases hcancelled
    | ends _ _ halone => exact absurd h.senders (halone ▸ Nat.lt_irrefl 0)
    | takes _ hrecv =>
      refine ⟨h.senders, nofun, (Channel.recv_eq_some hrecv).2.1, ?_, h.engine⟩
      exact h.capacity.trans_eq (Channel.capacity_recv hrecv).symm
    | handles => exact ⟨h.senders, nofun, h.channel, h.capacity, h.engine⟩
  | sendSummary _ hpush =>
    obtain ⟨_, halive, _, _⟩ := Channel.push_eq_some hpush
    refine ⟨h.senders, h.service, halive, ?_, h.engine⟩
    exact h.capacity.trans_eq (Channel.capacity_push hpush).symm
  | schedulerReturns _ _ hcancelled =>
    rw [hlive] at hcancelled
    cases hcancelled
  | _ => exact h.other rfl rfl rfl rfl

theorem alive_of_run (hrun : Runs c d ls p) (hlive : p.core.cancelled = false) : Alive p := by
  induction hrun with
  | nil => exact alive_start c d
  | snoc _ hs ih =>
    have hbefore := Bool.eq_false_iff.mpr fun h => by
      rw [cancelled_step h hs] at hlive
      cases hlive
    exact (ih hbefore).step hbefore hs

/-! ## What only grows -/

theorem accepted_engineMove {e : Shutdown.EngineLabel} {s s' : Shutdown.State}
    (h : EngineMove c.crates c.alert s e s') :
    s.channel.accepted <+: s'.channel.accepted := by
  cases h with
  | sends _ hpush =>
    dsimp only
    rw [Channel.accepted_push hpush]
    exact List.prefix_append _ _
  | _ => exact List.prefix_refl _

theorem accepted_step (hs : Step c p l p') :
    p.core.channel.accepted <+: p'.core.channel.accepted := by
  cases hs with
  | tick _ _ hstep =>
    exact accepted_engineMove (engineStep_cases (.inr (.inr ⟨_, _, rfl⟩)) hstep)
  | lagged _ _ hstep => exact accepted_engineMove (engineStep_cases (.inr (.inl rfl)) hstep)
  | engine _ halone hstep => exact accepted_engineMove (engineStep_cases (.inl halone) hstep)
  | service hstep =>
    dsimp only
    rw [accepted_service hstep]
  | sendSummary _ hpush =>
    dsimp only
    rw [Channel.accepted_push hpush]
    exact List.prefix_append _ _
  | _ => exact List.prefix_refl _

theorem handled_step (hs : Step c p l p') : p.core.handled <+: p'.core.handled := by
  by_cases hl : ∃ v, l = .service v
  · obtain ⟨v, rfl⟩ := hl
    cases hs with
    | service hstep =>
      cases serviceStep_cases hstep with
      | handles => exact List.prefix_append _ _
      | _ => exact List.prefix_refl _
  · rw [(service_step hs fun v heq => hl ⟨v, heq⟩).2]

theorem sent_step (hs : Step c p l p') : p.feed.sent <+: p'.feed.sent := by
  cases hs with
  | monitor => exact List.prefix_append _ _
  | tick _ hrecv =>
    dsimp only
    rw [(Broadcast.recv_eq_some hrecv).1]
  | lagged _ hlag =>
    dsimp only
    rw [(Broadcast.lag_eq_some hlag).1]
  | _ => exact List.prefix_refl _

/-- The engine takes an update, or is told that it lags. -/
def IsReceive : ProcessLabel → Prop
  | .tick .. => True
  | .lagged => True
  | _ => False

theorem next_step (hs : Step c p l p') : p.feed.next ≤ p'.feed.next := by
  cases hs with
  | tick _ hrecv =>
    dsimp only
    rw [Broadcast.next_recv hrecv]
    exact Nat.le_succ _
  | lagged _ hlag => exact (Broadcast.next_lag hlag).le
  | _ => exact Nat.le_refl _

theorem next_receive (hl : IsReceive l) (hs : Step c p l p') : p.feed.next < p'.feed.next := by
  cases hs with
  | tick _ hrecv =>
    dsimp only
    rw [Broadcast.next_recv hrecv]
    exact Nat.lt_succ_self _
  | lagged _ hlag => exact Broadcast.next_lag hlag
  | _ => exact hl.elim

/-- Only the service takes requests off the channel. -/
theorem queue_step (hs : Step c p l p') (hl : l ≠ .service .recv)
    (h : p.core.channel.queue ≠ []) : p'.core.channel.queue ≠ [] := by
  have hpush : ∀ {channel : Channel NotificationRequest} {req : NotificationRequest},
      p.core.channel.push req = some channel → channel.queue ≠ [] := by
    intro channel req hpush
    obtain ⟨_, _, _, hqueue⟩ := Channel.push_eq_some hpush
    rw [hqueue]
    exact List.concat_ne_nil _ _
  have hmove : ∀ {e : Shutdown.EngineLabel} {s : Shutdown.State},
      EngineMove c.crates c.alert p.core e s → s.channel.queue ≠ [] := by
    intro e s hmove
    cases hmove with
    | sends _ hsent => exact hpush hsent
    | _ => exact h
  cases hs with
  | tick _ _ hstep => exact hmove (engineStep_cases (.inr (.inr ⟨_, _, rfl⟩)) hstep)
  | lagged _ _ hstep => exact hmove (engineStep_cases (.inr (.inl rfl)) hstep)
  | engine _ halone hstep => exact hmove (engineStep_cases (.inl halone) hstep)
  | service hstep =>
    cases serviceStep_cases hstep with
    | takes => exact absurd rfl hl
    | _ => exact h
  | sendSummary _ hsent => exact hpush hsent
  | _ => exact h

/-- And there is room when it has taken one. -/
theorem room_of_recv (hs : Step c p (.service .recv) p') :
    (∃ req, p'.core.service = .handling req) ∧ p'.core.handled = p.core.handled ∧
      p'.core.channel.queue.length < p'.core.channel.capacity := by
  cases hs with
  | service hstep =>
    cases serviceStep_cases hstep with
    | takes _ hrecv =>
      refine ⟨⟨_, rfl⟩, rfl, ?_⟩
      have hbound := p.core.channel.bound
      rw [(Channel.recv_eq_some hrecv).2.2.2, ← Channel.capacity_recv hrecv] at hbound
      exact hbound

/-! ## Fair runs -/

/-- The token is never cancelled, and the run is fair to the engine, to the branch of its
    `select!` for the price channel, and to the service. The timers come before that branch: it
    gets its turn as long as refreshes and flushes take less time than there is between them. -/
structure Working (r : Endless (Step c)) : Prop where
  live : ∀ n, (r.state n).core.cancelled = false
  engine : r.Fair IsEngine
  receive : r.Fair IsReceive
  recv : r.Fair (· = .service .recv)
  handle : r.Fair IsHandle

section Working

variable {r : Endless (Step c)} {n : Nat}

theorem Working.alive (h : Working r) (hrun : Runs c d ls (r.state 0)) (n : Nat) :
    Alive (r.state n) := alive_of_run (hrun.append (r.run n)) (h.live n)

/-- **The service takes what is on the channel.** -/
theorem exists_recv (h : Working r) (hrun : Runs c d ls (r.state 0))
    (hqueue : (r.state n).core.channel.queue ≠ []) : ∃ m, n ≤ m ∧ r.label m = .service .recv := by
  by_contra hnever
  -- nobody else takes anything off the channel
  have hkept : ∀ m, n ≤ m → (r.state m).core.channel.queue ≠ [] := by
    intro m hm
    induction m, hm using Nat.le_induction with
    | base => exact hqueue
    | succ m hm ih => exact queue_step (r.steps m) (fun heq => hnever ⟨m, hm, heq⟩) ih
  have hwaiting : ∀ m, n ≤ m → (r.state m).core.service = .waiting →
      Enabled (Step c) (· = .service .recv) (r.state m) := by
    intro m hm hwaits
    obtain ⟨⟨req, channel⟩, hrecv⟩ := Channel.exists_recv (h.alive hrun m).channel (hkept m hm)
    obtain ⟨s, hs⟩ : ∃ s, serviceStep c.bots (r.state m).core .recv = some s := by
      simp [serviceStep, hwaits, hrecv]
    exact ⟨_, _, rfl, .service hs⟩
  have hoften : Often fun m => Enabled (Step c) (· = .service .recv) (r.state m) := by
    intro k
    cases hservice : (r.state (max n k)).core.service with
    | waiting => exact ⟨_, Nat.le_max_right n k, hwaiting _ (Nat.le_max_left n k) hservice⟩
    | handling req =>
      -- first it comes to the end of the request in its hand
      obtain ⟨m, hm, hwaits, _⟩ := handled_of_handling h.handle hservice
      exact ⟨m, (Nat.le_max_right n k).trans hm,
        hwaiting m ((Nat.le_max_left n k).trans hm) hwaits⟩
    | returned => exact absurd hservice (h.alive hrun _).service
  obtain ⟨m, hm, hlabel⟩ := h.recv hoften n
  exact hnever ⟨m, hm, hlabel⟩

/-- So there is room again and again. -/
theorem room_often (h : Working r) (hrun : Runs c d ls (r.state 0)) :
    Often fun m =>
      (r.state m).core.channel.queue.length < (r.state m).core.channel.capacity := by
  intro n
  by_cases hqueue : (r.state n).core.channel.queue = []
  · refine ⟨n, Nat.le_refl n, ?_⟩
    dsimp only
    rw [hqueue]
    exact (h.alive hrun n).capacity
  · obtain ⟨m, hm, hlabel⟩ := exists_recv h hrun hqueue
    have hs := r.steps m
    rw [hlabel] at hs
    exact ⟨m + 1, Nat.le_succ_of_le hm, (room_of_recv hs).2.2⟩

/-- **One more request is handled**, if there is one. -/
theorem handled_next (h : Working r) (hrun : Runs c d ls (r.state 0))
    (hless : (r.state n).core.handled.length < (r.state n).core.channel.accepted.length) :
    ∃ m, n ≤ m ∧ (r.state n).core.handled.length < (r.state m).core.handled.length := by
  have hmore : ∀ {m req}, (r.state m).core.service = .handling req →
      ∃ k, m ≤ k ∧ (r.state m).core.handled.length < (r.state k).core.handled.length := by
    intro m req hhandling
    obtain ⟨k, hk, _, done, hdone⟩ := handled_of_handling h.handle hhandling
    refine ⟨k, hk, ?_⟩
    rw [hdone, List.length_append, List.length_singleton]
    exact Nat.lt_succ_self _
  cases hservice : (r.state n).core.service with
  | handling req => exact hmore hservice
  | returned => exact absurd hservice (h.alive hrun n).service
  | waiting =>
    -- what is accepted, and neither handled nor in hand, is in the queue
    have htaken := (addressed_of_run (hrun.append (r.run n))).taken
    rw [hservice] at htaken
    have hqueue : (r.state n).core.channel.queue ≠ [] := by
      intro hempty
      rw [Channel.accepted, htaken, hempty] at hless
      simp [Shutdown.ServicePc.inHand] at hless
    obtain ⟨m, hm, hlabel⟩ := exists_recv h hrun hqueue
    have hs := r.steps m
    rw [hlabel] at hs
    obtain ⟨⟨req, hhandling⟩, hsame, _⟩ := room_of_recv hs
    obtain ⟨k, hk, hlt⟩ := hmore hhandling
    have hgrown : (r.state n).core.handled <+: (r.state m).core.handled :=
      r.grows (fun _ _ _ hs => handled_step hs) hm
    rw [hsame] at hlt
    exact ⟨k, hm.trans ((Nat.le_succ m).trans hk), hgrown.length_le.trans_lt hlt⟩

/-- **Everything that is accepted is handled in the end.** -/
theorem handled_reaches (h : Working r) (hrun : Runs c d ls (r.state 0)) {k : Nat}
    (hk : k ≤ (r.state n).core.channel.accepted.length) :
    ∃ m, n ≤ m ∧ k ≤ (r.state m).core.handled.length := by
  -- on how many are left
  obtain ⟨gap, hgap⟩ : ∃ gap, k ≤ (r.state n).core.handled.length + gap := ⟨k, Nat.le_add_left k _⟩
  induction gap generalizing n with
  | zero => exact ⟨n, Nat.le_refl n, hgap⟩
  | succ gap ih =>
    by_cases hdone : k ≤ (r.state n).core.handled.length
    · exact ⟨n, Nat.le_refl n, hdone⟩
    · obtain ⟨m, hm, hlt⟩ := handled_next (n := n) h hrun (by omega)
      have hgrown : (r.state n).core.channel.accepted <+: (r.state m).core.channel.accepted :=
        r.grows (fun _ _ _ hs => accepted_step hs) hm
      obtain ⟨j, hj, hreached⟩ := ih (n := m) (hk.trans hgrown.length_le) (by omega)
      exact ⟨j, hm.trans hj, hreached⟩

/-- **The engine gets back to its `select!`.** -/
theorem select_reached (h : Working r) (hrun : Runs c d ls (r.state 0))
    (hpanic : ∀ m, (r.state m).core.pc ≠ .panicked) (n : Nat) :
    ∃ m, n ≤ m ∧ (r.state m).Selects := by
  by_contra hnever
  have hbusy : ∀ k, n ≤ k → ¬ (r.state k).Selects := fun k hk hselects =>
    hnever ⟨k, hk, hselects⟩
  obtain ⟨m, hm, hquiet⟩ := exists_quiet h.engine hbusy
  -- only a full channel can stop a busy engine, and there is room at `k`
  obtain ⟨k, hk, hroom⟩ := room_often h hrun (max n m)
  have hnk := (Nat.le_max_left n m).trans hk
  refine hquiet k ((Nat.le_max_right n m).trans hk)
    (enabled_engine (hbusy k hnk) (fun _ => hroom) fun hgone => ?_)
  have hengine := (h.alive hrun k).engine.2
  have hsafe := hpanic k
  obtain ⟨_, hpc⟩ := hgone
  generalize (r.state k).core.pc = pc at hpc hengine hsafe
  cases pc with
  | returned => exact hengine rfl
  | panicked => exact hsafe rfl
  | _ => cases hpc

theorem enabled_receive (hselects : p.Selects) (hbehind : p.feed.next < p.feed.sent.length) :
    Enabled (Step c) IsReceive p := by
  obtain ⟨hfree, hpc, hlive⟩ := hselects
  rcases Broadcast.exists_recv_or_lag hbehind with ⟨⟨update, feed⟩, hrecv⟩ | ⟨⟨k, feed⟩, hlag⟩
  · let env : TickEnv := ⟨fun _ => 0, fun _ => 0, fun _ => 0, fun _ => true, fun _ => true⟩
    obtain ⟨s, hs⟩ : ∃ s, engineStep c.crates c.alert p.core (.tick update env) = some s := by
      simp [engineStep, Shutdown.branch, hpc, hlive]
    exact .of_step (.tick hfree hrecv hs) trivial
  · obtain ⟨s, hs⟩ : ∃ s, engineStep c.crates c.alert p.core .lagged = some s := by
      simp [engineStep, Shutdown.branch, hpc, hlive]
    exact .of_step (.lagged hfree hlag hs) trivial

/-- **The engine gets to every update.** -/
theorem next_reaches (h : Working r) (hrun : Runs c d ls (r.state 0))
    (hpanic : ∀ m, (r.state m).core.pc ≠ .panicked) :
    ∃ m, n ≤ m ∧ (r.state n).feed.sent.length ≤ (r.state m).feed.next := by
  by_contra hnever
  have hbehind : ∀ m, n ≤ m → (r.state m).feed.next < (r.state n).feed.sent.length := by
    intro m hm
    by_contra hge
    exact hnever ⟨m, hm, Nat.le_of_not_lt hge⟩
  -- each update brings it nearer to the end of what was sent by now
  have hle : ∀ p l p', p.feed.next < (r.state n).feed.sent.length → Step c p l p' →
      (r.state n).feed.sent.length - p'.feed.next ≤ (r.state n).feed.sent.length - p.feed.next :=
    fun _ _ _ _ hs => Nat.sub_le_sub_left (next_step hs) _
  have hlt : ∀ p l p', p.feed.next < (r.state n).feed.sent.length → IsReceive l → Step c p l p' →
      (r.state n).feed.sent.length - p'.feed.next < (r.state n).feed.sent.length - p.feed.next := by
    intro p l p' hp hl hs
    have hnext := next_receive hl hs
    omega
  obtain ⟨m, hm, hquiet⟩ := h.receive.exhausts hbehind hle hlt
  obtain ⟨k, hk, hselects⟩ := select_reached h hrun hpanic m
  have hgrown : (r.state n).feed.sent <+: (r.state k).feed.sent :=
    r.grows (fun _ _ _ hs => sent_step hs) (hm.trans hk)
  exact hquiet k hk
    (enabled_receive hselects ((hbehind k (hm.trans hk)).trans_le hgrown.length_le))

end Working

/-- **The process keeps up.** In every fair run in which the token is not cancelled, the engine is
    at its `select!` again and again, every update that is broadcast is received or reported as
    missed in the end, and every request that is accepted is handled in the end, in order. -/
theorem keeps_up (hx : c.crates.UnitRange) (hgood : d.GoodAlerts) {r : Endless (Step c)}
    (hrun : Runs c d ls (r.state 0)) (h : Working r) (n : Nat) :
    (∃ m, n ≤ m ∧ (r.state m).Selects) ∧
    (∃ m, n ≤ m ∧ (r.state n).feed.sent.length ≤
      (r.state m).feed.received.length + (r.state m).feed.missed) ∧
    ∃ m, n ≤ m ∧
      (r.state n).core.channel.accepted <+: (r.state m).core.handled.map Handling.request := by
  have hpanic : ∀ m, (r.state m).core.pc ≠ .panicked := fun m =>
    not_panicked_of_run hx hgood (hrun.append (r.run m))
  refine ⟨select_reached h hrun hpanic n, ?_, ?_⟩
  · obtain ⟨m, hm, hreached⟩ := next_reaches h hrun hpanic (n := n)
    exact ⟨m, hm, hreached.trans_eq (r.state m).feed.count.symm⟩
  · obtain ⟨m, hm, hreached⟩ := handled_reaches h hrun (Nat.le_refl _) (n := n)
    have hgrown : (r.state n).core.channel.accepted <+: (r.state m).core.channel.accepted :=
      r.grows (fun _ _ _ hs => accepted_step hs) hm
    refine ⟨m, hm, List.prefix_of_prefix_length_le hgrown ?_ ?_⟩
    · rw [Channel.accepted, (addressed_of_run (hrun.append (r.run m))).taken, List.append_assoc]
      exact List.prefix_append _ _
    · rw [List.length_map]
      exact hreached

/-! ## A sample

The engine ticks on the frame of the sample, the service handles the request, and after that
nothing happens but that the engine writes its prices again and again. -/

/-- Nothing to do for the service, and nothing to receive for the engine. -/
structure Idle (p : Process) : Prop where
  service : p.core.service = .waiting
  queue : p.core.channel.queue = []
  feed : p.feed.next = p.feed.sent.length

theorem Idle.quiet (h : Idle p) (hs : Step c p l p') :
    ¬ IsReceive l ∧ l ≠ .service .recv ∧ ¬ IsHandle l := by
  -- nothing is left on the feed, so there is no update to receive and none to miss
  have hnext : ¬ IsReceive l := by
    intro hl
    have hlt := next_receive hl hs
    have hbound := p'.feed.bound
    cases hs with
    | tick _ hrecv =>
      dsimp only at hlt hbound
      rw [(Broadcast.recv_eq_some hrecv).1, ← h.feed] at hbound
      exact absurd hlt (Nat.not_lt_of_le hbound)
    | lagged _ hlag =>
      dsimp only at hlt hbound
      rw [(Broadcast.lag_eq_some hlag).1, ← h.feed] at hbound
      exact absurd hlt (Nat.not_lt_of_le hbound)
    | _ => exact hl.elim
  refine ⟨hnext, ?_, ?_⟩
  · rintro rfl
    cases hs with
    | service hstep =>
      cases serviceStep_cases hstep with
      | takes _ hrecv =>
        have hqueue := (Channel.recv_eq_some hrecv).2.2.2
        rw [h.queue] at hqueue
        cases hqueue
  · rintro ⟨env, rfl⟩
    cases hs with
    | service hstep =>
      cases serviceStep_cases hstep with
      | handles hhandling =>
        rw [h.service] at hhandling
        cases hhandling

/-- A run that goes on with an idle process, and an engine at work, is fair. -/
theorem working_of_idle {r : Endless (Step c)} {n : Nat}
    (hidle : ∀ m, n ≤ m → Idle (r.state m)) (hengine : ∀ m, n ≤ m → IsEngine (r.label m))
    (hlive : ∀ m, n ≤ m → (r.state m).core.cancelled = false) : Working r := by
  have hnever : ∀ {A : ProcessLabel → Prop},
      (∀ {p l p'}, Idle p → Step c p l p' → ¬ A l) → r.Fair A := by
    intro A hA
    refine Endless.Fair.of_disabled (n := n) fun m hm henabled => ?_
    obtain ⟨l, p', hl, hs⟩ := henabled
    exact hA (hidle m hm) hs hl
  refine ⟨fun m => ?_, fun _ k => ?_, hnever fun h hs => (h.quiet hs).1,
    hnever fun h hs => (h.quiet hs).2.1, hnever fun h hs => (h.quiet hs).2.2⟩
  · refine Bool.eq_false_iff.mpr fun hcancelled => ?_
    have hlater : (r.state (max n m)).core.cancelled = true :=
      r.inv (I := fun p => p.core.cancelled = true) (fun _ _ _ h hs => cancelled_step h hs)
        (Nat.le_max_right n m) hcancelled
    rw [hlive _ (Nat.le_max_left n m)] at hlater
    cases hlater
  · exact ⟨max n k, Nat.le_max_right n k, hengine _ (Nat.le_max_left n k)⟩

/-- A flush of nothing. -/
def emptyFlush : FlushEnv := ⟨[], fun _ => 0, fun _ => true⟩

theorem step_endFlush (h : p.Selects) :
    Step c { p with phase := .flushing emptyFlush [] } .endFlush p := by
  obtain ⟨monitor, feed, core, phase⟩ := p
  obtain ⟨rfl, hpc, -⟩ := h
  obtain ⟨engine, pc⟩ := core
  obtain rfl : pc = .select := hpc
  exact .endFlush rfl

/-- A run that ends with an idle process goes on for ever. -/
theorem exists_working (hrun : Steps (Step c) p ls p') (hidle : Idle p') (hselects : p'.Selects) :
    ∃ r : Endless (Step c), r.state 0 = p ∧ Working r ∧
      ∀ (n : Nat) l, ls[n]? = some l → r.label n = l := by
  have hbegin : Step c p' (.beginFlush emptyFlush)
      { p' with phase := .flushing emptyFlush [] } := .beginFlush (.inr hselects)
  have hend : Step c { p' with phase := .flushing emptyFlush [] } .endFlush p' :=
    step_endFlush hselects
  obtain ⟨r, hstart, hstate, hlabel, hfirst⟩ :=
    Endless.exists_append (Endless.alternate hbegin hend) hrun
  have hlater : ∀ m, ls.length ≤ m → (r.state m = p' ∨
      r.state m = { p' with phase := .flushing emptyFlush [] }) ∧
      (r.label m = .beginFlush emptyFlush ∨ r.label m = .endFlush) := by
    intro m hm
    rw [← Nat.add_sub_cancel' hm, hstate, hlabel]
    exact ⟨Endless.state_alternate hbegin hend _, Endless.label_alternate hbegin hend _⟩
  refine ⟨r, hstart, working_of_idle (n := ls.length) (fun m hm => ?_) (fun m hm => ?_)
    (fun m hm => ?_), hfirst⟩
  · rcases (hlater m hm).1 with heq | heq <;> rw [heq]
    · exact hidle
    · exact ⟨hidle.service, hidle.queue, hidle.feed⟩
  · rcases (hlater m hm).2 with heq | heq <;> rw [heq] <;> trivial
  · rcases (hlater m hm).1 with heq | heq <;> rw [heq] <;> exact hselects.2.2

/-- The check of the two. -/
def idles (p : Process) : Bool :=
  match p.phase, p.core.pc, p.core.service with
  | .free, .select, .waiting =>
      p.core.channel.queue.isEmpty && !p.core.cancelled &&
        decide (p.feed.next = p.feed.sent.length)
  | _, _, _ => false

theorem idles_spec (h : p.idles = true) : Idle p ∧ p.Selects := by
  unfold idles at h
  split at h
  · rename_i hfree hpc hwaits
    simp only [Bool.and_eq_true, decide_eq_true_eq, List.isEmpty_iff, Bool.not_eq_true'] at h
    obtain ⟨⟨hqueue, hlive⟩, hfeed⟩ := h
    exact ⟨⟨hwaits, hqueue, hfeed⟩, hfree, hpc, hlive⟩
  · cases h

/-- The sample up to the tick, and from the tick on. -/
def connectSchedule : List Turn := alarmSchedule.take 9

def answerSchedule : List Turn := alarmSchedule.drop 10 ++ [.engine .tryRule]

/-- The alerts whose rules could fire now. -/
def couldFire (c : Setup) (p : Process) (update : PriceUpdate) (env : TickEnv) : List Int :=
  ((p.core.engine.rulesOf update.tokenId).filter (Could c.alert p.core.engine update env)).map
    AlertRule.alertId

theorem take_tick {env : TickEnv} (h : take c p (.tick env) = some (l, p')) :
    ∃ update, l = .tick update env := by
  unfold take at h
  dsimp only at h
  split at h
  · obtain ⟨r, _, h⟩ := Option.bind_eq_some_iff.mp h
    obtain ⟨s, _, heq⟩ := Option.map_eq_some_iff.mp h
    cases heq
    exact ⟨_, rfl⟩
  · cases h

theorem working_alarm : ∃ (ls : List ProcessLabel) (r : Endless (Step sampleSetup)) (update : _),
    Runs sampleSetup Db.sampleDb ls (r.state 0) ∧ Working r ∧
    r.label 0 = .tick update calmTick ∧
    couldFire sampleSetup (r.state 0) update calmTick = [1] := by
  -- the schedule is played once by the kernel; what is asked of the run is read off the answers
  have hcheck : ((play sampleSetup connectSchedule (.start sampleSetup Db.sampleDb)).bind fun p =>
      (take sampleSetup p (.tick calmTick)).bind fun s =>
        (play sampleSetup answerSchedule s.2).map fun q =>
          (s.1.ticked.map fun update => couldFire sampleSetup p update calmTick, q.idles))
      = some (some [1], true) := by
    decide +kernel
  obtain ⟨p, hp, hcheck⟩ := Option.bind_eq_some_iff.mp hcheck
  obtain ⟨⟨l, p'⟩, hl, hcheck⟩ := Option.bind_eq_some_iff.mp hcheck
  obtain ⟨q, hq, hcheck⟩ := Option.map_eq_some_iff.mp hcheck
  obtain ⟨hcould, hidles⟩ := Prod.mk.inj hcheck
  obtain ⟨update, hticked, hcould⟩ := Option.map_eq_some_iff.mp hcould
  obtain ⟨ls, hrun⟩ := play_run hp
  obtain ⟨ls', hanswer⟩ := play_run hq
  obtain ⟨hidle, hselects⟩ := idles_spec hidles
  have htick : l = .tick update calmTick := by
    obtain ⟨u, rfl⟩ := take_tick hl
    exact congrArg (ProcessLabel.tick · calmTick) (Option.some.inj hticked)
  obtain ⟨r, hstart, hworking, hfirst⟩ :=
    exists_working (hanswer.cons (take_step hl)) hidle hselects
  refine ⟨ls, r, update, ?_, hworking, ?_, ?_⟩
  · rw [hstart]
    exact hrun
  · rw [hfirst 0 l rfl, htick]
  · rw [hstart]
    exact hcould

theorem keeps_up_alarm : ∃ (ls : List ProcessLabel) (r : Endless (Step sampleSetup)),
    Runs sampleSetup Db.sampleDb ls (r.state 0) ∧ Working r ∧ ∀ n,
    (∃ m, n ≤ m ∧ (r.state m).Selects) ∧
    (∃ m, n ≤ m ∧ (r.state n).feed.sent.length ≤
      (r.state m).feed.received.length + (r.state m).feed.missed) ∧
    ∃ m, n ≤ m ∧
      (r.state n).core.channel.accepted <+: (r.state m).core.handled.map Handling.request := by
  obtain ⟨ls, r, _, hrun, hworking, _⟩ := working_alarm
  exact ⟨ls, r, hrun, hworking, fun n =>
    keeps_up Crates.reference_unitRange goodAlerts_sampleDb hrun hworking n⟩

end Process

end PolyNotifier
