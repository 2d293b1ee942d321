import PolyNotifier.Monitor.Aggregator
import PolyNotifier.Monitor.Manager

/-!
# The monitor service

`MonitorService::run` keeps one connection manager running on the tokens the database names. It
replaces the manager when the tokens change and when its task has ended, and stops it when the
service is cancelled.

`Monitor.step` is the service as a machine, with the managers it has spawned: `current` is the one
whose handle and token it holds, `past` are the ones it has dropped. They all go on by themselves
while the service waits. `Monitor.Inv` says at each place of the code what is known of them, and
`one_session` is what follows: a manager is dropped only when it can publish nothing any more.
-/

namespace PolyNotifier

open Lib (Steps)

/-- Where `MonitorService::run` is. `fetch_token_ids_with_retry` is called from two places, before
    the loop and after the connection task has ended; `restart` remembers which one it goes back
    to. -/
inductive MonitorPc where
  /-- `fetch_token_ids_with_retry`, before a read. `restart`: the connection task had ended. -/
  | fetching (restart : Bool)
  /-- After a read that failed. -/
  | retrying (restart : Bool)
  /-- `fetch_token_ids_with_retry` has returned. -/
  | fetched (restart : Bool) (ids : Finset String)
  /-- `spawn_connection` for `current_ids`. -/
  | spawning
  /-- The head of the loop. -/
  | select
  | refreshing
  /-- The tokens have changed: the old task is awaited. -/
  | stopping (newIds : Finset String)
  /-- Cancelled: the task is awaited. -/
  | shutdown
  | returned

/-- The service with all the managers it has ever spawned. A manager is a task of its own: it does
    not stop when the service drops its handle, so a dropped one is kept in `past`, where it goes
    on by its own steps. That it then has nothing more to say is a theorem and not a matter of
    definition. -/
structure Monitor where
  pc : MonitorPc
  currentIds : Finset String
  cancelled : Bool
  past : List Manager
  current : Option Manager
  /-- What the successful calls of `get_active_token_ids` returned, in order. -/
  reads : List (Finset String)

/-- What a step of the service is, or of one of its managers. A query carries the database it has
    found, `none` if it failed, so that a run is any pattern of answered and failed queries over
    any changes of the database. -/
inductive MonitorLabel where
  | cancel
  /-- `get_active_token_ids`, on the database it finds; `none`: the query failed. -/
  | read (db : Option Db)
  | retry
  | fetchCancelled
  | check
  /-- `spawn_connection`: the tokens in the order of the set, and the database for the map with the
      order of its rows. -/
  | spawn (tokenIds : List String) (order : List Nat) (db : Option Db)
  | shutdown
  | exited
  | tick
  | joined
  | current (l : ManagerLabel)
  | past (i : Nat) (l : ManagerLabel)

/-- The manager can publish nothing any more. -/
def Manager.Gone (m : Manager) : Prop := m.pc.gone = true

instance (m : Manager) : Decidable m.Gone := inferInstanceAs (Decidable (_ = true))

namespace Monitor

/-- `MonitorService::run`, at its first read. -/
def start : Monitor := ⟨.fetching false, ∅, false, [], none, []⟩

variable (x : Crates) (cfg : ReconnectConfig)

/-- `conn_cancel.cancel()` -/
def stopCurrent (s : Monitor) : Option Manager :=
  s.current.map fun m => { m with cancelled := true }

/-- The task behind `conn_handle` is over. -/
def CurrentGone (s : Monitor) : Prop := ∀ m, s.current = some m → m.Gone

instance (s : Monitor) : Decidable s.CurrentGone :=
  match h : s.current with
  | none => .isTrue fun m hm => by rw [h] at hm; cases hm
  | some m =>
      decidable_of_iff m.Gone
        ⟨fun hg m' hm' => by rw [h] at hm'; cases hm'; exact hg, fun hall => hall m h⟩

/-- One step of `MonitorService::run`, or of a manager. The service has three ways out of its
    `select!`, the cancellation, the end of the connection task and the refresh tick, in this order
    because the `select!` is `biased`: each branch asks that those before it are not ready. Both
    queries are made between two `await`s of their own, so the set of tokens is read in one step
    and the map for the session in another, with anything in between. -/
def step (s : Monitor) : MonitorLabel → Option Monitor
  | .cancel => some { s with cancelled := true }
  | .read db =>
      let result := db.bind (SubscriptionAggregator.getActiveTokenIds x)
      match s.pc with
      | .fetching restart =>
          match result with
          | some ids => some { s with pc := .fetched restart ids, reads := s.reads ++ [ids] }
          | none => some { s with pc := .retrying restart }
      | .refreshing =>
          match result with
          | some ids =>
              if ids = s.currentIds then some { s with pc := .select, reads := s.reads ++ [ids] }
              else
                some { s with
                  pc := .stopping ids, current := s.stopCurrent, reads := s.reads ++ [ids] }
          | none => some { s with pc := .select }
      | _ => none
  | .retry =>
      match s.pc with
      | .retrying restart => some { s with pc := .fetching restart }
      | _ => none
  | .fetchCancelled =>
      match s.pc with
      | .retrying restart => if s.cancelled then some { s with pc := .fetched restart ∅ } else none
      | _ => none
  | .check =>
      match s.pc with
      | .fetched _ ids =>
          if s.cancelled then some { s with pc := .returned }
          else some { s with pc := .spawning, currentIds := ids }
      | _ => none
  | .spawn tokenIds order db =>
      match s.pc with
      | .spawning =>
          if tokenIds.Nodup ∧ tokenIds.toFinset = s.currentIds then
            let map := (db.bind fun d =>
              SubscriptionAggregator.getTokenToCondition x d order).getD ∅
            some { s with
              pc := .select, past := s.past ++ s.current.toList,
              current := some (.new tokenIds map) }
          else none
      | _ => none
  | .shutdown =>
      match s.pc with
      | .select =>
          if s.cancelled then some { s with pc := .shutdown, current := s.stopCurrent } else none
      | _ => none
  | .exited =>
      match s.pc with
      | .select =>
          if !s.cancelled ∧ s.CurrentGone then some { s with pc := .fetching true } else none
      | _ => none
  | .tick =>
      match s.pc with
      | .select =>
          if !s.cancelled ∧ ¬ s.CurrentGone then some { s with pc := .refreshing } else none
      | _ => none
  | .joined =>
      match s.pc with
      | .stopping newIds =>
          if s.CurrentGone then some { s with pc := .spawning, currentIds := newIds } else none
      | .shutdown => if s.CurrentGone then some { s with pc := .returned } else none
      | _ => none
  | .current l =>
      s.current.bind fun m => (m.step x cfg l).map fun m' => { s with current := some m' }
  | .past i l =>
      s.past[i]?.bind fun m => (m.step x cfg l).map fun m' => { s with past := s.past.set i m' }

def Step (s : Monitor) (l : MonitorLabel) (s' : Monitor) : Prop := s.step x cfg l = some s'

/-- All managers ever spawned, in order. -/
def managers (s : Monitor) : List Manager := s.past ++ s.current.toList

/-- The set the last successful read returned. -/
def lastRead (s : Monitor) : Option (Finset String) := s.reads.getLast?

/-- The current manager runs on the tokens the service believes in, and those were read last. -/
def InStep (s : Monitor) : Prop :=
  (∃ m, s.current = some m ∧ m.tokenIds.toFinset = s.currentIds) ∧
    s.lastRead = some s.currentIds

/-- What is known at each place of the code. This is the heart of the invariant: wherever a manager
    is about to be spawned or the service about to return, the current manager is gone, since every
    way there has awaited its task; and wherever the service waits, the manager runs on the set
    that was read last. -/
def AtPc (s : Monitor) : Prop :=
  match s.pc with
  | .fetching _ => s.CurrentGone
  | .retrying _ => s.CurrentGone
  | .fetched _ ids => s.CurrentGone ∧ (s.cancelled = true ∨ s.lastRead = some ids)
  | .spawning => s.CurrentGone ∧ s.lastRead = some s.currentIds
  | .select => s.InStep
  | .refreshing => s.InStep
  | .stopping newIds => s.lastRead = some newIds
  | .shutdown => True
  | .returned => s.CurrentGone

/-- **The invariant.** The clause on the past is what `one_session` needs, and `atPc` is what
    carries it: a manager goes to the past where the next one is spawned, and there it is gone
    already. -/
structure Inv (s : Monitor) : Prop where
  /-- A manager that was dropped is gone. -/
  past : ∀ m ∈ s.past, m.Gone
  /-- Every manager was started on a set that was read. -/
  served : ∀ m ∈ s.managers, m.tokenIds.toFinset ∈ s.reads
  atPc : s.AtPc

variable {x cfg} {s s' : Monitor} {l : MonitorLabel}

theorem inv_start : Inv start where
  past m hm := by cases hm
  served m hm := by cases hm
  atPc := by
    intro m hm
    cases hm

/-! ## What a step does -/

variable (x cfg) in
/-- The steps of the service, each with the place of the code it is taken at. The three ways a
    refresh can end have a case each (`keeps`, `changes`, `skips`), because only one of them
    replaces the session. -/
inductive Move (s : Monitor) : MonitorLabel → Monitor → Prop
  | cancels : Move s .cancel { s with cancelled := true }
  | reads {restart : Bool} {db : Option Db} {ids : Finset String} (pc : s.pc = .fetching restart)
      (answer : db.bind (SubscriptionAggregator.getActiveTokenIds x) = some ids) :
      Move s (.read db) { s with pc := .fetched restart ids, reads := s.reads ++ [ids] }
  | fails {restart : Bool} {db : Option Db} (pc : s.pc = .fetching restart)
      (answer : db.bind (SubscriptionAggregator.getActiveTokenIds x) = none) :
      Move s (.read db) { s with pc := .retrying restart }
  | keeps {db : Option Db} {ids : Finset String} (pc : s.pc = .refreshing)
      (answer : db.bind (SubscriptionAggregator.getActiveTokenIds x) = some ids)
      (same : ids = s.currentIds) :
      Move s (.read db) { s with pc := .select, reads := s.reads ++ [ids] }
  | changes {db : Option Db} {ids : Finset String} (pc : s.pc = .refreshing)
      (answer : db.bind (SubscriptionAggregator.getActiveTokenIds x) = some ids)
      (changed : ids ≠ s.currentIds) :
      Move s (.read db) { s with
        pc := .stopping ids, current := s.stopCurrent, reads := s.reads ++ [ids] }
  | skips {db : Option Db} (pc : s.pc = .refreshing)
      (answer : db.bind (SubscriptionAggregator.getActiveTokenIds x) = none) :
      Move s (.read db) { s with pc := .select }
  | retries {restart : Bool} (pc : s.pc = .retrying restart) :
      Move s .retry { s with pc := .fetching restart }
  | givesUp {restart : Bool} (pc : s.pc = .retrying restart) (cancelled : s.cancelled = true) :
      Move s .fetchCancelled { s with pc := .fetched restart ∅ }
  | returns {restart : Bool} {ids : Finset String} (pc : s.pc = .fetched restart ids)
      (cancelled : s.cancelled = true) : Move s .check { s with pc := .returned }
  | accepts {restart : Bool} {ids : Finset String} (pc : s.pc = .fetched restart ids)
      (running : ¬ s.cancelled = true) :
      Move s .check { s with pc := .spawning, currentIds := ids }
  | spawns {tokenIds : List String} {order : List Nat} {db : Option Db} (pc : s.pc = .spawning)
      (nodup : tokenIds.Nodup) (ids : tokenIds.toFinset = s.currentIds) :
      Move s (.spawn tokenIds order db) { s with
        pc := .select, past := s.past ++ s.current.toList,
        current := some (.new tokenIds
          ((db.bind fun d => SubscriptionAggregator.getTokenToCondition x d order).getD ∅)) }
  | shuts (pc : s.pc = .select) (cancelled : s.cancelled = true) :
      Move s .shutdown { s with pc := .shutdown, current := s.stopCurrent }
  | ends (pc : s.pc = .select) (running : !s.cancelled) (gone : s.CurrentGone) :
      Move s .exited { s with pc := .fetching true }
  | ticks (pc : s.pc = .select) (running : !s.cancelled) (live : ¬ s.CurrentGone) :
      Move s .tick { s with pc := .refreshing }
  | restarts {newIds : Finset String} (pc : s.pc = .stopping newIds) (gone : s.CurrentGone) :
      Move s .joined { s with pc := .spawning, currentIds := newIds }
  | stops (pc : s.pc = .shutdown) (gone : s.CurrentGone) : Move s .joined { s with pc := .returned }
  | current {m m' : Manager} {l : ManagerLabel} (current : s.current = some m)
      (step : Manager.Step x cfg m l m') : Move s (.current l) { s with current := some m' }
  | past {i : Nat} {m m' : Manager} {l : ManagerLabel} (past : s.past[i]? = some m)
      (step : Manager.Step x cfg m l m') : Move s (.past i l) { s with past := s.past.set i m' }

/-- **Every step is one of these.** -/
theorem step_cases (h : Step x cfg s l s') : Move x cfg s l s' := by
  unfold Step step at h
  cases l with
  | cancel =>
    cases h
    exact .cancels
  -- the same query is made in two places: before the first session and at every tick
  | read db =>
    dsimp only at h
    split at h
    · rename_i hpc
      split at h <;> cases h
      · exact .reads hpc ‹_›
      · exact .fails hpc ‹_›
    · rename_i hpc
      split at h
      · split at h <;> cases h
        · exact .keeps hpc ‹_› ‹_›
        · exact .changes hpc ‹_› ‹_›
      · cases h
        exact .skips hpc ‹_›
    · cases h
  | retry =>
    dsimp only at h
    split at h <;> cases h
    exact .retries ‹_›
  | fetchCancelled =>
    dsimp only at h
    split at h
    · split at h <;> cases h
      exact .givesUp ‹_› ‹_›
    · cases h
  | check =>
    dsimp only at h
    split at h
    · split at h <;> cases h
      · exact .returns ‹_› ‹_›
      · exact .accepts ‹_› ‹_›
    · cases h
  -- the tokens of the spawn are those the loop holds, listed in the order of the set
  | spawn tokenIds order db =>
    dsimp only at h
    split at h
    · rename_i hpc
      split at h <;> cases h
      rename_i horder
      exact .spawns hpc horder.1 horder.2
    · cases h
  | shutdown =>
    dsimp only at h
    split at h
    · split at h <;> cases h
      exact .shuts ‹_› ‹_›
    · cases h
  | exited =>
    dsimp only at h
    split at h
    · rename_i hpc
      split at h <;> cases h
      rename_i hgone
      exact .ends hpc hgone.1 hgone.2
    · cases h
  | tick =>
    dsimp only at h
    split at h
    · rename_i hpc
      split at h <;> cases h
      rename_i hlive
      exact .ticks hpc hlive.1 hlive.2
    · cases h
  -- the session that ended is replaced after a change of the tokens, and is the last at shutdown
  | joined =>
    dsimp only at h
    split at h
    · split at h <;> cases h
      exact .restarts ‹_› ‹_›
    · split at h <;> cases h
      exact .stops ‹_› ‹_›
    · cases h
  | current l =>
    obtain ⟨m, hm, h⟩ := Option.bind_eq_some_iff.mp h
    obtain ⟨m', hm', rfl⟩ := Option.map_eq_some_iff.mp h
    exact .current hm hm'
  | past i l =>
    obtain ⟨m, hm, h⟩ := Option.bind_eq_some_iff.mp h
    obtain ⟨m', hm', rfl⟩ := Option.map_eq_some_iff.mp h
    exact .past hm hm'

/-! ## The managers go on -/

theorem gone_step {m m' : Manager} {l : ManagerLabel} (h : Manager.Step x cfg m l m')
    (hg : m.Gone) : m'.Gone := by
  unfold Manager.Gone
  rw [((Manager.step_frame h).gone hg).1]
  exact hg

/-- A step of the current manager keeps what is known of the service. -/
theorem inv_current {m m' : Manager} {l : ManagerLabel} (h : Inv s) (hm : s.current = some m)
    (hs : Manager.Step x cfg m l m') : Inv { s with current := some m' } := by
  have hframe := Manager.step_frame hs
  have hgone : s.CurrentGone → CurrentGone { s with current := some m' } := by
    intro hg m₁ hm₁
    cases hm₁
    exact gone_step hs (hg m hm)
  have hin : s.InStep → InStep { s with current := some m' } := by
    rintro ⟨⟨m₁, hm₁, hids⟩, hread⟩
    obtain rfl : m = m₁ := Option.some.inj (hm.symm.trans hm₁)
    exact ⟨⟨m', rfl, by rw [hframe.tokenIds]; exact hids⟩, hread⟩
  refine ⟨h.past, fun m₁ hm₁ => ?_, ?_⟩
  · rcases List.mem_append.mp hm₁ with hp | hc
    · exact h.served m₁ (List.mem_append_left _ hp)
    · obtain rfl : m₁ = m' := by simpa using hc
      rw [hframe.tokenIds]
      exact h.served m (List.mem_append_right _ (by rw [hm]; simp))
  -- what is known at each place speaks of the current manager only through being gone, or its
  -- ids
  · have hat := h.atPc
    unfold AtPc at hat ⊢
    dsimp only
    cases hpc : s.pc with
    | fetching restart => rw [hpc] at hat; exact hgone hat
    | retrying restart => rw [hpc] at hat; exact hgone hat
    | fetched restart ids => rw [hpc] at hat; exact ⟨hgone hat.1, hat.2⟩
    | spawning => rw [hpc] at hat; exact ⟨hgone hat.1, hat.2⟩
    | select => rw [hpc] at hat; exact hin hat
    | refreshing => rw [hpc] at hat; exact hin hat
    | stopping newIds => rw [hpc] at hat; exact hat
    | shutdown => trivial
    | returned => rw [hpc] at hat; exact hgone hat

theorem inv_past {i : Nat} {m m' : Manager} {l : ManagerLabel} (h : Inv s)
    (hm : s.past[i]? = some m) (hs : Manager.Step x cfg m l m') :
    Inv { s with past := s.past.set i m' } := by
  have hmem : m ∈ s.past := List.mem_of_getElem? hm
  refine ⟨fun m₁ hm₁ => ?_, fun m₁ hm₁ => ?_, h.atPc⟩
  · rcases List.mem_or_eq_of_mem_set hm₁ with hp | rfl
    · exact h.past m₁ hp
    · exact gone_step hs (h.past m hmem)
  · rcases List.mem_append.mp hm₁ with hp | hc
    · rcases List.mem_or_eq_of_mem_set hp with hp | rfl
      · exact h.served m₁ (List.mem_append_left _ hp)
      · rw [(Manager.step_frame hs).tokenIds]
        exact h.served m (List.mem_append_left _ hmem)
    · exact h.served m₁ (List.mem_append_right _ hc)

/-! ## The service goes on -/

/-- A step that leaves the managers alone and forgets no read. -/
theorem Inv.same (h : Inv s) (hpast : s'.past = s.past) (hcurrent : s'.current = s.current)
    (hreads : s.reads <+: s'.reads) (hat : s'.AtPc) : Inv s' where
  past := by
    rw [hpast]
    exact h.past
  served m hm := by
    rw [managers, hpast, hcurrent] at hm
    exact hreads.subset (h.served m hm)
  atPc := hat

theorem Inv.stop (h : Inv s) (hpast : s'.past = s.past) (hcurrent : s'.current = s.stopCurrent)
    (hreads : s.reads <+: s'.reads) (hat : s'.AtPc) : Inv s' where
  past := by
    rw [hpast]
    exact h.past
  served m hm := by
    rw [managers, hpast, hcurrent, stopCurrent] at hm
    rcases List.mem_append.mp hm with hp | hc
    · exact hreads.subset (h.served m (List.mem_append_left _ hp))
    · obtain ⟨m₀, hm₀, rfl⟩ := Option.map_eq_some_iff.mp (Option.mem_toList.mp hc)
      exact hreads.subset (h.served m₀
        (List.mem_append_right _ (Option.mem_toList.mpr hm₀)))
  atPc := hat

/-- The cancellation may come at any place of the code. -/
theorem inv_cancel (h : Inv s) : Inv { s with cancelled := true } := by
  have hat := h.atPc
  unfold AtPc at hat
  refine h.same rfl rfl (List.prefix_refl _) ?_
  unfold AtPc
  dsimp only
  cases hpc : s.pc with
  | fetched restart ids =>
    rw [hpc] at hat
    exact ⟨hat.1, .inl rfl⟩
  | _ => rw [hpc] at hat; exact hat

/-- The manager is started on the set read last, and the one it replaces is gone. -/
theorem inv_spawn {tokenIds : List String} {map : Finmap fun _ : String => String} (h : Inv s)
    (hat : s.CurrentGone ∧ s.lastRead = some s.currentIds)
    (hids : tokenIds.toFinset = s.currentIds) :
    Inv { s with
      pc := .select, past := s.past ++ s.current.toList, current := some (.new tokenIds map) } := by
  refine ⟨fun m hm => ?_, fun m hm => ?_, ⟨⟨_, rfl, hids⟩, hat.2⟩⟩
  · rcases List.mem_append.mp hm with hp | hc
    · exact h.past m hp
    · exact hat.1 m (Option.mem_toList.mp hc)
  · rcases List.mem_append.mp hm with hp | hc
    · exact h.served m hp
    · obtain rfl : m = _ := by simpa using hc
      show tokenIds.toFinset ∈ s.reads
      rw [hids]
      exact List.mem_of_getLast? hat.2

/-- **Every step keeps the invariant.** -/
theorem inv_step (h : Inv s) (hs : Step x cfg s l s') : Inv s' := by
  have hat := h.atPc
  unfold AtPc at hat
  cases step_cases hs with
  | cancels => exact inv_cancel h
  | reads hpc _ =>
    rw [hpc] at hat
    exact h.same rfl rfl (List.prefix_append _ _) ⟨hat, .inr List.getLast?_concat⟩
  | fails hpc _ =>
    rw [hpc] at hat
    exact h.same rfl rfl (List.prefix_refl _) hat
  | keeps hpc _ hsame =>
    rw [hpc] at hat
    refine h.same rfl rfl (List.prefix_append _ _) ⟨hat.1, ?_⟩
    rw [lastRead, List.getLast?_concat, hsame]
  | changes _ _ _ => exact h.stop rfl rfl (List.prefix_append _ _) List.getLast?_concat
  | skips hpc _ =>
    rw [hpc] at hat
    exact h.same rfl rfl (List.prefix_refl _) hat
  | retries hpc =>
    rw [hpc] at hat
    exact h.same rfl rfl (List.prefix_refl _) hat
  | givesUp hpc hcancelled =>
    -- the empty set is returned, and the token is cancelled for good
    rw [hpc] at hat
    exact h.same rfl rfl (List.prefix_refl _) ⟨hat, .inl hcancelled⟩
  | returns hpc _ =>
    rw [hpc] at hat
    exact h.same rfl rfl (List.prefix_refl _) hat.1
  | accepts hpc hrunning =>
    rw [hpc] at hat
    exact h.same rfl rfl (List.prefix_refl _) ⟨hat.1, hat.2.resolve_left hrunning⟩
  | spawns hpc _ hids =>
    rw [hpc] at hat
    exact inv_spawn h hat hids
  | shuts _ _ => exact h.stop rfl rfl (List.prefix_refl _) trivial
  | ends _ _ hgone => exact h.same rfl rfl (List.prefix_refl _) hgone
  | ticks hpc _ _ =>
    rw [hpc] at hat
    exact h.same rfl rfl (List.prefix_refl _) hat
  | restarts hpc hgone =>
    rw [hpc] at hat
    exact h.same rfl rfl (List.prefix_refl _) ⟨hgone, hat⟩
  | stops _ hgone => exact h.same rfl rfl (List.prefix_refl _) hgone
  | current hm hstep => exact inv_current h hm hstep
  | past hm hstep => exact inv_past h hm hstep

theorem inv_of_run {ls : List MonitorLabel} (h : Steps (Step x cfg) start ls s) : Inv s :=
  h.inv inv_start fun _ _ _ hi hs => inv_step hi hs

/-! ## One session -/

theorem Inv.live_le_one (h : Inv s) : (s.managers.filter fun m => ¬ m.Gone).length ≤ 1 := by
  have hpast : s.past.filter (fun m => ¬ m.Gone) = [] := by
    rw [List.filter_eq_nil_iff]
    intro m hm
    simpa using h.past m hm
  rw [managers, List.filter_append, hpast, List.nil_append]
  cases s.current with
  | none => exact Nat.zero_le _
  | some m => exact List.length_filter_le _ _

/-- A manager that publishes nothing leaves the lists of the dropped ones as they are. -/
theorem map_published_set {i : Nat} {m m' : Manager} (hm : s.past[i]? = some m)
    (hsame : m'.published = m.published) :
    (s.past.set i m').map Manager.published = s.past.map Manager.published := by
  rw [List.map_set, hsame]
  refine List.ext_getElem? fun j => ?_
  rw [List.getElem?_set]
  split
  · rename_i hij
    subst hij
    rw [List.getElem?_map, hm, List.length_map, if_pos (List.getElem?_eq_some_iff.mp hm).1]
    rfl
  · rfl

/-- Once the service has returned, nothing changes but the token. -/
theorem published_of_returned {ls : List MonitorLabel} (h : Steps (Step x cfg) s ls s')
    (hinv : Inv s) (hpc : s.pc = .returned) :
    s'.managers.map Manager.published = s.managers.map Manager.published := by
  have hkeep := h.inv (I := fun t => Inv t ∧ t.pc = .returned ∧
      t.managers.map Manager.published = s.managers.map Manager.published)
    ⟨hinv, hpc, rfl⟩ ?_
  · exact hkeep.2.2
  intro a l b ⟨hinva, hpca, hpub⟩ hs
  refine ⟨inv_step hinva hs, ?_⟩
  unfold Step step at hs
  cases l with
  | cancel =>
    cases hs
    exact ⟨hpca, hpub⟩
  | current l =>
    obtain ⟨m, hm, hs⟩ := Option.bind_eq_some_iff.mp hs
    obtain ⟨m', hm', rfl⟩ := Option.map_eq_some_iff.mp hs
    refine ⟨hpca, ?_⟩
    have hgone : a.CurrentGone := by
      have hat := hinva.atPc
      unfold AtPc at hat
      rw [hpca] at hat
      exact hat
    have hsame := ((Manager.step_frame hm').gone (hgone m hm)).2
    rw [← hpub, managers, managers, List.map_append, List.map_append, hm]
    simp only [Option.toList_some, List.map_cons, List.map_nil, hsame]
  -- the managers that are left may still take steps, but none of them publishes
  | past i l =>
    obtain ⟨m, hm, hs⟩ := Option.bind_eq_some_iff.mp hs
    obtain ⟨m', hm', rfl⟩ := Option.map_eq_some_iff.mp hs
    refine ⟨hpca, ?_⟩
    have hsame := ((Manager.step_frame hm').gone (hinva.past m (List.mem_of_getElem? hm))).2
    rw [← hpub, managers, managers, List.map_append, List.map_append,
      map_published_set hm hsame]
  | _ =>
    dsimp only at hs
    rw [hpca] at hs
    cases hs

/-- **At most one session, on the tokens read last.** In every run of the service at most one
    manager can still publish; at the head of the loop the last one runs on `current_ids`, which
    is the last set that was read; every manager was started on a set that was read; and when the
    service has returned, nothing is published any more. -/
theorem one_session {ls : List MonitorLabel} (hrun : Steps (Step x cfg) start ls s) :
    (s.managers.filter fun m => ¬ m.Gone).length ≤ 1 ∧
    (s.pc = .select → ∃ m, s.managers.getLast? = some m ∧
      m.tokenIds.toFinset = s.currentIds ∧ s.lastRead = some s.currentIds) ∧
    (∀ m ∈ s.managers, m.tokenIds.toFinset ∈ s.reads) ∧
    (s.pc = .returned → ∀ ls' s', Steps (Step x cfg) s ls' s' →
      s'.managers.map Manager.published = s.managers.map Manager.published) := by
  have hinv := inv_of_run hrun
  refine ⟨hinv.live_le_one, fun hpc => ?_, hinv.served, fun hpc ls' s' h => ?_⟩
  · have hat := hinv.atPc
    unfold AtPc at hat
    rw [hpc] at hat
    obtain ⟨⟨m, hm, hids⟩, hread⟩ := hat
    refine ⟨m, ?_, hids, hread⟩
    rw [managers, hm]
    exact List.getLast?_concat
  · exact published_of_returned h hinv hpc

/-- The service reads the sample database and starts a session, the connection task ends, and a
    new one is started. -/
def restarted : List MonitorLabel :=
  [.read (some Db.sampleDb), .check, .spawn ["yes", "no"] [] (some Db.sampleDb), .current .panic,
    .exited, .read none, .retry, .read (some Db.sampleDb), .check, .spawn ["no", "yes"] [] none]

theorem one_session_restarted :
    ∃ s, Steps (Step Crates.reference ⟨1, 60⟩) start restarted s ∧
      (s.managers.filter fun m => ¬ m.Gone).length ≤ 1 ∧
      (s.pc = .select → ∃ m, s.managers.getLast? = some m ∧
        m.tokenIds.toFinset = s.currentIds ∧ s.lastRead = some s.currentIds) ∧
      (∀ m ∈ s.managers, m.tokenIds.toFinset ∈ s.reads) ∧
      (s.pc = .returned → ∀ ls' s', Steps (Step Crates.reference ⟨1, 60⟩) s ls' s' →
        s'.managers.map Manager.published = s.managers.map Manager.published) := by
  have hsome : (restarted.foldlM (step Crates.reference ⟨1, 60⟩) start).isSome := by
    decide +kernel
  obtain ⟨s, hs⟩ := Option.isSome_iff_exists.mp hsome
  exact ⟨s, Lib.steps_of_foldlM hs, one_session (Lib.steps_of_foldlM hs)⟩

end Monitor

end PolyNotifier
