import PolyNotifier.Main.Schedule

/-!
# From the frames to the engine

A price takes a long way: a frame of the WebSocket, an event on the queue of a manager, an update
on the price channel, a tick of the engine. The managers come and go, and the engine may be too
slow for the channel. `feed_of_run` says what is left of the order and of the content: the channel
carries what the managers publish, manager after manager, the engine gets a part of it in the same
order, and every update quotes a frame of the run.
-/

namespace PolyNotifier

open Lib (Steps)

/-! ## Lists that have grown -/

section Fresh

variable {α : Type}

/-- What is new in the lists. -/
def fresh (old new : List (List α)) : List α := (old.zip new).flatMap fun p => p.2.drop p.1.length

theorem fresh_append (ls ext : List (List α)) : fresh ls (ls ++ ext) = [] := by
  induction ls with
  | nil => rfl
  | cons l ls ih =>
    unfold fresh at ih ⊢
    simp [ih]

theorem fresh_self (ls : List (List α)) : fresh ls ls = [] := by
  simpa using fresh_append ls []

/-- The last one has grown. -/
theorem fresh_snoc (ls : List (List α)) (l new : List α) :
    fresh (ls ++ [l]) (ls ++ [l ++ new]) = new := by
  have hself := fresh_self ls
  unfold fresh at hself ⊢
  rw [List.zip_append rfl, List.flatMap_append, hself]
  simp

end Fresh

namespace Monitor

variable {x : Crates} {cfg : ReconnectConfig} {s s' : Monitor} {l : MonitorLabel}

theorem broadcast_eq_fresh : s.broadcast s' =
    fresh (s.managers.map Manager.published) (s'.managers.map Manager.published) := by
  unfold broadcast fresh
  rw [List.zip_map, List.flatMap_map]
  rfl

/-- The publications of the managers that are gone do not change, and the current one adds to its
    own. -/
theorem published_step (hinv : s.Inv) (h : Step x cfg s l s') :
    (∃ ext, s'.managers.map Manager.published = s.managers.map Manager.published ++ ext ∧
      ext.flatten = []) ∨
    ∃ past old new, s.managers.map Manager.published = past ++ [old] ∧
      s'.managers.map Manager.published = past ++ [old ++ new] := by
  have hsame : s'.managers.map Manager.published = s.managers.map Manager.published →
      ∃ ext, s'.managers.map Manager.published = s.managers.map Manager.published ++ ext ∧
        ext.flatten = [] := fun heq => ⟨[], by rw [heq, List.append_nil], rfl⟩
  cases step_turn h with
  | same hpast hcurrent =>
    refine .inl (hsame ?_)
    rw [managers, managers, hpast, hcurrent]
  | stops hpast hcurrent =>
    refine .inl (hsame ?_)
    rw [managers, managers, hpast, hcurrent, List.map_append, List.map_append,
      map_published_stopCurrent]
  -- a new manager has published nothing
  | spawns =>
    refine .inl ⟨[[]], ?_, rfl⟩
    rw [managers, List.map_append]
    rfl
  | past hpast hstep =>
    refine .inl (hsame ?_)
    have hgone := hinv.past _ (List.mem_of_getElem? hpast)
    rw [managers, managers, List.map_append, List.map_append,
      map_published_set hpast ((Manager.step_frame hstep).gone hgone).2]
  -- the current manager adds one update, or none
  | @current m m' l hcurrent hstep =>
    have hgrown : ∃ new, m'.published = m.published ++ new := by
      cases Manager.step_cases hstep with
      | @publishes now event update => exact ⟨[update], rfl⟩
      | _ => exact ⟨[], (List.append_nil _).symm⟩
    obtain ⟨new, hnew⟩ := hgrown
    refine .inr ⟨s.past.map Manager.published, m.published, new, ?_, ?_⟩
    · rw [managers, hcurrent, List.map_append]
      rfl
    · rw [managers, List.map_append, ← hnew]
      rfl

/-- **What is broadcast comes after all that was published.** -/
theorem published_broadcast (hinv : s.Inv) (h : Step x cfg s l s') :
    s'.managers.flatMap Manager.published =
      s.managers.flatMap Manager.published ++ s.broadcast s' := by
  rw [List.flatMap_def, List.flatMap_def, broadcast_eq_fresh]
  rcases published_step hinv h with ⟨ext, heq, hext⟩ | ⟨past, old, new, hold, hnew⟩
  · rw [heq, fresh_append, List.flatten_append, hext]
  · rw [hold, hnew, fresh_snoc]
    simp

end Monitor

/-! ## Frames -/

/-- The frame a WebSocket task reads. -/
def ProcessLabel.frame : ProcessLabel → Option String
  | .monitor (.current (.frame text)) => some text
  | .monitor (.past _ (.frame text)) => some text
  | _ => none

/-- The update the engine handles. -/
def ProcessLabel.ticked : ProcessLabel → Option PriceUpdate
  | .tick update _ => some update
  | _ => none

/-- The event is in a frame of the run. -/
def WsEvent.ReadIn (x : Crates) (ls : List ProcessLabel) (event : WsEvent) : Prop :=
  ∃ l ∈ ls, ∃ text, l.frame = some text ∧ event ∈ parseWsMessage x text

/-- A frame of the run quotes the price for the token. -/
def PriceUpdate.QuotedIn (x : Crates) (ls : List ProcessLabel) (u : PriceUpdate) : Prop :=
  ∃ event, WsEvent.ReadIn x ls event ∧ event.quote = some (u.tokenId, u.price)

section

variable {x : Crates} {ls : List ProcessLabel} {l : ProcessLabel}

theorem WsEvent.ReadIn.snoc {event : WsEvent} (h : event.ReadIn x ls) :
    event.ReadIn x (ls ++ [l]) := by
  obtain ⟨l', hl', hrest⟩ := h
  exact ⟨l', List.mem_append_left _ hl', hrest⟩

theorem PriceUpdate.QuotedIn.snoc {u : PriceUpdate} (h : u.QuotedIn x ls) :
    u.QuotedIn x (ls ++ [l]) := by
  obtain ⟨event, hread, hquote⟩ := h
  exact ⟨event, hread.snoc, hquote⟩

theorem quote_of_converted {map : DashMap String String} {now : NaiveDateTime} {event : WsEvent}
    {u : PriceUpdate} (h : wsEventToPriceUpdate map now event = some u) :
    event.quote = some (u.tokenId, u.price) := by
  obtain ⟨⟨assetId, price⟩, hquote, rfl⟩ := Option.map_eq_some_iff.mp h
  exact hquote

/-- The events of a manager after a step of the monitor. -/
theorem held_of_turn {cfg : ReconnectConfig} {s s' : Monitor} {ml : MonitorLabel}
    (h : Monitor.Turn x cfg s ml s') (hread : ∀ m ∈ s.managers, ∀ event ∈ m.held,
      event.ReadIn x ls) :
    ∀ m ∈ s'.managers, ∀ event ∈ m.held, event.ReadIn x (ls ++ [.monitor ml]) := by
  have hsnoc : ∀ m ∈ s.managers, ∀ event ∈ m.held, event.ReadIn x (ls ++ [.monitor ml]) :=
    fun m hm event hevent => (hread m hm event hevent).snoc
  have hframe : ∀ {m m' : Manager} {l : ManagerLabel}, m ∈ s.managers →
      Manager.Step x cfg m l m' → (∀ text, l = .frame text → (ProcessLabel.monitor ml).frame
        = some text) → ∀ event ∈ m'.held, event.ReadIn x (ls ++ [.monitor ml]) := by
    intro m m' l hm hstep hlabel event hevent
    rcases Manager.held_of_step hstep hevent with hold | ⟨text, hl, hnew⟩
    · exact hsnoc m hm event hold
    · exact ⟨.monitor ml, List.mem_append_right _ (List.mem_singleton_self _), text,
        hlabel text hl, hnew⟩
  cases h with
  | same hpast hcurrent =>
    rw [Monitor.managers, hpast, hcurrent]
    exact hsnoc
  -- a shutdown only sets a flag of the current manager, which keeps what it holds
  | stops hpast hcurrent =>
    intro m hm event hevent
    rw [Monitor.managers, hpast, hcurrent, List.mem_append] at hm
    rcases hm with hm | hm
    · exact hsnoc m (List.mem_append_left _ hm) event hevent
    · rw [Option.mem_toList, Monitor.stopCurrent] at hm
      obtain ⟨m₀, hm₀, rfl⟩ := Option.map_eq_some_iff.mp hm
      exact hsnoc m₀ (List.mem_append_right _ (Option.mem_toList.mpr hm₀)) event hevent
  -- the new manager has heard nothing
  | spawns =>
    intro m hm event hevent
    rcases List.mem_append.mp hm with hm | hm
    · exact hsnoc m hm event hevent
    · rw [Option.toList_some, List.mem_singleton] at hm
      subst hm
      unfold Manager.held Manager.new at hevent
      dsimp only at hevent
      split at hevent <;> cases hevent
  | current hcurrent hstep =>
    intro m hm event hevent
    rcases List.mem_append.mp hm with hm | hm
    · exact hsnoc m (List.mem_append_left _ hm) event hevent
    · rw [Option.toList_some, List.mem_singleton] at hm
      subst hm
      refine hframe ?_ hstep (fun text hl => ?_) event hevent
      · exact List.mem_append_right _ (Option.mem_toList.mpr hcurrent)
      · rw [hl]
        rfl
  | past hpast hstep =>
    intro m hm event hevent
    rcases List.mem_append.mp hm with hm | hm
    · rcases List.mem_or_eq_of_mem_set hm with hm | rfl
      · exact hsnoc m (List.mem_append_left _ hm) event hevent
      · refine hframe ?_ hstep (fun text hl => ?_) event hevent
        · exact List.mem_append_left _ (List.mem_of_getElem? hpast)
        · rw [hl]
          rfl
    · exact hsnoc m (List.mem_append_right _ hm) event hevent

end

namespace Process

/-- **What every run keeps.** The chain from the frame to the tick: what is in a manager's hands
    was in a frame, what is published quotes one, what is broadcast is what was published, and what
    the engine has ticked on is what it has received. -/
structure Fed (c : Setup) (ls : List ProcessLabel) (p : Process) : Prop where
  monitor : p.monitor.Inv
  sent : p.feed.sent = p.monitor.managers.flatMap Manager.published
  held : ∀ m ∈ p.monitor.managers, ∀ event ∈ m.held, event.ReadIn c.crates ls
  quoted : ∀ u ∈ p.feed.sent, u.QuotedIn c.crates ls
  ticked : p.feed.received = ls.filterMap ProcessLabel.ticked

variable {c : Setup} {d : Db} {ls : List ProcessLabel} {l : ProcessLabel} {p p' : Process}

theorem fed_start (c : Setup) (d : Db) : Fed c [] (start c d) where
  monitor := Monitor.inv_start
  sent := rfl
  held m hm := by cases hm
  quoted u hu := by cases hu
  ticked := rfl

theorem Fed.other (h : Fed c ls p) (hmonitor : p'.monitor = p.monitor)
    (hsent : p'.feed.sent = p.feed.sent) (hreceived : p'.feed.received = p.feed.received)
    (hl : l.ticked = none) : Fed c (ls ++ [l]) p' where
  monitor := by
    rw [hmonitor]
    exact h.monitor
  sent := by rw [hmonitor, hsent, h.sent]
  held m hm event hevent := by
    rw [hmonitor] at hm
    exact (h.held m hm event hevent).snoc
  quoted u hu := by
    rw [hsent] at hu
    exact (h.quoted u hu).snoc
  ticked := by
    rw [List.filterMap_append, List.filterMap_cons_none hl, hreceived, h.ticked]
    exact (List.append_nil _).symm

theorem Fed.step (h : Fed c ls p) (hs : Step c p l p') : Fed c (ls ++ [l]) p' := by
  cases hs with
  | cancel =>
    refine ⟨Monitor.inv_cancel h.monitor, h.sent, fun m hm event hevent => ?_, fun u hu => ?_, ?_⟩
    · exact (h.held m hm event hevent).snoc
    · exact (h.quoted u hu).snoc
    · rw [List.filterMap_append, ← h.ticked]
      exact (List.append_nil _).symm
  -- what this step broadcasts quotes an event that the current manager had in its hands
  | @monitor ml m hreads hstep =>
    refine ⟨Monitor.inv_step h.monitor hstep, ?_, held_of_turn (Monitor.step_turn hstep) h.held,
      fun u hu => ?_, ?_⟩
    · rw [Monitor.published_broadcast h.monitor hstep, ← h.sent]
      rfl
    · rcases List.mem_append.mp hu with hu | hu
      · exact (h.quoted u hu).snoc
      · obtain ⟨m₀, event, now, hcurrent, hpc, hconverted⟩ :=
          Monitor.broadcast_of_step h.monitor hstep hu
        have hmem : m₀ ∈ p.monitor.managers :=
          List.mem_append_right _ (Option.mem_toList.mpr hcurrent)
        have hheld : event ∈ m₀.held := by
          rw [Manager.held, hpc]
          exact List.mem_cons_self ..
        exact ⟨event, (h.held m₀ hmem event hheld).snoc, quote_of_converted hconverted⟩
    · rw [List.filterMap_append, ← h.ticked]
      exact (List.append_nil _).symm
  | @tick update env feed s _ hrecv =>
    obtain ⟨hsent, hreceived, _, _⟩ := Lib.Broadcast.recv_eq_some hrecv
    refine ⟨h.monitor, hsent.trans h.sent, fun m hm event hevent => ?_, fun u hu => ?_, ?_⟩
    · exact (h.held m hm event hevent).snoc
    · rw [hsent] at hu
      exact (h.quoted u hu).snoc
    · rw [List.filterMap_append, ← h.ticked]
      exact hreceived
  -- a lag moves the reader only: nothing is received by it
  | lagged _ hlag =>
    obtain ⟨hsent, hreceived, _, _⟩ := Lib.Broadcast.lag_eq_some hlag
    exact h.other rfl hsent hreceived rfl
  | _ => exact h.other rfl rfl rfl rfl

theorem fed_of_run (hrun : Runs c d ls p) : Fed c ls p := by
  induction hrun with
  | nil => exact fed_start c d
  | snoc _ hs ih => exact ih.step hs

/-- **The price feed.** In every run of the process the channel carries what the managers have
    published, one manager after the other; the engine has ticked on a part of it, in that order,
    on the first ones if it was never told that it lags, and never on more than was sent; and each
    update quotes a price that a frame of the run has for its token. -/
theorem feed_of_run (hrun : Runs c d ls p) :
    p.feed.sent = p.monitor.managers.flatMap Manager.published ∧
    (ls.filterMap ProcessLabel.ticked).Sublist p.feed.sent ∧
    (p.feed.missed = 0 → ls.filterMap ProcessLabel.ticked <+: p.feed.sent) ∧
    (ls.filterMap ProcessLabel.ticked).length + p.feed.missed ≤ p.feed.sent.length ∧
    ∀ u ∈ p.feed.sent, u.QuotedIn c.crates ls := by
  have hfed := fed_of_run hrun
  rw [← hfed.ticked]
  refine ⟨hfed.sent, p.feed.sublist.trans (List.take_sublist _ _), fun hmissed => ?_, ?_,
    hfed.quoted⟩
  · rw [Lib.Broadcast.received_of_missed hmissed]
    exact List.take_prefix _ _
  · rw [p.feed.count]
    exact p.feed.bound

theorem feed_of_run_alarm : ∃ ls p, Runs sampleSetup Db.sampleDb ls p ∧
    p.feed.sent.map PriceUpdate.untimed = [⟨"yes", "0xc", .cents 75, 0⟩] ∧
    p.feed.sent = p.monitor.managers.flatMap Manager.published ∧
    ls.filterMap ProcessLabel.ticked <+: p.feed.sent ∧
    ∀ u ∈ p.feed.sent, u.QuotedIn alarmCrates ls := by
  have hcheck : (play sampleSetup alarmSchedule (.start sampleSetup Db.sampleDb)).map
      (fun p => (p.feed.sent.map PriceUpdate.untimed, p.feed.missed))
      = some ([⟨"yes", "0xc", .cents 75, 0⟩], 0) := by decide +kernel
  obtain ⟨p, hp, hfeed⟩ := Option.map_eq_some_iff.mp hcheck
  obtain ⟨hsent, hmissed⟩ := Prod.mk.inj hfeed
  obtain ⟨ls, hls⟩ := play_run hp
  obtain ⟨hmanagers, _, hprefix, _, hquoted⟩ := feed_of_run hls
  exact ⟨ls, p, hls, hsent, hmanagers, hprefix hmissed, hquoted⟩

end Process

end PolyNotifier
