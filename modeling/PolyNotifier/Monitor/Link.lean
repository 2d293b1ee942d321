import PolyNotifier.Monitor.Backoff
import PolyNotifier.Polymarket.Client

/-!
# The manager and its WebSocket task

`Monitor.Manager` lets the events of a frame arrive all at once. In truth the WebSocket task puts
them on the channel one after another, while the manager takes them off, and goes on for a while
when the manager has left. `Link` is the two of them together, and `link_refines` says that the
manager cannot tell the difference: every run of the two is a run of the manager alone, with the
same sessions, waits and updates.
-/

namespace PolyNotifier

open Lib (Steps)

/-- The steps of the manager that neither spawn the WebSocket task nor leave it alone. -/
def ManagerLabel.Own : ManagerLabel → Prop
  | .start => False
  | .frame _ => False
  | .disconnect => False
  | .cancelled => False
  | _ => True

/-- The manager, the WebSocket task it has spawned last, and whether the manager has called `abort`
    on its handle. The channel between the two is a field of the manager; `hear` says how a step of
    the task shows in it. -/
structure Link where
  /-- The manager, with the channel as it is. -/
  manager : Manager
  ws : Option WsTask
  /-- `ws_handle.abort()` was called. -/
  aborted : Bool

inductive LinkLabel where
  | manager (l : ManagerLabel)
  | ws (l : WsLabel)
  | cancel

namespace Link

/-- Before the manager runs. -/
def start (tokenIds : List String) (tokenToCondition : DashMap String String) : Link :=
  ⟨.new tokenIds tokenToCondition, none, false⟩

/-- The events of the frame the task is at, which are not in the channel yet. -/
def pending (k : Link) : List WsEvent := (k.ws.map fun t => t.pc.pending).getD []

/-- The manager after a step of the task: the channel gets what was forwarded, and loses its
    sender when the task is over. -/
def hear (m : Manager) (l : WsLabel) (t t' : WsTask) : Manager :=
  { m with
    queue := m.queue ++ t'.forwarded.drop t.forwarded.length
    connected := m.connected && decide (t'.pc ≠ .returned)
    frames := m.frames ++ l.text.toList }

section

variable (x : Crates) (cfg : ReconnectConfig)

/-- A step of one of the two. The manager and the task share the token and the channel and nothing
    else, so each moves by its own step function, and all that is added here is what the one sees
    of the other: the task is spawned by the first step of a session, it sees whether its receiver
    is still there, and it may be aborted only after the manager has asked for it. -/
inductive Step (k : Link) : LinkLabel → Link → Prop
  /-- The task is spawned, unless the token is cancelled already. -/
  | starts {m : Manager} (step : Manager.Step x cfg k.manager .start m) :
      Step k (.manager .start) { k with
        manager := m, ws := if m.pc = .reading then some (.new m.tokenIds) else k.ws }
  | leaves {m : Manager} (step : Manager.Step x cfg k.manager .cancelled m) :
      Step k (.manager .cancelled) { k with
        manager := m, aborted := k.aborted || decide (k.manager.pc = .reading) }
  | manager {l : ManagerLabel} {m : Manager} (own : l.Own)
      (step : Manager.Step x cfg k.manager l m) : Step k (.manager l) { k with manager := m }
  /-- The task sees the token of the manager, and whether its receiver is still there. -/
  | ws {l : WsLabel} {t t' : WsTask} (task : k.ws = some t) (aborts : l = .abort → k.aborted = true)
      (step : t.step x k.manager.cancelled (!k.manager.pc.gone) l = some t') :
      Step k (.ws l) { k with manager := hear k.manager l t t', ws := some t' }
  | cancel : Step k .cancel { k with manager := { k.manager with cancelled := true } }

end

variable {x : Crates} {cfg : ReconnectConfig} {k k' : Link} {l : LinkLabel}

/-! ## What every run keeps -/

/-- The task obeys its law; as long as the manager is there, it holds the sender of the channel if
    and only if it is not over, and its text frames are the frames of the session. -/
structure Inv (x : Crates) (k : Link) : Prop where
  law : ∀ t ∈ k.ws, t.Law x ∧ t.tokenIds = k.manager.tokenIds
  connected : k.manager.pc.gone = false →
    (k.manager.connected = true ↔ ∃ t ∈ k.ws, t.pc ≠ .returned)
  frames : k.manager.pc.gone = false → ∀ t ∈ k.ws, t.texts = k.manager.frames

theorem inv_start (x : Crates) (tokenIds : List String) (tokenToCondition : DashMap String String) :
    Inv x (start tokenIds tokenToCondition) where
  law := nofun
  connected _ := ⟨nofun, fun ⟨_, h, _⟩ => by cases h⟩
  frames _ := nofun

theorem step_own {m m' : Manager} {l : ManagerLabel} (hown : l.Own)
    (h : Manager.Step x cfg m l m') :
    m'.connected = m.connected ∧ m'.frames = m.frames ∨ m'.pc.gone = true := by
  cases Manager.step_cases h with
  | ends _ hgone => exact .inr hgone
  | starts => exact hown.elim
  | frame => exact hown.elim
  | disconnects => exact hown.elim
  | _ => exact .inl ⟨rfl, rfl⟩

theorem live_of_step {m m' : Manager} {l : ManagerLabel} (h : Manager.Step x cfg m l m')
    (hlive : m'.pc.gone = false) : m.pc.gone = false := by
  cases hgone : m.pc.gone with
  | false => rfl
  | true =>
    rw [((Manager.step_frame h).gone hgone).1, hgone] at hlive
    cases hlive

/-- A step of the manager that leaves it with the same task. -/
theorem Inv.manager (h : Inv x k) {m : Manager} {l : ManagerLabel} {aborted : Bool}
    (hs : Manager.Step x cfg k.manager l m)
    (hsame : m.connected = k.manager.connected ∧ m.frames = k.manager.frames ∨
      m.pc.gone = true) : Inv x { k with manager := m, aborted } where
  law t ht := by
    obtain ⟨hlaw, htokens⟩ := h.law t ht
    exact ⟨hlaw, htokens.trans (Manager.step_frame hs).tokenIds.symm⟩
  connected hlive := by
    rcases hsame with ⟨hconnected, _⟩ | hgone
    · show m.connected = true ↔ _
      rw [hconnected]
      exact h.connected (live_of_step hs hlive)
    · exact absurd (hgone.symm.trans hlive) nofun
  frames hlive t ht := by
    rcases hsame with ⟨_, hframes⟩ | hgone
    · exact (h.frames (live_of_step hs hlive) t ht).trans hframes.symm
    · exact absurd (hgone.symm.trans hlive) nofun

theorem inv_step (h : Inv x k) (hs : Step x cfg k l k') : Inv x k' := by
  cases hs with
  | @starts m hstep =>
    cases Manager.step_cases hstep with
    | @ends _ pc _ _ hgone =>
      -- cancelled before anything is spawned
      have hleft : pc ≠ .reading := by
        rintro rfl
        cases hgone
      rw [if_neg hleft]
      exact h.manager hstep (.inr hgone)
    | starts =>
      rw [if_pos rfl]
      refine ⟨fun t ht => ?_, fun _ => ⟨fun _ => ⟨_, rfl, nofun⟩, fun _ => rfl⟩, fun _ t ht => ?_⟩
      · cases ht
        exact ⟨WsTask.law_new _, rfl⟩
      · cases ht
        rfl
  | leaves hstep =>
    cases Manager.step_cases hstep with
    | ends _ hgone => exact h.manager hstep (.inr hgone)
  | manager hown hstep => exact h.manager hstep (step_own hown hstep)
  | @ws l t t' htask _ hstep =>
    obtain ⟨hlaw, htokens⟩ := h.law t htask
    have hpasses := WsTask.passes_step hstep
    refine ⟨fun u hu => ?_, fun hlive => ?_, fun hlive u hu => ?_⟩
    · cases hu
      exact ⟨hlaw.step hstep, hpasses.tokenIds.trans htokens⟩
    · have hconnected := (h.connected hlive).mpr ⟨t, htask, hpasses.live⟩
      simp [hear, hconnected]
    · cases hu
      rw [hpasses.texts, h.frames hlive t htask]
      rfl
  | cancel => exact ⟨h.law, h.connected, h.frames⟩

theorem inv_of_run {tokenIds : List String} {tokenToCondition : DashMap String String}
    {ls : List LinkLabel} (hrun : Steps (Step x cfg) (start tokenIds tokenToCondition) ls k) :
    Inv x k :=
  hrun.inv (inv_start x tokenIds tokenToCondition) fun _ _ _ h hs => inv_step h hs

/-! ## The manager alone -/

/-- What the manager alone looks like: to it, the events the task still holds are in the channel.
    Once it is gone, the channel is nobody's. This is the relation of the simulation: a frame
    arrives at the coarse manager when the task reads it, and what the task then forwards one by
    one is a step that the coarse manager does not take. -/
structure Shows (k : Link) (m : Manager) : Prop where
  same : m = { k.manager with queue := m.queue, connected := m.connected, frames := m.frames }
  live : k.manager.pc.gone = false → m.queue = k.manager.queue ++ k.pending ∧
    m.connected = k.manager.connected ∧ m.frames = k.manager.frames

theorem Shows.eq {m : Manager} (h : Shows k m) (hlive : k.manager.pc.gone = false) :
    m = { k.manager with queue := k.manager.queue ++ k.pending } := by
  obtain ⟨hqueue, hconnected, hframes⟩ := h.live hlive
  rw [h.same, hqueue, hconnected, hframes]

/-- More events at the end of the channel do not change what the manager does, unless it waits for
    the channel to be empty. -/
theorem step_more {m m' : Manager} {l : ManagerLabel} (hown : l.Own)
    (h : Manager.Step x cfg m l m') {more : List WsEvent}
    (hclosed : m.pc.gone = false → m.connected = false → more = []) :
    m.pc.gone = false ∧ Manager.Step x cfg { m with queue := m.queue ++ more } l
      { m' with queue := m'.queue ++ more } := by
  unfold Manager.Step Manager.step at h ⊢
  cases l with
  | start => exact hown.elim
  | frame => exact hown.elim
  | disconnect => exact hown.elim
  | cancelled => exact hown.elim
  | recv =>
    dsimp only at h ⊢
    split at h
    · rename_i hpc hqueue
      split at h <;> cases h
      rename_i hcancelled
      rw [hpc, hqueue]
      simp [hcancelled, ManagerPc.gone]
    · cases h
  | drained =>
    dsimp only at h ⊢
    split at h
    · rename_i hpc hqueue
      split at h <;> cases h
      rename_i hopen
      -- the sender is gone, and with it whatever could still come
      simp only [Bool.or_eq_true, not_or, Bool.not_eq_true] at hopen
      obtain rfl := hclosed (by rw [hpc]; rfl) hopen.2
      rw [hpc, hqueue]
      simp [hopen, ManagerPc.gone]
    · cases h
  | convert now =>
    dsimp only at h ⊢
    split at h
    · rename_i hpc
      rw [hpc]
      split at h <;> cases h <;> simp [ManagerPc.gone]
    · cases h
  | joined aborted =>
    dsimp only at h ⊢
    split at h <;> cases h
    rename_i hpc
    rw [hpc]
    exact ⟨rfl, rfl⟩
  | check =>
    dsimp only at h ⊢
    split at h
    · rename_i hpc
      rw [hpc]
      split at h
      · rename_i hcancelled
        cases h
        simp [hcancelled, ManagerPc.gone]
      · rename_i hcancelled
        split at h <;> cases h
        · rename_i hdelay
          simp [hcancelled, hdelay, ManagerPc.gone]
        · rename_i hdelay
          simp [hcancelled, hdelay, ManagerPc.gone]
    · cases h
  | slept =>
    dsimp only at h ⊢
    split at h <;> cases h
    rename_i hpc
    rw [hpc]
    exact ⟨rfl, rfl⟩
  | panic =>
    dsimp only at h ⊢
    split at h <;> cases h
    rename_i hlive
    simp [hlive]

/-- A task that is over holds nothing. -/
theorem pending_of_closed (h : Inv x k) (hlive : k.manager.pc.gone = false)
    (hclosed : k.manager.connected = false) : k.pending = [] := by
  unfold pending
  cases ht : k.ws with
  | none => rfl
  | some t =>
    have hover : t.pc = .returned := by
      by_contra hne
      have hopen := (h.connected hlive).mpr ⟨t, ht, hne⟩
      rw [hclosed] at hopen
      cases hopen
    show t.pc.pending = []
    rw [hover]
    rfl

theorem logged {m m' : Manager} (log : List Wait) {l : ManagerLabel}
    (h : Manager.Step x cfg m l m') :
    Steps (Manager.LoggedStep x cfg) (m, log) [.own l] (m', log ++ Manager.waitOf m m' l) :=
  .snoc .nil ⟨h, rfl⟩

theorem own_shows {m m₁ : Manager} (hinv : Inv x k) (h : Shows k m) {l : ManagerLabel}
    (hown : l.Own) (hs : Manager.Step x cfg k.manager l m₁) :
    ∃ m', Manager.Step x cfg m l m' ∧ Shows { k with manager := m₁ } m' := by
  obtain ⟨hlive, hmore⟩ := step_more hown hs (pending_of_closed hinv)
  rw [← h.eq hlive] at hmore
  exact ⟨_, hmore, rfl, fun _ => ⟨rfl, rfl, rfl⟩⟩

theorem starts_shows {m m₁ : Manager} (h : Shows k m)
    (hs : Manager.Step x cfg k.manager .start m₁) :
    ∃ m', Manager.Step x cfg m .start m' ∧ Shows { k with
      manager := m₁, ws := if m₁.pc = .reading then some (.new m₁.tokenIds) else k.ws } m' := by
  have hsame := h.same
  generalize m.queue = queue at hsame
  generalize m.connected = connected at hsame
  generalize m.frames = frames at hsame
  subst hsame
  unfold Manager.Step Manager.step at hs ⊢
  dsimp only at hs ⊢
  split at hs
  · split at hs <;> cases hs
    · rename_i hcancelled
      exact ⟨_, if_pos hcancelled, rfl, fun hlive => by cases hlive⟩
    · rename_i hcancelled
      exact ⟨_, if_neg hcancelled, rfl, fun _ => ⟨rfl, rfl, rfl⟩⟩
  · cases hs

theorem leaves_shows {m m₁ : Manager} (h : Shows k m) {aborted : Bool}
    (hs : Manager.Step x cfg k.manager .cancelled m₁) :
    ∃ m', Manager.Step x cfg m .cancelled m' ∧ Shows { k with manager := m₁, aborted } m' := by
  have hsame := h.same
  generalize m.queue = queue at hsame
  generalize m.connected = connected at hsame
  generalize m.frames = frames at hsame
  subst hsame
  unfold Manager.Step Manager.step at hs ⊢
  dsimp only at hs ⊢
  split at hs
  case h_4 => cases hs
  all_goals
    split at hs <;> cases hs
    rename_i hcancelled
    exact ⟨_, if_pos hcancelled, rfl, fun hlive => by cases hlive⟩

/-- A step of the task is a frame, the end of the sender, or nothing the manager would notice. -/
theorem ws_shows {m : Manager} (hinv : Inv x k) (h : Shows k m) {l : WsLabel} {t t' : WsTask}
    (htask : k.ws = some t)
    (hs : t.step x k.manager.cancelled (!k.manager.pc.gone) l = some t') (log : List Wait) :
    ∃ ds s', Steps (Manager.LoggedStep x cfg) (m, log) ds s' ∧
      Shows { k with manager := hear k.manager l t t', ws := some t' } s'.1 := by
  have hpasses := WsTask.passes_step hs
  cases hgone : k.manager.pc.gone with
  | true => exact ⟨[], (m, log), .nil, h.same, fun hlive => absurd (hgone.symm.trans hlive) nofun⟩
  | false =>
    have hconnected := (hinv.connected hgone).mpr ⟨t, htask, hpasses.live⟩
    have hpending : k.pending = t.pc.pending := by
      unfold pending
      rw [htask]
      rfl
    obtain ⟨new, hnew⟩ := hpasses.grows
    have hdrop : t'.forwarded.drop t.forwarded.length = new := by
      rw [← hnew, List.drop_left]
    have hbalance := hpasses.balance (by rw [hgone]; rfl)
    rw [← hnew, List.append_assoc, List.append_assoc, List.append_right_inj] at hbalance
    obtain ⟨hqueue, hm, hframes⟩ := h.live hgone
    rw [hpending] at hqueue
    rw [hconnected] at hm
    cases htext : l.text with
    | some s =>
      -- for the manager alone the events of the frame are on the channel at once
      have hlive : t'.pc ≠ .returned := hpasses.goesOn (by rw [htext]; nofun)
      have hstep : Manager.Step x cfg m (.frame s) { m with
          queue := m.queue ++ parseWsMessage x s, frames := m.frames ++ [s] } := if_pos hm
      rw [htext, Option.toList_some, List.flatMap_singleton] at hbalance
      refine ⟨_, _, logged log hstep, ?_, fun _ => ⟨?_, ?_, ?_⟩⟩
      · exact congrArg (fun m' : Manager => { m' with
          queue := m.queue ++ parseWsMessage x s, frames := m.frames ++ [s] }) h.same
      · show m.queue ++ _ = k.manager.queue ++ t'.forwarded.drop _ ++ t'.pc.pending
        rw [hqueue, hdrop, List.append_assoc, List.append_assoc, hbalance]
      · show m.connected = (k.manager.connected && decide (t'.pc ≠ .returned))
        rw [hm, hconnected, decide_eq_true hlive]
        rfl
      · show m.frames ++ [s] = k.manager.frames ++ l.text.toList
        rw [hframes, htext]
        rfl
    | none =>
      -- an event that is forwarded here was on its channel before
      rw [htext, Option.toList_none, List.flatMap_nil, List.append_nil] at hbalance
      have hsame : m.queue = k.manager.queue ++ t'.forwarded.drop t.forwarded.length ++
          t'.pc.pending ∧ m.frames = k.manager.frames ++ l.text.toList := by
        rw [hqueue, hdrop, hbalance, List.append_assoc, hframes, htext, Option.toList_none,
          List.append_nil]
        exact ⟨rfl, rfl⟩
      by_cases hover : t'.pc = .returned
      · have hstep : Manager.Step x cfg m .disconnect { m with connected := false } := if_pos hm
        refine ⟨_, _, logged log hstep, ?_, fun _ => ⟨hsame.1, ?_, hsame.2⟩⟩
        · exact congrArg (fun m' : Manager => { m' with connected := false }) h.same
        · show false = (k.manager.connected && decide (t'.pc ≠ .returned))
          rw [decide_eq_false (not_not_intro hover), Bool.and_false]
      · refine ⟨[], (m, log), .nil, h.same, fun _ => ⟨hsame.1, ?_, hsame.2⟩⟩
        show m.connected = (k.manager.connected && decide (t'.pc ≠ .returned))
        rw [hm, hconnected, decide_eq_true hover]
        rfl

/-- **Every step of the two is some steps of the manager.** -/
theorem step_shows {s : Manager × List Wait} (hinv : Inv x k) (h : Shows k s.1)
    (hs : Step x cfg k l k') :
    ∃ ds s', Steps (Manager.LoggedStep x cfg) s ds s' ∧ Shows k' s'.1 := by
  obtain ⟨m, log⟩ := s
  cases hs with
  | starts hstep =>
    obtain ⟨m', hm', hshows⟩ := starts_shows h hstep
    exact ⟨_, _, logged log hm', hshows⟩
  | leaves hstep =>
    obtain ⟨m', hm', hshows⟩ := leaves_shows h hstep
    exact ⟨_, _, logged log hm', hshows⟩
  | manager hown hstep =>
    obtain ⟨m', hm', hshows⟩ := own_shows hinv h hown hstep
    exact ⟨_, _, logged log hm', hshows⟩
  | ws htask _ hstep => exact ws_shows hinv h htask hstep log
  | cancel =>
    refine ⟨[.cancel], ({ m with cancelled := true }, log), .snoc .nil rfl, ?_, h.live⟩
    exact congrArg (fun m' : Manager => { m' with cancelled := true }) h.same

/-! ## A sample run -/

/-- The turns of the task. -/
def wsTurn (x : Crates) (k : Link) (l : WsLabel) : Option Link :=
  k.ws.bind fun t => (t.step x k.manager.cancelled (!k.manager.pc.gone) l).map fun t' =>
    { k with manager := hear k.manager l t t', ws := some t' }

/-- A step that can be taken; an abort is none. It is used to compute runs, so it leaves out what
    no computed run needs, among it everything that ends the manager. -/
def turn (x : Crates) (cfg : ReconnectConfig) (k : Link) : LinkLabel → Option Link
  | .manager .start => (k.manager.step x cfg .start).map fun m =>
      { k with manager := m, ws := if m.pc = .reading then some (.new m.tokenIds) else k.ws }
  | .manager .recv => (k.manager.step x cfg .recv).map fun m => { k with manager := m }
  | .manager (.convert now) => (k.manager.step x cfg (.convert now)).map fun m =>
      { k with manager := m }
  | .ws .abort => none
  | .ws l => wsTurn x k l
  | .cancel => some { k with manager := { k.manager with cancelled := true } }
  | _ => none

theorem turn_step (h : turn x cfg k l = some k') : Step x cfg k l k' := by
  have hws : ∀ {l : WsLabel}, l ≠ .abort → wsTurn x k l = some k' → Step x cfg k (.ws l) k' := by
    intro l hne h
    obtain ⟨t, ht, h⟩ := Option.bind_eq_some_iff.mp h
    obtain ⟨t', ht', rfl⟩ := Option.map_eq_some_iff.mp h
    exact .ws ht (fun heq => absurd heq hne) ht'
  unfold turn at h
  split at h
  · obtain ⟨m, hm, rfl⟩ := Option.map_eq_some_iff.mp h
    exact .starts hm
  · obtain ⟨m, hm, rfl⟩ := Option.map_eq_some_iff.mp h
    exact .manager trivial hm
  · obtain ⟨m, hm, rfl⟩ := Option.map_eq_some_iff.mp h
    exact .manager trivial hm
  · cases h
  · rename_i hne
    exact hws (fun heq => hne heq) h
  · cases h
    exact .cancel
  · cases h

/-- The server pings and quotes a price, and the manager takes the event while the task is still at
    the frame; then the token is cancelled. -/
def quoteLink : List LinkLabel :=
  [.manager .start, .ws (.connect true), .ws (.subscribe true), .ws (.next (some (.ping [7]))),
    .ws (.pong true), .ws .tick, .ws (.ping true), .ws (.next (some (.text quoteFrame))),
    .ws .forward, .manager .recv, .ws .forward, .manager (.convert 5), .cancel, .ws .cancelled,
    .ws (.close true)]

theorem quoteLink_run : ∃ k, Steps (Step quoteCrates ⟨1, 60⟩) (start ["yes"] ∅) quoteLink k ∧
    k.manager.published = [⟨"yes", "", .cents 55, 5⟩] ∧ ∃ t ∈ k.ws,
      t.written.tail = [.pong [7], .ping [], .close] ∧ t.forwarded.length = 1 := by
  have hcheck : (quoteLink.foldlM (turn quoteCrates ⟨1, 60⟩) (start ["yes"] ∅)).bind (fun k =>
      k.ws.map fun t => (k.manager.published, t.written.tail, t.forwarded.length)) =
      some ([⟨"yes", "", .cents 55, 5⟩], [.pong [7], .ping [], .close], 1) := by decide +kernel
  obtain ⟨k, hk, hcheck⟩ := Option.bind_eq_some_iff.mp hcheck
  obtain ⟨t, ht, hcheck⟩ := Option.map_eq_some_iff.mp hcheck
  obtain ⟨hpublished, hcheck⟩ := Prod.mk.inj hcheck
  obtain ⟨hwritten, hforwarded⟩ := Prod.mk.inj hcheck
  exact ⟨k, (Lib.steps_of_foldlM hk).mono fun _ _ _ h => turn_step h, hpublished, t, ht, hwritten,
    hforwarded⟩

/-! ## Every run -/

section

variable {tokenIds : List String} {tokenToCondition : DashMap String String}
  {ls : List LinkLabel}

/-- **The manager and its task refine the manager alone.** Every run of the two, whatever the
    server does and however the two interleave, is a run of the manager in which each frame arrives
    at once: the same updates are published, the same waits are made, and as long as the manager
    is there, its channel is the real one and what the task still holds. -/
theorem link_refines (hrun : Steps (Step x cfg) (start tokenIds tokenToCondition) ls k) :
    ∃ evs m log, Manager.Ran x cfg tokenIds tokenToCondition evs m log ∧ Shows k m := by
  have hshows : Shows (start tokenIds tokenToCondition) (.new tokenIds tokenToCondition) :=
    ⟨rfl, fun _ => ⟨(List.append_nil _).symm, rfl, rfl⟩⟩
  have hran : ∃ evs, ∃ s : Manager × List Wait,
      Manager.Ran x cfg tokenIds tokenToCondition evs s.1 s.2 ∧ Inv x k ∧ Shows k s.1 :=
    Steps.simulate (R := fun k (s : Manager × List Wait) => Inv x k ∧ Shows k s.1)
      (fun k l k' s hR hs => by
        obtain ⟨ds, s', hran, hshows⟩ := step_shows hR.1 hR.2 hs
        exact ⟨ds, s', hran, inv_step hR.1 hs, hshows⟩)
      hrun ⟨inv_start x tokenIds tokenToCondition, hshows⟩
  obtain ⟨evs, ⟨m, log⟩, hran, _, hm⟩ := hran
  exact ⟨evs, m, log, hran, hm⟩

theorem link_refines_quote : ∃ k, k.manager.published = [⟨"yes", "", .cents 55, 5⟩] ∧
    ∃ evs m log, Manager.Ran quoteCrates ⟨1, 60⟩ ["yes"] ∅ evs m log ∧ Shows k m := by
  obtain ⟨k, hrun, hpublished, _⟩ := quoteLink_run
  exact ⟨k, hpublished, link_refines hrun⟩

end

end Link

end PolyNotifier
