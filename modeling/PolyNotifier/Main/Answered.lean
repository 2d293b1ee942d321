import PolyNotifier.Main.Progress

/-!
# An alert that is due is answered

The watch says which alerts are due at a tick; `due_answered` follows one of them through the
process. The engine gets to the end of the tick, and by then it has fired what is due; what it
fires is in the channel, at a place of its own; and the service gets there.
-/

namespace PolyNotifier

open Lib (Channel Endless Steps)
open AlertEngine (Firing TickEnv firingOf notificationOf)

namespace Process

open Shutdown (EnginePc)

variable {c : Setup} {d : Db} {ls : List ProcessLabel} {l : ProcessLabel} {p p' : Process}

/-! ## The events of a longer run -/

theorem events_append (ls ls' : List ProcessLabel) :
    ∃ more, events (ls ++ ls') = events ls ++ more := by
  induction ls' using List.reverseRecOn with
  | nil => exact ⟨[], by rw [List.append_nil, List.append_nil]⟩
  | append_singleton ls' l ih =>
    obtain ⟨more, hmore⟩ := ih
    have hnext : ∃ new, events (ls ++ ls' ++ [l]) = events (ls ++ ls') ++ new := by
      rw [events, scan_snoc]
      cases l with
      | readConditions => exact ⟨_, rfl⟩
      | tick => exact ⟨_, rfl⟩
      | _ => exact ⟨[], (List.append_nil _).symm⟩
    obtain ⟨new, hnew⟩ := hnext
    refine ⟨more ++ new, ?_⟩
    rw [← List.append_assoc, hnew, hmore, List.append_assoc]

theorem events_tick (ls : List ProcessLabel) (update : PriceUpdate) (env : TickEnv) :
    events (ls ++ [.tick update env]) = events ls ++ [.tick update env] := by
  rw [events, scan_snoc]
  rfl

/-! ## Where the notifications are -/

/-- The request has a place in the channel, after the first `n`. The place is what the service
    counts by: a request with the same text may have been accepted before. -/
def PlacedAfter (n : Nat) (accepted : List NotificationRequest) (req : NotificationRequest)
    (slot : Option Nat) : Prop :=
  ∃ k, slot = some k ∧ n ≤ k ∧ accepted[k]? = some req

/-- What was fired since `old` is in the channel, after the first `n`. -/
structure Placing (old : List (Firing × Option Nat)) (n : Nat) (p : Process) : Prop where
  count : n ≤ p.core.channel.accepted.length
  fired : ∃ new, p.core.fired = old ++ new ∧
    ∀ f ∈ new, PlacedAfter n p.core.channel.accepted f.1.request f.2
  pc : ∀ t r message slot, p.core.pc = .persisting t r message slot →
    PlacedAfter n p.core.channel.accepted (notificationOf r message) slot

theorem PlacedAfter.mono {n : Nat} {as as' : List NotificationRequest} {req : NotificationRequest}
    {slot : Option Nat} (h : PlacedAfter n as req slot) (hle : as <+: as') :
    PlacedAfter n as' req slot := by
  obtain ⟨k, rfl, hn, hk⟩ := h
  obtain ⟨more, rfl⟩ := hle
  exact ⟨k, rfl, hn, by rw [List.getElem?_append_left (List.getElem?_eq_some_iff.mp hk).1, hk]⟩

section

variable {old : List (Firing × Option Nat)} {n : Nat}

theorem Placing.keep (h : Placing old n p)
    (haccepted : p.core.channel.accepted <+: p'.core.channel.accepted)
    (hfired : p'.core.fired = p.core.fired)
    (hpc : ∀ t r message slot, p'.core.pc = .persisting t r message slot →
      PlacedAfter n p'.core.channel.accepted (notificationOf r message) slot) :
    Placing old n p' := by
  obtain ⟨new, hnew, hplaced⟩ := h.fired
  refine ⟨h.count.trans haccepted.length_le, ⟨new, hfired.trans hnew, fun f hf => ?_⟩, hpc⟩
  exact (hplaced f hf).mono haccepted

theorem Placing.other (h : Placing old n p)
    (haccepted : p.core.channel.accepted <+: p'.core.channel.accepted)
    (hfired : p'.core.fired = p.core.fired) (hpc : p'.core.pc = p.core.pc) :
    Placing old n p' := by
  refine h.keep haccepted hfired fun t r message slot hslot => ?_
  rw [hpc] at hslot
  exact (h.pc t r message slot hslot).mono haccepted

theorem Placing.engineMove (h : Placing old n p) (halive : p.core.channel.alive = true)
    {e : Shutdown.EngineLabel} {s : Shutdown.State} {feed : Lib.Broadcast PriceUpdate}
    (hmove : EngineMove c.crates c.alert p.core e s) :
    Placing old n { p with core := s, feed } := by
  cases hmove with
  | lags => exact h.other (List.prefix_refl _) rfl rfl
  | @sends t r message channel hpc hpush =>
    have haccepted := Channel.accepted_push hpush
    refine h.keep ?_ rfl fun t' r' message' slot hslot => ?_
    · dsimp only
      rw [haccepted]
      exact List.prefix_append _ _
    · cases hslot
      refine ⟨_, rfl, h.count, ?_⟩
      dsimp only
      rw [haccepted]
      exact List.getElem?_concat_length
  | fails _ hclosed =>
    -- only the service closes the channel, when it leaves
    rw [halive] at hclosed
    cases hclosed
  | @persists t r message slot hpc =>
    -- the firing keeps the place its request got when it was sent
    obtain ⟨new, hnew, hplaced⟩ := h.fired
    refine ⟨h.count, ⟨new ++ [(firingOf c.alert { t.env with sendOk := fun _ => slot.isSome } r
      message, slot)], ?_, ?_⟩, fun _ _ _ _ hslot => by cases hslot⟩
    · dsimp only
      rw [hnew, List.append_assoc]
    · intro f hf
      rw [List.mem_append, List.mem_singleton] at hf
      rcases hf with hf | rfl
      · exact hplaced f hf
      · exact h.pc t r message slot hpc
  | _ =>
    refine h.keep (List.prefix_refl _) rfl fun t r message slot hslot => ?_
    cases hslot

theorem Placing.step (h : Placing old n p) (halive : p.core.channel.alive = true)
    (hs : Step c p l p') : Placing old n p' := by
  have haccepted := accepted_step hs
  cases hs with
  | tick _ _ hstep => exact h.engineMove halive (engineStep_cases (.inr (.inr ⟨_, _, rfl⟩)) hstep)
  | lagged _ _ hstep => exact h.engineMove halive (engineStep_cases (.inr (.inl rfl)) hstep)
  | engine _ halone hstep => exact h.engineMove halive (engineStep_cases (.inl halone) hstep)
  | service hstep =>
    obtain ⟨_, hpc, hfired⟩ := service_engine hstep
    exact h.other haccepted hfired hpc
  | readConditions =>
    refine h.keep haccepted rfl fun t r message slot hslot => ?_
    cases hslot
  | endFlush =>
    refine h.keep haccepted rfl fun t r message slot hslot => h.pc t r message slot ?_
    dsimp only at hslot
    split at hslot
    · cases hslot
    · exact hslot
  | _ => exact h.other haccepted rfl rfl

end

/-! ## From the tick to the service -/

theorem fired_engineMove {e : Shutdown.EngineLabel} {s s' : Shutdown.State}
    (h : EngineMove c.crates c.alert s e s') : s.fired <+: s'.fired := by
  cases h with
  | persists => exact List.prefix_append _ _
  | _ => exact List.prefix_refl _

theorem fired_step (hs : Step c p l p') : p.core.fired <+: p'.core.fired := by
  cases hs with
  | tick _ _ hstep => exact fired_engineMove (engineStep_cases (.inr (.inr ⟨_, _, rfl⟩)) hstep)
  | lagged _ _ hstep => exact fired_engineMove (engineStep_cases (.inr (.inl rfl)) hstep)
  | engine _ halone hstep => exact fired_engineMove (engineStep_cases (.inl halone) hstep)
  | service hstep =>
    dsimp only
    rw [(service_engine hstep).2.2]
  | _ => exact List.prefix_refl _

section

variable {r : Endless (Step c)} {n : Nat} {update : PriceUpdate} {env : TickEnv}

theorem select_of_tick (hs : Step c p (.tick update env) p') : p.core.pc = .select := by
  cases hs with
  | tick _ _ hstep =>
    cases engineStep_cases (.inr (.inr ⟨_, _, rfl⟩)) hstep with
    | ticks hpc => exact hpc

/-- When the engine is back at its `select!`, the alert has fired. -/
theorem due_fired (hx : c.crates.UnitRange) (hgood : d.GoodAlerts) (hrun : Runs c d ls p)
    (hs : Step c p (.tick update env) p') {ls' : List ProcessLabel} {q : Process}
    (hlater : Steps (Step c) p' ls' q) (hrest : q.core.pc.AtRest) {row : AlertRow}
    (hdue : Watch.Due c.crates c.alert (Watch.after c.crates c.alert (events ls)) update env row)
    {new : List (Firing × Option Nat)} (hnew : q.core.fired = p.core.fired ++ new) :
    ∃ f ∈ new.map Prod.fst, f.alertId = row.alertId ∧ f.firedAt = env.mark row.alertId ∧
      f.request.userTelegramId = row.userTelegramId ∧ f.request.botId = row.botId := by
  have hmirrors := mirrors_of_run hx hgood hrun
  have hpc : p.core.pc.AtRest := by
    rw [select_of_tick hs]
    trivial
  obtain ⟨hrep, hfires⟩ := hmirrors.pc.rest hpc
  have hend := ((mirrors_of_run hx hgood ((hrun.snoc hs).append hlater)).pc.rest hrest).2
  obtain ⟨more, hmore⟩ := events_append (ls ++ [.tick update env]) ls'
  rw [hmore, events_tick] at hend
  obtain ⟨first, later, hfirst, htickFires⟩ := hend.split
  obtain ⟨before, now, rfl, hbefore, hanswers, _⟩ := htickFires.snoc_inv
  have hanswer := hanswers update env rfl
  -- what the watch fires in this tick is what comes after the firings so far
  have hlen := hbefore.length_eq hfires
  rw [hnew, List.map_append, List.append_assoc] at hfirst
  obtain ⟨_, hnow⟩ := List.append_inj hfirst hlen.symm
  obtain ⟨f, hf, hid⟩ := hanswer.all row hdue
  refine ⟨f, ?_, hid, ?_⟩
  · rw [hnow]
    exact List.mem_append_left _ hf
  · obtain ⟨row', hdue', hid', htime, huser, hbot⟩ := hanswer.due f hf
    have heq : row' = row :=
      List.inj_on_of_nodup_map hrep.nodup hdue'.mem hdue.mem (hid'.symm.trans hid)
    rw [← heq]
    exact ⟨htime, huser, hbot⟩

/-- What is fired from the tick on is in the channel, after what was there. -/
theorem placing_of_tick (hrun : Runs c d ls (r.state 0)) (h : Working r)
    (htick : r.label n = .tick update env) {m : Nat} (hm : n ≤ m) :
    Placing (r.state n).core.fired (r.state n).core.channel.accepted.length (r.state m) := by
  induction m, hm using Nat.le_induction with
  | base =>
    have hs := r.steps n
    rw [htick] at hs
    refine ⟨Nat.le_refl _, ⟨[], (List.append_nil _).symm, nofun⟩, fun t r' message slot hpc => ?_⟩
    rw [select_of_tick hs] at hpc
    cases hpc
  | succ m _ ih => exact ih.step (h.alive hrun m).channel (r.steps m)

/-- **An alert that is due is answered.** In every fair run in which the token is not cancelled, if
    an alert is due when the engine ticks, then it fires in that tick, at the time the tick marks it,
    for the user of its row, its notification takes a place in the channel after those that were
    there, and is handled in the end. -/
theorem due_answered (hx : c.crates.UnitRange) (hgood : d.GoodAlerts)
    (hrun : Runs c d ls (r.state 0)) (h : Working r) (htick : r.label n = .tick update env)
    {row : AlertRow} (hdue : Watch.Due c.crates c.alert
      (Watch.after c.crates c.alert (events (ls ++ (List.range n).map r.label))) update env row) :
    ∃ m k f done, (r.state n).core.channel.accepted.length ≤ k ∧
      (f, some k) ∈ (r.state m).core.fired ∧ f.alertId = row.alertId ∧
      f.firedAt = env.mark row.alertId ∧ f.request.userTelegramId = row.userTelegramId ∧
      f.request.botId = row.botId ∧
      (r.state m).core.handled[k]? = some done ∧ done.request = f.request := by
  have hs := r.steps n
  rw [htick] at hs
  obtain ⟨m, hm, hselects⟩ := select_reached h hrun
    (fun m => not_panicked_of_run hx hgood (hrun.append (r.run m))) (n + 1)
  have hrest : (r.state m).core.pc.AtRest := by
    rw [hselects.2.1]
    trivial
  obtain ⟨new, hnew, hplaced⟩ :=
    (placing_of_tick hrun h htick ((Nat.le_succ n).trans hm)).fired
  obtain ⟨ls', hlater⟩ := r.run_from hm
  obtain ⟨f, hf, hid, htime, huser, hbot⟩ :=
    due_fired hx hgood (hrun.append (r.run n)) hs hlater hrest hdue hnew
  obtain ⟨⟨f, slot⟩, hmem, rfl⟩ := List.mem_map.mp hf
  obtain ⟨k, rfl, hk, haccepted⟩ := hplaced _ hmem
  -- and the service gets to its place
  obtain ⟨j, hj, hreached⟩ := handled_reaches (n := m) h hrun
    (Nat.succ_le_of_lt (List.getElem?_eq_some_iff.mp haccepted).1)
  have hfired : (r.state m).core.fired <+: (r.state j).core.fired :=
    r.grows (fun _ _ _ hs => fired_step hs) hj
  have hgrown : (r.state m).core.channel.accepted <+: (r.state j).core.channel.accepted :=
    r.grows (fun _ _ _ hs => accepted_step hs) hj
  refine ⟨j, k, f, (r.state j).core.handled[k], hk, hfired.subset ?_, hid, htime,
    huser, hbot, List.getElem?_eq_getElem hreached, ?_⟩
  · rw [hnew]
    exact List.mem_append_right _ hmem
  · have hslot : (r.state j).core.channel.accepted[k]? = some f.request := by
      obtain ⟨more, hmore⟩ := hgrown
      rw [← hmore, List.getElem?_append_left (List.getElem?_eq_some_iff.mp haccepted).1, haccepted]
    rw [Channel.accepted, (addressed_of_run (hrun.append (r.run j))).taken, List.append_assoc,
      List.getElem?_append_left (by rw [List.length_map]; exact hreached), List.getElem?_map,
      List.getElem?_eq_getElem hreached] at hslot
    exact Option.some.inj hslot

end

/-- The alert of the sample. -/
theorem due_answered_alarm : ∃ (ls : List ProcessLabel) (r : Endless (Step sampleSetup))
    (update : PriceUpdate) (row : AlertRow),
    Runs sampleSetup Db.sampleDb ls (r.state 0) ∧ Working r ∧
    r.label 0 = .tick update calmTick ∧ row.alertId = 1 ∧
    Watch.Due alarmCrates ⟨60⟩ (Watch.after alarmCrates ⟨60⟩ (events ls)) update calmTick row ∧
    ∃ m k f done, (r.state 0).core.channel.accepted.length ≤ k ∧
      (f, some k) ∈ (r.state m).core.fired ∧ f.alertId = row.alertId ∧
      f.firedAt = calmTick.mark row.alertId ∧ f.request.userTelegramId = row.userTelegramId ∧
      f.request.botId = row.botId ∧
      (r.state m).core.handled[k]? = some done ∧ done.request = f.request := by
  obtain ⟨ls, r, update, hrun, hworking, htick, hcould⟩ := working_alarm
  have hs := r.steps 0
  rw [htick] at hs
  have hrest : (r.state 0).core.pc.AtRest := by
    rw [select_of_tick hs]
    trivial
  -- the rule that could fire comes from a row of the watch, and this row is due
  obtain ⟨hrep, _⟩ :=
    (mirrors_of_run Crates.reference_unitRange goodAlerts_sampleDb hrun).pc.rest hrest
  have hmem : (1 : Int) ∈ couldFire sampleSetup (r.state 0) update calmTick := by
    rw [hcould]
    exact List.mem_singleton_self 1
  obtain ⟨rule, hrule, hid⟩ := List.mem_map.mp hmem
  obtain ⟨row, hdue, hbuild⟩ := Ticking.due_of_could hrep hrule
  have hlabels : ls ++ (List.range 0).map r.label = ls := List.append_nil ls
  refine ⟨ls, r, update, row, hrun, hworking, htick,
    (AlertEngine.buildRule_alertId hbuild).symm.trans hid, hdue, ?_⟩
  refine due_answered Crates.reference_unitRange goodAlerts_sampleDb hrun hworking htick ?_
  rw [hlabels]
  exact hdue

end Process

end PolyNotifier
