import PolyNotifier.Alert.Watch
import PolyNotifier.Bot.States
import PolyNotifier.Main.Justified

/-!
# The engine does not panic

A message shows the threshold of its rule in percent, and the multiplication panics if the product
is no decimal. A panic ends the task of the engine, and with it every alert of the process. It
does not come to that: the bots write good alerts only, nobody else writes a type or a threshold,
so every rule the engine has ever read has a threshold that can be shown.
-/

namespace PolyNotifier

open Lib (Pool Steps)
open AlertEngine (buildRule formatNotification)

/-- The decimal of a number between 0 and 1 is between 0 and 1. -/
def Crates.UnitRange (x : Crates) : Prop :=
  ∀ (q : ℚ) (d : Decimal), 0 ≤ q → q ≤ 1 → x.decimalTryFrom (.num q) = some d →
    0 ≤ d.value ∧ d.value ≤ 1

/-- Every alert has a type the engine knows and a threshold between 0 and 1. -/
def Db.GoodAlerts (d : Db) : Prop := ∀ a ∈ d.alerts.rows, GoodAlert a.alertType a.threshold

namespace Decimal

theorem between_zero_one {d : Decimal} (h0 : 0 ≤ d.value) (h1 : d.value ≤ 1) :
    zero ≤ d ∧ d ≤ ⟨1, 0, by decide, by decide⟩ := by
  have hone : (⟨1, 0, by decide, by decide⟩ : Decimal).value = 1 := by simp [value]
  have hzero : zero.value = 0 := by simp [value, zero]
  rw [le_iff_value_le, le_iff_value_le, hone, hzero]
  exact ⟨h0, h1⟩

end Decimal

theorem Crates.reference_unitRange : Crates.reference.UnitRange := by
  intro q d h0 h1 h
  obtain ⟨d', hd', hrange⟩ := Decimal.fromF64_unit h0 h1
  obtain rfl : d' = d := Option.some.inj (hd'.symm.trans h)
  exact hrange

/-! ## Rules of good alerts -/

theorem Db.alertRow_condition {d : Db} {a : Alert} {row : AlertRow}
    (h : d.alertRow a = some row) :
    row.alertType = a.alertType ∧ row.threshold = a.threshold := by
  unfold Db.alertRow at h
  obtain ⟨s, _, h⟩ := Option.bind_eq_some_iff.mp h
  obtain ⟨m, _, h⟩ := Option.bind_eq_some_iff.mp h
  obtain ⟨u, _, h⟩ := Option.bind_eq_some_iff.mp h
  split at h
  · cases h
    exact ⟨rfl, rfl⟩
  · cases h

variable {x : Crates}

/-- The threshold of a good alert can be shown. -/
theorem GoodAlert.fits {row : AlertRow} (hx : x.UnitRange)
    (h : GoodAlert row.alertType row.threshold) : Watch.Fits x row := by
  obtain ⟨q, hq, h0, h1⟩ := h.threshold
  have hrange : Decimal.zero ≤ (x.decimalTryFrom row.threshold).getD Decimal.zero ∧
      (x.decimalTryFrom row.threshold).getD Decimal.zero ≤ ⟨1, 0, by decide, by decide⟩ := by
    rw [hq]
    cases hd : x.decimalTryFrom (.num q) with
    | none =>
      rw [Option.getD_none]
      decide
    | some d =>
      obtain ⟨hd0, hd1⟩ := hx q d h0 h1 hd
      exact Decimal.between_zero_one hd0 hd1
  exact Watch.fits_of_unit x hrange.1 hrange.2

/-- The rows of a database with good alerts fit, -/
theorem fits_of_goodAlerts {d : Db} (hx : x.UnitRange) (hgood : d.GoodAlerts) :
    ∀ row ∈ d.alerts.rows.filterMap d.alertRow, Watch.Fits x row := by
  intro row hrow
  obtain ⟨a, ha, hrow⟩ := List.mem_filterMap.mp hrow
  obtain ⟨htype, hthreshold⟩ := Db.alertRow_condition hrow
  refine GoodAlert.fits hx ?_
  rw [htype, hthreshold]
  exact hgood a ha

/-- and the messages of its rules can be written. -/
theorem RuleOf.format {d : Db} {r : AlertRule} (hx : x.UnitRange) (hgood : d.GoodAlerts)
    (h : RuleOf x d r) (price : Decimal) (update : PriceUpdate) :
    (formatNotification x r price update).isSome = true := by
  obtain ⟨row, hrow, hbuild⟩ := h
  have hfits := fits_of_goodAlerts hx hgood row hrow
  obtain ⟨_, _, _, _, heq⟩ := AlertEngine.buildRule_eq_some.mp hbuild
  have hthreshold : r.threshold = (x.decimalTryFrom row.threshold).getD Decimal.zero := by rw [heq]
  rw [Watch.Fits, ← hthreshold] at hfits
  rw [formatNotification, Option.isSome_map]
  exact hfits

/-! ## The process -/

namespace Process

variable {c : Setup} {d : Db} {ls : List ProcessLabel} {l : ProcessLabel} {p p' : Process}

/-- **What every run keeps.** It is `Bot.States` for each dispatcher: no state and no handler under
    way can lead to an alert that is not good, so none is ever written. -/
structure SoundBots (d : Db) (p : Process) : Prop where
  alerts : GoodOrKept d p.db
  dialogues : ∀ (i : Nat) B, p.dispatchers[i]? = some B →
    ∀ chat, (B.pool.state.dialogues chat).WellFormed
  threads : ∀ (i : Nat) B, p.dispatchers[i]? = some B →
    B.pool.Obeys (writing DialogueState.WellFormed Stmt.GoodAlerts) fun _ => ()

theorem soundBots_start (c : Setup) (d : Db) : SoundBots d (start c d) := by
  have hstart : ∀ (i : Nat) B, (start c d).dispatchers[i]? = some B → B = Bot.start d := by
    intro i B hB
    have hmap : (c.tokens.map fun _ => Bot.start d)[i]? = some B := hB
    rw [List.getElem?_map, Option.map_eq_some_iff] at hmap
    obtain ⟨_, _, rfl⟩ := hmap
    rfl
  refine ⟨fun a ha => .inl ⟨a, ha, rfl, rfl, rfl⟩, fun i B hB => ?_, fun i B hB => ?_⟩
  · rw [hstart i B hB]
    exact (sound_start permits_wellFormed d).dialogues
  · rw [hstart i B hB]
    exact (sound_start permits_wellFormed d).threads

theorem SoundBots.other (h : SoundBots d p) (hs : Step c p l p') (hl : ∀ i b, l ≠ .bot i b)
    (hdispatchers : p'.dispatchers = p.dispatchers) : SoundBots d p' := by
  refine ⟨fun a ha => ?_, by rw [hdispatchers]; exact h.dialogues,
    by rw [hdispatchers]; exact h.threads⟩
  obtain ⟨a₀, ha₀, hid, htype, hthreshold⟩ := (step_maintains hs hl).1.conditions a ha
  rcases h.alerts a₀ ha₀ with ⟨a₁, ha₁, hid₁, htype₁, hthreshold₁⟩ | hgood
  · exact .inl ⟨a₁, ha₁, hid₁.trans hid, htype₁.trans htype, hthreshold₁.trans hthreshold⟩
  · rw [htype, hthreshold] at hgood
    exact .inr hgood

theorem SoundBots.step (h : SoundBots d p) (hs : Step c p l p') : SoundBots d p' := by
  have hs' := hs
  cases hs with
  | @bot i token B B' bl htoken hB hstep =>
    have hsound : Sound DialogueState.WellFormed d (B.on p.db) :=
      ⟨h.dialogues i B hB, h.threads i B hB, h.alerts⟩
    have hsound' := sound_step _ _ _ hsound hstep
    have hset : ∀ (j : Nat) B₁, (p.dispatchers.set i B')[j]? = some B₁ →
        B₁ = B' ∨ p.dispatchers[j]? = some B₁ := by
      intro j B₁ hB₁
      rw [List.getElem?_set] at hB₁
      split at hB₁
      · split at hB₁
        · exact .inl (Option.some.inj hB₁).symm
        · cases hB₁
      · exact .inr hB₁
    refine ⟨hsound'.alerts, fun j B₁ hB₁ => ?_, fun j B₁ hB₁ => ?_⟩
    · rcases hset j B₁ hB₁ with rfl | hold
      · exact hsound'.dialogues
      · exact h.dialogues j B₁ hold
    · rcases hset j B₁ hB₁ with rfl | hold
      · exact hsound'.threads
      · exact h.threads j B₁ hold
  | _ => exact h.other hs' (fun _ _ heq => by cases heq) rfl

theorem soundBots_of_run (hrun : Runs c d ls p) : SoundBots d p :=
  hrun.inv (soundBots_start c d) fun _ _ _ h hs => h.step hs

theorem goodAlerts_of_run (hgood : d.GoodAlerts) (hrun : Runs c d ls p) : p.db.GoodAlerts := by
  intro a ha
  rcases (soundBots_of_run hrun).alerts a ha with ⟨a₀, ha₀, _, htype, hthreshold⟩ | hnew
  · rw [← htype, ← hthreshold]
    exact hgood a₀ ha₀
  · exact hnew

/-- Every rule that was ever in the database has its message. -/
theorem WasRule.format {r : AlertRule} (hx : c.crates.UnitRange) (hgood : d.GoodAlerts)
    (h : WasRule c d ls p r) (price : Decimal) (update : PriceUpdate) :
    (formatNotification c.crates r price update).isSome = true := by
  obtain ⟨_, _, q, _, hrun, _, hrule⟩ := h
  exact hrule.format hx (goodAlerts_of_run hgood hrun) price update

/-- A step that gets the engine to panic: its message cannot be written. -/
theorem panicked_step (h : p.core.pc ≠ .panicked) (hs : Step c p l p')
    (hpanicked : p'.core.pc = .panicked) : ∃ t r, p.core.pc = .rules t ∧ r ∈ t.rest ∧
      formatNotification c.crates r t.update.price t.update = none := by
  have hmove : ∀ {e : Shutdown.EngineLabel} {s : Shutdown.State},
      EngineMove c.crates c.alert p.core e s → s.pc = .panicked → ∃ t r, p.core.pc = .rules t ∧
        r ∈ t.rest ∧ formatNotification c.crates r t.update.price t.update = none := by
    intro e s hm hs
    cases hm with
    | @panics t r hpc hformat => exact ⟨_, r, hpc, List.mem_cons_self .., hformat⟩
    | lags => exact absurd hs h
    | _ => cases hs
  cases hs with
  | tick _ _ hstep => exact hmove (engineStep_cases (.inr (.inr ⟨_, _, rfl⟩)) hstep) hpanicked
  | lagged _ _ hstep => exact hmove (engineStep_cases (.inr (.inl rfl)) hstep) hpanicked
  | engine _ halone hstep => exact hmove (engineStep_cases (.inl halone) hstep) hpanicked
  | service hstep => exact absurd ((service_engine hstep).2.1.symm.trans hpanicked) h
  | readConditions => cases hpanicked
  | endFlush =>
    dsimp only at hpanicked
    split at hpanicked
    · cases hpanicked
    · exact absurd hpanicked h
  | _ => exact absurd hpanicked h

theorem not_panicked_of_run (hx : c.crates.UnitRange) (hgood : d.GoodAlerts)
    (hrun : Runs c d ls p) : p.core.pc ≠ .panicked := by
  induction hrun with
  | nil => exact nofun
  | snoc hrun hs ih =>
    intro hpanicked
    obtain ⟨t, r, hpc, hr, hnone⟩ := panicked_step ih hs hpanicked
    have hpcs := (grounded_of_run hrun).pc
    rw [hpc] at hpcs
    have hsome := (hpcs r hr).rule.format hx hgood t.update.price t.update
    rw [hnone] at hsome
    cases hsome

/-- **No alert can stop the engine.** If the alerts the process starts with have known types and
    thresholds between 0 and 1, then in every run, whatever users type and press and however the
    tasks interleave, so have all alerts of the database, and the engine never panics. -/
theorem engine_never_panics (hx : c.crates.UnitRange) (hgood : d.GoodAlerts)
    (hrun : Runs c d ls p) : p.db.GoodAlerts ∧ p.core.pc ≠ .panicked :=
  ⟨goodAlerts_of_run hgood hrun, not_panicked_of_run hx hgood hrun⟩

theorem goodAlerts_sampleDb : Db.sampleDb.GoodAlerts := by
  intro a ha
  have hall : (Db.sampleDb.alerts.rows.map fun a => (a.alertType, a.threshold)) =
      [("above", .num (3 / 4)), ("above", .num (3 / 4))] := by decide +kernel
  have hmem : (a.alertType, a.threshold) ∈ [("above", F64.num (3 / 4)),
      ("above", F64.num (3 / 4))] := by
    rw [← hall]
    exact List.mem_map_of_mem ha
  have heq : (a.alertType, a.threshold) = ("above", F64.num (3 / 4)) := by simpa using hmem
  obtain ⟨htype, hthreshold⟩ := Prod.mk.inj heq
  rw [htype, hthreshold]
  exact ⟨rfl, ⟨.above, rfl⟩, _, rfl, by norm_num, by norm_num⟩

/-- The sample: its alerts are good, and the engine has written a message. -/
theorem engine_never_panics_alarm : ∃ ls p, Runs sampleSetup Db.sampleDb ls p ∧
    p.outcome = ([(1, some 0)], [(some 1, true)], 1) ∧
    p.db.GoodAlerts ∧ p.core.pc ≠ .panicked := by
  obtain ⟨ls, p, hrun, houtcome⟩ := alarm_run
  exact ⟨ls, p, hrun, houtcome,
    engine_never_panics Crates.reference_unitRange goodAlerts_sampleDb hrun⟩

end Process

end PolyNotifier
