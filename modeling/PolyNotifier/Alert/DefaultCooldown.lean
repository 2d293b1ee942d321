import PolyNotifier.Alert.Cooldown

/-!
# The default cooldown

A rule without a cooldown of its own is held back by the default of the configuration, which is
an `i64` and reaches `can_fire` through an `as i32`. Below `2 ^ 31` minutes the cast changes
nothing, and the default is kept on every run of a process (`default_cooldown_iff`). From there
on it wraps: the cooldown in force is smaller than the configured one, and can be negative.

A rule with a cooldown of its own never meets the cast. Neither meets a panic: `chrono` counts
in milliseconds that fit an `i64`, and minutes that fit an `i32` are far inside.
-/

namespace PolyNotifier

open AlertEngine (Firing TickEnv)
open Lib (Steps Table)

/-! ## The arithmetic that can panic -/

namespace Duration

/-- A `chrono::Duration` is at most `i64::MAX` milliseconds long. -/
def InRange (d : Duration) : Prop := d.natAbs ≤ (2 ^ 63 - 1) * 1000000

instance (d : Duration) : Decidable d.InRange := inferInstanceAs (Decidable (_ ≤ _))

/-- `Duration::minutes`; `none` where it panics. -/
def tryMinutes (n : Int) : Option Duration :=
  if (minutes n).InRange then some (minutes n) else none

end Duration

namespace NaiveDateTime

/-- From the first day of the year -262143 to the last of the year 262142. -/
def InRange (t : NaiveDateTime) : Prop :=
  -8334601228800 * 1000000000 ≤ (t : Int) ∧ (t : Int) < 8210266876800 * 1000000000

/-- `now - last`; `none` where it panics. -/
def trySub (now last : NaiveDateTime) : Option Duration :=
  if Duration.InRange (now - last) then some (now - last) else none

end NaiveDateTime

/-- `can_fire` with its arithmetic checked; `none` where it panics. -/
def AlertDedup.tryCanFire (d : AlertDedup) (now : NaiveDateTime) (alertId cooldownMinutes : Int) :
    Option Bool :=
  match d.lastTriggered.lookup alertId with
  | some last =>
      (Duration.tryMinutes cooldownMinutes).bind fun cooldown =>
        (NaiveDateTime.trySub now last).map fun elapsed => decide (elapsed > cooldown)
  | none => some true

/-- **A cooldown that fits an `i32` is no cause of panic.** -/
theorem AlertDedup.tryCanFire_eq {d : AlertDedup} {now : NaiveDateTime} {alertId cooldown : Int}
    (hcooldown : InI32 cooldown) (hnow : NaiveDateTime.InRange now)
    (hlast : ∀ last, d.lastTriggered.lookup alertId = some last → NaiveDateTime.InRange last) :
    d.tryCanFire now alertId cooldown = some (d.canFire now alertId cooldown) := by
  rw [tryCanFire, canFire]
  cases hlook : d.lastTriggered.lookup alertId with
  | none => rfl
  | some last =>
    have hminutes : (Duration.minutes cooldown).InRange := by
      obtain ⟨hlow, hhigh⟩ := hcooldown
      unfold Duration.InRange Duration.minutes Duration.seconds
      omega
    have hsub : Duration.InRange (now - last) := by
      have hspan : ∀ a b : Int, -8334601228800 * 1000000000 ≤ a → a < 8210266876800 * 1000000000 →
          -8334601228800 * 1000000000 ≤ b → b < 8210266876800 * 1000000000 →
          (a - b).natAbs ≤ (2 ^ 63 - 1) * 1000000 := by omega
      obtain ⟨hlow, hhigh⟩ := hlast last hlook
      exact hspan now last hnow.1 hnow.2 hlow hhigh
    simp only [Duration.tryMinutes, NaiveDateTime.trySub, if_pos hminutes, if_pos hsub,
      Option.bind_some, Option.map_some]

/-! ## The law -/

theorem inI32_asI32 (n : Int) : InI32 (asI32 n) := by
  unfold InI32 asI32
  constructor
  · exact Int.le_bmod (by decide)
  · exact Int.bmod_lt (by decide)

theorem asI32_of_inI32 {n : Int} (h : InI32 n) : asI32 n = n := by
  obtain ⟨hlow, hhigh⟩ := h
  exact Int.bmod_eq_of_le (by omega) (by omega)

/-- The cooldown the configuration promises a rule: its own if it has one, else the default. -/
def EngineConfig.promised (cfg : EngineConfig) (r : AlertRule) : Int :=
  if 0 < r.cooldownMinutes then r.cooldownMinutes else cfg.defaultCooldownMinutes

/-- The cooldown in force is the promised one, unless the cast of the default changes it. -/
theorem effectiveCooldown_eq {cfg : EngineConfig} {r : AlertRule}
    (h : 0 < r.cooldownMinutes ∨ InI32 cfg.defaultCooldownMinutes) :
    AlertEngine.effectiveCooldown cfg r = cfg.promised r := by
  rw [AlertEngine.effectiveCooldown, EngineConfig.promised]
  split
  · rfl
  · rename_i hno
    exact asI32_of_inI32 (h.resolve_left hno)

namespace System

variable (x : Crates) (cfg : EngineConfig)

/-- A run of one process, from its start. No refresh makes a recorded fire time older. -/
structure OneProcess (s : System) (es : List SystemEvent) (t : System) : Prop where
  started : s.engine = some AlertEngine.new
  log : s.log = []
  steps : Steps (fun a ev b => a.Step x cfg ev b ∧ InProcess ev ∧
    ∀ order conditionsOk, ev = .refresh order conditionsOk → NeverOlder a b) s es t

/-- Whatever tick comes next, the rules in `P` keep their promised cooldown, and `can_fire`
    does not panic on them. -/
structure KeepsCooldown (P : AlertRule → Prop) (s : System) : Prop where
  apart : ∀ e update env now fired, s.engine = some e → s.Enabled (.tick update env now) →
    (s.step x cfg (.tick update env now)).log = s.log ++ fired →
    ∀ r ∈ e.rulesOf update.tokenId, P r → ∀ f ∈ fired, f.alertId = r.alertId →
    ∀ prev, lastFiring s.log r.alertId = some prev →
      f.firedAt - prev.firedAt > Duration.minutes (cfg.promised r)
  calm : ∀ e tokenId, s.engine = some e → ∀ r ∈ e.rulesOf tokenId, P r →
    ∀ now, NaiveDateTime.InRange now →
    (∀ last, e.dedup.lastTriggered.lookup r.alertId = some last → NaiveDateTime.InRange last) →
      e.dedup.tryCanFire now r.alertId (AlertEngine.effectiveCooldown cfg r)
        = some (e.dedup.canFire now r.alertId (AlertEngine.effectiveCooldown cfg r))

/-- What such a run keeps. -/
structure Marked (s : System) : Prop where
  ids : Ids s
  /-- The map is not behind the log. -/
  memory : ∀ e, s.engine = some e → ∀ a f, lastFiring s.log a = some f →
    ∃ last, e.dedup.lastTriggered.lookup a = some last ∧ f.firedAt ≤ last
  /-- The rules were read as rows with an `i32`. -/
  inI32 : ∀ e, s.engine = some e → ∀ t, ∀ r ∈ e.rulesOf t, InI32 r.cooldownMinutes

variable {x cfg} {s : System}

theorem marked_start (hnew : s.engine = some AlertEngine.new) (hlog : s.log = []) :
    Marked s := by
  refine ⟨⟨by simp [hlog], ?_, ?_⟩, ?_, ?_⟩
  · intro e he t r hr
    rw [hnew] at he
    cases he
    cases hr
  · intro e he t
    rw [hnew] at he
    cases he
    exact List.nodup_nil
  · intro e he a f hf
    simp [hlog, lastFiring] at hf
  · intro e he t r hr
    rw [hnew] at he
    cases he
    cases hr

/-- The rule of a row that decoded has an `i32` for a cooldown. -/
theorem inI32_of_row {order : List Nat} {rows : List AlertRow}
    (hrows : s.db.fetchAlertRows order = .ok rows) {r : AlertRule}
    (hr : r ∈ rows.filterMap (AlertEngine.buildRule x)) :
    InI32 r.cooldownMinutes := by
  obtain ⟨row, hrow, hb⟩ := List.mem_filterMap.mp hr
  obtain ⟨_, _, _, _, hrule⟩ := AlertEngine.buildRule_eq_some.mp hb
  rw [hrule]
  exact ((Db.fetchAlertRows_ok hrows).2 row hrow).2

theorem marked_tick {update : PriceUpdate} {env : TickEnv} {now : NaiveDateTime}
    (h : Marked s) (hen : s.Enabled (.tick update env now)) :
    Marked (s.step x cfg (.tick update env now)) := by
  cases he : s.engine with
  | none => simpa only [step, he] using h
  | some e =>
    obtain ⟨_, _, _, _, _, hengine⟩ := tick_cases x cfg update env now he h.ids
    refine ⟨ids_step x cfg h.ids hen, ?_, ?_⟩
    · exact fun e' he' a f hf => memory_tick h.ids he (h.memory e he) he' hf
    · intro e' he' t r hr
      rw [AlertEngine.rulesOf, (hengine e' he').1] at hr
      exact h.inI32 e he t r hr

theorem marked_refresh {order : List Nat} {conditionsOk : Bool} (h : Marked s)
    (holder : NeverOlder s (s.step x cfg (.refresh order conditionsOk))) :
    Marked (s.step x cfg (.refresh order conditionsOk)) := by
  have hids := ids_step x cfg h.ids (show s.Enabled (.refresh order conditionsOk) from trivial)
  cases he : s.engine with
  | none => simpa only [step, he] using h
  | some e =>
    rcases refresh_cases x cfg order conditionsOk he with hs | ⟨rows, e', hrows, hs, hrules, _⟩
    · rw [hs]; exact h
    · rw [hs] at holder hids ⊢
      refine ⟨hids, ?_, ?_⟩
      · rintro e'' he'' a f hf
        cases he''
        obtain ⟨last, hlook, hle⟩ := h.memory e he a f hf
        obtain ⟨last', hlook', hle'⟩ := holder e e' he rfl a last hlook
        exact ⟨last', hlook', hle.trans hle'⟩
      · rintro e'' he'' t r hr
        cases he''
        rw [hrules, List.mem_filter] at hr
        exact inI32_of_row hrows hr.1

variable (x cfg) in
theorem marked_run {es : List SystemEvent} {t : System} (h : OneProcess x cfg s es t) :
    Marked t := by
  refine h.steps.inv (I := Marked) (marked_start h.started h.log) ?_
  rintro a ev b hmarked ⟨⟨hen, rfl⟩, hin, holder⟩
  cases ev with
  | tick update env now => exact marked_tick hmarked hen
  | refresh order conditionsOk => exact marked_refresh hmarked (holder order conditionsOk rfl)
  | refreshFailed => exact hmarked
  | change db =>
    exact ⟨ids_step x cfg hmarked.ids hen, hmarked.memory, hmarked.inI32⟩
  | stop => exact hin.elim
  | start => exact hin.elim

/-- **A map that is not behind the log keeps the cooldowns that the cast leaves alone.** -/
theorem keepsCooldown_of_marked {P : AlertRule → Prop} (h : Marked s)
    (hP : ∀ r, P r → 0 < r.cooldownMinutes ∨ InI32 cfg.defaultCooldownMinutes) :
    KeepsCooldown x cfg P s := by
  constructor
  · intro e update env now fired he hen hlog r hr hPr f hf hid prev hprev
    obtain ⟨fired', hlog', _, _, hfired, _⟩ := tick_cases x cfg update env now he h.ids
    obtain rfl := List.append_cancel_left (hlog'.symm.trans hlog)
    obtain ⟨r', hr', message, rfl, hcan⟩ := hfired f hf
    obtain rfl := List.inj_on_of_nodup_map (h.ids.nodup e he update.tokenId) hr' hr hid
    obtain ⟨last, hlook, hle⟩ := h.memory e he _ prev hprev
    rw [AlertDedup.canFire, hlook, effectiveCooldown_eq (hP r' hPr)] at hcan
    have hgap : env.check r'.alertId - last > Duration.minutes (cfg.promised r') := by
      simpa using hcan
    exact lt_of_lt_of_le hgap (Int.sub_le_sub (hen r'.alertId).2.1 hle)
  · intro e tokenId he r hr _ now hnow hlast
    apply AlertDedup.tryCanFire_eq _ hnow hlast
    rw [AlertEngine.effectiveCooldown]
    split
    · exact h.inI32 e he tokenId r hr
    · exact inI32_asI32 _

/-! ## Where the cast wraps -/

variable (cfg) in
/-- **A tick on a token with one rule**, which holds and is not held back. -/
theorem handlePriceUpdate_single {e : AlertEngine} {env : TickEnv} {update : PriceUpdate}
    {r : AlertRule} {message : String} (hrules : e.rulesOf update.tokenId = [r])
    (hmay : AlertEngine.mayFire cfg env update (e.prevPrices.lookup update.tokenId) e.dedup r)
    (hmessage : AlertEngine.formatNotification x r update.price update = some message) :
    AlertEngine.handlePriceUpdate x cfg env update e
      = ({ e with
            prevPrices := e.prevPrices.insert update.tokenId update.price
            dedup := e.dedup.markFired (env.mark r.alertId) r.alertId },
          [AlertEngine.firingOf cfg env r message], false) := by
  simp only [AlertEngine.handlePriceUpdate, AlertEngine.tickState, hrules, List.foldl_cons,
    List.foldl_nil, AlertEngine.tryRule, hmay, hmessage, Bool.not_true, Bool.or_self,
    Bool.false_eq_true, if_false, List.nil_append]

/-- A tick of token `yes` at half a dollar, at which everything takes no time. -/
def tickHalf (now : NaiveDateTime) : SystemEvent :=
  .tick ⟨"yes", "0xc", .cents 50, 0⟩
    ⟨fun _ => now, fun _ => now, fun _ => now, fun _ => true, fun _ => true⟩ now

/-- A user subscribed to token `yes`, with an alert above one half whose cooldown is zero. -/
def uncooledDb (x : Crates) : Db where
  users := ⟨[⟨1, 7, "bot", none, "free", 5, "UTC", 0, 0⟩], 3, by decide, by decide, by decide,
    by decide, by decide, by decide⟩
  markets := ⟨[⟨1, "0xc", "Will it?", none, "[]", x.writeStrings ["yes"], "[]", true, 0, 0⟩], 3,
    List.nodup_singleton _, List.nodup_singleton _, by simp [marketSpec], by simp [marketSpec],
    by decide, by decide⟩
  subscriptions := ⟨[⟨1, 1, 1, 0, true, 1⟩], 3, by decide, by decide, by decide, by decide,
    by decide, by decide⟩
  alerts := ⟨[⟨1, 1, "above", .num (Decimal.cents 50).value, false, 0, none, 0⟩], 3, by decide,
    by decide, by decide, by decide +kernel, by decide, by decide⟩
  notificationLog := Lib.Table.empty
  feedback := Lib.Table.empty
  subscriptionUser := by decide
  subscriptionMarket := by simp [Lib.Table.hasKey, marketSpec]
  alertSubscription := by decide +kernel
  notificationLogUser := by decide
  feedbackUser := by decide

/-- Its rule. -/
def uncooledRule (threshold : Decimal) : AlertRule :=
  { alertId := 1, subscriptionId := 1, userTelegramId := 7, botId := "bot", tokenId := "yes",
    outcomeIndex := 0, marketQuestion := "Will it?", alertType := .above, threshold,
    cooldownMinutes := 0, lastTriggeredAt := none }

/-- A process that has just started over it. -/
def uncooled (x : Crates) : System := ⟨uncooledDb x, some AlertEngine.new, 0, []⟩

variable (cfg) in
theorem refresh_uncooled (hx : x.Lawful) {half : Decimal}
    (hhalf : x.decimalTryFrom (.num (Decimal.cents 50).value) = some half) :
    ∃ e, (uncooled x).step x cfg (.refresh [] true) = { uncooled x with engine := some e } ∧
      e.rulesOf "yes" = [uncooledRule half] ∧ e.dedup = AlertDedup.new := by
  have hrow : (uncooledDb x).fetchAlertRows [] = .ok [⟨1, 1, "above",
      .num (Decimal.cents 50).value, 0, none, 7, "bot", 0, "Will it?",
      x.writeStrings ["yes"]⟩] := rfl
  have hrule : AlertEngine.buildRule x ⟨1, 1, "above", .num (Decimal.cents 50).value, 0, none, 7,
      "bot", 0, "Will it?", x.writeStrings ["yes"]⟩ = some (uncooledRule half) := by
    rw [AlertEngine.buildRule, hx.parseStrings_writeStrings, hhalf]
    rfl
  refine ⟨AlertEngine.refreshCache x (some [_]) (some (uncooledDb x).fetchConditionRows)
    AlertEngine.new, by simp only [step, uncooled, hrow]; rfl, ?_, ?_⟩
  · rw [AlertEngine.rulesOf_refreshCache, List.filterMap_cons_some hrule, List.filterMap_nil]
    rfl
  · show AlertDedup.new.loadFromAlerts _ = _
    rw [List.filterMap_cons_some hrule, List.filterMap_nil]
    rfl

variable (cfg) in
/-- **The rule fires whenever it is not held back.** -/
theorem tickHalf_fires {e : AlertEngine} {half : Decimal} {now : NaiveDateTime}
    (hhalf : half.value = (Decimal.cents 50).value) (he : s.engine = some e)
    (hrules : e.rulesOf "yes" = [uncooledRule half])
    (hcan : e.dedup.canFire now 1 (asI32 cfg.defaultCooldownMinutes) = true) :
    ∃ f e', (s.step x cfg (tickHalf now)).log = s.log ++ [f] ∧ f.alertId = 1 ∧ f.firedAt = now ∧
      (s.step x cfg (tickHalf now)).engine = some e' ∧ e'.rulesOf "yes" = [uncooledRule half] ∧
      (s.step x cfg (tickHalf now)).clock = now ∧
      e'.dedup.lastTriggered.lookup 1 = some now := by
  have hunit : Decimal.zero ≤ half ∧ half ≤ ⟨1, 0, by decide, by decide⟩ := by
    rw [Decimal.le_iff_value_le, Decimal.le_iff_value_le, hhalf]
    exact ⟨by norm_num [Decimal.value, Decimal.zero, Decimal.cents],
      by norm_num [Decimal.value, Decimal.cents]⟩
  have hholds : (uncooledRule half).threshold ≤ Decimal.cents 50 :=
    Decimal.le_iff_value_le.mpr (le_of_eq hhalf)
  obtain ⟨percent, hpercent⟩ :=
    Option.isSome_iff_exists.mp (Decimal.checkedMul_hundred_isSome hunit.1 hunit.2)
  have hmay : AlertEngine.mayFire cfg
      ⟨fun _ => now, fun _ => now, fun _ => now, fun _ => true, fun _ => true⟩
      ⟨"yes", "0xc", .cents 50, 0⟩ (e.prevPrices.lookup "yes") e.dedup (uncooledRule half) := by
    rw [AlertEngine.mayFire, Bool.and_eq_true]
    exact ⟨decide_eq_true hholds, hcan⟩
  -- the percentage of a threshold of one half is in range, so the text is formatted
  have hmessage : ∃ message, AlertEngine.formatNotification x (uncooledRule half) (.cents 50)
      ⟨"yes", "0xc", .cents 50, 0⟩ = some message := by
    simp only [AlertEngine.formatNotification, uncooledRule, hpercent, Option.map_some]
    exact ⟨_, rfl⟩
  obtain ⟨message, hmessage⟩ := hmessage
  have htick := handlePriceUpdate_single cfg hrules hmay hmessage
  refine ⟨AlertEngine.firingOf cfg
      ⟨fun _ => now, fun _ => now, fun _ => now, fun _ => true, fun _ => true⟩
      (uncooledRule half) message,
    { e with
      prevPrices := e.prevPrices.insert "yes" (.cents 50)
      dedup := e.dedup.markFired now 1 },
    ?_, rfl, rfl, ?_, hrules, ?_, AlertDedup.lookup_markFired _ _ _⟩
  · simp only [step, tickHalf, he, htick]
  · simp only [step, tickHalf, he, htick, Bool.false_eq_true, if_false]
    rfl
  · simp only [step, tickHalf, he, htick]

theorem ofRat_half : F64.ofRat (Decimal.cents 50).value = .num (Decimal.cents 50).value := by
  decide +kernel

/-- **From `2 ^ 31` minutes on the default is not kept**: the rule fires, and fires again a
    nanosecond after the cooldown in force, which is less than the default. -/
theorem exists_early_firing (hx : x.Lawful) {d : Int} (hd : 2 ^ 31 ≤ d) :
    ∃ s es t, OneProcess x ⟨d⟩ s es t ∧ ¬ KeepsCooldown x ⟨d⟩ (fun _ => True) t := by
  obtain ⟨half, hhalf, hvalue⟩ := hx.tryFrom_exact (Decimal.cents 50) (by decide)
    ofRat_half
  obtain ⟨e, hrefresh, hrules, hdedup⟩ := refresh_uncooled ⟨d⟩ hx hhalf
  have hfree : e.dedup.canFire 0 1 (asI32 d) = true := by rw [hdedup]; rfl
  -- the first firing
  obtain ⟨f, e', hlog, hid, hat, he', hrules', hclock, hlook⟩ :=
    tickHalf_fires (x := x) (s := { uncooled x with engine := some e }) ⟨d⟩ hvalue rfl hrules
      hfree
  generalize ht : ({ uncooled x with engine := some e } : System).step x ⟨d⟩ (tickHalf 0) = t
    at hlog he' hclock
  refine ⟨uncooled x, [.refresh [] true, tickHalf 0], t, ⟨rfl, rfl, ?_⟩, fun h => ?_⟩
  · refine .cons ⟨⟨trivial, rfl⟩, trivial, ?_⟩ (.cons ⟨⟨?_, ?_⟩, trivial, ?_⟩ .nil)
    · intro _ c hc e₀ e₁ he₀ _ a last hlast
      cases he₀
      cases hlast
    · intro a
      rw [hrefresh]
      exact ⟨le_refl _, le_refl _, le_refl _, le_refl _⟩
    · rw [hrefresh, ht]
    · intro _ c hc
      cases hc
  · -- the second, when the cooldown in force is just over
    let gap : NaiveDateTime := max 0 (Duration.minutes (asI32 d)) + 1
    have hcan : e'.dedup.canFire gap 1 (asI32 d) = true := by
      have hover : ∀ m : Int, max 0 m + 1 - 0 > m := by omega
      rw [AlertDedup.canFire, hlook]
      exact decide_eq_true (hover _)
    obtain ⟨g, _, hlog', hid', hat', _⟩ :=
      tickHalf_fires (x := x) (s := t) ⟨d⟩ hvalue he' hrules' hcan
    have hlast : lastFiring t.log 1 = some f := by
      rw [hlog, ← hid]
      exact lastFiring_append_of_mem (List.nodup_singleton _) (List.mem_singleton_self f)
    have henabled : t.Enabled (tickHalf gap) := by
      have hlater : ∀ m : Int, 0 ≤ max 0 m + 1 := by omega
      intro a
      rw [hclock]
      exact ⟨hlater _, le_refl _, le_refl _, le_refl _⟩
    have hapart := h.apart e' _ _ _ [g] he' henabled hlog' (uncooledRule half)
      (by rw [hrules']; exact List.mem_singleton_self _) trivial g (List.mem_singleton_self g)
      hid' f hlast
    have hwrap : asI32 d < 2 ^ 31 := (inI32_asI32 d).2
    rw [hat', hat] at hapart
    have hearly : ∀ m : Int, m < 2 ^ 31 → 2 ^ 31 ≤ d →
        ¬ max 0 (m * 60 * 1000000000) + 1 - 0 > d * 60 * 1000000000 := by omega
    exact hearly _ hwrap hd hapart

/-- **The default cooldown.** A rule with a cooldown of its own keeps it, whatever the default is.
    For the others the default is what is promised, and the cast to `i32` is what they get: the two
    agree if and only if the default is below `2 ^ 31`. Both are about every run of one process. -/
theorem default_cooldown_iff (hx : x.Lawful) (d : Int) :
    (∀ s es t, OneProcess x ⟨d⟩ s es t →
      KeepsCooldown x ⟨d⟩ (fun r => 0 < r.cooldownMinutes) t) ∧
    (1 ≤ d → ((∀ s es t, OneProcess x ⟨d⟩ s es t → KeepsCooldown x ⟨d⟩ (fun _ => True) t) ↔
      d < 2 ^ 31)) := by
  constructor
  · intro s es t hrun
    exact keepsCooldown_of_marked (marked_run x ⟨d⟩ hrun) fun r hr => .inl hr
  · intro hd
    constructor
    · intro hall
      by_contra hlarge
      obtain ⟨s, es, t, hrun, hbroken⟩ := exists_early_firing hx (not_lt.mp hlarge)
      exact hbroken (hall s es t hrun)
    · intro hsmall s es t hrun
      refine keepsCooldown_of_marked (marked_run x ⟨d⟩ hrun) fun r _ => .inr ⟨?_, hsmall⟩
      exact le_trans (by decide) hd

/-- A default of one hour. -/
theorem default_cooldown_hour :
    (∀ s es t, OneProcess Crates.reference ⟨60⟩ s es t →
      KeepsCooldown Crates.reference ⟨60⟩ (fun r => 0 < r.cooldownMinutes) t) ∧
    ((∀ s es t, OneProcess Crates.reference ⟨60⟩ s es t →
      KeepsCooldown Crates.reference ⟨60⟩ (fun _ => True) t) ↔ (60 : Int) < 2 ^ 31) :=
  ⟨(default_cooldown_iff Crates.reference_lawful 60).1,
    (default_cooldown_iff Crates.reference_lawful 60).2 (by decide)⟩

/-- A default of `2 ^ 32` minutes is none: the cast leaves zero, and an alert without a cooldown of
    its own fires at every tick. -/
theorem wrapped_default_turns_off :
    AlertEngine.effectiveCooldown ⟨2 ^ 32⟩ (uncooledRule .zero) = 0 ∧
      ¬ ∀ s es t, OneProcess Crates.reference ⟨2 ^ 32⟩ s es t →
        KeepsCooldown Crates.reference ⟨2 ^ 32⟩ (fun _ => True) t := by
  refine ⟨by decide, fun hall => ?_⟩
  obtain ⟨s, es, t, hrun, hbroken⟩ :=
    exists_early_firing (d := 2 ^ 32) Crates.reference_lawful (by decide)
  exact hbroken (hall s es t hrun)

end System

end PolyNotifier
