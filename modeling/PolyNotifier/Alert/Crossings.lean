import PolyNotifier.Alert.Watch
import PolyNotifier.Lib.Crossing

/-!
# Cross alerts over a run

`evaluate` sees a price and the one before, and it is `handle_price_update` that says which one
that is. So a tick is kept here with the engine that handles it, and whether a rule evaluates to
true is read off what `handlePriceUpdate` does with the rule (`HandledTick.Marks`); only
`HandledTick.marks_iff` looks inside. `ticksOf_chained` says that the price before is the price of
the tick before. From there a cross alert is the detector of `Lib.Crossing`.
-/

namespace PolyNotifier

open Lib.Crossing

namespace AlertEngine

/-- The engine as it would be if one rule watched the token and nothing had fired. No cooldown holds
    the rule back then, so the loop of the next tick gets to the mark if and only if `evaluate` has
    said yes to the two prices it was given. -/
def withOnly (e : AlertEngine) (tokenId : String) (r : AlertRule) : AlertEngine :=
  { e with ruleCache := e.ruleCache.insert tokenId [r], dedup := .new }

/-- A tick, and the engine that handles it. The prices the rules see are not part of it: which ones
    they are is what the engine says. -/
structure HandledTick where
  engine : AlertEngine
  update : PriceUpdate
  env : TickEnv

namespace HandledTick

/-- The last price the engine has of the token. -/
def previous (tick : HandledTick) : Option Decimal :=
  tick.engine.prevPrices.lookup tick.update.tokenId

/-- The rule evaluates to true at the tick: with no other rule and no cooldown, it is marked. -/
def Marks (x : Crates) (cfg : EngineConfig) (tick : HandledTick) (r : AlertRule) : Prop :=
  (handlePriceUpdate x cfg tick.env tick.update
      (tick.engine.withOnly tick.update.tokenId r)).1.dedup.lastTriggered.lookup r.alertId =
    some (tick.env.mark r.alertId)

/-- **What `handle_price_update` gives to `evaluate`**: the price of the tick, and the price it has
    found before it stored that one. -/
theorem marks_iff {x : Crates} {cfg : EngineConfig} {tick : HandledTick} {r : AlertRule} :
    tick.Marks x cfg r ↔ r.evaluate tick.update.price tick.previous = true := by
  have hrules : (tick.engine.withOnly tick.update.tokenId r).rulesOf tick.update.tokenId = [r] := by
    rw [rulesOf, withOnly, Finmap.lookup_insert, Option.getD_some]
  have hmay : mayFire cfg tick.env tick.update tick.previous .new r =
      r.evaluate tick.update.price tick.previous := Bool.and_true _
  show (tickState x cfg tick.env tick.update
    (tick.engine.withOnly tick.update.tokenId r)).dedup.lastTriggered.lookup r.alertId = _ ↔ _
  rw [tickState, hrules, List.foldl_cons, List.foldl_nil]
  show (tryRule x cfg tick.env tick.update tick.previous ⟨.new, [], false⟩
    r).dedup.lastTriggered.lookup r.alertId = _ ↔ _
  unfold tryRule
  rw [hmay, Bool.false_or]
  cases r.evaluate tick.update.price tick.previous with
  | false =>
    -- the loop goes on to the next rule, and nothing is marked
    rw [Bool.not_false, if_pos rfl]
    constructor
    · intro h
      cases h
    · intro h
      cases h
  | true =>
    -- the mark comes before the message, so it is there even if the message panics
    rw [Bool.not_true, if_neg Bool.false_ne_true]
    cases formatNotification x r tick.update.price tick.update with
    | none => exact ⟨fun _ => rfl, fun _ => AlertDedup.lookup_markFired _ _ _⟩
    | some message => exact ⟨fun _ => rfl, fun _ => AlertDedup.lookup_markFired _ _ _⟩

end HandledTick

/-- The tick that an event is for a token. A tick after a panic is for no token, since no engine
    handles it. -/
def tickOf (tokenId : String) : Option AlertEngine → EngineEvent → Option HandledTick
  | some e, .tick update env => if update.tokenId = tokenId then some ⟨e, update, env⟩ else none
  | _, _ => none

/-- The ticks of a token in a run. -/
def ticksOf (x : Crates) (cfg : EngineConfig) (tokenId : String) :
    Option AlertEngine → List EngineEvent → List HandledTick
  | _, [] => []
  | s, ev :: es => (tickOf tokenId s ev).toList ++ ticksOf x cfg tokenId (step x cfg s ev).1 es

/-- Each tick comes with the price of the tick before. The first comes with what the list is given,
    which for a run from the beginning is no price at all. -/
def Chained : Option Decimal → List HandledTick → Prop
  | _, [] => True
  | previous, tick :: ticks =>
      tick.previous = previous ∧ Chained (some tick.update.price) ticks

section

variable {x : Crates} {cfg : EngineConfig} {tokenId : String}

theorem ticksOf_none (es : List EngineEvent) : ticksOf x cfg tokenId none es = [] := by
  induction es with
  | nil => rfl
  | cons ev es ih =>
    have hnone : (step x cfg none ev).1 = none := by
      cases ev <;> rfl
    rw [ticksOf, hnone, ih]
    cases ev <;> rfl

theorem prevPrices_refreshCache (rows : Option (List AlertRow))
    (conditions : Option (List ConditionRow)) (e : AlertEngine) :
    (refreshCache x rows conditions e).prevPrices = e.prevPrices := by
  cases rows with
  | none => rfl
  | some rows => cases conditions <;> rfl

/-- **`handle_price_update` supplies the price of the tick before**, and none at the first. -/
theorem ticksOf_chained (e : AlertEngine) (es : List EngineEvent) :
    Chained (e.prevPrices.lookup tokenId) (ticksOf x cfg tokenId (some e) es) := by
  induction es generalizing e with
  | nil => trivial
  | cons ev es ih =>
    cases ev with
    | refresh rows conditions =>
      have h := ih (refreshCache x (some rows) conditions e)
      rw [prevPrices_refreshCache] at h
      exact h
    | refreshFailed => exact ih e
    | lagged n => exact ih e
    | tick update env =>
      rw [ticksOf, tickOf]
      -- the price is stored whether the tick goes through or panics
      have hrest : ∀ previous,
          (e.prevPrices.insert update.tokenId update.price).lookup tokenId = previous →
          Chained previous
            (ticksOf x cfg tokenId (step x cfg (some e) (.tick update env)).1 es) := by
        rintro _ rfl
        unfold step
        dsimp only
        split
        · rw [ticksOf_none]
          trivial
        · exact ih (handlePriceUpdate x cfg env update e).1
      by_cases htoken : update.tokenId = tokenId
      · rw [if_pos htoken]
        exact ⟨congrArg e.prevPrices.lookup htoken, hrest _ (htoken ▸ Finmap.lookup_insert _)⟩
      · rw [if_neg htoken]
        exact hrest _ (Finmap.lookup_insert_of_ne _ (Ne.symm htoken))

theorem Chained.zero {previous : Option Decimal} {ticks : List HandledTick}
    (h : Chained previous ticks) {tick : HandledTick} (hk : ticks[0]? = some tick) :
    tick.previous = previous := by
  cases ticks with
  | nil => cases hk
  | cons t ts =>
    cases hk
    exact h.1

theorem Chained.succ {previous : Option Decimal} {ticks : List HandledTick}
    (h : Chained previous ticks) {k : ℕ} {before tick : HandledTick}
    (hbefore : ticks[k]? = some before) (hk : ticks[k + 1]? = some tick) :
    tick.previous = some before.update.price := by
  induction ticks generalizing previous k with
  | nil => cases hk
  | cons t ts ih =>
    cases k with
    | zero =>
      cases hbefore
      exact h.2.zero hk
    | succ k => exact ih h.2 hbefore hk

end

end AlertEngine

/-! ## The rule as a detector -/

namespace AlertRule

open AlertEngine

variable {x : Crates} {cfg : EngineConfig} {r : AlertRule}

theorem evaluate_cross_none (hr : r.alertType = .cross) (current : Decimal) :
    r.evaluate current none = false := by
  rw [evaluate, hr]

/-- Decimals compare as their values do. -/
theorem evaluate_cross_iff (hr : r.alertType = .cross) (current prev : Decimal) :
    r.evaluate current (some prev) = true ↔
      Crosses r.threshold.value prev.value current.value := by
  rw [evaluate, hr]
  simp only [Bool.or_eq_true, Bool.and_eq_true, decide_eq_true_eq, Decimal.lt_iff_value_lt,
    Decimal.le_iff_value_le, Crosses, Up, Down]

/-- The rule evaluates to true at a position. -/
def EvaluatesAt (x : Crates) (cfg : EngineConfig) (r : AlertRule) (ticks : List HandledTick)
    (k : ℕ) : Prop :=
  ∃ tick, ticks[k]? = some tick ∧ tick.Marks x cfg r

/-- The price at a position, as the exact number it is. -/
def priceAt (ticks : List HandledTick) (k : ℕ) : ℚ :=
  ((ticks[k]?).map fun tick => tick.update.price.value).getD 0

theorem not_evaluatesAt_zero (hr : r.alertType = .cross) {ticks : List HandledTick}
    (h : Chained none ticks) : ¬ r.EvaluatesAt x cfg ticks 0 := by
  rintro ⟨tick, htick, hmarks⟩
  have heval := HandledTick.marks_iff.mp hmarks
  rw [h.zero htick, evaluate_cross_none hr] at heval
  cases heval

theorem evaluatesAt_succ_iff (hr : r.alertType = .cross) {previous : Option Decimal}
    {ticks : List HandledTick} (h : Chained previous ticks) {k : ℕ} (hk : k + 1 < ticks.length) :
    r.EvaluatesAt x cfg ticks (k + 1) ↔
      Crosses r.threshold.value (priceAt ticks k) (priceAt ticks (k + 1)) := by
  obtain ⟨before, hbefore⟩ : ∃ before, ticks[k]? = some before :=
    ⟨_, List.getElem?_eq_getElem (Nat.lt_of_succ_lt hk)⟩
  obtain ⟨tick, htick⟩ : ∃ tick, ticks[k + 1]? = some tick :=
    ⟨_, List.getElem?_eq_getElem hk⟩
  have hprev := h.succ hbefore htick
  have hcross := evaluate_cross_iff hr tick.update.price before.update.price
  have hmarks : tick.Marks x cfg r ↔ _ := HandledTick.marks_iff
  rw [← hprev, ← hmarks] at hcross
  rw [priceAt, priceAt, hbefore, htick]
  simp only [Option.map_some, Option.getD_some]
  rw [← hcross]
  constructor
  · rintro ⟨tick', htick', hmarks⟩
    rw [htick] at htick'
    cases htick'
    exact hmarks
  · intro hmarks
    exact ⟨tick, htick, hmarks⟩

/-- **A cross alert misses no crossing and counts each once**, in every run of the engine,
    refreshes and lags included. At the first tick it is silent, for there is no price before.
    Between two prices on opposite sides it fires, and exactly once if the prices between them only
    rise or only fall, however many of them lie on the threshold; as long as they stay on one side
    it does not. -/
theorem cross_exact (x : Crates) (cfg : EngineConfig) (es : List EngineEvent) (tokenId : String)
    {r : AlertRule} (hr : r.alertType = .cross) :
    ¬ r.EvaluatesAt x cfg (ticksOf x cfg tokenId (some AlertEngine.new) es) 0 ∧
    ∀ i j, i < j → j < (ticksOf x cfg tokenId (some AlertEngine.new) es).length →
      let price := priceAt (ticksOf x cfg tokenId (some AlertEngine.new) es)
      let evaluates := r.EvaluatesAt x cfg (ticksOf x cfg tokenId (some AlertEngine.new) es)
      (Opposite r.threshold.value (price i) (price j) →
        ∃ k, (i < k ∧ k ≤ j) ∧ evaluates k) ∧
      (Opposite r.threshold.value (price i) (price j) → Rises price i j ∨ Falls price i j →
        ∃! k, (i < k ∧ k ≤ j) ∧ evaluates k) ∧
      (SameSide r.threshold.value price i j → ∀ k, i < k → k ≤ j → ¬ evaluates k) := by
  have hchain : Chained none (ticksOf x cfg tokenId (some AlertEngine.new) es) :=
    ticksOf_chained AlertEngine.new es
  revert hchain
  generalize ticksOf x cfg tokenId (some AlertEngine.new) es = ticks
  intro hchain
  refine ⟨not_evaluatesAt_zero hr hchain, ?_⟩
  intro i j hij hj price evaluates
  have hsucc : ∀ k, k < j → (evaluates (k + 1) ↔
      Crosses r.threshold.value (price k) (price (k + 1))) := by
    intro k hk
    exact evaluatesAt_succ_iff hr hchain (Nat.lt_of_le_of_lt hk hj)
  have hexists : Opposite r.threshold.value (price i) (price j) →
      ∃ k, (i < k ∧ k ≤ j) ∧ evaluates k := by
    intro hopposite
    obtain ⟨k, hik, hkj, hcross⟩ := exists_crosses hij hopposite
    exact ⟨k + 1, ⟨Nat.lt_succ_of_le hik, hkj⟩, (hsucc k hkj).mpr hcross⟩
  refine ⟨hexists, ?_, ?_⟩
  · intro hopposite hmono
    obtain ⟨k, hk, heval⟩ := hexists hopposite
    refine ⟨k, ⟨hk, heval⟩, ?_⟩
    -- in a monotone stretch the threshold is passed once
    rintro l ⟨⟨hil, hlj⟩, hl⟩
    obtain ⟨k, rfl⟩ : ∃ k', k = k' + 1 := ⟨k - 1, by omega⟩
    obtain ⟨l, rfl⟩ : ∃ l', l = l' + 1 := ⟨l - 1, by omega⟩
    have hcrossk := (hsucc k hk.2).mp heval
    have hcrossl := (hsucc l hlj).mp hl
    rcases hmono with hmono | hmono
    · rw [up_unique hmono (Nat.le_of_lt_succ hil) hlj (Nat.le_of_lt_succ hk.1) hk.2 hcrossl
        hcrossk]
    · rw [down_unique hmono (Nat.le_of_lt_succ hil) hlj (Nat.le_of_lt_succ hk.1) hk.2 hcrossl
        hcrossk]
  · intro hside k hik hkj heval
    obtain ⟨k, rfl⟩ : ∃ k', k = k' + 1 := ⟨k - 1, by omega⟩
    exact not_crosses hside (Nat.le_of_lt_succ hik) hkj ((hsucc k hkj).mp heval)

section Example

/-- A cross at one half. -/
def crossAtHalf : AlertRule :=
  { alertId := 1, subscriptionId := 1, userTelegramId := 7, botId := "bot", tokenId := "yes",
    outcomeIndex := 0, marketQuestion := "Will it?", alertType := .cross,
    threshold := .cents 50, cooldownMinutes := 60, lastTriggeredAt := none }

/-- Three ticks of one token, the middle one at the threshold. -/
def threeTicks : List EngineEvent :=
  [.tick ⟨"yes", "0xc", .cents 40, 0⟩ Watch.calmEnv,
   .tick ⟨"yes", "0xc", .cents 50, 1⟩ Watch.calmEnv,
   .tick ⟨"yes", "0xc", .cents 60, 2⟩ Watch.calmEnv]

theorem cross_exact_three :
    crossAtHalf.alertType = .cross ∧
      2 < (ticksOf Crates.reference ⟨60⟩ "yes" (some AlertEngine.new) threeTicks).length ∧
      ∃ k, (0 < k ∧ k ≤ 2) ∧ crossAtHalf.EvaluatesAt Crates.reference ⟨60⟩
        (ticksOf Crates.reference ⟨60⟩ "yes" (some AlertEngine.new) threeTicks) k := by
  have hlen : 2 < (ticksOf Crates.reference ⟨60⟩ "yes" (some AlertEngine.new)
      threeTicks).length := by decide +kernel
  have hsides : priceAt (ticksOf Crates.reference ⟨60⟩ "yes" (some AlertEngine.new) threeTicks) 0 <
        crossAtHalf.threshold.value ∧ crossAtHalf.threshold.value <
      priceAt (ticksOf Crates.reference ⟨60⟩ "yes" (some AlertEngine.new) threeTicks) 2 := by
    decide +kernel
  exact ⟨rfl, hlen, ((cross_exact Crates.reference ⟨60⟩ threeTicks "yes" rfl).2 0 2 (by decide)
    hlen).1 (.inl hsides)⟩

end Example

end AlertRule

end PolyNotifier
