import PolyNotifier.Alert.Prices
import PolyNotifier.Bot.Handlers
import PolyNotifier.Common.Reference
import PolyNotifier.Scheduler.DailySummary

/-!
# One column, one writer, three readers

`markets.last_prices` is written by the alert engine and read by `/list`, by the daily summary
and by `Market::parse_last_prices`. The writer and the last reader mean a list of `Decimal`s,
which `rust_decimal` writes as JSON strings; the other two ask for a list of `f64`s, which no
JSON string is. So no flush is ever read by them.
-/

namespace PolyNotifier

/-- `v` is `d` as an `f64`, up to rounding. -/
def Rounds (v : F64) (d : Decimal) : Prop :=
  ∃ q, v = .num q ∧ |q - d.value| ≤ |d.value| / 2 ^ 52

/-- Every reader of the column gets the prices, at their indices. -/
structure ReadsBack (x : Crates) (prices : List Decimal) (column : String) : Prop where
  summary : ∃ vs, x.parseF64s column = some vs ∧ List.Forall₂ Rounds vs prices
  list : List.Forall₂ Rounds ((x.parseF64s column).getD []) prices
  market : x.parseDecimals column = some prices

section

variable {x : Crates} {env : FlushEnv} {e : AlertEngine} {d : Db} {m : Market}
  {entry : Int × List String}

/-- An entry that is written has a price. -/
theorem pricesOf_ne_nil (h : AlertEngine.Flushes env e entry) : e.pricesOf entry.2 ≠ [] := by
  intro hnil
  have hz := h.1
  rw [hnil] at hz
  cases hz

/-- Neither `format_summary` nor `/list` can read what was written. -/
theorem not_readsBack (hx : x.Lawful) {prices : List Decimal} (h : prices ≠ []) :
    ¬ ReadsBack x prices (x.writeDecimals prices) := by
  intro hread
  obtain ⟨vs, hvs, _⟩ := hread.summary
  rw [hx.parseF64s_writeDecimals h] at hvs
  cases hvs

theorem listPrice_writeDecimals (hx : x.Lawful) {prices : List Decimal} (h : prices ≠ [])
    (outcomeIndex : Int) : listPrice x (x.writeDecimals prices) outcomeIndex = "N/A" := by
  unfold listPrice
  rw [hx.parseF64s_writeDecimals h]
  rfl

/-- **No flushed market is read back.** `Market::parse_last_prices` gets the prices of an entry
    that was written; `/list` shows `N/A` for every outcome, and whoever has the market in the
    summary gets none. -/
theorem flushed_never_readsBack (hx : x.Lawful)
    (hm : m ∈ (e.flushPricesToDb x env d).markets.rows) (hentry : entry ∈ e.flushEntries env)
    (hid : entry.1 = m.id) (hw : AlertEngine.Flushes env e entry) :
    ∃ entry' ∈ e.flushEntries env, entry'.1 = m.id ∧ AlertEngine.Flushes env e entry' ∧
      m.parseLastPrices x = some (e.pricesOf entry'.2) ∧
      (∀ outcomeIndex, listPrice x m.lastPrices outcomeIndex = "N/A") ∧
      (∀ s ∈ (e.flushPricesToDb x env d).subscriptions.rows, s.marketId = m.id →
        s.isActive = true → m.isActive = true →
        ∀ rows, (e.flushPricesToDb x env d).fetchSummaryRows = .ok rows →
        ∀ env', ∀ sent ∈ sendSummaries x env' rows, sent.1 ≠ s.userId) ∧
      ¬ ReadsBack x (e.pricesOf entry'.2) m.lastPrices := by
  obtain ⟨entry', hmem, hid', hw', hcol⟩ := AlertEngine.flushPricesToDb_row hm hentry hid hw
  have hne := pricesOf_ne_nil hw'
  refine ⟨entry', hmem, hid', hw', ?_, ?_, ?_, ?_⟩
  · rw [Market.parseLastPrices, hcol]
    apply hx.parseDecimals_writeDecimals
  · rw [hcol]
    apply listPrice_writeDecimals hx hne
  · intro s hs hmarket hactive hopen rows hrows env'
    obtain ⟨row, hrow, huser, hprices⟩ :=
      Db.mem_fetchSummaryRows hrows hs hactive hm hmarket.symm hopen
    rw [← huser]
    apply not_mem_sendSummaries hrow
    rw [hprices, hcol]
    apply hx.parseF64s_writeDecimals hne
  · rw [hcol]
    apply not_readsBack hx hne

end

/-! ## A market at 55 to 45 -/

/-- The engine of the sample database after one tick for each outcome. -/
def quotedEngine : AlertEngine :=
  { AlertEngine.new.refreshCache Crates.reference (Db.sampleDb.fetchAlertRows []).toOption
      (some Db.sampleDb.fetchConditionRows) with
    prevPrices := (Finmap.insert "yes" (.cents 55) ∅).insert "no" (.cents 45) }

def quietFlush : FlushEnv := ⟨["0xc"], fun _ => 0, fun _ => true⟩

def quotedDb : Db := quotedEngine.flushPricesToDb Crates.reference quietFlush Db.sampleDb

theorem quoted_flushEntries : quotedEngine.flushEntries quietFlush = [(1, ["yes", "no"])] := by
  decide +kernel

theorem quoted_flushes : AlertEngine.Flushes quietFlush quotedEngine (1, ["yes", "no"]) := by
  decide +kernel

/-- The column after the flush: an array of strings. -/
theorem quoted_column : ∃ m ∈ quotedDb.markets.rows, m.id = 1 ∧
    m.lastPrices = Crates.reference.writeDecimals (quotedEngine.pricesOf ["yes", "no"]) := by
  have hfind : (quotedDb.markets.find 1).map Market.lastPrices =
      some (Crates.reference.writeDecimals (quotedEngine.pricesOf ["yes", "no"])) := by
    decide +kernel
  obtain ⟨m, hm, hcol⟩ := Option.map_eq_some_iff.mp hfind
  obtain ⟨hmem, hid⟩ := Lib.Table.mem_of_find hm
  exact ⟨m, hmem, hid, hcol⟩

/-- User 7, with the id 1, follows the market and is sent no summary. -/
theorem flushed_never_readsBack_quote :
    ∃ rows, quotedDb.fetchSummaryRows = .ok rows ∧
      ∀ env, ∀ sent ∈ sendSummaries Crates.reference env rows, sent.1 ≠ 1 := by
  obtain ⟨m, hm, hid, _⟩ := quoted_column
  have hentry : ((1, ["yes", "no"]) : Int × List String) ∈ quotedEngine.flushEntries quietFlush := by
    rw [quoted_flushEntries]
    exact List.mem_singleton_self _
  have hopen : ∀ m ∈ quotedDb.markets.rows, m.isActive = true := by decide +kernel
  have hsub : ∃ s ∈ quotedDb.subscriptions.rows, s.marketId = 1 ∧ s.isActive = true ∧
      s.userId = 1 := by decide +kernel
  have hrows : quotedDb.fetchSummaryRows.toOption.isSome = true := by decide +kernel
  obtain ⟨s, hs, hmarket, hactive, huser⟩ := hsub
  obtain ⟨_, _, _, _, _, _, hsummary, _⟩ :=
    flushed_never_readsBack Crates.reference_lawful hm hentry hid.symm quoted_flushes
  cases hfetch : quotedDb.fetchSummaryRows with
  | error err =>
    rw [hfetch] at hrows
    cases hrows
  | ok rows =>
    have hnone := hsummary s hs (hmarket.trans hid.symm) hactive (hopen m hm) rows hfetch
    rw [huser] at hnone
    exact ⟨rows, rfl, hnone⟩

/-- **55 and 45 cents, flushed and read by nobody who asks for `f64`s.** -/
theorem flushed_quote_unread :
    ∃ m ∈ quotedDb.markets.rows, m.id = 1 ∧
      (quotedEngine.pricesOf ["yes", "no"]).all Decimal.isZero = false ∧
      ¬ ReadsBack Crates.reference (quotedEngine.pricesOf ["yes", "no"]) m.lastPrices := by
  obtain ⟨m, hm, hid, hcol⟩ := quoted_column
  refine ⟨m, hm, hid, quoted_flushes.1, ?_⟩
  rw [hcol]
  exact not_readsBack Crates.reference_lawful (pricesOf_ne_nil quoted_flushes)

end PolyNotifier
