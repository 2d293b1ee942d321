import PolyNotifier.Alert.Engine
import PolyNotifier.Common.Statements

/-!
# Flushing the prices

The engine keeps the last price of every token in memory. `flushPricesToDb` walks over the map
of conditions and writes, for each market with a price, the prices of its tokens as one JSON
array to `markets.last_prices`. A failed write is logged and the walk goes on.
-/

namespace PolyNotifier

/-- The order in which the map is walked, the clock at each write, and whether the database takes
    it. A `DashMap` is iterated in an order of its own, so the order is an input; one that leaves
    out a key or names it twice is allowed here and excluded only where a result needs it. -/
structure FlushEnv where
  order : List String
  now : Int → NaiveDateTime
  ok : Int → Bool

namespace AlertEngine

/-- The last price of each token, zero where there is none. The column cannot tell the two apart:
    it is an array of numbers without gaps. -/
def pricesOf (e : AlertEngine) (tokenIds : List String) : List Decimal :=
  tokenIds.map fun tokenId => (e.prevPrices.lookup tokenId).getD Decimal.zero

section

variable (x : Crates) (env : FlushEnv) (e : AlertEngine)

/-- The body of the loop of `flush_prices_to_db`. An outcome without a price is written as zero,
    and a market whose outcomes are all zero is passed over, so a price of zero cannot be told from
    none. -/
def flushMarket (d : Db) (entry : Int × List String) : Db :=
  let prices := e.pricesOf entry.2
  -- no updates received yet
  if prices.all Decimal.isZero then d
  else if env.ok entry.1 then
    match d.updateMarketPrices (x.writeDecimals prices) (env.now entry.1) entry.1 with
    | .ok d' => d'
    | .error _ => d
  else d

/-- The entries of `condition_tokens`, in the order of the walk. -/
def flushEntries : List (Int × List String) := env.order.filterMap e.conditionTokens.lookup

def flushPricesToDb (d : Db) : Db := (flushEntries env e).foldl (flushMarket x env e) d

/-- The entry is written: some price is not zero, and the database takes the write. -/
def Flushes (entry : Int × List String) : Prop :=
  (e.pricesOf entry.2).all Decimal.isZero = false ∧ env.ok entry.1 = true

instance (entry : Int × List String) : Decidable (Flushes env e entry) :=
  inferInstanceAs (Decidable (_ ∧ _))

variable {x env e} {d : Db} {entry : Int × List String}

theorem flushMarket_of_not (h : ¬ Flushes env e entry) : flushMarket x env e d entry = d := by
  unfold flushMarket
  dsimp only
  split
  · rfl
  · rename_i hz
    rw [if_neg fun hok => h ⟨by simpa using hz, hok⟩]

theorem flushMarket_of_flushes (h : Flushes env e entry) :
    (flushMarket x env e d entry).markets.rows = d.markets.rows.map fun m =>
      if m.id == entry.1 then
        { m with
          lastPrices := x.writeDecimals (e.pricesOf entry.2)
          updatedAt := env.now entry.1 }
      else m := by
  obtain ⟨d', hok, hd'⟩ := Db.updateMarketPrices_ok (x.writeDecimals (e.pricesOf entry.2))
    (env.now entry.1) entry.1 d
  unfold flushMarket
  dsimp only
  rw [if_neg (by rw [h.1]; simp), if_pos h.2, hok]
  exact hd'.2.2.2

/-- The row after a flush: the prices and the time of the update may be new. -/
structure Repriced (m m' : Market) : Prop where
  id : m'.id = m.id
  conditionId : m'.conditionId = m.conditionId
  tokenIds : m'.tokenIds = m.tokenIds
  isActive : m'.isActive = m.isActive

theorem flushMarket_repriced (x : Crates) (env : FlushEnv) (e : AlertEngine) (d : Db)
    (entry : Int × List String) :
    (flushMarket x env e d entry).subscriptions = d.subscriptions ∧
      ∃ g : Market → Market, (∀ m, Repriced m (g m)) ∧
        (flushMarket x env e d entry).markets.rows = d.markets.rows.map g := by
  by_cases h : Flushes env e entry
  · refine ⟨?_, _, fun m => ?_, flushMarket_of_flushes h⟩
    · obtain ⟨d', hok, hd'⟩ := Db.updateMarketPrices_ok (x.writeDecimals (e.pricesOf entry.2))
        (env.now entry.1) entry.1 d
      unfold flushMarket
      dsimp only
      rw [if_neg (by rw [h.1]; simp), if_pos h.2, hok]
      exact hd'.2.1
    · split <;> exact ⟨rfl, rfl, rfl, rfl⟩
  · rw [flushMarket_of_not h]
    exact ⟨rfl, id, fun m => ⟨rfl, rfl, rfl, rfl⟩, (List.map_id _).symm⟩

/-- **A flush writes prices and nothing else.** -/
theorem flushPricesToDb_repriced (x : Crates) (env : FlushEnv) (e : AlertEngine) (d : Db) :
    (flushPricesToDb x env e d).subscriptions = d.subscriptions ∧
      ∃ g : Market → Market, (∀ m, Repriced m (g m)) ∧
        (flushPricesToDb x env e d).markets.rows = d.markets.rows.map g := by
  unfold flushPricesToDb
  generalize flushEntries env e = entries
  induction entries generalizing d with
  | nil => exact ⟨rfl, id, fun m => ⟨rfl, rfl, rfl, rfl⟩, (List.map_id _).symm⟩
  | cons entry entries ih =>
    obtain ⟨hsubs, g, hg, hrows⟩ := flushMarket_repriced x env e d entry
    obtain ⟨hsubs', g', hg', hrows'⟩ := ih (flushMarket x env e d entry)
    refine ⟨hsubs'.trans hsubs, g' ∘ g, fun m => ?_, ?_⟩
    · have h1 := hg m
      have h2 := hg' (g m)
      exact ⟨h2.id.trans h1.id, h2.conditionId.trans h1.conditionId, h2.tokenIds.trans h1.tokenIds,
        h2.isActive.trans h1.isActive⟩
    · rw [List.foldl_cons, hrows', hrows, List.map_map]

theorem flushPricesToDb_log (x : Crates) (env : FlushEnv) (e : AlertEngine) (d : Db) :
    (flushPricesToDb x env e d).notificationLog = d.notificationLog := by
  have hone : ∀ d entry, (flushMarket x env e d entry).notificationLog = d.notificationLog := by
    intro d entry
    unfold flushMarket
    dsimp only
    split
    · rfl
    · split
      · split
        · rename_i h
          exact Db.updateMarketPrices_log h
        · rfl
      · rfl
  unfold flushPricesToDb
  generalize flushEntries env e = entries
  induction entries generalizing d with
  | nil => rfl
  | cons entry entries ih => rw [List.foldl_cons, ih, hone]

/-- **One market.** After the write of one entry, a row is what it was, or it has the prices of
    that entry. -/
theorem flushMarket_row {m : Market} (hm : m ∈ (flushMarket x env e d entry).markets.rows) :
    (m ∈ d.markets.rows ∧ ¬ (entry.1 = m.id ∧ Flushes env e entry)) ∨
      (entry.1 = m.id ∧ Flushes env e entry ∧
        m.lastPrices = x.writeDecimals (e.pricesOf entry.2)) := by
  by_cases h : Flushes env e entry
  · rw [flushMarket_of_flushes h] at hm
    obtain ⟨m₀, hm₀, rfl⟩ := List.mem_map.mp hm
    by_cases hid : m₀.id == entry.1
    · rw [if_pos hid]
      exact .inr ⟨(beq_iff_eq.mp hid).symm, h, rfl⟩
    · rw [if_neg hid]
      exact .inl ⟨hm₀, fun hw => hid (beq_iff_eq.mpr hw.1.symm)⟩
  · rw [flushMarket_of_not h] at hm
    exact .inl ⟨hm, fun hw => h hw.2⟩

/-- **All markets.** After the walk, a row is what it was and no entry wrote it, or it has the
    prices of the entry that wrote it last. -/
theorem flush_row {entries : List (Int × List String)} {m : Market}
    (hm : m ∈ (entries.foldl (flushMarket x env e) d).markets.rows) :
    (m ∈ d.markets.rows ∧ ∀ entry ∈ entries, ¬ (entry.1 = m.id ∧ Flushes env e entry)) ∨
      ∃ entry ∈ entries, entry.1 = m.id ∧ Flushes env e entry ∧
        m.lastPrices = x.writeDecimals (e.pricesOf entry.2) := by
  -- the last write wins
  induction entries using List.reverseRecOn with
  | nil => exact .inl ⟨hm, by intro entry h; cases h⟩
  | append_singleton entries last ih =>
    rw [List.foldl_append, List.foldl_cons, List.foldl_nil] at hm
    rcases flushMarket_row hm with ⟨hm', hlast⟩ | ⟨hid, hw, hp⟩
    · rcases ih hm' with ⟨hm₀, hno⟩ | ⟨entry, hmem, hentry⟩
      · refine .inl ⟨hm₀, ?_⟩
        intro entry hmem
        rcases List.mem_append.mp hmem with h | h
        · exact hno entry h
        · rw [List.mem_singleton.mp h]
          exact hlast
      · exact .inr ⟨entry, List.mem_append_left _ hmem, hentry⟩
    · exact .inr ⟨last, List.mem_append_right _ (List.mem_singleton_self _), hid, hw, hp⟩

/-- **A market that is written ends with the prices of one of its entries.** -/
theorem flushPricesToDb_row {m : Market} (hm : m ∈ (flushPricesToDb x env e d).markets.rows)
    (hentry : entry ∈ flushEntries env e) (hid : entry.1 = m.id) (hw : Flushes env e entry) :
    ∃ entry' ∈ flushEntries env e, entry'.1 = m.id ∧ Flushes env e entry' ∧
      m.lastPrices = x.writeDecimals (e.pricesOf entry'.2) := by
  rcases flush_row hm with ⟨_, hno⟩ | h
  · exact absurd ⟨hid, hw⟩ (hno entry hentry)
  · exact h

end

end AlertEngine

end PolyNotifier
