import PolyNotifier.Alert.Cooldown
import PolyNotifier.Alert.Prices

/-!
# The last known price

`markets.last_prices` outlives the process that writes it, the map it is written from does not.
A run here goes over any number of processes of the engine: each starts with an empty map, is
told of ticks, flushes now and then, and comes to its end because it is cancelled, because the
channel of prices is closed, or because a message overflows. The subscribed markets are fixed.

`Handled` is the history: the ticks of the processes that are gone, those of this process up to
its last flush, and those since. `Stores` is what the column should say at a flush and when `run`
has returned, and it does not always. A flush takes a token without a price in this process for
one at zero, it skips a market whose prices are all zero also where they have just become so, and
a closed channel ends `run` without a last flush. `Meets` is the condition that none of this
happens to a market, and under it the column is right in every run.
-/

namespace PolyNotifier

open Lib (Steps Table)

/-! ## What has been handled -/

/-- The price of the last of the ticks of a token. -/
def lastPrice (ticks : List PriceUpdate) (tokenId : String) : Option Decimal :=
  (ticks.reverse.find? fun u => u.tokenId == tokenId).map PriceUpdate.price

theorem lastPrice_append (ticks ticks' : List PriceUpdate) (tokenId : String) :
    lastPrice (ticks ++ ticks') tokenId =
      (lastPrice ticks' tokenId).or (lastPrice ticks tokenId) := by
  unfold lastPrice
  rw [List.reverse_append, List.find?_append]
  cases ticks'.reverse.find? fun u => u.tokenId == tokenId <;> rfl

theorem lastPrice_snoc_self (ticks : List PriceUpdate) (u : PriceUpdate) :
    lastPrice (ticks ++ [u]) u.tokenId = some u.price := by
  rw [lastPrice_append]
  simp [lastPrice]

theorem lastPrice_snoc_ne (ticks : List PriceUpdate) {u : PriceUpdate} {tokenId : String}
    (h : u.tokenId ≠ tokenId) : lastPrice (ticks ++ [u]) tokenId = lastPrice ticks tokenId := by
  rw [lastPrice_append]
  simp [lastPrice, h]

/-- The ticks that were handled, in order. -/
structure Handled where
  /-- By the processes that are gone. -/
  earlier : List PriceUpdate
  /-- By this process, up to its last flush, -/
  flushed : List PriceUpdate
  /-- and since. -/
  pending : List PriceUpdate

namespace Handled

def nothing : Handled := ⟨[], [], []⟩

/-- By this process. -/
def current (H : Handled) : List PriceUpdate := H.flushed ++ H.pending

/-- By any process. -/
def all (H : Handled) : List PriceUpdate := H.earlier ++ H.current

def start (H : Handled) : Handled := ⟨H.all, [], []⟩

def tick (H : Handled) (u : PriceUpdate) : Handled := { H with pending := H.pending ++ [u] }

def flush (H : Handled) : Handled := ⟨H.earlier, H.current, []⟩

/-- Some token has had a nonzero tick in this process. -/
def Moved (H : Handled) (tokenIds : List String) : Prop :=
  ∃ u ∈ H.current, u.tokenId ∈ tokenIds ∧ u.price.isZero = false

/-- Some token has had a tick since the last flush. -/
def Pending (H : Handled) (tokenIds : List String) : Prop :=
  ∃ u ∈ H.pending, u.tokenId ∈ tokenIds

/-- The last price of some token in this process is not zero, and a token without a price in this
    process had none other than zero before. -/
structure Known (H : Handled) (tokenIds : List String) : Prop where
  nonzero : ∃ tokenId ∈ tokenIds, ∃ price ∈ lastPrice H.current tokenId, price.isZero = false
  remembered : ∀ tokenId ∈ tokenIds, lastPrice H.current tokenId = none →
    ∀ price ∈ lastPrice H.earlier tokenId, price.isZero = true

instance (H : Handled) (tokenIds : List String) : Decidable (H.Moved tokenIds) :=
  inferInstanceAs (Decidable (∃ u ∈ H.current, u.tokenId ∈ tokenIds ∧ u.price.isZero = false))

instance (H : Handled) (tokenIds : List String) : Decidable (H.Pending tokenIds) :=
  inferInstanceAs (Decidable (∃ u ∈ H.pending, u.tokenId ∈ tokenIds))

instance (H : Handled) (tokenIds : List String) : Decidable (H.Known tokenIds) :=
  decidable_of_iff
    ((∃ tokenId ∈ tokenIds, ∃ price ∈ lastPrice H.current tokenId, price.isZero = false) ∧
      ∀ tokenId ∈ tokenIds, lastPrice H.current tokenId = none →
        ∀ price ∈ lastPrice H.earlier tokenId, price.isZero = true)
    ⟨fun h => ⟨h.1, h.2⟩, fun h => ⟨h.nonzero, h.remembered⟩⟩

@[simp] theorem current_start (H : Handled) : H.start.current = [] := rfl

@[simp] theorem current_flush (H : Handled) : H.flush.current = H.current :=
  List.append_nil H.current

@[simp] theorem all_flush (H : Handled) : H.flush.all = H.all := by
  rw [all, all, current_flush]
  rfl

theorem current_tick (H : Handled) (u : PriceUpdate) : (H.tick u).current = H.current ++ [u] :=
  (List.append_assoc ..).symm

theorem all_tick (H : Handled) (u : PriceUpdate) : (H.tick u).all = H.all ++ [u] := by
  rw [all, all, current_tick]
  exact (List.append_assoc ..).symm

theorem not_pending_flush (H : Handled) (tokenIds : List String) : ¬ H.flush.Pending tokenIds := by
  rintro ⟨u, hu, _⟩
  cases hu

/-- A tick of another token. -/
theorem moved_tick {H : Handled} {u : PriceUpdate} {tokenIds : List String}
    (h : u.tokenId ∉ tokenIds) (hm : (H.tick u).Moved tokenIds) : H.Moved tokenIds := by
  obtain ⟨v, hv, hmem, hnz⟩ := hm
  rw [current_tick, List.mem_append, List.mem_singleton] at hv
  rcases hv with hv | rfl
  · exact ⟨v, hv, hmem, hnz⟩
  · exact absurd hmem h

end Handled

/-! ## Runs over processes -/

inductive EnginePhase where
  /-- No process: none has been started, or the last one has panicked. -/
  | down
  | running
  /-- `run` has returned. -/
  | returned
  deriving DecidableEq

structure PriceSystem where
  db : Db
  engine : AlertEngine
  phase : EnginePhase
  handled : Handled

/-- What can happen. A receiver that lags is no event: the ticks it has missed are not handled,
    and nothing changes. -/
inductive PriceEvent where
  /-- `order`: of the rows of the first query, here and at a refresh. -/
  | start (order : List Nat)
  | tick (env : AlertEngine.TickEnv) (update : PriceUpdate)
  | refresh (order : List Nat)
  | flush (order : List String) (now : Int → NaiveDateTime)
  | cancel (order : List String) (now : Int → NaiveDateTime)
  | close
  | change (db : Db)

/-- The walk of a flush, in which every write is executed. -/
def flushing (order : List String) (now : Int → NaiveDateTime) : FlushEnv :=
  ⟨order, now, fun _ => true⟩

namespace PriceSystem

def down (d : Db) : PriceSystem := ⟨d, AlertEngine.new, .down, .nothing⟩

section

variable (x : Crates) (cfg : EngineConfig)

/-- `refresh_cache`, with what the database answers. -/
def refreshed (d : Db) (order : List Nat) (e : AlertEngine) : AlertEngine :=
  e.refreshCache x (d.fetchAlertRows order).toOption (some d.fetchConditionRows)

/-- The arms of `AlertEngine::run`, and what happens around it. The start reads the cache before
    the loop is entered; a cancellation flushes once more before it returns, the end of the channel
    does not. -/
def step (s : PriceSystem) : PriceEvent → PriceSystem
  | .start order =>
      { s with engine := refreshed x s.db order AlertEngine.new, phase := .running,
               handled := s.handled.start }
  | .tick env update =>
      let (e, fired, panicked) := s.engine.handlePriceUpdate x cfg env update
      { db := persistAll fired s.db, engine := e, phase := if panicked then .down else .running,
        handled := s.handled.tick update }
  | .refresh order => { s with engine := refreshed x s.db order s.engine }
  | .flush order now =>
      { s with db := s.engine.flushPricesToDb x (flushing order now) s.db,
               handled := s.handled.flush }
  | .cancel order now =>
      { s with db := s.engine.flushPricesToDb x (flushing order now) s.db, phase := .returned,
               handled := s.handled.flush }
  | .close => { s with phase := .returned }
  | .change db => { s with db }

/-- Of every entry of `condition_tokens`. -/
def EachEntry (e : AlertEngine) (P : String → Int × List String → Prop) : Prop :=
  ∀ c entry, e.conditionTokens.lookup c = some entry → P c entry

instance (e : AlertEngine) (P : String → Int × List String → Prop)
    [∀ c entry, Decidable (P c entry)] : Decidable (EachEntry e P) :=
  decidable_of_iff
    (∀ c ∈ e.conditionTokens.keys, ∀ entry ∈ e.conditionTokens.lookup c, P c entry)
    ⟨fun h c entry hc =>
      h c (Finmap.mem_keys.mpr (Finmap.lookup_isSome.mp (by rw [hc]; rfl))) entry hc,
      fun h c _ entry hc => h c entry hc⟩

/-- The walk over `condition_tokens` visits every entry. -/
def Covers (e : AlertEngine) (order : List String) : Prop := EachEntry e fun c _ => c ∈ order

instance (e : AlertEngine) (order : List String) : Decidable (Covers e order) :=
  inferInstanceAs (Decidable (EachEntry e fun c _ => c ∈ order))

/-- The same markets are subscribed to, and nobody else writes their prices. -/
structure SameMarkets (d d' : Db) : Prop where
  conditions : d'.fetchConditionRows = d.fetchConditionRows
  lastPrices : ∀ row ∈ d.fetchConditionRows, (d'.markets.find row.marketId).map Market.lastPrices =
    (d.markets.find row.marketId).map Market.lastPrices

instance (d d' : Db) : Decidable (SameMarkets d d') :=
  decidable_of_iff
    (d'.fetchConditionRows = d.fetchConditionRows ∧
      ∀ row ∈ d.fetchConditionRows, (d'.markets.find row.marketId).map Market.lastPrices =
        (d.markets.find row.marketId).map Market.lastPrices)
    ⟨fun h => ⟨h.1, h.2⟩, fun h => ⟨h.conditions, h.lastPrices⟩⟩

/-- When an event can happen; both queries of a refresh succeed. The flush walks a hash map, in an
    order that is anyone's as long as it comes by every entry. -/
def Enabled (s : PriceSystem) : PriceEvent → Prop
  | .start order => s.phase ≠ .running ∧ (s.db.fetchAlertRows order).toOption.isSome
  | .tick _ _ => s.phase = .running
  | .refresh order => s.phase = .running ∧ (s.db.fetchAlertRows order).toOption.isSome
  | .flush order _ => s.phase = .running ∧ Covers s.engine order
  | .cancel order _ => s.phase = .running ∧ Covers s.engine order
  | .close => s.phase = .running
  | .change db => SameMarkets s.db db

instance (s : PriceSystem) : (ev : PriceEvent) → Decidable (s.Enabled ev)
  | .start _ => inferInstanceAs (Decidable (_ ∧ _))
  | .tick _ _ => inferInstanceAs (Decidable (_ = _))
  | .refresh _ => inferInstanceAs (Decidable (_ ∧ _))
  | .flush _ _ => inferInstanceAs (Decidable (_ ∧ _))
  | .cancel _ _ => inferInstanceAs (Decidable (_ ∧ _))
  | .close => inferInstanceAs (Decidable (_ = _))
  | .change _ => inferInstanceAs (Decidable (SameMarkets _ _))

def Step (s : PriceSystem) (ev : PriceEvent) (s' : PriceSystem) : Prop :=
  s.Enabled ev ∧ s' = s.step x cfg ev

/-! ### The law and the condition -/

/-- What the column of a market says. -/
def storedPrices (d : Db) (marketId : Int) : Option (List Decimal) :=
  ((d.markets.find marketId).map Market.lastPrices).bind x.parseDecimals

/-- The column of the market holds the last price of each of its tokens, zero where there never
    was one. -/
def StoresEntry (d : Db) (H : Handled) (entry : Int × List String) : Prop :=
  (storedPrices x d entry.1).map (List.map Decimal.value) =
    some (entry.2.map fun tokenId => ((lastPrice H.all tokenId).getD Decimal.zero).value)

instance (d : Db) (H : Handled) (entry : Int × List String) : Decidable (StoresEntry x d H entry) :=
  inferInstanceAs (Decidable (_ = _))

/-- **The law**, of every market that has moved in this process. -/
def Stores (s : PriceSystem) : Prop :=
  EachEntry s.engine fun _ entry => s.handled.Moved entry.2 → StoresEntry x s.db s.handled entry

instance (s : PriceSystem) : Decidable (s.Stores x) := inferInstanceAs (Decidable (EachEntry _ _))

end

/-- **The condition**: a flush knows the prices of every market that has moved; where the channel
    is closed, nothing is pending for such a market. -/
def Meets (s : PriceSystem) : PriceEvent → Prop
  | .flush _ _ => EachEntry s.engine fun _ entry => s.handled.Moved entry.2 →
      s.handled.Known entry.2
  | .cancel _ _ => EachEntry s.engine fun _ entry => s.handled.Moved entry.2 →
      s.handled.Known entry.2
  | .close => EachEntry s.engine fun _ entry => s.handled.Moved entry.2 →
      ¬ s.handled.Pending entry.2
  | _ => True

instance (s : PriceSystem) : (ev : PriceEvent) → Decidable (s.Meets ev)
  | .flush _ _ => inferInstanceAs (Decidable (EachEntry _ _))
  | .cancel _ _ => inferInstanceAs (Decidable (EachEntry _ _))
  | .close => inferInstanceAs (Decidable (EachEntry _ _))
  | .start _ => inferInstanceAs (Decidable True)
  | .tick _ _ => inferInstanceAs (Decidable True)
  | .refresh _ => inferInstanceAs (Decidable True)
  | .change _ => inferInstanceAs (Decidable True)

/-! ### One entry -/

section Entry

variable {x : Crates} {cfg : EngineConfig} {s : PriceSystem} {d d' : Db} {H H' : Handled}
  {e : AlertEngine} {entry : Int × List String} {c : String}

/-- What the column says depends on the column and on the last prices of the tokens. -/
theorem StoresEntry.congr (h : StoresEntry x d H entry)
    (hcolumn : (d'.markets.find entry.1).map Market.lastPrices =
      (d.markets.find entry.1).map Market.lastPrices)
    (hprices : ∀ t ∈ entry.2, lastPrice H'.all t = lastPrice H.all t) :
    StoresEntry x d' H' entry := by
  have hsame : entry.2.map (fun t => ((lastPrice H'.all t).getD Decimal.zero).value) =
      entry.2.map fun t => ((lastPrice H.all t).getD Decimal.zero).value := by
    refine List.map_congr_left fun t ht => ?_
    rw [hprices t ht]
  rw [StoresEntry, storedPrices, hcolumn, hsame]
  exact h

/-- The market of an entry, and its row in the query. -/
theorem find_of_entry (hlookup :
      (d.fetchConditionRows.foldl (AlertEngine.insertCondition x) ∅).lookup c = some entry) :
    ∃ m, d.markets.find entry.1 = some m ∧ x.parseStrings m.tokenIds = some entry.2 ∧
      ∃ row ∈ d.fetchConditionRows, row.marketId = entry.1 := by
  obtain ⟨m, hm, _, hid, hids⟩ := (AlertEngine.lookup_conditions_iff d).mp hlookup
  exact ⟨m, Table.find_eq_some.mpr ⟨(Db.mem_subscribedMarkets.mp hm).1, hid⟩, hids,
    ⟨m.id, m.conditionId, m.tokenIds⟩, List.mem_dedup.mpr (List.mem_map.mpr ⟨m, hm, rfl⟩), hid⟩

/-- **A flush that knows the prices stores them.** -/
theorem storesEntry_flush (hx : x.Lawful) {order : List String} {now : Int → NaiveDateTime}
    (hconditions : e.conditionTokens =
      d.fetchConditionRows.foldl (AlertEngine.insertCondition x) ∅)
    (hprices : ∀ t, e.prevPrices.lookup t = lastPrice H.current t) (hcovers : Covers e order)
    (hlookup : e.conditionTokens.lookup c = some entry) (hknown : H.Known entry.2) :
    StoresEntry x (e.flushPricesToDb x (flushing order now) d) H.flush entry := by
  have hentry : entry ∈ e.flushEntries (flushing order now) :=
    List.mem_filterMap.mpr ⟨c, hcovers c entry hlookup, hlookup⟩
  -- some price is not zero, so the entry is written
  have hflushes : AlertEngine.Flushes (flushing order now) e entry := by
    obtain ⟨t, ht, p, hp, hnz⟩ := hknown.nonzero
    refine ⟨?_, rfl⟩
    rw [List.all_eq_false]
    have hlast : lastPrice H.current t = some p := hp
    refine ⟨p, List.mem_map.mpr ⟨t, ht, by rw [hprices, hlast]; rfl⟩, ?_⟩
    simp [hnz]
  obtain ⟨_, g, hg, hrows⟩ := e.flushPricesToDb_repriced x (flushing order now) d
  obtain ⟨m, hm, hids, _⟩ := find_of_entry (hconditions ▸ hlookup)
  obtain ⟨hmem, hid⟩ := Table.mem_of_find hm
  have hmem' : g m ∈ (e.flushPricesToDb x (flushing order now) d).markets.rows := by
    rw [hrows]
    exact List.mem_map_of_mem hmem
  have hid' : entry.1 = (g m).id := by
    rw [(hg m).id]
    exact hid.symm
  obtain ⟨entry', hentry', hid₁, _, hcolumn⟩ :=
    AlertEngine.flushPricesToDb_row hmem' hentry hid' hflushes
  -- the entry that was written last is the same: the market has one
  obtain ⟨c', _, hlookup'⟩ := List.mem_filterMap.mp hentry'
  obtain ⟨m', hm', hids', _⟩ := find_of_entry (hconditions ▸ hlookup')
  obtain rfl : m = m' := by
    rw [hid₁, ← hid', hm] at hm'
    exact Option.some.inj hm'
  have htokens : entry'.2 = entry.2 := Option.some.inj (hids'.symm.trans hids)
  have hstored : storedPrices x (e.flushPricesToDb x (flushing order now) d) entry.1 =
      some (e.pricesOf entry.2) := by
    rw [storedPrices, Table.find_eq_some.mpr ⟨hmem', hid'.symm⟩, Option.map_some, Option.bind_some,
      hcolumn, htokens]
    exact hx.parseDecimals_writeDecimals _
  rw [StoresEntry, hstored, Option.map_some, AlertEngine.pricesOf, List.map_map]
  refine congrArg some (List.map_congr_left fun t ht => ?_)
  rw [Function.comp_apply, hprices, Handled.all_flush, Handled.all, lastPrice_append]
  cases hcurrent : lastPrice H.current t with
  | some p => rfl
  | none =>
    -- no price in this process: zero, as the price before was
    rw [Option.none_or]
    cases hearlier : lastPrice H.earlier t with
    | none => rfl
    | some p =>
      have hzero := hknown.remembered t ht hcurrent p hearlier
      rw [Option.getD_none, Option.getD_some, Decimal.value_of_isZero hzero,
        Decimal.value_of_isZero rfl]

/-- A refresh that succeeds reads all conditions, and forgets no price. -/
theorem refreshed_spec {order : List Nat} (e : AlertEngine)
    (h : (d.fetchAlertRows order).toOption.isSome) :
    (refreshed x d order e).conditionTokens =
        d.fetchConditionRows.foldl (AlertEngine.insertCondition x) ∅ ∧
      (refreshed x d order e).prevPrices = e.prevPrices := by
  obtain ⟨rows, hrows⟩ := Option.isSome_iff_exists.mp h
  rw [refreshed, hrows]
  exact ⟨rfl, rfl⟩

end Entry

/-! ### Every run -/

/-- What a flush relies on, and what it leaves behind until the next tick: the markets in memory
    are those of the database, the prices in memory are the last ones of the process, and what a
    market has stored is as recent as the last flush after a tick of it. -/
structure Kept (x : Crates) (s : PriceSystem) : Prop where
  conditions : s.phase ≠ .down → s.engine.conditionTokens =
    s.db.fetchConditionRows.foldl (AlertEngine.insertCondition x) ∅
  prices : ∀ tokenId, s.engine.prevPrices.lookup tokenId = lastPrice s.handled.current tokenId
  stored : s.phase ≠ .down → EachEntry s.engine fun _ entry => s.handled.Moved entry.2 →
    ¬ s.handled.Pending entry.2 → StoresEntry x s.db s.handled entry
  returned : s.phase = .returned → EachEntry s.engine fun _ entry => s.handled.Moved entry.2 →
    ¬ s.handled.Pending entry.2

section Runs

variable {x : Crates} {cfg : EngineConfig} {s s' : PriceSystem} {ev : PriceEvent}

theorem kept_down (x : Crates) (d : Db) : Kept x (down d) where
  conditions := fun h => absurd rfl h
  prices := fun _ => Finmap.lookup_empty _
  stored := fun h => absurd rfl h
  returned := fun h => by cases h

/-- A new process has no price, and no market that has moved. -/
theorem Kept.start (s : PriceSystem) {order : List Nat}
    (h : (s.db.fetchAlertRows order).toOption.isSome) : Kept x (s.step x cfg (.start order)) := by
  obtain ⟨hconditions, hprices⟩ := refreshed_spec (x := x) AlertEngine.new h
  refine ⟨fun _ => hconditions, fun tokenId => ?_, ?_, fun h => by cases h⟩
  · show (refreshed x s.db order AlertEngine.new).prevPrices.lookup tokenId = _
    rw [hprices]
    exact Finmap.lookup_empty _
  · rintro _ c entry _ ⟨u, hu, _⟩
    cases hu

/-- A tick is pending for the markets of its token, and says nothing about the others. -/
theorem Kept.tick (hk : Kept x s) (hphase : s.phase = .running) (env : AlertEngine.TickEnv)
    (u : PriceUpdate) : Kept x (s.step x cfg (.tick env u)) := by
  obtain ⟨hmarkets, hsubs⟩ :=
    persistAll_markets (s.engine.handlePriceUpdate x cfg env u).2.1 s.db
  have hup : s.phase ≠ .down := by rw [hphase]; simp
  refine ⟨fun _ => ?_, fun tokenId => ?_, fun _ c entry hc hm hp => ?_, fun h => ?_⟩
  · show s.engine.conditionTokens =
      (persistAll (s.engine.handlePriceUpdate x cfg env u).2.1 s.db).fetchConditionRows.foldl _ ∅
    rw [Db.fetchConditionRows_congr hmarkets hsubs]
    exact hk.conditions hup
  · show (s.engine.prevPrices.insert u.tokenId u.price).lookup tokenId =
      lastPrice (s.handled.tick u).current tokenId
    rw [Handled.current_tick]
    by_cases ht : u.tokenId = tokenId
    · subst ht
      rw [Finmap.lookup_insert, lastPrice_snoc_self]
    · rw [Finmap.lookup_insert_of_ne _ (Ne.symm ht), lastPrice_snoc_ne _ ht]
      exact hk.prices tokenId
  · -- nothing is pending, so the tick was of a token of another market
    have hother : u.tokenId ∉ entry.2 := fun h =>
      hp ⟨u, List.mem_append_right _ (List.mem_singleton_self u), h⟩
    have hbefore : ¬ s.handled.Pending entry.2 := fun ⟨v, hv, hmem⟩ =>
      hp ⟨v, List.mem_append_left _ hv, hmem⟩
    refine (hk.stored hup c entry hc (Handled.moved_tick hother hm) hbefore).congr ?_ fun t ht => ?_
    · exact congrArg (fun markets => (markets.find entry.1).map Market.lastPrices) hmarkets
    · show lastPrice (s.handled.tick u).all t = _
      rw [Handled.all_tick, lastPrice_snoc_ne _ fun h => hother (h ▸ ht)]
  · -- the process is running, or it has panicked
    have hnot : (s.step x cfg (.tick env u)).phase ≠ .returned := by
      show (if (s.engine.handlePriceUpdate x cfg env u).2.2 then EnginePhase.down else .running) ≠ _
      split <;> simp
    exact absurd h hnot

theorem Kept.flush (hx : x.Lawful) (hk : Kept x s) (hphase : s.phase = .running)
    {order : List String} {now : Int → NaiveDateTime} (hcovers : Covers s.engine order)
    (hknown : EachEntry s.engine fun _ entry => s.handled.Moved entry.2 →
      s.handled.Known entry.2) (phase : EnginePhase) :
    Kept x ⟨s.engine.flushPricesToDb x (flushing order now) s.db, s.engine, phase,
      s.handled.flush⟩ := by
  have hconditions := hk.conditions (by rw [hphase]; simp)
  -- a flush writes prices only, so the markets it walks are those of the refresh
  refine ⟨fun _ => ?_, fun tokenId => ?_, fun _ c entry hc hm _ => ?_, fun _ c entry _ _ =>
    Handled.not_pending_flush s.handled entry.2⟩
  · obtain ⟨hsubs, g, hg, hrows⟩ :=
      s.engine.flushPricesToDb_repriced x (flushing order now) s.db
    have hsame : (s.engine.flushPricesToDb x (flushing order now) s.db).fetchConditionRows =
        s.db.fetchConditionRows :=
      Db.fetchConditionRows_map hrows hsubs fun m =>
        ⟨(hg m).id, (hg m).conditionId, (hg m).tokenIds, (hg m).isActive⟩
    show _ = (s.engine.flushPricesToDb x (flushing order now) s.db).fetchConditionRows.foldl _ ∅
    rw [hsame]
    exact hconditions
  · show s.engine.prevPrices.lookup tokenId = lastPrice s.handled.flush.current tokenId
    rw [Handled.current_flush]
    exact hk.prices tokenId
  · have hmoved : s.handled.Moved entry.2 := by
      obtain ⟨u, hu, hmem, hnz⟩ := hm
      rw [Handled.current_flush] at hu
      exact ⟨u, hu, hmem, hnz⟩
    exact storesEntry_flush hx hconditions hk.prices hcovers hc (hknown c entry hc hmoved)

/-- Where the markets and their prices stay, everything stays. -/
theorem Kept.change (hk : Kept x s) {d : Db} (h : SameMarkets s.db d) :
    Kept x { s with db := d } where
  conditions := fun hphase => by
    show s.engine.conditionTokens = d.fetchConditionRows.foldl _ ∅
    rw [h.conditions]
    exact hk.conditions hphase
  prices := hk.prices
  stored := fun hphase c entry hc hm hp => by
    obtain ⟨_, _, _, row, hrow, hid⟩ := find_of_entry (hk.conditions hphase ▸ hc)
    exact (hk.stored hphase c entry hc hm hp).congr (hid ▸ h.lastPrices row hrow) fun _ _ => rfl
  returned := hk.returned

/-- **One step**, by what happens. -/
theorem kept_step (hx : x.Lawful) (hk : Kept x s) (h : Step x cfg s ev s') (hmeets : s.Meets ev) :
    Kept x s' := by
  obtain ⟨henabled, rfl⟩ := h
  cases ev with
  | start order => exact .start s henabled.2
  | tick env u => exact hk.tick henabled env u
  | refresh order =>
    obtain ⟨hphase, hrows⟩ := henabled
    obtain ⟨hconditions, hprices⟩ := refreshed_spec (x := x) s.engine hrows
    -- the conditions are read again, and are the same
    have hup : s.phase ≠ .down := by rw [hphase]; simp
    have hsame : (refreshed x s.db order s.engine).conditionTokens = s.engine.conditionTokens :=
      hconditions.trans (hk.conditions hup).symm
    refine ⟨fun _ => hconditions, fun tokenId => ?_, fun _ c entry hc => ?_, fun h => ?_⟩
    · show (refreshed x s.db order s.engine).prevPrices.lookup tokenId = _
      rw [hprices]
      exact hk.prices tokenId
    · exact hk.stored hup c entry (hsame ▸ hc)
    · exact absurd (hphase.symm.trans h) (by simp)
  | flush order now => exact hk.flush hx henabled.1 henabled.2 hmeets s.phase
  | cancel order now => exact hk.flush hx henabled.1 henabled.2 hmeets .returned
  | close =>
    have hup : s.phase ≠ .down := by rw [henabled]; simp
    exact ⟨fun _ => hk.conditions hup, hk.prices, fun _ => hk.stored hup, fun _ => hmeets⟩
  | change d => exact hk.change henabled

/-- **The last known price is kept** in every run whose flushes know the prices of the markets
    that have moved, and whose channel is closed with nothing pending for them: after every flush,
    and whenever `run` has returned. -/
theorem stored_prices_kept (hx : x.Lawful) (cfg : EngineConfig) {d : Db} {es : List PriceEvent}
    (hrun : Steps (fun a ev b => Step x cfg a ev b ∧ a.Meets ev) (down d) es s)
    (hwhen : s.phase = .returned ∨ ∃ es' order now, es = es' ++ [PriceEvent.flush order now]) :
    s.Stores x := by
  have hk : Kept x s :=
    hrun.inv (kept_down x d) fun _ _ _ hk h => kept_step hx hk h.1 h.2
  intro c entry hc hm
  rcases hwhen with hreturned | ⟨es', order, now, rfl⟩
  · exact hk.stored (by rw [hreturned]; simp) c entry hc hm (hk.returned hreturned c entry hc hm)
  · obtain ⟨a, _, ⟨henabled, rfl⟩, _⟩ := hrun.snoc_inv
    have hphase : a.phase = .running := henabled.1
    refine hk.stored ?_ c entry hc hm (Handled.not_pending_flush a.handled entry.2)
    show a.phase ≠ .down
    rw [hphase]
    simp

end Runs

/-! ### Runs of the sample database -/

/-- A tick of one of the two tokens of the sample market, at which no alert fires. -/
def quote (tokenId : String) (cents : Nat) : PriceEvent :=
  .tick ⟨fun _ => 0, fun _ => 0, fun _ => 0, fun _ => true, fun _ => true⟩
    ⟨tokenId, "0xc", .cents cents, 0⟩

def flushAll : PriceEvent := .flush ["0xc"] fun _ => 0

def cancelAll : PriceEvent := .cancel ["0xc"] fun _ => 0

def sampleStep : PriceSystem → PriceEvent → PriceSystem := step Crates.reference ⟨60⟩

def sampleRun (es : List PriceEvent) : PriceSystem := es.foldl sampleStep (down Db.sampleDb)

/-- Both outcomes are quoted, in two processes. -/
def twoProcesses : List PriceEvent :=
  [.start [], quote "yes" 55, quote "no" 45, cancelAll, .start [], quote "no" 40, quote "yes" 60,
    flushAll]

theorem stored_prices_kept_twice : (sampleRun twoProcesses).Stores Crates.reference := by
  have h : Lib.Each sampleStep (fun a ev => a.Enabled ev ∧ a.Meets ev) (down Db.sampleDb)
      twoProcesses := by
    refine ⟨⟨?_, trivial⟩, ⟨?_, trivial⟩, ⟨?_, trivial⟩, ⟨?_, ?_⟩, ⟨?_, trivial⟩, ⟨?_, trivial⟩,
      ⟨?_, trivial⟩, ⟨?_, ?_⟩, trivial⟩ <;> decide +kernel
  exact stored_prices_kept Crates.reference_lawful ⟨60⟩
    (h.steps.mono fun _ _ _ hs => ⟨⟨hs.1.1, hs.2⟩, hs.1.2⟩)
    (.inr ⟨twoProcesses.dropLast, ["0xc"], fun _ => 0, rfl⟩)

/-- The second process has no tick for one outcome, and takes its price for zero. -/
def restarted : List PriceEvent :=
  [.start [], quote "yes" 55, quote "no" 45, cancelAll, .start [], quote "yes" 60, flushAll]

/-- All prices of the market are zero again, and the market is skipped. -/
def backToZero : List PriceEvent := [.start [], quote "yes" 55, flushAll, quote "yes" 0, flushAll]

/-- The channel is closed with a tick in memory. -/
def closedEarly : List PriceEvent := [.start [], quote "yes" 55, .close]

/-- A run that ends in a flush, or with `run` returned, and breaks the law. -/
def Loses (es : List PriceEvent) : Prop :=
  Steps (Step Crates.reference ⟨60⟩) (down Db.sampleDb) es (sampleRun es) ∧
    ((sampleRun es).phase = .returned ∨ ∃ es' order now, es = es' ++ [.flush order now]) ∧
    ¬ (sampleRun es).Stores Crates.reference

/-- **Three ways to lose a price**: a restart, after which the first flush knows only the prices of
    the new process and takes the others for zero; prices that are all zero again, for which the
    market is skipped; and the end of the price channel, which leaves without the flush that a
    cancellation makes. -/
theorem stored_prices_lost : Loses restarted ∧ Loses backToZero ∧ Loses closedEarly := by
  have hrestarted : Lib.Each sampleStep Enabled (down Db.sampleDb) restarted := by
    refine ⟨?_, ?_, ?_, ?_, ?_, ?_, ?_, trivial⟩ <;> decide +kernel
  have hzero : Lib.Each sampleStep Enabled (down Db.sampleDb) backToZero := by
    refine ⟨?_, ?_, ?_, ?_, ?_, trivial⟩ <;> decide +kernel
  have hclosed : Lib.Each sampleStep Enabled (down Db.sampleDb) closedEarly := by
    refine ⟨?_, ?_, ?_, trivial⟩ <;> decide +kernel
  refine ⟨⟨hrestarted.steps, .inr ⟨restarted.dropLast, ["0xc"], fun _ => 0, rfl⟩, ?_⟩,
    ⟨hzero.steps, .inr ⟨backToZero.dropLast, ["0xc"], fun _ => 0, rfl⟩, ?_⟩,
    ⟨hclosed.steps, .inl rfl, ?_⟩⟩
  · decide +kernel
  · decide +kernel
  · decide +kernel

end PriceSystem

end PolyNotifier
