import Mathlib.Data.Finset.Dedup
import PolyNotifier.Alert.Engine
import PolyNotifier.Common.Reference

/-!
# What the monitor watches

`SubscriptionAggregator` reads from the database which tokens to subscribe to and which
condition each belongs to. The alert engine reads the rules and the conditions with two queries
of its own. Four queries and four loops have to agree, or an alert waits for a tick that nobody
asked for: `watches_what_is_needed` says that on one database state they do.

All four are about the markets that are active and have an active subscription,
`Db.subscribedMarkets`; each is brought to a statement about those.
-/

namespace PolyNotifier

open Lib (Table)

/-- The market lists the token. -/
def Market.Lists (x : Crates) (m : Market) (t : String) : Prop :=
  ∃ ids, x.parseStrings m.tokenIds = some ids ∧ t ∈ ids

namespace SubscriptionAggregator

variable (x : Crates)

/-- `get_active_token_ids`. One `token_ids` column that does not parse fails the call for all
    markets, because the `?` is inside the loop; the sibling for the map of conditions, called a
    moment later, fails in the same way. -/
def getActiveTokenIds (d : Db) : Option (Finset String) :=
  ((d.subscribedMarkets.map Market.tokenIds).dedup.mapM x.parseStrings).map
    fun idLists => idLists.flatten.toFinset

/-- The body of the loop of `get_token_to_condition`. -/
def insertTokens (m : DashMap String String) (row : String × String) :
    Option (DashMap String String) :=
  (x.parseStrings row.2).map fun ids => ids.foldl (fun m tokenId => m.insert tokenId row.1) m

/-- `get_token_to_condition`. Where two markets list one token the later row wins, and `order` is
    the order of the rows: the query has none of its own. -/
def getTokenToCondition (d : Db) (order : List Nat) : Option (DashMap String String) :=
  (Lib.arrange order (d.subscribedMarkets.map fun m => (m.conditionId, m.tokenIds)).dedup).foldlM
    (insertTokens x) ∅

variable {x}

theorem mem_foldl_insert {ids : List String} {m : DashMap String String} {c t : String} :
    t ∈ ids.foldl (fun m tokenId => m.insert tokenId c) m ↔ t ∈ m ∨ t ∈ ids := by
  induction ids generalizing m with
  | nil => simp
  | cons id ids ih =>
    rw [List.foldl_cons, ih, Finmap.mem_insert, List.mem_cons]
    tauto

/-- Where every column parses, the loop goes through and collects every token. -/
theorem foldlM_insertTokens (rows : List (String × String))
    (h : ∀ row ∈ rows, ∃ ids, x.parseStrings row.2 = some ids) (m : DashMap String String) :
    ∃ m', rows.foldlM (insertTokens x) m = some m' ∧
      ∀ t, t ∈ m' ↔ t ∈ m ∨ ∃ row ∈ rows, ∃ ids, x.parseStrings row.2 = some ids ∧ t ∈ ids := by
  induction rows generalizing m with
  | nil => exact ⟨m, rfl, by simp⟩
  | cons row rows ih =>
    obtain ⟨ids, hids⟩ := h row (by simp)
    obtain ⟨m', hm', hmem⟩ := ih (fun row' hrow' => h row' (by simp [hrow']))
      (ids.foldl (fun m tokenId => m.insert tokenId row.1) m)
    refine ⟨m', ?_, fun t => ?_⟩
    · rw [List.foldlM_cons, insertTokens, hids]
      exact hm'
    · rw [hmem, mem_foldl_insert]
      simp only [List.mem_cons, exists_eq_or_imp, hids, Option.some.injEq, exists_eq_left',
        or_assoc]

/-- A parse of every element parses the list, in order. -/
theorem mapM_parse (rows : List String) (h : ∀ row ∈ rows, ∃ ids, x.parseStrings row = some ids) :
    ∃ idLists, rows.mapM x.parseStrings = some idLists ∧
      ∀ t, t ∈ idLists.flatten ↔ ∃ row ∈ rows, ∃ ids, x.parseStrings row = some ids ∧ t ∈ ids := by
  induction rows with
  | nil => exact ⟨[], rfl, by simp⟩
  | cons row rows ih =>
    obtain ⟨ids, hids⟩ := h row (by simp)
    obtain ⟨idLists, hlists, hmem⟩ := ih fun row' hrow' => h row' (by simp [hrow'])
    refine ⟨ids :: idLists, ?_, fun t => ?_⟩
    · rw [List.mapM_cons, hids, hlists]
      rfl
    · rw [List.flatten_cons, List.mem_append, hmem]
      simp only [List.mem_cons, exists_eq_or_imp, hids, Option.some.injEq, exists_eq_left']

theorem lookup_foldl_insert {ids : List String} {m : DashMap String String} {c c' t : String}
    (h : (ids.foldl (fun m tokenId => m.insert tokenId c) m).lookup t = some c') :
    m.lookup t = some c' ∨ c = c' ∧ t ∈ ids := by
  induction ids generalizing m with
  | nil => exact .inl h
  | cons id ids ih =>
    rw [List.foldl_cons] at h
    rcases ih h with hm | ⟨hc, ht⟩
    · by_cases hid : t = id
      · subst hid
        rw [Finmap.lookup_insert] at hm
        exact .inr ⟨Option.some.inj hm, List.mem_cons_self⟩
      · rw [Finmap.lookup_insert_of_ne _ hid] at hm
        exact .inl hm
    · exact .inr ⟨hc, List.mem_cons_of_mem _ ht⟩

/-- What the loop has for a token was there before, or is of a row that lists it. -/
theorem lookup_foldlM_insertTokens {rows : List (String × String)} {m m' : DashMap String String}
    (h : rows.foldlM (insertTokens x) m = some m') {t c : String} (hlook : m'.lookup t = some c) :
    m.lookup t = some c ∨
      ∃ row ∈ rows, row.1 = c ∧ ∃ ids, x.parseStrings row.2 = some ids ∧ t ∈ ids := by
  induction rows generalizing m with
  | nil =>
    cases h
    exact .inl hlook
  | cons row rows ih =>
    rw [List.foldlM_cons] at h
    obtain ⟨m₁, hm₁, h⟩ := Option.bind_eq_some_iff.mp h
    obtain ⟨ids, hids, rfl⟩ := Option.map_eq_some_iff.mp hm₁
    rcases ih h with hfirst | ⟨row', hrow', hc, ht⟩
    · rcases lookup_foldl_insert hfirst with hm | ⟨hc, ht⟩
      · exact .inl hm
      · exact .inr ⟨row, List.mem_cons_self, hc, ids, hids, ht⟩
    · exact .inr ⟨row', List.mem_cons_of_mem _ hrow', hc, ht⟩

end SubscriptionAggregator

/-! ## The engine's side -/

namespace Db

/-- What a row the engine reads says of the database. -/
theorem alertRow_eq_some {d : Db} {a : Alert} {row : AlertRow} (h : d.alertRow a = some row) :
    ∃ s m, d.subscriptions.find a.subscriptionId = some s ∧ d.markets.find s.marketId = some m ∧
      m ∈ d.subscribedMarkets ∧ row.subscriptionId = s.id ∧ row.outcomeIndex = s.outcomeIndex ∧
      row.tokenIds = m.tokenIds := by
  unfold alertRow at h
  obtain ⟨s, hs, h⟩ := Option.bind_eq_some_iff.mp h
  obtain ⟨m, hm, h⟩ := Option.bind_eq_some_iff.mp h
  obtain ⟨u, hu, h⟩ := Option.bind_eq_some_iff.mp h
  split at h
  · rename_i hact
    cases h
    rw [Bool.and_eq_true] at hact
    have hsid : s.id = a.subscriptionId := (Table.mem_of_find hs).2
    have hmid : m.id = s.marketId := (Table.mem_of_find hm).2
    exact ⟨s, m, hs, hm, mem_subscribedMarkets.mpr ⟨(Table.mem_of_find hm).1, hact.2, s,
      (Table.mem_of_find hs).1, hmid.symm, hact.1⟩, hsid.symm, rfl, rfl⟩
  · cases h

end Db

/-! ## The two sides agree -/

section Agree

open SubscriptionAggregator AlertEngine

variable {x : Crates}

/-- The market of a rule: of the subscription whose alert it is. -/
def Db.marketOf (d : Db) (r : AlertRule) : Option Market :=
  (d.subscriptions.find r.subscriptionId).bind fun s => d.markets.find s.marketId

/-- A token is watched if and only if a subscribed market lists it. -/
theorem mem_getActiveTokenIds {d : Db}
    (hparse : ∀ m ∈ d.subscribedMarkets, ∃ ids, x.parseStrings m.tokenIds = some ids) :
    ∃ ids, getActiveTokenIds x d = some ids ∧ ∀ t, t ∈ ids ↔
      ∃ m ∈ d.subscribedMarkets, ∃ tokens, x.parseStrings m.tokenIds = some tokens ∧
        t ∈ tokens := by
  obtain ⟨idLists, hlists, hflat⟩ := mapM_parse (x := x)
    (d.subscribedMarkets.map Market.tokenIds).dedup (by
      intro row hrow
      obtain ⟨m, hm, rfl⟩ := List.mem_map.mp (List.mem_dedup.mp hrow)
      exact hparse m hm)
  refine ⟨idLists.flatten.toFinset, by rw [getActiveTokenIds, hlists]; rfl, fun t => ?_⟩
  rw [List.mem_toFinset, hflat]
  simp only [List.mem_dedup, List.mem_map, exists_exists_and_eq_and]

/-- And it has a condition under the same circumstances. -/
theorem mem_getTokenToCondition {d : Db}
    (hparse : ∀ m ∈ d.subscribedMarkets, ∃ ids, x.parseStrings m.tokenIds = some ids)
    (order : List Nat) :
    ∃ conditions, getTokenToCondition x d order = some conditions ∧ ∀ t, t ∈ conditions ↔
      ∃ m ∈ d.subscribedMarkets, ∃ tokens, x.parseStrings m.tokenIds = some tokens ∧
        t ∈ tokens := by
  obtain ⟨conditions, hconditions, hmem⟩ := foldlM_insertTokens (x := x)
    (Lib.arrange order (d.subscribedMarkets.map fun m => (m.conditionId, m.tokenIds)).dedup) (by
      intro row hrow
      rw [(Lib.arrange_perm order _).mem_iff] at hrow
      obtain ⟨m, hm, rfl⟩ := List.mem_map.mp (List.mem_dedup.mp hrow)
      exact hparse m hm) ∅
  refine ⟨conditions, hconditions, fun t => ?_⟩
  rw [hmem]
  simp only [Finmap.notMem_empty, false_or, (Lib.arrange_perm order _).mem_iff, List.mem_dedup,
    List.mem_map, exists_exists_and_eq_and]

/-- **What the map says of a token**: the condition of a subscribed market that lists it. -/
theorem lookup_getTokenToCondition {d : Db} {order : List Nat}
    {conditions : DashMap String String} {t c : String}
    (hread : getTokenToCondition x d order = some conditions) (hlook : conditions.lookup t = some c) :
    ∃ m ∈ d.subscribedMarkets, m.conditionId = c ∧ m.Lists x t := by
  rcases lookup_foldlM_insertTokens hread hlook with hempty | ⟨row, hrow, hc, ht⟩
  · rw [Finmap.lookup_empty] at hempty
    cases hempty
  · rw [(Lib.arrange_perm order _).mem_iff] at hrow
    obtain ⟨m, hm, rfl⟩ := List.mem_map.mp (List.mem_dedup.mp hrow)
    exact ⟨m, hm, hc, ht⟩

/-- The market of a rule is subscribed, and lists the rule's token at its outcome. -/
theorem marketOf_of_buildRule {d : Db} {order : List Nat} {rows : List AlertRow}
    (hrows : d.fetchAlertRows order = .ok rows) {r : AlertRule}
    (hr : r ∈ rows.filterMap (buildRule x)) :
    ∃ m ids, d.marketOf r = some m ∧ m ∈ d.subscribedMarkets ∧
      x.parseStrings m.tokenIds = some ids ∧ ids[asUsize r.outcomeIndex]? = some r.tokenId := by
  obtain ⟨row, hrow, hb⟩ := List.mem_filterMap.mp hr
  obtain ⟨a, ha, harow⟩ := (Db.mem_fetchAlertRows_iff hrows).mp hrow
  obtain ⟨s, m, hs, hm, hmem, hsid, houtcome, htokens⟩ := Db.alertRow_eq_some harow
  obtain ⟨ids, hids, htok, _, heq⟩ := buildRule_eq_some.mp hb
  refine ⟨m, ids, ?_, hmem, htokens ▸ hids, ?_⟩
  · have hrs : r.subscriptionId = a.subscriptionId := by
      rw [heq]
      exact hsid.trans (Table.mem_of_find hs).2
    rw [Db.marketOf, hrs, hs, Option.bind_some, hm]
  · rw [show r.outcomeIndex = row.outcomeIndex by rw [heq]]
    exact htok

/-- **The monitor subscribes to every token the engine needs**, and the engine knows each rule's
    market. Three queries of two crates are written one after the other and have to agree on one
    database: the tokens and the map of the monitor, and the rules and the conditions of the
    engine. The orders the queries answer in are free. Every column has to parse, since one that
    does not makes the monitor drop everything and the engine only the row. -/
theorem watches_what_is_needed {d : Db} {order : List Nat} {rows : List AlertRow}
    (e : AlertEngine) (mapOrder : List Nat)
    (hjson : ∀ m ∈ d.markets.rows, ∃ ids, x.parseStrings m.tokenIds = some ids)
    (hrows : d.fetchAlertRows order = .ok rows) :
    let e' := refreshCache x (some rows) (some d.fetchConditionRows) e
    ∃ ids conditions, getActiveTokenIds x d = some ids ∧
      getTokenToCondition x d mapOrder = some conditions ∧
      (∀ t ∈ e'.ruleCache, t ∈ ids) ∧
      (∀ t, t ∈ ids ↔ t ∈ conditions) ∧
      (∀ t, t ∈ ids ↔ ∃ c marketId tokens,
        e'.conditionTokens.lookup c = some (marketId, tokens) ∧ t ∈ tokens) ∧
      (∀ t, ∀ r ∈ e'.rulesOf t, ∃ m tokens, d.marketOf r = some m ∧
        e'.conditionTokens.lookup m.conditionId = some (m.id, tokens) ∧
        tokens[asUsize r.outcomeIndex]? = some r.tokenId) := by
  have hsub : ∀ m ∈ d.subscribedMarkets, ∃ ids, x.parseStrings m.tokenIds = some ids :=
    fun m hm => hjson m (Db.mem_subscribedMarkets.mp hm).1
  have hcond : ∀ m ∈ d.subscribedMarkets, ∀ ids, x.parseStrings m.tokenIds = some ids →
      (refreshCache x (some rows) (some d.fetchConditionRows) e).conditionTokens.lookup
        m.conditionId = some (m.id, ids) := by
    intro m hm ids hids
    exact (lookup_conditions_iff d).mpr ⟨m, hm, rfl, rfl, hids⟩
  obtain ⟨ids, hget, hids⟩ := mem_getActiveTokenIds hsub
  obtain ⟨conditions, hconditions, hcs⟩ := mem_getTokenToCondition hsub mapOrder
  -- the three maps are built from the same markets, each with its own query
  refine ⟨ids, conditions, hget, hconditions, ?_, fun t => (hids t).trans (hcs t).symm, ?_, ?_⟩
  · intro t ht
    obtain ⟨r, hr, rfl⟩ := mem_byToken.mp ht
    obtain ⟨m, tokens, _, hm, hparse, htok⟩ := marketOf_of_buildRule hrows hr
    exact (hids _).mpr ⟨m, hm, tokens, hparse, List.mem_of_getElem? htok⟩
  · intro t
    rw [hids]
    constructor
    · rintro ⟨m, hm, tokens, hparse, ht⟩
      exact ⟨m.conditionId, m.id, tokens, hcond m hm tokens hparse, ht⟩
    · rintro ⟨c, marketId, tokens, hlook, ht⟩
      obtain ⟨m, hm, _, _, hparse⟩ := (lookup_conditions_iff d).mp hlook
      exact ⟨m, hm, tokens, hparse, ht⟩
  · intro t r hr
    have hr' : r ∈ rows.filterMap (buildRule x) := by
      have hcache : (refreshCache x (some rows) (some d.fetchConditionRows) e).rulesOf t
          = (rows.filterMap (buildRule x)).filter fun r => r.tokenId == t := rulesOf_byToken _ t
      rw [hcache] at hr
      exact List.mem_of_mem_filter hr
    obtain ⟨m, tokens, hmarket, hm, hparse, htok⟩ := marketOf_of_buildRule hrows hr'
    exact ⟨m, tokens, hmarket, hcond m hm tokens hparse, htok⟩

/-- The small database: two rules, one for each of the two tokens of its market. -/
theorem watches_what_is_needed_sample :
    ∃ rows ids, Db.sampleDb.fetchAlertRows [] = .ok rows ∧
      getActiveTokenIds Crates.reference Db.sampleDb = some ids ∧
      ∀ t ∈ (refreshCache Crates.reference (some rows) (some Db.sampleDb.fetchConditionRows)
        AlertEngine.new).ruleCache, t ∈ ids := by
  have hjson : ∀ m ∈ Db.sampleDb.markets.rows,
      ∃ ids, Crates.reference.parseStrings m.tokenIds = some ids := by
    intro m hm
    have : ∀ m ∈ Db.sampleDb.markets.rows,
        (Crates.reference.parseStrings m.tokenIds).isSome := by decide +kernel
    exact Option.isSome_iff_exists.mp (this m hm)
  have hok : (Db.sampleDb.fetchAlertRows []).toOption.isSome = true := by decide +kernel
  obtain ⟨rows, hrows⟩ := Option.isSome_iff_exists.mp hok
  have hrows := ok_of_toOption hrows
  obtain ⟨ids, _, hids, _, hall, _⟩ := watches_what_is_needed AlertEngine.new [] hjson hrows
  exact ⟨rows, ids, hrows, hids, hall⟩

end Agree

end PolyNotifier
