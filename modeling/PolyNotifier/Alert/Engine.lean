import PolyNotifier.Alert.Rules
import PolyNotifier.Common.Db

/-!
# The alert engine

`refreshCache` rebuilds the rule cache, seeds the cooldowns and rebuilds the map of conditions
from the answers of two queries. `handlePriceUpdate` runs the rules of one token against one
tick.

Everything a tick reads from outside (three clock readings per rule, the answer of the channel
and of the database) is in its `TickEnv`, and everything it does there is in the list of
`Firing`s it returns. A tick can panic halfway: the message multiplies the threshold by a
hundred. What it did before stays done.
-/

namespace PolyNotifier

open Lib (Table)

/-! ## The rows the engine reads -/

/-- One row of the query of `refresh_cache`: eleven columns of four tables. The threshold is a
    column of the type `REAL`, so it is an `F64` here and becomes a `Decimal` only in `buildRule`.
    -/
structure AlertRow where
  alertId : Int
  subscriptionId : Int
  alertType : String
  threshold : F64
  cooldownMinutes : Int
  lastTriggeredAt : Option NaiveDateTime
  userTelegramId : Int
  botId : String
  outcomeIndex : Int
  marketQuestion : String
  tokenIds : String
  deriving DecidableEq

/-- One row of the query of `refresh_condition_tokens`. -/
structure ConditionRow where
  marketId : Int
  conditionId : String
  tokenIds : String
  deriving DecidableEq

namespace Db

/-- The joined row of an alert, if its subscription and its market are active. The three joins are
    three lookups: each follows a foreign key to the primary key of the next table, so an alert has
    one joined row or none and the query never multiplies it. -/
def alertRow (d : Db) (a : Alert) : Option AlertRow :=
  (d.subscriptions.find a.subscriptionId).bind fun s =>
    (d.markets.find s.marketId).bind fun m =>
      (d.users.find s.userId).bind fun u =>
        if s.isActive && m.isActive then
          some ⟨a.id, a.subscriptionId, a.alertType, a.threshold, a.cooldownMinutes,
            a.lastTriggeredAt, u.telegramId, u.botId, s.outcomeIndex, m.question, m.tokenIds⟩
        else none

/-- `SELECT .. FROM alerts a JOIN subscriptions s .. JOIN markets m .. JOIN users u .. WHERE
    s.is_active = 1 AND m.is_active = 1`. There is no `ORDER BY`: `order` is the one the rows come
    in, and every result below is about any `order`. `fetch_all` decodes all rows or fails as a
    whole, so one outcome index that does not fit an `i32` fails every alert's refresh. -/
def fetchAlertRows (d : Db) (order : List Nat) : Except DbError (List AlertRow) :=
  decodeAll (fun r => decide (InI32 r.outcomeIndex) && decide (InI32 r.cooldownMinutes)) <|
    Lib.arrange order (d.alerts.rows.filterMap d.alertRow)

/-- **What the query can answer**: the rows there are, in any order, if all of them decode. -/
theorem fetchAlertRows_iff {d : Db} {rows : List AlertRow} :
    (∃ order, d.fetchAlertRows order = .ok rows) ↔
      rows.Perm (d.alerts.rows.filterMap d.alertRow) ∧
        ∀ row ∈ rows, InI32 row.outcomeIndex ∧ InI32 row.cooldownMinutes := by
  constructor
  · rintro ⟨order, h⟩
    obtain ⟨rfl, hok⟩ := decodeAll_ok h
    refine ⟨Lib.arrange_perm order _, fun row hrow => ?_⟩
    obtain ⟨houtcome, hcooldown⟩ := Bool.and_eq_true_iff.mp (hok row hrow)
    exact ⟨of_decide_eq_true houtcome, of_decide_eq_true hcooldown⟩
  · rintro ⟨hperm, hdecode⟩
    obtain ⟨order, horder⟩ := Lib.exists_arrange hperm
    refine ⟨order, ?_⟩
    rw [fetchAlertRows, horder, decodeAll, if_pos]
    refine List.all_eq_true.mpr fun row hrow => ?_
    obtain ⟨houtcome, hcooldown⟩ := hdecode row hrow
    exact Bool.and_eq_true_iff.mpr ⟨decide_eq_true houtcome, decide_eq_true hcooldown⟩

theorem fetchAlertRows_ok {d : Db} {order : List Nat} {rows : List AlertRow}
    (h : d.fetchAlertRows order = .ok rows) :
    rows.Perm (d.alerts.rows.filterMap d.alertRow) ∧
      ∀ row ∈ rows, InI32 row.outcomeIndex ∧ InI32 row.cooldownMinutes :=
  fetchAlertRows_iff.mp ⟨order, h⟩

theorem mem_fetchAlertRows_iff {d : Db} {order : List Nat} {rows : List AlertRow}
    (h : d.fetchAlertRows order = .ok rows) {row : AlertRow} :
    row ∈ rows ↔ ∃ a ∈ d.alerts.rows, d.alertRow a = some row := by
  rw [(fetchAlertRows_ok h).1.mem_iff, List.mem_filterMap]

/-- `markets m INNER JOIN subscriptions s ON s.market_id = m.id WHERE m.is_active = 1 AND
    s.is_active = 1`: one row for each pair. -/
def subscribedMarkets (d : Db) : List Market :=
  d.markets.rows.flatMap fun m =>
    (d.subscriptions.rows.filter fun s => s.marketId == m.id && m.isActive && s.isActive).map
      fun _ => m

/-- `SELECT DISTINCT m.id, m.condition_id, m.token_ids FROM ..` -/
def fetchConditionRows (d : Db) : List ConditionRow :=
  (d.subscribedMarkets.map fun m => ⟨m.id, m.conditionId, m.tokenIds⟩).dedup

theorem mem_subscribedMarkets {d : Db} {m : Market} :
    m ∈ d.subscribedMarkets ↔ m ∈ d.markets.rows ∧ m.isActive ∧
      ∃ s ∈ d.subscriptions.rows, s.marketId = m.id ∧ s.isActive := by
  unfold subscribedMarkets
  simp only [List.mem_flatMap, List.mem_map, List.mem_filter, Bool.and_eq_true, beq_iff_eq]
  constructor
  · rintro ⟨m', hm', s, ⟨hs, ⟨hid, hma⟩, hsa⟩, rfl⟩
    exact ⟨hm', hma, s, hs, hid, hsa⟩
  · rintro ⟨hm, hma, s, hs, hid, hsa⟩
    exact ⟨m, hm, s, ⟨hs, ⟨hid, hma⟩, hsa⟩, rfl⟩

/-- The conditions are read from two tables. -/
theorem fetchConditionRows_congr {d d' : Db} (hm : d'.markets = d.markets)
    (hs : d'.subscriptions = d.subscriptions) : d'.fetchConditionRows = d.fetchConditionRows := by
  rw [fetchConditionRows, fetchConditionRows, subscribedMarkets, subscribedMarkets, hm, hs]

/-- Where the market rows change in other columns only, the same markets are subscribed to. -/
theorem fetchConditionRows_map {d d' : Db} {g : Market → Market}
    (hrows : d'.markets.rows = d.markets.rows.map g) (hsubs : d'.subscriptions = d.subscriptions)
    (hg : ∀ m, (g m).id = m.id ∧ (g m).conditionId = m.conditionId ∧ (g m).tokenIds = m.tokenIds ∧
      (g m).isActive = m.isActive) : d'.fetchConditionRows = d.fetchConditionRows := by
  have hsubscribed : d'.subscribedMarkets = d.subscribedMarkets.map g := by
    unfold subscribedMarkets
    rw [hrows, hsubs, List.flatMap_map, List.map_flatMap]
    congr 1
    funext m
    obtain ⟨hid, _, _, hactive⟩ := hg m
    rw [hid, hactive, List.map_map]
    rfl
  have hrow : ∀ m, (⟨(g m).id, (g m).conditionId, (g m).tokenIds⟩ : ConditionRow) =
      ⟨m.id, m.conditionId, m.tokenIds⟩ := by
    intro m
    obtain ⟨hid, hcondition, htokens, _⟩ := hg m
    rw [hid, hcondition, htokens]
  unfold fetchConditionRows
  rw [hsubscribed, List.map_map]
  congr 1
  exact List.map_congr_left fun m _ => hrow m

/-- `UNIQUE(condition_id)`: the rows of `refresh_condition_tokens` are of distinct conditions. -/
theorem fetchConditionRows_nodup (d : Db) :
    (d.fetchConditionRows.map ConditionRow.conditionId).Nodup := by
  have hinj : ∀ r ∈ d.fetchConditionRows, ∀ r' ∈ d.fetchConditionRows,
      r.conditionId = r'.conditionId → r = r' := by
    intro r hr r' hr' heq
    obtain ⟨m, hm, rfl⟩ := List.mem_map.mp (List.mem_dedup.mp hr)
    obtain ⟨m', hm', rfl⟩ := List.mem_map.mp (List.mem_dedup.mp hr')
    have : m = m' := Table.eq_of_ukey (mem_subscribedMarkets.mp hm).1
      (mem_subscribedMarkets.mp hm').1 heq
    rw [this]
  exact (List.nodup_dedup _).map_on hinj

/-- The row of a subscribed market is the one its condition finds. -/
theorem find_fetchConditionRows {d : Db} {m : Market} (hm : m ∈ d.subscribedMarkets) :
    d.fetchConditionRows.find? (fun row => row.conditionId == m.conditionId)
      = some ⟨m.id, m.conditionId, m.tokenIds⟩ := by
  have hmem : (⟨m.id, m.conditionId, m.tokenIds⟩ : ConditionRow) ∈ d.fetchConditionRows :=
    List.mem_dedup.mpr (List.mem_map.mpr ⟨m, hm, rfl⟩)
  cases hf : d.fetchConditionRows.find? fun row => row.conditionId == m.conditionId with
  | none =>
    have := List.find?_eq_none.mp hf _ hmem
    simp at this
  | some row =>
    have hrow := List.mem_of_find?_eq_some hf
    have hc : row.conditionId = m.conditionId := by simpa using List.find?_some hf
    rw [List.inj_on_of_nodup_map d.fetchConditionRows_nodup hrow hmem hc]

end Db

/-! ## The engine -/

/-- `EngineConfig`. Its two intervals decide only when a timer fires, and a run may have its timers
    at any moment, so the cooldown is the only field a step reads. -/
structure EngineConfig where
  defaultCooldownMinutes : Int

/-- `AlertEngine` without its pool, its two channels and its configuration, which the functions
    below take as arguments. The four maps live in memory only: a process starts with all of them
    empty, and what it knows of earlier firings comes back through the rows of the first refresh.
    -/
structure AlertEngine where
  /-- `token_id` to the rules watching that token. -/
  ruleCache : DashMap String (List AlertRule)
  /-- `token_id` to the last observed price. -/
  prevPrices : DashMap String Decimal
  dedup : AlertDedup
  /-- `condition_id` to the market id and its tokens in order. -/
  conditionTokens : DashMap String (Int × List String)

namespace AlertEngine

/-- `AlertEngine::new` -/
def new : AlertEngine := ⟨∅, ∅, AlertDedup.new, ∅⟩

/-! ### Refresh -/

section Refresh

variable (x : Crates)

/-- The body of the loop of `refresh_cache`; `none` where it skips the row, at each of its three
    `continue`s. A threshold that `Decimal` cannot hold is not one of them: the source goes on with
    zero, and so does the rule. -/
def buildRule (row : AlertRow) : Option AlertRule :=
  (x.parseStrings row.tokenIds).bind fun tokenIds =>
    tokenIds[asUsize row.outcomeIndex]?.bind fun tokenId =>
      (AlertType.fromStr row.alertType).bind fun alertType =>
        let threshold := (x.decimalTryFrom row.threshold).getD Decimal.zero
        some { alertId := row.alertId, subscriptionId := row.subscriptionId,
               userTelegramId := row.userTelegramId, botId := row.botId, tokenId,
               outcomeIndex := row.outcomeIndex, marketQuestion := row.marketQuestion,
               alertType, threshold, cooldownMinutes := row.cooldownMinutes,
               lastTriggeredAt := row.lastTriggeredAt }

/-- `by_token.entry(token_id).or_default().push(rule)` -/
def pushRule (m : DashMap String (List AlertRule)) (r : AlertRule) :
    DashMap String (List AlertRule) :=
  m.insert r.tokenId ((m.lookup r.tokenId).getD [] ++ [r])

/-- The temporary map of `refresh_cache`. The source clears the cache and copies this map into it;
    nothing else reads the cache in between, as there is no `await` there, so the copy is the map
    itself. -/
def byToken (rules : List AlertRule) : DashMap String (List AlertRule) := rules.foldl pushRule ∅

/-- The body of the loop of `refresh_condition_tokens`. -/
def insertCondition (m : DashMap String (Int × List String)) (row : ConditionRow) :
    DashMap String (Int × List String) :=
  match x.parseStrings row.tokenIds with
  | some tokenIds => m.insert row.conditionId (row.marketId, tokenIds)
  | none => m

/-- `none`: the query failed, and the map stays. -/
def refreshConditionTokens (rows : Option (List ConditionRow)) (e : AlertEngine) : AlertEngine :=
  match rows with
  | none => e
  | some rows => { e with conditionTokens := rows.foldl (insertCondition x) ∅ }

/-- `rows = none`: the query failed, and the engine stays as it is. The rules and the map of
    conditions come from two queries, with other tasks' writes possible in between, so the second
    answer is an argument of its own and need not be of the same database as the first. -/
def refreshCache (rows : Option (List AlertRow)) (conditions : Option (List ConditionRow))
    (e : AlertEngine) : AlertEngine :=
  match rows with
  | none => e
  | some rows =>
      let rules := rows.filterMap (buildRule x)
      refreshConditionTokens x conditions
        { e with ruleCache := byToken rules, dedup := e.dedup.loadFromAlerts rules }

variable {x}

/-- **What `refresh_condition_tokens` builds**, where each condition has one row. -/
theorem lookup_foldl_insertCondition {rows : List ConditionRow}
    (hnd : (rows.map ConditionRow.conditionId).Nodup) (m : DashMap String (Int × List String))
    (c : String) :
    (rows.foldl (insertCondition x) m).lookup c
      = match rows.find? fun row => row.conditionId == c with
        | some row => ((x.parseStrings row.tokenIds).map fun ids => (row.marketId, ids)).or
            (m.lookup c)
        | none => m.lookup c := by
  induction rows generalizing m with
  | nil => rfl
  | cons row rows ih =>
    rw [List.map_cons, List.nodup_cons] at hnd
    rw [List.foldl_cons, ih hnd.2]
    by_cases hc : row.conditionId = c
    · subst hc
      have hnone : rows.find? (fun row' => row'.conditionId == row.conditionId) = none := by
        rw [List.find?_eq_none]
        intro row' hrow' heq
        exact hnd.1 (List.mem_map.mpr ⟨row', hrow', by simpa using heq⟩)
      rw [hnone, List.find?_cons_of_pos (by simp)]
      simp only [insertCondition]
      cases x.parseStrings row.tokenIds with
      | none => rfl
      | some ids => simp [Finmap.lookup_insert]
    · have hskip : (insertCondition x m row).lookup c = m.lookup c := by
        unfold insertCondition
        cases x.parseStrings row.tokenIds with
        | none => rfl
        | some ids => exact Finmap.lookup_insert_of_ne _ (Ne.symm hc)
      rw [List.find?_cons_of_neg (by simpa using hc), hskip]

/-- **The map of conditions is the subscribed markets** whose list of tokens parses. -/
theorem lookup_conditions_iff (d : Db) {c : String} {entry : Int × List String} :
    (d.fetchConditionRows.foldl (insertCondition x) ∅).lookup c = some entry ↔
      ∃ m ∈ d.subscribedMarkets, m.conditionId = c ∧ m.id = entry.1 ∧
        x.parseStrings m.tokenIds = some entry.2 := by
  rw [lookup_foldl_insertCondition d.fetchConditionRows_nodup]
  constructor
  · intro h
    cases hf : d.fetchConditionRows.find? fun row => row.conditionId == c with
    | none => simp [hf] at h
    | some row =>
      -- a row that is found is the row of a subscribed market, and `condition_id` names that
      -- market
      obtain ⟨m, hm, rfl⟩ := List.mem_map.mp (List.mem_dedup.mp (List.mem_of_find?_eq_some hf))
      have hc : m.conditionId = c := by simpa using List.find?_some hf
      rw [hf] at h
      simp only [Finmap.lookup_empty, Option.or_none] at h
      obtain ⟨ids, hids, rfl⟩ := Option.map_eq_some_iff.mp h
      exact ⟨m, hm, hc, rfl, hids⟩
  · rintro ⟨m, hm, rfl, hid, hids⟩
    rw [Db.find_fetchConditionRows hm]
    simp [hids, hid]

variable {row : AlertRow} {r : AlertRule}

/-- **What a rule says is what its row said.** -/
theorem buildRule_eq_some : buildRule x row = some r ↔
    ∃ tokenIds, x.parseStrings row.tokenIds = some tokenIds ∧
      tokenIds[asUsize row.outcomeIndex]? = some r.tokenId ∧
      AlertType.fromStr row.alertType = some r.alertType ∧
      r = { r with
        alertId := row.alertId, subscriptionId := row.subscriptionId,
        userTelegramId := row.userTelegramId, botId := row.botId,
        outcomeIndex := row.outcomeIndex, marketQuestion := row.marketQuestion,
        threshold := (x.decimalTryFrom row.threshold).getD Decimal.zero,
        cooldownMinutes := row.cooldownMinutes, lastTriggeredAt := row.lastTriggeredAt } := by
  unfold buildRule
  constructor
  · intro h
    obtain ⟨tokenIds, hids, h⟩ := Option.bind_eq_some_iff.mp h
    obtain ⟨tokenId, htok, h⟩ := Option.bind_eq_some_iff.mp h
    obtain ⟨alertType, htype, h⟩ := Option.bind_eq_some_iff.mp h
    cases h
    exact ⟨tokenIds, hids, htok, htype, rfl⟩
  · rintro ⟨tokenIds, hids, htok, htype, hr⟩
    rw [hids, Option.bind_some, htok, Option.bind_some, htype, Option.bind_some, hr]

theorem buildRule_alertId (h : buildRule x row = some r) : r.alertId = row.alertId := by
  obtain ⟨_, _, _, _, hr⟩ := buildRule_eq_some.mp h
  rw [hr]

theorem buildRule_lastTriggeredAt (h : buildRule x row = some r) :
    r.lastTriggeredAt = row.lastTriggeredAt := by
  obtain ⟨_, _, _, _, hr⟩ := buildRule_eq_some.mp h
  rw [hr]

/-- Skipping rows keeps the alerts distinct. -/
theorem filterMap_buildRule_nodup {rows : List AlertRow}
    (h : (rows.map AlertRow.alertId).Nodup) :
    ((rows.filterMap (buildRule x)).map AlertRule.alertId).Nodup := by
  induction rows with
  | nil => simp
  | cons row rows ih =>
    rw [List.map_cons, List.nodup_cons] at h
    cases hb : buildRule x row with
    | none => rw [List.filterMap_cons_none hb]; exact ih h.2
    | some r =>
      rw [List.filterMap_cons_some hb, List.map_cons, List.nodup_cons]
      refine ⟨?_, ih h.2⟩
      intro hmem
      obtain ⟨r', hr', heq⟩ := List.mem_map.mp hmem
      obtain ⟨row', hrow', hb'⟩ := List.mem_filterMap.mp hr'
      refine h.1 (List.mem_map.mpr ⟨row', hrow', ?_⟩)
      rw [← buildRule_alertId hb', heq, buildRule_alertId hb]

theorem lookup_foldl_pushRule (rules : List AlertRule) (m : DashMap String (List AlertRule))
    (t : String) : ((rules.foldl pushRule m).lookup t).getD []
      = (m.lookup t).getD [] ++ rules.filter fun r => r.tokenId == t := by
  induction rules generalizing m with
  | nil => simp
  | cons r rules ih =>
    rw [List.foldl_cons, ih, List.filter_cons, pushRule]
    by_cases ht : r.tokenId = t
    · subst ht
      simp [Finmap.lookup_insert]
    · simp [Finmap.lookup_insert_of_ne _ (Ne.symm ht), ht]

/-- **The cached rules of a token are the rules that watch it, in query order.** -/
theorem rulesOf_byToken (rules : List AlertRule) (t : String) :
    ((byToken rules).lookup t).getD [] = rules.filter fun r => r.tokenId == t := by
  rw [byToken, lookup_foldl_pushRule, Finmap.lookup_empty]
  rfl

theorem mem_foldl_pushRule {rules : List AlertRule} {m : DashMap String (List AlertRule)}
    {t : String} : t ∈ rules.foldl pushRule m ↔ t ∈ m ∨ ∃ r ∈ rules, r.tokenId = t := by
  induction rules generalizing m with
  | nil => simp
  | cons r rules ih =>
    rw [List.foldl_cons, ih, pushRule, Finmap.mem_insert]
    simp only [List.mem_cons, exists_eq_or_imp]
    rw [eq_comm (a := t)]
    tauto

/-- A token has an entry if and only if some rule watches it. -/
theorem mem_byToken {rules : List AlertRule} {t : String} :
    t ∈ byToken rules ↔ ∃ r ∈ rules, r.tokenId = t := by
  rw [byToken, mem_foldl_pushRule]
  simp only [Finmap.notMem_empty, false_or]

end Refresh

/-! ### One tick -/

/-- What a tick reads from outside: the three clock readings of a rule that fires (`can_fire`,
    `mark_fired`, `persist_triggered`), whether `notify_tx.send` accepts its request, and whether
    its `UPDATE` is executed. They are functions of the alert, not one value for the tick, because
    the loop waits at every send and every write and the clock goes on meanwhile. -/
structure TickEnv where
  check : Int → NaiveDateTime
  mark : Int → NaiveDateTime
  persist : Int → NaiveDateTime
  sendOk : Int → Bool
  persistOk : Int → Bool

/-- What the engine did for a rule that fired. It is also what a run is judged by: what reached the
    channel and what reached the database may differ, since the source logs either failure and goes
    on, so a firing says both. -/
structure Firing where
  alertId : Int
  /-- The effective cooldown, in minutes. -/
  cooldown : Int
  /-- The time `mark_fired` recorded. -/
  firedAt : NaiveDateTime
  request : NotificationRequest
  /-- Whether the channel took the request. -/
  enqueued : Bool
  /-- The time written to `last_triggered_at`, if the write succeeded. -/
  persistedAt : Option NaiveDateTime
  deriving DecidableEq

section Tick

variable (x : Crates) (cfg : EngineConfig)

/-- The text of an alert; `none` where `rule.threshold * Decimal::from(100)` panics, which it does
    when the product does not fit. A price is not multiplied, and cannot make it panic. -/
def formatNotification (r : AlertRule) (price : Decimal) (update : PriceUpdate) :
    Option String :=
  let alertTypeLabel := match r.alertType with
    | .above => "Above"
    | .below => "Below"
    | .cross => "Cross"
  let timestamp := x.format "%Y-%m-%d %H:%M:%S UTC" update.timestamp
  (r.threshold.checkedMul Decimal.hundred).map fun thresholdPct =>
    "🔔 <b>Price Alert</b>\n\n📊 " ++ r.marketQuestion ++ "\n📈 Type: " ++ alertTypeLabel ++ " " ++
      thresholdPct.toString ++ "%\n💰 Current: " ++ price.toString ++ "\n⏰ " ++ timestamp

/-- The cooldown in force: the rule's own if it has one, else the default `as i32`. -/
def effectiveCooldown (r : AlertRule) : Int :=
  if 0 < r.cooldownMinutes then r.cooldownMinutes else asI32 cfg.defaultCooldownMinutes

/-- Whether the loop body gets past its two `continue`s. `can_fire` is only asked of a rule whose
    condition holds, which changes nothing here, as asking does not write. -/
def mayFire (env : TickEnv) (update : PriceUpdate) (previous : Option Decimal) (d : AlertDedup)
    (r : AlertRule) : Bool :=
  r.evaluate update.price previous &&
    d.canFire (env.check r.alertId) r.alertId (effectiveCooldown cfg r)

/-- The request for a rule that fires, with its message. -/
def notificationOf (r : AlertRule) (message : String) : NotificationRequest :=
  { userTelegramId := r.userTelegramId, botId := r.botId, message, notificationType := .alert }

def firingOf (env : TickEnv) (r : AlertRule) (message : String) : Firing :=
  { alertId := r.alertId, cooldown := effectiveCooldown cfg r, firedAt := env.mark r.alertId,
    request := notificationOf r message, enqueued := env.sendOk r.alertId,
    persistedAt := if env.persistOk r.alertId then some (env.persist r.alertId) else none }

/-- The state of the loop over the rules. `panicked` is a flag and not an `Option` around the
    state, because what the tick did before the panic stays done: its requests are in the channel
    and its rows are written. -/
structure TickState where
  dedup : AlertDedup
  fired : List Firing
  panicked : Bool

/-- The body of the loop of `handle_price_update`. The mark comes before the message: a rule whose
    message panics is marked, although nothing was sent for it. -/
def tryRule (env : TickEnv) (update : PriceUpdate) (previous : Option Decimal) (s : TickState)
    (r : AlertRule) : TickState :=
  if s.panicked || !mayFire cfg env update previous s.dedup r then s
  else
    let dedup := s.dedup.markFired (env.mark r.alertId) r.alertId
    match formatNotification x r update.price update with
    | none => { s with dedup, panicked := true }
    | some message => { s with dedup, fired := s.fired ++ [firingOf cfg env r message] }

/-- The cached rules of a token. -/
def rulesOf (e : AlertEngine) (tokenId : String) : List AlertRule :=
  (e.ruleCache.lookup tokenId).getD []

/-- **A refresh caches the rules of its rows**, each under the token it watches. -/
theorem rulesOf_refreshCache (rows : List AlertRow) (conditions : Option (List ConditionRow))
    (e : AlertEngine) (t : String) : (refreshCache x (some rows) conditions e).rulesOf t
      = (rows.filterMap (buildRule x)).filter fun r => r.tokenId == t := by
  cases conditions <;> exact rulesOf_byToken _ t

/-- The joined row of an alert on an active subscription to an active market. -/
theorem alertRow_of_active {d : Db} {a : Alert} {s : Subscription} {m : Market}
    (hs : d.subscriptions.find a.subscriptionId = some s) (hactive : s.isActive = true)
    (hm : d.markets.find s.marketId = some m) (hmactive : m.isActive = true) :
    ∃ u, d.users.find s.userId = some u ∧ d.alertRow a = some ⟨a.id, a.subscriptionId, a.alertType,
      a.threshold, a.cooldownMinutes, a.lastTriggeredAt, u.telegramId, u.botId, s.outcomeIndex,
      m.question, m.tokenIds⟩ := by
  obtain ⟨u, hu⟩ := Table.find_isSome (d.subscriptionUser s (Table.mem_of_find hs).1)
  refine ⟨u, hu, ?_⟩
  simp only [Db.alertRow, hs, hm, hu, Option.bind_some, hactive, hmactive, Bool.and_self, if_true]

variable {x} in
/-- **The rule of an alert**: on an active subscription to an active market, at an index of the
    market's list. -/
theorem rule_of_alert {d : Db} {a : Alert} {s : Subscription} {m : Market} {t : AlertType}
    {tokenIds : List String} {tokenId : String} {order : List Nat} {rows : List AlertRow}
    (ha : a ∈ d.alerts.rows)
    (hs : d.subscriptions.find a.subscriptionId = some s) (hactive : s.isActive = true)
    (hm : d.markets.find s.marketId = some m) (hmactive : m.isActive = true)
    (hids : x.parseStrings m.tokenIds = some tokenIds)
    (htoken : tokenIds[asUsize s.outcomeIndex]? = some tokenId)
    (htype : AlertType.fromStr a.alertType = some t) (hrows : d.fetchAlertRows order = .ok rows) :
    ∃ r ∈ rows.filterMap (buildRule x), r.alertId = a.id ∧ r.tokenId = tokenId ∧
      r.alertType = t ∧ r.threshold = (x.decimalTryFrom a.threshold).getD Decimal.zero := by
  obtain ⟨u, _, hrow⟩ := alertRow_of_active hs hactive hm hmactive
  refine ⟨⟨a.id, a.subscriptionId, u.telegramId, u.botId, tokenId, s.outcomeIndex, m.question, t,
    (x.decimalTryFrom a.threshold).getD Decimal.zero, a.cooldownMinutes, a.lastTriggeredAt⟩, ?_,
    rfl, rfl, rfl, rfl⟩
  refine List.mem_filterMap.mpr ⟨_, (Db.mem_fetchAlertRows_iff hrows).mpr ⟨a, ha, hrow⟩, ?_⟩
  exact buildRule_eq_some.mpr ⟨tokenIds, hids, htoken, htype, rfl⟩

/-- An index of a row that was fetched is an `i32`. -/
theorem inI32_of_fetchAlertRows {d : Db} {a : Alert} {s : Subscription} {m : Market}
    {order : List Nat} {rows : List AlertRow} (ha : a ∈ d.alerts.rows)
    (hs : d.subscriptions.find a.subscriptionId = some s) (hactive : s.isActive = true)
    (hm : d.markets.find s.marketId = some m) (hmactive : m.isActive = true)
    (hrows : d.fetchAlertRows order = .ok rows) : InI32 s.outcomeIndex := by
  obtain ⟨u, _, hrow⟩ := alertRow_of_active hs hactive hm hmactive
  exact ((Db.fetchAlertRows_ok hrows).2 _
    ((Db.mem_fetchAlertRows_iff hrows).mpr ⟨a, ha, hrow⟩)).1

/-- The loop of `handle_price_update`. The price before is read at the beginning of the tick, once
    for all rules, before the new one is stored. -/
def tickState (env : TickEnv) (update : PriceUpdate) (e : AlertEngine) : TickState :=
  (e.rulesOf update.tokenId).foldl
    (tryRule x cfg env update (e.prevPrices.lookup update.tokenId)) ⟨e.dedup, [], false⟩

/-- The engine after the tick, what it fired, and whether it panicked on the way. The new price is
    stored before the rules are evaluated, so a tick that panics has still left its price behind.
    -/
def handlePriceUpdate (env : TickEnv) (update : PriceUpdate) (e : AlertEngine) :
    AlertEngine × List Firing × Bool :=
  let s := tickState x cfg env update e
  ({ e with prevPrices := e.prevPrices.insert update.tokenId update.price, dedup := s.dedup },
    s.fired, s.panicked)

variable {x cfg} {env : TickEnv} {update : PriceUpdate} {previous : Option Decimal}

variable (x cfg env update previous) in
/-- **One rule**: it is passed over, or it fires, or it panics after it was marked. -/
theorem tryRule_cases (s : TickState) (r : AlertRule) :
    tryRule x cfg env update previous s r = s ∨
    (mayFire cfg env update previous s.dedup r ∧
      ((∃ message, formatNotification x r update.price update = some message ∧
        tryRule x cfg env update previous s r =
          ⟨s.dedup.markFired (env.mark r.alertId) r.alertId,
            s.fired ++ [firingOf cfg env r message], s.panicked⟩) ∨
      tryRule x cfg env update previous s r =
        ⟨s.dedup.markFired (env.mark r.alertId) r.alertId, s.fired, true⟩)) := by
  unfold tryRule
  by_cases h : s.panicked || !mayFire cfg env update previous s.dedup r
  · exact .inl (if_pos h)
  · rw [if_neg h]
    have hmay : mayFire cfg env update previous s.dedup r := by
      revert h
      cases mayFire cfg env update previous s.dedup r <;> simp
    refine .inr ⟨hmay, ?_⟩
    cases hf : formatNotification x r update.price update with
    | none => exact .inr rfl
    | some message => exact .inl ⟨message, rfl, rfl⟩

theorem tryRule_of_fires {s : TickState} {r : AlertRule} {message : String}
    (hs : s.panicked = false) (hmay : mayFire cfg env update previous s.dedup r = true)
    (hf : formatNotification x r update.price update = some message) :
    tryRule x cfg env update previous s r =
      ⟨s.dedup.markFired (env.mark r.alertId) r.alertId,
        s.fired ++ [firingOf cfg env r message], false⟩ := by
  unfold tryRule
  rw [hs, hmay, hf]
  rfl

theorem tryRule_of_panics {s : TickState} {r : AlertRule} (hs : s.panicked = false)
    (hmay : mayFire cfg env update previous s.dedup r = true)
    (hf : formatNotification x r update.price update = none) :
    tryRule x cfg env update previous s r =
      ⟨s.dedup.markFired (env.mark r.alertId) r.alertId, s.fired, true⟩ := by
  unfold tryRule
  rw [hs, hmay, hf]
  rfl

theorem tryRule_of_not {s : TickState} {r : AlertRule}
    (hmay : ¬ mayFire cfg env update previous s.dedup r = true) :
    tryRule x cfg env update previous s r = s := by
  unfold tryRule
  rw [Bool.eq_false_iff.mpr hmay, Bool.not_false, Bool.or_true]
  rfl

/-- What `can_fire` says depends on the alert's own entry alone. -/
theorem mayFire_congr {d d' : AlertDedup} {r : AlertRule}
    (h : d.lastTriggered.lookup r.alertId = d'.lastTriggered.lookup r.alertId) :
    mayFire cfg env update previous d r = mayFire cfg env update previous d' r := by
  rw [mayFire, mayFire, AlertDedup.canFire, AlertDedup.canFire, h]

/-- A rule of another alert leaves an alert's entry as it is. -/
theorem lookup_tryRule_ne {s : TickState} {r : AlertRule} {a : Int} (h : a ≠ r.alertId) :
    (tryRule x cfg env update previous s r).dedup.lastTriggered.lookup a
      = s.dedup.lastTriggered.lookup a := by
  rcases tryRule_cases x cfg env update previous s r with h' | ⟨_, ⟨_, _, h'⟩ | h'⟩
  · rw [h']
  · rw [h']; exact AlertDedup.lookup_markFired_ne h
  · rw [h']; exact AlertDedup.lookup_markFired_ne h

/-- What a rule of the tick fires, given the cooldowns. This is the loop body without the loop: it
    says of one rule what `tryRule` does to the list, and `foldl_tryRule` says when the whole loop
    is nothing but this, rule by rule. -/
def fires (x : Crates) (cfg : EngineConfig) (env : TickEnv) (update : PriceUpdate)
    (previous : Option Decimal) (d : AlertDedup) (r : AlertRule) : Option Firing :=
  if mayFire cfg env update previous d r then
    (formatNotification x r update.price update).map (firingOf cfg env r)
  else none

theorem fires_congr {d d' : AlertDedup} {r : AlertRule}
    (h : d.lastTriggered.lookup r.alertId = d'.lastTriggered.lookup r.alertId) :
    fires x cfg env update previous d r = fires x cfg env update previous d' r := by
  rw [fires, fires, mayFire_congr h]

theorem fires_alertId {d : AlertDedup} {r : AlertRule} {f : Firing}
    (h : fires x cfg env update previous d r = some f) :
    f.alertId = r.alertId ∧ f.firedAt = env.mark r.alertId := by
  unfold fires at h
  split at h
  · obtain ⟨message, _, rfl⟩ := Option.map_eq_some_iff.mp h
    exact ⟨rfl, rfl⟩
  · cases h

theorem fires_enqueued {d : AlertDedup} {r : AlertRule} {f : Firing}
    (h : fires x cfg env update previous d r = some f) : f.enqueued = env.sendOk r.alertId := by
  unfold fires at h
  split at h
  · obtain ⟨message, _, rfl⟩ := Option.map_eq_some_iff.mp h
    rfl
  · cases h

theorem fires_request {d : AlertDedup} {r : AlertRule} {f : Firing}
    (h : fires x cfg env update previous d r = some f) :
    ∃ message, f.request = notificationOf r message := by
  unfold fires at h
  split at h
  · obtain ⟨message, _, rfl⟩ := Option.map_eq_some_iff.mp h
    exact ⟨message, rfl⟩
  · cases h

variable (cfg env previous) in
theorem tryRule_of_fits {s : TickState} {r : AlertRule} (hs : s.panicked = false)
    (hfit : (formatNotification x r update.price update).isSome) :
    (tryRule x cfg env update previous s r).panicked = false ∧
    (tryRule x cfg env update previous s r).fired
      = s.fired ++ (fires x cfg env update previous s.dedup r).toList ∧
    (tryRule x cfg env update previous s r).dedup.lastTriggered.lookup r.alertId
      = ((fires x cfg env update previous s.dedup r).map Firing.firedAt).or
          (s.dedup.lastTriggered.lookup r.alertId) := by
  obtain ⟨message, hm⟩ := Option.isSome_iff_exists.mp hfit
  unfold tryRule fires
  by_cases hmay : mayFire cfg env update previous s.dedup r
  · rw [if_neg (by simp [hs, hmay]), if_pos hmay, hm]
    exact ⟨hs, rfl, AlertDedup.lookup_markFired _ _ _⟩
  · rw [if_pos (by simp [hmay]), if_neg hmay]
    exact ⟨hs, by simp, by simp⟩

variable (cfg env update previous) in
/-- **One tick over rules of distinct alerts whose messages can be written.** Each rule is
    decided on the cooldowns the tick started with: what the others fire does not matter. -/
theorem foldl_tryRule {rules : List AlertRule} {s : TickState} (hs : s.panicked = false)
    (hnd : (rules.map AlertRule.alertId).Nodup)
    (hfit : ∀ r ∈ rules, (formatNotification x r update.price update).isSome) :
    let s' := rules.foldl (tryRule x cfg env update previous) s
    s'.panicked = false ∧
    s'.fired = s.fired ++ rules.filterMap (fires x cfg env update previous s.dedup) ∧
    (∀ r ∈ rules, s'.dedup.lastTriggered.lookup r.alertId
      = ((fires x cfg env update previous s.dedup r).map Firing.firedAt).or
          (s.dedup.lastTriggered.lookup r.alertId)) ∧
    (∀ a, (∀ r ∈ rules, r.alertId ≠ a) →
      s'.dedup.lastTriggered.lookup a = s.dedup.lastTriggered.lookup a) := by
  induction rules generalizing s with
  | nil => exact ⟨hs, by simp, by simp, fun _ _ => rfl⟩
  | cons r rs ih =>
    rw [List.map_cons, List.nodup_cons] at hnd
    obtain ⟨h1, h2, h3⟩ := tryRule_of_fits cfg env previous hs (hfit r (by simp))
    -- one rule first, then the rest of the loop from the state that rule leaves
    obtain ⟨i1, i2, i3, i4⟩ := ih h1 hnd.2 fun r' hr' => hfit r' (by simp [hr'])
    have hne : ∀ r' ∈ rs, r'.alertId ≠ r.alertId := fun r' hr' heq =>
      hnd.1 (List.mem_map.mpr ⟨r', hr', heq⟩)
    -- the rules after `r` see their own entries as the tick found them
    have hrest : ∀ r' ∈ rs,
        fires x cfg env update previous (tryRule x cfg env update previous s r).dedup r'
          = fires x cfg env update previous s.dedup r' :=
      fun r' hr' => fires_congr (lookup_tryRule_ne (hne r' hr'))
    refine ⟨i1, ?_, ?_, ?_⟩
    · rw [List.foldl_cons, i2, h2, List.filterMap_congr hrest, List.append_assoc]
      cases hf : fires x cfg env update previous s.dedup r with
      | none => rw [List.filterMap_cons_none hf]; rfl
      | some f => rw [List.filterMap_cons_some hf]; rfl
    · intro r' hr'
      rcases List.mem_cons.mp hr' with rfl | hr'
      · rw [List.foldl_cons, i4 _ hne, h3]
      · rw [List.foldl_cons, i3 r' hr', hrest r' hr', lookup_tryRule_ne (hne r' hr')]
    · intro a ha
      rw [List.foldl_cons, i4 a fun r' hr' => ha r' (by simp [hr'])]
      exact lookup_tryRule_ne (Ne.symm (ha r (by simp)))

theorem foldl_tryRule_panicked {rules : List AlertRule} {s : TickState} (hs : s.panicked = true) :
    rules.foldl (tryRule x cfg env update previous) s = s := by
  induction rules with
  | nil => rfl
  | cons r rs ih => rw [List.foldl_cons, tryRule, if_pos (by simp [hs]), ih]

variable (x cfg env update previous) in
/-- **One tick over rules of distinct alerts, whether it panics or not.** What it fired was
    allowed by the cooldowns the tick started with; if it went through, exactly what it fired is
    marked. -/
theorem foldl_tryRule_fired {rules : List AlertRule} {s : TickState}
    (hnd : (rules.map AlertRule.alertId).Nodup) :
    let s' := rules.foldl (tryRule x cfg env update previous) s
    ∃ fired, s'.fired = s.fired ++ fired ∧ (fired.map Firing.alertId).Nodup ∧
      (∀ f ∈ fired, ∃ r ∈ rules, ∃ message, f = firingOf cfg env r message ∧
        mayFire cfg env update previous s.dedup r) ∧
      (s'.panicked = false →
        (∀ f ∈ fired, s'.dedup.lastTriggered.lookup f.alertId = some f.firedAt) ∧
        ∀ a, (∀ f ∈ fired, f.alertId ≠ a) →
          s'.dedup.lastTriggered.lookup a = s.dedup.lastTriggered.lookup a) := by
  induction rules generalizing s with
  | nil =>
    exact ⟨[], by simp, by simp, by simp, fun _ => ⟨by simp, fun _ _ => rfl⟩⟩
  | cons r rs ih =>
    rw [List.map_cons, List.nodup_cons] at hnd
    have hne : ∀ r' ∈ rs, r'.alertId ≠ r.alertId := fun r' hr' heq =>
      hnd.1 (List.mem_map.mpr ⟨r', hr', heq⟩)
    rw [List.foldl_cons]
    rcases tryRule_cases x cfg env update previous s r with h | ⟨hmay, ⟨message, _, h⟩ | h⟩
    · -- passed over
      rw [h]
      obtain ⟨fired, h1, h2, h3, h4⟩ := ih (s := s) hnd.2
      refine ⟨fired, h1, h2, fun f hf => ?_, h4⟩
      obtain ⟨r', hr', rest⟩ := h3 f hf
      exact ⟨r', List.mem_cons_of_mem _ hr', rest⟩
    · -- fired
      obtain ⟨fired, h1, h2, h3, h4⟩ := ih (s := tryRule x cfg env update previous s r) hnd.2
      have hids : ∀ f ∈ fired, f.alertId ≠ r.alertId := by
        intro f hf
        obtain ⟨r', hr', _, rfl, _⟩ := h3 f hf
        exact hne r' hr'
      refine ⟨firingOf cfg env r message :: fired, ?_, ?_, ?_, fun hp => ?_⟩
      · rw [h1, h, List.append_assoc]
        rfl
      · rw [List.map_cons, List.nodup_cons]
        refine ⟨fun hmem => ?_, h2⟩
        obtain ⟨f, hf, heq⟩ := List.mem_map.mp hmem
        exact hids f hf heq
      · intro f hf
        rcases List.mem_cons.mp hf with rfl | hf
        · exact ⟨r, by simp, message, rfl, hmay⟩
        · obtain ⟨r', hr', m, hfm, hmay'⟩ := h3 f hf
          refine ⟨r', List.mem_cons_of_mem _ hr', m, hfm, ?_⟩
          rw [← hmay']
          exact (mayFire_congr (lookup_tryRule_ne (hne r' hr'))).symm
      · obtain ⟨h5, h6⟩ := h4 hp
        constructor
        · intro f hf
          rcases List.mem_cons.mp hf with rfl | hf
          · refine (h6 r.alertId hids).trans ?_
            rw [h]
            exact AlertDedup.lookup_markFired _ _ _
          · exact h5 f hf
        · intro a ha
          rw [h6 a fun f hf => ha f (List.mem_cons_of_mem _ hf)]
          exact lookup_tryRule_ne (Ne.symm (ha _ (List.mem_cons_self ..)))
    · -- panicked: the rest does nothing
      have hp : (tryRule x cfg env update previous s r).panicked = true := by rw [h]
      rw [foldl_tryRule_panicked hp]
      refine ⟨[], ?_, by simp, by simp, fun hfalse => ?_⟩
      · rw [h]
        exact (List.append_nil _).symm
      · rw [hp] at hfalse
        cases hfalse

/-- Every firing of a tick is one of a cached rule of its token. -/
theorem mem_foldl_tryRule {rules : List AlertRule} {s : TickState} {f : Firing}
    (h : f ∈ (rules.foldl (tryRule x cfg env update previous) s).fired) :
    f ∈ s.fired ∨ ∃ r ∈ rules, ∃ message, f = firingOf cfg env r message := by
  induction rules generalizing s with
  | nil => exact .inl h
  | cons r rs ih =>
    rw [List.foldl_cons] at h
    rcases ih h with hf | ⟨r', hr', hrest⟩
    · rcases tryRule_cases x cfg env update previous s r with heq | ⟨_, ⟨message, _, heq⟩ | heq⟩
      · rw [heq] at hf
        exact .inl hf
      · rw [heq] at hf
        rcases List.mem_append.mp hf with hf | hf
        · exact .inl hf
        · exact .inr ⟨r, List.mem_cons_self .., message, List.mem_singleton.mp hf⟩
      · rw [heq] at hf
        exact .inl hf
    · exact .inr ⟨r', List.mem_cons_of_mem _ hr', hrest⟩

theorem mem_handlePriceUpdate {e : AlertEngine} {f : Firing}
    (h : f ∈ (handlePriceUpdate x cfg env update e).2.1) :
    ∃ r ∈ e.rulesOf update.tokenId, ∃ message, f = firingOf cfg env r message := by
  rcases mem_foldl_tryRule h with hf | hr
  · cases hf
  · exact hr

end Tick

end AlertEngine

end PolyNotifier
