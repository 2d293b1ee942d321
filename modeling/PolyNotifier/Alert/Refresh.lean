import PolyNotifier.Alert.Watch

/-!
# What a cache refresh leaves

`refresh_cache` rebuilds three maps from the answers of two queries. Each of them is described
here for any answers and any engine before: the rule cache is the valid rows grouped by token,
the cooldowns change where a valid row has a time, the conditions are the rows that parse. No
map depends on what another row of the same query looks like.
-/

namespace PolyNotifier

namespace AlertEngine

/-! ## Rows -/

section

variable (x : Crates)

/-- The row is valid, and it is the token it watches. A row that is not valid selects no token at
    all, whatever its other columns say. -/
def Selects (tokenId : String) (row : AlertRow) : Prop :=
  ((x.parseStrings row.tokenIds).bind fun tokenIds => tokenIds[asUsize row.outcomeIndex]?) =
      some tokenId ∧
    (AlertType.fromStr row.alertType).isSome

instance (tokenId : String) (row : AlertRow) : Decidable (Selects x tokenId row) :=
  inferInstanceAs (Decidable (_ ∧ _))

/-- The rule of a row, column by column. It is written out, and not taken from the loop that builds
    the rules, so that a loop that loses rows or mixes up columns does not meet it. -/
structure OfRow (row : AlertRow) (r : AlertRule) : Prop where
  alertId : r.alertId = row.alertId
  subscriptionId : r.subscriptionId = row.subscriptionId
  userTelegramId : r.userTelegramId = row.userTelegramId
  botId : r.botId = row.botId
  /-- The token is the one the outcome index points at. -/
  tokenId : ∃ tokenIds, x.parseStrings row.tokenIds = some tokenIds ∧
    tokenIds[asUsize row.outcomeIndex]? = some r.tokenId
  outcomeIndex : r.outcomeIndex = row.outcomeIndex
  marketQuestion : r.marketQuestion = row.marketQuestion
  alertType : AlertType.fromStr row.alertType = some r.alertType
  /-- A threshold that is no decimal counts as zero. -/
  threshold : r.threshold = (x.decimalTryFrom row.threshold).getD Decimal.zero
  cooldownMinutes : r.cooldownMinutes = row.cooldownMinutes
  lastTriggeredAt : r.lastTriggeredAt = row.lastTriggeredAt

/-- The time a list of rules loads for an alert: that of its last rule that has one. Nothing is
    assumed about the rules here, so an alert may have several; the database has one row for each,
    and then the last is the only one. -/
def lastLoaded (rules : List AlertRule) (alertId : Int) : Option NaiveDateTime :=
  rules.reverse.findSome? fun r => if r.alertId = alertId then r.lastTriggeredAt else none

/-- The entry of a condition: that of its last row that parses. A row that does not parse leaves
    the condition to an earlier one, because the map is cleared before the loop and the loop only
    inserts. -/
def lastCondition (rows : List ConditionRow) (conditionId : String) :
    Option (Int × List String) :=
  rows.reverse.findSome? fun row =>
    if row.conditionId = conditionId then
      (x.parseStrings row.tokenIds).map fun tokenIds => (row.marketId, tokenIds)
    else none

end

variable {x : Crates} {tokenId : String} {row : AlertRow}

/-- **A rule is built if and only if it is the rule of the row.** -/
theorem buildRule_iff_ofRow {r : AlertRule} : buildRule x row = some r ↔ OfRow x row r := by
  rw [buildRule_eq_some]
  constructor
  · rintro ⟨tokenIds, hids, htoken, htype, hr⟩
    rw [hr]
    exact ⟨rfl, rfl, rfl, rfl, ⟨tokenIds, hids, htoken⟩, rfl, rfl, htype, rfl, rfl, rfl⟩
  · rintro ⟨halert, hsub, huser, hbot, ⟨tokenIds, hids, htoken⟩, hindex, hquestion, htype,
      hthreshold, hcooldown, hlast⟩
    refine ⟨tokenIds, hids, htoken, htype, ?_⟩
    rw [← halert, ← hsub, ← huser, ← hbot, ← hindex, ← hquestion, ← hthreshold, ← hcooldown,
      ← hlast]

theorem selects_iff : Selects x tokenId row ↔
    ∃ r, buildRule x row = some r ∧ r.tokenId = tokenId := by
  unfold Selects
  constructor
  · rintro ⟨htoken, htype⟩
    obtain ⟨tokenIds, hids, htoken⟩ := Option.bind_eq_some_iff.mp htoken
    obtain ⟨alertType, htype⟩ := Option.isSome_iff_exists.mp htype
    exact ⟨⟨row.alertId, row.subscriptionId, row.userTelegramId, row.botId, tokenId,
      row.outcomeIndex, row.marketQuestion, alertType,
      (x.decimalTryFrom row.threshold).getD Decimal.zero, row.cooldownMinutes,
      row.lastTriggeredAt⟩, buildRule_eq_some.mpr ⟨tokenIds, hids, htoken, htype, rfl⟩, rfl⟩
  · rintro ⟨r, hr, rfl⟩
    obtain ⟨tokenIds, hids, htoken, htype, _⟩ := buildRule_eq_some.mp hr
    rw [hids, htype]
    exact ⟨htoken, rfl⟩

/-- **The rules of a token are the valid rows that select it**, each once and in order. -/
theorem forall₂_ofRow_iff {rows : List AlertRow} {rules : List AlertRule} :
    List.Forall₂ (OfRow x) (rows.filter fun row => Selects x tokenId row) rules ↔
      rules = (rows.filterMap (buildRule x)).filter fun r => r.tokenId == tokenId := by
  induction rows generalizing rules with
  | nil => simp
  | cons row rows ih =>
    by_cases hsel : Selects x tokenId row
    · obtain ⟨r, hr, htoken⟩ := selects_iff.mp hsel
      rw [List.filter_cons, if_pos (decide_eq_true hsel), List.filterMap_cons_some hr,
        List.filter_cons_of_pos (by simpa using htoken)]
      constructor
      · intro h
        cases h with
        | cons hr' hrest =>
          rw [← buildRule_iff_ofRow, hr] at hr'
          cases hr'
          rw [ih.mp hrest]
      · rintro rfl
        exact .cons (buildRule_iff_ofRow.mp hr) (ih.mpr rfl)
    · rw [List.filter_cons, if_neg (by simpa using hsel), ih]
      cases hr : buildRule x row with
      | none => rw [List.filterMap_cons_none hr]
      | some r =>
        have htoken : r.tokenId ≠ tokenId := fun h => hsel (selects_iff.mpr ⟨r, hr, h⟩)
        rw [List.filterMap_cons_some hr, List.filter_cons_of_neg (by simpa using htoken)]

/-! ## The three maps -/

/-- A token has an entry if and only if it has a rule. -/
theorem lookup_byToken_iff {rules rules' : List AlertRule} :
    (byToken rules).lookup tokenId = some rules' ↔
      rules' ≠ [] ∧ rules' = rules.filter fun r => r.tokenId == tokenId := by
  have hrules := rulesOf_byToken rules tokenId
  cases hlookup : (byToken rules).lookup tokenId with
  | none =>
    rw [hlookup, Option.getD_none] at hrules
    constructor
    · intro h
      cases h
    · rintro ⟨hne, h⟩
      exact absurd (h.trans hrules.symm) hne
  | some entry =>
    rw [hlookup, Option.getD_some] at hrules
    have hmem : tokenId ∈ byToken rules := Finmap.lookup_isSome.mp (by rw [hlookup]; rfl)
    obtain ⟨r, hr, htoken⟩ := mem_byToken.mp hmem
    have hne : entry ≠ [] := by
      rw [hrules]
      exact List.ne_nil_of_mem (List.mem_filter.mpr ⟨hr, by simpa using htoken⟩)
    constructor
    · intro h
      cases h
      exact ⟨hne, hrules⟩
    · rintro ⟨_, h⟩
      rw [h, ← hrules]

theorem lastLoaded_snoc (rules : List AlertRule) (r : AlertRule) (a : Int) :
    lastLoaded (rules ++ [r]) a =
      (if r.alertId = a then r.lastTriggeredAt else none).or (lastLoaded rules a) := by
  unfold lastLoaded
  rw [List.reverse_append, List.reverse_singleton, List.singleton_append, List.findSome?_cons]
  cases (if r.alertId = a then r.lastTriggeredAt else none) <;> rfl

/-- **What a load leaves**, whatever the rules are. -/
theorem lookup_loadFromAlerts_eq (rules : List AlertRule) (d : AlertDedup) (a : Int) :
    (d.loadFromAlerts rules).lastTriggered.lookup a =
      (lastLoaded rules a).or (d.lastTriggered.lookup a) := by
  induction rules using List.reverseRecOn with
  | nil => rfl
  | append_singleton rules r ih =>
    rw [lastLoaded_snoc, Option.or_assoc, ← ih, AlertDedup.loadFromAlerts, List.foldl_append]
    show ((d.loadFromAlerts rules).load r).lastTriggered.lookup a = _
    by_cases ha : r.alertId = a
    · subst ha
      rw [if_pos rfl, AlertDedup.lookup_load_self]
    · rw [if_neg ha, AlertDedup.lookup_load_ne (Ne.symm ha)]
      rfl

theorem loadFromAlerts_again (rules : List AlertRule) (d : AlertDedup) :
    (d.loadFromAlerts rules).loadFromAlerts rules = d.loadFromAlerts rules := by
  have hlookup : ∀ a, ((d.loadFromAlerts rules).loadFromAlerts rules).lastTriggered.lookup a =
      (d.loadFromAlerts rules).lastTriggered.lookup a := by
    intro a
    rw [lookup_loadFromAlerts_eq, lookup_loadFromAlerts_eq, ← Option.or_assoc, Option.or_self]
  exact congrArg AlertDedup.mk (Finmap.ext_lookup hlookup)

/-- What is loaded for an alert is the time of one of its valid rows. -/
theorem row_of_lastLoaded {rows : List AlertRow} {a : Int} {last : NaiveDateTime}
    (h : lastLoaded (rows.filterMap (buildRule x)) a = some last) :
    ∃ row ∈ rows, row.alertId = a ∧ (∃ tokenId, Selects x tokenId row) ∧
      row.lastTriggeredAt = some last := by
  obtain ⟨r, hr, hlast⟩ := List.exists_of_findSome?_eq_some h
  obtain ⟨row, hrow, hbuild⟩ := List.mem_filterMap.mp (List.mem_reverse.mp hr)
  split at hlast
  · rename_i ha
    refine ⟨row, hrow, ?_, ⟨r.tokenId, selects_iff.mpr ⟨r, hbuild, rfl⟩⟩, ?_⟩
    · rw [← buildRule_alertId hbuild]
      exact ha
    · rw [← buildRule_lastTriggeredAt hbuild]
      exact hlast
  · cases hlast

theorem lookup_foldl_insertCondition_eq (rows : List ConditionRow)
    (m : DashMap String (Int × List String)) (c : String) :
    (rows.foldl (insertCondition x) m).lookup c = (lastCondition x rows c).or (m.lookup c) := by
  induction rows using List.reverseRecOn with
  | nil => rfl
  | append_singleton rows row ih =>
    have hsnoc : lastCondition x (rows ++ [row]) c =
        (if row.conditionId = c then
            (x.parseStrings row.tokenIds).map fun tokenIds => (row.marketId, tokenIds)
          else none).or (lastCondition x rows c) := by
      unfold lastCondition
      rw [List.reverse_append, List.reverse_singleton, List.singleton_append,
        List.findSome?_cons]
      split <;> simp [*]
    rw [hsnoc, Option.or_assoc, ← ih, List.foldl_append]
    show (insertCondition x _ row).lookup c = _
    unfold insertCondition
    by_cases hc : row.conditionId = c
    · subst hc
      rw [if_pos rfl]
      cases x.parseStrings row.tokenIds with
      | none => rfl
      | some tokenIds => exact Finmap.lookup_insert _
    · rw [if_neg hc]
      cases x.parseStrings row.tokenIds with
      | none => rfl
      | some tokenIds => exact Finmap.lookup_insert_of_ne _ (Ne.symm hc)

/-! ## The refresh -/

/-- A refresh with the same answers again changes nothing. -/
theorem refreshCache_again (rows : Option (List AlertRow))
    (conditions : Option (List ConditionRow)) (e : AlertEngine) :
    refreshCache x rows conditions (refreshCache x rows conditions e) =
      refreshCache x rows conditions e := by
  cases rows with
  | none => rfl
  | some rows =>
    cases conditions with
    | none =>
      simp only [refreshCache, refreshConditionTokens]
      rw [loadFromAlerts_again]
    | some conditions =>
      simp only [refreshCache, refreshConditionTokens]
      rw [loadFromAlerts_again]

variable (x) in
/-- **A refresh is exact, and a failed query leaves its part as it was.** A token has an entry in
    the cache if and only if a row selects it, and the entry has one rule for each of these rows,
    in their order. -/
theorem refreshCache_exact (rows : List AlertRow) (conditions : Option (List ConditionRow))
    (e : AlertEngine) :
    refreshCache x none conditions e = e ∧
    (∀ tokenId rules, (refreshCache x (some rows) conditions e).ruleCache.lookup tokenId =
        some rules ↔
      rules ≠ [] ∧ List.Forall₂ (OfRow x) (rows.filter fun row => Selects x tokenId row) rules) ∧
    (∀ a, (refreshCache x (some rows) conditions e).dedup.lastTriggered.lookup a =
        e.dedup.lastTriggered.lookup a ∨
      ∃ row ∈ rows, row.alertId = a ∧ (∃ tokenId, Selects x tokenId row) ∧
        row.lastTriggeredAt.isSome ∧
        (refreshCache x (some rows) conditions e).dedup.lastTriggered.lookup a =
          row.lastTriggeredAt) ∧
    (conditions = none →
      (refreshCache x (some rows) conditions e).conditionTokens = e.conditionTokens) ∧
    (∀ conditionRows, conditions = some conditionRows → ∀ c,
      (refreshCache x (some rows) conditions e).conditionTokens.lookup c =
        lastCondition x conditionRows c) ∧
    refreshCache x (some rows) conditions (refreshCache x (some rows) conditions e) =
      refreshCache x (some rows) conditions e := by
  have hcache : (refreshCache x (some rows) conditions e).ruleCache =
      byToken (rows.filterMap (buildRule x)) := by
    cases conditions <;> rfl
  have hdedup : (refreshCache x (some rows) conditions e).dedup =
      e.dedup.loadFromAlerts (rows.filterMap (buildRule x)) := by
    cases conditions <;> rfl
  refine ⟨rfl, ?_, ?_, ?_, ?_, refreshCache_again _ _ _⟩
  · intro tokenId rules
    rw [hcache, lookup_byToken_iff, forall₂_ofRow_iff]
  · intro a
    rw [hdedup, lookup_loadFromAlerts_eq]
    cases hloaded : lastLoaded (rows.filterMap (buildRule x)) a with
    | none => exact .inl rfl
    -- a mark comes from the column of a row, and from the last one where alerts are not distinct
    | some last =>
      obtain ⟨row, hrow, ha, hsel, hlast⟩ := row_of_lastLoaded hloaded
      exact .inr ⟨row, hrow, ha, hsel, by rw [hlast]; rfl, by rw [hlast]; rfl⟩
  · rintro rfl
    rfl
  · rintro conditionRows rfl c
    refine (lookup_foldl_insertCondition_eq conditionRows ∅ c).trans ?_
    rw [Finmap.lookup_empty, Option.or_none]

/-! ### Two rows of five -/

/-- The row of an alert on "Will it?" of user 7. -/
def rowAt (alertId outcomeIndex : Int) (alertType tokenIds : String) : AlertRow :=
  ⟨alertId, 1, alertType, .num (3 / 4), 60, none, 7, "bot", outcomeIndex, "Will it?", tokenIds⟩

/-- Between two valid rows one whose list is no JSON, one with a negative index and one of a type
    that is unknown. -/
def fiveRows : List AlertRow :=
  [rowAt 1 0 "above" "[\"yes\",\"no\"]", rowAt 2 0 "above" "[\"yes\",",
    rowAt 3 (-1) "above" "[\"yes\",\"no\"]", rowAt 4 0 "near" "[\"yes\",\"no\"]",
    rowAt 5 0 "below" "[\"yes\",\"no\"]"]

/-- The rule of a row on `yes`. -/
def ruleAt (alertId : Int) (alertType : AlertType) : AlertRule :=
  ⟨alertId, 1, 7, "bot", "yes", 0, "Will it?", alertType, .cents 75, 60, none⟩

/-- An engine that watches a token without any row. -/
def staleEngine : AlertEngine := { new with ruleCache := byToken [ruleAt 9 .above] }

theorem refreshCache_exact_five :
    (refreshCache Crates.reference (some fiveRows) none staleEngine).ruleCache.lookup "yes" =
      some [ruleAt 1 .above, ruleAt 5 .below] := by
  refine ((refreshCache_exact Crates.reference fiveRows none staleEngine).2.1 _ _).mpr
    ⟨by decide, ?_⟩
  -- the first and the last row select the token, the other three select none
  have hvalid : (fiveRows.filter fun row => Selects Crates.reference "yes" row) =
      [rowAt 1 0 "above" "[\"yes\",\"no\"]", rowAt 5 0 "below" "[\"yes\",\"no\"]"] := by
    decide +kernel
  have hids : Crates.reference.parseStrings "[\"yes\",\"no\"]" = some ["yes", "no"] := by
    decide +kernel
  have hthreshold : Decimal.cents 75 =
      (Crates.reference.decimalTryFrom (.num (3 / 4))).getD Decimal.zero := by decide +kernel
  have hrow : ∀ a : Int, ∀ t : AlertType, OfRow Crates.reference
      (rowAt a 0 t.toString "[\"yes\",\"no\"]") (ruleAt a t) := by
    intro a t
    exact ⟨rfl, rfl, rfl, rfl, ⟨["yes", "no"], hids, rfl⟩, rfl, rfl,
      AlertType.fromStr_toString t, hthreshold, rfl, rfl⟩
  rw [hvalid]
  exact .cons (hrow 1 .above) (.cons (hrow 5 .below) .nil)

end AlertEngine

end PolyNotifier
