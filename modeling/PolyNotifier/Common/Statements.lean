import PolyNotifier.Common.Db

/-!
# What the statements do

One lemma for each statement that writes: which table it changes and how. The proofs about the
services use these and never unfold a statement.
-/

namespace PolyNotifier

open Lib (Table TableError)

namespace Db

variable {d d' : Db}

/-- The Telegram identity behind a user id: `telegram_id` and `bot_id`. -/
def owner (d : Db) (userId : Int) : Option (Int × String) :=
  (d.users.find userId).map fun u => (u.telegramId, u.botId)

theorem owner_congr (hu : d'.users = d.users) (k : Int) : d'.owner k = d.owner k := by
  rw [owner, owner, hu]

theorem hasKey_of_owner {k : Int} {who : Int × String} (h : d.owner k = some who) :
    d.users.hasKey k := by
  unfold owner at h
  obtain ⟨u, hu, _⟩ := Option.map_eq_some_iff.mp h
  exact Table.hasKey_iff.mpr ⟨u, Table.mem_of_find hu⟩

theorem subscription_of_alert {a : Alert} (ha : a ∈ d.alerts.rows) :
    ∃ s, d.subscriptions.find a.subscriptionId = some s :=
  Table.find_isSome (d.alertSubscription a ha)

/-! ## Users -/

theorem owner_update {t : Table userSpec} {p : User → Bool} {f : User → User}
    {hk : ∀ r, userSpec.key (f r) = userSpec.key r}
    {hu : ∀ r, userSpec.ukey (f r) = userSpec.ukey r} (h : d.users.update p f hk hu = .ok t)
    {hgrow} (k : Int) : (d.setUsers t hgrow).owner k = d.owner k := by
  rw [owner, owner, setUsers_users, Table.find_update h, Option.map_map]
  congr 1
  funext u
  have hf : ((f u).telegramId, (f u).botId) = (u.telegramId, u.botId) := hu u
  by_cases hp : p u
  · simpa [hp] using hf
  · simp [hp]

/-- A statement that changes the user rows, but no identity. `get_or_create_user` does no more than
    this, however it ends, and nearly every handler begins with it. -/
structure UsersOnly (d d' : Db) : Prop where
  markets : d'.markets = d.markets
  subscriptions : d'.subscriptions = d.subscriptions
  alerts : d'.alerts = d.alerts
  owner : ∀ k, d.users.hasKey k → d'.owner k = d.owner k

theorem UsersOnly.refl (d : Db) : UsersOnly d d := ⟨rfl, rfl, rfl, fun _ _ => rfl⟩

theorem UsersOnly.countActiveSubscriptions (h : UsersOnly d d') (k : Int) :
    d'.countActiveSubscriptions k = d.countActiveSubscriptions k := by
  rw [Db.countActiveSubscriptions, Db.countActiveSubscriptions, activeSubscriptions,
    activeSubscriptions, h.subscriptions]

theorem updateUsername_ok {username : Option String} {now : NaiveDateTime} {id : Int}
    (h : d.updateUsername username now id = .ok d') : UsersOnly d d' := by
  unfold updateUsername at h
  split at h
  · rename_i t ht
    cases h
    exact ⟨rfl, rfl, rfl, fun k _ => owner_update ht k⟩
  · cases h

/-- A new name is always stored, and changes nothing but the name. -/
theorem updateUsername_isOk (username : Option String) (now : NaiveDateTime) (id : Int) (d : Db) :
    ∃ d', d.updateUsername username now id = .ok d' ∧
      ∀ k, d'.users.find k = (d.users.find k).map fun u =>
        if u.id == id then { u with username := username, updatedAt := now } else u := by
  have hok : ∃ t, d.users.update (fun u => u.id == id)
      (fun u => { u with username := username, updatedAt := now }) (fun _ => rfl)
      (fun _ => rfl) = .ok t :=
    Table.update_isOk fun u hu _ => d.users.check u hu
  obtain ⟨t, ht⟩ := hok
  unfold updateUsername
  split
  · rename_i t' ht'
    exact ⟨_, rfl, Table.find_update ht'⟩
  · rename_i e he
    rw [ht] at he
    cases he

theorem updateTimezone_ok {timezone : String} {now : NaiveDateTime} {id : Int}
    (h : d.updateTimezone timezone now id = .ok d') : UsersOnly d d' := by
  unfold updateTimezone at h
  split at h
  · rename_i t ht
    cases h
    exact ⟨rfl, rfl, rfl, fun k _ => owner_update ht k⟩
  · cases h

/-- **A new user is a new identity, with the defaults of the schema.** -/
theorem insertUser_ok {clock : NaiveDateTime} {telegramId : Int} {botId : String}
    {username : Option String} {id : Int}
    (h : d.insertUser clock telegramId botId username = .ok (id, d')) :
    UsersOnly d d' ∧ d.users.seq < id ∧ d'.users.find id =
      some ⟨id, telegramId, botId, username, "free", 5, "UTC", datetimeNow clock,
        datetimeNow clock⟩ := by
  unfold insertUser at h
  split at h
  · rename_i t ht
    cases h
    refine ⟨⟨rfl, rfl, rfl, fun k hk => ?_⟩, ?_, Table.find_insert_self ht⟩
    · rw [owner, owner, setUsers_users, Table.find_insert ht hk]
    · rw [(Table.insert_ok ht).2]
      omega
  · cases h

/-- A new user can be inserted if the identity is new. -/
theorem insertUser_isOk (clock : NaiveDateTime) (username : Option String) {telegramId : Int}
    {botId : String} (hfull : d.users.seq + 1 < 2 ^ 63)
    (hnew : d.users.rows.find? (fun u => u.telegramId == telegramId && u.botId == botId) = none) :
    ∃ id d', d.insertUser clock telegramId botId username = .ok (id, d') := by
  have hok : ∃ t, d.users.insert (fun id =>
      { id, telegramId, botId, username, tier := "free", maxSubscriptions := 5,
        timezone := "UTC", createdAt := datetimeNow clock, updatedAt := datetimeNow clock })
      (fun _ => rfl) = .ok t := by
    refine Table.insert_isOk hfull rfl fun hmem => ?_
    obtain ⟨u, hu, heq⟩ := List.mem_map.mp hmem
    have := List.find?_eq_none.mp hnew u hu
    obtain ⟨h1, h2⟩ := Prod.mk.inj heq
    exact this (by simp [h1, h2])
  obtain ⟨t, ht⟩ := hok
  unfold insertUser
  split
  · exact ⟨_, _, rfl⟩
  · rename_i e he
    rw [ht] at he
    cases he

/-- Every user is one that was there, with the tier it had, or is new and free. -/
def TiersKept (d d' : Db) : Prop :=
  ∀ u' ∈ d'.users.rows, u'.tier = "free" ∨ ∃ u ∈ d.users.rows,
    (u.telegramId, u.botId) = (u'.telegramId, u'.botId) ∧ u.tier = u'.tier

theorem TiersKept.of_users (h : d'.users = d.users) : TiersKept d d' := by
  intro u hu
  rw [h] at hu
  exact .inr ⟨u, hu, rfl, rfl⟩

theorem tiersKept_update {t : Table userSpec} {p : User → Bool} {f : User → User}
    {hk : ∀ r, userSpec.key (f r) = userSpec.key r}
    {hu : ∀ r, userSpec.ukey (f r) = userSpec.ukey r} (h : d.users.update p f hk hu = .ok t)
    (htier : ∀ r, (f r).tier = r.tier) {hgrow} : TiersKept d (d.setUsers t hgrow) := by
  intro u' hu'
  rw [setUsers_users, (Table.update_ok h).1] at hu'
  obtain ⟨u, hmem, rfl⟩ := List.mem_map.mp hu'
  refine .inr ⟨u, hmem, ?_⟩
  have hf : (u.telegramId, u.botId) = ((f u).telegramId, (f u).botId) := (hu u).symm
  by_cases hp : p u
  · simpa [hp, htier] using hf
  · simp [hp]

theorem updateUsername_tiers {username : Option String} {now : NaiveDateTime} {id : Int}
    (h : d.updateUsername username now id = .ok d') : TiersKept d d' := by
  unfold updateUsername at h
  split at h
  · rename_i t ht
    cases h
    exact tiersKept_update ht fun _ => rfl
  · cases h

theorem updateTimezone_tiers {timezone : String} {now : NaiveDateTime} {id : Int}
    (h : d.updateTimezone timezone now id = .ok d') : TiersKept d d' := by
  unfold updateTimezone at h
  split at h
  · rename_i t ht
    cases h
    exact tiersKept_update ht fun _ => rfl
  · cases h

theorem insertUser_tiers {clock : NaiveDateTime} {telegramId : Int} {botId : String}
    {username : Option String} {id : Int}
    (h : d.insertUser clock telegramId botId username = .ok (id, d')) : TiersKept d d' := by
  unfold insertUser at h
  split at h
  · rename_i t ht
    cases h
    intro u' hu'
    rw [setUsers_users, (Table.insert_ok ht).1, List.mem_append, List.mem_singleton] at hu'
    rcases hu' with hu' | rfl
    · exact .inr ⟨u', hu', rfl, rfl⟩
    · exact .inl rfl
  · cases h

/-- What the bot knows of an account before the first statement of a handler: the tier, the limit
    and the active subscriptions of the row that is there, or those of the row that will be. `none`
    if `get_or_create_user` cannot answer. It lets a condition on the state before a handler speak
    of a user who is not in the table yet. -/
structure Account where
  tier : String
  maxSubscriptions : Int
  active : Int
  deriving DecidableEq

def account (d : Db) (telegramId : Int) (botId : String) : Option Account :=
  match d.selectUser telegramId botId with
  | .ok (some u) => some ⟨u.tier, u.maxSubscriptions, d.countActiveSubscriptions u.id⟩
  | .ok none => if d.users.seq + 1 < 2 ^ 63 then some ⟨"free", 5, 0⟩ else none
  | .error _ => none

theorem selectUser_some {telegramId : Int} {botId : String} {u : User}
    (h : d.selectUser telegramId botId = .ok (some u)) :
    u ∈ d.users.rows ∧ u.telegramId = telegramId ∧ u.botId = botId := by
  unfold selectUser at h
  split at h
  · rename_i u' hf
    split at h
    · cases h
      have := List.find?_some hf
      rw [Bool.and_eq_true, beq_iff_eq, beq_iff_eq] at this
      exact ⟨List.mem_of_find?_eq_some hf, this⟩
    · cases h
  · cases h

theorem owner_of_mem {u : User} (hu : u ∈ d.users.rows) :
    d.owner u.id = some (u.telegramId, u.botId) := by
  have : d.users.find u.id = some u := Table.find_eq_some.mpr ⟨hu, rfl⟩
  rw [owner, this]
  rfl

theorem find_of_selectUser {telegramId : Int} {botId : String} {u : User}
    (h : d.selectUser telegramId botId = .ok (some u)) : d.users.find u.id = some u :=
  Table.find_eq_some.mpr ⟨(selectUser_some h).1, rfl⟩

theorem selectUser_inI32 {telegramId : Int} {botId : String} {u : User}
    (h : d.selectUser telegramId botId = .ok (some u)) : InI32 u.maxSubscriptions := by
  unfold selectUser at h
  split at h
  · split at h
    · cases h
      assumption
    · cases h
  · cases h

theorem selectUser_none {telegramId : Int} {botId : String}
    (h : d.selectUser telegramId botId = .ok none) :
    d.users.rows.find? (fun u => u.telegramId == telegramId && u.botId == botId) = none := by
  unfold selectUser at h
  split at h
  · split at h <;> cases h
  · assumption

theorem selectUserById_isOk {id : Int} {u : User} (h : d.users.find id = some u)
    (hi : InI32 u.maxSubscriptions) : d.selectUserById id = .ok u := by
  rw [selectUserById, h]
  exact if_pos hi

/-- A key above the largest one given out has no subscriptions. -/
theorem countActiveSubscriptions_new {id : Int} (h : d.users.seq < id) :
    d.countActiveSubscriptions id = 0 := by
  have hnone : d.activeSubscriptions id = [] := by
    rw [activeSubscriptions, List.filter_eq_nil_iff]
    intro s hs hact
    obtain ⟨u, hu, hk⟩ := Table.hasKey_iff.mp (d.subscriptionUser s hs)
    have hb : u.id ≤ d.users.seq := (d.users.bound u hu).2
    have hid : s.userId = id := by simpa using (Bool.and_eq_true_iff.mp hact).1
    have hk' : u.id = s.userId := hk
    omega
  rw [countActiveSubscriptions, hnone]
  rfl

theorem selectUserById_ok {id : Int} {u : User} (h : d.selectUserById id = .ok u) :
    u ∈ d.users.rows ∧ u.id = id := by
  unfold selectUserById at h
  split at h
  · rename_i u' hf
    split at h
    · cases h
      exact Table.mem_of_find hf
    · cases h
  · cases h

/-! ## Markets -/

/-- **The upsert leaves one row for the condition, active, with the columns it was given**, and
    every other row as it was. A row that had the id was of the condition too. -/
theorem upsertMarket_ok {clock now : NaiveDateTime} {conditionId question : String}
    {slug : Option String} {outcomes tokenIds : String} {id : Int}
    (h : d.upsertMarket clock now conditionId question slug outcomes tokenIds = .ok (id, d')) :
    d'.users = d.users ∧ d'.subscriptions = d.subscriptions ∧ d'.alerts = d.alerts ∧
    (∃ m, d'.markets.find id = some m ∧ m.id = id ∧ m.conditionId = conditionId ∧
      m.question = question ∧ m.outcomes = outcomes ∧ m.tokenIds = tokenIds ∧
      m.isActive = true) ∧
    (∀ k, k ≠ id → d.markets.hasKey k → d'.markets.find k = d.markets.find k) ∧
    ∀ m, d.markets.find id = some m → m.conditionId = conditionId := by
  unfold upsertMarket at h
  -- the condition has a row already, and the conflict clause updates it in place
  split at h
  · rename_i old hold
    have hmem := List.mem_of_find?_eq_some hold
    have hcond : old.conditionId = conditionId := by simpa using List.find?_some hold
    have hfold : d.markets.find old.id = some old := Table.find_eq_some.mpr ⟨hmem, rfl⟩
    split at h
    · rename_i t ht
      cases h
      refine ⟨rfl, rfl, rfl, ?_, ?_, ?_⟩
      · have hfind : t.find old.id = some { old with
            question, slug, outcomes, tokenIds, isActive := true, updatedAt := now } := by
          rw [Table.find_updateOnConflict ht, hfold, Option.map_some, if_pos (by simp [hcond])]
        exact ⟨_, hfind, rfl, hcond, rfl, rfl, rfl, rfl⟩
      · intro k hk _
        rw [setMarkets_markets, Table.find_updateOnConflict ht]
        cases hf : d.markets.find k with
        | none => rfl
        | some m =>
          obtain ⟨hm, hmk⟩ := Table.mem_of_find hf
          have hne : (m.conditionId == conditionId) = false := by
            rw [beq_eq_false_iff_ne, ← hcond]
            intro heq
            rw [Table.eq_of_ukey hm hmem heq] at hmk
            exact hk hmk.symm
          rw [Option.map_some, hne, if_neg (by simp)]
      · intro m hm
        rw [← hcond, Option.some.inj (hm.symm.trans hfold)]
    · cases h
  -- it has none: a row is inserted under the next id
  · split at h
    · rename_i t ht
      cases h
      refine ⟨rfl, rfl, rfl, ?_, ?_, ?_⟩
      · exact ⟨_, Table.find_insert_self ht, rfl, rfl, rfl, rfl, rfl, rfl⟩
      · intro k _ hk
        rw [setMarkets_markets, Table.find_insert ht hk]
      · -- the id is new
        intro m hm
        obtain ⟨hmem, hk⟩ := Table.mem_of_find hm
        have hb := (d.markets.bound m hmem).2
        rw [hk, (Table.insert_ok ht).2] at hb
        omega
    · cases h

theorem upsertMarket_isOk {clock now : NaiveDateTime} {conditionId question : String}
    {slug : Option String} {outcomes tokenIds : String} (hfull : d.markets.seq + 1 < 2 ^ 63) :
    ∃ id d', d.upsertMarket clock now conditionId question slug outcomes tokenIds
      = .ok (id, d') := by
  unfold upsertMarket
  split
  · have hok : ∃ t, d.markets.updateOnConflict (fun m => m.conditionId == conditionId)
        (fun m => { m with
          question, slug, outcomes, tokenIds, isActive := true, updatedAt := now })
        (fun _ => rfl) (fun _ => rfl) = .ok t := Table.updateOnConflict_isOk hfull fun _ _ _ => rfl
    obtain ⟨t, ht⟩ := hok
    split
    · exact ⟨_, _, rfl⟩
    · rename_i he
      rw [ht] at he
      cases he
  · rename_i hnone
    have hok : ∃ t, d.markets.insert (fun id =>
        { id, conditionId, question, slug, outcomes, tokenIds, lastPrices := "[]",
          isActive := true, createdAt := datetimeNow clock, updatedAt := now })
        (fun _ => rfl) = .ok t := by
      refine Table.insert_isOk hfull rfl fun hmem => ?_
      obtain ⟨m, hm, heq⟩ := List.mem_map.mp hmem
      have heq' : m.conditionId = conditionId := heq
      have := List.find?_eq_none.mp hnone m hm
      simp [heq'] at this
    obtain ⟨t, ht⟩ := hok
    split
    · exact ⟨_, _, rfl⟩
    · rename_i he
      rw [ht] at he
      cases he

/-- **What a flush writes to one market.** -/
theorem updateMarketPrices_ok (lastPrices : String) (now : NaiveDateTime) (id : Int) (d : Db) :
    ∃ d', d.updateMarketPrices lastPrices now id = .ok d' ∧
    d'.users = d.users ∧ d'.subscriptions = d.subscriptions ∧ d'.alerts = d.alerts ∧
    d'.markets.rows = d.markets.rows.map fun m =>
      if m.id == id then { m with lastPrices := lastPrices, updatedAt := now } else m := by
  have hok : ∃ t, d.markets.update (fun m => m.id == id)
      (fun m => { m with lastPrices := lastPrices, updatedAt := now })
      (fun _ => rfl) (fun _ => rfl) = .ok t := Table.update_isOk fun _ _ _ => rfl
  obtain ⟨t, ht⟩ := hok
  unfold updateMarketPrices
  split
  · rename_i t' ht'
    obtain rfl : t = t' := Except.ok.inj (ht.symm.trans ht')
    exact ⟨_, rfl, rfl, rfl, rfl, (Table.update_ok ht).1⟩
  · rename_i e he
    rw [ht] at he
    cases he

theorem updateMarketPrices_log {lastPrices : String} {now : NaiveDateTime} {id : Int}
    (h : d.updateMarketPrices lastPrices now id = .ok d') :
    d'.notificationLog = d.notificationLog := by
  unfold updateMarketPrices at h
  split at h
  · cases h
    rfl
  · cases h

/-! ## Subscriptions -/

/-- The rows are the same; one key of the subscriptions has been spent. -/
structure Ignored (d d' : Db) : Prop where
  users : d'.users = d.users
  markets : d'.markets = d.markets
  subscriptions : d'.subscriptions.rows = d.subscriptions.rows
  seq : d'.subscriptions.seq = d.subscriptions.seq + 1
  alerts : d'.alerts = d.alerts
  notificationLog : d'.notificationLog = d.notificationLog
  feedback : d'.feedback = d.feedback

/-- **`INSERT OR IGNORE`**: the row is there already, or one row is appended. -/
theorem insertSubscription_ok {clock : NaiveDateTime} {userId marketId outcomeIndex : Int}
    {n : Nat} (h : d.insertSubscription clock userId marketId outcomeIndex = .ok (n, d')) :
    (n = 0 ∧ Ignored d d' ∧ ∃ s ∈ d.subscriptions.rows,
      s.userId = userId ∧ s.marketId = marketId ∧ s.outcomeIndex = outcomeIndex) ∨
    (n = 1 ∧ d'.users = d.users ∧ d'.markets = d.markets ∧ d'.alerts = d.alerts ∧
      d'.subscriptions.seq = d.subscriptions.seq + 1 ∧
      d'.subscriptions.rows = d.subscriptions.rows ++
        [⟨d.subscriptions.seq + 1, userId, marketId, outcomeIndex, true, datetimeNow clock⟩]) := by
  unfold insertSubscription at h
  split at h
  · rename_i hins
    split at h
    · rename_i t ht
      cases h
      obtain ⟨s, hs, heq⟩ := List.mem_map.mp (Table.insert_unique hins)
      obtain ⟨h1, h2⟩ := Prod.mk.inj heq
      obtain ⟨h2, h3⟩ := Prod.mk.inj h2
      exact .inl ⟨rfl, ⟨rfl, rfl, (Table.spend_ok ht).1, (Table.spend_ok ht).2, rfl, rfl, rfl⟩,
        s, hs, h1, h2, h3⟩
    · cases h
  · cases h
  · rename_i t ht
    split at h
    · cases h
      exact .inr ⟨rfl, rfl, rfl, rfl, (Table.insert_ok ht).2, (Table.insert_ok ht).1⟩
    · cases h

/-- A subscription that is not there can be inserted. -/
theorem insertSubscription_isOk {clock : NaiveDateTime} {userId marketId outcomeIndex : Int}
    (hfull : d.subscriptions.seq + 1 < 2 ^ 63) (hu : d.users.hasKey userId)
    (hm : d.markets.hasKey marketId)
    (hnew : ∀ s ∈ d.subscriptions.rows,
      ¬ (s.userId = userId ∧ s.marketId = marketId ∧ s.outcomeIndex = outcomeIndex)) :
    ∃ d', d.insertSubscription clock userId marketId outcomeIndex = .ok (1, d') := by
  have hok : ∃ t, d.subscriptions.insert (fun id =>
      { id, userId, marketId, outcomeIndex, isActive := true, createdAt := datetimeNow clock })
      (fun _ => rfl) = .ok t := by
    refine Table.insert_isOk hfull rfl fun hmem => ?_
    obtain ⟨s, hs, heq⟩ := List.mem_map.mp hmem
    obtain ⟨h1, h2⟩ := Prod.mk.inj heq
    obtain ⟨h2, h3⟩ := Prod.mk.inj h2
    exact hnew s hs ⟨h1, h2, h3⟩
  obtain ⟨t, ht⟩ := hok
  unfold insertSubscription
  split
  · rename_i he
    rw [ht] at he
    cases he
  · rename_i he
    rw [ht] at he
    cases he
  · rw [dif_pos ⟨hu, hm⟩]
    exact ⟨_, rfl⟩

theorem selectSubscriptionId_some {userId marketId outcomeIndex id : Int}
    (h : d.selectSubscriptionId userId marketId outcomeIndex = some id) :
    ∃ s ∈ d.subscriptions.rows, s.id = id ∧ s.userId = userId ∧ s.marketId = marketId ∧
      s.outcomeIndex = outcomeIndex ∧ s.isActive = true := by
  obtain ⟨s, hs, rfl⟩ := Option.map_eq_some_iff.mp h
  have := List.find?_some hs
  simp only [Bool.and_eq_true, beq_iff_eq] at this
  exact ⟨s, List.mem_of_find?_eq_some hs, rfl, this.1.1.1, this.1.1.2, this.1.2, this.2⟩

/-- The subscription that was just inserted is found. -/
theorem selectSubscriptionId_isSome {s : Subscription} (hs : s ∈ d.subscriptions.rows)
    (hact : s.isActive = true) :
    d.selectSubscriptionId s.userId s.marketId s.outcomeIndex = some s.id := by
  cases hsel : d.selectSubscriptionId s.userId s.marketId s.outcomeIndex with
  | none =>
    have := List.find?_eq_none.mp (Option.map_eq_none_iff.mp hsel) s hs
    simp [hact] at this
  | some id =>
    obtain ⟨s', hs', hid, hu, hm, ho, _⟩ := selectSubscriptionId_some hsel
    have hkey : subscriptionSpec.ukey s' = subscriptionSpec.ukey s := by
      show (s'.userId, s'.marketId, s'.outcomeIndex) = (s.userId, s.marketId, s.outcomeIndex)
      rw [hu, hm, ho]
    rw [← hid, Table.eq_of_ukey hs' hs hkey]

/-! ## Alerts -/

/-- **A new alert has the defaults of the schema.** -/
theorem insertAlert_ok {clock : NaiveDateTime} {subscriptionId : Int} {alertType : String}
    {threshold : F64} (h : d.insertAlert clock subscriptionId alertType threshold = .ok d') :
    d.subscriptions.hasKey subscriptionId ∧ d'.users = d.users ∧ d'.markets = d.markets ∧
    d'.subscriptions = d.subscriptions ∧ d'.alerts.seq = d.alerts.seq + 1 ∧
    d'.alerts.rows = d.alerts.rows ++ [⟨d.alerts.seq + 1, subscriptionId, alertType, threshold,
      false, 60, none, datetimeNow clock⟩] := by
  unfold insertAlert at h
  split at h
  · cases h
  · rename_i t ht
    split at h
    · rename_i hfk
      cases h
      exact ⟨hfk, rfl, rfl, rfl, (Table.insert_ok ht).2, (Table.insert_ok ht).1⟩
    · cases h

theorem insertAlert_isOk {clock : NaiveDateTime} {subscriptionId : Int} {alertType : String}
    {threshold : F64} (hfull : d.alerts.seq + 1 < 2 ^ 63)
    (htype : alertTypes.contains alertType) (hnan : threshold ≠ .nan)
    (hfk : d.subscriptions.hasKey subscriptionId) :
    ∃ d', d.insertAlert clock subscriptionId alertType threshold = .ok d' := by
  have hok : ∃ t, d.alerts.insert (fun id =>
      { id, subscriptionId, alertType, threshold, isTriggered := false, cooldownMinutes := 60,
        lastTriggeredAt := none, createdAt := datetimeNow clock }) (fun _ => rfl) = .ok t := by
    refine Table.insert_isOk hfull ?_ fun hmem => ?_
    · show (alertTypes.contains alertType && threshold != .nan) = true
      rw [htype, Bool.true_and, bne_iff_ne]
      exact hnan
    · obtain ⟨a, ha, heq⟩ := List.mem_map.mp hmem
      have hb : a.id ≤ d.alerts.seq := (d.alerts.bound a ha).2
      have heq' : a.id = d.alerts.seq + 1 := heq
      omega
  obtain ⟨t, ht⟩ := hok
  unfold insertAlert
  split
  · rename_i he
    rw [ht] at he
    cases he
  · rw [dif_pos hfk]
    exact ⟨_, rfl⟩

theorem mem_alertsOf {a : Alert} {subscriptionId : Int} :
    a ∈ d.alertsOf subscriptionId ↔ a ∈ d.alerts.rows ∧ a.subscriptionId = subscriptionId := by
  rw [alertsOf, (List.perm_insertionSort _ _).mem_iff, List.mem_filter, beq_iff_eq]

/-- **The update rewrites the oldest alert of the subscription, and nothing else.** -/
theorem updateAlert_ok {alertType : String} {threshold : F64} {subscriptionId : Int}
    (h : d.updateAlert alertType threshold subscriptionId = .ok d') :
    d'.users = d.users ∧ d'.markets = d.markets ∧ d'.subscriptions = d.subscriptions ∧
    d'.alerts.seq = d.alerts.seq ∧
    d'.alerts.rows = d.alerts.rows.map fun a =>
      if a.subscriptionId == subscriptionId &&
          (d.alertsOf subscriptionId).head?.map Alert.id == some a.id then
        { a with alertType := alertType, threshold := threshold }
      else a := by
  unfold updateAlert at h
  dsimp only at h
  split at h
  · rename_i t ht
    cases h
    exact ⟨rfl, rfl, rfl, (Table.update_ok ht).2, (Table.update_ok ht).1⟩
  · cases h

theorem updateAlert_isOk {alertType : String} {threshold : F64} {subscriptionId : Int}
    (htype : alertTypes.contains alertType) (hnan : threshold ≠ .nan) :
    ∃ d', d.updateAlert alertType threshold subscriptionId = .ok d' := by
  have hok : ∃ t, d.alerts.update
      (fun a => a.subscriptionId == subscriptionId &&
        (d.alertsOf subscriptionId).head?.map Alert.id == some a.id)
      (fun a => { a with alertType := alertType, threshold := threshold })
      (fun _ => rfl) (fun _ => rfl) = .ok t := by
    refine Table.update_isOk fun a _ _ => ?_
    show (alertTypes.contains alertType && threshold != .nan) = true
    rw [htype, Bool.true_and, bne_iff_ne]
    exact hnan
  obtain ⟨t, ht⟩ := hok
  unfold updateAlert
  dsimp only
  split
  · exact ⟨_, rfl⟩
  · rename_i e he
    rw [ht] at he
    cases he

/-! ### The alerts of one subscription -/

theorem alertsOf_congr (h : d'.alerts = d.alerts) (k : Int) : d'.alertsOf k = d.alertsOf k := by
  rw [alertsOf, alertsOf, h]

/-- A key above the largest one given out has no alerts. -/
theorem filter_alerts_new {k : Int} (h : d.subscriptions.seq < k) :
    d.alerts.rows.filter (fun a => a.subscriptionId == k) = [] := by
  rw [List.filter_eq_nil_iff]
  intro a ha heq
  obtain ⟨s, hs, hk⟩ := Table.hasKey_iff.mp (d.alertSubscription a ha)
  have hb : s.id ≤ d.subscriptions.seq := (d.subscriptions.bound s hs).2
  have hk' : s.id = a.subscriptionId := hk
  have heq' : a.subscriptionId = k := beq_iff_eq.mp heq
  omega

theorem alertsOf_new {k : Int} (h : d.subscriptions.seq < k) : d.alertsOf k = [] := by
  rw [alertsOf, filter_alerts_new h]
  rfl

theorem alertsOf_append_ne {a : Alert} (h : d'.alerts.rows = d.alerts.rows ++ [a]) {k : Int}
    (hk : a.subscriptionId ≠ k) : d'.alertsOf k = d.alertsOf k := by
  have hnone : [a].filter (fun a => a.subscriptionId == k) = [] := by simp [hk]
  rw [alertsOf, alertsOf, h, List.filter_append, hnone, List.append_nil]

theorem alertsOf_append_self {a : Alert} (h : d'.alerts.rows = d.alerts.rows ++ [a])
    (hnil : d.alertsOf a.subscriptionId = []) : d'.alertsOf a.subscriptionId = [a] := by
  have hfilter : d.alerts.rows.filter (fun b => b.subscriptionId == a.subscriptionId) = [] := by
    rw [List.eq_nil_iff_forall_not_mem] at hnil ⊢
    intro b hb
    obtain ⟨hmem, hk⟩ := List.mem_filter.mp hb
    exact hnil b (mem_alertsOf.mpr ⟨hmem, beq_iff_eq.mp hk⟩)
  have hself : [a].filter (fun b => b.subscriptionId == a.subscriptionId) = [a] := by simp
  rw [alertsOf, h, List.filter_append, hfilter, hself]
  rfl

/-! ### How many alerts a subscription has -/

theorem countAlerts_congr (h : d'.alerts = d.alerts) (k : Int) :
    d'.countAlerts k = d.countAlerts k := by
  rw [countAlerts, countAlerts, h]

theorem countAlerts_new {k : Int} (h : d.subscriptions.seq < k) : d.countAlerts k = 0 := by
  rw [countAlerts, filter_alerts_new h]
  rfl

theorem countAlerts_append {a : Alert} (h : d'.alerts.rows = d.alerts.rows ++ [a]) (k : Int) :
    d'.countAlerts k = d.countAlerts k + if a.subscriptionId = k then 1 else 0 := by
  rw [countAlerts, countAlerts, h, List.filter_append, List.length_append]
  by_cases hk : a.subscriptionId = k <;> simp [hk]

theorem countAlerts_map {f : Alert → Alert} (h : d'.alerts.rows = d.alerts.rows.map f)
    (hf : ∀ a, (f a).subscriptionId = a.subscriptionId) (k : Int) :
    d'.countAlerts k = d.countAlerts k := by
  have hcomp : (fun a : Alert => a.subscriptionId == k) ∘ f = fun a => a.subscriptionId == k := by
    funext a
    rw [Function.comp_apply, hf]
  rw [countAlerts, countAlerts, h, List.filter_map, List.length_map, hcomp]

theorem countAlerts_deleteSubscription (id k : Int) (d : Db) :
    (d.deleteSubscription id).2.countAlerts k ≤ d.countAlerts k := by
  have hsub : ((d.alerts.rows.filter fun a => !(a.subscriptionId == id)).filter
      fun a => a.subscriptionId == k).Sublist
        (d.alerts.rows.filter fun a => a.subscriptionId == k) :=
    List.filter_sublist.filter _
  exact Int.ofNat_le.mpr hsub.length_le

/-- **What `persist_triggered` writes.** -/
theorem recordAlertTriggered_ok (now : NaiveDateTime) (id : Int) (d : Db) :
    ∃ d', d.recordAlertTriggered now id = .ok d' ∧ d'.alerts.seq = d.alerts.seq ∧
      d'.alerts.rows = d.alerts.rows.map fun a =>
        if a.id == id then { a with isTriggered := true, lastTriggeredAt := some now } else a := by
  have hok : ∃ t, d.alerts.update (fun a => a.id == id)
      (fun a => { a with isTriggered := true, lastTriggeredAt := some now })
      (fun _ => rfl) (fun _ => rfl) = .ok t :=
    Table.update_isOk fun a ha _ => d.alerts.check a ha
  obtain ⟨t, ht⟩ := hok
  unfold recordAlertTriggered
  split
  · rename_i t' ht'
    obtain rfl : t = t' := Except.ok.inj (ht.symm.trans ht')
    exact ⟨_, rfl, (Table.update_ok ht).2, (Table.update_ok ht).1⟩
  · rename_i e he
    rw [ht] at he
    cases he

theorem recordAlertTriggered_users {now : NaiveDateTime} {id : Int}
    (h : d.recordAlertTriggered now id = .ok d') : d'.users = d.users := by
  unfold recordAlertTriggered at h
  split at h
  · cases h
    rfl
  · cases h

theorem recordAlertTriggered_markets {now : NaiveDateTime} {id : Int}
    (h : d.recordAlertTriggered now id = .ok d') :
    d'.markets = d.markets ∧ d'.subscriptions = d.subscriptions := by
  unfold recordAlertTriggered at h
  split at h
  · cases h
    exact ⟨rfl, rfl⟩
  · cases h

theorem recordAlertTriggered_log {now : NaiveDateTime} {id : Int}
    (h : d.recordAlertTriggered now id = .ok d') : d'.notificationLog = d.notificationLog := by
  unfold recordAlertTriggered at h
  split at h
  · cases h
    rfl
  · cases h

/-! ## Notification log and feedback -/

/-- **A log entry is appended as it was given.** -/
theorem insertNotificationLog_ok {clock : NaiveDateTime} {userId id : Int}
    {notificationType message : String} {delivered : Bool} {errorMessage : Option String}
    (h : d.insertNotificationLog clock userId notificationType message delivered errorMessage
      = .ok (id, d')) :
    ∃ row, d'.notificationLog.rows = d.notificationLog.rows ++ [row] ∧ row.userId = userId ∧
      row.message = message ∧ row.notificationType = notificationType ∧
      row.delivered = delivered ∧ row.errorMessage = errorMessage := by
  unfold insertNotificationLog at h
  split at h
  · cases h
  · rename_i t ht
    split at h
    · cases h
      exact ⟨_, (Table.insert_ok ht).1, rfl, rfl, rfl, rfl, rfl⟩
    · cases h

/-- A log entry leaves the users alone, and takes one id. -/
theorem insertNotificationLog_users {clock : NaiveDateTime} {userId id : Int}
    {notificationType message : String} {delivered : Bool} {errorMessage : Option String}
    (h : d.insertNotificationLog clock userId notificationType message delivered errorMessage
      = .ok (id, d')) :
    d'.users = d.users ∧ d'.notificationLog.seq = d.notificationLog.seq + 1 := by
  unfold insertNotificationLog at h
  split at h
  · cases h
  · rename_i t ht
    split at h
    · cases h
      exact ⟨rfl, (Table.insert_ok ht).2⟩
    · cases h

theorem insertNotificationLog_isOk (clock : NaiveDateTime) (type : NotificationType)
    (message : String) (delivered : Bool) (errorMessage : Option String) {userId : Int}
    (hfull : d.notificationLog.seq + 1 < 2 ^ 63) (hu : d.users.hasKey userId) :
    ∃ id d', d.insertNotificationLog clock userId type.toString message delivered errorMessage
      = .ok (id, d') := by
  have hok : ∃ t, d.notificationLog.insert (fun id =>
      { id, userId, notificationType := type.toString, message, delivered, errorMessage,
        createdAt := datetimeNow clock }) (fun _ => rfl) = .ok t := by
    refine Table.insert_isOk hfull ?_ fun hmem => ?_
    · cases type <;> rfl
    · obtain ⟨l, hl, heq⟩ := List.mem_map.mp hmem
      have hb : l.id ≤ d.notificationLog.seq := (d.notificationLog.bound l hl).2
      have heq' : l.id = d.notificationLog.seq + 1 := heq
      omega
  obtain ⟨t, ht⟩ := hok
  unfold insertNotificationLog
  split
  · rename_i he
    rw [ht] at he
    cases he
  · rw [dif_pos hu]
    exact ⟨_, _, rfl⟩

/-- The lookup by Telegram id answers with one of the rows of the id. -/
theorem resolveUserIdByTelegram_some {first : Nat} {telegramId id : Int}
    (h : d.resolveUserIdByTelegram first telegramId = some id) :
    ∃ u ∈ d.users.rows, u.telegramId = telegramId ∧ u.id = id := by
  obtain ⟨u, hu, rfl⟩ := Option.map_eq_some_iff.mp h
  obtain ⟨hmem, ht⟩ := List.mem_filter.mp (List.mem_of_getElem? hu)
  exact ⟨u, hmem, beq_iff_eq.mp ht, rfl⟩

/-- **Any of them may be the one.** -/
theorem resolveUserIdByTelegram_of_mem {telegramId : Int} {u : User} (hu : u ∈ d.users.rows)
    (ht : u.telegramId = telegramId) :
    ∃ first, d.resolveUserIdByTelegram first telegramId = some u.id := by
  have hmem : u ∈ d.users.rows.filter fun u => u.telegramId == telegramId :=
    List.mem_filter.mpr ⟨hu, beq_iff_eq.mpr ht⟩
  obtain ⟨n, hn, hget⟩ := List.getElem_of_mem hmem
  refine ⟨n, ?_⟩
  unfold resolveUserIdByTelegram
  dsimp only
  rw [Nat.mod_eq_of_lt hn, List.getElem?_eq_getElem hn, hget, Option.map_some]

/-- It answers if the id has a row. -/
theorem resolveUserIdByTelegram_isSome (first : Nat) {telegramId : Int} {u : User}
    (hu : u ∈ d.users.rows) (ht : u.telegramId = telegramId) :
    ∃ id, d.resolveUserIdByTelegram first telegramId = some id := by
  have hmem : u ∈ d.users.rows.filter fun u => u.telegramId == telegramId :=
    List.mem_filter.mpr ⟨hu, beq_iff_eq.mpr ht⟩
  have hlt := Nat.mod_lt first (List.length_pos_of_mem hmem)
  unfold resolveUserIdByTelegram
  dsimp only
  rw [List.getElem?_eq_getElem hlt]
  exact ⟨_, rfl⟩

theorem resolveUserIdByTelegram_hasKey {first : Nat} {telegramId id : Int}
    (h : d.resolveUserIdByTelegram first telegramId = some id) : d.users.hasKey id := by
  obtain ⟨u, hu, _, hid⟩ := resolveUserIdByTelegram_some h
  exact Table.hasKey_iff.mpr ⟨u, hu, hid⟩

theorem insertFeedback_ok {clock : NaiveDateTime} {userId id : Int} {message : String}
    (h : d.insertFeedback clock userId message = .ok (id, d')) :
    d'.users = d.users ∧ d'.markets = d.markets ∧ d'.subscriptions = d.subscriptions ∧
      d'.alerts = d.alerts := by
  unfold insertFeedback at h
  split at h
  · cases h
  · split at h
    · cases h
      exact ⟨rfl, rfl, rfl, rfl⟩
    · cases h

end Db

end PolyNotifier
