import PolyNotifier.Bot.Dialogues
import PolyNotifier.Bot.Effects
import PolyNotifier.Bot.Rules
import PolyNotifier.Bot.Runs
import PolyNotifier.Common.Reference

/-!
# Concurrent subscribes

The last step of the subscribe flow inserts a subscription unless its key is taken, looks the new
row up by its key and puts an alert on the row it finds. Runs of it, for any users and markets,
are interleaved statement by statement (`Lib.Pool`).

The argument is about who may write what. A run whose `INSERT` added a row holds a claim on the
key of the row (`SubscribePhase.claim`), from the `INSERT` to the end. A key is claimed once,
because the key is unique and nothing deletes the row; so the row found is the row of the claim,
and only its holder puts an alert on it, once. `Claims` is that invariant.
-/

namespace PolyNotifier

open Lib (Prog Pool Event Steps Table)
open Lib.Prog (Monitor Ends ends_bind)

/-- `user_id`, `market_id`, `outcome_index`: the `UNIQUE` key of a subscription. -/
abbrev SubscriptionKey := Int × Int × Int

def Subscription.key (s : Subscription) : SubscriptionKey := (s.userId, s.marketId, s.outcomeIndex)

/-! ## One run -/

/-- How far a run has come with its writes. The key stays in the phase from the `INSERT` to the
    end: it is the run's claim, and a run never gives one up. -/
inductive SubscribePhase where
  | start
  /-- The `INSERT` found the key taken. -/
  | ignored
  /-- The `INSERT` added a row, -/
  | created (key : SubscriptionKey)
  /-- which was not found, -/
  | lost (key : SubscriptionKey)
  /-- or was found, -/
  | found (key : SubscriptionKey) (id : Int)
  /-- and has its alert. -/
  | done (key : SubscriptionKey) (id : Int)

/-- The key of the row the run has added. -/
def SubscribePhase.claim : SubscribePhase → Option SubscriptionKey
  | .start => none
  | .ignored => none
  | .created key => some key
  | .lost key => some key
  | .found key _ => some key
  | .done key _ => some key

/-- The run has nothing left to write. -/
def SubscribePhase.Over : SubscribePhase → Prop
  | .created _ => False
  | .found _ _ => False
  | _ => True

/-- The alert a run is about, and its phase. -/
structure SubscribeView where
  alertType : String
  threshold : F64
  phase : SubscribePhase

/-- One `INSERT`; the lookup of the row it added; one alert, on the row that was found. What a run
    must not do is part of it too: it deletes no subscription and rewrites no alert, of whomever.
    -/
def subscribeOnce : Monitor botSig SubscribeView where
  allows g
    | .sql (.insertSubscription ..) => g.phase = .start
    | .sql (.selectSubscriptionId userId marketId outcomeIndex) =>
        g.phase = .created (userId, marketId, outcomeIndex)
    | .sql (.insertAlert id alertType threshold) =>
        (∃ key, g.phase = .found key id) ∧ alertType = g.alertType ∧ threshold = g.threshold
    | .sql (.deleteSubscription _) => False
    | .sql (.updateAlert ..) => False
    | _ => True
  next g
    | .sql (.insertSubscription userId marketId outcomeIndex), .ok n =>
        if n = 0 then { g with phase := .ignored }
        else { g with phase := .created (userId, marketId, outcomeIndex) }
    | .sql (.selectSubscriptionId userId marketId outcomeIndex), .ok row =>
        match row with
        | none => { g with phase := .lost (userId, marketId, outcomeIndex) }
        | some id => { g with phase := .found (userId, marketId, outcomeIndex) id }
    | .sql (.insertAlert id _ _), .ok _ =>
        match g.phase.claim with
        | none => g
        | some key => { g with phase := .done key id }
    | _, _ => g

instance : SqlOnly subscribeOnce where
  allows g o ho := by
    cases o with
    | sql s => exact absurd rfl (ho s)
    | _ => trivial
  next g o r ho := by
    cases o with
    | sql s => exact absurd rfl (ho s)
    | _ => rfl

/-- The arguments of one run. -/
structure SubscribeRun where
  botId : String
  msg : Message
  conditionId : String
  question : String
  outcomes : List String
  tokenIds : List String
  outcomeIndex : Int
  alertType : String

def SubscribeRun.handler (x : Crates) (r : SubscribeRun) : Handler Unit :=
  handleSubscribeAlertThreshold x r.botId r.msg r.conditionId r.question r.outcomes r.tokenIds
    r.outcomeIndex r.alertType

/-- The view a run starts with. A threshold that is refused makes no alert. -/
def SubscribeRun.view (r : SubscribeRun) : SubscribeView where
  alertType := r.alertType
  threshold := match parseThreshold r.msg with
    | .ok pct => pct.div100
    | .error _ => .nan
  phase := .start

/-- The run has come to its end with nothing left to write. -/
def SubscribeView.Over (g : SubscribeView) : Prop := g.phase.Over

section Ends

variable {g : SubscribeView}

theorem ends_getOrCreateUser {telegramId : Int} {botId : String} {username : Option String}
    {Q : SubscribeView → User → Prop} (hQ : ∀ u, Q g u) :
    Ends Answered subscribeOnce SubscribeView.Over g (getOrCreateUser telegramId botId username)
      Q := by
  refine ends_bind.mpr (ends_query.mpr ⟨trivial, fun existing => ?_⟩)
  cases existing with
  | some user =>
    dsimp only
    split
    · refine ends_bind.mpr (ends_utcNow.mpr fun now => ?_)
      refine ends_bind.mpr (ends_query.mpr ⟨trivial, fun _ => ?_⟩)
      exact ends_query.mpr ⟨trivial, hQ⟩
    · exact hQ user
  | none =>
    refine ends_bind.mpr (ends_query.mpr ⟨trivial, fun id => ?_⟩)
    exact ends_query.mpr ⟨trivial, hQ⟩

/-- A reply and an idle dialogue end a run that has nothing left to write. -/
theorem ends_reply_idle {chat : Int} {text : String} (hg : g.Over) :
    Ends Answered subscribeOnce SubscribeView.Over g (do
      reply chat text
      updateDialogue chat .idle) fun g _ => g.Over :=
  ends_bind.mpr (ends_reply.mpr ⟨ends_updateDialogue.mpr hg, hg⟩)

theorem ends_createSubscription {chat userId marketId outcomeIndex : Int}
    {question label alertType : String} {pct : F64} (hstart : g.phase = .start)
    (htype : g.alertType = alertType) (hthreshold : g.threshold = pct.div100) :
    Ends Answered subscribeOnce SubscribeView.Over g
      (createSubscription chat userId marketId outcomeIndex question label alertType pct)
      fun g _ => g.Over := by
  refine ends_bind.mpr (ends_sql.mpr ⟨hstart, fun n => ?_⟩)
  cases n with
  | zero => exact ends_reply_idle trivial
  | succ n =>
    refine ends_bind.mpr (ends_query.mpr ⟨rfl, fun row => ?_⟩)
    cases row with
    | none => exact ends_reply_idle trivial
    | some subscriptionId =>
      refine ends_bind.mpr (ends_sql.mpr ⟨⟨⟨_, rfl⟩, htype.symm, hthreshold.symm⟩, fun _ => ?_⟩)
      exact ends_reply_idle trivial

/-- **One run**, whatever the answers are. -/
theorem ends_subscribeRun (x : Crates) (r : SubscribeRun) :
    Ends Answered subscribeOnce SubscribeView.Over r.view (r.handler x) fun g _ => g.Over := by
  unfold SubscribeRun.handler handleSubscribeAlertThreshold
  cases hpct : parseThreshold r.msg with
  | error text => exact ends_reply.mpr ⟨trivial, trivial⟩
  | ok pct =>
    dsimp only
    cases r.msg.sender with
    | none => trivial
    | some sender =>
      refine ends_bind.mpr (ends_getOrCreateUser fun u => ?_)
      refine ends_bind.mpr (ends_query.mpr ⟨trivial, fun activeCount => ?_⟩)
      split
      · exact ends_reply_idle trivial
      · refine ends_bind.mpr (ends_utcNow.mpr fun now => ?_)
        refine ends_bind.mpr (ends_query.mpr ⟨trivial, fun marketId => ?_⟩)
        refine ends_createSubscription rfl rfl ?_
        show r.view.threshold = pct.div100
        simp only [SubscribeRun.view, hpct]

end Ends

/-! ## What a step says of a claim -/

/-- The key of the row an `INSERT` has added. -/
def insertedKey : (o : BotOp) → o.Res → Option SubscriptionKey
  | .sql (.insertSubscription userId marketId outcomeIndex), .ok n =>
      if n = 0 then none else some (userId, marketId, outcomeIndex)
  | _, _ => none

section Next

variable {g : SubscribeView}

/-- **A claim comes from an `INSERT` that added a row, and stays.** -/
theorem next_claim {o : BotOp} {r : o.Res} (hallow : subscribeOnce.allows g o) :
    (subscribeOnce.next g o r).phase.claim = (insertedKey o r).or g.phase.claim := by
  cases o with
  | sql s =>
    cases s with
    | insertSubscription userId marketId outcomeIndex =>
      have hstart : g.phase = .start := hallow
      cases r with
      | error e => rfl
      | ok n =>
        rw [hstart]
        cases n <;> rfl
    | selectSubscriptionId userId marketId outcomeIndex =>
      have hcreated : g.phase = .created (userId, marketId, outcomeIndex) := hallow
      rcases r with e | _ | id
      · rfl
      · rw [hcreated]
        rfl
      · rw [hcreated]
        rfl
    | insertAlert id alertType threshold =>
      obtain ⟨⟨key, hfound⟩, _⟩ := hallow
      cases r with
      | error e => rfl
      | ok u =>
        simp only [subscribeOnce, hfound, SubscribePhase.claim]
        rfl
    | _ => cases r <;> rfl
  | _ => rfl

/-- A run that adds a row has not added one before. -/
theorem claim_of_inserted {o : BotOp} {r : o.Res} {key : SubscriptionKey}
    (hallow : subscribeOnce.allows g o) (h : insertedKey o r = some key) :
    g.phase.claim = none := by
  cases o with
  | sql s =>
    cases s with
    | insertSubscription userId marketId outcomeIndex =>
      have hstart : g.phase = .start := hallow
      rw [hstart]
      rfl
    | _ => cases r <;> cases h
  | _ => cases h

theorem next_about {o : BotOp} {r : o.Res} :
    (subscribeOnce.next g o r).alertType = g.alertType ∧
      (subscribeOnce.next g o r).threshold = g.threshold := by
  cases o with
  | sql s =>
    cases s with
    | insertSubscription userId marketId outcomeIndex =>
      rcases r with e | _ | n <;> exact ⟨rfl, rfl⟩
    | selectSubscriptionId userId marketId outcomeIndex =>
      rcases r with e | _ | id <;> exact ⟨rfl, rfl⟩
    | insertAlert id alertType threshold =>
      cases r with
      | error e => exact ⟨rfl, rfl⟩
      | ok u =>
        simp only [subscribeOnce]
        split <;> exact ⟨rfl, rfl⟩
    | _ => cases r <;> exact ⟨rfl, rfl⟩
  | _ => exact ⟨rfl, rfl⟩

end Next

/-! ## The invariant -/

/-- The alerts of the row with key `id`, as far as its run has come. -/
def SubscribeView.Holds (g : SubscribeView) (d : Db) (id : Int) : Prop :=
  match g.phase with
  | .start => True
  | .ignored => True
  | .created _ => d.alertsOf id = []
  | .lost _ => False
  | .found _ found => found = id ∧ d.alertsOf id = []
  | .done _ _ => ∃ a, d.alertsOf id = [a] ∧ a.alertType = g.alertType ∧ a.threshold = g.threshold

/-- **Who owns what.** `d₀` is the database the runs have started with: its rows and their alerts
    are kept, and every other row is claimed by one run, which alone has put alerts on it. -/
structure Claims (d₀ d : Db) (g : Nat → SubscribeView) : Prop where
  seq : d₀.subscriptions.seq ≤ d.subscriptions.seq
  kept : ∀ s ∈ d₀.subscriptions.rows, s ∈ d.subscriptions.rows
  added : ∀ s ∈ d.subscriptions.rows,
    s ∈ d₀.subscriptions.rows ∨ ∃ i, (g i).phase.claim = some s.key
  alerts : ∀ id ≤ d₀.subscriptions.seq, d.alertsOf id = d₀.alertsOf id
  once : ∀ i j key, (g i).phase.claim = some key → (g j).phase.claim = some key → i = j
  row : ∀ i key, (g i).phase.claim = some key → ∃ s ∈ d.subscriptions.rows,
    s.key = key ∧ d₀.subscriptions.seq < s.id ∧ s.isActive = true ∧ (g i).Holds d s.id

section Claims

variable {d₀ d d' : Db} {g g' : Nat → SubscribeView} {i : Nat}

theorem claims_start (d : Db) (hstart : ∀ i, (g i).phase = .start) : Claims d d g where
  seq := le_refl _
  kept _ hs := hs
  added _ hs := .inl hs
  alerts _ _ := rfl
  once i j key hi := by
    rw [hstart i] at hi
    cases hi
  row i key hi := by
    rw [hstart i] at hi
    cases hi

theorem SubscribeView.Holds.congr {v : SubscribeView} {id : Int} (h : v.Holds d id)
    (halerts : d'.alertsOf id = d.alertsOf id) : v.Holds d' id := by
  unfold SubscribeView.Holds at h ⊢
  rwa [halerts]

/-- Run `i` has moved on with the claim it had, and whatever alerts have changed are those of its
    row. -/
theorem Claims.move (h : Claims d₀ d g) (hsubs : d'.subscriptions.rows = d.subscriptions.rows)
    (hseq : d.subscriptions.seq ≤ d'.subscriptions.seq) (hother : ∀ j, j ≠ i → g' j = g j)
    (hclaim : (g' i).phase.claim = (g i).phase.claim)
    (halerts : ∀ s ∈ d.subscriptions.rows, (g i).phase.claim ≠ some s.key →
      d'.alertsOf s.id = d.alertsOf s.id)
    (hold : ∀ id ≤ d₀.subscriptions.seq, d'.alertsOf id = d.alertsOf id)
    (hrow : ∀ s ∈ d.subscriptions.rows, (g i).phase.claim = some s.key →
      (g i).Holds d s.id → s.isActive = true → (g' i).Holds d' s.id) : Claims d₀ d' g' := by
  have hclaims : ∀ j, (g' j).phase.claim = (g j).phase.claim := by
    intro j
    by_cases hj : j = i
    · rw [hj, hclaim]
    · rw [hother j hj]
  refine ⟨h.seq.trans hseq, hsubs ▸ h.kept, ?_, ?_, ?_, ?_⟩
  · simp only [hclaims, hsubs]
    exact h.added
  · intro id hid
    rw [hold id hid, h.alerts id hid]
  · simp only [hclaims]
    exact h.once
  · intro j key hj
    rw [hclaims] at hj
    rw [hsubs]
    obtain ⟨s, hs, rfl, hid, hact, hholds⟩ := h.row j key hj
    refine ⟨s, hs, rfl, hid, hact, ?_⟩
    by_cases hji : j = i
    · subst hji
      exact hrow s hs hj hholds hact
    · -- the row is not the one run `i` has claimed
      rw [hother j hji]
      exact hholds.congr (halerts s hs fun hi => hji (h.once j i _ hj hi))

theorem Claims.same (h : Claims d₀ d g) (hsubs : d'.subscriptions = d.subscriptions)
    (halerts : d'.alerts = d.alerts) : Claims d₀ d' g :=
  h.move (i := 0) (by rw [hsubs]) (by rw [hsubs]) (fun _ _ => rfl) rfl
    (fun s _ _ => Db.alertsOf_congr halerts s.id) (fun id _ => Db.alertsOf_congr halerts id)
    fun s _ _ hholds _ => hholds.congr (Db.alertsOf_congr halerts s.id)

/-- The row a key is claimed for. -/
theorem Claims.row_of_mem (h : Claims d₀ d g) {s : Subscription}
    (hs : s ∈ d.subscriptions.rows) (hi : (g i).phase.claim = some s.key) :
    d₀.subscriptions.seq < s.id ∧ s.isActive = true ∧ (g i).Holds d s.id := by
  obtain ⟨s', hs', hkey, hrest⟩ := h.row i _ hi
  obtain rfl : s' = s := Table.eq_of_ukey hs' hs hkey
  exact hrest

/-- **A row is added**, and claimed. -/
theorem Claims.insert (h : Claims d₀ d g) {s : Subscription}
    (hrows : d'.subscriptions.rows = d.subscriptions.rows ++ [s])
    (hseq : d'.subscriptions.seq = d.subscriptions.seq + 1)
    (hid : s.id = d.subscriptions.seq + 1) (hact : s.isActive = true)
    (hd : d'.alerts = d.alerts) (hother : ∀ j, j ≠ i → g' j = g j)
    (hstart : (g i).phase = .start) (hcreated : (g' i).phase = .created s.key) :
    Claims d₀ d' g' := by
  have hmem : s ∈ d'.subscriptions.rows := by
    rw [hrows]
    exact List.mem_append_right _ (List.mem_singleton.mpr rfl)
  have hgrow : ∀ t ∈ d.subscriptions.rows, t ∈ d'.subscriptions.rows := by
    intro t ht
    rw [hrows]
    exact List.mem_append_left _ ht
  have hclaim : (g' i).phase.claim = some s.key := by rw [hcreated]; rfl
  -- the key of the new row was nobody's
  have hfresh : ∀ j, j ≠ i → (g' j).phase.claim ≠ some s.key := by
    intro j hj hclaimed
    rw [hother j hj] at hclaimed
    obtain ⟨t, ht, hkey, _⟩ := h.row j _ hclaimed
    obtain rfl : t = s := Table.eq_of_ukey (hgrow t ht) hmem hkey
    have hb : t.id ≤ d.subscriptions.seq := (d.subscriptions.bound t ht).2
    omega
  have hseq₀ := h.seq
  refine ⟨by omega, fun t ht => hgrow t (h.kept t ht), ?_, ?_, ?_, ?_⟩
  · intro t ht
    rw [hrows, List.mem_append, List.mem_singleton] at ht
    rcases ht with ht | rfl
    · rcases h.added t ht with hold | ⟨j, hj⟩
      · exact .inl hold
      · have hji : j ≠ i := by
          rintro rfl
          rw [hstart] at hj
          cases hj
        exact .inr ⟨j, by rwa [hother j hji]⟩
    · exact .inr ⟨i, hclaim⟩
  · intro id hle
    rw [Db.alertsOf_congr hd, h.alerts id hle]
  · intro j k key hj hk
    by_cases hji : j = i
    · by_cases hki : k = i
      · rw [hji, hki]
      · subst hji
        obtain rfl := Option.some.inj (hclaim.symm.trans hj)
        exact absurd hk (hfresh k hki)
    · by_cases hki : k = i
      · subst hki
        obtain rfl := Option.some.inj (hclaim.symm.trans hk)
        exact absurd hj (hfresh j hji)
      · rw [hother j hji] at hj
        rw [hother k hki] at hk
        exact h.once j k key hj hk
  · intro j key hj
    by_cases hji : j = i
    · subst hji
      obtain rfl := Option.some.inj (hclaim.symm.trans hj)
      refine ⟨s, hmem, rfl, by omega, hact, ?_⟩
      rw [SubscribeView.Holds, hcreated]
      show d'.alertsOf s.id = []
      rw [Db.alertsOf_congr hd]
      exact Db.alertsOf_new (by omega)
    · rw [hother j hji] at hj ⊢
      obtain ⟨t, ht, hkey, hid, hact, hholds⟩ := h.row j key hj
      exact ⟨t, hgrow t ht, hkey, hid, hact, hholds.congr (Db.alertsOf_congr hd t.id)⟩

/-- **The row is found**: the lookup by key finds the row of the claim. -/
theorem Claims.found (h : Claims d₀ d g) {userId marketId outcomeIndex : Int}
    (hother : ∀ j, j ≠ i → g' j = g j)
    (hcreated : (g i).phase = .created (userId, marketId, outcomeIndex))
    (hnext : g' i = subscribeOnce.next (g i)
      (.sql (.selectSubscriptionId userId marketId outcomeIndex))
      (.ok (d.selectSubscriptionId userId marketId outcomeIndex))) : Claims d₀ d g' := by
  have hclaim : (g i).phase.claim = some (userId, marketId, outcomeIndex) := by
    rw [hcreated]
    rfl
  refine h.move rfl (le_refl _) hother ?_ (fun _ _ _ => rfl) (fun _ _ => rfl) ?_
  · have hallow : subscribeOnce.allows (g i)
        (.sql (.selectSubscriptionId userId marketId outcomeIndex)) := hcreated
    rw [hnext, next_claim hallow]
    rfl
  · intro s hs hkey hholds hact
    have hsel : d.selectSubscriptionId userId marketId outcomeIndex = some s.id := by
      obtain ⟨rfl, hkey⟩ := Prod.mk.inj (Option.some.inj (hclaim.symm.trans hkey))
      obtain ⟨rfl, rfl⟩ := Prod.mk.inj hkey
      exact Db.selectSubscriptionId_isSome hs hact
    rw [SubscribeView.Holds, hcreated] at hholds
    rw [hnext, hsel]
    exact ⟨rfl, hholds⟩

/-- **The alert is put** on the row of the claim, which had none. -/
theorem Claims.alert (h : Claims d₀ d g) {key : SubscriptionKey} {id : Int} {a : Alert}
    (hsubs : d'.subscriptions = d.subscriptions) (hrows : d'.alerts.rows = d.alerts.rows ++ [a])
    (ha : a.subscriptionId = id) (htype : a.alertType = (g i).alertType)
    (hthreshold : a.threshold = (g i).threshold) (hother : ∀ j, j ≠ i → g' j = g j)
    (hfound : (g i).phase = .found key id) (hnext : g' i = { g i with phase := .done key id }) :
    Claims d₀ d' g' := by
  have hclaim : (g i).phase.claim = some key := by
    rw [hfound]
    rfl
  obtain ⟨s, hs, hkey, hnew, _, hholds⟩ := h.row i key hclaim
  rw [SubscribeView.Holds, hfound] at hholds
  obtain ⟨rfl, hnil⟩ : id = s.id ∧ d.alertsOf s.id = [] := hholds
  refine h.move (by rw [hsubs]) (by rw [hsubs]) hother ?_ ?_ ?_ ?_
  · rw [hnext, hclaim]
    rfl
  · intro t ht hne
    refine Db.alertsOf_append_ne hrows ?_
    rw [ha]
    intro heq
    obtain rfl : s = t := Table.eq_of_key hs ht heq
    exact hne (hkey ▸ hclaim)
  · intro id hid
    refine Db.alertsOf_append_ne hrows ?_
    omega
  · intro t ht hclaimed _ _
    obtain rfl : s = t := by
      apply Table.eq_of_ukey hs ht
      exact hkey.trans (Option.some.inj (hclaim.symm.trans hclaimed))
    rw [hnext]
    refine ⟨a, ?_, htype, hthreshold⟩
    rw [← ha]
    exact Db.alertsOf_append_self hrows (by rw [ha]; exact hnil)

/-- **One statement of run `i`.** -/
theorem Claims.exec (h : Claims d₀ d g) {clock : NaiveDateTime} {s : Stmt} {a : s.Res}
    (hallow : subscribeOnce.allows (g i) (.sql s)) (hexec : s.exec clock d = .ok (a, d')) :
    Claims d₀ d' (Pool.advance subscribeOnce g ⟨i, .sql s, .ok a⟩) := by
  have hother : ∀ j, j ≠ i → Pool.advance subscribeOnce g ⟨i, .sql s, .ok a⟩ j = g j :=
    fun j hj => Pool.advance_ne hj
  have hnext : Pool.advance subscribeOnce g ⟨i, .sql s, .ok a⟩ i =
      subscribeOnce.next (g i) (.sql s) (.ok a) := Pool.advance_self
  cases s with
  | insertSubscription userId marketId outcomeIndex =>
    have hstart : (g i).phase = .start := hallow
    rcases Db.insertSubscription_ok hexec with ⟨rfl, hsame, _⟩ | ⟨rfl, _, _, halerts, hseq, hrows⟩
    · -- the key was taken
      refine h.move hsame.subscriptions (by rw [hsame.seq]; exact Int.le_of_lt (Int.lt_succ _))
        hother ?_ (fun s _ _ => Db.alertsOf_congr hsame.alerts s.id)
        (fun id _ => Db.alertsOf_congr hsame.alerts id) ?_
      · rw [hnext, next_claim hallow]
        rfl
      · intro s _ hclaim
        rw [hstart] at hclaim
        cases hclaim
    · exact h.insert hrows hseq rfl rfl halerts hother hstart (by rw [hnext]; rfl)
  -- the id of the new row is found by its key, and belongs to the run that inserted it
  | selectSubscriptionId userId marketId outcomeIndex =>
    cases hexec
    exact h.found hother hallow hnext
  -- the first alert of the subscription the run has found
  | insertAlert id alertType threshold =>
    obtain ⟨⟨key, hfound⟩, rfl, rfl⟩ := hallow
    obtain ⟨_, _, _, hsubs, _, hrows⟩ := Db.insertAlert_ok (Stmt.writing_ok hexec)
    refine h.alert hsubs hrows rfl rfl rfl hother hfound ?_
    rw [hnext]
    simp only [subscribeOnce, hfound, SubscribePhase.claim]
  | deleteSubscription id => exact hallow.elim
  | updateAlert alertType threshold id => exact hallow.elim
  | upsertMarket now conditionId question slug outcomes tokenIds =>
    obtain ⟨_, hsubs, halerts, _⟩ := Db.upsertMarket_ok hexec
    rw [Pool.advance_of_next rfl]
    exact h.same hsubs halerts
  | _ =>
    rw [Pool.advance_of_next rfl]
    cases exec_effect hexec with
    | plain _ husers _ => exact h.same husers.subscriptions husers.alerts

/-- **One operation of run `i`**, if it is answered. -/
theorem Claims.perform {env : Env} {w : World} {o : BotOp} (h : Claims d₀ w.db g)
    (hallow : subscribeOnce.allows (g i) o) (hans : Answered o (World.perform env o w).1) :
    Claims d₀ (World.perform env o w).2.db
      (Pool.advance subscribeOnce g ⟨i, o, (World.perform env o w).1⟩) := by
  cases o with
  | sql s =>
    cases hexec : World.execute env s w with
    | error e =>
      rw [World.perform_sql_error hexec] at hans
      obtain ⟨a, ha⟩ := hans
      cases ha
    | ok r =>
      rw [World.perform_sql_ok hexec]
      exact h.exec hallow (World.execute_ok hexec)
  | _ =>
    rw [Pool.advance_of_next rfl]
    exact h

end Claims

/-! ## Runs of the pool -/

/-- The view thread `i` starts with. -/
def viewAt (runs : List SubscribeRun) (i : Nat) : SubscribeView :=
  (runs[i]?.map SubscribeRun.view).getD ⟨"", .nan, .start⟩

/-- An event that asks for an alert. -/
def AsksAlert : BotOp → Prop
  | .sql (.insertAlert ..) => True
  | _ => False

/-- What holds after the events `es`: who owns what, and where every claim comes from. The clauses
    on the events are there because the result speaks of what was asked of the database, and not of
    the views, which no reader of a run can see. -/
structure SubscribeInv (runs : List SubscribeRun) (d₀ : Db) (es : List (Event botSig))
    (g : Nat → SubscribeView) (P : Pool botSig BotError Unit World) : Prop where
  ends : Pool.Ends Answered subscribeOnce SubscribeView.Over g P
  idle : ∀ i, P.threads[i]? = none → (g i).Over
  claims : Claims d₀ P.state.db g
  about : ∀ i, (g i).alertType = (viewAt runs i).alertType ∧
    (g i).threshold = (viewAt runs i).threshold
  claimed : ∀ i key, (g i).phase.claim = some key ↔
    ∃ ev ∈ es, ev.thread = i ∧ insertedKey ev.op ev.res = some key
  asked : ∀ ev ∈ es, AsksAlert ev.op → ∃ key, (g ev.thread).phase.claim = some key

section Runs

variable {x : Crates} {env : Env} {runs : List SubscribeRun} {w : World} {d₀ : Db}
  {es : List (Event botSig)} {ev : Event botSig} {g : Nat → SubscribeView}
  {P P' : Pool botSig BotError Unit World}

theorem viewAt_start (runs : List SubscribeRun) (i : Nat) : (viewAt runs i).phase = .start := by
  unfold viewAt
  cases runs[i]? <;> rfl

/-- A threshold that is a number belongs to a run that has read it. -/
theorem viewAt_threshold {i : Nat} (h : (viewAt runs i).threshold ≠ .nan) :
    ∃ r pct, runs[i]? = some r ∧ viewAt runs i = r.view ∧ parseThreshold r.msg = .ok pct ∧
      r.view.threshold = pct.div100 := by
  unfold viewAt at h ⊢
  cases hr : runs[i]? with
  | none =>
    rw [hr] at h
    exact absurd rfl h
  | some r =>
    rw [hr] at h
    cases hpct : parseThreshold r.msg with
    | error text =>
      have hview : r.view.threshold = .nan := by simp only [SubscribeRun.view, hpct]
      exact absurd hview h
    | ok pct => exact ⟨r, pct, rfl, rfl, hpct, by simp only [SubscribeRun.view, hpct]⟩

/-- An alert is only asked for on the row of a claim. -/
theorem claim_of_asksAlert {v : SubscribeView} {o : BotOp} (h : AsksAlert o)
    (hallow : subscribeOnce.allows v o) : ∃ key, v.phase.claim = some key := by
  cases o with
  | sql s =>
    cases s with
    | insertAlert id alertType threshold =>
      obtain ⟨⟨key, hfound⟩, _⟩ := hallow
      exact ⟨key, by rw [hfound]; rfl⟩
    | _ => exact h.elim
  | _ => exact h.elim

theorem subscribeInv_start (x : Crates) (runs : List SubscribeRun) (w : World) :
    SubscribeInv runs w.db [] (viewAt runs) ⟨runs.map (·.handler x), w⟩ where
  ends := by
    intro i p hp
    rw [List.getElem?_map] at hp
    obtain ⟨r, hr, rfl⟩ := Option.map_eq_some_iff.mp hp
    have hview : viewAt runs i = r.view := by
      rw [viewAt, hr]
      rfl
    rw [hview]
    exact ends_subscribeRun x r
  idle i _ := by
    rw [SubscribeView.Over, viewAt_start]
    trivial
  claims := claims_start w.db (viewAt_start runs)
  about i := ⟨rfl, rfl⟩
  claimed i key := by
    rw [viewAt_start]
    constructor
    · intro h
      cases h
    · rintro ⟨ev, hev, _⟩
      cases hev
  asked ev hev := by cases hev

/-- **One step of one of the runs.** -/
theorem SubscribeInv.step (h : SubscribeInv runs d₀ es g P)
    (hs : Pool.Step (World.perform env) P ev P') (hans : Answered ev.op ev.res) :
    SubscribeInv runs d₀ (es ++ [ev]) (Pool.advance subscribeOnce g ev) P' := by
  obtain ⟨hallow, hends⟩ := Pool.ends_step h.ends hs hans
  -- a claim now is a claim before, or the `INSERT` that has just happened
  have hclaim : ∀ i, (Pool.advance subscribeOnce g ev i).phase.claim =
      if i = ev.thread then (insertedKey ev.op ev.res).or (g i).phase.claim
      else (g i).phase.claim := by
    intro i
    unfold Pool.advance
    split
    · rename_i hi
      rw [hi]
      exact next_claim hallow
    · rfl
  have hstays : ∀ i key, (g i).phase.claim = some key →
      ∃ key', (Pool.advance subscribeOnce g ev i).phase.claim = some key' := by
    intro i key hi
    rw [hclaim, hi]
    cases insertedKey ev.op ev.res <;> split <;> exact ⟨_, rfl⟩
  refine ⟨hends, ?_, ?_, ?_, ?_, ?_⟩
  · intro i hi
    cases hs with
    | @mk j o k hj =>
      have hlt : j < P.threads.length := (List.getElem?_eq_some_iff.mp hj).1
      have hne : i ≠ j := by
        rintro rfl
        simp [hlt] at hi
      rw [Pool.advance_ne hne]
      refine h.idle i ?_
      simpa [List.getElem?_set_ne (Ne.symm hne)] using hi
  · cases hs with
    | mk hj => exact h.claims.perform hallow hans
  · intro i
    unfold Pool.advance
    split
    · exact ⟨next_about.1.trans (h.about i).1, next_about.2.trans (h.about i).2⟩
    · exact h.about i
  · intro i key
    have hsplit : (∃ e ∈ es ++ [ev], e.thread = i ∧ insertedKey e.op e.res = some key) ↔
        (g i).phase.claim = some key ∨
          (ev.thread = i ∧ insertedKey ev.op ev.res = some key) := by
      simp only [h.claimed i key, List.mem_append, List.mem_singleton, or_and_right, exists_or,
        exists_eq_left]
    rw [hclaim, hsplit]
    by_cases hi : i = ev.thread
    · subst hi
      rw [if_pos rfl]
      cases hins : insertedKey ev.op ev.res with
      | none => simp
      | some inserted => simp [claim_of_inserted hallow hins]
    · rw [if_neg hi]
      simp [Ne.symm hi]
  · intro e he hask
    rcases List.mem_append.mp he with he | he
    · obtain ⟨key, hkey⟩ := h.asked e he hask
      exact hstays _ _ hkey
    · obtain rfl := List.mem_singleton.mp he
      obtain ⟨key, hkey⟩ := claim_of_asksAlert hask hallow
      exact hstays _ _ hkey

theorem subscribeInv_steps
    (hrun : Steps (Pool.Step (World.perform env)) ⟨runs.map (·.handler x), w⟩ es P)
    (hans : ∀ ev ∈ es, Answered ev.op ev.res) : ∃ g, SubscribeInv runs w.db es g P := by
  induction hrun with
  | nil => exact ⟨_, subscribeInv_start x runs w⟩
  | snoc _ hs ih =>
    obtain ⟨g, hinv⟩ := ih fun ev hev => hans ev (List.mem_append_left _ hev)
    exact ⟨_, hinv.step hs (hans _ (List.mem_append_right _ (List.mem_singleton.mpr rfl)))⟩

/-- A run that has come to its end has nothing left to write. -/
theorem SubscribeInv.over (h : SubscribeInv runs d₀ es g P) (hdone : ∀ p ∈ P.threads, p.Done)
    (i : Nat) : (g i).Over := by
  cases hi : P.threads[i]? with
  | none => exact h.idle i hi
  | some p => exact h.ends.done hi (hdone p (List.mem_of_getElem? hi))

/-- A claim whose run has nothing left to write has its alert. -/
theorem SubscribeView.Holds.over {v : SubscribeView} {d : Db} {id : Int}
    {key : SubscriptionKey} (h : v.Holds d id) (hclaim : v.phase.claim = some key)
    (hover : v.Over) :
    ∃ a, d.alertsOf id = [a] ∧ a.alertType = v.alertType ∧ a.threshold = v.threshold := by
  unfold SubscribeView.Holds at h
  unfold SubscribeView.Over at hover
  cases hphase : v.phase with
  | start =>
    rw [hphase] at hclaim
    cases hclaim
  | ignored =>
    rw [hphase] at hclaim
    cases hclaim
  | created key =>
    rw [hphase] at hover
    exact hover.elim
  | lost key =>
    rw [hphase] at h
    exact h.elim
  | found key id =>
    rw [hphase] at hover
    exact hover.elim
  | done key id =>
    rw [hphase] at h
    exact h

/-- **Concurrent subscribes neither duplicate nor misplace alerts.** When all the runs have come
    to their end, in whatever order their calls were made: no key has two subscriptions; a
    subscription they have created has one alert, that of the run whose `INSERT` created it; the
    subscriptions from before are there with the alerts they had; and a run that created no
    subscription has asked for no alert. -/
theorem concurrent_subscribes
    (hrun : Steps (Pool.Step (World.perform env)) ⟨runs.map (·.handler x), w⟩ es P)
    (hans : ∀ ev ∈ es, Answered ev.op ev.res) (hdone : ∀ p ∈ P.threads, p.Done) :
    (P.state.db.subscriptions.rows.map Subscription.key).Nodup ∧
    (∀ s ∈ P.state.db.subscriptions.rows, s ∉ w.db.subscriptions.rows →
      (∃ ev ∈ es, insertedKey ev.op ev.res = some s.key) ∧
      ∀ ev ∈ es, insertedKey ev.op ev.res = some s.key → ∃ r pct a,
        runs[ev.thread]? = some r ∧ parseThreshold r.msg = .ok pct ∧
          P.state.db.alertsOf s.id = [a] ∧ a.alertType = r.alertType ∧
          a.threshold = pct.div100) ∧
    (∀ s ∈ w.db.subscriptions.rows, s ∈ P.state.db.subscriptions.rows ∧
      P.state.db.alertsOf s.id = w.db.alertsOf s.id) ∧
    ∀ i, (∀ ev ∈ es, ev.thread = i → insertedKey ev.op ev.res = none) →
      ∀ ev ∈ es, ev.thread = i → ¬ AsksAlert ev.op := by
  obtain ⟨g, hinv⟩ := subscribeInv_steps hrun hans
  refine ⟨P.state.db.subscriptions.unique, fun s hs hnew => ⟨?_, ?_⟩, ?_, ?_⟩
  · obtain ⟨i, hi⟩ := (hinv.claims.added s hs).resolve_left hnew
    obtain ⟨ev, hev, _, hkey⟩ := (hinv.claimed i _).mp hi
    exact ⟨ev, hev, hkey⟩
  · intro ev hev hkey
    have hclaim := (hinv.claimed ev.thread s.key).mpr ⟨ev, hev, rfl, hkey⟩
    obtain ⟨_, _, hholds⟩ := hinv.claims.row_of_mem hs hclaim
    obtain ⟨a, halerts, htype, hthreshold⟩ := hholds.over hclaim (hinv.over hdone ev.thread)
    rw [(hinv.about ev.thread).1] at htype
    rw [(hinv.about ev.thread).2] at hthreshold
    -- a stored threshold is a number, so the run has read it
    have hnum : (viewAt runs ev.thread).threshold ≠ .nan := by
      have ha : a ∈ P.state.db.alerts.rows :=
        (Db.mem_alertsOf.mp (halerts ▸ List.mem_singleton.mpr rfl)).1
      have hcheck := P.state.db.alerts.check a ha
      rw [← hthreshold]
      exact bne_iff_ne.mp (Bool.and_eq_true_iff.mp hcheck).2
    obtain ⟨r, pct, hr, hview, hpct, hdiv⟩ := viewAt_threshold hnum
    rw [hview] at htype hthreshold
    exact ⟨r, pct, a, hr, hpct, halerts, htype, hthreshold.trans hdiv⟩
  · intro s hs
    exact ⟨hinv.claims.kept s hs,
      hinv.claims.alerts s.id (w.db.subscriptions.bound s hs).2⟩
  · rintro i hnone ev hev rfl hask
    obtain ⟨key, hkey⟩ := hinv.asked ev hev hask
    obtain ⟨e, he, hthread, hins⟩ := (hinv.claimed ev.thread key).mp hkey
    rw [hnone e he hthread] at hins
    cases hins

end Runs

/-- User 7 answers the same question twice: above 70%, and below 30%. -/
def twice : List SubscribeRun :=
  [⟨"bot", ⟨70, some ⟨7, none, ""⟩, some "70", none⟩, "0xe", "Will it?", ["Yes", "No"],
      ["yes", "no"], 0, "above"⟩,
    ⟨"bot", ⟨70, some ⟨7, none, ""⟩, some "30", none⟩, "0xe", "Will it?", ["Yes", "No"],
      ["yes", "no"], 0, "below"⟩]

def twicePool : Pool botSig BotError Unit World :=
  ⟨twice.map (·.handler Crates.reference), ⟨Db.sampleDb, fun _ => .idle, [], 0⟩⟩

/-- The second is the first to insert. -/
def twiceOrder : List Nat := [0, 0, 1, 1, 0, 0, 1, 1, 1, 0, 1, 0, 0, 1, 1, 1]

theorem concurrent_subscribes_twice : ∃ es P,
    Steps (Pool.Step (World.perform World.answering)) twicePool es P ∧
      P.state.db.subscriptions.rows.length = 3 ∧
      ∀ s ∈ P.state.db.subscriptions.rows, s ∉ Db.sampleDb.subscriptions.rows →
        ∃ ev ∈ es, insertedKey ev.op ev.res = some s.key ∧ ∃ r pct a,
          twice[ev.thread]? = some r ∧ parseThreshold r.msg = .ok pct ∧
            P.state.db.alertsOf s.id = [a] ∧ a.alertType = r.alertType ∧
            a.threshold = pct.div100 := by
  have hcheck : (Pool.schedule (World.perform World.answering) twiceOrder twicePool).map
      (fun r => (r.1.all fun ev => decide (Answered ev.op ev.res),
        r.2.threads.all fun p => decide p.Done, r.2.state.db.subscriptions.rows.length)) =
      some (true, true, 3) := by decide +kernel
  obtain ⟨⟨es, P⟩, hsched, hall⟩ := Option.map_eq_some_iff.mp hcheck
  obtain ⟨hans, hall⟩ := Prod.mk.inj hall
  obtain ⟨hdone, hthree⟩ := Prod.mk.inj hall
  have hrun := Pool.schedule_steps hsched
  obtain ⟨_, hnew, _⟩ := concurrent_subscribes hrun
    (fun ev hev => of_decide_eq_true (List.all_eq_true.mp hans ev hev))
    fun p hp => of_decide_eq_true (List.all_eq_true.mp hdone p hp)
  refine ⟨es, P, hrun, hthree, fun s hs hs' => ?_⟩
  obtain ⟨⟨ev, hev, hkey⟩, hone⟩ := hnew s hs hs'
  exact ⟨ev, hev, hkey, hone ev hev hkey⟩

end PolyNotifier
