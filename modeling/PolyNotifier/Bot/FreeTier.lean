import PolyNotifier.Bot.Dispatcher
import PolyNotifier.Bot.Footprint
import PolyNotifier.Bot.Isolation
import PolyNotifier.Bot.States

/-!
# A subscription of a free user has at most one alert

Two flows put alerts on subscriptions. The subscribe flow does it after an `INSERT` that added a
row, to the row of that key; the alert flow counts first, and a free user whose subscription has
an alert gets that one rewritten. `oneAlert` is what every handler obeys: it inserts an alert only
on a subscription that it has read to have none, or for a user who is not on the free tier.

What was read must still be true when the alert is inserted. In one chat it is, because the
dispatcher takes the next update when the handler has come to its end (`Quiescent`).
-/

namespace PolyNotifier

open Lib (Prog Pool Event Steps Table)
open Lib.Prog (Monitor Obeys obeys_bind)

/-! ## What a handler obeys -/

/-- What a handler has read: user rows of identities in `free` and their tiers, the key of the
    subscription it has inserted, subscriptions without an alert. Tiers are kept as texts, because
    the code compares texts: any tier that is not `free` may have more alerts. -/
structure AlertView where
  users : Int → Prop
  tiers : String → Prop
  created : Option (Int × Int × Int)
  fresh : Int → Prop

def AlertView.start : AlertView := ⟨fun _ => False, fun _ => False, none, fun _ => False⟩

/-- It inserts an alert only on a subscription that it has read to have none, or for a user who is
    not on the free tier. An insertion uses up all that was read of subscriptions without an alert,
    so a handler has to look again before a second one. -/
def oneAlert (free : Identity → Prop) : Monitor botSig AlertView where
  allows g
    | .sql (.insertAlert id _ _) => g.fresh id ∨ ∃ tier, g.tiers tier ∧ tier ≠ "free"
    | _ => True
  next g
    | .sql (.selectUser telegramId botId), .ok (some u) =>
        { g with
          users := fun k => g.users k ∨ k = u.id ∧ free (telegramId, botId)
          tiers := fun t => g.tiers t ∨ t = u.tier ∧ free (telegramId, botId) }
    | .sql (.selectUserById id), .ok u =>
        { g with tiers := fun t => g.tiers t ∨ t = u.tier ∧ g.users id }
    | .sql (.insertUser telegramId botId _), .ok id =>
        { g with users := fun k => g.users k ∨ k = id ∧ free (telegramId, botId) }
    | .sql (.countAlerts id), .ok n => { g with fresh := fun k => g.fresh k ∨ k = id ∧ n ≤ 0 }
    | .sql (.insertSubscription userId marketId outcomeIndex), .ok n =>
        if n = 0 then g else { g with created := some (userId, marketId, outcomeIndex) }
    | .sql (.selectSubscriptionId userId marketId outcomeIndex), .ok (some id) =>
        { g with fresh := fun k =>
            g.fresh k ∨ k = id ∧ g.created = some (userId, marketId, outcomeIndex) }
    | .sql (.insertAlert ..), _ => { g with created := none, fresh := fun _ => False }
    | _, _ => g

instance (free : Identity → Prop) : SqlOnly (oneAlert free) where
  allows g o ho := by
    cases o with
    | sql s => exact absurd rfl (ho s)
    | _ => trivial
  next g o r ho := by
    cases o with
    | sql s => exact absurd rfl (ho s)
    | _ => rfl

section Obeys

variable {free : Identity → Prop} {g : AlertView}

/-- The tier of a user with an identity in `free` is read. -/
theorem userRules_oneAlert {telegramId : Int} {botId : String} (hfree : free (telegramId, botId)) :
    UserRules (oneAlert free) g telegramId botId (fun g' id => g'.users id)
      fun g' u => g'.tiers u.tier where
  select := trivial
  found _ := ⟨.inr ⟨rfl, hfree⟩, .inr ⟨rfl, hfree⟩⟩
  rename _ _ _ _ hid := ⟨trivial, hid⟩
  insert _ _ _ := ⟨trivial, fun _ => .inr ⟨rfl, hfree⟩⟩
  reread _ _ hid := ⟨trivial, fun _ => .inr ⟨rfl, hid⟩⟩

/-- The first alert goes to the subscription that was just inserted. -/
theorem oneAlert_handleSubscribeAlertThreshold {x : Crates} {botId : String} {msg : Message}
    (hfree : ∀ s, msg.sender = some s → free (s.telegramId, botId))
    (conditionId question : String) (outcomes tokenIds : List String) (outcomeIndex : Int)
    (alertType : String) :
    Obeys (oneAlert free) g (handleSubscribeAlertThreshold x botId msg conditionId question
      outcomes tokenIds outcomeIndex alertType) fun _ _ => True := by
  refine obeys_handleSubscribeAlertThreshold (fun s hs => userRules_oneAlert (hfree s hs))
    (fun _ _ _ => trivial) ?_
  rintro g' u n _ now - - rfl
  refine ⟨trivial, fun marketId pct => obeys_createSubscription trivial ?_⟩
  rintro m _ hm rfl
  exact ⟨trivial, fun id => .inl (.inr ⟨rfl, congrArg AlertView.created (if_neg hm)⟩)⟩

/-- The alert flow inserts where it has counted none, or the user is not on the free tier. -/
theorem oneAlert_handleAlertThreshold {botId : String} {msg : Message}
    (hfree : ∀ s, msg.sender = some s → free (s.telegramId, botId)) (subscriptionId : Int)
    (question alertType : String) :
    Obeys (oneAlert free) g (handleAlertThreshold botId msg subscriptionId question alertType)
      fun _ _ => True := by
  unfold handleAlertThreshold
  split
  · simp
  · cases hs : msg.sender with
    | none => trivial
    | some sender =>
      refine obeys_bind.mpr ((userRules_oneAlert (hfree sender hs)).obeys fun g' u htier => ?_)
      refine obeys_bind.mpr (obeys_query.mpr ⟨trivial, fun alertCount => ?_⟩)
      split
      · refine obeys_bind.mpr (obeys_bind.mpr (obeys_sql.mpr ⟨trivial, fun result => ?_⟩))
        cases result <;> simp
      · rename_i hnot
        refine obeys_bind.mpr (obeys_bind.mpr (obeys_sql.mpr ⟨?_, fun result => ?_⟩))
        · by_cases htier' : u.tier = "free"
          · -- a free user: the count was zero
            exact .inl (.inr ⟨rfl, not_lt.mp fun hpos => hnot ⟨htier', hpos⟩⟩)
          · exact .inr ⟨u.tier, htier, htier'⟩
        · cases result <;> simp

theorem oneAlert_of_footprint {p : Handler Unit}
    (hp : Footprint (fun _ => True) (¬ ·.InsertsAlert) p) :
    Obeys (oneAlert free) .start p fun _ _ => True := by
  refine hp.weaken (fun _ o _ ho => ?_) _
  cases o with
  | sql s =>
    cases s with
    | insertAlert id alertType threshold => exact (ho trivial).elim
    | _ => trivial
  | _ => trivial

theorem permits_noAlert :
    Permits (fun _ => True) (¬ ·.InsertsAlert) := by
  refine ⟨fun s hs hins => ?_, trivial, trivial, trivial⟩
  cases s with
  | insertAlert => exact hs
  | _ => exact hins

/-- **Every handler for a free user obeys.** -/
theorem oneAlert_of_branch {deps : BotDeps} {dialogues : Int → DialogueState} {u : Update}
    {handler : Handler Unit} (hfree : ∀ who, u.identity deps.botId = some who → free who)
    (hbranch : Branch deps dialogues u handler) :
    Obeys (oneAlert free) .start handler fun _ _ => True := by
  cases hbranch with
  | search hu hstate => exact oneAlert_of_footprint (footprint_handleUrlInput _ .any)
  | subscribe hu hstate =>
    subst hu
    apply oneAlert_handleSubscribeAlertThreshold
    intro s hs
    exact hfree _ (by rw [Update.identity, hs, Option.map_some])
  | alert hu hstate =>
    subst hu
    apply oneAlert_handleAlertThreshold
    intro s hs
    exact hfree _ (by rw [Update.identity, hs, Option.map_some])
  | other hf => exact oneAlert_of_footprint (hf _ _ permits_noAlert (fun _ => id) .any)

end Obeys

/-! ## What stays true -/

/-- Everybody with an identity in `free` is on the free tier. -/
def Db.FreeTier (d : Db) (free : Identity → Prop) : Prop :=
  ∀ u ∈ d.users.rows, free (u.telegramId, u.botId) → u.tier = "free"

/-- No subscription has two alerts. -/
def Db.OneAlert (d : Db) : Prop := ∀ k, d.countAlerts k ≤ 1

/-- What a handler has read is true. -/
structure AlertView.Holds (free : Identity → Prop) (g : AlertView) (d : Db) : Prop where
  users : ∀ k, g.users k → ∃ who, d.owner k = some who ∧ free who
  tiers : ∀ t, g.tiers t → t = "free"
  created : ∀ userId marketId outcomeIndex, g.created = some (userId, marketId, outcomeIndex) →
    ∀ s ∈ d.subscriptions.rows, s.userId = userId → s.marketId = marketId →
      s.outcomeIndex = outcomeIndex → d.countAlerts s.id = 0
  fresh : ∀ k, g.fresh k → d.countAlerts k = 0

theorem AlertView.holds_start (free : Identity → Prop) (d : Db) : AlertView.start.Holds free d where
  users _ h := h.elim
  tiers _ h := h.elim
  created _ _ _ h := nomatch h
  fresh _ h := h.elim

theorem Db.countAlerts_nonneg (d : Db) (k : Int) : 0 ≤ d.countAlerts k := Int.natCast_nonneg _

section Effect

variable {free : Identity → Prop} {g : AlertView} {d d' : Db} {s : Stmt}

/-- A statement that inserts no alert leaves no subscription with more alerts. -/
theorem Effect.countAlerts_le (he : Effect d d' s) (hs : ¬ s.InsertsAlert)
    (k : Int) : d'.countAlerts k ≤ d.countAlerts k := by
  cases he with
  | plain _ hu _ => exact (Db.countAlerts_congr hu.alerts k).le
  | upsertMarket _ _ ha => exact (Db.countAlerts_congr ha k).le
  | ignored hsame => exact (Db.countAlerts_congr hsame.alerts k).le
  | insertSubscription _ _ _ ha _ _ => exact (Db.countAlerts_congr ha k).le
  | deleteSubscription hdel =>
    rw [hdel]
    exact Db.countAlerts_deleteSubscription _ k d
  | insertAlert => exact (hs trivial).elim
  | updateAlert _ _ _ _ hrows =>
    refine (Db.countAlerts_map hrows (fun a => ?_) k).le
    split <;> rfl

/-- A subscription that was not there before has no alerts. -/
theorem Effect.subscription_new (he : Effect d d' s) {r : Subscription}
    (hr : r ∈ d'.subscriptions.rows) : r ∈ d.subscriptions.rows ∨ d.countAlerts r.id = 0 := by
  cases he with
  | plain _ hu _ => exact .inl (hu.subscriptions ▸ hr)
  | upsertMarket _ hsub _ => exact .inl (hsub ▸ hr)
  | ignored hsame => exact .inl (hsame.subscriptions ▸ hr)
  | insertSubscription _ _ _ _ _ hrows =>
    rw [hrows, List.mem_append, List.mem_singleton] at hr
    rcases hr with hr | rfl
    · exact .inl hr
    · exact .inr (Db.countAlerts_new (Int.lt_succ _))
  | deleteSubscription hdel =>
    rw [hdel] at hr
    exact .inl (List.mem_of_mem_filter hr)
  | insertAlert _ _ _ hsub _ _ => exact .inl (hsub ▸ hr)
  | updateAlert _ _ hsub _ _ => exact .inl (hsub ▸ hr)

theorem Effect.freeTier (he : Effect d d' s) (h : d.FreeTier free) : d'.FreeTier free := by
  rcases he.users with ⟨_, htiers⟩ | hsame
  · intro u' hu' hfree
    rcases htiers u' hu' with hnew | ⟨u, hu, hwho, htier⟩
    · exact hnew
    · rw [← htier]
      exact h u hu (hwho ▸ hfree)
  · rw [Db.FreeTier, hsame]
    exact h

/-- **What was read stays true** over a statement that inserts no alert. -/
theorem Effect.holds (he : Effect d d' s) (hs : ¬ s.InsertsAlert)
    (h : g.Holds free d) : g.Holds free d' where
  users k hk := by
    obtain ⟨who, hown, hfree⟩ := h.users k hk
    exact ⟨who, he.owner hown, hfree⟩
  tiers := h.tiers
  created userId marketId outcomeIndex hkey r hr hu hm ho := by
    have hle := he.countAlerts_le hs r.id
    have hnonneg := d'.countAlerts_nonneg r.id
    rcases he.subscription_new hr with hr | hzero
    · have := h.created _ _ _ hkey r hr hu hm ho
      omega
    · omega
  fresh k hk := by
    have hle := he.countAlerts_le hs k
    have hnonneg := d'.countAlerts_nonneg k
    have := h.fresh k hk
    omega

/-- The view after an insertion: what was read of alerts is forgotten. -/
theorem AlertView.Holds.forget (h : g.Holds free d) (ho : ∀ k who, d.owner k = some who →
    d'.owner k = some who) :
    AlertView.Holds free { g with created := none, fresh := fun _ => False } d' where
  users k hk := by
    obtain ⟨who, hown, hfree⟩ := h.users k hk
    exact ⟨who, ho k who hown, hfree⟩
  tiers := h.tiers
  created _ _ _ h := nomatch h
  fresh _ h := h.elim

/-- The key of an inserted subscription is the new row's, and the new row has no alerts. -/
theorem countAlerts_inserted {userId marketId outcomeIndex : Int} {createdAt : NaiveDateTime}
    (halerts : d'.alerts = d.alerts)
    (hrows : d'.subscriptions.rows = d.subscriptions.rows ++
      [⟨d.subscriptions.seq + 1, userId, marketId, outcomeIndex, true, createdAt⟩])
    {r : Subscription} (hr : r ∈ d'.subscriptions.rows) (hu : r.userId = userId)
    (hm : r.marketId = marketId) (ho : r.outcomeIndex = outcomeIndex) :
    d'.countAlerts r.id = 0 := by
  have hnew : r = ⟨d.subscriptions.seq + 1, userId, marketId, outcomeIndex, true, createdAt⟩ := by
    refine Table.eq_of_ukey hr (by rw [hrows]; simp) ?_
    show (r.userId, r.marketId, r.outcomeIndex) = _
    rw [hu, hm, ho]
    rfl
  rw [Db.countAlerts_congr halerts, hnew]
  exact Db.countAlerts_new (Int.lt_succ _)

/-- **One allowed statement**: no subscription gets a second alert, and what the handler has read
    is true. -/
theorem exec_oneAlert {clock : NaiveDateTime} {a : s.Res} (htier : d.FreeTier free)
    (hone : d.OneAlert) (hg : g.Holds free d) (hallow : (oneAlert free).allows g (.sql s))
    (h : s.exec clock d = .ok (a, d')) :
    d'.OneAlert ∧ ((oneAlert free).next g (.sql s) (.ok a)).Holds free d' := by
  have he := exec_effect h
  have hle : ¬ s.InsertsAlert → d'.OneAlert := fun hs k =>
    (he.countAlerts_le hs k).trans (hone k)
  cases s with
  -- allowed for a subscription without alerts, or for a user of another tier: the free are the
  -- first
  | insertAlert id alertType threshold =>
    obtain ⟨_, hu, _, _, _, hrows⟩ := Db.insertAlert_ok (Stmt.writing_ok h)
    refine ⟨fun k => ?_, hg.forget fun k who hown => he.owner hown⟩
    rw [Db.countAlerts_append hrows]
    rcases hallow with hfresh | ⟨tier, ht, hne⟩
    · have hzero := hg.fresh id hfresh
      have hk := hone k
      split
      · rename_i hid
        rw [← hid, hzero]
        rfl
      · omega
    · exact absurd (hg.tiers tier ht) hne
  | selectUser telegramId botId =>
    have hbase := he.holds not_false hg
    refine ⟨hle not_false, ?_⟩
    cases a with
    | none => exact hbase
    | some u =>
      obtain ⟨hr, rfl⟩ := Stmt.reading_ok h
      obtain ⟨hu, rfl, rfl⟩ := Db.selectUser_some hr
      refine ⟨fun k hk => ?_, fun t ht => ?_, hbase.created, hbase.fresh⟩
      · rcases hk with hk | ⟨rfl, hfree⟩
        · exact hbase.users k hk
        · exact ⟨_, Db.owner_of_mem hu, hfree⟩
      · rcases ht with ht | ⟨rfl, hfree⟩
        · exact hbase.tiers t ht
        · exact htier u hu hfree
  | selectUserById id =>
    have hbase := he.holds not_false hg
    refine ⟨hle not_false, hbase.users, fun t ht => ?_, hbase.created, hbase.fresh⟩
    rcases ht with ht | ⟨rfl, hid⟩
    · exact hbase.tiers t ht
    · obtain ⟨hr, rfl⟩ := Stmt.reading_ok h
      obtain ⟨hu, heq⟩ := Db.selectUserById_ok hr
      obtain ⟨who, hown, hfree⟩ := hg.users id hid
      rw [← heq, Db.owner_of_mem hu] at hown
      exact htier a hu (Option.some.inj hown ▸ hfree)
  | insertUser telegramId botId username =>
    have hbase := he.holds not_false hg
    refine ⟨hle not_false, fun k hk => ?_, hbase.tiers, hbase.created, hbase.fresh⟩
    rcases hk with hk | ⟨rfl, hfree⟩
    · exact hbase.users k hk
    · obtain ⟨_, _, hfind⟩ := Db.insertUser_ok h
      exact ⟨_, by rw [Db.owner, hfind]; rfl, hfree⟩
  -- a count that is not positive says that the subscription has no alert
  | countAlerts id =>
    cases h
    refine ⟨hle not_false, hg.users, hg.tiers, hg.created, fun k hk => ?_⟩
    rcases hk with hk | ⟨rfl, hn⟩
    · exact hg.fresh k hk
    · exact le_antisymm hn (d.countAlerts_nonneg k)
  -- a subscription that was just inserted has an id no alert can name
  | insertSubscription userId marketId outcomeIndex =>
    have hbase := he.holds not_false hg
    refine ⟨hle not_false, ?_⟩
    show AlertView.Holds free (if a = 0 then g else _) d'
    rcases Db.insertSubscription_ok h with ⟨rfl, _, _⟩ | ⟨rfl, _, _, halerts, _, hrows⟩
    · exact hbase
    · rw [if_neg one_ne_zero]
      refine ⟨hbase.users, hbase.tiers, fun u m o hkey r hr hu hm ho => ?_, hbase.fresh⟩
      cases hkey
      exact countAlerts_inserted halerts hrows hr hu hm ho
  | selectSubscriptionId userId marketId outcomeIndex =>
    cases h
    refine ⟨hle not_false, ?_⟩
    cases hsel : d.selectSubscriptionId userId marketId outcomeIndex with
    | none => exact hg
    | some id =>
      refine ⟨hg.users, hg.tiers, hg.created, fun k hk => ?_⟩
      rcases hk with hk | ⟨rfl, hkey⟩
      · exact hg.fresh k hk
      · obtain ⟨r, hr, rfl, hu, hm, ho, _⟩ := Db.selectSubscriptionId_some hsel
        exact hg.created _ _ _ hkey r hr hu hm ho
  -- no other statement adds an alert, or tells the handler anything
  | _ => exact ⟨hle not_false, he.holds not_false hg⟩

/-- **One operation of a handler.** -/
theorem perform_oneAlert (env : Env) {o : BotOp} {w : World} (htier : w.db.FreeTier free)
    (hone : w.db.OneAlert) (hg : g.Holds free w.db) (hallow : (oneAlert free).allows g o) :
    (World.perform env o w).2.db.FreeTier free ∧ (World.perform env o w).2.db.OneAlert ∧
      ((oneAlert free).next g o (World.perform env o w).1).Holds free
        (World.perform env o w).2.db := by
  cases o with
  | sql s =>
    cases hexec : World.execute env s w with
    | ok r =>
      rw [World.perform_sql_ok hexec]
      have h := World.execute_ok hexec
      exact ⟨(exec_effect h).freeTier htier, exec_oneAlert htier hone hg hallow h⟩
    | error e =>
      rw [World.perform_sql_error hexec]
      refine ⟨htier, hone, ?_⟩
      cases s with
      | insertAlert => exact hg.forget fun _ _ h => h
      | _ => exact hg
  | _ => exact ⟨htier, hone, hg⟩

end Effect

/-! ## One chat -/

/-- The update comes from the chat, and its sender is in `free`. -/
def FreeUpdate (chat : Int) (botId : String) (free : Identity → Prop)
    (_ : Int → DialogueState) (u : Update) : Prop :=
  u.chat = some chat ∧ ∀ who, u.identity botId = some who → free who

/-- At most one handler is under way, and what it has read is true. Handlers that have ended are
    not asked what they have read: it may be out of date by now, and does no harm. -/
structure Quiescent (chat : Int) (free : Identity → Prop) (ls : List BotLabel) (B : Bot) :
    Prop where
  length : B.chats.length = B.pool.threads.length
  chats : ∀ c ∈ B.chats, c = some chat
  alone : ∀ (i j : Nat) (p q : Handler Unit), B.pool.threads[i]? = some p → ¬ p.Done →
    B.pool.threads[j]? = some q → ¬ q.Done → i = j
  holds : ∀ (i : Nat) (p : Handler Unit), B.pool.threads[i]? = some p → ¬ p.Done →
    (Bot.watch (oneAlert free) .start ls i).Holds free B.pool.state.db
  freeTier : B.pool.state.db.FreeTier free
  oneAlert : B.pool.state.db.OneAlert

section Runs

variable {deps : BotDeps} {env : Env} {chat : Int} {free : Identity → Prop} {d : Db}
  {ls : List BotLabel} {B B' : Bot}

theorem obeys_oneAlert
    (hrun : Steps (Bot.Guarded (FreeUpdate chat deps.botId free) deps env) (Bot.start d) ls B) :
    B.pool.Obeys (oneAlert free) (Bot.watch (oneAlert free) .start ls) ∧
      ∀ i, B.pool.threads.length ≤ i → Bot.watch (oneAlert free) .start ls i = .start := by
  have hstarts : ∀ B u B' handler, True →
      Bot.Guarded (FreeUpdate chat deps.botId free) deps env B (.update u) B' →
      schema deps B.pool.state.dialogues u = some handler →
      Obeys (PolyNotifier.oneAlert free) .start handler fun _ _ => True :=
    fun B u B' handler _ hs hbranch => oneAlert_of_branch (hs.2 u rfl).2 (branch_of_schema hbranch)
  exact (Bot.obeys_watch (I := fun _ => True) (fun _ _ _ _ hs => ⟨hs.1, trivial⟩) hstarts trivial
    hrun).2

theorem quiescent_of_run (htier : d.FreeTier free) (hone : d.OneAlert)
    (hrun : Steps (Bot.Guarded (FreeUpdate chat deps.botId free) deps env) (Bot.start d) ls B) :
    Quiescent chat free ls B := by
  have hserial : ∀ {ls B}, Steps (Bot.Guarded (FreeUpdate chat deps.botId free) deps env)
      (Bot.start d) ls B → Bot.Serial chat B := fun hrun =>
    Bot.serial_of_run (hrun.mono fun _ _ _ hs => ⟨hs.1, fun u hu => (hs.2 u hu).1⟩)
  suffices hkept : B.pool.state.db.FreeTier free ∧ B.pool.state.db.OneAlert ∧
      ∀ (i : Nat) (p : Handler Unit), B.pool.threads[i]? = some p → ¬ p.Done →
        (Bot.watch (oneAlert free) .start ls i).Holds free B.pool.state.db by
    have hlast := (hserial hrun).last
    refine ⟨(hserial hrun).length, (hserial hrun).chats, fun i j p q hi hp hj hq => ?_, hkept.2.2,
      hkept.1, hkept.2.1⟩
    have := hlast i p hi hp
    have := hlast j q hj hq
    omega
  induction hrun with
  | nil => exact ⟨htier, hone, nofun⟩
  | @snoc ls l B B' hrun hs ih =>
    obtain ⟨hobeys, hfresh⟩ := obeys_oneAlert hrun
    obtain ⟨hfree, honeAlert, hholds⟩ := ih
    obtain ⟨hbot, hok⟩ := hs
    cases hbot with
    | @update u handler hturn hbranch =>
      have hturn := hturn chat (hok u rfl).1
      refine ⟨hfree, honeAlert, fun i p hi hp => ?_⟩
      -- only the new handler can be under way
      rcases Pool.getElem?_spawn hi with hi | ⟨rfl, _⟩
      · exact absurd ((hserial hrun).done hturn hi) hp
      · rw [Bot.watch_update, hfresh _ le_rfl]
        exact AlertView.holds_start free _
    | @call ev P hcall =>
      have hallow := (Pool.obeys_step hobeys hcall).1
      have hthreads := fun {i p} => Pool.Step.threads hcall (i := i) (p := p)
      cases hcall with
      | @mk i o k hi =>
        have hlive : ¬ (Prog.op o k : Handler Unit).Done := id
        obtain ⟨htier', hone', hg'⟩ :=
          perform_oneAlert env hfree honeAlert (hholds i _ hi hlive) hallow
        refine ⟨htier', hone', fun j p hj hp => ?_⟩
        rw [Bot.watch_call]
        rcases hthreads hj with ⟨hne, hj⟩ | ⟨hji, _⟩
        · -- the acting handler was the only one under way
          have hlasti := (hserial hrun).last i _ hi hlive
          have hlastj := (hserial hrun).last j p hj hp
          exact absurd (show j = i by omega) hne
        · rw [hji, Pool.advance_self]
          exact hg'

/-- The identity is on the free tier: the user with it, if there is one. -/
def Db.IsFree (d : Db) (who : Identity) : Prop :=
  ∀ u ∈ d.users.rows, (u.telegramId, u.botId) = who → u.tier = "free"

/-- **A free-tier subscription has at most one alert** in every state of every run in one chat, and
    every alert has its subscription. The chat handles its updates one after the other, so between
    the count and the insertion no other handler adds an alert; whatever dialogue state is left
    over from before, a subscription of a free user has its alert replaced and not doubled. -/
theorem free_tier_one_alert (hone : ∀ k, d.countAlerts k ≤ 1)
    (hrun : Steps (Bot.Guarded (FreeUpdate chat deps.botId d.IsFree) deps env) (Bot.start d)
      ls B) :
    (∀ k, B.pool.state.db.countAlerts k ≤ 1) ∧
      ∀ a ∈ B.pool.state.db.alerts.rows,
        ∃ s ∈ B.pool.state.db.subscriptions.rows, s.id = a.subscriptionId := by
  have hfree : d.FreeTier d.IsFree := fun u hu hwho => hwho u hu rfl
  refine ⟨(quiescent_of_run hfree hone hrun).oneAlert, fun a ha => ?_⟩
  exact Table.hasKey_iff.mp (B.pool.state.db.alertSubscription a ha)

end Runs

/-- The bot of the subscribe flow, which knows `/alert` too. -/
def alertingDeps : BotDeps :=
  { snowDeps with
    parseCommand := fun s =>
      if s = "/subscribe" then some .subscribe else if s = "/alert" then some .alert else none }

/-- The subscribe flow, and an alert flow on the subscription. -/
def alertAgain : List Update :=
  snowFlow "outcome:1" ++
    [textOf "/alert", buttonOf "sub:1", buttonOf "alert_type:below", textOf "40"]

/-- The second flow rewrites the alert of the first. -/
theorem free_tier_one_alert_again :
    ∃ ls B, Steps (Bot.Guarded (FreeUpdate 90 alertingDeps.botId Db.empty.IsFree) alertingDeps
        snowEnv) (Bot.start .empty) ls B ∧
      (B.pool.state.db.alerts.rows.map fun a => (a.subscriptionId, a.alertType, a.threshold))
        = [(1, "below", .ofRat (2 / 5))] ∧
      (∀ k, B.pool.state.db.countAlerts k ≤ 1) ∧
      ∀ a ∈ B.pool.state.db.alerts.rows,
        ∃ s ∈ B.pool.state.db.subscriptions.rows, s.id = a.subscriptionId := by
  have hok : ∀ u ∈ alertAgain, ∀ dialogues,
      FreeUpdate 90 alertingDeps.botId Db.empty.IsFree dialogues u := by
    intro u hu _
    have hchat : ∀ u ∈ alertAgain, u.chat = some 90 := by decide +kernel
    exact ⟨hchat u hu, fun _ _ => nofun⟩
  obtain ⟨ls, B, hrun, _, hstate⟩ :=
    Bot.steps_of_dispatches (Bot.idle_start .empty) (Bot.along_of_forall hok _)
  have halerts : ((alertAgain.foldl (fun w u => dispatch alertingDeps snowEnv u w)
      (Bot.start .empty).pool.state).db.alerts.rows.map fun a =>
        (a.subscriptionId, a.alertType, a.threshold)) = [(1, "below", .ofRat (2 / 5))] := by
    decide +kernel
  refine ⟨ls, B, hrun, ?_, free_tier_one_alert (fun _ => zero_le_one) hrun⟩
  rw [hstate]
  exact halerts

end PolyNotifier
