import PolyNotifier.Bot.Handlers
import PolyNotifier.Bot.Rules
import PolyNotifier.Common.Statements

/-!
# Whose row is it

A handler runs for the Telegram user who sent the update. What it must not touch are the
subscriptions, and the alerts on them, that belong to another identity: `Db.Isolated` says that
they are after the handler what they were before it.

`ownRows` is a monitor for that. It keeps track of the ids a handler has read from the database
under the sender's identity, and refuses every write to a subscription it does not know.
`Knowledge.exec_sound` is one statement: what the handler knows stays true, and nothing of
another's changes. `isolated_of_obeys` is a whole handler.
-/

namespace PolyNotifier

open Lib (Prog Table)
open Lib.Prog (Monitor Obeys)

/-- A Telegram user of a bot: the key of `users`. -/
abbrev Identity := Int × String

namespace Db

/-- The subscriptions that belong to another identity. -/
def foreignSubscriptions (d : Db) (who : Option Identity) : List Subscription :=
  d.subscriptions.rows.filter fun s => d.owner s.userId != who

/-- The alerts on the subscriptions of another identity. -/
def foreignAlerts (d : Db) (who : Option Identity) : List Alert :=
  d.alerts.rows.filter fun a =>
    (d.subscriptions.find a.subscriptionId).any fun s => d.owner s.userId != who

/-- What belongs to others is the same. -/
def Isolated (who : Option Identity) (d d' : Db) : Prop :=
  d'.foreignSubscriptions who = d.foreignSubscriptions who ∧
    d'.foreignAlerts who = d.foreignAlerts who

/-- The subscription with the id, if there is one, belongs to another identity. -/
def Foreign (d : Db) (who : Option Identity) (id : Int) : Prop :=
  ∃ s, d.subscriptions.find id = some s ∧ d.owner s.userId ≠ who

variable {d d' : Db} {who : Option Identity}

theorem mem_foreignSubscriptions {s : Subscription} :
    s ∈ d.foreignSubscriptions who ↔ s ∈ d.subscriptions.rows ∧ d.owner s.userId ≠ who := by
  rw [foreignSubscriptions, List.mem_filter, bne_iff_ne]

theorem foreign_of_any {id : Int}
    (h : ((d.subscriptions.find id).any fun s => d.owner s.userId != who) = true) :
    d.Foreign who id := by
  cases hfind : d.subscriptions.find id with
  | none => rw [hfind] at h; cases h
  | some s =>
    rw [hfind, Option.any_some, bne_iff_ne] at h
    exact ⟨s, hfind, h⟩

theorem mem_foreignAlerts {a : Alert} :
    a ∈ d.foreignAlerts who ↔ a ∈ d.alerts.rows ∧ d.Foreign who a.subscriptionId := by
  rw [foreignAlerts, List.mem_filter]
  refine and_congr_right fun _ => ⟨foreign_of_any, ?_⟩
  rintro ⟨s, hfind, hne⟩
  rw [hfind, Option.any_some, bne_iff_ne]
  exact hne

theorem Isolated.refl (who : Option Identity) (d : Db) : Isolated who d d := ⟨rfl, rfl⟩

theorem Isolated.trans {d'' : Db} (h : Isolated who d d') (h' : Isolated who d' d'') :
    Isolated who d d'' :=
  ⟨h'.1.trans h.1, h'.2.trans h.2⟩

/-- A change of the tables that leaves the subscriptions, the alerts and the identities. -/
theorem isolated_of_same (hs : d'.subscriptions.rows = d.subscriptions.rows)
    (ha : d'.alerts.rows = d.alerts.rows)
    (ho : ∀ k, d.users.hasKey k → d'.owner k = d.owner k) : Isolated who d d' := by
  have hown : ∀ s ∈ d.subscriptions.rows, d'.owner s.userId = d.owner s.userId :=
    fun s hs => ho _ (d.subscriptionUser s hs)
  constructor
  · unfold foreignSubscriptions
    rw [hs]
    exact List.filter_congr fun s hs => by rw [hown s hs]
  · unfold foreignAlerts
    rw [ha]
    refine List.filter_congr fun a ha => ?_
    obtain ⟨s, hfind⟩ := d.subscription_of_alert ha
    rw [Table.find_congr hs, hfind, Option.any_some, Option.any_some, hown s (Table.mem_of_find hfind).1]

/-- A new subscription of the identity itself. -/
theorem isolated_insertSubscription {s : Subscription} (hu : d'.users = d.users)
    (ha : d'.alerts = d.alerts) (hrows : d'.subscriptions.rows = d.subscriptions.rows ++ [s])
    (hown : d.owner s.userId = who) : Isolated who d d' := by
  have ho := owner_congr hu
  constructor
  · unfold foreignSubscriptions
    rw [hrows, List.filter_append]
    simp only [ho]
    rw [List.filter_cons_of_neg (by simp [hown]), List.filter_nil, List.append_nil]
  · unfold foreignAlerts
    rw [ha]
    refine List.filter_congr fun a ha => ?_
    obtain ⟨s', hfind⟩ := d.subscription_of_alert ha
    have hfind' : d'.subscriptions.find a.subscriptionId = some s' := by
      unfold Table.find at hfind ⊢
      rw [hrows, List.find?_append, hfind, Option.some_or]
    rw [hfind, hfind', Option.any_some, Option.any_some, ho]

/-- The deletion of a subscription that is not another's. -/
theorem isolated_deleteSubscription {id : Int} (h : ¬ d.Foreign who id) :
    Isolated who d (d.deleteSubscription id).2 := by
  have ho : ∀ k, (d.deleteSubscription id).2.owner k = d.owner k := fun _ => rfl
  have hown : ∀ s ∈ d.subscriptions.rows, s.id = id → d.owner s.userId = who := by
    intro s hs hid
    by_contra hne
    exact h ⟨s, Table.find_eq_some.mpr ⟨hs, hid⟩, hne⟩
  constructor
  · show (d.subscriptions.rows.filter fun s => !(s.id == id)).filter _ = _
    rw [List.filter_filter]
    unfold foreignSubscriptions
    refine List.filter_congr fun s hs => ?_
    by_cases hid : s.id = id
    · simp [ho, hid, hown s hs hid]
    · simp [ho, hid]
  -- the alerts go with their subscription, and those of another owner hang on another one
  · show (d.alerts.rows.filter fun a => !(a.subscriptionId == id)).filter _ = _
    rw [List.filter_filter]
    unfold foreignAlerts
    refine List.filter_congr fun a ha => ?_
    obtain ⟨s, hfind⟩ := d.subscription_of_alert ha
    have hsid : s.id = a.subscriptionId := (Table.mem_of_find hfind).2
    have hmem : s ∈ d.subscriptions.rows := (Table.mem_of_find hfind).1
    by_cases hid : a.subscriptionId = id
    · rw [hfind, Option.any_some, hown s hmem (hsid.trans hid), hid]
      simp
    · have hfind' : (d.deleteSubscription id).2.subscriptions.find a.subscriptionId = some s := by
        show (d.subscriptions.delete fun s => s.id == id).find a.subscriptionId = some s
        rw [Table.find_delete, hfind]
        intro r _ hk
        have hk' : r.id = a.subscriptionId := hk
        simp [hk', hid]
      rw [hfind', hfind, Option.any_some, Option.any_some, ho]
      simp [hid]

/-- A new alert on a subscription that is not another's. -/
theorem isolated_insertAlert {a : Alert} (hu : d'.users = d.users)
    (hs : d'.subscriptions = d.subscriptions) (hrows : d'.alerts.rows = d.alerts.rows ++ [a])
    (h : ¬ d.Foreign who a.subscriptionId) : Isolated who d d' := by
  have ho := owner_congr hu
  constructor
  · unfold foreignSubscriptions
    rw [hs]
    exact List.filter_congr fun s _ => by rw [ho]
  · unfold foreignAlerts
    rw [hrows, List.filter_append, hs]
    simp only [ho]
    rw [List.filter_cons_of_neg, List.filter_nil, List.append_nil]
    exact fun hany => h (foreign_of_any hany)

/-- A rewrite of alerts on a subscription that is not another's. -/
theorem isolated_updateAlert {p : Alert → Bool} {f : Alert → Alert} {id : Int}
    (hu : d'.users = d.users) (hs : d'.subscriptions = d.subscriptions)
    (hrows : d'.alerts.rows = d.alerts.rows.map fun a => if p a then f a else a)
    (hp : ∀ a, p a → a.subscriptionId = id ∧ (f a).subscriptionId = id)
    (h : ¬ d.Foreign who id) : Isolated who d d' := by
  have ho := owner_congr hu
  constructor
  · unfold foreignSubscriptions
    rw [hs]
    exact List.filter_congr fun s _ => by rw [ho]
  · unfold foreignAlerts
    rw [hrows, hs]
    simp only [ho]
    induction d.alerts.rows with
    | nil => rfl
    | cons a as ih =>
      have hnot : ∀ b : Alert, b.subscriptionId = id →
          ¬ ((d.subscriptions.find b.subscriptionId).any fun s => d.owner s.userId != who)
            = true := by
        intro b hb hany
        exact h (hb ▸ foreign_of_any hany)
      by_cases hpa : p a
      · rw [List.map_cons, if_pos hpa, List.filter_cons, if_neg (hnot _ (hp a hpa).2),
          List.filter_cons, if_neg (hnot _ (hp a hpa).1), ih]
      · rw [List.map_cons, if_neg hpa, List.filter_cons, List.filter_cons, ih]

end Db

/-! ## The monitor -/

/-- What a handler knows: user rows of the sender, and subscriptions that are not another's. These
    are sets of ids and not of rows, since a row may be changed or go while the handler waits, and
    an id that was the sender's stays so. -/
structure Knowledge where
  users : Int → Prop
  subs : Int → Prop

/-- Writes go to rows the handler knows; what it knows it has read under its identity. The monitor
    refuses a write to an id that merely happens to be right: a handler that passes has looked, in
    every run. -/
def ownRows (who : Option Identity) : Monitor botSig Knowledge where
  allows g
    | .sql (.insertSubscription userId _ _) => g.users userId
    | .sql (.deleteSubscription id) => g.subs id
    | .sql (.insertAlert subscriptionId _ _) => g.subs subscriptionId
    | .sql (.updateAlert _ _ subscriptionId) => g.subs subscriptionId
    | _ => True
  next g
    | .sql (.selectUser telegramId botId), .ok (some u) =>
        { g with users := fun k => g.users k ∨ k = u.id ∧ who = some (telegramId, botId) }
    | .sql (.selectUserById id), .ok u =>
        { g with users := fun k => g.users k ∨ k = u.id ∧ g.users id }
    | .sql (.insertUser telegramId botId _), .ok id =>
        { g with users := fun k => g.users k ∨ k = id ∧ who = some (telegramId, botId) }
    | .sql (.selectSubscriptionId userId _ _), .ok (some id) =>
        { g with subs := fun k => g.subs k ∨ k = id ∧ g.users userId }
    | _, _ => g

instance (who : Option Identity) : SqlOnly (ownRows who) where
  allows g o ho := by
    cases o with
    | sql s => exact absurd rfl (ho s)
    | _ => trivial
  next g o r ho := by
    cases o with
    | sql s => exact absurd rfl (ho s)
    | _ => rfl

/-- The knowledge is true. -/
structure Knowledge.Holds (who : Option Identity) (g : Knowledge) (d : Db) : Prop where
  users : ∀ k, g.users k → d.users.hasKey k ∧ d.owner k = who
  subs : ∀ k, g.subs k → ¬ d.Foreign who k

namespace Knowledge

variable {who : Option Identity} {g : Knowledge} {d d' : Db}

/-- A change that leaves the subscriptions and the identities leaves the knowledge true. -/
theorem Holds.same (h : g.Holds who d) (hs : d'.subscriptions.rows = d.subscriptions.rows)
    (hgrow : ∀ k, d.users.hasKey k → d'.users.hasKey k)
    (ho : ∀ k, d.users.hasKey k → d'.owner k = d.owner k) : g.Holds who d' where
  users k hk := ⟨hgrow k (h.users k hk).1, (ho k (h.users k hk).1).trans (h.users k hk).2⟩
  subs k hk := by
    rintro ⟨s, hfind, hne⟩
    rw [Table.find_congr hs] at hfind
    rw [ho _ (d.subscriptionUser s (Table.mem_of_find hfind).1)] at hne
    exact h.subs k hk ⟨s, hfind, hne⟩

theorem Holds.same_users (h : g.Holds who d) (hs : d'.subscriptions.rows = d.subscriptions.rows)
    (hu : d'.users = d.users) : g.Holds who d' :=
  h.same hs (fun k hk => by rwa [hu]) fun k _ => Db.owner_congr hu k

theorem UsersOnly.hasKey (h : d.UsersOnly d') {k : Int} (hk : d.users.hasKey k) :
    d'.users.hasKey k := by
  obtain ⟨u, hu⟩ := Table.find_isSome hk
  have : d'.owner k = some (u.telegramId, u.botId) := by
    rw [h.owner k hk, Db.owner, hu]
    rfl
  exact Db.hasKey_of_owner this

/-- A statement that changes the users alone: still true, and isolated. -/
theorem Holds.usersOnly (h : g.Holds who d) (hd : d.UsersOnly d') :
    g.Holds who d' ∧ Db.Isolated who d d' :=
  ⟨h.same (by rw [hd.subscriptions]) (fun _ => UsersOnly.hasKey hd) hd.owner,
    Db.isolated_of_same (by rw [hd.subscriptions]) (by rw [hd.alerts]) hd.owner⟩

/-- **One allowed statement**: the knowledge stays true, and nothing of another's changes. -/
theorem exec_sound {clock : NaiveDateTime} (s : Stmt) (h : g.Holds who d)
    (hallow : (ownRows who).allows g (.sql s)) {a : s.Res} (hexec : s.exec clock d = .ok (a, d')) :
    ((ownRows who).next g (.sql s) (.ok a)).Holds who d' ∧ Db.Isolated who d d' := by
  cases s with
  -- a row that is found by the caller's own key is a row of the caller, and its id becomes known
  | selectUser telegramId botId =>
    obtain ⟨hr, rfl⟩ := Stmt.reading_ok hexec
    refine ⟨?_, Db.Isolated.refl who _⟩
    cases a with
    | none => exact h
    | some u =>
      obtain ⟨hu, rfl, rfl⟩ := Db.selectUser_some hr
      refine ⟨fun k hk => ?_, h.subs⟩
      rcases hk with hk | ⟨rfl, hwho⟩
      · exact h.users k hk
      · have hown := Db.owner_of_mem hu
        exact ⟨Db.hasKey_of_owner hown, hown.trans hwho.symm⟩
  | selectUserById id =>
    obtain ⟨hr, rfl⟩ := Stmt.reading_ok hexec
    have hid : a.id = id := (Db.selectUserById_ok hr).2
    refine ⟨⟨fun k hk => ?_, h.subs⟩, Db.Isolated.refl who _⟩
    rcases hk with hk | ⟨rfl, hk⟩
    · exact h.users _ hk
    · exact h.users _ (hid ▸ hk)
  | updateUsername username now id =>
    have hr := Stmt.writing_ok hexec
    exact h.usersOnly (Db.updateUsername_ok hr)
  | insertUser telegramId botId username =>
    obtain ⟨hd, _, hfind⟩ := Db.insertUser_ok hexec
    have hown : d'.owner a = some (telegramId, botId) := by rw [Db.owner, hfind]; rfl
    obtain ⟨htrue, hiso⟩ := h.usersOnly hd
    refine ⟨⟨fun k hk => ?_, htrue.subs⟩, hiso⟩
    rcases hk with hk | ⟨rfl, hwho⟩
    · exact htrue.users k hk
    · exact ⟨Db.hasKey_of_owner hown, hown.trans hwho.symm⟩
  | updateTimezone tz now id =>
    have hr := Stmt.writing_ok hexec
    exact h.usersOnly (Db.updateTimezone_ok hr)
  | upsertMarket now conditionId question slug outcomes tokenIds =>
    obtain ⟨hu, hs, ha, _⟩ := Db.upsertMarket_ok hexec
    exact ⟨h.same_users (by rw [hs]) hu,
      Db.isolated_of_same (by rw [hs]) (by rw [ha]) fun k _ => Db.owner_congr hu k⟩
  -- the user id of the new row is one the caller may name; a refused INSERT changes nothing
  | insertSubscription userId marketId outcomeIndex =>
    obtain ⟨hkey, hown⟩ := h.users userId hallow
    rcases Db.insertSubscription_ok hexec with ⟨_, hsame, _⟩ | ⟨_, hu, _, ha, _, hrows⟩
    · exact ⟨h.same_users hsame.subscriptions hsame.users, Db.isolated_of_same hsame.subscriptions
        (by rw [hsame.alerts]) fun k _ => Db.owner_congr hsame.users k⟩
    · have ho := Db.owner_congr hu
      refine ⟨⟨fun k hk => ?_, fun k hk => ?_⟩, Db.isolated_insertSubscription hu ha hrows hown⟩
      · rw [hu, ho]
        exact h.users k hk
      · rintro ⟨s, hfind, hne⟩
        obtain ⟨hs, hsk⟩ := Table.mem_of_find hfind
        rw [hrows, List.mem_append, List.mem_singleton] at hs
        rw [ho] at hne
        rcases hs with hs | rfl
        · exact h.subs k hk ⟨s, Table.find_eq_some.mpr ⟨hs, hsk⟩, hne⟩
        · exact hne hown
  -- the id that comes back belongs to the user it was asked for, so it becomes known too
  | selectSubscriptionId userId marketId outcomeIndex =>
    cases hexec
    refine ⟨?_, Db.Isolated.refl who _⟩
    cases hsel : d.selectSubscriptionId userId marketId outcomeIndex with
    | none => exact h
    | some id =>
      obtain ⟨s, hs, hid, huser, _⟩ := Db.selectSubscriptionId_some hsel
      refine ⟨h.users, fun k hk => ?_⟩
      rcases hk with hk | ⟨rfl, hown⟩
      · exact h.subs k hk
      · rintro ⟨s', hfind, hne⟩
        obtain ⟨hs', hk'⟩ := Table.mem_of_find hfind
        obtain rfl : s' = s := Table.eq_of_key hs' hs (hk'.trans hid.symm)
        rw [huser] at hne
        exact hne (h.users userId hown).2
  | deleteSubscription id =>
    cases hexec
    refine ⟨⟨h.users, fun k hk => ?_⟩, Db.isolated_deleteSubscription (h.subs id hallow)⟩
    rintro ⟨s, hfind, hne⟩
    obtain ⟨hs, hsk⟩ := Table.mem_of_find hfind
    exact h.subs k hk ⟨s, Table.find_eq_some.mpr ⟨List.mem_of_mem_filter hs, hsk⟩, hne⟩
  | insertAlert subscriptionId alertType threshold =>
    have hr := Stmt.writing_ok hexec
    obtain ⟨_, hu, _, hs, _, hrows⟩ := Db.insertAlert_ok hr
    exact ⟨h.same_users (by rw [hs]) hu,
      Db.isolated_insertAlert hu hs hrows (h.subs subscriptionId hallow)⟩
  -- the UPDATE only touches alerts of the subscription it names
  | updateAlert alertType threshold subscriptionId =>
    have hr := Stmt.writing_ok hexec
    obtain ⟨hu, _, hs, _, hrows⟩ := Db.updateAlert_ok hr
    refine ⟨h.same_users (by rw [hs]) hu,
      Db.isolated_updateAlert hu hs hrows (fun a ha => ?_) (h.subs subscriptionId hallow)⟩
    have : a.subscriptionId = subscriptionId := by
      simpa using (Bool.and_eq_true_iff.mp ha).1
    exact ⟨this, this⟩
  | insertFeedback userId message =>
    obtain ⟨hu, _, hs, ha⟩ := Db.insertFeedback_ok hexec
    exact ⟨h.same_users (by rw [hs]) hu,
      Db.isolated_of_same (by rw [hs]) (by rw [ha]) fun k _ => Db.owner_congr hu k⟩
  | getUserSubscriptions userId =>
    obtain ⟨_, rfl⟩ := Stmt.reading_ok hexec
    exact ⟨h, Db.Isolated.refl who _⟩
  | selectOutcomes conditionId => cases hexec; exact ⟨h, Db.Isolated.refl who _⟩
  | countActiveSubscriptions userId => cases hexec; exact ⟨h, Db.Isolated.refl who _⟩
  | selectQuestion id => cases hexec; exact ⟨h, Db.Isolated.refl who _⟩
  | countAlerts subscriptionId => cases hexec; exact ⟨h, Db.Isolated.refl who _⟩
  | selectAlerts subscriptionId => cases hexec; exact ⟨h, Db.Isolated.refl who _⟩
  | getLastFeedbackTime userId => cases hexec; exact ⟨h, Db.Isolated.refl who _⟩

end Knowledge

/-! ## Handlers that obey it -/

namespace Knowledge

/-- What a handler knows when it starts. -/
def nothing : Knowledge := ⟨fun _ => False, fun _ => False⟩

theorem holds_nothing (who : Option Identity) (d : Db) : nothing.Holds who d where
  users _ hk := hk.elim
  subs _ hk := hk.elim

end Knowledge

section Rules

variable {who : Option Identity} {g : Knowledge}

/-- A statement that failed teaches nothing. -/
theorem next_error (s : Stmt) (e : DbError) :
    (ownRows who).next g (.sql s) (.error e) = g := by
  cases s <;> rfl

/-- **One operation of a handler.** -/
theorem perform_sound (env : Env) (o : BotOp) (w : World) (h : g.Holds who w.db)
    (hallow : (ownRows who).allows g o) :
    ((ownRows who).next g o (World.perform env o w).1).Holds who (World.perform env o w).2.db ∧
      Db.Isolated who w.db (World.perform env o w).2.db := by
  cases o with
  | sql s =>
    cases hexec : World.execute env s w with
    | ok r =>
      rw [World.perform_sql_ok hexec]
      exact Knowledge.exec_sound s h hallow (World.execute_ok hexec)
    | error e =>
      rw [World.perform_sql_error hexec, next_error]
      exact ⟨h, Db.Isolated.refl who _⟩
  | answerCallbackQuery id => exact ⟨h, Db.Isolated.refl who _⟩
  | sendMessage chat text keyboard => exact ⟨h, Db.Isolated.refl who _⟩
  | updateDialogue chat state => exact ⟨h, Db.Isolated.refl who _⟩
  | gammaEvents query => exact ⟨h, Db.Isolated.refl who _⟩
  | getMidpoints tokenIds => exact ⟨h, Db.Isolated.refl who _⟩
  | now => exact ⟨h, Db.Isolated.refl who _⟩

/-- **A handler that obeys the monitor leaves what belongs to others alone**, whatever its
    environment does and however it ends. -/
theorem isolated_of_obeys {p : Handler Unit} {Q : Knowledge → Unit → Prop}
    (hp : Obeys (ownRows who) .nothing p Q) (env : Env) (w : World) :
    Db.Isolated who w.db (World.after env p w).db := by
  refine Obeys.run (I := fun g (w : World) => g.Holds who w.db)
    (R := fun w w' : World => Db.Isolated who w.db w'.db) ?_ ?_ ?_ hp
    (Knowledge.holds_nothing who w.db)
  · intro w
    exact Db.Isolated.refl who w.db
  · intro a b c hab hbc
    exact hab.trans hbc
  · intro g o w hI hallow
    exact perform_sound env o w hI hallow

end Rules

end PolyNotifier
