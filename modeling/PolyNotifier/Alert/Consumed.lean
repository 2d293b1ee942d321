import PolyNotifier.Alert.Cooldown

/-!
# What uses up an alert

A rule that fires is marked in the cooldown map, its request goes to the channel, and its row is
updated, in this order. The channel may refuse the request. `handle_price_update` logs that and
goes on to the row, and does not take back the mark.

So the tick writes the same down whether a request was accepted or not
(`handlePriceUpdate_sendOk`), and an alert that the tick comes to fire is used up without a
notification exactly where its request is refused (`consumed_accepted_iff`).
-/

namespace PolyNotifier

open AlertEngine (Firing TickEnv)
open Lib (Steps Table)

namespace AlertEngine

variable (x : Crates) (cfg : EngineConfig) (env : TickEnv) (update : PriceUpdate)
  (previous : Option Decimal)

/-- The rules a tick comes to fire, with the cooldowns it finds: those that are due, up to the
    first whose message panics. -/
def tried (d : AlertDedup) (rules : List AlertRule) : List AlertRule :=
  (rules.filter (mayFire cfg env update previous d)).takeWhile fun r =>
    (formatNotification x r update.price update).isSome

variable {x cfg env update previous}

theorem tried_cons_of_not {d : AlertDedup} {r : AlertRule} {rs : List AlertRule}
    (hmay : ¬ mayFire cfg env update previous d r = true) :
    tried x cfg env update previous d (r :: rs) = tried x cfg env update previous d rs := by
  rw [tried, List.filter_cons_of_neg hmay, tried]

theorem tried_cons_of_fires {d : AlertDedup} {r : AlertRule} {rs : List AlertRule}
    {message : String} (hmay : mayFire cfg env update previous d r = true)
    (hf : formatNotification x r update.price update = some message) :
    tried x cfg env update previous d (r :: rs) = r :: tried x cfg env update previous d rs := by
  simp [tried, List.filter_cons_of_pos hmay, hf]

theorem tried_cons_of_panics {d : AlertDedup} {r : AlertRule} {rs : List AlertRule}
    (hmay : mayFire cfg env update previous d r = true)
    (hf : formatNotification x r update.price update = none) :
    tried x cfg env update previous d (r :: rs) = [] := by
  simp [tried, List.filter_cons_of_pos hmay, hf]

/-- Only the entries of the rules count. -/
theorem tried_congr {d d' : AlertDedup} {rules : List AlertRule}
    (h : ∀ r ∈ rules, d.lastTriggered.lookup r.alertId = d'.lastTriggered.lookup r.alertId) :
    tried x cfg env update previous d rules = tried x cfg env update previous d' rules := by
  have hfilter : rules.filter (mayFire cfg env update previous d) =
      rules.filter (mayFire cfg env update previous d') :=
    List.filter_congr fun r hr => mayFire_congr (h r hr)
  rw [tried, hfilter, tried]

/-- What is tried is a cached rule that is due, and its message can be written. -/
theorem fires_of_tried {d : AlertDedup} {rules : List AlertRule} {r : AlertRule}
    (h : r ∈ tried x cfg env update previous d rules) :
    r ∈ rules ∧ ∃ message, fires x cfg env update previous d r = some (firingOf cfg env r message) := by
  obtain ⟨hr, hmay⟩ := List.mem_filter.mp ((List.takeWhile_sublist _).subset h)
  have hfit : (formatNotification x r update.price update).isSome = true :=
    (List.all_eq_true.mp (List.all_takeWhile ..)) r h
  obtain ⟨message, hf⟩ := Option.isSome_iff_exists.mp hfit
  refine ⟨hr, message, ?_⟩
  rw [fires, if_pos hmay, hf, Option.map_some]

variable (x cfg env update previous) in
/-- **What a tick fires are the rules it tries**, and it panics where a message of a rule that is
    due does. -/
theorem foldl_tryRule_tried {rules : List AlertRule} {s : TickState} (hs : s.panicked = false)
    (hnd : (rules.map AlertRule.alertId).Nodup) :
    (rules.foldl (tryRule x cfg env update previous) s).fired = s.fired ++
        (tried x cfg env update previous s.dedup rules).filterMap
          (fires x cfg env update previous s.dedup) ∧
    ((rules.foldl (tryRule x cfg env update previous) s).panicked = false ↔
      ∀ r ∈ rules, mayFire cfg env update previous s.dedup r = true →
        (formatNotification x r update.price update).isSome = true) := by
  induction rules generalizing s with
  | nil => simp [tried, hs]
  | cons r rs ih =>
    rw [List.map_cons, List.nodup_cons] at hnd
    have hne : ∀ r' ∈ rs, r'.alertId ≠ r.alertId := by
      intro r' hr' heq
      exact hnd.1 (List.mem_map.mpr ⟨r', hr', heq⟩)
    rw [List.foldl_cons, List.forall_mem_cons]
    by_cases hmay : mayFire cfg env update previous s.dedup r = true
    · cases hf : formatNotification x r update.price update with
      | none =>
        -- the rest of the rules is not looked at
        rw [tryRule_of_panics hs hmay hf, foldl_tryRule_panicked rfl,
          tried_cons_of_panics hmay hf]
        simp [hmay]
      | some message =>
        have hstep := tryRule_of_fires hs hmay hf
        obtain ⟨hfired, hpanicked⟩ := ih (s := tryRule x cfg env update previous s r)
          (by rw [hstep]) hnd.2
        have hentry : ∀ r' ∈ rs,
            (tryRule x cfg env update previous s r).dedup.lastTriggered.lookup r'.alertId =
              s.dedup.lastTriggered.lookup r'.alertId :=
          fun r' hr' => lookup_tryRule_ne (hne r' hr')
        have hhead : fires x cfg env update previous s.dedup r =
            some (firingOf cfg env r message) := by
          rw [fires, if_pos hmay, hf, Option.map_some]
        constructor
        · have hcongr : ∀ r' ∈ tried x cfg env update previous s.dedup rs,
              fires x cfg env update previous (tryRule x cfg env update previous s r).dedup r' =
                fires x cfg env update previous s.dedup r' :=
            fun r' hr' => fires_congr (hentry r' (fires_of_tried hr').1)
          rw [hfired, tried_congr hentry, List.filterMap_congr hcongr,
            tried_cons_of_fires hmay hf, List.filterMap_cons_some hhead, hstep,
            List.append_assoc]
          rfl
        · rw [hpanicked]
          constructor
          · intro hrest
            refine ⟨fun _ => rfl, fun r' hr' hmay' => hrest r' hr' ?_⟩
            rw [mayFire_congr (hentry r' hr')]
            exact hmay'
          · rintro ⟨_, hrest⟩ r' hr' hmay'
            rw [mayFire_congr (hentry r' hr')] at hmay'
            exact hrest r' hr' hmay'
    · rw [tryRule_of_not hmay, tried_cons_of_not hmay]
      obtain ⟨hfired, hpanicked⟩ := ih hs hnd.2
      refine ⟨hfired, hpanicked.trans ?_⟩
      simp [hmay]

/-! ### The channel -/

/-- The same firing, if the channel answered so. -/
def Firing.answered (sendOk : Int → Bool) (f : Firing) : Firing :=
  { f with enqueued := sendOk f.alertId }

def TickState.answered (sendOk : Int → Bool) (s : TickState) : TickState :=
  { s with fired := s.fired.map (Firing.answered sendOk) }

theorem tryRule_sendOk (sendOk : Int → Bool) (s : TickState) (r : AlertRule) :
    tryRule x cfg { env with sendOk } update previous (s.answered sendOk) r =
      (tryRule x cfg env update previous s r).answered sendOk := by
  have hmay : ∀ d, mayFire cfg { env with sendOk } update previous d r =
      mayFire cfg env update previous d r := fun _ => rfl
  unfold tryRule
  rw [hmay]
  show (if (s.panicked || !mayFire cfg env update previous s.dedup r) = true then _ else _) = _
  split
  · rfl
  · cases formatNotification x r update.price update with
    | none => rfl
    | some message => simp [TickState.answered, Firing.answered, firingOf]

theorem foldl_tryRule_sendOk (sendOk : Int → Bool) (rules : List AlertRule) (s : TickState) :
    rules.foldl (tryRule x cfg { env with sendOk } update previous) (s.answered sendOk) =
      (rules.foldl (tryRule x cfg env update previous) s).answered sendOk := by
  induction rules generalizing s with
  | nil => rfl
  | cons r rs ih => rw [List.foldl_cons, List.foldl_cons, tryRule_sendOk, ih]

variable (x cfg env update) in
/-- **What the channel answers changes nothing in what the tick does.** -/
theorem handlePriceUpdate_sendOk (sendOk : Int → Bool) (e : AlertEngine) :
    handlePriceUpdate x cfg { env with sendOk } update e =
      ((handlePriceUpdate x cfg env update e).1,
        (handlePriceUpdate x cfg env update e).2.1.map (Firing.answered sendOk),
        (handlePriceUpdate x cfg env update e).2.2) := by
  have hstate : tickState x cfg { env with sendOk } update e =
      (tickState x cfg env update e).answered sendOk :=
    foldl_tryRule_sendOk sendOk _ ⟨e.dedup, [], false⟩
  unfold handlePriceUpdate
  rw [hstate]
  rfl

/-- What the `UPDATE` of a firing makes of the row of its alert. -/
def Firing.writes (f : Firing) (a : Alert) : Alert :=
  match f.persistedAt with
  | some t => { a with isTriggered := true, lastTriggeredAt := some t }
  | none => a

end AlertEngine

/-! ### The column -/

theorem find_persistFiring (d : Db) (f : Firing) (k : Int) :
    (persistFiring d f).alerts.find k =
      (d.alerts.find k).map fun a => if a.id = f.alertId then f.writes a else a := by
  unfold persistFiring Firing.writes
  cases hp : f.persistedAt with
  | none => simp
  | some t =>
    obtain ⟨d', hd', _, hrows⟩ := d.recordAlertTriggered_ok t f.alertId
    simp only [hd']
    rw [Table.find, Table.find, hrows, List.find?_map]
    congr 1
    · funext a
      by_cases hid : a.id = f.alertId <;> simp [hid]
    · congr 1
      funext a
      by_cases hid : a.id = f.alertId <;> simp [hid, alertSpec]

theorem find_persistAll_of_not_mem {fired : List Firing} {k : Int}
    (h : ∀ f ∈ fired, f.alertId ≠ k) (d : Db) :
    (persistAll fired d).alerts.find k = d.alerts.find k := by
  induction fired generalizing d with
  | nil => rfl
  | cons f fs ih =>
    obtain ⟨hf, hfs⟩ := List.forall_mem_cons.mp h
    have hrest : (persistAll (f :: fs) d).alerts.find k = (persistFiring d f).alerts.find k :=
      ih hfs (persistFiring d f)
    rw [hrest, find_persistFiring]
    cases hfind : d.alerts.find k with
    | none => rfl
    | some a =>
      have hid : a.id = k := (Table.mem_of_find hfind).2
      have hne : ¬ a.id = f.alertId := fun heq => hf (heq.symm.trans hid)
      rw [Option.map_some, if_neg hne]

theorem find_persistAll_of_mem {fired : List Firing} (hnd : (fired.map Firing.alertId).Nodup)
    {f : Firing} (hf : f ∈ fired) (d : Db) :
    (persistAll fired d).alerts.find f.alertId = (d.alerts.find f.alertId).map f.writes := by
  induction fired generalizing d with
  | nil => cases hf
  | cons g gs ih =>
    rw [List.map_cons, List.nodup_cons] at hnd
    have hrest : persistAll (g :: gs) d = persistAll gs (persistFiring d g) := rfl
    rw [hrest]
    rcases List.mem_cons.mp hf with rfl | hf
    · have hother : ∀ g' ∈ gs, g'.alertId ≠ f.alertId := by
        intro g' hg' heq
        exact hnd.1 (List.mem_map.mpr ⟨g', hg', heq⟩)
      rw [find_persistAll_of_not_mem hother, find_persistFiring]
      refine Option.map_congr fun a ha => ?_
      exact if_pos (Table.mem_of_find ha).2
    · have hne : ¬ f.alertId = g.alertId := by
        intro heq
        exact hnd.1 (List.mem_map.mpr ⟨f, hf, heq⟩)
      rw [ih hnd.2 hf, find_persistFiring, Option.map_map]
      refine Option.map_congr fun a ha => ?_
      have hid : a.id = f.alertId := (Table.mem_of_find ha).2
      rw [Function.comp_apply, if_neg (hid ▸ hne)]

/-! ### Ticks of the system -/

namespace System

open AlertEngine (handlePriceUpdate formatNotification mayFire tried)

section

variable (x : Crates) (cfg : EngineConfig) (e : AlertEngine) (update : PriceUpdate)
  (env : TickEnv)

/-- The rules the tick comes to fire. -/
def triedBy : List AlertRule :=
  tried x cfg env update (e.prevPrices.lookup update.tokenId) e.dedup (e.rulesOf update.tokenId)

/-- The message of every rule that is due can be written, so the tick goes through. -/
def GoesThrough : Prop :=
  ∀ r ∈ e.rulesOf update.tokenId,
    mayFire cfg env update (e.prevPrices.lookup update.tokenId) e.dedup r = true →
      (formatNotification x r update.price update).isSome = true

/-- The channel took the request of the alert. -/
def Accepted (a : Int) : Prop :=
  ∃ f ∈ (handlePriceUpdate x cfg env update e).2.1, f.alertId = a ∧ f.enqueued = true

/-- **An alert is used up only if its request was accepted.** Otherwise its entry in the cooldown
    map, after a tick that went through, and its row are what they were; and what the tick does
    for the others is what it does where all requests are accepted. -/
structure UsesAccepted (s : System) (now : NaiveDateTime) : Prop where
  memory : ∀ e', (s.step x cfg (.tick update env now)).engine = some e' →
    ∀ r ∈ e.rulesOf update.tokenId, Accepted x cfg e update env r.alertId ∨
      e'.dedup.lastTriggered.lookup r.alertId = e.dedup.lastTriggered.lookup r.alertId
  column : ∀ r ∈ e.rulesOf update.tokenId, Accepted x cfg e update env r.alertId ∨
    (s.step x cfg (.tick update env now)).db.alerts.find r.alertId =
      s.db.alerts.find r.alertId
  others : ∀ f ∈ (handlePriceUpdate x cfg { env with sendOk := fun _ => true } update e).2.1,
    env.sendOk f.alertId = true → f ∈ (handlePriceUpdate x cfg env update e).2.1

/-- The time that `mark_fired` records is the one recorded. -/
def MarkKnown (r : AlertRule) : Prop :=
  GoesThrough x cfg e update env →
    e.dedup.lastTriggered.lookup r.alertId = some (env.mark r.alertId)

/-- What `persist_triggered` writes, if it does, stands in the row. -/
def WriteKnown (d : Db) (r : AlertRule) : Prop :=
  env.persistOk r.alertId = true → ∀ a, d.alerts.find r.alertId = some a →
    a.isTriggered = true ∧ a.lastTriggeredAt = some (env.persist r.alertId)

end

variable {x : Crates} {cfg : EngineConfig} {s : System} {e : AlertEngine} {update : PriceUpdate}
  {env : TickEnv} {now : NaiveDateTime}

/-- The alerts of a token's rules are distinct, after every run. -/
theorem ids_of_run {t : System} {es : List SystemEvent} (hdown : s.engine = none)
    (hlog : s.log = []) (hrun : Steps (fun a ev b => a.Step x cfg ev b) s es t) : Ids t := by
  refine hrun.inv (I := Ids) ⟨by simp [hlog], by simp [hdown], by simp [hdown]⟩ ?_
  rintro a ev b h ⟨hen, rfl⟩
  exact ids_step x cfg h hen

variable (x cfg update env) in
/-- The firings of a tick are those of the rules it tries. -/
theorem fired_eq (hnd : ((e.rulesOf update.tokenId).map AlertRule.alertId).Nodup) :
    (handlePriceUpdate x cfg env update e).2.1 = (triedBy x cfg e update env).filterMap
        (AlertEngine.fires x cfg env update (e.prevPrices.lookup update.tokenId) e.dedup) ∧
      ((handlePriceUpdate x cfg env update e).2.2 = false ↔ GoesThrough x cfg e update env) := by
  obtain ⟨hfired, hpanicked⟩ := AlertEngine.foldl_tryRule_tried x cfg env update
    (e.prevPrices.lookup update.tokenId) (s := ⟨e.dedup, [], false⟩) rfl hnd
  exact ⟨hfired.trans (List.nil_append _), hpanicked⟩

theorem firing_of_tried (hnd : ((e.rulesOf update.tokenId).map AlertRule.alertId).Nodup)
    {r : AlertRule} (hr : r ∈ triedBy x cfg e update env) :
    ∃ message, AlertEngine.firingOf cfg env r message ∈
      (handlePriceUpdate x cfg env update e).2.1 := by
  obtain ⟨_, message, hfires⟩ := AlertEngine.fires_of_tried hr
  refine ⟨message, ?_⟩
  rw [(fired_eq x cfg update env hnd).1]
  exact List.mem_filterMap.mpr ⟨r, hr, hfires⟩

/-- A firing of the alert of a cached rule is one of that rule, which was tried. -/
theorem tried_of_firing (hnd : ((e.rulesOf update.tokenId).map AlertRule.alertId).Nodup)
    {r : AlertRule} (hr : r ∈ e.rulesOf update.tokenId) {f : Firing}
    (hf : f ∈ (handlePriceUpdate x cfg env update e).2.1) (hid : f.alertId = r.alertId) :
    r ∈ triedBy x cfg e update env ∧ f.enqueued = env.sendOk r.alertId := by
  rw [(fired_eq x cfg update env hnd).1] at hf
  obtain ⟨r', hr', hfires⟩ := List.mem_filterMap.mp hf
  have hmem' := (AlertEngine.fires_of_tried hr').1
  have hids : r'.alertId = r.alertId := (AlertEngine.fires_alertId hfires).1.symm.trans hid
  obtain rfl := List.inj_on_of_nodup_map hnd hmem' hr hids
  exact ⟨hr', AlertEngine.fires_enqueued hfires⟩

/-- A request is accepted if it is tried and the channel takes it. -/
theorem accepted_iff (hnd : ((e.rulesOf update.tokenId).map AlertRule.alertId).Nodup)
    {r : AlertRule} (hr : r ∈ e.rulesOf update.tokenId) :
    Accepted x cfg e update env r.alertId ↔
      r ∈ triedBy x cfg e update env ∧ env.sendOk r.alertId = true := by
  constructor
  · rintro ⟨f, hf, hid, henqueued⟩
    obtain ⟨htried, hsend⟩ := tried_of_firing hnd hr hf hid
    exact ⟨htried, hsend.symm.trans henqueued⟩
  · rintro ⟨htried, hsend⟩
    obtain ⟨message, hf⟩ := firing_of_tried hnd htried
    exact ⟨_, hf, rfl, hsend⟩

variable (x cfg update env now) in
/-- What the tick leaves of a rule in the map and in the table. -/
theorem tick_records (he : s.engine = some e) (hids : Ids s) {r : AlertRule}
    (hr : r ∈ e.rulesOf update.tokenId) :
    (∀ e', (s.step x cfg (.tick update env now)).engine = some e' →
      GoesThrough x cfg e update env ∧
      (r ∈ triedBy x cfg e update env →
        e'.dedup.lastTriggered.lookup r.alertId = some (env.mark r.alertId)) ∧
      (r ∉ triedBy x cfg e update env →
        e'.dedup.lastTriggered.lookup r.alertId = e.dedup.lastTriggered.lookup r.alertId)) ∧
    (r ∈ triedBy x cfg e update env → ∃ message,
      (s.step x cfg (.tick update env now)).db.alerts.find r.alertId =
        (s.db.alerts.find r.alertId).map (AlertEngine.firingOf cfg env r message).writes) ∧
    (r ∉ triedBy x cfg e update env →
      (s.step x cfg (.tick update env now)).db.alerts.find r.alertId =
        s.db.alerts.find r.alertId) := by
  have hnd := hids.nodup e he update.tokenId
  obtain ⟨fired, hlog, hdb, hndf, _, hengine⟩ := tick_cases x cfg update env now he hids
  obtain rfl : (handlePriceUpdate x cfg env update e).2.1 = fired := by
    simp only [step, he] at hlog
    exact List.append_cancel_left hlog
  -- distinct alerts: a firing of the alert of the rule is a firing of the rule
  have hno : r ∉ triedBy x cfg e update env →
      ∀ f ∈ (handlePriceUpdate x cfg env update e).2.1, f.alertId ≠ r.alertId :=
    fun hnot f hf hid => hnot (tried_of_firing hnd hr hf hid).1
  refine ⟨fun e' he' => ?_, fun htried => ?_, fun hnot => ?_⟩
  · obtain ⟨_, hmarked, hkept⟩ := hengine e' he'
    refine ⟨(fired_eq x cfg update env hnd).2.mp ?_, fun htried => ?_, fun hnot => ?_⟩
    · cases hp : (handlePriceUpdate x cfg env update e).2.2 with
      | false => rfl
      | true => simp [step, he, hp] at he'
    · obtain ⟨message, hf⟩ := firing_of_tried hnd htried
      exact hmarked _ hf
    · exact hkept r.alertId (hno hnot)
  · obtain ⟨message, hf⟩ := firing_of_tried hnd htried
    refine ⟨message, ?_⟩
    rw [hdb]
    exact find_persistAll_of_mem hndf hf s.db
  · rw [hdb]
    exact find_persistAll_of_not_mem (hno hnot) s.db

theorem engine_of_goesThrough (he : s.engine = some e) (hids : Ids s)
    (hthrough : GoesThrough x cfg e update env) :
    ∃ e', (s.step x cfg (.tick update env now)).engine = some e' := by
  have hp := (fired_eq x cfg update env (hids.nodup e he update.tokenId)).2.mpr hthrough
  refine ⟨(handlePriceUpdate x cfg env update e).1, ?_⟩
  simp [step, he, hp]

/-- What the channel takes of a tick is what it would take of it at best. -/
theorem mem_of_accepted {f : Firing}
    (hf : f ∈ (handlePriceUpdate x cfg { env with sendOk := fun _ => true } update e).2.1)
    (hsend : env.sendOk f.alertId = true) :
    f ∈ (handlePriceUpdate x cfg env update e).2.1 := by
  rw [AlertEngine.handlePriceUpdate_sendOk] at hf
  obtain ⟨g, hg, rfl⟩ := List.mem_map.mp hf
  obtain ⟨r, _, message, rfl⟩ := AlertEngine.mem_handlePriceUpdate hg
  have hsame : (AlertEngine.firingOf cfg env r message).answered (fun _ => true) =
      AlertEngine.firingOf cfg env r message := by
    have hok : env.sendOk r.alertId = true := hsend
    simp only [AlertEngine.Firing.answered, AlertEngine.firingOf, hok]
  rw [hsame]
  exact hg

/-- The `UPDATE` of a firing changes nothing if and only if what it writes is there. -/
theorem map_writes_eq_iff {r : AlertRule} {message : String} {row : Option Alert} :
    row.map (AlertEngine.firingOf cfg env r message).writes = row ↔
      (env.persistOk r.alertId = true → ∀ a, row = some a →
        a.isTriggered = true ∧ a.lastTriggeredAt = some (env.persist r.alertId)) := by
  cases row with
  | none => simp
  | some a =>
    cases hok : env.persistOk r.alertId with
    | false => simp [AlertEngine.Firing.writes, AlertEngine.firingOf, hok]
    | true =>
      simp only [AlertEngine.Firing.writes, AlertEngine.firingOf, hok, if_true, Option.map_some,
        Option.some.injEq, forall_const, forall_eq']
      constructor
      · intro heq
        rw [← heq]
        exact ⟨rfl, rfl⟩
      · rintro ⟨htriggered, hlast⟩
        rw [← htriggered, ← hlast]

/-- **An alert is used up only if its request was accepted, exactly in the ticks that come to
fire no rule whose request is refused.** The exception is a rule whose times are recorded
already. -/
theorem consumed_accepted_iff {t : System} {es : List SystemEvent} (hdown : s.engine = none)
    (hlog : s.log = []) (hrun : Steps (fun a ev b => a.Step x cfg ev b) s es t)
    (he : t.engine = some e) :
    UsesAccepted x cfg e update env t now ↔
      ∀ r ∈ triedBy x cfg e update env, env.sendOk r.alertId = true ∨
        MarkKnown x cfg e update env r ∧ WriteKnown env t.db r := by
  have hids := ids_of_run hdown hlog hrun
  have hnd := hids.nodup e he update.tokenId
  have hrule : ∀ r ∈ triedBy x cfg e update env, r ∈ e.rulesOf update.tokenId :=
    fun r hr => (AlertEngine.fires_of_tried hr).1
  constructor
  -- a rule that was tried and refused has left its marks; they change nothing only if they were
  -- there
  · intro h r htried
    have hr := hrule r htried
    obtain ⟨hmemory, hcolumn, _⟩ := tick_records x cfg update env now he hids hr
    by_cases hsend : env.sendOk r.alertId = true
    · exact .inl hsend
    · have hrefused : ¬ Accepted x cfg e update env r.alertId :=
        fun haccepted => hsend ((accepted_iff hnd hr).mp haccepted).2
      refine .inr ⟨fun hthrough => ?_, ?_⟩
      · obtain ⟨e', he'⟩ := engine_of_goesThrough he hids hthrough
        have hkept := (h.memory e' he' r hr).resolve_left hrefused
        rw [← hkept]
        exact (hmemory e' he').2.1 htried
      · obtain ⟨message, hwritten⟩ := hcolumn htried
        have hkept := (h.column r hr).resolve_left hrefused
        exact map_writes_eq_iff.mp (hwritten.symm.trans hkept)
  · intro h
    refine ⟨fun e' he' r hr => ?_, fun r hr => ?_, fun f hf hsend => mem_of_accepted hf hsend⟩
    · obtain ⟨hthrough, hmarked, hkept⟩ := (tick_records x cfg update env now he hids hr).1 e' he'
      by_cases htried : r ∈ triedBy x cfg e update env
      · rcases h r htried with hsend | ⟨hmark, _⟩
        · exact .inl ((accepted_iff hnd hr).mpr ⟨htried, hsend⟩)
        · exact .inr ((hmarked htried).trans (hmark hthrough).symm)
      · exact .inr (hkept htried)
    · obtain ⟨_, hwritten, hkept⟩ := tick_records x cfg update env now he hids hr
      by_cases htried : r ∈ triedBy x cfg e update env
      · rcases h r htried with hsend | ⟨_, hwrite⟩
        · exact .inl ((accepted_iff hnd hr).mpr ⟨htried, hsend⟩)
        · obtain ⟨message, hfind⟩ := hwritten htried
          exact .inr (hfind.trans (map_writes_eq_iff.mpr hwrite))
      · exact .inr (hkept htried)

section Example

/-- In every tick of every run. -/
def AlwaysUsesAccepted (x : Crates) (cfg : EngineConfig) : Prop :=
  ∀ (s t : System) (es : List SystemEvent) (e : AlertEngine) (update : PriceUpdate)
    (env : TickEnv) (now : NaiveDateTime), s.engine = none → s.log = [] →
    Steps (fun a ev b => a.Step x cfg ev b) s es t → t.engine = some e →
    UsesAccepted x cfg e update env t now

/-- The process has read the alerts of the small database. -/
def loadedAtZero : System := runFrom downAtZero [.start, .refresh [] true]

theorem steps_loadedAtZero :
    Steps (fun a ev b => a.Step Crates.reference ⟨60⟩ ev b) downAtZero [.start, .refresh [] true]
      loadedAtZero := by
  have h : Along (fun _ _ => True) downAtZero [.start, .refresh [] true] :=
    ⟨rfl, trivial, trivial, trivial, trivial⟩
  exact h.steps.mono fun _ _ _ hs => hs.1

theorem engine_loadedAtZero : ∃ e, loadedAtZero.engine = some e ∧
    (e.rulesOf "yes").map AlertRule.alertId = [1] := by
  have h : loadedAtZero.engine.map (fun e => (e.rulesOf "yes").map AlertRule.alertId) =
      some [1] := by
    decide +kernel
  exact Option.map_eq_some_iff.mp h

/-- A price of three quarters for token `yes`. -/
def tickOfYesAt : PriceUpdate := ⟨"yes", "0xc", .cents 75, 0⟩

/-- Everything takes no time, and the channel is open or not. -/
def instantEnv (sendOk : Bool) : TickEnv :=
  ⟨fun _ => 0, fun _ => 0, fun _ => 0, fun _ => sendOk, fun _ => true⟩

theorem consumed_accepted_open : ∃ e, loadedAtZero.engine = some e ∧
    UsesAccepted Crates.reference ⟨60⟩ e tickOfYesAt (instantEnv true) loadedAtZero 0 := by
  obtain ⟨e, he, _⟩ := engine_loadedAtZero
  exact ⟨e, he, (consumed_accepted_iff rfl rfl steps_loadedAtZero he).mpr fun _ _ => .inl rfl⟩

/-- **A closed channel uses up the alert**: the request goes nowhere, and the alert is marked and
    its row says that it was triggered. -/
theorem closed_channel_consumes : ¬ AlwaysUsesAccepted Crates.reference ⟨60⟩ := by
  intro halways
  obtain ⟨e, he, hrules⟩ := engine_loadedAtZero
  have h := halways downAtZero loadedAtZero _ e tickOfYesAt (instantEnv false) 0 rfl rfl
    steps_loadedAtZero he
  have hmem : (1 : Int) ∈ (e.rulesOf "yes").map AlertRule.alertId := by simp [hrules]
  obtain ⟨r, hr, hid⟩ := List.mem_map.mp hmem
  rcases h.column r hr with ⟨f, hf, _, hsent⟩ | hkept
  · obtain ⟨_, _, message, rfl⟩ := AlertEngine.mem_handlePriceUpdate hf
    cases hsent
  · rw [hid] at hkept
    revert hkept
    decide +kernel

end Example

end System

end PolyNotifier
