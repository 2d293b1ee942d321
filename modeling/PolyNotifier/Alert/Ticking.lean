import Mathlib.Data.List.Forall2
import PolyNotifier.Alert.Watch

/-!
# A tick, rule by rule

The watch answers a tick at once; the engine takes its rules one after another, and marks and sends
in between. `Ticking` is what holds in the middle of it: the rules that are done have fired exactly
if they could have at the start of the tick, since each alert has one rule. At the end of the tick
the engine has fired what is due, and its state is again that of the watch.
-/

namespace PolyNotifier

open AlertEngine

variable (x : Crates) (cfg : EngineConfig)

namespace Watch

/-- The firings are those of a tick: one for each alert that is due, for the user of its row and
    with the time at which this tick marked it. The time is what ties a firing to this tick and not
    to a later one of the same alert. -/
structure Answers (w : Watch) (update : PriceUpdate) (env : TickEnv) (now : List Firing) :
    Prop where
  nodup : (now.map Firing.alertId).Nodup
  due : ∀ f ∈ now, ∃ row, Due x cfg w update env row ∧ f.alertId = row.alertId ∧
    f.firedAt = env.mark row.alertId ∧ f.request.userTelegramId = row.userTelegramId ∧
    f.request.botId = row.botId
  all : ∀ row, Due x cfg w update env row → ∃ f ∈ now, f.alertId = row.alertId

/-- What is fired over a run of the watch: at each tick what is due then, and nothing else. It is a
    relation and not a function, because the watch does not say in which order a tick fires its
    alerts, nor what became of a request. -/
inductive Fires : List EngineEvent → List Firing → Prop
  | start : Fires [] []
  | tick {es : List EngineEvent} {fired now : List Firing} {update : PriceUpdate} {env : TickEnv}
      (before : Fires es fired) (answers : Answers x cfg (after x cfg es) update env now) :
      Fires (es ++ [.tick update env]) (fired ++ now)
  | quiet {es : List EngineEvent} {fired : List Firing} {ev : EngineEvent}
      (before : Fires es fired) (noTick : ∀ update env, ev ≠ .tick update env) :
      Fires (es ++ [ev]) fired

section

variable {x cfg} {w : Watch} {es : List EngineEvent} {ev : EngineEvent} {fired fired' : List Firing}

theorem Fires.nil_inv (h : Fires x cfg [] fired) : fired = [] := by
  generalize hes : ([] : List EngineEvent) = es at h
  cases h with
  | start => rfl
  | tick => simp at hes
  | quiet => simp at hes

/-- What the watch fires has a part for each event. -/
theorem Fires.snoc_inv (h : Fires x cfg (es ++ [ev]) fired) :
    ∃ before now, fired = before ++ now ∧ Fires x cfg es before ∧
      (∀ update env, ev = .tick update env → Answers x cfg (after x cfg es) update env now) ∧
      ((∀ update env, ev ≠ .tick update env) → now = []) := by
  generalize hes : es ++ [ev] = es' at h
  cases h with
  | start => simp at hes
  | tick hbefore hanswers =>
    obtain ⟨rfl, hev⟩ := List.append_inj' hes rfl
    obtain rfl := List.singleton_inj.mp hev
    refine ⟨_, _, rfl, hbefore, fun update env heq => ?_, fun hnot => absurd rfl (hnot _ _)⟩
    cases heq
    exact hanswers
  | quiet hbefore hnoTick =>
    obtain ⟨rfl, hev⟩ := List.append_inj' hes rfl
    obtain rfl := List.singleton_inj.mp hev
    exact ⟨_, [], (List.append_nil _).symm, hbefore,
      fun update env heq => absurd heq (hnoTick update env), fun _ => rfl⟩

/-- What is fired comes after what was fired before. -/
theorem Fires.split {es' : List EngineEvent} (h : Fires x cfg (es ++ es') fired) :
    ∃ before later, fired = before ++ later ∧ Fires x cfg es before := by
  induction es' using List.reverseRecOn generalizing fired with
  | nil =>
    rw [List.append_nil] at h
    exact ⟨fired, [], (List.append_nil _).symm, h⟩
  | append_singleton es' ev ih =>
    rw [← List.append_assoc] at h
    obtain ⟨before, now, rfl, hbefore, _⟩ := h.snoc_inv
    obtain ⟨first, later, rfl, hfirst⟩ := ih hbefore
    exact ⟨first, later ++ now, List.append_assoc .., hfirst⟩

/-- The alerts of the firings are those that are due. -/
theorem Answers.mem_alertId {update : PriceUpdate} {env : TickEnv} {now : List Firing}
    (h : Answers x cfg w update env now) {a : ℤ} :
    a ∈ now.map Firing.alertId ↔ ∃ row, Due x cfg w update env row ∧ row.alertId = a := by
  constructor
  · intro hmem
    obtain ⟨f, hf, rfl⟩ := List.mem_map.mp hmem
    obtain ⟨row, hdue, hid, _⟩ := h.due f hf
    exact ⟨row, hdue, hid.symm⟩
  · rintro ⟨row, hdue, rfl⟩
    obtain ⟨f, hf, hid⟩ := h.all row hdue
    exact List.mem_map.mpr ⟨f, hf, hid⟩

/-- **How many alerts fire is settled by the events.** -/
theorem Fires.length_eq (h : Fires x cfg es fired) (h' : Fires x cfg es fired') :
    fired.length = fired'.length := by
  induction es using List.reverseRecOn generalizing fired fired' with
  | nil => rw [h.nil_inv, h'.nil_inv]
  | append_singleton es ev ih =>
    obtain ⟨before, now, rfl, hbefore, hnow, hquiet⟩ := h.snoc_inv
    obtain ⟨before', now', rfl, hbefore', hnow', hquiet'⟩ := h'.snoc_inv
    rw [List.length_append, List.length_append, ih hbefore hbefore']
    congr 1
    by_cases htick : ∃ update env, ev = .tick update env
    · obtain ⟨update, env, rfl⟩ := htick
      have hperm := (List.perm_ext_iff_of_nodup (hnow update env rfl).nodup
        (hnow' update env rfl).nodup).mpr fun a => by
          rw [(hnow update env rfl).mem_alertId, (hnow' update env rfl).mem_alertId]
      have hlen := hperm.length_eq
      rwa [List.length_map, List.length_map] at hlen
    · have hnot : ∀ update env, ev ≠ .tick update env := fun update env heq =>
        htick ⟨update, env, heq⟩
      rw [hquiet hnot, hquiet' hnot]

end

end Watch

/-- The firing is about the rule, in a tick with the environment. -/
structure AlertEngine.Firing.About (f : Firing) (env : TickEnv) (r : AlertRule) : Prop where
  alertId : f.alertId = r.alertId
  firedAt : f.firedAt = env.mark r.alertId
  userTelegramId : f.request.userTelegramId = r.userTelegramId
  botId : f.request.botId = r.botId

section About

variable {env : TickEnv} {fs : List Firing} {rules : List AlertRule}

theorem map_alertId_of_about (h : List.Forall₂ (fun f r => f.About env r) fs rules) :
    fs.map Firing.alertId = rules.map AlertRule.alertId := by
  induction h with
  | nil => rfl
  | cons hf _ ih => rw [List.map_cons, List.map_cons, hf.alertId, ih]

theorem exists_rule_of_about (h : List.Forall₂ (fun f r => f.About env r) fs rules) :
    ∀ f ∈ fs, ∃ r ∈ rules, f.About env r := by
  induction h with
  | nil => exact fun f hf => by cases hf
  | cons hfirst _ ih =>
    refine List.forall_mem_cons.mpr ⟨⟨_, List.mem_cons_self .., hfirst⟩, fun f hf => ?_⟩
    obtain ⟨r, hr, habout⟩ := ih f hf
    exact ⟨r, List.mem_cons_of_mem _ hr, habout⟩

end About

/-- The rule could have fired when the tick began. The engine asks later, after the rules before
    it; the two agree because a rule only ever marks its own alert (`mayFire_eq`). -/
def Could (cfg : EngineConfig) (e₀ : AlertEngine) (update : PriceUpdate) (env : TickEnv)
    (r : AlertRule) : Bool :=
  mayFire cfg env update (e₀.prevPrices.lookup update.tokenId) e₀.dedup r

/-- A tick under way: it began with the engine `e₀` and `old` firings, the rules `done` are done
    and `rest` are left; now the engine is `e`. The times are said of every alert, not of those of
    the token alone, since the clause has to give the whole map back at the end. -/
structure Ticking (w : Watch) (e₀ : AlertEngine) (old : List Firing) (update : PriceUpdate)
    (env : TickEnv) (done rest : List AlertRule) (e : AlertEngine) (fired : List Firing) :
    Prop where
  began : Watch.Represents (x := x) e₀ w
  rules : e₀.rulesOf update.tokenId = done ++ rest
  cache : e.ruleCache = e₀.ruleCache
  prices : e.prevPrices = e₀.prevPrices.insert update.tokenId update.price
  times : ∀ a, e.dedup.lastTriggered.lookup a =
    if a ∈ (done.filter (Could cfg e₀ update env)).map AlertRule.alertId then some (env.mark a)
    else e₀.dedup.lastTriggered.lookup a
  fired : ∃ now, fired = old ++ now ∧
    List.Forall₂ (fun f r => f.About env r) now (done.filter (Could cfg e₀ update env))

namespace Ticking

variable {x cfg} {w : Watch} {e₀ e : AlertEngine} {old fired : List Firing} {update : PriceUpdate}
  {env : TickEnv} {done rest : List AlertRule} {r : AlertRule}

theorem begin (h : Watch.Represents (x := x) e w) :
    Ticking x cfg w e fired update env [] (e.rulesOf update.tokenId)
      { e with prevPrices := e.prevPrices.insert update.tokenId update.price } fired where
  began := h
  rules := rfl
  cache := rfl
  prices := rfl
  times _ := rfl
  fired := ⟨[], (List.append_nil _).symm, .nil⟩

/-- The alert of a rule that is left is none of those that are done. -/
theorem not_mem_done (h : Ticking x cfg w e₀ old update env done (r :: rest) e fired) :
    r.alertId ∉ done.map AlertRule.alertId := by
  have hnodup := Watch.rulesOf_nodup h.began update.tokenId
  rw [h.rules, List.map_append, List.nodup_append] at hnodup
  intro hmem
  exact hnodup.2.2 _ hmem _ (List.mem_cons_self ..) rfl

/-- So its cooldown is as the tick found it. -/
theorem mayFire_eq (h : Ticking x cfg w e₀ old update env done (r :: rest) e fired) :
    mayFire cfg env update (e₀.prevPrices.lookup update.tokenId) e.dedup r =
      Could cfg e₀ update env r := by
  refine AlertEngine.mayFire_congr ?_
  have hnot : r.alertId ∉ (done.filter (Could cfg e₀ update env)).map AlertRule.alertId :=
    fun hmem => h.not_mem_done ((List.filter_sublist.map _).subset hmem)
  rw [h.times, if_neg hnot]

theorem skip (h : Ticking x cfg w e₀ old update env done (r :: rest) e fired)
    (hmay : ¬ mayFire cfg env update (e₀.prevPrices.lookup update.tokenId) e.dedup r = true) :
    Ticking x cfg w e₀ old update env (done ++ [r]) rest e fired := by
  rw [h.mayFire_eq] at hmay
  have hfilter : (done ++ [r]).filter (Could cfg e₀ update env) =
      done.filter (Could cfg e₀ update env) := by
    rw [List.filter_append, List.filter_cons_of_neg hmay, List.filter_nil, List.append_nil]
  refine ⟨h.began, ?_, h.cache, h.prices, ?_, ?_⟩
  · rw [h.rules, List.append_assoc, List.singleton_append]
  · rw [hfilter]
    exact h.times
  · rw [hfilter]
    exact h.fired

theorem fire (h : Ticking x cfg w e₀ old update env done (r :: rest) e fired)
    (hmay : mayFire cfg env update (e₀.prevPrices.lookup update.tokenId) e.dedup r = true)
    {f : Firing} (hf : f.About env r) :
    Ticking x cfg w e₀ old update env (done ++ [r]) rest
      { e with dedup := e.dedup.markFired (env.mark r.alertId) r.alertId } (fired ++ [f]) := by
  rw [h.mayFire_eq] at hmay
  have hfilter : (done ++ [r]).filter (Could cfg e₀ update env) =
      done.filter (Could cfg e₀ update env) ++ [r] := by
    rw [List.filter_append, List.filter_cons_of_pos hmay, List.filter_nil]
  refine ⟨h.began, ?_, h.cache, h.prices, fun a => ?_, ?_⟩
  · rw [h.rules, List.append_assoc, List.singleton_append]
  · rw [hfilter, List.map_append, List.map_singleton]
    by_cases ha : a = r.alertId
    · rw [ha, if_pos (List.mem_append_right _ (List.mem_singleton_self _))]
      exact AlertDedup.lookup_markFired _ _ _
    · have hiff : (a ∈ (done.filter (Could cfg e₀ update env)).map AlertRule.alertId ++ [r.alertId]) ↔
          a ∈ (done.filter (Could cfg e₀ update env)).map AlertRule.alertId := by
        rw [List.mem_append, List.mem_singleton]
        exact or_iff_left ha
      simp only [hiff]
      rw [← h.times]
      exact AlertDedup.lookup_markFired_ne ha
  · obtain ⟨now, hnow, hall⟩ := h.fired
    refine ⟨now ++ [f], by rw [hnow, List.append_assoc], ?_⟩
    rw [hfilter]
    exact List.rel_append hall (.cons hf .nil)

/-- A rule that could fire is the rule of a row that is due. -/
theorem due_of_could (h : Watch.Represents (x := x) e₀ w)
    (hr : r ∈ (e₀.rulesOf update.tokenId).filter (Could cfg e₀ update env)) :
    ∃ row, Watch.Due x cfg w update env row ∧ buildRule x row = some r := by
  obtain ⟨hmem, hcould⟩ := List.mem_filter.mp hr
  obtain ⟨row, hrow, hbuild, htoken⟩ := (Watch.mem_rulesOf h).mp hmem
  exact ⟨row, (Watch.mayFire_iff_due cfg update env h hrow hbuild).mp ⟨htoken, hcould⟩, hbuild⟩

/-- And the rule of every row that is due could fire. -/
theorem could_of_due (h : Watch.Represents (x := x) e₀ w) {row : AlertRow}
    (hdue : Watch.Due x cfg w update env row) :
    ∃ r ∈ (e₀.rulesOf update.tokenId).filter (Could cfg e₀ update env),
      buildRule x row = some r := by
  obtain ⟨r, hr, hbuild⟩ := Watch.rule_of_due h hdue
  have hcould := ((Watch.mayFire_iff_due cfg update env h hdue.mem hbuild).mpr hdue).2
  exact ⟨r, List.mem_filter.mpr ⟨hr, hcould⟩, hbuild⟩

/-- The alerts that could fire are the alerts that are due. -/
theorem mem_could_iff (h : Watch.Represents (x := x) e₀ w) {a : ℤ} :
    a ∈ ((e₀.rulesOf update.tokenId).filter (Could cfg e₀ update env)).map AlertRule.alertId ↔
      ∃ row, row.alertId = a ∧ Watch.Due x cfg w update env row := by
  constructor
  · intro hmem
    obtain ⟨r, hr, rfl⟩ := List.mem_map.mp hmem
    obtain ⟨row, hdue, hbuild⟩ := due_of_could h hr
    exact ⟨row, (buildRule_alertId hbuild).symm, hdue⟩
  · rintro ⟨row, rfl, hdue⟩
    obtain ⟨r, hr, hbuild⟩ := could_of_due h hdue
    rw [← buildRule_alertId hbuild]
    exact List.mem_map_of_mem hr

/-- When no rule is left, all rules of the token are done. -/
theorem done_eq (h : Ticking x cfg w e₀ old update env done [] e fired) :
    done = e₀.rulesOf update.tokenId := by
  rw [h.rules, List.append_nil]

/-- The engine at the end of a tick is the watch after the tick. -/
theorem represents (h : Ticking x cfg w e₀ old update env done [] e fired) :
    Watch.Represents (x := x) e (Watch.step x cfg w (.tick update env)) := by
  classical
  refine ⟨fun t => ?_, fun t => ?_, fun a => ?_, h.began.nodup, h.began.fits⟩
  · have hsame : e.rulesOf t = e₀.rulesOf t := by
      rw [AlertEngine.rulesOf, AlertEngine.rulesOf, h.cache]
    rw [hsame]
    exact h.began.rules t
  · rw [h.prices]
    by_cases ht : t = update.tokenId
    · rw [ht, Finmap.lookup_insert]
      simp [Watch.step]
    · rw [Finmap.lookup_insert_of_ne _ ht, h.began.prices]
      simp [Watch.step, ht]
  · rw [h.times, h.began.times, h.done_eq]
    show _ = if ∃ row, row.alertId = a ∧ Watch.Due x cfg w update env row then some (env.mark a)
      else w.fireTime a
    simp only [mem_could_iff h.began]

/-- What the tick fired is what was due. -/
theorem answers (h : Ticking x cfg w e₀ old update env done [] e fired) :
    ∃ now, fired = old ++ now ∧ Watch.Answers x cfg w update env now := by
  obtain ⟨now, hnow, hall⟩ := h.fired
  rw [h.done_eq] at hall
  have hids := map_alertId_of_about hall
  refine ⟨now, hnow, ⟨?_, fun f hf => ?_, fun row hdue => ?_⟩⟩
  · rw [hids]
    exact (Watch.rulesOf_nodup h.began update.tokenId).sublist (List.filter_sublist.map _)
  · obtain ⟨r, hr, habout⟩ := exists_rule_of_about hall f hf
    obtain ⟨row, hdue, hbuild⟩ := due_of_could h.began hr
    obtain ⟨_, _, _, _, heq⟩ := buildRule_eq_some.mp hbuild
    refine ⟨row, hdue, ?_, ?_, ?_, ?_⟩
    · rw [habout.alertId, heq]
    · rw [habout.firedAt, heq]
    · rw [habout.userTelegramId, heq]
    · rw [habout.botId, heq]
  · have hmem : row.alertId ∈ now.map Firing.alertId := by
      rw [hids, mem_could_iff h.began]
      exact ⟨row, rfl, hdue⟩
    obtain ⟨f, hf, hid⟩ := List.mem_map.mp hmem
    exact ⟨f, hf, hid⟩

/-- **The end of a tick**: what is due has fired, and the engine is the watch after the tick. -/
theorem finish (h : Ticking x cfg w e₀ old update env done [] e fired) :
    Watch.Represents (x := x) e (Watch.step x cfg w (.tick update env)) ∧
      ∃ now, fired = old ++ now ∧ Watch.Answers x cfg w update env now :=
  ⟨h.represents, h.answers⟩

end Ticking

end PolyNotifier
