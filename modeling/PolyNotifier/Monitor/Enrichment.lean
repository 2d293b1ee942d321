import PolyNotifier.Monitor.Service

/-!
# The market an update names

A session converts with the map that was read when it was spawned. The map is read by a query of
its own, after the one for the tokens. Where that query fails the session runs on an empty map,
and a refresh tick that finds the tokens unchanged keeps the session, whatever is in its map.

`Followed` is the service beside the database, followed for one token of one market. Its promise
is made by a refresh tick whose queries the database answers while the market is subscribed; it
ends with a query that is not answered, and with a change of the market. `Meets` says what each
step has to meet, and `enriched_of_meets` is the result.

`Meets` is about the world around the service: what the database answered when a session was
spawned, what it holds later, and what the WebSocket delivers. That the map of the session then
has the token is no part of it; `Kept` proves it, from what the map was read from.
-/

namespace PolyNotifier

open Lib (Steps)
open SubscriptionAggregator (getActiveTokenIds getTokenToCondition)

/-! ## What a step of the service broadcasts -/

namespace Monitor

variable {x : Crates} {cfg : ReconnectConfig} {s s' : Monitor} {l : MonitorLabel}

/-- What the managers have published between two states. -/
def broadcast (s s' : Monitor) : List PriceUpdate :=
  (s.managers.zip s'.managers).flatMap fun p => p.2.published.drop p.1.published.length

/-- An update that was broadcast is new in the list of one manager. -/
theorem mem_broadcast {u : PriceUpdate} (h : u ∈ s.broadcast s') :
    ∃ (i : Nat) (m m' : Manager), s.managers[i]? = some m ∧ s'.managers[i]? = some m' ∧
      u ∈ m'.published.drop m.published.length := by
  obtain ⟨⟨m, m'⟩, hp, hu⟩ := List.mem_flatMap.mp h
  obtain ⟨i, hi⟩ := List.mem_iff_getElem?.mp hp
  obtain ⟨hm, hm'⟩ := List.getElem?_zip_eq_some.mp hi
  exact ⟨i, m, m', hm, hm', hu⟩

variable (x cfg) in
/-- What a step of the service does to its managers: nothing, the current one is stopped, a new one
    takes its place, or one of them makes a step. Managers that were replaced are kept, as they may
    still have steps to make. -/
inductive Turn (s : Monitor) : MonitorLabel → Monitor → Prop
  | same {l : MonitorLabel} {s' : Monitor} (past : s'.past = s.past)
      (current : s'.current = s.current) : Turn s l s'
  | stops {l : MonitorLabel} {s' : Monitor} (past : s'.past = s.past)
      (current : s'.current = s.stopCurrent) : Turn s l s'
  | spawns {tokenIds : List String} {order : List Nat} {db : Option Db} (pc : s.pc = .spawning)
      (ids : tokenIds.toFinset = s.currentIds) : Turn s (.spawn tokenIds order db)
        { s with
          pc := .select, past := s.past ++ s.current.toList,
          current := some (.new tokenIds
            ((db.bind fun d => getTokenToCondition x d order).getD ∅)) }
  | current {m m' : Manager} {l : ManagerLabel} (current : s.current = some m)
      (step : Manager.Step x cfg m l m') : Turn s (.current l) { s with current := some m' }
  | past {i : Nat} {m m' : Manager} {l : ManagerLabel} (past : s.past[i]? = some m)
      (step : Manager.Step x cfg m l m') : Turn s (.past i l) { s with past := s.past.set i m' }

/-- **Every step of the service is one of these.** -/
theorem step_turn (h : Step x cfg s l s') : Turn x cfg s l s' := by
  cases step_cases h with
  | cancels => exact .same rfl rfl
  | reads => exact .same rfl rfl
  | fails => exact .same rfl rfl
  | keeps => exact .same rfl rfl
  | changes => exact .stops rfl rfl
  | skips => exact .same rfl rfl
  | retries => exact .same rfl rfl
  | givesUp => exact .same rfl rfl
  | returns => exact .same rfl rfl
  | accepts => exact .same rfl rfl
  | spawns hpc _ hids => exact .spawns hpc hids
  | shuts => exact .stops rfl rfl
  | ends => exact .same rfl rfl
  | ticks => exact .same rfl rfl
  | restarts => exact .same rfl rfl
  | stops => exact .same rfl rfl
  | current hm hstep => exact .current hm hstep
  | past hm hstep => exact .past hm hstep

/-- A manager publishes the conversion of the event it has taken. -/
theorem published_of_step {m m' : Manager} {l : ManagerLabel} (h : Manager.Step x cfg m l m')
    {u : PriceUpdate} (hu : u ∈ m'.published.drop m.published.length) :
    ∃ event now, m.pc = .converting event ∧
      wsEventToPriceUpdate m.tokenToCondition now event = some u := by
  cases Manager.step_cases h with
  | @publishes now event update hpc hconverted =>
    rw [List.drop_left] at hu
    obtain rfl := List.mem_singleton.mp hu
    exact ⟨event, now, hpc, hconverted⟩
  | _ =>
    rw [List.drop_length] at hu
    cases hu

/-- Managers that have published no more have broadcast nothing. -/
theorem published_eq_of_extends {i : Nat} {m m' : Manager}
    (h : s.managers.map Manager.published <+: s'.managers.map Manager.published)
    (hm : s.managers[i]? = some m) (hm' : s'.managers[i]? = some m') :
    m'.published = m.published := by
  obtain ⟨rest, hrest⟩ := h
  have hold : (s.managers.map Manager.published)[i]? = some m.published := by
    rw [List.getElem?_map, hm]
    rfl
  have hnew : (s'.managers.map Manager.published)[i]? = some m.published := by
    rw [← hrest, List.getElem?_append_left (List.getElem?_eq_some_iff.mp hold).1, hold]
  rw [List.getElem?_map, hm'] at hnew
  exact Option.some.inj hnew

theorem map_published_stopCurrent :
    s.stopCurrent.toList.map Manager.published = s.current.toList.map Manager.published := by
  rw [stopCurrent]
  cases s.current <;> rfl

/-- **Only the current manager broadcasts.** -/
theorem broadcast_of_step (hinv : s.Inv) (h : Step x cfg s l s') {u : PriceUpdate}
    (hu : u ∈ s.broadcast s') :
    ∃ m event now, s.current = some m ∧ m.pc = .converting event ∧
      wsEventToPriceUpdate m.tokenToCondition now event = some u := by
  obtain ⟨i, m, m', hm, hm', hnew⟩ := mem_broadcast hu
  have hsilent : ¬ s.managers.map Manager.published <+: s'.managers.map Manager.published := by
    intro hextends
    rw [published_eq_of_extends hextends hm hm', List.drop_length] at hnew
    cases hnew
  -- every other turn leaves each list of published updates as long as it was
  cases step_turn h with
  | same hpast hcurrent =>
    refine absurd ?_ hsilent
    rw [managers, managers, hpast, hcurrent]
  | stops hpast hcurrent =>
    refine absurd ?_ hsilent
    rw [managers, managers, hpast, hcurrent, List.map_append, List.map_append,
      map_published_stopCurrent]
  | spawns =>
    refine absurd ?_ hsilent
    exact (List.prefix_append _ _).map _
  | past hpast hstep =>
    refine absurd ?_ hsilent
    have hgone := hinv.past _ (List.mem_of_getElem? hpast)
    rw [managers, managers, List.map_append, List.map_append,
      map_published_set hpast ((Manager.step_frame hstep).gone hgone).2]
  | @current m₀ m₀' l hcurrent hstep =>
    rw [managers, hcurrent, List.getElem?_append] at hm
    rw [managers, List.getElem?_append] at hm'
    dsimp only at hm'
    split at hm
    · -- a manager that was dropped
      rename_i hlt
      rw [if_pos hlt] at hm'
      obtain rfl : m' = m := Option.some.inj (hm'.symm.trans hm)
      rw [List.drop_length] at hnew
      cases hnew
    · rename_i hlt
      rw [if_neg hlt] at hm'
      obtain rfl : m = m₀ := by
        have := List.mem_of_getElem? hm
        simpa using this
      obtain rfl : m' = m₀' := by
        have := List.mem_of_getElem? hm'
        simpa using this
      obtain ⟨event, now, hpc, hconverted⟩ := published_of_step hstep hnew
      exact ⟨m, event, now, hcurrent, hpc, hconverted⟩

end Monitor

/-! ## What a manager holds -/

/-- At its end a manager has taken nothing. -/
theorem ManagerPc.taken_of_gone {pc : ManagerPc} (h : pc.gone = true) : pc.taken = [] := by
  cases pc with
  | returned => rfl
  | panicked => rfl
  | _ => cases h

namespace Manager

variable {x : Crates} {cfg : ReconnectConfig} {m m' : Manager} {l : ManagerLabel}

/-- The events that are not converted yet. -/
def held (m : Manager) : List WsEvent := m.pc.taken ++ m.queue

/-- An event that is held was held before, or comes with a frame. -/
theorem held_of_step (h : Step x cfg m l m') {event : WsEvent} (hevent : event ∈ m'.held) :
    event ∈ m.held ∨ ∃ text, l = .frame text ∧ event ∈ parseWsMessage x text := by
  unfold held at *
  cases step_cases h with
  | ends _ hgone =>
    rw [ManagerPc.taken_of_gone hgone] at hevent
    exact .inl (List.mem_append_right _ hevent)
  | starts => cases hevent
  | @frame text _ =>
    rw [← List.append_assoc] at hevent
    exact (List.mem_append.mp hevent).imp id fun hnew => ⟨text, rfl, hnew⟩
  | disconnects => exact .inl hevent
  | takes _ hqueue =>
    rw [hqueue]
    exact .inl (List.mem_append_right _ hevent)
  | closes hpc hqueue =>
    rw [hqueue] at hevent
    cases hevent
  | publishes => exact .inl (List.mem_append_right _ hevent)
  | drops => exact .inl (List.mem_append_right _ hevent)
  | joins => exact .inl (List.mem_append_right _ hevent)
  | waits => exact .inl (List.mem_append_right _ hevent)
  | wakes => exact .inl (List.mem_append_right _ hevent)

end Manager

/-! ## The service beside the database -/

section Names

variable (x : Crates) (d : Db)

/-- A stored market with this condition lists the token; the condition is not empty. -/
def Db.HasMarket (token conditionId : String) : Prop :=
  conditionId ≠ "" ∧ ∃ m ∈ d.markets.rows, m.conditionId = conditionId ∧ m.Lists x token

/-- The markets that were subscribed to in `d` and listed the token, if they all could be read and
    there was one, are markets of the token now. All of them have to be, and not just one: which of
    several the map names depends on the order the query answered in. -/
structure Db.StillLists (now : Db) (token : String) : Prop where
  parses : ∀ m ∈ d.subscribedMarkets, ∃ ids, x.parseStrings m.tokenIds = some ids
  listed : ∃ m ∈ d.subscribedMarkets, m.Lists x token
  stays : ∀ m ∈ d.subscribedMarkets, m.Lists x token → now.HasMarket x token m.conditionId

/-- The map has a market of the token. -/
def Names (conditions : DashMap String String) (token : String) : Prop :=
  ∃ conditionId, conditions.lookup token = some conditionId ∧ d.HasMarket x token conditionId

end Names

/-- Whether the updates of a token have to name its market. The stage in between is for a tick that
    replaces the session: it is processed when the new one has been spawned, and not before. -/
inductive Promise where
  | idle
  /-- A refresh tick found the market subscribed, and replaces the session. -/
  | ticking
  /-- The tick has been processed. -/
  | made
  deriving DecidableEq

/-- An event beside the database. The queries carry only whether they are answered: what they read
    is the database of that moment, which is part of the state. -/
inductive MonitorEvent where
  /-- Another task changes the database. -/
  | change (db : Db)
  /-- `get_active_token_ids`; `answered`: by the database. -/
  | read (answered : Bool)
  /-- `spawn_connection`, with its `get_token_to_condition`. -/
  | spawn (tokenIds : List String) (order : List Nat) (answered : Bool)
  /-- Any other step of the service or of a manager. -/
  | other (l : MonitorLabel)

/-- The step makes a query. -/
def MonitorLabel.queries : MonitorLabel → Bool
  | .read _ => true
  | .spawn _ _ _ => true
  | _ => false

/-- The step of the service; its queries find the database as it is. -/
def MonitorEvent.label (db : Db) : MonitorEvent → Option MonitorLabel
  | .change _ => none
  | .read answered => some (.read (if answered then some db else none))
  | .spawn tokenIds order answered =>
      some (.spawn tokenIds order (if answered then some db else none))
  | .other l => if l.queries then none else some l

/-- The service, followed for one market. `mapFrom` and `owed` are history: no task reads them, the
    condition is about the one and the law about the other. -/
structure Followed where
  db : Db
  monitor : Monitor
  /-- What the database held when `spawn_connection` read the map of the session, if it answered. -/
  mapFrom : Option Db
  promise : Promise
  /-- What was broadcast while the promise was made, with the database of that time. -/
  owed : List (PriceUpdate × Db)

namespace Followed

variable (x : Crates) (cfg : ReconnectConfig) (market : Market) (token : String)

/-- The promise after a step that takes the service from one place of the code to another. A failed
    query ends it, and so does a change of the market's row; losing the last subscription does not,
    once it is made. -/
def promiseAfter (s : Followed) (after : MonitorPc) : MonitorEvent → Promise
  | .change db =>
      match s.promise with
      | .idle => .idle
      | .ticking => if market ∈ db.subscribedMarkets then .ticking else .idle
      | .made => if market ∈ db.markets.rows then .made else .idle
  | .read false => .idle
  | .spawn _ _ false => .idle
  | .read true =>
      match s.monitor.pc, after with
      | .refreshing, .select => if market ∈ s.db.subscribedMarkets then .made else s.promise
      | .refreshing, _ =>
          if market ∈ s.db.subscribedMarkets ∧ s.promise = .idle then .ticking else s.promise
      | _, _ => s.promise
  | .spawn _ _ true => if s.promise = .ticking then .made else s.promise
  | .other _ => s.promise

/-- Only `spawn_connection` reads a map. -/
def mapAfter (s : Followed) : MonitorEvent → Option Db
  | .spawn _ _ answered => if answered then some s.db else none
  | _ => s.mapFrom

def step (s : Followed) (event : MonitorEvent) : Option Followed :=
  match event with
  | .change db => some { s with db, promise := s.promiseAfter market s.monitor.pc event }
  | _ =>
      (event.label s.db).bind fun l => (s.monitor.step x cfg l).map fun monitor => { s with
        monitor
        mapFrom := s.mapAfter event
        promise := s.promiseAfter market monitor.pc event
        owed := s.owed ++
          if s.promise = .made then (s.monitor.broadcast monitor).map fun u => (u, s.db) else [] }

/-- **What a step has to meet.** Every clause is about what is outside the service: which queries
    the database answered and what it held then, how it changes, what a WebSocket delivers. What
    the session's map says is not asked: it follows. -/
def Meets (s : Followed) : MonitorEvent → Prop
  | .read true =>
      -- a tick that keeps the session: the database has answered the map query of its spawn, with
      -- a market of the token
      s.monitor.pc = .refreshing → market ∈ s.db.subscribedMarkets → s.promise ≠ .made →
        (∀ ids, getActiveTokenIds x s.db = some ids → ids = s.monitor.currentIds) →
        ∃ d, s.mapFrom = some d ∧ d.StillLists x s.db token
  | .spawn tokenIds _ true =>
      -- the token still has a market when the map is read
      s.promise ≠ .idle → token ∈ tokenIds → s.db.StillLists x s.db token
  | .change db =>
      -- the change takes the token out of no market that had it when the map was read
      ∀ d, s.mapFrom = some d → s.promise = .made → market ∈ db.markets.rows →
        ∀ m ∈ d.subscribedMarkets, m.Lists x token →
          s.db.HasMarket x token m.conditionId → db.HasMarket x token m.conditionId
  | .other (.current (.frame text)) =>
      -- a session receives prices of its own tokens
      ∀ m, s.monitor.current = some m → s.promise = .made →
        ∀ event ∈ parseWsMessage x text, ∀ price, event.quote = some (token, price) →
        token ∈ m.tokenIds
  | _ => True

def Step (s : Followed) (event : MonitorEvent) (s' : Followed) : Prop :=
  s.step x cfg market event = some s' ∧ s.Meets x market token event

/-- The start of the service, on any database. -/
def start (db : Db) : Followed := ⟨db, .start, none, .idle, []⟩

/-! ## The invariant -/

/-- The manager names a market in every update of the token: its map has one, or the token is none
    of its own and nothing of it is on its way. -/
def Serves (d : Db) (m : Manager) : Prop :=
  Names x d m.tokenToCondition token ∨
    token ∉ m.tokenIds ∧ ∀ event ∈ m.held, ∀ price, event.quote ≠ some (token, price)

/-- The map a session has: the one that was read from the database, and an empty one if none was
    read. -/
def ReadFrom (mapFrom : Option Db) (conditions : DashMap String String) : Prop :=
  ∃ order, conditions = (mapFrom.bind fun d => getTokenToCondition x d order).getD ∅

/-- The session has the map of its spawn, and a session that was promised serves the token. The
    first holds in every run, whether its steps meet the condition or not; from it and from the
    condition the second is got whenever a promise is made. -/
structure Kept (s : Followed) : Prop where
  service : s.monitor.Inv
  map : ∀ m, s.monitor.current = some m → ReadFrom x s.mapFrom m.tokenToCondition
  made : s.promise = .made → ∀ m, s.monitor.current = some m → Serves x token s.db m
  owed : ∀ p ∈ s.owed, p.1.tokenId = token → p.2.HasMarket x token p.1.conditionId

variable {x cfg market token} {s s' : Followed} {event : MonitorEvent}

theorem kept_start (db : Db) : Kept x token (start db) where
  service := Monitor.inv_start
  map m hm := by cases hm
  made h := by cases h
  owed p hp := by cases hp

/-- A step that is not a change is one of the service. -/
theorem step_service (h : s.step x cfg market event = some s') (hevent : ∀ db, event ≠ .change db) :
    ∃ l monitor, event.label s.db = some l ∧ Monitor.Step x cfg s.monitor l monitor ∧
      s' = { s with
        monitor
        mapFrom := s.mapAfter event
        promise := s.promiseAfter market monitor.pc event
        owed := s.owed ++
          if s.promise = .made then (s.monitor.broadcast monitor).map fun u => (u, s.db)
          else [] } := by
  cases event with
  | change db => exact absurd rfl (hevent db)
  | _ =>
    unfold step at h
    dsimp only at h
    obtain ⟨l, hl, h⟩ := Option.bind_eq_some_iff.mp h
    obtain ⟨monitor, hstep, rfl⟩ := Option.map_eq_some_iff.mp h
    exact ⟨l, monitor, hl, hstep, rfl⟩

/-! ### What is broadcast -/

/-- **An update names a market of its token if and only if the map does.** -/
theorem hasMarket_iff_names {d : Db} {conditions : DashMap String String} {event : WsEvent}
    {now : NaiveDateTime} {u : PriceUpdate}
    (hu : wsEventToPriceUpdate conditions now event = some u) :
    d.HasMarket x u.tokenId u.conditionId ↔ Names x d conditions u.tokenId := by
  obtain ⟨⟨assetId, price⟩, -, rfl⟩ := Option.map_eq_some_iff.mp hu
  dsimp only
  constructor
  · intro hhas
    cases hlook : conditions.lookup assetId with
    | none =>
      rw [hlook] at hhas
      exact absurd rfl hhas.1
    | some conditionId =>
      rw [hlook] at hhas
      exact ⟨conditionId, hlook, hhas⟩
  · rintro ⟨conditionId, hlook, hhas⟩
    rw [hlook]
    exact hhas

/-- A manager that serves the token names a market of it in an update of the token. -/
theorem hasMarket_of_convert {d : Db} {m : Manager} (h : Serves x token d m) {event : WsEvent}
    {now : NaiveDateTime} (hpc : m.pc = .converting event) {u : PriceUpdate}
    (hu : wsEventToPriceUpdate m.tokenToCondition now event = some u)
    (htoken : u.tokenId = token) : d.HasMarket x token u.conditionId := by
  subst htoken
  rcases h with hnames | ⟨_, hdeaf⟩
  · exact (hasMarket_iff_names hu).mpr hnames
  · obtain ⟨⟨assetId, price⟩, hquote, rfl⟩ := Option.map_eq_some_iff.mp hu
    refine absurd hquote (hdeaf event ?_ price)
    rw [Manager.held, hpc]
    exact List.mem_cons_self

theorem owed_of_service (h : Kept x token s) {l : MonitorLabel} {monitor : Monitor}
    (hs : Monitor.Step x cfg s.monitor l monitor) (p : PriceUpdate × Db)
    (hp : p ∈ s.owed ++
      if s.promise = .made then (s.monitor.broadcast monitor).map fun u => (u, s.db) else [])
    (htoken : p.1.tokenId = token) : p.2.HasMarket x token p.1.conditionId := by
  rcases List.mem_append.mp hp with hold | hnew
  · exact h.owed p hold htoken
  · split at hnew
    · rename_i hmade
      obtain ⟨u, hu, rfl⟩ := List.mem_map.mp hnew
      obtain ⟨m, event, now, hm, hpc, hconverted⟩ :=
        Monitor.broadcast_of_step h.service hs hu
      exact hasMarket_of_convert (h.made hmade m hm) hpc hconverted htoken
    · cases hnew

/-! ### The session -/

/-- A step of a manager that serves the token, with frames of its own tokens. -/
theorem serves_step {d : Db} {m m' : Manager} {l : ManagerLabel} (h : Serves x token d m)
    (hs : Manager.Step x cfg m l m')
    (hframe : ∀ text, l = .frame text → ∀ event ∈ parseWsMessage x text, ∀ price,
      event.quote = some (token, price) → token ∈ m.tokenIds) : Serves x token d m' := by
  have hkeep := Manager.step_frame hs
  rcases h with hnames | ⟨hother, hdeaf⟩
  · left
    rw [hkeep.tokenToCondition]
    exact hnames
  · right
    rw [hkeep.tokenIds]
    refine ⟨hother, fun event hevent price hquote => ?_⟩
    rcases Manager.held_of_step hs hevent with hheld | ⟨text, htext, hparsed⟩
    · exact hdeaf event hheld price hquote
    · exact hother (hframe text htext event hparsed price hquote)

/-- **The map that was read names a market of the token**, if there was one to read and it is still
    there. -/
theorem names_of_stillLists {d now : Db} (h : d.StillLists x now token) (order : List Nat) :
    Names x now ((getTokenToCondition x d order).getD ∅) token := by
  obtain ⟨conditions, hread, hmem⟩ := mem_getTokenToCondition h.parses order
  obtain ⟨conditionId, hlook⟩ := Option.isSome_iff_exists.mp
    (Finmap.lookup_isSome.mpr ((hmem token).mpr h.listed))
  obtain ⟨m, hm, rfl, hlists⟩ := lookup_getTokenToCondition hread hlook
  rw [hread, Option.getD_some]
  exact ⟨_, hlook, h.stays m hm hlists⟩

/-- What a map that was read names, it names of a market that was there. -/
theorem names_change {mapFrom : Option Db} {order : List Nat} {d d' : Db}
    (hchange : ∀ d₀, mapFrom = some d₀ → ∀ m ∈ d₀.subscribedMarkets, m.Lists x token →
      d.HasMarket x token m.conditionId → d'.HasMarket x token m.conditionId)
    (h : Names x d ((mapFrom.bind fun d₀ => getTokenToCondition x d₀ order).getD ∅) token) :
    Names x d' ((mapFrom.bind fun d₀ => getTokenToCondition x d₀ order).getD ∅) token := by
  obtain ⟨conditionId, hlook, hhas⟩ := h
  refine ⟨conditionId, hlook, ?_⟩
  cases hread : mapFrom.bind fun d₀ => getTokenToCondition x d₀ order with
  | none =>
    -- a map that was not read names nothing
    rw [hread, Option.getD_none, Finmap.lookup_empty] at hlook
    cases hlook
  | some conditions =>
    rw [hread, Option.getD_some] at hlook
    obtain ⟨d₀, hd₀, hread⟩ := Option.bind_eq_some_iff.mp hread
    obtain ⟨m, hm, rfl, hlists⟩ := lookup_getTokenToCondition hread hlook
    exact hchange d₀ hd₀ m hm hlists hhas

/-- A new session, whose map is read while the token has a market. -/
theorem serves_spawn {d : Db} {tokenIds : List String} (order : List Nat)
    (h : token ∈ tokenIds → d.StillLists x d token) :
    Serves x token d (.new tokenIds ((getTokenToCondition x d order).getD ∅)) := by
  by_cases htoken : token ∈ tokenIds
  · exact .inl (names_of_stillLists (h htoken) order)
  · right
    refine ⟨htoken, fun event hevent => ?_⟩
    unfold Manager.held Manager.new at hevent
    dsimp only at hevent
    split at hevent <;> cases hevent

theorem map_monitor {mapFrom : Option Db} {monitor monitor' : Monitor} {l : MonitorLabel}
    (hmap : ∀ m, monitor.current = some m → ReadFrom x mapFrom m.tokenToCondition)
    (hs : Monitor.Step x cfg monitor l monitor')
    (hspawn : ∀ tokenIds order db, l ≠ .spawn tokenIds order db)
    (m' : Manager) (hm' : monitor'.current = some m') :
    ReadFrom x mapFrom m'.tokenToCondition := by
  cases Monitor.step_turn hs with
  | same hpast hcurrent => exact hmap m' (hcurrent ▸ hm')
  | stops hpast hcurrent =>
    rw [hcurrent, Monitor.stopCurrent] at hm'
    obtain ⟨m, hm, rfl⟩ := Option.map_eq_some_iff.mp hm'
    exact hmap m hm
  | spawns => exact absurd rfl (hspawn _ _ _)
  | current hcurrent hstep =>
    cases hm'
    rw [(Manager.step_frame hstep).tokenToCondition]
    exact hmap _ hcurrent
  | past => exact hmap m' hm'

/-- A step that spawns no session leaves the token served. -/
theorem serves_monitor {d : Db} {monitor monitor' : Monitor} {l : MonitorLabel}
    (hserves : ∀ m, monitor.current = some m → Serves x token d m)
    (hs : Monitor.Step x cfg monitor l monitor')
    (hframe : ∀ text, l = .current (.frame text) → ∀ m, monitor.current = some m →
      ∀ event ∈ parseWsMessage x text, ∀ price, event.quote = some (token, price) →
        token ∈ m.tokenIds)
    (hspawn : ∀ tokenIds order db, l ≠ .spawn tokenIds order db)
    (m' : Manager) (hm' : monitor'.current = some m') : Serves x token d m' := by
  cases Monitor.step_turn hs with
  | same hpast hcurrent => exact hserves m' (hcurrent ▸ hm')
  | stops hpast hcurrent =>
    rw [hcurrent, Monitor.stopCurrent] at hm'
    obtain ⟨m, hm, rfl⟩ := Option.map_eq_some_iff.mp hm'
    exact hserves m hm
  | spawns => exact absurd rfl (hspawn _ _ _)
  | current hcurrent hstep =>
    cases hm'
    exact serves_step (hserves _ hcurrent) hstep fun text htext =>
      hframe text (by rw [htext]) _ hcurrent
  | past => exact hserves m' hm'

theorem current_of_spawn {monitor monitor' : Monitor} {tokenIds : List String}
    {order : List Nat} {db : Option Db}
    (hs : Monitor.Step x cfg monitor (.spawn tokenIds order db) monitor') :
    monitor'.current =
      some (.new tokenIds ((db.bind fun d => getTokenToCondition x d order).getD ∅)) := by
  cases Monitor.step_cases hs with
  | spawns => rfl

/-! ### Every step keeps it -/

/-- A read that makes the promise keeps the session. -/
theorem keeps_of_made {monitor : Monitor}
    (hs : Monitor.Step x cfg s.monitor (.read (some s.db)) monitor)
    (hafter : s.promiseAfter market monitor.pc (.read true) = .made) (hbefore : s.promise ≠ .made) :
    s.monitor.pc = .refreshing ∧ market ∈ s.db.subscribedMarkets ∧
      ∀ ids, getActiveTokenIds x s.db = some ids → ids = s.monitor.currentIds := by
  unfold promiseAfter at hafter
  unfold Monitor.Step Monitor.step at hs
  dsimp only at hafter hs
  cases hpc : s.monitor.pc with
  -- the promise is made only where the service goes back to its select!, with the ids it had
  | refreshing =>
    rw [hpc] at hafter hs
    dsimp only at hafter hs
    split at hafter
    · rename_i hselect
      split at hafter
      · rename_i hmarket
        refine ⟨rfl, hmarket, fun ids hids => ?_⟩
        rw [Option.bind_some, hids] at hs
        dsimp only at hs
        split at hs
        · assumption
        · cases hs
          cases hselect
      · exact absurd hafter hbefore
    · split at hafter
      · cases hafter
      · exact absurd hafter hbefore
    · rename_i hother _
      exact (hother rfl).elim
  | _ =>
    rw [hpc] at hafter
    exact absurd hafter hbefore

theorem kept_change {db : Db} (h : Kept x token s) (hmeets : s.Meets x market token (.change db)) :
    Kept x token
      { s with db, promise := s.promiseAfter market s.monitor.pc (.change db) } where
  service := h.service
  map := h.map
  made hmade m hm := by
    unfold promiseAfter at hmade
    dsimp only at hmade
    split at hmade
    · cases hmade
    · split at hmade <;> cases hmade
    · rename_i hbefore
      split at hmade
      · rename_i hmarket
        obtain ⟨order, hmap⟩ := h.map m hm
        refine (h.made hbefore m hm).imp (fun hnames => ?_) id
        rw [hmap] at hnames ⊢
        exact names_change (fun d hd => hmeets d hd hbefore hmarket) hnames
      · cases hmade
  owed := h.owed

/-- **Every step keeps the invariant.** -/
theorem kept_step (h : Kept x token s) (hs : Step x cfg market token s event s') :
    Kept x token s' := by
  obtain ⟨hstep, hmeets⟩ := hs
  cases event with
  -- the database changes under the session: the condition keeps the token listed
  | change db =>
    obtain rfl := Option.some.inj hstep
    exact kept_change h hmeets
  -- the read of the tokens may make the promise, when the session is kept
  | read answered =>
    obtain ⟨l, monitor, hl, hmonitor, rfl⟩ := step_service hstep (fun db hdb => by cases hdb)
    cases hl
    have hspawn : ∀ tokenIds order db,
        MonitorLabel.read (if answered then some s.db else none) ≠ .spawn tokenIds order db := by
      intro tokenIds order db heq
      cases heq
    refine ⟨Monitor.inv_step h.service hmonitor, map_monitor h.map hmonitor hspawn,
      fun hmade => ?_, owed_of_service h hmonitor⟩
    cases answered with
    | false => cases hmade
    | true =>
      refine serves_monitor (fun m hm => ?_) hmonitor (fun text htext => by cases htext) hspawn
      by_cases hbefore : s.promise = .made
      · exact h.made hbefore m hm
      · -- the session is kept, and its map has the token since its spawn
        obtain ⟨hpc, hmarket, hsame⟩ := keeps_of_made hmonitor hmade hbefore
        obtain ⟨d, hd, hstill⟩ := hmeets hpc hmarket hbefore hsame
        obtain ⟨order, hmap⟩ := h.map m hm
        left
        rw [hmap, hd]
        exact names_of_stillLists hstill order
  -- the spawn builds the map, from the database as it is now when the query is answered
  | spawn tokenIds order answered =>
    obtain ⟨l, monitor, hl, hmonitor, rfl⟩ := step_service hstep (fun db hdb => by cases hdb)
    cases hl
    refine ⟨Monitor.inv_step h.service hmonitor, fun m hm => ?_, fun hmade m hm => ?_,
      owed_of_service h hmonitor⟩
    · obtain rfl := Option.some.inj ((current_of_spawn hmonitor).symm.trans hm)
      exact ⟨order, rfl⟩
    · cases answered with
      | false => cases hmade
      | true =>
        have hbefore : s.promise ≠ .idle := by
          intro hidle
          unfold promiseAfter at hmade
          rw [hidle] at hmade
          cases hmade
        obtain rfl := Option.some.inj ((current_of_spawn hmonitor).symm.trans hm)
        exact serves_spawn order (hmeets hbefore)
  -- the rest queries nothing; a frame may carry the market itself
  | other l =>
    obtain ⟨l', monitor, hl, hmonitor, rfl⟩ := step_service hstep (fun db hdb => by cases hdb)
    unfold MonitorEvent.label at hl
    dsimp only at hl
    split at hl
    · cases hl
    · rename_i hqueries
      obtain rfl := Option.some.inj hl
      have hspawn : ∀ tokenIds order db, l ≠ .spawn tokenIds order db := by
        rintro tokenIds order db rfl
        exact hqueries rfl
      refine ⟨Monitor.inv_step h.service hmonitor, map_monitor h.map hmonitor hspawn,
        fun hmade => ?_, owed_of_service h hmonitor⟩
      refine serves_monitor (h.made hmade) hmonitor ?_ hspawn
      rintro text rfl m hm
      exact hmeets m hm hmade

/-- **Updates name their market.** In every run whose steps meet the condition, every update of the
    token that is broadcast while the promise is made names a market of the token. Nothing is said
    about what the session's map holds: that it names a market, or that the session is silent about
    the token, is what each step keeps (`kept_step`). -/
theorem enriched_of_meets {db : Db} {events : List MonitorEvent}
    (hrun : Steps (Step x cfg market token) (start db) events s) :
    ∀ p ∈ s.owed, p.1.tokenId = token → p.2.HasMarket x token p.1.conditionId :=
  (hrun.inv (kept_start db) fun _ _ _ => kept_step).owed

/-! ### A map that was not read -/

/-- The market of the sample database. -/
def sampleMarket : Market :=
  Db.sampleDb.markets.rows.headD ⟨0, "", "", none, "", "", "", false, 0, 0⟩

/-- The first session is spawned with or without an answer to its map query; a tick finds the
    tokens unchanged; and a price comes in. -/
def sampleRun (answered : Bool) : List MonitorEvent :=
  [.read true, .other .check, .spawn ["yes", "no"] [] answered, .other .tick, .read true,
    .other (.current .start), .other (.current (.frame quoteFrame)), .other (.current .recv),
    .other (.current (.convert 5))]

/-- It is subscribed, and lists the token. -/
theorem sampleMarket_lists :
    sampleMarket ∈ Db.sampleDb.subscribedMarkets ∧ sampleMarket.Lists quoteCrates "yes" :=
  ⟨by decide +kernel, ["yes", "no"], by decide +kernel, List.mem_cons_self⟩

/-- No other market is, and it stays. -/
theorem sampleDb_stillLists : Db.sampleDb.StillLists quoteCrates Db.sampleDb "yes" := by
  obtain ⟨hmem, hlists⟩ := sampleMarket_lists
  have honly : ∀ m ∈ Db.sampleDb.subscribedMarkets, m = sampleMarket := by decide +kernel
  refine ⟨fun m hm => ?_, ⟨_, hmem, hlists⟩, fun m hm _ => ?_⟩
  · obtain rfl := honly m hm
    obtain ⟨ids, hids, _⟩ := hlists
    exact ⟨ids, hids⟩
  · obtain rfl := honly m hm
    exact ⟨by decide +kernel, sampleMarket, (Db.mem_subscribedMarkets.mp hmem).1, rfl, hlists⟩

/-- The map is read, and the update names the market. -/
theorem enriched_of_meets_answered :
    ∃ s, Steps (Step quoteCrates ⟨1, 60⟩ sampleMarket "yes") (start Db.sampleDb)
        (sampleRun true) s ∧
      s.owed.map Prod.fst = [⟨"yes", "0xc", .cents 55, 5⟩] ∧
      ∀ p ∈ s.owed, p.1.tokenId = "yes" → p.2.HasMarket quoteCrates "yes" p.1.conditionId := by
  have hrun : ∃ s, Steps (Step quoteCrates ⟨1, 60⟩ sampleMarket "yes") (start Db.sampleDb)
      (sampleRun true) s ∧ s.owed.map Prod.fst = [⟨"yes", "0xc", .cents 55, 5⟩] := by
    refine ⟨_, .cons ⟨rfl, ?_⟩ (.cons ⟨rfl, trivial⟩ (.cons ⟨rfl, ?_⟩ (.cons ⟨rfl, trivial⟩
      (.cons ⟨rfl, ?_⟩ (.cons ⟨rfl, trivial⟩ (.cons ⟨rfl, ?_⟩ (.cons ⟨rfl, trivial⟩
      (.cons ⟨rfl, trivial⟩ .nil)))))))), by decide +kernel⟩
    · intro hpc
      cases hpc
    · exact fun hidle => absurd rfl hidle
    · exact fun _ _ _ _ => ⟨Db.sampleDb, rfl, sampleDb_stillLists⟩
    · intro m hm _ _ _ _ _
      cases hm
      exact List.mem_cons_self
  obtain ⟨s, hsteps, howed⟩ := hrun
  exact ⟨s, hsteps, howed, enriched_of_meets hsteps⟩

/-- **The map is not read, and is never read again**: the next tick is answered and keeps the
    session, and the update names no market. -/
theorem unread_map_misleads :
    sampleMarket ∈ Db.sampleDb.subscribedMarkets ∧ sampleMarket.Lists quoteCrates "yes" ∧
      ∃ s, Steps (fun a event b => a.step quoteCrates ⟨1, 60⟩ sampleMarket event = some b)
          (start Db.sampleDb) (sampleRun false) s ∧
        ∃ p ∈ s.owed, p.1.tokenId = "yes" ∧ p.1.conditionId = "" ∧
          ¬ p.2.HasMarket quoteCrates "yes" p.1.conditionId := by
  obtain ⟨hmem, hlists⟩ := sampleMarket_lists
  have hcheck : ((sampleRun false).foldlM (step quoteCrates ⟨1, 60⟩ sampleMarket)
      (start Db.sampleDb)).map (fun s => s.owed.map Prod.fst)
      = some [⟨"yes", "", .cents 55, 5⟩] := by decide +kernel
  obtain ⟨s, hs, howed⟩ := Option.map_eq_some_iff.mp hcheck
  obtain ⟨p, hp, hfirst⟩ := List.mem_map.mp (howed ▸ List.mem_singleton_self _)
  have hempty : p.1.conditionId = "" := by rw [hfirst]
  exact ⟨hmem, hlists, s, Lib.steps_of_foldlM hs, p, hp, by rw [hfirst], hempty,
    fun hhas => hhas.1 hempty⟩

end Followed
end PolyNotifier
