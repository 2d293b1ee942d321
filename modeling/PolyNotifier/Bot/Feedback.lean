import PolyNotifier.Bot.Dispatcher
import PolyNotifier.Bot.Isolation

/-!
# The handler of `/feedback`

It reads the time of the user's last row, looks at the clock, and inserts. `feedbackRules` is the
monitor that sees it do so, and that refuses a row for anyone but the sender or before the hour
is over; every handler keeps to it (`obeys_feedbackRules`), most of them because they never touch
the feedback.

SQLite stores the time of a row in whole seconds, the handler compares with all the clock has.
`Hourly.snoc` is why that does no harm.
-/

namespace PolyNotifier

open Lib (Event Pool Prog Steps Table stripPrefix trim)
open Lib.Prog (Ends Monitor Obeys ends_bind)

/-! ## The rows of a user -/

/-- An hour lies between the two. -/
def Feedback.Apart (f g : Feedback) : Prop :=
  Duration.hours 1 ≤ g.createdAt - f.createdAt ∨ Duration.hours 1 ≤ f.createdAt - g.createdAt

/-- Rows with times in whole seconds, pairwise an hour apart. Any two rows of a user count, not
    only one and the next. -/
structure Hourly (rows : List Feedback) : Prop where
  whole : ∀ f ∈ rows, f.createdAt % 1000000000 = 0
  apart : rows.Pairwise Feedback.Apart

theorem hourly_nil : Hourly [] := ⟨fun _ hf => absurd hf List.not_mem_nil, List.Pairwise.nil⟩

/-- **Truncation costs nothing**: an hour after a whole second is an hour in whole seconds. -/
theorem hour_le_datetimeNow {clock last : NaiveDateTime} (hwhole : last % 1000000000 = 0)
    (hhour : Duration.hours 1 ≤ clock - last) : Duration.hours 1 ≤ datetimeNow clock - last := by
  have hseconds : ∀ c l : Int, l % 1000000000 = 0 → 1 * 3600 * 1000000000 ≤ c - l →
      1 * 3600 * 1000000000 ≤ c - c % 1000000000 - l := by omega
  exact hseconds clock last hwhole hhour

theorem datetimeNow_whole (clock : NaiveDateTime) : datetimeNow clock % 1000000000 = 0 := by
  have hwhole : ∀ c : Int, (c - c % 1000000000) % 1000000000 = 0 := by omega
  exact hwhole clock

/-- A row that is stored an hour after all others. -/
theorem Hourly.snoc {rows : List Feedback} (h : Hourly rows) {f : Feedback} {clock : NaiveDateTime}
    (hat : f.createdAt = datetimeNow clock)
    (hhour : ∀ g ∈ rows, Duration.hours 1 ≤ clock - g.createdAt) : Hourly (rows ++ [f]) := by
  constructor
  · intro g hg
    rcases List.mem_append.mp hg with hg | hg
    · exact h.whole g hg
    · rw [List.mem_singleton.mp hg, hat]
      exact datetimeNow_whole clock
  · rw [List.pairwise_append]
    refine ⟨h.apart, List.pairwise_singleton _ _, fun g hg f' hf' => .inl ?_⟩
    rw [List.mem_singleton.mp hf', hat]
    exact hour_le_datetimeNow (h.whole g hg) (hhour g hg)

/-- The clock has gone on, and the row is no younger. -/
theorem hour_le_later {clock clock' last time : NaiveDateTime}
    (hhour : Duration.hours 1 ≤ clock - last) (hclock : clock ≤ clock') (htime : time ≤ last) :
    Duration.hours 1 ≤ clock' - time := by
  have hlater : ∀ hour c c' l t : Int, hour ≤ c - l → c ≤ c' → t ≤ l → hour ≤ c' - t := by omega
  exact hlater _ _ _ _ _ hhour hclock htime

/-- Whoever waits no longer has waited an hour. -/
theorem feedbackWait_eq_none {now last : NaiveDateTime} :
    feedbackWait now last = none ↔ Duration.hours 1 ≤ now - last := by
  have hsub : ∀ hour age : Int, hour - age > 0 ↔ ¬ hour ≤ age := by omega
  unfold feedbackWait
  dsimp only
  split
  · rename_i hwait
    constructor
    · intro h
      cases h
    · exact fun h => absurd h ((hsub _ _).mp hwait)
  · rename_i hwait
    exact ⟨fun _ => not_not.mp fun h => hwait ((hsub _ _).mpr h), fun _ => rfl⟩

namespace Db

variable {d d' : Db} {who : Identity}

/-- The feedback of a user. -/
def feedbackOf (d : Db) (who : Identity) : List Feedback :=
  d.feedback.rows.filter fun f => d.owner f.userId == some who

theorem mem_feedbackOf {f : Feedback} :
    f ∈ d.feedbackOf who ↔ f ∈ d.feedback.rows ∧ d.owner f.userId = some who := by
  rw [feedbackOf, List.mem_filter, beq_iff_eq]

theorem owner_inj {a b : Int} (ha : d.owner a = some who) (hb : d.owner b = some who) : a = b := by
  obtain ⟨u, hu, hwho⟩ := Option.map_eq_some_iff.mp ha
  obtain ⟨v, hv, hwho'⟩ := Option.map_eq_some_iff.mp hb
  obtain ⟨hu, hida⟩ := Table.mem_of_find hu
  obtain ⟨hv, hidb⟩ := Table.mem_of_find hv
  obtain rfl := Table.eq_of_ukey hu hv (hwho.trans hwho'.symm)
  exact hida.symm.trans hidb

/-- The last time is that of a row, and no row is later. -/
theorem getLastFeedbackTime_some {userId : Int} {last : NaiveDateTime}
    (h : d.getLastFeedbackTime userId = some last) (howner : d.owner userId = some who) :
    (∃ f ∈ d.feedbackOf who, f.createdAt = last) ∧ ∀ f ∈ d.feedbackOf who, f.createdAt ≤ last := by
  unfold getLastFeedbackTime at h
  obtain ⟨hmem, hle⟩ := List.max?_eq_some_iff.mp h
  obtain ⟨f, hf, rfl⟩ := List.mem_map.mp hmem
  rw [List.mem_filter, beq_iff_eq] at hf
  refine ⟨⟨f, mem_feedbackOf.mpr ⟨hf.1, by rw [hf.2, howner]⟩, rfl⟩, fun g hg => hle _ ?_⟩
  obtain ⟨hg, hown⟩ := mem_feedbackOf.mp hg
  refine List.mem_map_of_mem (List.mem_filter.mpr ⟨hg, ?_⟩)
  rw [beq_iff_eq]
  exact owner_inj hown howner

theorem getLastFeedbackTime_none {userId : Int} (h : d.getLastFeedbackTime userId = none)
    (howner : d.owner userId = some who) : d.feedbackOf who = [] := by
  unfold getLastFeedbackTime at h
  rw [List.max?_eq_none_iff, List.map_eq_nil_iff, List.filter_eq_nil_iff] at h
  rw [feedbackOf, List.filter_eq_nil_iff]
  intro f hf hown
  exact h f hf (beq_iff_eq.mpr (owner_inj (beq_iff_eq.mp hown) howner))

theorem insertFeedback_rows {clock : NaiveDateTime} {userId id : Int} {message : String}
    (h : d.insertFeedback clock userId message = .ok (id, d')) :
    d'.feedback.rows = d.feedback.rows ++ [⟨id, userId, message, datetimeNow clock⟩] := by
  unfold insertFeedback at h
  split at h
  · cases h
  · rename_i t ht
    split at h
    · cases h
      obtain ⟨hrows, hseq⟩ := Table.insert_ok ht
      rw [hseq]
      exact hrows
    · cases h

/-- A step that leaves the feedback leaves that of the user. -/
theorem feedbackOf_same (hrows : d'.feedback.rows = d.feedback.rows)
    (howner : ∀ k who, d.owner k = some who → d'.owner k = some who) :
    d'.feedbackOf who = d.feedbackOf who := by
  rw [feedbackOf, feedbackOf, hrows]
  refine List.filter_congr fun f hf => ?_
  obtain ⟨u, hu⟩ := Table.find_isSome (d.feedbackUser f hf)
  have hsome : d.owner f.userId = some (u.telegramId, u.botId) := by
    rw [owner, hu]
    rfl
  rw [hsome, howner _ _ hsome]

/-- A new row is the user's if the id is. -/
theorem feedbackOf_append {f : Feedback} (hrows : d'.feedback.rows = d.feedback.rows ++ [f])
    (husers : d'.users = d.users) :
    d'.feedbackOf who = d.feedbackOf who ++ if d.owner f.userId = some who then [f] else [] := by
  rw [feedbackOf, feedbackOf, hrows, List.filter_append, List.filter_singleton]
  simp only [owner_congr husers]
  by_cases howner : d.owner f.userId = some who
  · rw [if_pos howner, beq_iff_eq.mpr howner]
    rfl
  · rw [if_neg howner, beq_eq_false_iff_ne.mpr howner]
    rfl

end Db

namespace World

variable {env : Env} {w : World} {who : Identity}

theorem calls_perform (env : Env) (o : BotOp) (w : World) :
    (perform env o w).2.calls = w.calls + 1 := by
  cases o with
  | sql s =>
    cases hexec : execute env s w with
    | ok r => rw [perform_sql_ok hexec]
    | error e => rw [perform_sql_error hexec]
  | _ => rfl

/-- **No user goes, and no identity changes.** -/
theorem owner_perform (env : Env) (o : BotOp) {k : Int} {who : Identity}
    (h : w.db.owner k = some who) : (perform env o w).2.db.owner k = some who := by
  rcases perform_effect env o w with hsame | ⟨s, _, heffect⟩
  · rwa [hsame]
  · exact heffect.owner h

/-- **What one operation does to the feedback**: a row more, or nothing. -/
theorem feedback_perform (env : Env) (o : BotOp) (w : World) :
    (perform env o w).2.db.feedback = w.db.feedback ∨
      ∃ userId message id d, o = .sql (.insertFeedback userId message) ∧
        w.db.insertFeedback (env.clock w.calls) userId message = .ok (id, d) ∧
        perform env (.sql (.insertFeedback userId message)) w
          = (.ok id, { w with db := d, calls := w.calls + 1 }) := by
  cases o with
  | sql s =>
    cases hexec : execute env s w with
    | ok r =>
      obtain ⟨a, d⟩ := r
      by_cases hs : ∀ userId message, s ≠ .insertFeedback userId message
      · left
        rw [perform_sql_ok hexec]
        exact (exec_asides (execute_ok hexec)).2 hs
      · right
        simp only [not_forall, not_not] at hs
        obtain ⟨userId, message, rfl⟩ := hs
        exact ⟨userId, message, a, d, rfl, execute_ok hexec, perform_sql_ok hexec⟩
    | error e =>
      left
      rw [perform_sql_error hexec]
  | _ => exact .inl rfl

/-- **What it does to the feedback of a user.** -/
theorem feedbackOf_perform (env : Env) (o : BotOp) (w : World) (who : Identity) :
    (perform env o w).2.db.feedbackOf who = w.db.feedbackOf who ∨
      ∃ userId message f, o = .sql (.insertFeedback userId message) ∧
        w.db.owner userId = some who ∧ f.createdAt = datetimeNow (env.clock w.calls) ∧
        (perform env o w).2.db.feedbackOf who = w.db.feedbackOf who ++ [f] := by
  rcases feedback_perform env o w with hsame | ⟨userId, message, id, d, rfl, hins, hperform⟩
  · exact .inl (Db.feedbackOf_same (by rw [hsame]) fun k who' => owner_perform env o)
  · rw [hperform]
    have happend : d.feedbackOf who = w.db.feedbackOf who ++
        if w.db.owner userId = some who then _ else [] :=
      Db.feedbackOf_append (Db.insertFeedback_rows hins) (Db.insertFeedback_ok hins).1
    split at happend
    · rename_i howner
      exact .inr ⟨userId, message, _, rfl, howner, rfl, happend⟩
    · rw [List.append_nil] at happend
      exact .inl happend

end World

/-! ## The monitor -/

/-- What the handler makes of the text of a message. -/
def feedbackBody (msg : Message) : String :=
  ((stripPrefix "/feedback" (msg.text.getD "")).map trim).getD ""

/-- The feedback that the handler of an update stores, unless the user has to wait. -/
def requestOf (deps : BotDeps) : Update → Option String
  | .message msg =>
      if (msg.text.or msg.caption).bind deps.parseCommand = some .feedback ∧
          feedbackBody msg ≠ "" ∧ (feedbackBody msg).utf8ByteSize ≤ 1000 then
        some (feedbackBody msg)
      else none
  | _ => none

theorem requestOf_some {deps : BotDeps} {u : Update} {message : String}
    (h : requestOf deps u = some message) :
    ∃ msg, u = .message msg ∧ (msg.text.or msg.caption).bind deps.parseCommand = some .feedback ∧
      message = feedbackBody msg ∧ message.utf8ByteSize ≤ 1000 := by
  cases u with
  | message msg =>
    unfold requestOf at h
    dsimp only at h
    split at h
    · rename_i hmay
      cases h
      exact ⟨msg, rfl, hmay.1, rfl, hmay.2.2⟩
    · cases h
  | callbackQuery q => cases h
  | other => cases h

/-- How far the handler has come. `held` has no way on: a handler that has seen that the user must
    wait stores nothing. -/
inductive FeedbackStage where
  | asked
  /-- The last row of the user is of this time. -/
  | read (userId : Int) (last : NaiveDateTime)
  /-- An hour has passed, or there is no row. -/
  | cleared (userId : Int)
  /-- The user has to wait. -/
  | held
  | stored (id : Int)

namespace FeedbackStage

/-- The user the stage is about. -/
def user : FeedbackStage → Option Int
  | read userId _ => some userId
  | cleared userId => some userId
  | _ => none

/-- After a look at the clock. -/
def checked (now : NaiveDateTime) : FeedbackStage → FeedbackStage
  | read userId last => if feedbackWait now last = none then cleared userId else held
  | stage => stage

end FeedbackStage

/-- How far a handler is with the feedback of its update. What it asks for is fixed when it starts,
    from the text; the ids are those it has read for its sender, since a row must be the sender's
    and not just anybody's who has waited. -/
structure FeedbackView where
  who : Option Identity
  request : Option String
  /-- The ids of the user that the handler has read. -/
  ids : Int → Prop
  stage : FeedbackStage
  /-- A statement has failed. -/
  failed : Bool

/-- A row is stored for the sender alone, after the time of the last one was read. The look at the
    clock is a call as any other, and what it showed is kept in the stage: the clock may have gone
    on by the time of the `INSERT`, and only ever forward. -/
def feedbackRules : Monitor botSig FeedbackView where
  allows v
    | .sql (.getLastFeedbackTime userId) => v.request.isSome ∧ v.ids userId ∧ v.stage = .asked
    | .sql (.insertFeedback userId message) =>
        v.request = some message ∧ v.stage = .cleared userId
    | _ => True
  next v
    | .sql (.selectUser telegramId botId), .ok (some u) =>
        { v with ids := fun k => v.ids k ∨ k = u.id ∧ v.who = some (telegramId, botId) }
    | .sql (.selectUserById id), .ok u =>
        { v with ids := fun k => v.ids k ∨ k = u.id ∧ v.ids id }
    | .sql (.insertUser telegramId botId _), .ok id =>
        { v with ids := fun k => v.ids k ∨ k = id ∧ v.who = some (telegramId, botId) }
    | .sql (.getLastFeedbackTime userId), .ok (some last) => { v with stage := .read userId last }
    | .sql (.getLastFeedbackTime userId), .ok none => { v with stage := .cleared userId }
    | .sql (.insertFeedback _ _), .ok id => { v with stage := .stored id }
    | .sql _, .error _ => { v with failed := true }
    | .now, now => { v with stage := v.stage.checked now }
    | _, _ => v

namespace FeedbackView

/-- What a handler begins with. -/
def start (deps : BotDeps) (u : Update) : FeedbackView :=
  ⟨u.identity deps.botId, requestOf deps u, fun _ => False, .asked, false⟩

/-- The end of a handler: what was asked for is stored, unless it may not be. Without it a handler
    that never stores anything would keep to the rules as well. -/
def Settled (v : FeedbackView) : Prop :=
  v.request.isSome → v.who.isSome → v.failed ∨ v.stage = .held ∨ ∃ id, v.stage = .stored id

end FeedbackView

/-! ### The handlers -/

section Handlers

variable {v : FeedbackView} {F : FeedbackView → Prop}

theorem ends_feedback_reply {chat : Int} {text : String} (h : F v) :
    Ends (fun _ _ => True) feedbackRules F v (reply chat text) fun v' _ => F v' := by
  refine ⟨trivial, fun ok _ => ?_⟩
  cases ok with
  | true => exact h
  | false => exact h

theorem ends_feedback_query {s : Stmt} {Q : FeedbackView → s.Res → Prop}
    (hallow : feedbackRules.allows v (.sql s))
    (herror : ∀ e, F (feedbackRules.next v (.sql s) (.error e)))
    (hok : ∀ a, Q (feedbackRules.next v (.sql s) (.ok a)) a) :
    Ends (fun _ _ => True) feedbackRules F v (query s) Q := by
  refine ⟨hallow, fun r _ => ?_⟩
  cases r with
  | ok a => exact hok a
  | error e => exact herror e

theorem next_failed (v : FeedbackView) (s : Stmt) (e : DbError) :
    feedbackRules.next v (.sql s) (.error e) = { v with failed := true } := by
  cases s <;> rfl

/-- A statement that fails settles the handler. -/
theorem settled_error (s : Stmt) (e : DbError) :
    (feedbackRules.next v (.sql s) (.error e)).Settled := by
  rw [next_failed]
  exact fun _ _ => .inl rfl

theorem ends_feedback_user {telegramId : Int} {botId : String}
    (hwho : v.who = some (telegramId, botId)) {Q : FeedbackView → User → Prop}
    (hQ : ∀ ids u, ids u.id → Q { v with ids } u) :
    Ends (fun _ _ => True) feedbackRules FeedbackView.Settled v
      (getOrCreateUser telegramId botId none) Q := by
  refine ends_bind.mpr (ends_feedback_query trivial (settled_error _) fun existing => ?_)
  cases existing with
  | some user => exact hQ _ user (.inr ⟨rfl, hwho⟩)
  | none =>
    refine ends_bind.mpr (ends_feedback_query trivial (settled_error _) fun id => ?_)
    refine ends_feedback_query trivial (settled_error _) fun u => ?_
    exact hQ _ u (.inr ⟨rfl, .inr ⟨rfl, hwho⟩⟩)

/-- The hour has passed: the row is stored, and the user is told. -/
theorem ends_feedback_store {userId chat : Int} {body text : String}
    (hrequest : v.request = some body) (hcleared : v.stage = .cleared userId) :
    Ends (fun _ _ => True) feedbackRules FeedbackView.Settled v
      (query (.insertFeedback userId body) >>= fun _ => reply chat text)
      fun v' _ => v'.Settled := by
  refine ends_bind.mpr (ends_feedback_query ⟨hrequest, hcleared⟩ (settled_error _) fun id => ?_)
  exact ends_feedback_reply fun _ _ => .inr (.inr ⟨id, rfl⟩)

/-- **The handler of `/feedback`.** -/
theorem ends_feedback (deps : BotDeps) (msg : Message)
    (hcommand : (msg.text.or msg.caption).bind deps.parseCommand = some .feedback) :
    Ends (fun _ _ => True) feedbackRules FeedbackView.Settled (.start deps (.message msg))
      (feedback deps msg) fun v' _ => v'.Settled := by
  unfold feedback
  cases hsender : msg.sender with
  | none =>
    intro _ hwho
    rw [FeedbackView.start, Update.identity, hsender] at hwho
    cases hwho
  | some sender =>
    have hwho : (FeedbackView.start deps (.message msg)).who
        = some (sender.telegramId, deps.botId) := by
      rw [FeedbackView.start, Update.identity, hsender]
      rfl
    -- a body that is empty or too long asks for no row, so nothing is owed
    have hnone : ¬ (feedbackBody msg ≠ "" ∧ (feedbackBody msg).utf8ByteSize ≤ 1000) →
        (FeedbackView.start deps (.message msg)).Settled := by
      intro hno hrequest
      rw [FeedbackView.start, requestOf, if_neg (fun h => hno h.2)] at hrequest
      cases hrequest
    have hsome : feedbackBody msg ≠ "" → ¬ 1000 < (feedbackBody msg).utf8ByteSize →
        (FeedbackView.start deps (.message msg)).request = some (feedbackBody msg) := by
      intro hne hshort
      rw [FeedbackView.start, requestOf, if_pos ⟨hcommand, hne, Nat.le_of_not_lt hshort⟩]
    show Ends _ _ _ _ (if feedbackBody msg = "" then _
      else if 1000 < (feedbackBody msg).utf8ByteSize then _ else _) _
    split
    · rename_i hempty
      exact ends_feedback_reply (hnone fun h => h.1 hempty)
    · rename_i hne
      split
      · rename_i hlong
        exact ends_feedback_reply (hnone fun h => absurd h.2 (by omega))
      · rename_i hshort
        have hrequest := hsome hne hshort
        have hasked : (FeedbackView.start deps (.message msg)).stage = .asked := rfl
        generalize hstart : FeedbackView.start deps (.message msg) = v at hwho hrequest hasked
        -- the user, the time of the last feedback, the limit, and then the row
        refine ends_bind.mpr (ends_feedback_user hwho fun ids u hid => ?_)
        refine ends_bind.mpr (ends_feedback_query
          ⟨Option.isSome_of_eq_some hrequest, hid, hasked⟩ (settled_error _) fun last => ?_)
        cases last with
        | none => exact ends_feedback_store hrequest rfl
        | some last =>
          refine ends_bind.mpr ⟨trivial, fun now _ => ?_⟩
          have hchecked : FeedbackStage.checked now (.read u.id last)
              = if feedbackWait now last = none then .cleared u.id else .held := rfl
          show Ends _ _ _ _ (pure (feedbackWait now last) >>= _) _
          cases hwait : feedbackWait now last with
          | some mins =>
            rw [hwait, if_neg (by simp)] at hchecked
            exact ends_feedback_reply fun _ _ => .inr (.inl hchecked)
          | none =>
            rw [hwait, if_pos rfl] at hchecked
            exact ends_feedback_store hrequest hchecked

/-- **No other handler touches the feedback.** -/
theorem obeys_calm {p : Handler Unit}
    (hp : Footprint (fun _ => True) (fun s => ¬ s.OnFeedback) p) (v : FeedbackView) :
    Obeys feedbackRules v p fun _ _ => True := by
  refine hp.weaken (fun _ o v ho => ?_) v
  cases o with
  | sql s =>
    cases s with
    | getLastFeedbackTime userId => exact absurd trivial ho
    | insertFeedback userId message => exact absurd trivial ho
    | _ => trivial
  | _ => trivial

theorem calm_others : Calm (fun _ => True) fun s => ¬ s.OnFeedback :=
  ⟨fun _ _ h => h, trivial, trivial, trivial⟩

/-- **Every handler keeps to the rules.** -/
theorem obeys_feedbackRules {deps : BotDeps} {dialogues : Int → DialogueState} {u : Update}
    {handler : Handler Unit} (h : schema deps dialogues u = some handler) :
    Obeys feedbackRules (.start deps u) handler fun _ _ => True := by
  cases u with
  | message msg =>
    cases hcommand : (msg.text.or msg.caption).bind deps.parseCommand with
    | some command =>
      rw [schema_command hcommand] at h
      cases h
      by_cases hfeedback : command = .feedback
      · rw [hfeedback] at hcommand ⊢
        exact (ends_feedback deps msg hcommand).obeys
      -- every other command makes no statement about feedback at all
      · exact obeys_calm (footprint_command calm_others deps msg hfeedback) _
    | none =>
      rw [schema_message hcommand] at h
      cases hstate : dialogues msg.chat with
      | awaitingUrl =>
        rw [hstate] at h
        cases h
        exact obeys_calm (footprint_handleUrlInput msg .any) _
      | awaitingSubscribeAlertThreshold conditionId question outcomes tokenIds index alertType =>
        rw [hstate] at h
        cases h
        exact obeys_calm (footprint_handleSubscribeAlertThreshold calm_others deps.botId msg
          (fun _ => id) (fun _ _ => id) fun _ _ _ => id) _
      | awaitingAlertThreshold subscriptionId question alertType =>
        rw [hstate] at h
        cases h
        exact obeys_calm (footprint_handleAlertThreshold calm_others deps.botId msg
          (fun _ _ => id) fun _ _ => id) _
      | _ =>
        rw [hstate] at h
        cases h
  | callbackQuery q =>
    exact obeys_calm (footprint_callbackQuery calm_others (fun _ => id) .any h) _
  | other => cases h

end Handlers

end PolyNotifier
