import PolyNotifier.Bot.Feedback

/-!
# Feedback over a run

Any updates of any users, any order of the calls, and one rule: a `/feedback` of the user is
taken up when the ones before it have come to their end. In one chat the dispatcher sees to that
(`Tracked.OneChat.steps`).

`FeedbackInv` says of every handler where it is, and `FeedbackInv.step` carries it over one step.
Between the look at the clock and the `INSERT` nobody else stores for the user, so the hour that
had passed has still passed.
-/

namespace PolyNotifier

open Lib (Event Pool Prog Steps)
open Lib.Prog (Ends)

/-- The clock never goes backward. -/
def Env.Forward (env : Env) : Prop := ∀ m n, m ≤ n → env.clock m ≤ env.clock n

/-- The update is a `/feedback` of the user. -/
def IsFeedbackOf (deps : BotDeps) (who : Identity) (u : Update) : Prop :=
  ∃ msg, u = .message msg ∧ (msg.text.or msg.caption).bind deps.parseCommand = some .feedback ∧
    u.identity deps.botId = some who

/-- The bot, and the update each of its handlers was started for. -/
structure Tracked where
  bot : Bot
  updates : List Update

namespace Tracked

def start (d : Db) : Tracked := ⟨.start d, []⟩

abbrev world (T : Tracked) : World := T.bot.pool.state

/-- Handler `i` is at work on a `/feedback` of the user. -/
def AtWork (deps : BotDeps) (who : Identity) (T : Tracked) (i : Nat) : Prop :=
  ∃ u p, T.updates[i]? = some u ∧ IsFeedbackOf deps who u ∧
    T.bot.pool.threads[i]? = some p ∧ ¬ p.Done

/-- A step of the bot, in which a `/feedback` of the user waits for the ones before it. It is the
    only rule: the handlers of other updates, of the same user too, run at any time in between. -/
inductive Step (deps : BotDeps) (env : Env) (who : Identity) : Tracked → BotLabel → Tracked → Prop
  | update {T : Tracked} {u : Update} {B : Bot} (step : Bot.Step deps env T.bot (.update u) B)
      (turn : IsFeedbackOf deps who u → ∀ i, ¬ T.AtWork deps who i) :
      Step deps env who T (.update u) ⟨B, T.updates ++ [u]⟩
  | call {T : Tracked} {ev : Event botSig} {B : Bot}
      (step : Bot.Step deps env T.bot (.call ev) B) :
      Step deps env who T (.call ev) ⟨B, T.updates⟩

variable {deps : BotDeps} {env : Env} {who : Identity} {T T' : Tracked} {l : BotLabel}

/-- What is at work after a step was at work before, or is the update just taken up. -/
theorem Step.atWork (hs : Step deps env who T l T')
    (hlength : T.updates.length = T.bot.pool.threads.length) {i : Nat}
    (hi : T'.AtWork deps who i) :
    T.AtWork deps who i ∨
      i = T.updates.length ∧ ∃ u, l = .update u ∧ IsFeedbackOf deps who u := by
  obtain ⟨v, p, hv, hfeedback, hp, hlive⟩ := hi
  cases hs with
  | @update u B hstep hturn =>
    cases hstep with
    | @update _ handler _ hbranch =>
      rcases Pool.getElem?_spawn hp with hp | ⟨rfl, _⟩
      · have hlt : i < T.updates.length := by
          rw [hlength]
          exact (List.getElem?_eq_some_iff.mp hp).1
        rw [List.getElem?_append_left hlt] at hv
        exact .inl ⟨v, p, hv, hfeedback, hp, hlive⟩
      · refine .inr ⟨hlength.symm, u, rfl, ?_⟩
        rw [← hlength, List.getElem?_concat_length] at hv
        cases hv
        exact hfeedback
  | @call ev B hstep =>
    cases hstep with
    | @call _ P hcall =>
      rcases hcall.threads hp with ⟨_, hp⟩ | ⟨_, k, hp, _⟩
      · exact .inl ⟨v, p, hv, hfeedback, hp, hlive⟩
      · exact .inl ⟨v, _, hv, hfeedback, hp, id⟩

/-- **What a step does to the world**: nothing, or an operation of one handler. -/
theorem Step.world (hs : Step deps env who T l T') :
    (∃ u, l = .update u ∧ T'.world = T.world) ∨
      ∃ j o k, T.bot.pool.threads[j]? = some (.op o k) ∧
        l = .call ⟨j, o, (World.perform env o T.world).1⟩ ∧
        T'.world = (World.perform env o T.world).2 := by
  cases hs with
  | update hstep =>
    cases hstep with
    | update => exact .inl ⟨_, rfl, rfl⟩
  | call hstep =>
    cases hstep with
    | call hcall =>
      cases hcall with
      | mk hj => exact .inr ⟨_, _, _, hj, rfl, rfl⟩

theorem Step.length (hs : Step deps env who T l T')
    (h : T.updates.length = T.bot.pool.threads.length) :
    T'.updates.length = T'.bot.pool.threads.length := by
  cases hs with
  | update hstep _ =>
    cases hstep with
    | update => simp [Pool.spawn, h]
  | call hstep =>
    cases hstep with
    | call hcall =>
      cases hcall with
      | mk => simpa using h

theorem Step.updates (hs : Step deps env who T l T') {i : Nat} {u : Update}
    (h : T.updates[i]? = some u) : T'.updates[i]? = some u := by
  cases hs with
  | update => rwa [List.getElem?_append_left (List.getElem?_eq_some_iff.mp h).1]
  | call => exact h

/-- The `/feedback` of the user came from one chat. -/
structure OneChat (deps : BotDeps) (who : Identity) (chat : Int) (T : Tracked) : Prop where
  chats : T.bot.chats = T.updates.map Update.chat
  length : T.updates.length = T.bot.pool.threads.length
  one : ∀ u ∈ T.updates, IsFeedbackOf deps who u → u.chat = some chat

/-- As long as they come from there. -/
abbrev FromChat (deps : BotDeps) (who : Identity) (chat : Int) (_ : Int → DialogueState)
    (u : Update) : Prop :=
  IsFeedbackOf deps who u → u.chat = some chat

theorem OneChat.step {chat : Int} {B : Bot} (h : T.OneChat deps who chat)
    (hs : Bot.Guarded (FromChat deps who chat) deps env T.bot l B) :
    ∃ updates, Step deps env who T l ⟨B, updates⟩ ∧ OneChat deps who chat ⟨B, updates⟩ := by
  obtain ⟨hstep, hguard⟩ := hs
  cases hstep with
  | @update u handler hturn hbranch =>
    have hnew : Step deps env who T (.update u)
        ⟨⟨T.bot.chats ++ [u.chat], T.bot.pool.spawn handler⟩, T.updates ++ [u]⟩ := by
      refine .update (.update hturn hbranch) fun hfeedback i hi => ?_
      obtain ⟨v, p, hv, hfeedback', hp, hlive⟩ := hi
      have hv' := h.one v (List.mem_of_getElem? hv) hfeedback'
      refine hlive (hturn chat (hguard u rfl hfeedback) i ?_ p hp)
      rw [h.chats, List.getElem?_map, hv, Option.map_some, hv']
    refine ⟨_, hnew, ?_, hnew.length h.length, ?_⟩
    · show T.bot.chats ++ [u.chat] = (T.updates ++ [u]).map Update.chat
      rw [h.chats, List.map_append, List.map_singleton]
    · intro v hv hfeedback
      rcases List.mem_append.mp hv with hv | hv
      · exact h.one v hv hfeedback
      · rw [List.mem_singleton.mp hv] at hfeedback ⊢
        exact hguard u rfl hfeedback
  | @call ev P hcall =>
    have hnew : Step deps env who T (.call ev) ⟨⟨T.bot.chats, P⟩, T.updates⟩ := .call (.call hcall)
    exact ⟨_, hnew, h.chats, hnew.length h.length, h.one⟩

/-- **In one chat they are handled one at a time.** -/
theorem OneChat.steps {chat : Int} {ls : List BotLabel} {B : Bot} (h : T.OneChat deps who chat)
    (hrun : Steps (Bot.Guarded (FromChat deps who chat) deps env) T.bot ls B) :
    ∃ updates, Steps (Step deps env who) T ls ⟨B, updates⟩ ∧
      OneChat deps who chat ⟨B, updates⟩ := by
  induction hrun with
  | nil => exact ⟨T.updates, .nil, h⟩
  | snoc _ hs ih =>
    obtain ⟨updates, hsteps, hone⟩ := ih
    obtain ⟨updates', hlast, hone'⟩ := hone.step hs
    exact ⟨updates', hsteps.snoc hlast, hone'⟩

theorem oneChat_start (chat : Int) (d : Db) : (start d).OneChat deps who chat :=
  ⟨rfl, rfl, fun _ hu => absurd hu List.not_mem_nil⟩

end Tracked

/-! ## What holds along a run -/

/-- What the stage of a handler says of the rows of its user. -/
def FeedbackStage.Sound (rows : List Feedback) (clock : NaiveDateTime) : FeedbackStage → Prop
  | read _ last => (∃ f ∈ rows, f.createdAt = last) ∧ ∀ f ∈ rows, f.createdAt ≤ last
  | cleared _ => ∀ f ∈ rows, Duration.hours 1 ≤ clock - f.createdAt
  | _ => True

theorem FeedbackStage.Sound.later {rows : List Feedback} {clock clock' : NaiveDateTime}
    {stage : FeedbackStage} (h : stage.Sound rows clock) (hle : clock ≤ clock') :
    stage.Sound rows clock' := by
  cases stage with
  | cleared userId => exact fun f hf => hour_le_later (h f hf) hle (Int.le_refl _)
  | _ => exact h

/-- What a handler knows of its user is true. -/
structure FeedbackView.Knows (v : FeedbackView) (d : Db) : Prop where
  ids : ∀ k, v.ids k → ∃ w, v.who = some w ∧ d.owner k = some w
  user : ∀ k, v.stage.user = some k → v.ids k

namespace FeedbackView

variable {deps : BotDeps} {env : Env} {v : FeedbackView} {o : BotOp} {w : World} {who : Identity}

theorem Knows.mono {d d' : Db} (h : v.Knows d)
    (howner : ∀ k who, d.owner k = some who → d'.owner k = some who) : v.Knows d' where
  ids k hk := by
    obtain ⟨w, hwho, hown⟩ := h.ids k hk
    exact ⟨w, hwho, howner k w hown⟩
  user := h.user

theorem knows_start (u : Update) (d : Db) : (start deps u).Knows d where
  ids _ hk := hk.elim
  user _ hk := by cases hk

/-- No operation changes whose update it is, or what it asks for. -/
theorem next_about (v : FeedbackView) (o : BotOp) (r : o.Res) :
    (feedbackRules.next v o r).who = v.who ∧
      (feedbackRules.next v o r).request = v.request := by
  unfold feedbackRules
  dsimp only
  split <;> exact ⟨rfl, rfl⟩

theorem checked_user {now : NaiveDateTime} {stage : FeedbackStage} {k : Int}
    (h : (stage.checked now).user = some k) : stage.user = some k := by
  cases stage with
  | read userId last =>
    by_cases hwait : feedbackWait now last = none
    · rw [FeedbackStage.checked, if_pos hwait] at h
      exact h
    · rw [FeedbackStage.checked, if_neg hwait] at h
      cases h
  | _ => exact h

/-- **What it learns is true.** -/
theorem Knows.perform (h : v.Knows w.db) (hallow : feedbackRules.allows v o) :
    (feedbackRules.next v o (World.perform env o w).1).Knows (World.perform env o w).2.db := by
  have hmono : v.Knows (World.perform env o w).2.db :=
    h.mono fun _ _ howner => World.owner_perform env o howner
  cases o with
  | sql s =>
    cases hexec : World.execute env s w with
    | error e =>
      rw [World.perform_sql_error hexec] at hmono ⊢
      rw [next_failed]
      exact ⟨hmono.ids, hmono.user⟩
    | ok r =>
      obtain ⟨a, d⟩ := r
      rw [World.perform_sql_ok hexec] at hmono ⊢
      have hexec := World.execute_ok hexec
      -- four statements tell the handler who a user is, or are the reading of the feedback time
      cases s with
      | selectUser telegramId botId =>
        cases a with
        | none => exact hmono
        | some u =>
          refine ⟨fun k hk => ?_, fun k hk => .inl (hmono.user k hk)⟩
          rcases hk with hk | ⟨rfl, hwho⟩
          · exact hmono.ids k hk
          · obtain ⟨hr, rfl⟩ := Stmt.reading_ok hexec
            obtain ⟨hu, rfl, rfl⟩ := Db.selectUser_some hr
            exact ⟨_, hwho, Db.owner_of_mem hu⟩
      | selectUserById id =>
        refine ⟨fun k hk => ?_, fun k hk => .inl (hmono.user k hk)⟩
        rcases hk with hk | ⟨rfl, hid⟩
        · exact hmono.ids k hk
        · obtain ⟨hr, rfl⟩ := Stmt.reading_ok hexec
          rw [(Db.selectUserById_ok hr).2]
          exact hmono.ids id hid
      | insertUser telegramId botId username =>
        refine ⟨fun k hk => ?_, fun k hk => .inl (hmono.user k hk)⟩
        rcases hk with hk | ⟨rfl, hwho⟩
        · exact hmono.ids k hk
        · obtain ⟨_, _, hfind⟩ := Db.insertUser_ok hexec
          refine ⟨_, hwho, ?_⟩
          rw [Db.owner, hfind]
          rfl
      | getLastFeedbackTime userId =>
        have hid := hallow.2.1
        cases a with
        | none =>
          refine ⟨hmono.ids, fun k hk => ?_⟩
          cases hk
          exact hid
        | some last =>
          refine ⟨hmono.ids, fun k hk => ?_⟩
          cases hk
          exact hid
      | insertFeedback userId message => exact ⟨hmono.ids, fun k hk => by cases hk⟩
      | _ => exact hmono
  -- the clock decides the limit, and the user stays the one whose time was read
  | now => exact ⟨hmono.ids, fun k hk => hmono.user k (checked_user hk)⟩
  | _ => exact hmono

/-- An executed statement fails nobody. -/
theorem next_unfailed (v : FeedbackView) {o : BotOp} {r : o.Res} (h : Answered o r) :
    (feedbackRules.next v o r).failed = v.failed := by
  cases o with
  | sql s =>
    obtain ⟨a, rfl⟩ := h
    cases s with
    | selectUser telegramId botId => cases a <;> rfl
    | getLastFeedbackTime userId => cases a <;> rfl
    | _ => rfl
  | _ => rfl

/-- What an operation does to the stage. The stage goes on with the calls that matter for the
    feedback, and stays with all others. -/
inductive StageMove (env : Env) (w : World) : BotOp → FeedbackStage → FeedbackStage → Prop
  | stays {o : BotOp} {stage : FeedbackStage} : StageMove env w o stage stage
  | reads {userId : Int} {last : NaiveDateTime}
      (hlast : w.db.getLastFeedbackTime userId = some last) :
      StageMove env w (.sql (.getLastFeedbackTime userId)) .asked (.read userId last)
  | clears {userId : Int} (hlast : w.db.getLastFeedbackTime userId = none) :
      StageMove env w (.sql (.getLastFeedbackTime userId)) .asked (.cleared userId)
  | looks {stage : FeedbackStage} :
      StageMove env w .now stage (stage.checked (env.clock w.calls))
  | stores {userId id : Int} {message : String}
      (hres : (World.perform env (.sql (.insertFeedback userId message)) w).1 = .ok id) :
      StageMove env w (.sql (.insertFeedback userId message)) (.cleared userId) (.stored id)

/-- **There is no other move.** -/
theorem stageMove (env : Env) (w : World) (hallow : feedbackRules.allows v o) :
    StageMove env w o v.stage (feedbackRules.next v o (World.perform env o w).1).stage := by
  cases o with
  | sql s =>
    cases hexec : World.execute env s w with
    | error e =>
      rw [World.perform_sql_error hexec, next_failed]
      exact .stays
    | ok r =>
      obtain ⟨a, d⟩ := r
      have hperform := World.perform_sql_ok hexec
      rw [hperform]
      cases s with
      | getLastFeedbackTime userId =>
        have hlast : w.db.getLastFeedbackTime userId = a :=
          congrArg Prod.fst (Except.ok.inj (World.execute_ok hexec))
        rw [hallow.2.2]
        cases a with
        | none => exact .clears hlast
        | some last => exact .reads hlast
      | insertFeedback userId message =>
        rw [hallow.2]
        exact .stores (by rw [hperform])
      | selectUser telegramId botId => cases a <;> exact .stays
      | _ => exact .stays
  | now => exact .looks
  | _ => exact .stays

/-- Who has to wait has been told so by the clock. -/
theorem held_perform (hallow : feedbackRules.allows v o)
    (h : (feedbackRules.next v o (World.perform env o w).1).stage = .held)
    (hnot : v.stage ≠ .held) :
    o = .now ∧ ∃ userId last, v.stage = .read userId last ∧
      feedbackWait (env.clock w.calls) last ≠ none := by
  have hmove := stageMove env w hallow
  generalize (feedbackRules.next v o (World.perform env o w).1).stage = stage' at h hmove
  generalize v.stage = stage at hnot hmove ⊢
  cases hmove with
  | stays => exact absurd h hnot
  | reads => cases h
  | clears => cases h
  | looks =>
    refine ⟨rfl, ?_⟩
    cases stage with
    | read userId last =>
      refine ⟨userId, last, rfl, fun hwait => ?_⟩
      rw [FeedbackStage.checked, if_pos hwait] at h
      cases h
    | held => exact absurd rfl hnot
    | _ => cases h
  | stores => cases h

/-- Who has stored stores no more. -/
theorem stored_stays {id : Int} (h : v.stage = .stored id) (hallow : feedbackRules.allows v o) :
    (feedbackRules.next v o (World.perform env o w).1).stage = .stored id := by
  have hmove := stageMove env w hallow
  generalize (feedbackRules.next v o (World.perform env o w).1).stage = stage' at hmove ⊢
  generalize v.stage = stage at h hmove
  cases hmove with
  | stays => exact h
  | looks =>
    rw [h]
    rfl
  | reads => cases h
  | clears => cases h
  | stores => cases h

/-- Who has stored now has sent the `INSERT`. -/
theorem stored_perform {id : Int} (hallow : feedbackRules.allows v o)
    (h : (feedbackRules.next v o (World.perform env o w).1).stage = .stored id) :
    v.stage = .stored id ∨ ∃ userId message, o = .sql (.insertFeedback userId message) ∧
      (World.perform env (.sql (.insertFeedback userId message)) w).1 = .ok id := by
  have hmove := stageMove env w hallow
  generalize (feedbackRules.next v o (World.perform env o w).1).stage = stage' at h hmove
  generalize v.stage = stage at hmove ⊢
  cases hmove with
  | stays => exact .inl h
  | reads => cases h
  | clears => cases h
  | looks =>
    cases stage with
    | read userId last =>
      rw [FeedbackStage.checked] at h
      split at h <;> cases h
    | _ => exact .inl h
  | stores hres =>
    cases h
    exact .inr ⟨_, _, rfl, hres⟩

/-- Where a handler is after its own operation, if it runs for the user. -/
theorem sound_perform (hclock : env.Forward) (h : v.Knows w.db) (hwho : v.who = some who)
    (hallow : feedbackRules.allows v o)
    (hsound : v.stage.Sound (w.db.feedbackOf who) (env.clock w.calls)) :
    (feedbackRules.next v o (World.perform env o w).1).stage.Sound
      ((World.perform env o w).2.db.feedbackOf who)
      (env.clock (World.perform env o w).2.calls) := by
  rw [World.calls_perform]
  have hle : env.clock w.calls ≤ env.clock (w.calls + 1) := hclock _ _ (Nat.le_succ _)
  rcases World.feedbackOf_perform env o w who with hrows | ⟨userId, message, f, rfl, _⟩
  -- no row of the user is new: what the stage says is settled by what was read, and by the clock
  · rw [hrows]
    have hlater := hsound.later hle
    have howner : ∀ userId, v.ids userId → w.db.owner userId = some who := by
      intro userId hid
      obtain ⟨who', hwho', howner⟩ := h.ids userId hid
      rwa [Option.some.inj (hwho.symm.trans hwho')]
    have hmove := stageMove env w hallow
    generalize (feedbackRules.next v o (World.perform env o w).1).stage = stage' at hmove ⊢
    generalize v.stage = stage at hsound hlater hmove
    cases hmove with
    | stays => exact hlater
    | reads hlast => exact Db.getLastFeedbackTime_some hlast (howner _ hallow.2.1)
    | clears hlast =>
      rw [Db.getLastFeedbackTime_none hlast (howner _ hallow.2.1)]
      exact fun f hf => absurd hf List.not_mem_nil
    | looks =>
      cases stage with
      | read userId last =>
        rw [FeedbackStage.checked]
        split
        · rename_i hwait
          have hhour := feedbackWait_eq_none.mp hwait
          intro f hf
          exact hour_le_later hhour hle (hsound.2 f hf)
        · trivial
      | _ => exact hlater
    | stores => trivial
  · -- an `INSERT`: it is stored, or the stage and the rows are as before
    cases hexec : World.execute env (.insertFeedback userId message) w with
    | error e =>
      rw [World.perform_sql_error hexec, next_failed]
      exact hsound.later hle
    | ok r =>
      rw [World.perform_sql_ok hexec]
      trivial

/-- The row of an `INSERT` for the user is one of the user's. -/
theorem row_of_perform {userId id : Int} {message : String}
    (h : (World.perform env (.sql (.insertFeedback userId message)) w).1 = .ok id)
    (howner : w.db.owner userId = some who) :
    ∃ f ∈ (World.perform env (.sql (.insertFeedback userId message)) w).2.db.feedbackOf who,
      f.id = id ∧ f.message = message := by
  have hkeeps := World.owner_perform env (.sql (.insertFeedback userId message)) howner
  cases hexec : World.execute env (.insertFeedback userId message) w with
  | error e =>
    rw [World.perform_sql_error hexec] at h
    cases h
  | ok r =>
    obtain ⟨id', d⟩ := r
    rw [World.perform_sql_ok hexec] at h hkeeps ⊢
    cases h
    have hrow : (⟨id, userId, message, datetimeNow (env.clock w.calls)⟩ : Feedback)
        ∈ d.feedback.rows := by
      rw [Db.insertFeedback_rows (World.execute_ok hexec)]
      exact List.mem_append_right _ (List.mem_singleton.mpr rfl)
    exact ⟨_, Db.mem_feedbackOf.mpr ⟨hrow, hkeeps⟩, rfl, rfl⟩

end FeedbackView

/-- How far each handler is after a step. -/
def viewsAfter (deps : BotDeps) (T : Tracked) (g : Nat → FeedbackView) :
    BotLabel → Nat → FeedbackView
  | .update u => Function.update g T.updates.length (.start deps u)
  | .call ev => Pool.advance feedbackRules g ev

/-- What holds at every moment, with `g i` the view of handler `i`. `alone` is what the rule of the
    step gives, `sound` what it is for: between a handler's look at the rows and its `INSERT` they
    are what they were. -/
structure FeedbackInv (deps : BotDeps) (env : Env) (who : Identity) (g : Nat → FeedbackView)
    (T : Tracked) : Prop where
  obeys : T.bot.pool.Obeys feedbackRules g
  length : T.updates.length = T.bot.pool.threads.length
  about : ∀ i u, T.updates[i]? = some u →
    (g i).who = u.identity deps.botId ∧ (g i).request = requestOf deps u
  knows : ∀ i, (g i).Knows T.world.db
  alone : ∀ i j, T.AtWork deps who i → T.AtWork deps who j → i = j
  sound : ∀ i, T.AtWork deps who i →
    (g i).stage.Sound (T.world.db.feedbackOf who) (env.clock T.world.calls)
  hourly : Hourly (T.world.db.feedbackOf who)

section Inv

variable {deps : BotDeps} {env : Env} {who : Identity} {g : Nat → FeedbackView} {T T' : Tracked}
  {l : BotLabel}

/-- The view every handler starts with, before there is one. -/
theorem feedbackInv_start {d : Db} (hrows : Hourly (d.feedbackOf who)) :
    FeedbackInv deps env who (fun _ => .start deps .other) (.start d) where
  obeys i p hi := by cases hi
  length := rfl
  about i u hu := by cases hu
  knows _ := FeedbackView.knows_start _ _
  alone := by
    rintro i j ⟨u, p, hu, _⟩
    cases hu
  sound _ _ := trivial
  hourly := hrows

/-- A handler at work runs for the user. -/
theorem FeedbackInv.who_of_atWork (h : FeedbackInv deps env who g T) {i : Nat}
    (hi : T.AtWork deps who i) : (g i).who = some who := by
  obtain ⟨u, _, hu, ⟨_, _, _, hwho⟩, _⟩ := hi
  rw [(h.about i u hu).1]
  exact hwho

/-- **A row is stored by a handler that was asked to, and has been cleared.** -/
theorem FeedbackInv.inserts (h : FeedbackInv deps env who g T) {j : Nat} {userId : Int}
    {message : String} {k : Except DbError Int → Handler Unit}
    (hj : T.bot.pool.threads[j]? = some (.op (.sql (.insertFeedback userId message)) k)) :
    ∃ u, T.updates[j]? = some u ∧ requestOf deps u = some message ∧
      (g j).stage = .cleared userId := by
  obtain ⟨hrequest, hstage⟩ := (h.obeys j _ hj).1
  have hlt : j < T.updates.length := by
    rw [h.length]
    exact (List.getElem?_eq_some_iff.mp hj).1
  have hu := List.getElem?_eq_getElem hlt
  exact ⟨_, hu, (h.about j _ hu).2.symm.trans hrequest, hstage⟩

/-- **For the user, by a handler at work for the user.** -/
theorem FeedbackInv.atWork_of_inserts (h : FeedbackInv deps env who g T) {j : Nat} {userId : Int}
    {message : String} {k : Except DbError Int → Handler Unit}
    (hj : T.bot.pool.threads[j]? = some (.op (.sql (.insertFeedback userId message)) k))
    (howner : T.world.db.owner userId = some who) : T.AtWork deps who j := by
  obtain ⟨u, hu, hrequest, hstage⟩ := h.inserts hj
  obtain ⟨msg, rfl, hcommand, _⟩ := requestOf_some hrequest
  have hid : (g j).ids userId := (h.knows j).user userId (by rw [hstage]; rfl)
  obtain ⟨who', hwho, howner'⟩ := (h.knows j).ids userId hid
  have hsame : who' = who := Option.some.inj (howner'.symm.trans howner)
  refine ⟨.message msg, _, hu, ⟨msg, rfl, hcommand, ?_⟩, hj, id⟩
  rw [← (h.about j _ hu).1, hwho, hsame]

/-- **The rows stay an hour apart.** -/
theorem FeedbackInv.hourly_perform (h : FeedbackInv deps env who g T) {j : Nat} {o : BotOp}
    {k : o.Res → Handler Unit} (hj : T.bot.pool.threads[j]? = some (.op o k)) :
    Hourly ((World.perform env o T.world).2.db.feedbackOf who) := by
  rcases World.feedbackOf_perform env o T.world who with
    hsame | ⟨userId, message, f, rfl, howner, hat, happend⟩
  · rw [hsame]
    exact h.hourly
  · obtain ⟨_, _, _, hstage⟩ := h.inserts hj
    have hcleared := h.sound j (h.atWork_of_inserts hj howner)
    rw [hstage] at hcleared
    rw [happend]
    exact h.hourly.snoc hat hcleared

/-- Whoever else is at work for the user does not act, so what a stage says stays true. -/
theorem FeedbackInv.sound_other (hclock : env.Forward) (h : FeedbackInv deps env who g T)
    {i j : Nat} {o : BotOp} {k : o.Res → Handler Unit}
    (hj : T.bot.pool.threads[j]? = some (.op o k)) (hi : T.AtWork deps who i) (hij : i ≠ j) :
    (g i).stage.Sound ((World.perform env o T.world).2.db.feedbackOf who)
      (env.clock (World.perform env o T.world).2.calls) := by
  rcases World.feedbackOf_perform env o T.world who with
    hsame | ⟨userId, message, f, rfl, howner, _⟩
  · rw [hsame, World.calls_perform]
    exact (h.sound i hi).later (hclock _ _ (Nat.le_succ _))
  · exact absurd (h.alone i j hi (h.atWork_of_inserts hj howner)) hij

theorem FeedbackInv.update {u : Update} (h : FeedbackInv deps env who g T)
    (hs : Tracked.Step deps env who T (.update u) T') :
    FeedbackInv deps env who (viewsAfter deps T g (.update u)) T' := by
  have hlength := hs.length h.length
  have hwork := fun i => hs.atWork h.length (i := i)
  have hnew : viewsAfter deps T g (.update u) T.updates.length = .start deps u :=
    Function.update_self ..
  have hold : ∀ i, i ≠ T.updates.length → viewsAfter deps T g (.update u) i = g i :=
    fun i hi => Function.update_of_ne hi ..
  have hbefore : ∀ i, T.AtWork deps who i → i ≠ T.updates.length := by
    rintro i ⟨v, _, hv, _⟩
    exact Nat.ne_of_lt (List.getElem?_eq_some_iff.mp hv).1
  cases hs with
  | @update _ B hstep hturn =>
    cases hstep with
    | @update _ handler hfree hbranch =>
      refine ⟨?_, hlength, ?_, ?_, ?_, ?_, h.hourly⟩
      · refine Pool.Obeys.spawn (fun i p hi => ?_) ?_
        · have hlt := (List.getElem?_eq_some_iff.mp hi).1
          rw [hold i (by rw [h.length]; exact Nat.ne_of_lt hlt)]
          exact h.obeys i p hi
        · rw [← h.length, hnew]
          exact obeys_feedbackRules hbranch
      -- the update that was taken up last is its own request; the views of the others are the old
      -- ones
      · intro i v hv
        by_cases hi : i = T.updates.length
        · subst hi
          rw [List.getElem?_concat_length] at hv
          cases hv
          rw [hnew]
          exact ⟨rfl, rfl⟩
        · rw [hold i hi]
          refine h.about i v ?_
          have hlt := (List.getElem?_eq_some_iff.mp hv).1
          rw [List.length_append, List.length_singleton] at hlt
          rwa [List.getElem?_append_left (by omega)] at hv
      · intro i
        by_cases hi : i = T.updates.length
        · rw [hi, hnew]
          exact FeedbackView.knows_start _ _
        · rw [hold i hi]
          exact h.knows i
      · -- nobody was at work when a `/feedback` of the user was taken up
        intro i j hi hj
        rcases hwork i hi with hi | ⟨rfl, v, hv, hfeedback⟩
        · rcases hwork j hj with hj | ⟨_, v, hv, hfeedback⟩
          · exact h.alone i j hi hj
          · cases hv
            exact absurd hi (hturn hfeedback i)
        · rcases hwork j hj with hj | ⟨rfl, _⟩
          · cases hv
            exact absurd hj (hturn hfeedback j)
          · rfl
      · intro i hi
        rcases hwork i hi with hi | ⟨rfl, _⟩
        · rw [hold i (hbefore i hi)]
          exact h.sound i hi
        · rw [hnew]
          trivial

theorem FeedbackInv.call {ev : Event botSig} (hclock : env.Forward)
    (h : FeedbackInv deps env who g T) (hs : Tracked.Step deps env who T (.call ev) T') :
    FeedbackInv deps env who (viewsAfter deps T g (.call ev)) T' := by
  have hlength := hs.length h.length
  have hwork : ∀ i, T'.AtWork deps who i → T.AtWork deps who i := by
    intro i hi
    rcases hs.atWork h.length hi with hi | ⟨_, _, hv, _⟩
    · exact hi
    · cases hv
  cases hs with
  | @call _ B hstep =>
    cases hstep with
    | @call _ P hcall =>
      obtain ⟨hallow, hobeys⟩ := Pool.obeys_step h.obeys hcall
      cases hcall with
      | @mk j o k hj =>
        have hself : viewsAfter deps T g (.call ⟨j, o, (World.perform env o T.world).1⟩) j
            = feedbackRules.next (g j) o (World.perform env o T.world).1 := if_pos rfl
        have hother : ∀ i, i ≠ j → viewsAfter deps T g
            (.call ⟨j, o, (World.perform env o T.world).1⟩) i = g i :=
          fun i hi => Pool.advance_ne hi
        -- only the view of the thread that made the call moves on
        refine ⟨hobeys, hlength, ?_, ?_, ?_, ?_, ?_⟩
        · intro i v hv
          by_cases hi : i = j
          · subst hi
            obtain ⟨hwho, hrequest⟩ :=
              FeedbackView.next_about (g i) o (World.perform env o T.world).1
            rw [hself, hwho, hrequest]
            exact h.about i v hv
          · rw [hother i hi]
            exact h.about i v hv
        · intro i
          by_cases hi : i = j
          · subst hi
            rw [hself]
            exact (h.knows i).perform hallow
          · rw [hother i hi]
            exact (h.knows i).mono fun _ _ => World.owner_perform env o
        · exact fun i i' hi hi' => h.alone i i' (hwork i hi) (hwork i' hi')
        · intro i hi
          have hwas := hwork i hi
          by_cases hij : i = j
          · subst hij
            rw [hself]
            exact FeedbackView.sound_perform hclock (h.knows i) (h.who_of_atWork hwas) hallow
              (h.sound i hwas)
          · rw [hother i hij]
            exact h.sound_other hclock hj hwas hij
        · exact h.hourly_perform hj

/-- **One step.** -/
theorem FeedbackInv.step (hclock : env.Forward) (h : FeedbackInv deps env who g T)
    (hs : Tracked.Step deps env who T l T') :
    FeedbackInv deps env who (viewsAfter deps T g l) T' := by
  cases l with
  | update u => exact h.update hs
  | call ev => exact h.call hclock hs

/-- What holds at one moment holds at every later one. -/
theorem FeedbackInv.steps (hclock : env.Forward) {ls : List BotLabel}
    (h : ∃ g, FeedbackInv deps env who g T)
    (hrun : Steps (Tracked.Step deps env who) T ls T') : ∃ g, FeedbackInv deps env who g T' := by
  refine hrun.inv (I := fun T => ∃ g, FeedbackInv deps env who g T) h ?_
  rintro T l T' ⟨g, hg⟩ hs
  exact ⟨_, hg.step hclock hs⟩

end Inv

end PolyNotifier
