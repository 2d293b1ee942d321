import PolyNotifier.Bot.FeedbackRuns

/-!
# One feedback an hour

`FeedbackPending` follows the handler of one `/feedback` to its end: while others take their steps
the rows of the user stay as they are, so what the handler reads is what was there when it began.
If an hour has passed when it looks at the clock, it stores the text.

It does so for a text of at most 1000 bytes. The bot speaks of characters.
-/

namespace PolyNotifier

open Lib (Event Pool Prog Steps stripPrefix)
open Lib.Prog (Ends)

/-! ## One message -/

/-- Handler `i` has stored the text, and the row is one of the user's. -/
def FeedbackStored (who : Identity) (i : Nat) (message : String) (ls : List BotLabel) (d : Db) :
    Prop :=
  ∃ userId id, BotLabel.call ⟨i, .sql (.insertFeedback userId message), .ok id⟩ ∈ ls ∧
    ∃ f ∈ d.feedbackOf who, f.id = id ∧ f.message = message

/-- A `/feedback` of the user is taken up, its statements are executed, and its handler comes to
    its end. In between there may be any steps of any other handlers. -/
structure FeedbackTurn (deps : BotDeps) (env : Env) (who : Identity) (T : Tracked) (msg : Message)
    (ls : List BotLabel) (T' : Tracked) : Prop where
  feedback : IsFeedbackOf deps who (.message msg)
  run : Steps (Tracked.Step deps env who) T (.update (.message msg) :: ls) T'
  answered : ∀ ev, .call ev ∈ ls → ev.thread = T.updates.length → Answered ev.op ev.res
  done : ∀ p, T'.bot.pool.threads[T.updates.length]? = some p → p.Done

/-- When the handler looks at the clock, the rows of the user are an hour old. There may be
    none. -/
def HourPassed (who : Identity) (T : Tracked) (ls : List BotLabel) : Prop :=
  ∀ now, BotLabel.call ⟨T.updates.length, .now, now⟩ ∈ ls →
    ∀ f ∈ T.world.db.feedbackOf who, Duration.hours 1 ≤ now - f.createdAt

section Message

variable {deps : BotDeps} {env : Env} {who : Identity} {g : Nat → FeedbackView} {T T' : Tracked}
  {l : BotLabel} {ls : List BotLabel}

theorem Tracked.Step.stays (hs : Tracked.Step deps env who T l T') {f : Feedback}
    (hf : f ∈ T.world.db.feedbackOf who) : f ∈ T'.world.db.feedbackOf who := by
  rcases hs.world with ⟨u, _, hsame⟩ | ⟨j, o, k, _, _, hworld⟩
  · rwa [hsame]
  · rw [hworld]
    rcases World.feedbackOf_perform env o T.world who with hsame | ⟨_, _, _, _, _, _, happend⟩
    · rwa [hsame]
    · rw [happend]
      exact List.mem_append_left _ hf

theorem Tracked.Step.calls (hs : Tracked.Step deps env who T l T') :
    T.world.calls ≤ T'.world.calls := by
  rcases hs.world with ⟨u, _, hsame⟩ | ⟨j, o, k, _, _, hworld⟩
  · rw [hsame]
  · rw [hworld, World.calls_perform]
    exact Nat.le_succ _

/-- **An hour that has passed when the update is taken up has passed.** -/
theorem hourPassed_of_old (hclock : env.Forward) {msg : Message}
    (hrun : Steps (Tracked.Step deps env who) T (.update (.message msg) :: ls) T')
    (hold : ∀ f ∈ T.world.db.feedbackOf who,
      Duration.hours 1 ≤ env.clock T.world.calls - f.createdAt) : HourPassed who T ls := by
  intro now hnow f hf
  obtain ⟨before, after, hsplit⟩ := List.append_of_mem
    (List.mem_cons_of_mem (BotLabel.update (.message msg)) hnow)
  rw [hsplit] at hrun
  obtain ⟨T₁, T₂, hbefore, hs, _⟩ := hrun.split_at
  have hle : T.world.calls ≤ T₁.world.calls := by
    refine hbefore.inv (I := fun T₁ => T.world.calls ≤ T₁.world.calls) (Nat.le_refl _) ?_
    exact fun _ _ _ h hs => Nat.le_trans h hs.calls
  have hat : now = env.clock T₁.world.calls := by
    rcases hs.world with ⟨u, hl, _⟩ | ⟨j, o, k, _, hl, _⟩
    · cases hl
    · cases hl
      rfl
  rw [hat]
  exact hour_le_later (hold f hf) (hclock _ _ hle) (Int.le_refl _)

/-- **Nothing is stored that was not asked for.** -/
theorem requested_of_stored (hclock : env.Forward)
    (h : ∃ g, FeedbackInv deps env who g T)
    (hrun : Steps (Tracked.Step deps env who) T ls T') {i : Nat} {userId : Int} {message : String}
    {r : Except DbError Int}
    (hstored : BotLabel.call ⟨i, .sql (.insertFeedback userId message), r⟩ ∈ ls) :
    ∃ u, T'.updates[i]? = some u ∧ requestOf deps u = some message := by
  obtain ⟨before, after, rfl⟩ := List.append_of_mem hstored
  obtain ⟨T₁, T₂, hbefore, hs, hafter⟩ := hrun.split_at
  obtain ⟨g, hg⟩ := FeedbackInv.steps hclock h hbefore
  have hnext : ∃ k, T₁.bot.pool.threads[i]?
      = some (.op (.sql (.insertFeedback userId message)) k) := by
    rcases hs.world with ⟨u, hl, _⟩ | ⟨j, o, k, hj, hl, _⟩
    · cases hl
    · cases hl
      exact ⟨k, hj⟩
  obtain ⟨k, hj⟩ := hnext
  obtain ⟨u, hu, hrequest, _⟩ := hg.inserts hj
  refine ⟨u, ?_, hrequest⟩
  refine hafter.inv (I := fun T => T.updates[i]? = some u) (hs.updates hu) ?_
  exact fun _ _ _ h hs => hs.updates h

end Message

/-- A handler on its way, for an update that asks for `message` and with the rows of the user there
    were before. The rows are those of before until the handler itself has stored: that nobody else
    stores for the user meanwhile is what the invariant is for. -/
structure FeedbackPending (deps : BotDeps) (env : Env) (who : Identity) (i : Nat) (u : Update)
    (message : String) (before : List Feedback) (ls : List BotLabel) (g : Nat → FeedbackView)
    (T : Tracked) : Prop where
  inv : FeedbackInv deps env who g T
  update : T.updates[i]? = some u
  ends : ∀ p, T.bot.pool.threads[i]? = some p →
    Ends (fun _ _ => True) feedbackRules FeedbackView.Settled (g i) p fun v _ => v.Settled
  unfailed : (g i).failed = false
  unheld : (g i).stage ≠ .held
  rows : (∀ id, (g i).stage ≠ .stored id) → T.world.db.feedbackOf who = before
  stored : ∀ id, (g i).stage = .stored id → FeedbackStored who i message ls T.world.db

section Pending

variable {deps : BotDeps} {env : Env} {who : Identity} {i : Nat} {u : Update} {message : String}
  {before : List Feedback} {ls : List BotLabel} {g : Nat → FeedbackView} {T T' : Tracked}
  {l : BotLabel}

theorem FeedbackStored.mono (h : FeedbackStored who i message ls T.world.db)
    (hs : Tracked.Step deps env who T l T') :
    FeedbackStored who i message (ls ++ [l]) T'.world.db := by
  obtain ⟨userId, id, hev, f, hf, hrow⟩ := h
  exact ⟨userId, id, List.mem_append_left _ hev, f, hs.stays hf, hrow⟩

theorem FeedbackPending.who_eq (h : FeedbackPending deps env who i u message before ls g T)
    (hu : IsFeedbackOf deps who u) : (g i).who = some who := by
  obtain ⟨_, _, _, hidentity⟩ := hu
  rw [(h.inv.about i u h.update).1]
  exact hidentity

/-- **At its end the handler has stored the text.** -/
theorem FeedbackPending.over (h : FeedbackPending deps env who i u message before ls g T)
    (hu : IsFeedbackOf deps who u) (hrequest : requestOf deps u = some message)
    (hdone : ∀ p, T.bot.pool.threads[i]? = some p → p.Done) :
    ∃ id, (g i).stage = .stored id := by
  have hlt : i < T.bot.pool.threads.length := by
    rw [← h.inv.length]
    exact (List.getElem?_eq_some_iff.mp h.update).1
  have hp := List.getElem?_eq_getElem hlt
  have hsettled : (g i).Settled := by
    have hends := h.ends _ hp
    have hover := hdone _ hp
    cases hprog : T.bot.pool.threads[i] with
    | ret a =>
      rw [hprog] at hends
      exact hends
    | fail e =>
      rw [hprog] at hends
      exact hends
    | op o k =>
      rw [hprog] at hover
      exact hover.elim
  have hask : (g i).request = some message := (h.inv.about i u h.update).2.trans hrequest
  rcases hsettled (by rw [hask]; rfl) (by rw [h.who_eq hu]; rfl) with
    hfailed | hheld | hstored
  · rw [h.unfailed] at hfailed
    cases hfailed
  · exact absurd hheld h.unheld
  · exact hstored

/-- As long as nothing is stored, the handler is at work. -/
theorem FeedbackPending.atWork (h : FeedbackPending deps env who i u message before ls g T)
    (hu : IsFeedbackOf deps who u) (hrequest : requestOf deps u = some message)
    (hnot : ∀ id, (g i).stage ≠ .stored id) : T.AtWork deps who i := by
  by_contra hidle
  obtain ⟨id, hstored⟩ := h.over hu hrequest fun p hp => by
    by_contra hlive
    exact hidle ⟨u, p, h.update, hu, hp, hlive⟩
  exact hnot id hstored

/-- Another handler's step, or a new update. -/
theorem FeedbackPending.wait (hclock : env.Forward) (hu : IsFeedbackOf deps who u)
    (hrequest : requestOf deps u = some message)
    (h : FeedbackPending deps env who i u message before ls g T)
    (hs : Tracked.Step deps env who T l T') (hother : ∀ ev, l = .call ev → ev.thread ≠ i) :
    FeedbackPending deps env who i u message before (ls ++ [l]) (viewsAfter deps T g l) T' := by
  have hinv := h.inv.step hclock hs
  have hlt : i < T.updates.length := (List.getElem?_eq_some_iff.mp h.update).1
  -- nobody else moves the view of this handler
  have hview : viewsAfter deps T g l i = g i := by
    cases l with
    | update v => exact Function.update_of_ne (Nat.ne_of_lt hlt) ..
    | call ev => exact Pool.advance_ne (Ne.symm (hother ev rfl))
  refine ⟨hinv, hs.updates h.update, ?_, ?_, ?_, ?_, ?_⟩
  · intro p hp
    rw [hview]
    refine h.ends p ?_
    cases hs with
    | update hstep =>
      cases hstep with
      | update =>
        rcases Pool.getElem?_spawn hp with hp | ⟨hnew, _⟩
        · exact hp
        · rw [hnew, h.inv.length] at hlt
          exact absurd hlt (Nat.lt_irrefl _)
    | @call ev _ hstep =>
      cases hstep with
      | call hcall =>
        rcases hcall.threads hp with ⟨_, hp⟩ | ⟨hself, _⟩
        · exact hp
        · exact absurd hself.symm (hother ev rfl)
  · rw [hview]
    exact h.unfailed
  · rw [hview]
    exact h.unheld
  · intro hnot
    rw [hview] at hnot
    rw [← h.rows hnot]
    rcases hs.world with ⟨v, _, hsame⟩ | ⟨j, o, k, hj, hl, hworld⟩
    · rw [hsame]
    · -- whoever stores for the user is at work for the user, as this handler is
      rw [hworld]
      rcases World.feedbackOf_perform env o T.world who with
        hsame | ⟨userId, message', f, rfl, howner, _⟩
      · exact hsame
      · have halone := h.inv.alone j i (h.inv.atWork_of_inserts hj howner)
          (h.atWork hu hrequest hnot)
        exact absurd halone (hother _ hl)
  · intro id hid
    rw [hview] at hid
    exact (h.stored id hid).mono hs

section Own

variable {o : BotOp}

/-- **Nobody waits when the hour has passed**: the time that was read is that of a row the user
    had before. -/
theorem FeedbackPending.unheld_next (h : FeedbackPending deps env who i u message before ls g T)
    (hu : IsFeedbackOf deps who u) (hrequest : requestOf deps u = some message)
    (hallow : feedbackRules.allows (g i) o)
    (hhour : o = .now → ∀ f ∈ before,
      Duration.hours 1 ≤ env.clock T.world.calls - f.createdAt) :
    (feedbackRules.next (g i) o (World.perform env o T.world).1).stage ≠ .held := by
  intro hheld
  obtain ⟨hnow, userId, last, hread, hwait⟩ := FeedbackView.held_perform hallow hheld h.unheld
  have hnot : ∀ id, (g i).stage ≠ .stored id := by
    intro id hid
    rw [hread] at hid
    cases hid
  have hsound := h.inv.sound i (h.atWork hu hrequest hnot)
  rw [hread, h.rows hnot] at hsound
  obtain ⟨⟨f, hf, rfl⟩, _⟩ := hsound
  exact hwait (feedbackWait_eq_none.mpr (hhour hnow f hf))

/-- The rows are as before until the handler has stored. -/
theorem FeedbackPending.rows_next (h : FeedbackPending deps env who i u message before ls g T)
    (hallow : feedbackRules.allows (g i) o) (hanswered : Answered o (World.perform env o T.world).1)
    (hnot : ∀ id,
      (feedbackRules.next (g i) o (World.perform env o T.world).1).stage ≠ .stored id) :
    (World.perform env o T.world).2.db.feedbackOf who = before := by
  have hbefore : ∀ id, (g i).stage ≠ .stored id :=
    fun id hid => hnot id (FeedbackView.stored_stays hid hallow)
  rw [← h.rows hbefore]
  rcases World.feedbackOf_perform env o T.world who with hsame | ⟨userId, message', f, rfl, _⟩
  · exact hsame
  · obtain ⟨id, hid⟩ := hanswered
    rw [hid] at hnot
    exact absurd rfl (hnot id)

/-- **What it stores is what it was asked to store, for the user.** -/
theorem FeedbackPending.stored_next (h : FeedbackPending deps env who i u message before ls g T)
    (hu : IsFeedbackOf deps who u) (hrequest : requestOf deps u = some message)
    (hallow : feedbackRules.allows (g i) o) {id : Int} (hnot : (g i).stage ≠ .stored id)
    (hid : (feedbackRules.next (g i) o (World.perform env o T.world).1).stage = .stored id) :
    FeedbackStored who i message [.call ⟨i, o, (World.perform env o T.world).1⟩]
      (World.perform env o T.world).2.db := by
  rcases FeedbackView.stored_perform hallow hid with hold | ⟨userId, message', rfl, hres⟩
  · exact absurd hold hnot
  · obtain ⟨hask, hcleared⟩ := hallow
    have hknown : (g i).ids userId := (h.inv.knows i).user userId (by rw [hcleared]; rfl)
    obtain ⟨who', hwho', howner⟩ := (h.inv.knows i).ids userId hknown
    rw [← Option.some.inj ((h.who_eq hu).symm.trans hwho')] at howner
    have hsame : message' = message := by
      rw [(h.inv.about i u h.update).2, hrequest] at hask
      exact (Option.some.inj hask).symm
    rw [← hsame]
    refine ⟨userId, id, ?_, FeedbackView.row_of_perform hres howner⟩
    rw [hres]
    exact List.mem_singleton.mpr rfl

end Own

/-- The handler's own step. -/
theorem FeedbackPending.act (hclock : env.Forward) (hu : IsFeedbackOf deps who u)
    (hrequest : requestOf deps u = some message)
    (h : FeedbackPending deps env who i u message before ls g T) {ev : Event botSig}
    (hs : Tracked.Step deps env who T (.call ev) T') (hself : ev.thread = i)
    (hanswered : Answered ev.op ev.res)
    (hhour : ∀ now, ev = ⟨i, .now, now⟩ → ∀ f ∈ before, Duration.hours 1 ≤ now - f.createdAt) :
    FeedbackPending deps env who i u message before (ls ++ [.call ev])
      (viewsAfter deps T g (.call ev)) T' := by
  have hinv := h.inv.step hclock hs
  have hupdate := hs.updates h.update
  have hkept := fun (hold : FeedbackStored who i message ls T.world.db) => hold.mono hs
  cases hs with
  | call hstep =>
    cases hstep with
    | @call _ P hcall =>
      have hthreads := fun {j p} => hcall.threads (i := j) (p := p)
      cases hcall with
      | @mk j o k hj =>
        obtain rfl : j = i := hself
        have hview : viewsAfter deps T g (.call ⟨j, o, (World.perform env o T.world).1⟩) j
            = feedbackRules.next (g j) o (World.perform env o T.world).1 := if_pos rfl
        have hallow := (h.inv.obeys j _ hj).1
        -- each clause is what the view says of the stage after this call
        refine ⟨hinv, hupdate, ?_, ?_, ?_, ?_, ?_⟩
        · intro p hp
          rcases hthreads hp with ⟨hne, _⟩ | ⟨_, k', hold, rfl⟩
          · exact absurd rfl hne
          · rw [hview]
            have hends := h.ends _ hold
            exact hends.2 _ trivial
        · rw [hview, FeedbackView.next_unfailed _ hanswered]
          exact h.unfailed
        · rw [hview]
          refine h.unheld_next hu hrequest hallow fun hnow => ?_
          subst hnow
          exact hhour _ rfl
        · intro hnot
          rw [hview] at hnot
          exact h.rows_next hallow hanswered hnot
        · intro id hid
          rw [hview] at hid
          by_cases hold : (g j).stage = .stored id
          · exact hkept (h.stored id hold)
          · obtain ⟨userId, id', hev, hrow⟩ := h.stored_next hu hrequest hallow hold hid
            exact ⟨userId, id', List.mem_append_right _ hev, hrow⟩

/-- **To its end.** -/
theorem FeedbackPending.steps (hclock : env.Forward) (hu : IsFeedbackOf deps who u)
    (hrequest : requestOf deps u = some message)
    (h : ∃ g, FeedbackPending deps env who i u message before [] g T)
    (hrun : Steps (Tracked.Step deps env who) T ls T')
    (hanswered : ∀ ev, .call ev ∈ ls → ev.thread = i → Answered ev.op ev.res)
    (hhour : ∀ now, BotLabel.call ⟨i, .now, now⟩ ∈ ls →
      ∀ f ∈ before, Duration.hours 1 ≤ now - f.createdAt) :
    ∃ g, FeedbackPending deps env who i u message before ls g T' := by
  induction hrun with
  | nil => exact h
  | @snoc ls l T₁ T₂ _ hs ih =>
    obtain ⟨g, hg⟩ := ih (fun ev hev => hanswered ev (List.mem_append_left _ hev))
      fun now hnow => hhour now (List.mem_append_left _ hnow)
    have hlast : l ∈ ls ++ [l] := List.mem_append_right _ (List.mem_singleton.mpr rfl)
    by_cases hself : ∃ ev, l = .call ev ∧ ev.thread = i
    · obtain ⟨ev, rfl, hthread⟩ := hself
      refine ⟨_, hg.act hclock hu hrequest hs hthread (hanswered ev hlast hthread) ?_⟩
      rintro now rfl
      exact hhour now hlast
    · exact ⟨_, hg.wait hclock hu hrequest hs fun ev hev hthread => hself ⟨ev, hev, hthread⟩⟩

end Pending

/-! ## The limit -/

section Limit

variable {deps : BotDeps} {env : Env} {who : Identity} {d : Db} {ls : List BotLabel} {T : Tracked}

/-- The handler of a `/feedback` that has just been taken up. -/
theorem feedbackPending_start (hclock : env.Forward) {u : Update} {message : String}
    (hu : IsFeedbackOf deps who u) {T' : Tracked}
    (h : ∃ g, FeedbackInv deps env who g T) (hs : Tracked.Step deps env who T (.update u) T') :
    ∃ g, FeedbackPending deps env who T.updates.length u message (T.world.db.feedbackOf who) []
      g T' := by
  obtain ⟨g, hg⟩ := h
  have hinv := hg.step hclock hs
  have hview : viewsAfter deps T g (.update u) T.updates.length = .start deps u :=
    Function.update_self ..
  obtain ⟨msg, rfl, hcommand, _⟩ := hu
  cases hs with
  | update hstep =>
    cases hstep with
    | @update _ handler hfree hbranch =>
      refine ⟨_, hinv, List.getElem?_concat_length, ?_, ?_, ?_, fun _ => rfl, ?_⟩
      · intro p hp
        rcases Pool.getElem?_spawn hp with hold | ⟨_, rfl⟩
        · have hlt := (List.getElem?_eq_some_iff.mp hold).1
          rw [hg.length] at hlt
          exact absurd hlt (Nat.lt_irrefl _)
        · rw [hview]
          rw [schema_command hcommand] at hbranch
          cases hbranch
          exact ends_feedback deps msg hcommand
      · rw [hview]
        rfl
      · rw [hview]
        intro hheld
        cases hheld
      · rw [hview]
        intro id hid
        cases hid

/-- **The rows of a user are an hour apart, and what may be stored is stored, as far as its length
    in bytes allows.** The first half holds of every run. The second is about a `/feedback` that is
    handled to its end, an hour after the last, with a body the user was told is short enough: it
    is stored if and only if it has no more than a thousand bytes. -/
theorem feedback_limit_iff (hclock : env.Forward) (hrows : Hourly (d.feedbackOf who))
    (hrun : Steps (Tracked.Step deps env who) (.start d) ls T) :
    Hourly (T.world.db.feedbackOf who) ∧
      ∀ msg ls' T', FeedbackTurn deps env who T msg ls' T' → HourPassed who T ls' →
        feedbackBody msg ≠ "" → (feedbackBody msg).length ≤ 1000 →
        (FeedbackStored who T.updates.length (feedbackBody msg) ls' T'.world.db ↔
          (feedbackBody msg).utf8ByteSize ≤ 1000) := by
  have hinv := FeedbackInv.steps hclock ⟨_, feedbackInv_start hrows⟩ hrun
  refine ⟨hinv.elim fun g hg => hg.hourly, ?_⟩
  intro msg ls' T' hturn hhour hne _
  obtain ⟨T₁, hs, hrest⟩ := hturn.run.cons_inv
  constructor
  · rintro ⟨userId, id, hev, _⟩
    obtain ⟨u, hu, hrequest⟩ := requested_of_stored hclock hinv hturn.run
      (List.mem_cons_of_mem _ hev)
    obtain ⟨_, _, _, _, hshort⟩ := requestOf_some hrequest
    exact hshort
  · intro hshort
    obtain ⟨msg', hmsg, hcommand, _⟩ := hturn.feedback
    cases hmsg
    have hrequest : requestOf deps (.message msg) = some (feedbackBody msg) :=
      if_pos ⟨hcommand, hne, hshort⟩
    obtain ⟨g, hg⟩ := FeedbackPending.steps hclock hturn.feedback hrequest
      (feedbackPending_start hclock hturn.feedback hinv hs) hrest hturn.answered hhour
    obtain ⟨id, hid⟩ := hg.over hturn.feedback hrequest hturn.done
    exact hg.stored id hid

end Limit

/-! ## Bytes and characters -/

section Example

def feedbackDeps : BotDeps :=
  ⟨Crates.reference, "bot", fun text => (stripPrefix "/feedback" text).map fun _ => .feedback, ""⟩

/-- An hour goes by between two calls. -/
def hourlyCalls : Env :=
  ⟨fun _ => true, fun _ => true, fun n => n * Duration.hours 1, fun _ _ => none, fun _ _ => none⟩

/-- A `/feedback` of user 7 in chat 70. -/
def feedbackOf7 (body : String) : Message :=
  ⟨70, some ⟨7, none, "Ann"⟩, some ("/feedback" ++ body), none⟩

theorem forward_hourlyCalls : hourlyCalls.Forward := by
  intro m n hle
  have hhours : ∀ k l : Nat, k ≤ l → (k : Int) * (1 * 3600 * 1000000000)
      ≤ l * (1 * 3600 * 1000000000) := by omega
  exact hhours m n hle

theorem isFeedbackOf_feedbackOf7 (body : String) :
    IsFeedbackOf feedbackDeps (7, "bot") (.message (feedbackOf7 body)) := by
  refine ⟨feedbackOf7 body, rfl, ?_, rfl⟩
  show (stripPrefix "/feedback" ("/feedback" ++ body)).map (fun _ => Command.feedback) = _
  rw [Lib.stripPrefix_append]
  rfl

/-- The user writes once, and the handler makes its six calls. -/
def firstFeedback : List (Update ⊕ Nat) :=
  .inl (.message (feedbackOf7 " Good")) :: List.replicate 6 (.inr 0)

def secondCalls : List (Update ⊕ Nat) := List.replicate 5 (.inr 1)

theorem second_feedback_stored :
    ∃ ls T ls' T', Steps (Tracked.Step feedbackDeps hourlyCalls (7, "bot")) (.start .empty) ls T ∧
      (T.world.db.feedbackOf (7, "bot")).length = 1 ∧
      FeedbackTurn feedbackDeps hourlyCalls (7, "bot") T (feedbackOf7 " Good") ls' T' ∧
      FeedbackStored (7, "bot") T.updates.length (feedbackBody (feedbackOf7 " Good")) ls'
        T'.world.db := by
  -- the two feedbacks are played once, and what is asked of the runs is read off the end states
  have hplay : ((Bot.play feedbackDeps hourlyCalls firstFeedback (.start .empty)).bind fun r =>
      (Bot.move feedbackDeps hourlyCalls r.2 (.inl (.message (feedbackOf7 " Good")))).bind fun t =>
        (Bot.play feedbackDeps hourlyCalls secondCalls t.2).map fun r' =>
          ((r.2.pool.state.db.feedbackOf (7, "bot")).length,
            (r.2.pool.state.db.feedbackOf (7, "bot")).all fun f =>
              Duration.hours 1 ≤ hourlyCalls.clock r.2.pool.state.calls - f.createdAt,
            (r'.1.filterMap BotLabel.event).all fun ev => decide (Answered ev.op ev.res),
            r'.2.pool.threads.all fun p => decide p.Done)) = some (1, true, true, true) := by
    decide +kernel
  obtain ⟨⟨ls, B⟩, hfirst, hrest⟩ := Option.bind_eq_some_iff.mp hplay
  obtain ⟨⟨l, B₁⟩, hmove, hrest⟩ := Option.bind_eq_some_iff.mp hrest
  obtain ⟨⟨ls', B'⟩, hsecond, hfacts⟩ := Option.map_eq_some_iff.mp hrest
  simp only [Prod.mk.injEq, List.all_eq_true, decide_eq_true_eq] at hfacts
  obtain ⟨hcount, hold, hanswered, hdone⟩ := hfacts
  obtain rfl := Bot.move_update hmove
  have hchat : ∀ u, .inl u ∈ firstFeedback → ∀ dialogues,
      Tracked.FromChat feedbackDeps (7, "bot") 70 dialogues u := by
    intro u hu _ _
    have hmessage : u = .message (feedbackOf7 " Good") := by simpa [firstFeedback] using hu
    rw [hmessage]
    rfl
  have hnone : ∀ u, .inl u ∈ secondCalls → ∀ dialogues,
      Tracked.FromChat feedbackDeps (7, "bot") 70 dialogues u := by
    intro u hu
    cases List.eq_of_mem_replicate hu
  have hone : (Tracked.start .empty).OneChat feedbackDeps (7, "bot") 70 :=
    Tracked.oneChat_start 70 .empty
  obtain ⟨updates, hrun, hone⟩ := hone.steps (Bot.play_steps hchat hfirst)
  have htaken : Bot.Guarded (Tracked.FromChat feedbackDeps (7, "bot") 70) feedbackDeps hourlyCalls
      B (.update (.message (feedbackOf7 " Good"))) B₁ :=
    ⟨(Bot.move_step hmove).1, fun u hu => by cases hu; exact fun _ => rfl⟩
  obtain ⟨updates', hrun', _⟩ := hone.steps (.cons htaken (Bot.play_steps hnone hsecond))
  have hturn : FeedbackTurn feedbackDeps hourlyCalls (7, "bot") ⟨B, updates⟩
      (feedbackOf7 " Good") ls' ⟨B', updates'⟩ :=
    ⟨isFeedbackOf_feedbackOf7 _, hrun',
      fun ev hev _ => hanswered ev (List.mem_filterMap.mpr ⟨_, hev, rfl⟩),
      fun p hp => hdone p (List.mem_of_getElem? hp)⟩
  have hhour := hourPassed_of_old forward_hourlyCalls hrun' hold
  have hrows : Hourly (Db.empty.feedbackOf (7, "bot")) := hourly_nil
  obtain ⟨_, hstored⟩ := feedback_limit_iff forward_hourlyCalls hrows hrun
  exact ⟨ls, _, ls', _, hrun, hcount, hturn,
    (hstored _ _ _ hturn hhour (by decide +kernel) (by decide +kernel)).mpr (by decide +kernel)⟩

/-! ### Characters of two bytes -/

def accents (n : Nat) : String := String.ofList (List.replicate n 'é')

theorem length_accents (n : Nat) : (accents n).length = n := by
  rw [accents, String.length_ofList, List.length_replicate]

theorem utf8ByteSize_accents (n : Nat) : (accents n).utf8ByteSize = n * 2 := by
  rw [accents, Lib.utf8ByteSize_ofList, List.map_replicate, List.sum_replicate_nat]
  rfl

theorem feedbackBody_accents (n : Nat) :
    feedbackBody (feedbackOf7 (" " ++ accents n)) = accents n := by
  have hspace : " ".toList = [' '] := rfl
  have hedge : ¬ Lib.isWhitespace 'é' = true := by decide
  show ((stripPrefix "/feedback" ("/feedback" ++ (" " ++ accents n))).map Lib.trim).getD "" = _
  rw [Lib.stripPrefix_append]
  show Lib.trim (" " ++ accents n) = accents n
  rw [Lib.trim, String.toList_append, hspace, accents, String.toList_ofList, List.singleton_append,
    List.dropWhile_cons_of_pos (by decide), List.dropWhile_replicate, if_neg hedge,
    List.reverse_replicate, List.dropWhile_replicate, if_neg hedge, List.reverse_replicate]

/-- The only call of a handler that finds the text too long. -/
def tooLong : Event botSig :=
  ⟨0, .sendMessage 70 "Feedback is too long. Please keep it under 1000 characters." none, true⟩

theorem turn_of_long {body : String} (hne : feedbackBody (feedbackOf7 body) ≠ "")
    (hlong : 1000 < (feedbackBody (feedbackOf7 body)).utf8ByteSize) :
    ∃ T', FeedbackTurn feedbackDeps hourlyCalls (7, "bot") (.start .empty) (feedbackOf7 body)
      [.call tooLong] T' := by
  let handler := reply 70 "Feedback is too long. Please keep it under 1000 characters."
  have hhandler : feedback feedbackDeps (feedbackOf7 body) = handler := by
    show (if feedbackBody (feedbackOf7 body) = "" then _
      else if 1000 < (feedbackBody (feedbackOf7 body)).utf8ByteSize then _ else _) = _
    rw [if_neg hne, if_pos hlong]
    rfl
  have hfeedback := isFeedbackOf_feedbackOf7 body
  obtain ⟨msg, hmsg, hcommand, _⟩ := isFeedbackOf_feedbackOf7 body
  cases hmsg
  have hbranch : schema feedbackDeps (fun _ => .idle) (.message (feedbackOf7 body))
      = some handler :=
    (schema_command hcommand).trans (congrArg some hhandler)
  let B : Bot := ⟨[some 70], (Bot.start .empty).pool.spawn handler⟩
  have htaken : Tracked.Step feedbackDeps hourlyCalls (7, "bot") (.start .empty)
      (.update (.message (feedbackOf7 body))) ⟨B, [.message (feedbackOf7 body)]⟩ := by
    refine .update (.update (fun _ _ _ h => by cases h) hbranch) ?_
    rintro _ i ⟨u, _, hu, _⟩
    cases hu
  let P : Pool botSig BotError Unit World :=
    ⟨[.ret ()], (World.perform hourlyCalls tooLong.op B.pool.state).2⟩
  have hsent : Pool.stepAt (World.perform hourlyCalls) 0 B.pool = some (tooLong, P) := rfl
  refine ⟨⟨⟨B.chats, P⟩, _⟩, hfeedback,
    .cons htaken (.cons (.call (.call (Pool.stepAt_step hsent))) .nil), ?_, ?_⟩
  · intro ev hev _
    cases List.mem_singleton.mp hev
    trivial
  · intro p hp
    rw [List.mem_singleton.mp (List.mem_of_getElem? hp)]
    trivial

/-- What the texts of the bot promise: an hour between two rows, and a `/feedback` of at most 1000
    characters is stored when its time has come. -/
def FeedbackLimited (deps : BotDeps) (env : Env) (who : Identity) (d : Db) : Prop :=
  ∀ ls T, Steps (Tracked.Step deps env who) (.start d) ls T →
    Hourly (T.world.db.feedbackOf who) ∧
      ∀ msg ls' T', FeedbackTurn deps env who T msg ls' T' → HourPassed who T ls' →
        feedbackBody msg ≠ "" → (feedbackBody msg).length ≤ 1000 →
        FeedbackStored who T.updates.length (feedbackBody msg) ls' T'.world.db

/-- **501 characters are too long**, if each of them takes two bytes. -/
theorem feedback_counts_bytes :
    ¬ FeedbackLimited feedbackDeps hourlyCalls (7, "bot") .empty := by
  intro hlimited
  generalize hn : 501 = n
  have hbody := feedbackBody_accents n
  have hlength := length_accents n
  have hbytes := utf8ByteSize_accents n
  rw [← hbody] at hlength hbytes
  have hne : feedbackBody (feedbackOf7 (" " ++ accents n)) ≠ "" := by
    intro h
    rw [h, ← hn] at hlength
    cases hlength
  obtain ⟨T', hturn⟩ := turn_of_long hne (by omega)
  have hhour : HourPassed (7, "bot") (.start .empty) [.call tooLong] := by
    intro now hnow
    have hop : BotOp.now = tooLong.op :=
      congrArg Event.op (BotLabel.call.inj (List.mem_singleton.mp hnow))
    cases hop
  obtain ⟨_, hdue⟩ := hlimited [] (.start .empty) .nil
  obtain ⟨userId, id, hstored, _⟩ := hdue _ _ _ hturn hhour hne (by omega)
  have hop : BotOp.sql (.insertFeedback userId _) = tooLong.op :=
    congrArg Event.op (BotLabel.call.inj (List.mem_singleton.mp hstored))
  cases hop

end Example

end PolyNotifier
