import PolyNotifier.Bot.Handlers

/-!
# The dispatcher

Updates come in at any time. The dispatcher takes the updates of one chat one after another and
those of different chats at the same time, so a run is any interleaving of the calls of the
handlers that are under way, with one rule: a handler of a chat is started when the earlier ones
of that chat have come to their end. It starts in the branch the schema picks for the state the
dialogue of the chat is in.

`steps_of_dispatch` connects this to `dispatch`, which handles one update from beginning to end.
`ends_watch` and `obeys_watch` are the rules for a monitor: what every handler obeys from its start
on, each obeys at every moment of a run, in the state its own calls have brought the monitor to.
In one chat the handlers come one after another (`serial_of_run`).
-/

namespace PolyNotifier

open Lib (Prog Pool Event Steps)
open Lib.Prog (Monitor Obeys Ends)

/-- The chat whose turn the update takes. -/
def Update.chat : Update → Option Int
  | .message msg => some msg.chat
  | .callbackQuery q => q.message
  | .other => none

/-- The handlers started so far, and the chat each was started for. A handler that has come to its
    end stays in the list, so the place of a handler is its name for the whole run. -/
structure Bot where
  chats : List (Option Int)
  pool : Pool botSig BotError Unit World

inductive BotLabel where
  | update (u : Update)
  | call (ev : Event botSig)

def BotLabel.event : BotLabel → Option (Event botSig)
  | .update _ => none
  | .call ev => some ev

namespace Bot

/-- The process has just started: the dialogue storage is in memory, and empty. -/
def start (d : Db) : Bot := ⟨[], [], ⟨d, fun _ => .idle, [], 0⟩⟩

/-- The handlers of a chat have come to their end. A new one may be started then; other chats'
    handlers may be anywhere. -/
def Free (B : Bot) (chat : Int) : Prop :=
  ∀ i : Nat, B.chats[i]? = some (some chat) → ∀ p, B.pool.threads[i]? = some p → p.Done

/-- An update is taken up, or a handler that is under way makes its next call. The branch is picked
    when the handler is started, from the dialogue as it is then: what the dialogue is later does
    not matter to it any more. An update that no branch takes is dropped. -/
inductive Step (deps : BotDeps) (env : Env) : Bot → BotLabel → Bot → Prop
  | update {B : Bot} {u : Update} {handler : Handler Unit}
      (turn : ∀ chat, u.chat = some chat → B.Free chat)
      (branch : schema deps B.pool.state.dialogues u = some handler) :
      Step deps env B (.update u) ⟨B.chats ++ [u.chat], B.pool.spawn handler⟩
  | call {B : Bot} {ev : Event botSig} {P : Pool botSig BotError Unit World}
      (step : Pool.Step (World.perform env) B.pool ev P) :
      Step deps env B (.call ev) ⟨B.chats, P⟩

/-- Every handler has come to its end. -/
def Idle (B : Bot) : Prop := ∀ p ∈ B.pool.threads, p.Done

theorem Idle.free {B : Bot} (h : B.Idle) (chat : Int) : B.Free chat :=
  fun _ _ p hp => h p (List.mem_of_getElem? hp)

theorem idle_start (d : Db) : (start d).Idle := nofun

variable {deps : BotDeps} {env : Env}

/-- A step in which the update taken up, if one is, meets a condition on the states the dialogues
    are in. -/
def Guarded (ok : (Int → DialogueState) → Update → Prop) (deps : BotDeps) (env : Env) (B : Bot)
    (l : BotLabel) (B' : Bot) : Prop :=
  Step deps env B l B' ∧ ∀ u, l = .update u → ok B.pool.state.dialogues u

section Dispatch

variable {ok : (Int → DialogueState) → Update → Prop}

/-- The calls of a run of the pool are steps of the bot. -/
theorem steps_of_pool {B : Bot} {es : List (Event botSig)} {P : Pool botSig BotError Unit World}
    (h : Steps (Pool.Step (World.perform env)) B.pool es P) :
    Steps (Guarded ok deps env) B (es.map .call) ⟨B.chats, P⟩ := by
  induction h with
  | nil => exact .nil
  | snoc _ hs ih =>
    rw [List.map_append]
    exact ih.snoc ⟨.call hs, nofun⟩

/-- **Handling one update from beginning to end is a run of the bot.** -/
theorem steps_of_dispatch {B : Bot} (hidle : B.Idle) {u : Update}
    (hok : ok B.pool.state.dialogues u) :
    ∃ ls B', Steps (Guarded ok deps env) B ls B' ∧ B'.Idle ∧
      B'.pool.state = dispatch deps env u B.pool.state := by
  cases hbranch : schema deps B.pool.state.dialogues u with
  | none => exact ⟨[], B, .nil, hidle, (dispatch_none hbranch).symm⟩
  | some handler =>
    let B₁ : Bot := ⟨B.chats ++ [u.chat], B.pool.spawn handler⟩
    have hfirst : Step deps env B (.update u) B₁ := .update (fun chat _ => hidle.free chat) hbranch
    have hnew : B₁.pool.threads[B.pool.threads.length]? = some handler := by
      simp [B₁, Pool.spawn]
    -- the handler is run alone: the pool has no other thread that is not done
    obtain ⟨es, P, hsteps, hstate, q, hq, hthreads⟩ :=
      Pool.steps_of_run (World.perform env) hnew
    refine ⟨_, _, .cons ⟨hfirst, fun v hv => ?_⟩ (steps_of_pool hsteps), ?_, ?_⟩
    · cases hv
      exact hok
    · intro p hp
      have hset : P.threads = B.pool.threads ++ [q] := by
        rw [hthreads]
        simp [B₁, Pool.spawn]
      rw [hset, List.mem_append, List.mem_singleton] at hp
      rcases hp with hp | rfl
      · exact hidle p hp
      · exact hq
    · rw [dispatch_some hbranch]
      exact hstate

/-- The condition holds of each update when its turn comes, if they are handled one after
    another. -/
def Along (ok : (Int → DialogueState) → Update → Prop) (deps : BotDeps) (env : Env) :
    List Update → World → Prop
  | [], _ => True
  | u :: us, w => ok w.dialogues u ∧ Along ok deps env us (dispatch deps env u w)

instance decidableAlong [∀ dialogues u, Decidable (ok dialogues u)] :
    ∀ us w, Decidable (Along ok deps env us w)
  | [], _ => inferInstanceAs (Decidable True)
  | u :: us, w =>
      have := decidableAlong us (dispatch deps env u w)
      inferInstanceAs (Decidable (ok w.dialogues u ∧ Along ok deps env us _))

/-- A condition on the updates alone. -/
theorem along_of_forall {us : List Update} (h : ∀ u ∈ us, ∀ dialogues, ok dialogues u)
    (w : World) : Along ok deps env us w := by
  induction us generalizing w with
  | nil => trivial
  | cons u us ih =>
    exact ⟨h u (List.mem_cons_self ..) _, ih (fun v hv => h v (List.mem_cons_of_mem _ hv)) _⟩

/-- **So is handling several, one after another.** -/
theorem steps_of_dispatches {us : List Update} {B : Bot} (hidle : B.Idle)
    (hok : Along ok deps env us B.pool.state) :
    ∃ ls B', Steps (Guarded ok deps env) B ls B' ∧ B'.Idle ∧
      B'.pool.state = us.foldl (fun w u => dispatch deps env u w) B.pool.state := by
  induction us generalizing B with
  | nil => exact ⟨[], B, .nil, hidle, rfl⟩
  | cons u us ih =>
    obtain ⟨ls₁, B₁, h₁, hidle₁, hstate₁⟩ := @steps_of_dispatch deps env ok B hidle u hok.1
    obtain ⟨ls₂, B₂, h₂, hidle₂, hstate₂⟩ := ih hidle₁ (by rw [hstate₁]; exact hok.2)
    exact ⟨ls₁ ++ ls₂, B₂, h₁.append h₂, hidle₂, by rw [hstate₂, hstate₁, List.foldl_cons]⟩

end Dispatch

/-! ## Monitors -/

section Watch

variable {γ : Type} (M : Monitor botSig γ) (g₀ : γ)

/-- The state the calls of each handler have brought the monitor to. It is computed from the labels
    alone, so a result about a monitor needs nothing of the handlers but that each obeyed it from
    its own start. -/
def watch (ls : List BotLabel) : Nat → γ :=
  ls.foldl (fun g l => match l with
    | .update _ => g
    | .call ev => Pool.advance M g ev) fun _ => g₀

@[simp] theorem watch_update (ls : List BotLabel) (u : Update) :
    watch M g₀ (ls ++ [.update u]) = watch M g₀ ls := by
  rw [watch, List.foldl_append]
  rfl

@[simp] theorem watch_call (ls : List BotLabel) (ev : Event botSig) :
    watch M g₀ (ls ++ [.call ev]) = Pool.advance M (watch M g₀ ls) ev := by
  rw [watch, List.foldl_append]
  rfl

variable {M g₀}

/-- **The rule for a monitor**: if every handler that is started is, from `g₀` on, on its way to an
    end in `F`, every handler under way is from where its calls have brought the monitor. -/
theorem ends_watch {R : Bot → BotLabel → Bot → Prop} {I : Bot → Prop} {F : γ → Prop}
    (hstep : ∀ B l B', I B → R B l B' → Step deps env B l B' ∧ I B')
    (hstarts : ∀ B u B' handler, I B → R B (.update u) B' →
      schema deps B.pool.state.dialogues u = some handler →
      Ends (fun _ _ => True) M F g₀ handler fun g _ => F g)
    {d : Db} (h0 : I (start d)) {ls : List BotLabel} {B : Bot} (hrun : Steps R (start d) ls B) :
    I B ∧ B.pool.Ends (fun _ _ => True) M F (watch M g₀ ls) ∧
      ∀ i, B.pool.threads.length ≤ i → watch M g₀ ls i = g₀ := by
  induction hrun with
  | nil => exact ⟨h0, nofun, fun _ _ => rfl⟩
  | @snoc ls l B B' hrun hs ih =>
    obtain ⟨hI, hends, hfresh⟩ := ih
    obtain ⟨hbot, hI'⟩ := hstep B l B' hI hs
    refine ⟨hI', ?_⟩
    cases hbot with
    | @update u handler _ hbranch =>
      -- the new handler starts where the monitor stands for a thread it has not seen
      rw [watch_update]
      refine ⟨hends.spawn ?_, fun i hi => ?_⟩
      · rw [hfresh _ le_rfl]
        exact hstarts B u _ handler hI hs hbranch
      · have hlen : (B.pool.spawn handler).threads.length = B.pool.threads.length + 1 := by
          simp [Pool.spawn]
        have hi' : B.pool.threads.length + 1 ≤ i := hlen ▸ hi
        exact hfresh i (by omega)
    | @call ev P hcall =>
      rw [watch_call]
      refine ⟨(Pool.ends_step hends hcall trivial).2, fun i hi => ?_⟩
      cases hcall with
      | @mk j o k hj =>
        have hlt : j < B.pool.threads.length := (List.getElem?_eq_some_iff.mp hj).1
        have hi' : B.pool.threads.length ≤ i := by simpa using hi
        have hne : i ≠ j := by omega
        rw [Pool.advance, if_neg hne]
        exact hfresh i hi'

/-- The same for handlers that obey the monitor from `g₀` on, wherever they end. -/
theorem obeys_watch {R : Bot → BotLabel → Bot → Prop} {I : Bot → Prop}
    (hstep : ∀ B l B', I B → R B l B' → Step deps env B l B' ∧ I B')
    (hstarts : ∀ B u B' handler, I B → R B (.update u) B' →
      schema deps B.pool.state.dialogues u = some handler → Obeys M g₀ handler fun _ _ => True)
    {d : Db} (h0 : I (start d)) {ls : List BotLabel} {B : Bot} (hrun : Steps R (start d) ls B) :
    I B ∧ B.pool.Obeys M (watch M g₀ ls) ∧
      ∀ i, B.pool.threads.length ≤ i → watch M g₀ ls i = g₀ := by
  have hends : ∀ B u B' handler, I B → R B (.update u) B' →
      schema deps B.pool.state.dialogues u = some handler →
      Ends (fun _ _ => True) M (fun _ => True) g₀ handler fun _ _ => True :=
    fun B u B' handler hI hs hbranch =>
      Lib.Prog.obeys_iff_ends.mp (hstarts B u B' handler hI hs hbranch)
  obtain ⟨hI, hpool, hfresh⟩ := ends_watch hstep hends h0 hrun
  exact ⟨hI, Pool.obeys_iff_ends.mpr hpool, hfresh⟩

end Watch

/-! ## One chat -/

/-- Every handler was started for the chat, and only the last one can be under way. In one chat a
    run is a list of handlers, one after another, whatever their calls do. -/
structure Serial (chat : Int) (B : Bot) : Prop where
  length : B.chats.length = B.pool.threads.length
  chats : ∀ c ∈ B.chats, c = some chat
  last : ∀ (i : Nat) (p : Handler Unit), B.pool.threads[i]? = some p → ¬ p.Done →
    i + 1 = B.pool.threads.length

/-- The update comes from the chat. -/
def InChat (chat : Int) (_ : Int → DialogueState) (u : Update) : Prop := u.chat = some chat

section Serial

variable {chat : Int}

/-- When the next update is taken up, every handler has come to its end. -/
theorem Serial.done {B : Bot} (h : Serial chat B) (hturn : B.Free chat) {i : Nat}
    {p : Handler Unit} (hi : B.pool.threads[i]? = some p) : p.Done := by
  have hlt : i < B.chats.length := by
    rw [h.length]
    exact (List.getElem?_eq_some_iff.mp hi).1
  refine hturn i ?_ p hi
  rw [List.getElem?_eq_getElem hlt, h.chats _ (List.getElem_mem hlt)]

theorem Serial.step {B B' : Bot} {l : BotLabel} (h : Serial chat B) (hs : Step deps env B l B')
    (hchat : ∀ u, l = .update u → u.chat = some chat) : Serial chat B' := by
  cases hs with
  | @update u handler hturn _ =>
    have hu := hchat u rfl
    refine ⟨?_, ?_, ?_⟩
    · simp [Pool.spawn, h.length]
    · intro c hc
      rcases List.mem_append.mp hc with hc | hc
      · exact h.chats c hc
      · rw [List.mem_singleton.mp hc, hu]
    -- a new handler is spawned only when all before it are done, so the one that is not is the
    -- last
    · intro i p hi hp
      rcases Pool.getElem?_spawn hi with hi | ⟨rfl, _⟩
      · exact absurd (h.done (hturn chat hu) hi) hp
      · simp [Pool.spawn]
  | @call ev P hcall =>
    have hthreads := fun {i p} => Pool.Step.threads hcall (i := i) (p := p)
    cases hcall with
    | @mk j o k hj =>
      refine ⟨?_, h.chats, ?_⟩
      · rw [h.length, List.length_set]
      · intro i p hi hp
        rw [List.length_set]
        rcases hthreads hi with ⟨_, hi⟩ | ⟨rfl, _⟩
        · exact h.last i p hi hp
        · exact h.last i _ hj id

/-- **In one chat the handlers come one after another.** -/
theorem serial_of_run {d : Db} {ls : List BotLabel} {B : Bot}
    (hrun : Steps (Guarded (InChat chat) deps env) (start d) ls B) : Serial chat B := by
  refine hrun.inv (I := Serial chat) ⟨rfl, nofun, nofun⟩ ?_
  intro B l B' h hs
  exact h.step hs.1 hs.2

end Serial

/-! ## Runs that can be evaluated -/

section Play

variable (deps : BotDeps) (env : Env)

/-- An update is taken up where every handler has come to its end, or a handler makes its next
    call. It is a function, to play runs on fixed inputs with; `play_steps` says that what it does
    is a step. -/
def move (B : Bot) : Update ⊕ Nat → Option (BotLabel × Bot)
  | .inl u =>
      if B.pool.threads.all fun p => decide p.Done then
        (schema deps B.pool.state.dialogues u).map fun handler =>
          (.update u, ⟨B.chats ++ [u.chat], B.pool.spawn handler⟩)
      else none
  | .inr i =>
      (Pool.stepAt (World.perform env) i B.pool).map fun r => (.call r.1, ⟨B.chats, r.2⟩)

def play : List (Update ⊕ Nat) → Bot → Option (List BotLabel × Bot)
  | [], B => some ([], B)
  | c :: cs, B =>
      (move deps env B c).bind fun r => (play cs r.2).map fun rest => (r.1 :: rest.1, rest.2)

variable {deps env}

theorem move_step {B B' : Bot} {c : Update ⊕ Nat} {l : BotLabel}
    (h : move deps env B c = some (l, B')) :
    Step deps env B l B' ∧ ∀ u, l = .update u → c = .inl u := by
  cases c with
  | inl u =>
    unfold move at h
    dsimp only at h
    split at h
    · rename_i hdone
      obtain ⟨handler, hbranch, heq⟩ := Option.map_eq_some_iff.mp h
      cases heq
      have hidle : B.Idle := by
        intro p hp
        exact of_decide_eq_true (List.all_eq_true.mp hdone p hp)
      refine ⟨.update (fun chat _ => hidle.free chat) hbranch, ?_⟩
      intro v hv
      cases hv
      rfl
    · cases h
  | inr i =>
    obtain ⟨⟨ev, P⟩, hstep, heq⟩ := Option.map_eq_some_iff.mp h
    cases heq
    exact ⟨.call (Pool.stepAt_step hstep), nofun⟩

theorem move_update {B B' : Bot} {u : Update} {l : BotLabel}
    (h : move deps env B (.inl u) = some (l, B')) : l = .update u := by
  unfold move at h
  dsimp only at h
  split at h
  · obtain ⟨handler, _, heq⟩ := Option.map_eq_some_iff.mp h
    cases heq
    rfl
  · cases h

/-- **What is played is a run.** -/
theorem play_steps {ok : (Int → DialogueState) → Update → Prop} {cs : List (Update ⊕ Nat)}
    (hok : ∀ u, .inl u ∈ cs → ∀ dialogues, ok dialogues u) {B B' : Bot} {ls : List BotLabel}
    (h : play deps env cs B = some (ls, B')) : Steps (Guarded ok deps env) B ls B' := by
  induction cs generalizing B ls with
  | nil =>
    cases h
    exact .nil
  | cons c cs ih =>
    obtain ⟨⟨l, B₁⟩, hmove, hrest⟩ := Option.bind_eq_some_iff.mp h
    obtain ⟨⟨ls₁, B₂⟩, hplay, heq⟩ := Option.map_eq_some_iff.mp hrest
    cases heq
    obtain ⟨hstep, hupdate⟩ := move_step hmove
    refine .cons ⟨hstep, fun u hu => ?_⟩
      (ih (fun u hmem => hok u (List.mem_cons_of_mem _ hmem)) hplay)
    have hmem : .inl u ∈ c :: cs := by
      rw [hupdate u hu]
      exact List.mem_cons_self ..
    exact hok u hmem _

end Play

end Bot

end PolyNotifier
