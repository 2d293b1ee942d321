import Mathlib.Data.List.Basic
import PolyNotifier.Lib.Run

/-!
# Programs over a signature of operations

A handler of a service is a straight piece of code between calls to the outside: a message it
sends, a statement it gives the database, a clock it reads. What it does is fixed by the answers
to those calls and by nothing else, so it is a tree: an operation, and for every answer the rest
of the handler. That one object is run in two ways.

* **Alone** (`Prog.run`): every operation is answered by a handler of operations that also
  carries the state of the outside along. `Prog.run_bind` is the rule for sequencing, and
  `Prog.Keeps` says that a relation between the state before and the state after is kept,
  whether the program ends well or fails halfway.
* **With others** (`Pool`): several programs share one state, and each step performs one
  operation of one of them. The order is anybody's.

`Prog.Obeys` is what the two readings share. A `Monitor` is an automaton that sees each operation
and its answer and may refuse an operation; a program obeys it if no sequence of answers makes
it perform a refused operation. It is a fact about the text of one program, proved by walking
it, and it stays true of every thread of a pool (`Pool.obeys_step`), because a thread sees only the
answers it gets.
-/

namespace PolyNotifier
namespace Lib

universe u v

/-- Operations, and the type of the answer to each. -/
structure Sig where
  Op : Type
  Res : Op → Type

/-- A program: it returns, it fails, or it performs an operation and goes on with the answer.
    Nothing is said of where the answers come from: one handler, a pool of other programs in
    between, or all answers at once, which is how the rules below read it. -/
inductive Prog (S : Sig) (ε α : Type) where
  | ret (a : α)
  | fail (e : ε)
  | op (o : S.Op) (k : S.Res o → Prog S ε α)

namespace Prog

variable {S : Sig} {ε α β γ : Type}

def bind : Prog S ε α → (α → Prog S ε β) → Prog S ε β
  | .ret a, f => f a
  | .fail e, _ => .fail e
  | .op o k, f => .op o fun r => (k r).bind f

instance : Monad (Prog S ε) where
  pure := .ret
  bind := bind

@[simp] theorem pure_eq (a : α) : (pure a : Prog S ε α) = .ret a := rfl

@[simp] theorem ret_bind (a : α) (f : α → Prog S ε β) : (Prog.ret a >>= f) = f a := rfl

@[simp] theorem fail_bind (e : ε) (f : α → Prog S ε β) : (Prog.fail e >>= f) = .fail e := rfl

@[simp] theorem op_bind (o : S.Op) (k : S.Res o → Prog S ε α) (f : α → Prog S ε β) :
    (Prog.op o k >>= f) = .op o fun r => k r >>= f := rfl

theorem bind_assoc (p : Prog S ε α) (f : α → Prog S ε β) (g : β → Prog S ε γ) :
    (p >>= f >>= g) = (p >>= fun a => f a >>= g) := by
  induction p with
  | ret a => rfl
  | fail e => rfl
  | op o k ih => simp only [op_bind, ih]

/-- The program has come to its end. -/
def Done : Prog S ε α → Prop
  | .op _ _ => False
  | _ => True

instance : DecidablePred (Done : Prog S ε α → Prop)
  | .ret _ => isTrue trivial
  | .fail _ => isTrue trivial
  | .op _ _ => isFalse id

/-- Where the program fails, it fails with an error in `E`, whatever the answers are. -/
def FailsOnly (E : ε → Prop) : Prog S ε α → Prop
  | .ret _ => True
  | .fail e => E e
  | .op _ k => ∀ r, FailsOnly E (k r)

theorem FailsOnly.bind {E : ε → Prop} {p : Prog S ε α} {f : α → Prog S ε β}
    (hp : FailsOnly E p) (hf : ∀ a, FailsOnly E (f a)) : FailsOnly E (p >>= f) := by
  induction p with
  | ret a => exact hf a
  | fail e => exact hp
  | op o k ih => exact fun r => ih r (hp r)

/-! ## Running alone -/

section Run

variable {σ : Type u} (h : (o : S.Op) → σ → S.Res o × σ)

/-- Run a program against a handler of its operations. The state survives a failure: what was
    done before it stays done. -/
def run : Prog S ε α → σ → Except ε α × σ
  | .ret a, s => (.ok a, s)
  | .fail e, s => (.error e, s)
  | .op o k, s => (k (h o s).1).run (h o s).2

@[simp] theorem run_ret (a : α) (s : σ) : (Prog.ret a : Prog S ε α).run h s = (.ok a, s) := rfl

@[simp] theorem run_fail (e : ε) (s : σ) :
    (Prog.fail e : Prog S ε α).run h s = (.error e, s) := rfl

@[simp] theorem run_op (o : S.Op) (k : S.Res o → Prog S ε α) (s : σ) :
    (Prog.op o k).run h s = (k (h o s).1).run h (h o s).2 := rfl

/-- Sequencing: the second program runs where the first one ended, or not at all. -/
theorem run_bind (p : Prog S ε α) (f : α → Prog S ε β) (s : σ) :
    (p >>= f).run h s = match p.run h s with
      | (.ok a, s') => (f a).run h s'
      | (.error e, s') => (.error e, s') := by
  induction p generalizing s with
  | ret a => rfl
  | fail e => rfl
  | op o k ih => simpa using ih _ _

/-- The state after a program stands in relation `R` to the state before, however it ends. There is
    no condition on the state before: it is for what holds of a program wherever it is started. -/
def Keeps (R : σ → σ → Prop) (p : Prog S ε α) : Prop := ∀ s, R s (p.run h s).2

variable {h} {R : σ → σ → Prop}

theorem Keeps.bind (htrans : ∀ a b c, R a b → R b c → R a c) {p : Prog S ε α}
    {f : α → Prog S ε β} (hp : Keeps h R p) (hf : ∀ a, Keeps h R (f a)) :
    Keeps h R (p >>= f) := by
  intro s
  rw [run_bind]
  have h1 := hp s
  cases hrun : p.run h s with
  | mk res s' =>
    rw [hrun] at h1
    cases res with
    | ok a => exact htrans _ _ _ h1 (hf a s')
    | error e => exact h1

end Run

/-! ## Monitors -/

/-- An automaton over operations and answers that may refuse an operation. It sees what the program
    is told as well as what it does, so it can say that a program does something only after it has
    been told something. -/
structure Monitor (S : Sig) (γ : Type) where
  allows : γ → S.Op → Prop
  next : γ → (o : S.Op) → S.Res o → γ

/-- From monitor state `g`, no sequence of answers makes the program perform an operation the
    monitor refuses, and when it returns, `Q` holds of the monitor's state and the value. It is
    about the program alone: no state, no other program. That is why it is kept when other programs
    take their steps in between. -/
def Obeys (M : Monitor S γ) : γ → Prog S ε α → (γ → α → Prop) → Prop
  | g, .ret a, Q => Q g a
  | _, .fail _, _ => True
  | g, .op o k, Q => M.allows g o ∧ ∀ r, Obeys M (M.next g o r) (k r) Q

section Obeys

variable {M : Monitor S γ} {g : γ}

@[simp] theorem obeys_ret {a : α} {Q : γ → α → Prop} :
    Obeys M g (Prog.ret a : Prog S ε α) Q ↔ Q g a := Iff.rfl

@[simp] theorem obeys_fail {e : ε} {Q : γ → α → Prop} :
    Obeys M g (Prog.fail e : Prog S ε α) Q ↔ True := Iff.rfl

@[simp] theorem obeys_op {o : S.Op} {k : S.Res o → Prog S ε α} {Q : γ → α → Prop} :
    Obeys M g (Prog.op o k) Q ↔ M.allows g o ∧ ∀ r, Obeys M (M.next g o r) (k r) Q := Iff.rfl

/-- The rule for sequencing. -/
theorem obeys_bind {p : Prog S ε α} {f : α → Prog S ε β} {Q : γ → β → Prop} :
    Obeys M g (p >>= f) Q ↔ Obeys M g p fun g' a => Obeys M g' (f a) Q := by
  induction p generalizing g with
  | ret a => rfl
  | fail e => rfl
  | op o k ih => simp only [op_bind, obeys_op, ih]

/-- **Simulation**: a monitor that allows whatever another one does, in every state related to
    the other's, and moves to a related state, is obeyed by a program that obeys the other. -/
theorem Obeys.simulate {δ : Type} {N : Monitor S δ} (Rel : γ → δ → Prop)
    (hstep : ∀ g d o, Rel g d → M.allows g o →
      N.allows d o ∧ ∀ r, Rel (M.next g o r) (N.next d o r))
    {p : Prog S ε α} {Q : γ → α → Prop} (hp : Obeys M g p Q) {d : δ} (h : Rel g d) :
    Obeys N d p fun _ _ => True := by
  induction p generalizing g d with
  | ret a => trivial
  | fail e => trivial
  | op o k ih =>
    obtain ⟨hallow, hnext⟩ := hstep g d o h hp.1
    exact ⟨hallow, fun r => ih r (hp.2 r) (hnext r)⟩

/-- The same for a monitor that allows it in every state. -/
theorem Obeys.weaken {δ : Type} {N : Monitor S δ} (hall : ∀ g o d, M.allows g o → N.allows d o)
    {p : Prog S ε α} {Q : γ → α → Prop} (hp : Obeys M g p Q) (d : δ) :
    Obeys N d p fun _ _ => True :=
  hp.simulate (fun _ _ => True)
    (fun g d o _ hallow => ⟨hall g o d hallow, fun _ => trivial⟩) trivial

theorem Obeys.imp {p : Prog S ε α} {Q Q' : γ → α → Prop} (h : Obeys M g p Q)
    (hQ : ∀ g' a, Q g' a → Q' g' a) : Obeys M g p Q' := by
  induction p generalizing g with
  | ret a => exact hQ _ _ h
  | fail e => trivial
  | op o k ih => exact ⟨h.1, fun r => ih r (h.2 r)⟩

/-- **The run rule.** `I` ties the monitor's state to the state of the outside, and every
    allowed operation keeps it and relates the states before and after it by `R`. Then a
    program that obeys the monitor is related by `R` as a whole, however it ends. -/
theorem Obeys.run {σ : Type u} {h : (o : S.Op) → σ → S.Res o × σ} {I : γ → σ → Prop}
    {R : σ → σ → Prop} (hrefl : ∀ s, R s s) (htrans : ∀ a b c, R a b → R b c → R a c)
    (hstep : ∀ g o s, I g s → M.allows g o →
      I (M.next g o (h o s).1) (h o s).2 ∧ R s (h o s).2)
    {p : Prog S ε α} {Q : γ → α → Prop} (hp : Obeys M g p Q) {s : σ} (hI : I g s) :
    R s (p.run h s).2 := by
  induction p generalizing g s with
  | ret a => exact hrefl s
  | fail e => exact hrefl s
  | op o k ih =>
    obtain ⟨hI', hR⟩ := hstep g o s hI hp.1
    exact htrans _ _ _ hR (ih _ (hp.2 _) hI')

end Obeys

/-- Like `Obeys`, for answers in `ok` only; and wherever the program ends early, the monitor's
    state is in `F`. -/
def Ends (ok : (o : S.Op) → S.Res o → Prop) (M : Monitor S γ) (F : γ → Prop) :
    γ → Prog S ε α → (γ → α → Prop) → Prop
  | g, .ret a, Q => Q g a
  | g, .fail _, _ => F g
  | g, .op o k, Q => M.allows g o ∧ ∀ r, ok o r → Ends ok M F (M.next g o r) (k r) Q

section Ends

variable {ok : (o : S.Op) → S.Res o → Prop} {M : Monitor S γ} {F : γ → Prop} {g : γ}

@[simp] theorem ends_ret {a : α} {Q : γ → α → Prop} :
    Ends ok M F g (Prog.ret a : Prog S ε α) Q ↔ Q g a := Iff.rfl

@[simp] theorem ends_fail {e : ε} {Q : γ → α → Prop} :
    Ends ok M F g (Prog.fail e : Prog S ε α) Q ↔ F g := Iff.rfl

@[simp] theorem ends_op {o : S.Op} {k : S.Res o → Prog S ε α} {Q : γ → α → Prop} :
    Ends ok M F g (Prog.op o k) Q ↔
      M.allows g o ∧ ∀ r, ok o r → Ends ok M F (M.next g o r) (k r) Q := Iff.rfl

/-- The rule for sequencing. -/
theorem ends_bind {p : Prog S ε α} {f : α → Prog S ε β} {Q : γ → β → Prop} :
    Ends ok M F g (p >>= f) Q ↔ Ends ok M F g p fun g' a => Ends ok M F g' (f a) Q := by
  induction p generalizing g with
  | ret a => rfl
  | fail e => rfl
  | op o k ih => simp only [op_bind, ends_op, ih]

/-- What ends well under any answers obeys. -/
theorem Ends.obeys {p : Prog S ε α} {Q : γ → α → Prop}
    (h : Ends (fun _ _ => True) M F g p Q) : Obeys M g p fun _ _ => True := by
  induction p generalizing g with
  | ret a => trivial
  | fail e => trivial
  | op o k ih => exact ⟨h.1, fun r => ih r (h.2 r trivial)⟩

/-- To obey is to end anywhere, whatever the answers are. -/
theorem obeys_iff_ends {p : Prog S ε α} {Q : γ → α → Prop} :
    Obeys M g p Q ↔ Ends (fun _ _ => True) M (fun _ => True) g p Q := by
  induction p generalizing g with
  | ret a => rfl
  | fail e => rfl
  | op o k ih => simp only [obeys_op, ends_op, ih, forall_const]

end Ends

end Prog

/-! ## Running with others -/

/-- Programs that share one state. A thread keeps its place in the list for ever, and one that has
    come to its end stays there. -/
structure Pool (S : Sig) (ε α : Type) (σ : Type u) where
  threads : List (Prog S ε α)
  state : σ

/-- What one step of a pool did: which thread performed which operation with which answer. -/
structure Event (S : Sig) where
  thread : Nat
  op : S.Op
  res : S.Res op

namespace Pool

variable {S : Sig} {ε α γ : Type} {σ : Type u}

/-- Thread `ev.thread` performs its next operation and the handler answers it. -/
inductive Step (h : (o : S.Op) → σ → S.Res o × σ) :
    Pool S ε α σ → Event S → Pool S ε α σ → Prop
  | mk {P : Pool S ε α σ} {i : Nat} {o : S.Op} {k : S.Res o → Prog S ε α}
      (hi : P.threads[i]? = some (.op o k)) :
      Step h P ⟨i, o, (h o P.state).1⟩
        ⟨P.threads.set i (k (h o P.state).1), (h o P.state).2⟩

/-- One more thread. -/
def spawn (P : Pool S ε α σ) (p : Prog S ε α) : Pool S ε α σ := ⟨P.threads ++ [p], P.state⟩

@[simp] theorem spawn_state (P : Pool S ε α σ) (p : Prog S ε α) : (P.spawn p).state = P.state := rfl

/-- The threads after one more has been started. -/
theorem getElem?_spawn {P : Pool S ε α σ} {p q : Prog S ε α} {i : Nat}
    (h : (P.spawn p).threads[i]? = some q) :
    P.threads[i]? = some q ∨ i = P.threads.length ∧ q = p := by
  rcases Nat.lt_or_ge i P.threads.length with hi | hi
  · left
    rwa [spawn, List.getElem?_append_left hi] at h
  · right
    rw [spawn, List.getElem?_append_right hi, List.getElem?_singleton] at h
    split at h
    · exact ⟨by omega, (Option.some.inj h).symm⟩
    · cases h

/-- The threads after a step: the acting thread is where the answer has brought it. -/
theorem Step.threads {h : (o : S.Op) → σ → S.Res o × σ} {P P' : Pool S ε α σ} {ev : Event S}
    (hs : Step h P ev P') {i : Nat} {p : Prog S ε α} (hi : P'.threads[i]? = some p) :
    (i ≠ ev.thread ∧ P.threads[i]? = some p) ∨
      (i = ev.thread ∧ ∃ k, P.threads[i]? = some (.op ev.op k) ∧ p = k ev.res) := by
  cases hs with
  | @mk j o k hj =>
    by_cases hij : i = j
    · subst hij
      have hlt : i < P.threads.length := (List.getElem?_eq_some_iff.mp hj).1
      refine .inr ⟨rfl, k, hj, ?_⟩
      simpa [hlt] using hi.symm
    · exact .inl ⟨hij, by simpa [List.getElem?_set_ne (Ne.symm hij)] using hi⟩

/-- **Running alone is one of the schedules**: a thread can take all its steps at once. -/
theorem steps_of_run (h : (o : S.Op) → σ → S.Res o × σ) {P : Pool S ε α σ} {i : Nat}
    {p : Prog S ε α} (hi : P.threads[i]? = some p) :
    ∃ es P', Steps (Step h) P es P' ∧ P'.state = (p.run h P.state).2 ∧
      ∃ q, q.Done ∧ P'.threads = P.threads.set i q := by
  have hlt : i < P.threads.length := (List.getElem?_eq_some_iff.mp hi).1
  have hself : P.threads.set i p = P.threads := by
    rw [← (List.getElem?_eq_some_iff.mp hi).2, List.set_getElem_self]
  induction p generalizing P with
  | ret a => exact ⟨[], P, .nil, rfl, .ret a, trivial, hself.symm⟩
  | fail e => exact ⟨[], P, .nil, rfl, .fail e, trivial, hself.symm⟩
  | op o k ih =>
    let P₁ : Pool S ε α σ := ⟨P.threads.set i (k (h o P.state).1), (h o P.state).2⟩
    have hlt₁ : i < P₁.threads.length := by simpa [P₁] using hlt
    have hi₁ : P₁.threads[i]? = some (k (h o P.state).1) := by simp [P₁, hlt]
    obtain ⟨es, P', hsteps, hstate, q, hq, hthreads⟩ := ih _ hi₁ hlt₁ (by simp [P₁])
    refine ⟨_, P', .cons (.mk hi) hsteps, hstate, q, hq, ?_⟩
    rw [hthreads]
    simp [P₁]

/-- The step of thread `i`, as a function. -/
def stepAt (h : (o : S.Op) → σ → S.Res o × σ) (i : Nat) (P : Pool S ε α σ) :
    Option (Event S × Pool S ε α σ) :=
  match P.threads[i]? with
  | some (.op o k) =>
      some (⟨i, o, (h o P.state).1⟩, ⟨P.threads.set i (k (h o P.state).1), (h o P.state).2⟩)
  | _ => none

theorem stepAt_step {h : (o : S.Op) → σ → S.Res o × σ} {i : Nat} {P P' : Pool S ε α σ}
    {ev : Event S} (hs : stepAt h i P = some (ev, P')) : Step h P ev P' := by
  unfold stepAt at hs
  split at hs
  · rename_i o k hi
    cases hs
    exact .mk hi
  · cases hs

/-- A schedule: the threads in the order in which they step. -/
def schedule (h : (o : S.Op) → σ → S.Res o × σ) :
    List Nat → Pool S ε α σ → Option (List (Event S) × Pool S ε α σ)
  | [], P => some ([], P)
  | i :: is, P => do
      let (ev, P') ← stepAt h i P
      let (evs, P'') ← schedule h is P'
      some (ev :: evs, P'')

/-- What a schedule computes is a run. -/
theorem schedule_steps {h : (o : S.Op) → σ → S.Res o × σ} {is : List Nat}
    {P P' : Pool S ε α σ} {es : List (Event S)} (hs : schedule h is P = some (es, P')) :
    Steps (Step h) P es P' := by
  induction is generalizing P es with
  | nil =>
    cases hs
    exact .nil
  | cons i is ih =>
    simp only [schedule, Option.bind_eq_bind, Option.bind_eq_some_iff, Prod.exists] at hs
    obtain ⟨ev, P₁, hfirst, evs, P₂, hrest, heq⟩ := hs
    cases heq
    exact .cons (stepAt_step hfirst) (ih hrest)

/-- The monitor states after an event: only the acting thread's moves. -/
def advance (M : Prog.Monitor S γ) (g : Nat → γ) (ev : Event S) : Nat → γ :=
  fun i => if i = ev.thread then M.next (g i) ev.op ev.res else g i

/-- An event the monitor learns nothing from. -/
theorem advance_of_next {M : Prog.Monitor S γ} {g : Nat → γ} {ev : Event S}
    (h : M.next (g ev.thread) ev.op ev.res = g ev.thread) : advance M g ev = g := by
  funext i
  unfold advance
  split
  · rename_i hi
    rw [hi]
    exact h
  · rfl

theorem advance_self {M : Prog.Monitor S γ} {g : Nat → γ} {ev : Event S} :
    advance M g ev ev.thread = M.next (g ev.thread) ev.op ev.res := if_pos rfl

theorem advance_ne {M : Prog.Monitor S γ} {g : Nat → γ} {ev : Event S} {i : Nat}
    (h : i ≠ ev.thread) : advance M g ev i = g i := if_neg h

/-- Every thread is on its way to an end in `F`, from the state its own past has brought the
    monitor to. -/
def Ends (ok : (o : S.Op) → S.Res o → Prop) (M : Prog.Monitor S γ) (F : γ → Prop) (g : Nat → γ)
    (P : Pool S ε α σ) : Prop :=
  ∀ i p, P.threads[i]? = some p → Prog.Ends ok M F (g i) p fun g' _ => F g'

/-- Every thread `i` obeys the monitor from the state `g i` its own past has brought the
    monitor to. -/
def Obeys (M : Prog.Monitor S γ) (g : Nat → γ) (P : Pool S ε α σ) : Prop :=
  ∀ i p, P.threads[i]? = some p → Prog.Obeys M (g i) p fun _ _ => True

section Ends

variable {h : (o : S.Op) → σ → S.Res o × σ} {ok : (o : S.Op) → S.Res o → Prop}
  {M : Prog.Monitor S γ} {F : γ → Prop} {g : Nat → γ} {P P' : Pool S ε α σ} {ev : Event S}

/-- A thread that is started is on its way if its program is. -/
theorem Ends.spawn (hP : Ends ok M F g P) {p : Prog S ε α}
    (hp : Prog.Ends ok M F (g P.threads.length) p fun g' _ => F g') :
    Ends ok M F g (P.spawn p) := by
  intro i q hi
  rcases getElem?_spawn hi with hi | ⟨rfl, rfl⟩
  · exact hP i q hi
  · exact hp

/-- **This is stable under interleaving**, for steps whose answers are in `ok`: the operation
    performed was allowed, and every thread is still on its way. -/
theorem ends_step (hP : Ends ok M F g P) (hs : Step h P ev P') (hok : ok ev.op ev.res) :
    M.allows (g ev.thread) ev.op ∧ Ends ok M F (advance M g ev) P' := by
  have hthreads := fun {i p} => hs.threads (i := i) (p := p)
  have hallow : M.allows (g ev.thread) ev.op := by
    cases hs with
    | mk hi => exact (hP _ _ hi).1
  refine ⟨hallow, fun j p hj => ?_⟩
  rcases hthreads hj with ⟨hne, hold⟩ | ⟨rfl, k, hold, rfl⟩
  · rw [advance, if_neg hne]
    exact hP j p hold
  · rw [advance, if_pos rfl]
    have hend := hP _ _ hold
    exact hend.2 _ hok

/-- A thread that has come to its end is in `F`. -/
theorem Ends.done (hP : Ends ok M F g P) {i : Nat} {p : Prog S ε α}
    (hi : P.threads[i]? = some p) (hp : p.Done) : F (g i) := by
  have h := hP i p hi
  cases p with
  | ret a => exact h
  | fail e => exact h
  | op o k => exact hp.elim

theorem obeys_iff_ends : Obeys M g P ↔ Ends (fun _ _ => True) M (fun _ => True) g P := by
  constructor
  · intro hP i p hi
    exact Prog.obeys_iff_ends.mp (hP i p hi)
  · intro hP i p hi
    exact Prog.obeys_iff_ends.mpr (hP i p hi)

/-- A thread that is started obeys if its program does. -/
theorem Obeys.spawn (hP : Obeys M g P) {p : Prog S ε α}
    (hp : Prog.Obeys M (g P.threads.length) p fun _ _ => True) : Obeys M g (P.spawn p) :=
  obeys_iff_ends.mpr ((obeys_iff_ends.mp hP).spawn (Prog.obeys_iff_ends.mp hp))

/-- **Obedience is stable under interleaving.** -/
theorem obeys_step (hP : Obeys M g P) (hs : Step h P ev P') :
    M.allows (g ev.thread) ev.op ∧ Obeys M (advance M g ev) P' := by
  obtain ⟨hallow, hends⟩ := ends_step (obeys_iff_ends.mp hP) hs trivial
  exact ⟨hallow, obeys_iff_ends.mpr hends⟩

end Ends

end Pool

end Lib
end PolyNotifier
