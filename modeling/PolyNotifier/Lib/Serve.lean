import PolyNotifier.Lib.Prog

/-!
# What a program answers

A server runs one program for each request. What is asked of such a program is its answer, and
that may depend on all the calls it made on the way: a request that is answered with success has
had its statement executed. `Serves` says it of the text of one program: it performs only allowed
operations, and whatever the answers in `C` are, it ends in a result that `Q` accepts together
with the calls made.

* **Alone**, `Serves.run` gives the result of a run.
* **With others**, `Pool.serves_run` gives it for every program of a pool at every moment of every
  run. The state of the outside is described by an invariant `I` that sees the events so far, and
  the invariant is what makes the answers be in `C`.

A thread that has come to its end before the run begins takes no part in it: `Pool.steps_select`
leaves such threads out, and the others keep their order.
-/

namespace PolyNotifier
namespace Lib

universe u

/-- A call and its answer. -/
structure Call (S : Sig) where
  op : S.Op
  res : S.Res op

/-- The call of an event. -/
def Event.call {S : Sig} (ev : Event S) : Call S := ⟨ev.op, ev.res⟩

namespace Prog

variable {S : Sig} {ε δ α β : Type}

/-- The program with its failure as a value, so that a server always ends in an answer. -/
def attempt : Prog S ε α → Prog S δ (Except ε α)
  | .ret a => .ret (.ok a)
  | .fail e => .ret (.error e)
  | .op o k => .op o fun r => (k r).attempt

/-- From the calls made so far, and for answers in `C`, the program performs operations in `A` and
    ends in a result that `Q` accepts with all the calls. A monitor would do too, with the calls as
    its state; here the result is tied to them, and what a server says can be checked against what
    it was told. -/
def Serves (C : Call S → Prop) (A : S.Op → Prop) (Q : List (Call S) → Except ε α → Prop) :
    List (Call S) → Prog S ε α → Prop
  | calls, .ret a => Q calls (.ok a)
  | calls, .fail e => Q calls (.error e)
  | calls, .op o k => A o ∧ ∀ r, C ⟨o, r⟩ → Serves C A Q (calls ++ [⟨o, r⟩]) (k r)

section Serves

variable {C : Call S → Prop} {A : S.Op → Prop} {Q : List (Call S) → Except ε α → Prop}
  {calls : List (Call S)}

@[simp] theorem serves_ret {a : α} : Serves C A Q calls (.ret a) ↔ Q calls (.ok a) := Iff.rfl

@[simp] theorem serves_fail {e : ε} : Serves C A Q calls (.fail e) ↔ Q calls (.error e) := Iff.rfl

@[simp] theorem serves_op {o : S.Op} {k : S.Res o → Prog S ε α} :
    Serves C A Q calls (.op o k) ↔
      A o ∧ ∀ r, C ⟨o, r⟩ → Serves C A Q (calls ++ [⟨o, r⟩]) (k r) := Iff.rfl

/-- The rule for consequences. -/
theorem Serves.imp {A' : S.Op → Prop} {Q' : List (Call S) → Except ε α → Prop} {p : Prog S ε α}
    (h : Serves C A Q calls p) (hA : ∀ o, A o → A' o) (hQ : ∀ c r, Q c r → Q' c r) :
    Serves C A' Q' calls p := by
  induction p generalizing calls with
  | ret a => exact hQ _ _ h
  | fail e => exact hQ _ _ h
  | op o k ih => exact ⟨hA _ h.1, fun r hr => ih r (h.2 r hr)⟩

/-- The rule for sequencing. -/
theorem serves_bind {p : Prog S ε β} {f : β → Prog S ε α} :
    Serves C A Q calls (p >>= f) ↔
      Serves C A (fun c r => match r with
        | .ok b => Serves C A Q c (f b)
        | .error e => Q c (.error e)) calls p := by
  induction p generalizing calls with
  | ret b => rfl
  | fail e => rfl
  | op o k ih => simp only [op_bind, serves_op, ih]

/-- The rule for a failure that is caught. -/
theorem serves_attempt {Q : List (Call S) → Except δ (Except ε α) → Prop} {p : Prog S ε α} :
    Serves C A Q calls p.attempt ↔ Serves C A (fun c r => Q c (.ok r)) calls p := by
  induction p generalizing calls with
  | ret a => rfl
  | fail e => rfl
  | op o k ih => simp only [attempt, serves_op, ih]

end Serves

end Prog

namespace Pool

variable {S : Sig} {ε α : Type} {σ : Type u} {h : (o : S.Op) → σ → S.Res o × σ}
  {C : Call S → Prop} {A : Nat → S.Op → Prop}
  {Q : Nat → List (Call S) → Except ε α → Prop} {I : List (Event S) → σ → Prop}

/-- The calls of one thread, in order. -/
def callsOf (i : Nat) (es : List (Event S)) : List (Call S) :=
  (es.filter fun ev => ev.thread == i).map Event.call

theorem callsOf_snoc (i : Nat) (es : List (Event S)) (ev : Event S) :
    callsOf i (es ++ [ev]) = callsOf i es ++ if ev.thread = i then [ev.call] else [] := by
  rw [callsOf, callsOf, List.filter_append, List.map_append]
  by_cases hi : ev.thread = i
  · simp [hi]
  · simp [hi]

/-- **The rule for a server.** If every program serves, and the invariant makes the answers be in
    `C` and outlives every allowed operation, then after any run the invariant holds, every
    operation was allowed to its thread, and every thread serves from its own calls on. -/
theorem serves_run (hI : ∀ es i o s, I es s → A i o →
      C ⟨o, (h o s).1⟩ ∧ I (es ++ [⟨i, o, (h o s).1⟩]) (h o s).2)
    {P P' : Pool S ε α σ} {es : List (Event S)} (h0 : I [] P.state)
    (hP : ∀ (i : Nat) p, P.threads[i]? = some p → Prog.Serves C (A i) (Q i) [] p)
    (hrun : Steps (Step h) P es P') :
    I es P'.state ∧ (∀ ev ∈ es, A ev.thread ev.op) ∧
      ∀ (i : Nat) p, P'.threads[i]? = some p →
        Prog.Serves C (A i) (Q i) (callsOf i es) p := by
  induction hrun with
  | nil => exact ⟨h0, nofun, hP⟩
  | @snoc es ev P P' hrun hs ih =>
    obtain ⟨hstate, hallow, hserves⟩ := ih
    have hthreads := fun {i p} => hs.threads (i := i) (p := p)
    cases hs with
    | @mk j o k hj =>
      have hop := (hserves j _ hj).1
      obtain ⟨hok, hstate'⟩ := hI es j o P.state hstate hop
      refine ⟨hstate', ?_, fun i p hi => ?_⟩
      · intro ev hev
        rcases List.mem_append.mp hev with hev | hev
        · exact hallow ev hev
        · obtain rfl := List.mem_singleton.mp hev
          exact hop
      -- only the thread that moved has one more call
      · rw [callsOf_snoc]
        rcases hthreads hi with ⟨hne, hold⟩ | ⟨rfl, k', hold, rfl⟩
        · rw [if_neg (Ne.symm hne), List.append_nil]
          exact hserves i p hold
        · rw [if_pos rfl]
          exact (hserves i _ hold).2 _ hok

/-! ## Threads that take no part -/

section Select

variable {τ : Type} {keep : Nat → Bool}

/-- The entries at the positions that are kept. -/
def select (keep : Nat → Bool) : List τ → List τ
  | [] => []
  | t :: ts =>
      if keep 0 then t :: select (fun i => keep (i + 1)) ts else select (fun i => keep (i + 1)) ts

/-- Where a position that is kept goes. -/
def rank (keep : Nat → Bool) : Nat → Nat
  | 0 => 0
  | i + 1 => (if keep 0 then 1 else 0) + rank (fun i => keep (i + 1)) i

theorem getElem?_select {i : Nat} (hi : keep i = true) (ts : List τ) :
    (select keep ts)[rank keep i]? = ts[i]? := by
  induction ts generalizing keep i with
  | nil => simp [select]
  | cons t ts ih =>
    cases i with
    | zero => simp [select, rank, hi]
    | succ i =>
      have hrest := @ih (fun i => keep (i + 1)) i hi
      by_cases h0 : keep 0 = true
      · simp [select, rank, h0, Nat.add_comm 1, hrest]
      · simp [select, rank, h0, hrest]

theorem select_set {i : Nat} (hi : keep i = true) (ts : List τ) (t : τ) :
    select keep (ts.set i t) = (select keep ts).set (rank keep i) t := by
  induction ts generalizing keep i with
  | nil => simp [select]
  | cons t' ts ih =>
    cases i with
    | zero => simp [select, rank, hi]
    | succ i =>
      have hrest := @ih (fun i => keep (i + 1)) i hi
      by_cases h0 : keep 0 = true
      · simp [select, rank, h0, Nat.add_comm 1, hrest]
      · simp [select, rank, h0, hrest]

/-- Keeping what satisfies `q`. -/
theorem select_map {β : Type} (q : β → Bool) (f : β → τ) (l : List β) :
    select (fun i => l[i]?.any q) (l.map f) = (l.filter q).map f := by
  induction l with
  | nil => rfl
  | cons b l ih =>
    rw [List.map_cons, select, List.filter_cons]
    by_cases hb : q b = true
    · simp [hb, ← ih]
    · simp [hb, ← ih]

/-- An event of the pool without the threads that are left out. -/
def renumber (keep : Nat → Bool) (ev : Event S) : Event S := ⟨rank keep ev.thread, ev.op, ev.res⟩

/-- **Threads that are at their end can be left out.** -/
theorem steps_select {P P' : Pool S ε α σ} {es : List (Event S)}
    (hdone : ∀ (i : Nat) p, P.threads[i]? = some p → keep i = false → p.Done)
    (hrun : Steps (Step h) P es P') :
    Steps (Step h) ⟨select keep P.threads, P.state⟩ (es.map (renumber keep))
        ⟨select keep P'.threads, P'.state⟩ ∧
      (∀ (i : Nat), keep i = false → P'.threads[i]? = P.threads[i]?) ∧
      ∀ ev ∈ es, keep ev.thread = true := by
  induction hrun with
  | nil => exact ⟨.nil, fun _ _ => rfl, nofun⟩
  | @snoc es ev P₁ P₂ _ hs ih =>
    obtain ⟨hsel, hsame, hkept⟩ := ih
    cases hs with
    | @mk i o k hi =>
      -- a thread that is left out is at its end, so it cannot be the one that moves
      have hkeep : keep i = true := by
        rw [← Bool.not_eq_false]
        intro hno
        exact hdone i _ ((hsame i hno).symm.trans hi) hno
      refine ⟨?_, fun j hj => ?_, fun ev hev => ?_⟩
      · rw [List.map_append]
        refine hsel.snoc ?_
        rw [select_set hkeep]
        exact Step.mk (P := ⟨select keep P₁.threads, P₁.state⟩)
          ((getElem?_select hkeep P₁.threads).trans hi)
      · have hne : i ≠ j := by
          rintro rfl
          rw [hkeep] at hj
          cases hj
        rw [← hsame j hj]
        exact List.getElem?_set_ne hne
      · rcases List.mem_append.mp hev with hev | hev
        · exact hkept ev hev
        · obtain rfl := List.mem_singleton.mp hev
          exact hkeep

end Select

end Pool

end Lib
end PolyNotifier
