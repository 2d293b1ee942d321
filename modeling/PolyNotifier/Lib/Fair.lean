import Mathlib.Order.WellFounded
import PolyNotifier.Lib.Run

/-!
# Runs without end

What a system does in the end can only be said of its endless runs, and only if they are fair: what
can be done again and again is done again and again. `Fair.leads` is the rule for one such thing,
`Fair.exhausts` the one for a task whose steps wear out a rank: from some point on it has nothing
left to do.
-/

namespace PolyNotifier
namespace Lib

universe u v w

variable {σ : Type u} {ε : Type v} {step : σ → ε → σ → Prop}

/-- An endless run: a state and a label for every number. Runs that come to an end are `Steps`;
    here what matters is what happens in the end, and for that there has to be no last step. -/
structure Endless (step : σ → ε → σ → Prop) where
  state : Nat → σ
  label : Nat → ε
  steps : ∀ n, step (state n) (label n) (state (n + 1))

/-- A step with a label in `A` can be taken. -/
def Enabled (step : σ → ε → σ → Prop) (A : ε → Prop) (s : σ) : Prop := ∃ e t, A e ∧ step s e t

theorem Enabled.of_step {A : ε → Prop} {s t : σ} {e : ε} (h : step s e t) (hA : A e) :
    Enabled step A s := ⟨e, t, hA, h⟩

/-- Again and again. -/
def Often (P : Nat → Prop) : Prop := ∀ n, ∃ m, n ≤ m ∧ P m

namespace Endless

variable (r : Endless step) {A : ε → Prop} {n m : Nat}

/-- If such a step can be taken again and again, it is. This is strong fairness: the step need not
    be possible all the time, only ever again, which is what a branch of a `select!` has that is
    not looked at while another one runs. -/
def Fair (A : ε → Prop) : Prop :=
  Often (fun n => Enabled step A (r.state n)) → Often fun n => A (r.label n)

/-- **The invariant rule.** -/
theorem inv {I : σ → Prop} (hstep : ∀ s e t, I s → step s e t → I t) (hle : n ≤ m)
    (h : I (r.state n)) : I (r.state m) := by
  induction m, hle using Nat.le_induction with
  | base => exact h
  | succ m _ ih => exact hstep _ _ _ ih (r.steps m)

/-- A list that no step shortens only grows. -/
theorem grows {α : Type*} {f : σ → List α} (hstep : ∀ s e t, step s e t → f s <+: f t)
    (hle : n ≤ m) : f (r.state n) <+: f (r.state m) :=
  r.inv (I := fun s => f (r.state n) <+: f s) (fun _ _ _ hs h => hs.trans (hstep _ _ _ h)) hle
    (List.prefix_refl _)

/-- Every beginning of the run is a run. -/
theorem run (n : Nat) : Steps step (r.state 0) ((List.range n).map r.label) (r.state n) := by
  induction n with
  | zero => exact .nil
  | succ n ih =>
    rw [List.range_succ, List.map_append, List.map_singleton]
    exact ih.snoc (r.steps n)

/-- And so is what comes after. -/
theorem run_from (hle : n ≤ m) : ∃ es, Steps step (r.state n) es (r.state m) := by
  induction m, hle using Nat.le_induction with
  | base => exact ⟨[], .nil⟩
  | succ m _ ih =>
    obtain ⟨es, hes⟩ := ih
    exact ⟨_, hes.snoc (r.steps m)⟩

variable {r}

/-- **The rule of the next step.** While `P` holds the step can be taken again and again, and
    nothing but what leads to `Q` ends it; so the step is taken, and leads to `Q`. -/
theorem Fair.leads_of_often {P Q : σ → Prop} (hfair : r.Fair A)
    (hoften : (∀ m, n ≤ m → P (r.state m)) → Often fun k => Enabled step A (r.state k))
    (hkept : ∀ s e t, P s → step s e t → P t ∨ Q t)
    (hdone : ∀ s e t, P s → A e → step s e t → Q t) (h : P (r.state n)) :
    ∃ m, n ≤ m ∧ Q (r.state m) := by
  by_contra hnever
  have hP : ∀ m, n ≤ m → P (r.state m) := by
    intro m hle
    induction m, hle using Nat.le_induction with
    | base => exact h
    | succ m hle ih =>
      refine (hkept _ _ _ ih (r.steps m)).resolve_right fun hQ => ?_
      exact hnever ⟨m + 1, Nat.le_succ_of_le hle, hQ⟩
  obtain ⟨m, hle, hA⟩ := hfair (hoften hP) n
  exact hnever ⟨m + 1, Nat.le_succ_of_le hle, hdone _ _ _ (hP m hle) hA (r.steps m)⟩

/-- The same where the step can be taken all the time. -/
theorem Fair.leads {P Q : σ → Prop} (hfair : r.Fair A) (henabled : ∀ s, P s → Enabled step A s)
    (hkept : ∀ s e t, P s → step s e t → P t ∨ Q t)
    (hdone : ∀ s e t, P s → A e → step s e t → Q t) (h : P (r.state n)) :
    ∃ m, n ≤ m ∧ Q (r.state m) := by
  refine hfair.leads_of_often (fun hP k => ?_) hkept hdone h
  exact ⟨max n k, Nat.le_max_right n k, henabled _ (hP _ (Nat.le_max_left n k))⟩

/-- **The rule of the rank.** If every step of the task lowers the rank, and no other step raises
    it, as long as `I` holds, then from some point on the task has no step to take. -/
theorem Fair.exhausts {W : Type w} [Preorder W] [WellFoundedLT W] {rank : σ → W} {I : σ → Prop}
    (hfair : r.Fair A) (hI : ∀ m, n ≤ m → I (r.state m))
    (hle : ∀ s e t, I s → step s e t → rank t ≤ rank s)
    (hlt : ∀ s e t, I s → A e → step s e t → rank t < rank s) :
    ∃ m, n ≤ m ∧ ∀ k, m ≤ k → ¬ Enabled step A (r.state k) := by
  have hfalls : ∀ m, n ≤ m → ∀ k, m ≤ k → rank (r.state k) ≤ rank (r.state m) := by
    intro m hm k hk
    induction k, hk using Nat.le_induction with
    | base => exact le_refl _
    | succ k hk ih => exact (hle _ _ _ (hI k (hm.trans hk)) (r.steps k)).trans ih
  -- the rank is lowest at some point, and no step of the task is taken from there on
  obtain ⟨_, ⟨m, hm, rfl⟩, hmin⟩ := WellFounded.has_min (wellFounded_lt (α := W))
    {v | ∃ m, n ≤ m ∧ rank (r.state m) = v} ⟨_, n, Nat.le_refl n, rfl⟩
  have hquiet : ∀ k, m ≤ k → ¬ A (r.label k) := by
    intro k hk hA
    have hlower := (hlt _ _ _ (hI k (hm.trans hk)) hA (r.steps k)).trans_le (hfalls m hm k hk)
    exact hmin _ ⟨k + 1, Nat.le_succ_of_le (hm.trans hk), rfl⟩ hlower
  by_contra hnever
  have hoften : Often fun k => Enabled step A (r.state k) := by
    intro k
    by_contra hnone
    refine hnever ⟨max m k, hm.trans (Nat.le_max_left m k), fun j hj henabled => hnone ?_⟩
    exact ⟨j, (Nat.le_max_right m k).trans hj, henabled⟩
  obtain ⟨k, hk, hA⟩ := hfair hoften m
  exact hquiet k hk hA

/-! ## Runs that come to rest -/

/-- Nothing to be fair to. -/
theorem Fair.of_disabled (h : ∀ m, n ≤ m → ¬ Enabled step A (r.state m)) : r.Fair A := by
  intro hoften
  obtain ⟨m, hle, henabled⟩ := hoften n
  exact absurd henabled (h m hle)

/-- One step, and then the run. -/
def cons {s : σ} {e : ε} (r : Endless step) (h : step s e (r.state 0)) : Endless step where
  state
    | 0 => s
    | n + 1 => r.state n
  label
    | 0 => e
    | n + 1 => r.label n
  steps
    | 0 => h
    | n + 1 => r.steps n

/-- A run that ends where an endless one begins goes on with it. -/
theorem exists_append {s : σ} {es : List ε} (r : Endless step) (h : Steps step s es (r.state 0)) :
    ∃ r' : Endless step, r'.state 0 = s ∧ (∀ n, r'.state (es.length + n) = r.state n) ∧
      (∀ n, r'.label (es.length + n) = r.label n) ∧ ∀ (n : Nat) e, es[n]? = some e →
        r'.label n = e := by
  induction es generalizing s with
  | nil =>
    generalize hl : ([] : List ε) = l at h
    cases h with
    | nil => exact ⟨r, rfl, fun n => by rw [List.length_nil, Nat.zero_add],
        fun n => by rw [List.length_nil, Nat.zero_add], nofun⟩
    | snoc => simp at hl
  | cons e' es ih =>
    obtain ⟨a, hs, hrest⟩ := h.cons_inv
    obtain ⟨r', hstart, hstate, hlabel, hfirst⟩ := ih hrest
    refine ⟨r'.cons (hstart ▸ hs), rfl, fun n => ?_, fun n => ?_, fun n e hn => ?_⟩
    · rw [List.length_cons, Nat.add_right_comm]
      exact hstate n
    · rw [List.length_cons, Nat.add_right_comm]
      exact hlabel n
    · cases n with
      | zero => exact Option.some.inj hn
      | succ n => exact hfirst n e hn

/-- Round and round between two states. -/
def alternate {s t : σ} {e e' : ε} (hs : step s e t) (ht : step t e' s) : Endless step where
  state n := if n % 2 = 0 then s else t
  label n := if n % 2 = 0 then e else e'
  steps n := by
    rcases Nat.mod_two_eq_zero_or_one n with h | h
    · have hnext : (n + 1) % 2 = 1 := by omega
      rw [if_pos h, if_pos h, hnext, if_neg (Nat.succ_ne_zero 0)]
      exact hs
    · have hnext : (n + 1) % 2 = 0 := by omega
      rw [if_pos hnext, h, if_neg (Nat.succ_ne_zero 0), if_neg (Nat.succ_ne_zero 0)]
      exact ht

theorem state_alternate {s t : σ} {e e' : ε} (hs : step s e t) (ht : step t e' s) (n : Nat) :
    (alternate hs ht).state n = s ∨ (alternate hs ht).state n = t :=
  (ite_eq_or_eq (n % 2 = 0) s t)

theorem label_alternate {s t : σ} {e e' : ε} (hs : step s e t) (ht : step t e' s) (n : Nat) :
    (alternate hs ht).label n = e ∨ (alternate hs ht).label n = e' :=
  (ite_eq_or_eq (n % 2 = 0) e e')

/-- **A run whose last state can stay as it is.** -/
theorem exists_stay {s t : σ} {es : List ε} {e : ε} (h : Steps step s es t) (hloop : step t e t) :
    ∃ r : Endless step, r.state 0 = s ∧ ∀ n, es.length ≤ n → r.state n = t := by
  obtain ⟨r, hstart, hstate, _⟩ :=
    exists_append (⟨fun _ => t, fun _ => e, fun _ => hloop⟩ : Endless step) h
  refine ⟨r, hstart, fun n hn => ?_⟩
  rw [← Nat.add_sub_cancel' hn]
  exact hstate _

end Endless

end Lib
end PolyNotifier
