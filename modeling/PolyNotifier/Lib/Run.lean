import Mathlib.Data.List.Induction

/-!
# Runs of a labelled transition system

A state machine takes one labelled step after another: an event of a loop, a message, one
statement of one of several concurrent tasks. What is proved of it is an invariant: it holds at
the start, every step keeps it, so it holds after every run. Where only the steps that meet a
side condition keep it, the side condition is part of the relation and the run is a run of the
restricted system.

A run grows at its end: the last step is the one an invariant argument looks at, and the label
list reads in the order things happened. It also splits wherever its labels do.
-/

namespace PolyNotifier
namespace Lib

universe u v

variable {σ : Type u} {ε : Type v}

/-- `Steps step s es t`: from `s`, the steps labelled `es`, in that order, lead to `t`. A run grows
    at its end, so an induction adds the last step to an invariant that holds before it; `cons` and
    `append` are for putting runs together. -/
inductive Steps (step : σ → ε → σ → Prop) (s : σ) : List ε → σ → Prop
  | nil : Steps step s [] s
  | snoc {es : List ε} {e : ε} {a b : σ} : Steps step s es a → step a e b →
      Steps step s (es ++ [e]) b

namespace Steps

variable {step : σ → ε → σ → Prop} {s t : σ} {es : List ε}

/-- **The invariant rule.** -/
theorem inv {I : σ → Prop} (h : Steps step s es t) (h0 : I s)
    (hstep : ∀ a e b, I a → step a e b → I b) : I t := by
  induction h with
  | nil => exact h0
  | snoc _ hs ih => exact hstep _ _ _ ih hs

/-- Every step of a run starts where the invariant holds. -/
theorem inv_at {I : σ → Prop} (h : Steps step s es t) (h0 : I s)
    (hstep : ∀ a e b, I a → step a e b → I b) {e : ε} (he : e ∈ es) :
    ∃ a b, I a ∧ step a e b := by
  induction h with
  | nil => cases he
  | snoc hrun hs ih =>
    rcases List.mem_append.mp he with he | he
    · exact ih he
    · obtain rfl := List.mem_singleton.mp he
      exact ⟨_, _, hrun.inv h0 hstep, hs⟩

/-- A run of a restricted system is a run of the system. -/
theorem mono {step' : σ → ε → σ → Prop} (h : Steps step s es t)
    (hsub : ∀ a e b, step a e b → step' a e b) : Steps step' s es t := by
  induction h with
  | nil => exact .nil
  | snoc _ hs ih => exact ih.snoc (hsub _ _ _ hs)

/-- Runs compose. -/
theorem append {es' : List ε} {r : σ} (h : Steps step s es t) (h' : Steps step t es' r) :
    Steps step s (es ++ es') r := by
  induction h' with
  | nil => simpa using h
  | snoc _ hs ih => rw [← List.append_assoc]; exact ih.snoc hs

/-- A run seen from its first step. -/
theorem cons {e : ε} {a : σ} (h : step s e a) (h' : Steps step a es t) :
    Steps step s (e :: es) t := by
  simpa using (Steps.nil.snoc h).append h'

/-- A run seen from its last step. -/
theorem snoc_inv {e : ε} (h : Steps step s (es ++ [e]) t) :
    ∃ a, Steps step s es a ∧ step a e t := by
  generalize hl : es ++ [e] = l at h
  cases h with
  | nil => simp at hl
  | snoc hrun hs =>
    obtain ⟨rfl, he⟩ := List.append_inj' hl rfl
    obtain rfl : e = _ := by simpa using he
    exact ⟨_, hrun, hs⟩

/-- Every split of the labels is a split of the run. -/
theorem split {es' : List ε} (h : Steps step s (es ++ es') t) :
    ∃ m, Steps step s es m ∧ Steps step m es' t := by
  induction es' using List.reverseRecOn generalizing t with
  | nil => exact ⟨t, by simpa using h, .nil⟩
  | append_singleton es' e ih =>
    rw [← List.append_assoc] at h
    obtain ⟨a, hrun, hs⟩ := h.snoc_inv
    obtain ⟨m, h1, h2⟩ := ih hrun
    exact ⟨m, h1, h2.snoc hs⟩

/-- A run seen from one of its steps. -/
theorem split_at {es' : List ε} {e : ε} (h : Steps step s (es ++ e :: es') t) :
    ∃ a b, Steps step s es a ∧ step a e b ∧ Steps step b es' t := by
  have heq : es ++ e :: es' = (es ++ [e]) ++ es' := by simp
  rw [heq] at h
  obtain ⟨b, hfirst, hrest⟩ := h.split
  obtain ⟨a, hrun, hs⟩ := hfirst.snoc_inv
  exact ⟨a, b, hrun, hs, hrest⟩

theorem cons_inv {e : ε} (h : Steps step s (e :: es) t) :
    ∃ a, step s e a ∧ Steps step a es t := by
  have heq : e :: es = [] ++ e :: es := rfl
  rw [heq] at h
  obtain ⟨a, b, hnil, hs, hrest⟩ := h.split_at
  have hstart : a = s := by
    generalize hl : ([] : List ε) = l at hnil
    cases hnil with
    | nil => rfl
    | snoc => simp at hl
  rw [hstart] at hs
  exact ⟨b, hs, hrest⟩

/-- What holds at the start and not at the end is lost at one of the steps. -/
theorem lost_at {I : σ → Prop} (h : Steps step s es t) (h0 : I s) (ht : ¬ I t) :
    ∃ es' a e b, Steps step s es' a ∧ step a e b ∧ I a ∧ ¬ I b := by
  induction h with
  | nil => exact absurd h0 ht
  | @snoc es e a b hrun hs ih =>
    by_cases ha : I a
    · exact ⟨es, a, e, b, hrun, hs, ha, ht⟩
    · exact ih ha

/-- **The simulation rule.** If every step of one system is matched by some steps of another, then
    so is every run. -/
theorem simulate {τ : Type*} {δ : Type*} {step' : τ → δ → τ → Prop} {R : σ → τ → Prop}
    (hstep : ∀ a e b a', R a a' → step a e b → ∃ ds b', Steps step' a' ds b' ∧ R b b')
    (h : Steps step s es t) {s' : τ} (h0 : R s s') : ∃ ds t', Steps step' s' ds t' ∧ R t t' := by
  induction h with
  | nil => exact ⟨[], s', .nil, h0⟩
  | snoc _ hs ih =>
    obtain ⟨ds, a', hrun, hR⟩ := ih
    obtain ⟨ds', b', hrun', hR'⟩ := hstep _ _ _ _ hR hs
    exact ⟨ds ++ ds', b', hrun.append hrun', hR'⟩

end Steps

/-! ## What was so at some point of a run -/

/-- The run passes a state of which `P` holds. -/
def Visits (step : σ → ε → σ → Prop) (s : σ) (es : List ε) (t : σ) (P : σ → Prop) : Prop :=
  ∃ es₁ es₂ a, es = es₁ ++ es₂ ∧ Steps step s es₁ a ∧ Steps step a es₂ t ∧ P a

namespace Visits

variable {step : σ → ε → σ → Prop} {s t u : σ} {es : List ε} {e : ε} {P Q : σ → Prop}

/-- The state a run ends in. -/
theorem last (h : Steps step s es t) (hP : P t) : Visits step s es t P :=
  ⟨es, [], t, (List.append_nil es).symm, h, .nil, hP⟩

/-- **What a run has passed, it has passed for good.** -/
theorem snoc (h : Visits step s es t P) (hs : step t e u) : Visits step s (es ++ [e]) u P := by
  obtain ⟨es₁, es₂, a, rfl, h₁, h₂, hP⟩ := h
  exact ⟨es₁, es₂ ++ [e], a, by rw [List.append_assoc], h₁, h₂.snoc hs, hP⟩

theorem imp (h : Visits step s es t P) (hPQ : ∀ a, P a → Q a) : Visits step s es t Q := by
  obtain ⟨es₁, es₂, a, heq, h₁, h₂, hP⟩ := h
  exact ⟨es₁, es₂, a, heq, h₁, h₂, hPQ a hP⟩

end Visits

/-! ## Deterministic systems

A step that is a function `σ → ε → Option σ` (`none`: the step cannot be taken) runs a list of
labels by `List.foldlM`. -/

/-- What the function computes is a run. -/
theorem steps_of_foldlM {f : σ → ε → Option σ} {es : List ε} {s t : σ}
    (h : es.foldlM f s = some t) : Steps (fun a e b => f a e = some b) s es t := by
  induction es generalizing s with
  | nil =>
    cases h
    exact .nil
  | cons e es ih =>
    rw [List.foldlM_cons] at h
    obtain ⟨a, ha, hrest⟩ := Option.bind_eq_some_iff.mp h
    exact .cons ha (ih hrest)

/-! A step that is a total function is restricted by a condition on the state and the label. -/

section Each

variable (f : σ → ε → σ) (P : σ → ε → Prop)

/-- The condition holds of each label in the state it comes in. It is for steps that are functions,
    where the states of a run are settled by its labels. -/
def Each : σ → List ε → Prop
  | _, [] => True
  | s, e :: es => P s e ∧ Each (f s e) es

variable {f P}

/-- What the function computes is a run. -/
theorem Each.steps {es : List ε} {s : σ} (h : Each f P s es) :
    Steps (fun a e b => P a e ∧ b = f a e) s es (es.foldl f s) := by
  induction es generalizing s with
  | nil => exact .nil
  | cons e es ih => exact .cons ⟨h.1, rfl⟩ (ih h.2)

end Each

end Lib
end PolyNotifier
