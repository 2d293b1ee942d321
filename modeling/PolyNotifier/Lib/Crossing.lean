import Mathlib.Data.Nat.Init
import Mathlib.Order.Lattice
import Mathlib.Tactic.Common

/-!
# Crossings of a threshold

A detector that sees two neighbouring values of a sequence reports a crossing when the first is
strictly on one side of the threshold and the second at it or beyond. A value at the threshold is
on no side: the sequence that comes to it has crossed, the one that leaves it has not.

So nothing is lost and nothing is counted twice: between two values on opposite sides there is a
crossing, and along a monotone stretch there is only one, however long it stays at the threshold.
The downward results are the upward ones of the dual order.
-/

namespace PolyNotifier
namespace Lib
namespace Crossing

universe u

variable {α : Type u} [LinearOrder α]

def Up (threshold prev current : α) : Prop := prev < threshold ∧ threshold ≤ current

def Down (threshold prev current : α) : Prop := threshold < prev ∧ current ≤ threshold

/-- What the detector reports of two neighbouring values. The side the value comes from is strict
    and the side it goes to is not, so a value at the threshold is on the far side of whichever way
    it was reached, and a run of such values is reported once. -/
def Crosses (threshold prev current : α) : Prop :=
  Up threshold prev current ∨ Down threshold prev current

/-- Strictly on opposite sides. -/
def Opposite (threshold a b : α) : Prop :=
  a < threshold ∧ threshold < b ∨ b < threshold ∧ threshold < a

/-- Strictly on one and the same side. -/
def SameSide (threshold : α) (f : ℕ → α) (i j : ℕ) : Prop :=
  (∀ k, i ≤ k → k ≤ j → f k < threshold) ∨ ∀ k, i ≤ k → k ≤ j → threshold < f k

def Rises (f : ℕ → α) (i j : ℕ) : Prop := ∀ k l, i ≤ k → k ≤ l → l ≤ j → f k ≤ f l

def Falls (f : ℕ → α) (i j : ℕ) : Prop := ∀ k l, i ≤ k → k ≤ l → l ≤ j → f l ≤ f k

variable {T : α} {f : ℕ → α} {i j : ℕ}

theorem exists_up (hij : i ≤ j) (hi : f i < T) (hj : T ≤ f j) :
    ∃ k, i ≤ k ∧ k < j ∧ Up T (f k) (f (k + 1)) := by
  induction j, hij using Nat.le_induction with
  | base => exact absurd hj (not_le_of_gt hi)
  | succ j hij ih =>
    rcases le_or_gt T (f j) with h | h
    · obtain ⟨k, hik, hkj, hup⟩ := ih h
      exact ⟨k, hik, Nat.lt_succ_of_lt hkj, hup⟩
    · -- the last step is the one
      exact ⟨j, hij, Nat.lt_succ_self j, h, hj⟩

theorem exists_down (hij : i ≤ j) (hi : T < f i) (hj : f j ≤ T) :
    ∃ k, i ≤ k ∧ k < j ∧ Down T (f k) (f (k + 1)) :=
  exists_up (α := αᵒᵈ) (f := fun k => OrderDual.toDual (f k)) (T := OrderDual.toDual T) hij hi hj

/-- **No crossing is missed.** -/
theorem exists_crosses (hij : i < j) (h : Opposite T (f i) (f j)) :
    ∃ k, i ≤ k ∧ k < j ∧ Crosses T (f k) (f (k + 1)) := by
  rcases h with ⟨hi, hj⟩ | ⟨hj, hi⟩
  · obtain ⟨k, hik, hkj, hup⟩ := exists_up hij.le hi hj.le
    exact ⟨k, hik, hkj, .inl hup⟩
  · obtain ⟨k, hik, hkj, hdown⟩ := exists_down hij.le hi hj.le
    exact ⟨k, hik, hkj, .inr hdown⟩

/-- What rises does not cross downward, and is at the threshold or beyond for good once it has
    crossed it. -/
theorem up_unique (hmono : Rises f i j) {k l : ℕ} (hik : i ≤ k) (hkj : k < j) (hil : i ≤ l)
    (hlj : l < j) (hk : Crosses T (f k) (f (k + 1))) (hl : Crosses T (f l) (f (l + 1))) :
    k = l := by
  have hup : ∀ n, i ≤ n → n < j → Crosses T (f n) (f (n + 1)) → Up T (f n) (f (n + 1)) := by
    intro n hin hnj hn
    rcases hn with hn | ⟨habove, hbelow⟩
    · exact hn
    · have hstep := hmono n (n + 1) hin (Nat.le_succ n) hnj
      exact absurd (lt_of_lt_of_le habove (le_trans hstep hbelow)) (lt_irrefl T)
  have hlt : ∀ m n, i ≤ m → n < j → Up T (f m) (f (m + 1)) → Up T (f n) (f (n + 1)) →
      ¬ m < n := by
    intro m n him hnj hm hn hmn
    have hstay := hmono (m + 1) n (Nat.le_succ_of_le him) hmn hnj.le
    exact absurd (lt_of_lt_of_le hn.1 (le_trans hm.2 hstay)) (lt_irrefl _)
  have hk := hup k hik hkj hk
  have hl := hup l hil hlj hl
  exact le_antisymm (not_lt.mp (hlt l k hil hkj hl hk)) (not_lt.mp (hlt k l hik hlj hk hl))

theorem down_unique (hmono : Falls f i j) {k l : ℕ} (hik : i ≤ k) (hkj : k < j) (hil : i ≤ l)
    (hlj : l < j) (hk : Crosses T (f k) (f (k + 1))) (hl : Crosses T (f l) (f (l + 1))) :
    k = l :=
  up_unique (α := αᵒᵈ) (f := fun k => OrderDual.toDual (f k)) (T := OrderDual.toDual T) hmono hik
    hkj hil hlj hk.symm hl.symm

/-- **On one side there is no crossing.** -/
theorem not_crosses (h : SameSide T f i j) {k : ℕ} (hik : i ≤ k) (hkj : k < j) :
    ¬ Crosses T (f k) (f (k + 1)) := by
  rintro (⟨hbefore, hnow⟩ | ⟨hbefore, hnow⟩)
  · rcases h with h | h
    · exact absurd hnow (not_le_of_gt (h (k + 1) (Nat.le_succ_of_le hik) hkj))
    · exact lt_asymm hbefore (h k hik hkj.le)
  · rcases h with h | h
    · exact lt_asymm hbefore (h k hik hkj.le)
    · exact absurd hnow (not_le_of_gt (h (k + 1) (Nat.le_succ_of_le hik) hkj))

end Crossing
end Lib
end PolyNotifier
