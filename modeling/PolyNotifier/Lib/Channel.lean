import Mathlib.Data.List.Infix
import Mathlib.Data.List.TakeDrop

/-!
# A bounded channel with one receiver

Senders put values at the end of a queue of limited length, the receiver takes them from its
front. Once the receiver is gone, no value is accepted any more, and what is still in the queue
is never taken.

The channel remembers what was taken, so everything it ever accepted is what was taken and what
is queued, in that order. A value is named by its position in that list (its slot), which it
keeps for good: a value that was accepted has been taken if and only if its slot is below the
number of values taken.
-/

namespace PolyNotifier
namespace Lib

/-- A bounded channel with one receiver. What was taken is kept, so that a value has one place for
    good, in the list of all that was accepted. -/
structure Channel (α : Type) where
  capacity : Nat
  taken : List α
  queue : List α
  /-- The receiver has not been dropped. -/
  alive : Bool
  bound : queue.length ≤ capacity

namespace Channel

variable {α : Type} {c c' : Channel α} {a b : α} {n : Nat}

/-- Nothing sent, and the receiver listening. -/
def new (α : Type) (capacity : Nat) : Channel α := ⟨capacity, [], [], true, Nat.zero_le _⟩

/-- Everything that was accepted, in order. -/
def accepted (c : Channel α) : List α := c.taken ++ c.queue

/-- A value is accepted if the receiver lives and there is room. Whether a sender that is not
    accepted waits or fails is for the sender to tell apart, by `alive`. -/
def push (c : Channel α) (a : α) : Option (Channel α) :=
  if h : c.alive = true ∧ c.queue.length < c.capacity then
    some { c with queue := c.queue ++ [a], bound := by simp only [List.length_append]; exact h.2 }
  else none

/-- The first value of the queue, which makes room for one more. A receiver that is gone takes
    nothing. -/
def recv (c : Channel α) : Option (α × Channel α) :=
  match h : c.queue with
  | [] => none
  | a :: rest =>
      if c.alive then
        some (a, { c with
          taken := c.taken ++ [a]
          queue := rest
          bound := by
            have := c.bound
            rw [h, List.length_cons] at this
            omega })
      else none

/-- The receiver is dropped. -/
def close (c : Channel α) : Channel α := { c with alive := false }

/-! ## What the operations do -/

theorem push_eq_some (h : c.push a = some c') :
    c.alive = true ∧ c'.alive = true ∧ c'.taken = c.taken ∧ c'.queue = c.queue ++ [a] := by
  unfold push at h
  split at h
  · rename_i hc
    cases h
    exact ⟨hc.1, hc.1, rfl, rfl⟩
  · cases h

theorem recv_eq_some (h : c.recv = some (a, c')) :
    c.alive = true ∧ c'.alive = true ∧ c'.taken = c.taken ++ [a] ∧ c.queue = a :: c'.queue := by
  unfold recv at h
  split at h
  · cases h
  · rename_i a' rest hq
    split at h
    · rename_i hc
      cases h
      exact ⟨hc, hc, rfl, hq⟩
    · cases h

theorem capacity_push (h : c.push a = some c') : c'.capacity = c.capacity := by
  unfold push at h
  split at h <;> cases h
  rfl

theorem capacity_recv (h : c.recv = some (a, c')) : c'.capacity = c.capacity := by
  unfold recv at h
  split at h
  · cases h
  · split at h <;> cases h
    rfl

/-- A receiver that lives takes what there is. -/
theorem exists_recv (halive : c.alive = true) (hqueue : c.queue ≠ []) : ∃ r, c.recv = some r := by
  unfold recv
  split
  · rename_i hempty
    exact absurd hempty hqueue
  · rw [halive]
    exact ⟨_, rfl⟩

@[simp] theorem close_alive : c.close.alive = false := rfl
@[simp] theorem close_taken : c.close.taken = c.taken := rfl
@[simp] theorem close_queue : c.close.queue = c.queue := rfl

/-- **The channel accepts at the end**, -/
theorem accepted_push (h : c.push a = some c') : c'.accepted = c.accepted ++ [a] := by
  obtain ⟨_, _, ht, hq⟩ := push_eq_some h
  rw [accepted, accepted, ht, hq, List.append_assoc]

/-- and taking a value does not change what was accepted. -/
theorem accepted_recv (h : c.recv = some (a, c')) : c'.accepted = c.accepted := by
  obtain ⟨_, _, ht, hq⟩ := recv_eq_some h
  rw [accepted, accepted, ht, hq, List.append_assoc]
  rfl

@[simp] theorem accepted_close : c.close.accepted = c.accepted := rfl

/-! ## Slots -/

/-- The value just accepted is in the next slot. -/
theorem slot_push (h : c.push a = some c') : c'.accepted[c.accepted.length]? = some a := by
  rw [accepted_push h]
  exact List.getElem?_concat_length

/-- A value keeps its slot. -/
theorem slot_push_of (h : c.push a = some c') (hn : c.accepted[n]? = some b) :
    c'.accepted[n]? = some b := by
  rw [accepted_push h, List.getElem?_append_left (List.getElem?_eq_some_iff.mp hn).1]
  exact hn

/-- **A value was taken, or it is still queued.** -/
theorem slot_cases (h : c.accepted[n]? = some a) :
    c.taken[n]? = some a ∨
      ∃ k, n = c.taken.length + k ∧ c.queue[k]? = some a := by
  rw [accepted] at h
  by_cases hn : n < c.taken.length
  · left
    rwa [List.getElem?_append_left hn] at h
  · right
    rw [List.getElem?_append_right (by omega)] at h
    exact ⟨n - c.taken.length, by omega, h⟩

end Channel

end Lib
end PolyNotifier
