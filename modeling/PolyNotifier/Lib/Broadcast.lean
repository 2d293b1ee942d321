import Mathlib.Data.List.Infix
import Mathlib.Data.List.TakeDrop

/-!
# A broadcast channel, seen by one of its receivers

Every value that is sent stays in the channel until `capacity` later ones have been sent. A
receiver that has fallen behind further than that is told once how many values it has missed, and
goes on with the oldest one that is left.

The channel remembers what was sent since the receiver subscribed, and the receiver what it got
and how much it missed. So what it got is a sublist of what was sent, in the order it was sent in,
and what is missing has been reported: this is carried by the structure.
-/

namespace PolyNotifier
namespace Lib

/-- A broadcast channel, seen by one of its receivers. All that was ever sent is kept, and the
    capacity only says how far back the receiver can still reach: the ring buffer is a matter of
    storage. That what was received is a part of what was sent, in order, is in the type. -/
structure Broadcast (α : Type) where
  capacity : Nat
  sent : List α
  /-- The position the receiver reads next. -/
  next : Nat
  received : List α
  missed : Nat
  bound : next ≤ sent.length
  sublist : received.Sublist (sent.take next)
  count : received.length + missed = next

namespace Broadcast

variable {α : Type} {c c' : Broadcast α} {a : α} {n : Nat}

/-- A new receiver. -/
def subscribe (capacity : Nat) : Broadcast α := ⟨capacity, [], 0, [], 0, Nat.le_refl 0, .slnil, rfl⟩

/-- How far the receiver is behind. -/
def behind (c : Broadcast α) : Nat := c.sent.length - c.next

/-- Sending never waits and never fails: a receiver that is too slow finds out when it reads next.
    -/
def send (c : Broadcast α) (as : List α) : Broadcast α where
  capacity := c.capacity
  sent := c.sent ++ as
  next := c.next
  received := c.received
  missed := c.missed
  bound := by
    rw [List.length_append]
    exact Nat.le_add_right_of_le c.bound
  sublist := by
    rw [List.take_append_of_le_length c.bound]
    exact c.sublist
  count := c.count

/-- The next value, if the channel still has it. A receiver that has fallen behind by more than the
    capacity has to be told so first (`lag`): the value it would read has been overwritten. -/
def recv (c : Broadcast α) : Option (α × Broadcast α) :=
  if c.capacity < c.behind then none
  else
    match h : c.sent[c.next]? with
    | none => none
    | some a => some (a, {
        capacity := c.capacity
        sent := c.sent
        next := c.next + 1
        received := c.received ++ [a]
        missed := c.missed
        bound := (List.getElem?_eq_some_iff.mp h).1
        sublist := by
          rw [List.take_add_one, h]
          exact c.sublist.append (List.Sublist.refl _)
        count := by
          rw [List.length_append, List.length_singleton, Nat.add_right_comm, c.count] })

/-- The receiver is told how many values are gone, and goes on with the oldest that the channel
    still has. What it missed is counted, so that sent, received and missed add up. -/
def lag (c : Broadcast α) : Option (Nat × Broadcast α) :=
  if h : c.capacity < c.behind then
    some (c.behind - c.capacity, {
      capacity := c.capacity
      sent := c.sent
      next := c.sent.length - c.capacity
      received := c.received
      missed := c.missed + (c.behind - c.capacity)
      bound := Nat.sub_le _ _
      sublist := by
        unfold behind at h
        have hle : c.next ≤ c.sent.length - c.capacity := by omega
        exact c.sublist.trans (List.take_sublist_take_left hle)
      count := by
        have hcount := c.count
        unfold behind at h ⊢
        omega })
  else none

/-! ## What the operations do -/

theorem recv_eq_some (h : c.recv = some (a, c')) :
    c'.sent = c.sent ∧ c'.received = c.received ++ [a] ∧ c'.missed = c.missed ∧ a ∈ c.sent := by
  unfold recv at h
  split at h
  · cases h
  · split at h
    · cases h
    · rename_i hget
      cases h
      exact ⟨rfl, rfl, rfl, List.mem_of_getElem? hget⟩

theorem next_recv (h : c.recv = some (a, c')) : c'.next = c.next + 1 := by
  unfold recv at h
  split at h
  · cases h
  · split at h <;> cases h
    rfl

theorem next_lag (h : c.lag = some (n, c')) : c.next < c'.next := by
  unfold lag at h
  split at h
  · rename_i hbehind
    cases h
    unfold behind at hbehind
    dsimp only
    omega
  · cases h

/-- A receiver that is behind has something to do. -/
theorem exists_recv_or_lag (h : c.next < c.sent.length) :
    (∃ r, c.recv = some r) ∨ ∃ r, c.lag = some r := by
  by_cases hbehind : c.capacity < c.behind
  · right
    unfold lag
    rw [dif_pos hbehind]
    exact ⟨_, rfl⟩
  · left
    unfold recv
    rw [if_neg hbehind]
    split
    · rename_i hnone
      exact absurd (List.getElem?_eq_none_iff.mp hnone) (Nat.not_le_of_lt h)
    · exact ⟨_, rfl⟩

theorem lag_eq_some (h : c.lag = some (n, c')) :
    c'.sent = c.sent ∧ c'.received = c.received ∧ c'.missed = c.missed + n ∧ 0 < n := by
  unfold lag at h
  split at h
  · rename_i hlt
    cases h
    exact ⟨rfl, rfl, rfl, Nat.sub_pos_of_lt hlt⟩
  · cases h

/-- **A receiver that has missed nothing has got a prefix of what was sent.** -/
theorem received_of_missed (h : c.missed = 0) : c.received = c.sent.take c.next := by
  refine c.sublist.eq_of_length ?_
  have hcount := c.count
  rw [h, Nat.add_zero] at hcount
  rw [hcount, List.length_take, Nat.min_eq_left c.bound]

end Broadcast

end Lib
end PolyNotifier
