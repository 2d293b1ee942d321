import Mathlib.Data.Rat.Floor
import Mathlib.Tactic.Linarith
import Mathlib.Tactic.Positivity

/-!
# Rounding a rational number to a binary format

A binary floating-point format has so many digits and a smallest last place. A number that is not
too large for it is rounded in two steps. The first finds the place of the last digit: the leading
digit of the number decides it, unless the number is so small that the format has no place further
down. The second rounds to a multiple of that place, ties to even.

Overflow and the sign of a zero are left to whoever has them: `BinaryFormat.round` gives a number,
and for a number that is too large, the number the format would have if its exponents went on.
-/

namespace PolyNotifier
namespace Lib

/-! ## To an integer -/

/-- `n / d`, rounded to the nearest integer, ties to even. -/
def divHalfEven (n d : Nat) : Nat :=
  let q := n / d
  let r := n % d
  if 2 * r < d then q else if 2 * r > d then q + 1 else if q % 2 = 0 then q else q + 1

theorem divHalfEven_le (n d : Nat) : divHalfEven n d ≤ n / d + 1 := by
  unfold divHalfEven
  dsimp only
  split_ifs <;> omega

/-- Rounding does not pass an integer. -/
theorem divHalfEven_le_of_le {n m d : Nat} (hd : 0 < d) (h : n ≤ m * d) :
    divHalfEven n d ≤ m := by
  have hq : n / d ≤ m := Nat.div_le_of_le_mul (by rwa [Nat.mul_comm])
  rcases hq.lt_or_eq with hlt | rfl
  · exact (divHalfEven_le n d).trans hlt
  · -- at the integer itself nothing is left over
    have hr : n % d = 0 := by
      have hsplit := Nat.div_add_mod n d
      rw [Nat.mul_comm] at h
      omega
    unfold divHalfEven
    dsimp only
    rw [hr, if_pos (by omega)]

/-! ## To a format -/

/-- The place `k` of the leading binary digit of `n / d`, which is at least `2 ^ k` and less than
    `2 ^ (k + 1)`. The lengths of the two numbers leave two places, and one comparison tells them
    apart. -/
def leadingPlace (n d : Nat) : Int :=
  let k := (n.log2 : Int) - d.log2
  if n * 2 ^ (-k).toNat < d * 2 ^ k.toNat then k - 1 else k

theorem leadingPlace_nonpos {n d : Nat} (h : n ≤ d) : leadingPlace n d ≤ 0 := by
  have hlog : n.log2 ≤ d.log2 := by
    rcases Nat.eq_zero_or_pos n with rfl | hn
    · simp
    · exact (Nat.le_log2 (by omega)).mpr ((Nat.log2_self_le (by omega)).trans h)
  unfold leadingPlace
  dsimp only
  split <;> omega

/-- A format of binary numbers with a bounded number of digits and a smallest place, below which
    there is nothing. There is no largest number: what overflows is for the user of the format to
    say. -/
structure BinaryFormat where
  /-- How many digits a number has, the leading one included. -/
  precision : Nat
  /-- The smallest place of a last digit. -/
  minPlace : Int
  precision_pos : 0 < precision
  minPlace_nonpos : minPlace ≤ 0

namespace BinaryFormat

variable (F : BinaryFormat)

/-- The place of the last digit that `n / d` keeps: as many digits as there are, counted from the
    leading one, but none below the smallest place. -/
def lastPlace (n d : Nat) : Int := max F.minPlace (leadingPlace n d - (F.precision - 1))

/-- The nearest number of the format, ties to even. The place may be before or after the point, so
    one of the two powers is `1`. -/
def round (q : ℚ) : ℚ :=
  let e := F.lastPlace q.num.natAbs q.den
  let m := divHalfEven (q.num.natAbs * 2 ^ (-e).toNat) (q.den * 2 ^ e.toNat)
  mkRat (q.num.sign * (m * 2 ^ e.toNat : Nat)) (2 ^ (-e).toNat)

theorem round_nonneg {q : ℚ} (h : 0 ≤ q) : 0 ≤ F.round q := by
  unfold round
  dsimp only
  rw [Rat.mkRat_eq_div]
  have hsign : 0 ≤ q.num.sign := Int.sign_nonneg_iff.mpr (Rat.num_nonneg.mpr h)
  positivity

/-- **Rounding does not pass one**: it is a multiple of every place a smaller number may end at. -/
theorem round_le_one {q : ℚ} (h0 : 0 ≤ q) (h1 : q ≤ 1) : F.round q ≤ 1 := by
  have hnum : (q.num.natAbs : Int) = q.num := Int.natAbs_of_nonneg (Rat.num_nonneg.mpr h0)
  have hle : q.num.natAbs ≤ q.den := by
    have hq := Rat.num_div_den q
    rw [← hq, div_le_one (by exact_mod_cast q.den_pos)] at h1
    have h1' : q.num ≤ q.den := by exact_mod_cast h1
    omega
  -- the last place kept is no whole number above one, so nothing is scaled down
  have hplace : F.lastPlace q.num.natAbs q.den ≤ 0 := by
    have hlead := leadingPlace_nonpos hle
    have hp := F.precision_pos
    exact max_le F.minPlace_nonpos (by omega)
  unfold round
  dsimp only
  generalize F.lastPlace q.num.natAbs q.den = e at hplace
  have htop : e.toNat = 0 := by omega
  rw [htop, Nat.pow_zero, Nat.mul_one, Nat.mul_one, Rat.mkRat_eq_div]
  -- one itself has a place, and rounding is monotone
  have hround : divHalfEven (q.num.natAbs * 2 ^ (-e).toNat) q.den ≤ 2 ^ (-e).toNat :=
    divHalfEven_le_of_le q.den_pos (by
      rw [Nat.mul_comm]
      exact Nat.mul_le_mul_left _ hle)
  have hsign : q.num.sign ≤ 1 := by
    rcases Int.sign_trichotomy q.num with h | h | h <;> omega
  rw [div_le_one (by positivity)]
  have hmul : q.num.sign * (divHalfEven (q.num.natAbs * 2 ^ (-e).toNat) q.den : Nat) ≤
      ((2 ^ (-e).toNat : Nat) : Int) := by
    calc q.num.sign * (divHalfEven (q.num.natAbs * 2 ^ (-e).toNat) q.den : Nat)
        ≤ 1 * (divHalfEven (q.num.natAbs * 2 ^ (-e).toNat) q.den : Nat) :=
          mul_le_mul_of_nonneg_right hsign (Int.natCast_nonneg _)
      _ ≤ ((2 ^ (-e).toNat : Nat) : Int) := by
          rw [one_mul]
          exact_mod_cast hround
  exact_mod_cast hmul

end BinaryFormat

end Lib
end PolyNotifier
