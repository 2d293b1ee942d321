import PolyNotifier.Lib.Rounding
import PolyNotifier.Lib.Text

/-!
# Prices and thresholds: `rust_decimal::Decimal` and `f64`

A price travels as a `Decimal` (a 96-bit integer and a power of ten), a threshold is typed as a
percentage, stored as an SQLite `REAL` and turned into a `Decimal` when the alert engine loads
it.

`Decimal` is modelled as it is, with its two bounds as fields. Comparison is comparison of the
values, whatever the scales. Multiplication is the one operation the code uses, and
`checkedMul` is `none` where the `*` operator panics.

`f64` is binary64. A value is the rational number it stands for, a negative zero, an infinity or
a NaN, and whatever makes a new one rounds: reading a text, dividing a percentage by a hundred,
multiplying a price by a hundred. So `3.7` is not quite `37 / 10`, and a hundredth of it is
rounded once more. Nothing else in the program computes with an `f64`: comparing two and printing
one are exact.
-/

namespace PolyNotifier

open Lib (divHalfEven divHalfEven_le BinaryFormat)

/-! ## Digits -/

/-- The digits of `m / 10 ^ scale`, with at least one digit before the point. -/
def decimalDigits (m scale : Nat) : String :=
  let digits := Nat.toDigits 10 m
  let padded := List.replicate (scale + 1 - digits.length) '0' ++ digits
  let whole := padded.length - scale
  String.ofList (padded.take whole) ++
    if scale = 0 then "" else "." ++ String.ofList (padded.drop whole)

/-! ## `Decimal` -/

/-- `rust_decimal::Decimal`: the number `mantissa / 10 ^ scale`, with a mantissa of 96 bits. One
    number has several of them (`0.50` and `0.5`), so comparing is by value and printing is not. -/
structure Decimal where
  mantissa : Int
  scale : Nat
  mantissa_lt : mantissa.natAbs < 2 ^ 96
  scale_le : scale ≤ 28
  deriving DecidableEq

namespace Decimal

def zero : Decimal := ⟨0, 0, by decide, by decide⟩

/-- `Decimal::from(100)`. -/
def hundred : Decimal := ⟨100, 0, by decide, by decide⟩

def isZero (d : Decimal) : Bool := d.mantissa == 0

/-- The exact value. -/
def value (d : Decimal) : ℚ := d.mantissa / 10 ^ d.scale

theorem value_of_isZero {d : Decimal} (h : d.isZero = true) : d.value = 0 := by
  have hm : d.mantissa = 0 := beq_iff_eq.mp h
  simp [value, hm]

instance : LT Decimal := ⟨fun a b => a.mantissa * 10 ^ b.scale < b.mantissa * 10 ^ a.scale⟩
instance : LE Decimal := ⟨fun a b => a.mantissa * 10 ^ b.scale ≤ b.mantissa * 10 ^ a.scale⟩

instance (a b : Decimal) : Decidable (a < b) :=
  inferInstanceAs (Decidable (a.mantissa * 10 ^ b.scale < b.mantissa * 10 ^ a.scale))
instance (a b : Decimal) : Decidable (a ≤ b) :=
  inferInstanceAs (Decidable (a.mantissa * 10 ^ b.scale ≤ b.mantissa * 10 ^ a.scale))

/-- **The comparison of two decimals is the comparison of their values.** -/
theorem lt_iff_value_lt {a b : Decimal} : a < b ↔ a.value < b.value := by
  have ha : (0 : ℚ) < 10 ^ a.scale := by positivity
  have hb : (0 : ℚ) < 10 ^ b.scale := by positivity
  rw [value, value, div_lt_div_iff₀ ha hb]
  show a.mantissa * 10 ^ b.scale < b.mantissa * 10 ^ a.scale ↔ _
  exact_mod_cast Iff.rfl

theorem le_iff_value_le {a b : Decimal} : a ≤ b ↔ a.value ≤ b.value := by
  have ha : (0 : ℚ) < 10 ^ a.scale := by positivity
  have hb : (0 : ℚ) < 10 ^ b.scale := by positivity
  rw [value, value, div_le_div_iff₀ ha hb]
  show a.mantissa * 10 ^ b.scale ≤ b.mantissa * 10 ^ a.scale ↔ _
  exact_mod_cast Iff.rfl

theorem not_lt {a b : Decimal} : ¬ a < b ↔ b ≤ a := by
  rw [lt_iff_value_lt, le_iff_value_le]
  exact Rat.not_lt

/-- `Display`. -/
def toString (d : Decimal) : String :=
  (if d.mantissa < 0 then "-" else "") ++ decimalDigits d.mantissa.natAbs d.scale

/-- The decimal with the sign, the digits `m` and `scale` of them after the point, if it is
    one. -/
def ofDigits (negative : Bool) (m scale : Nat) : Option Decimal :=
  if h : m < 2 ^ 96 ∧ scale ≤ 28 then
    some ⟨if negative then -m else m, scale, by split <;> simpa using h.1, h.2⟩
  else none

theorem ofDigits_isSome {negative : Bool} {m scale : Nat} (hm : m < 2 ^ 96) (hs : scale ≤ 28) :
    (ofDigits negative m scale).isSome := by
  rw [ofDigits, dif_pos ⟨hm, hs⟩]
  rfl

/-- `p / 10 ^ s` with `t` digits after the point, if that is a decimal. -/
def rounded (negative : Bool) (p s t : Nat) : Option Decimal :=
  ofDigits negative (divHalfEven p (10 ^ (s - t))) t

/-- `p / 10 ^ s` with as many digits after the point as fit, `t` at most. One digit after the other
    is given up until the mantissa is small enough, and only without any left it does not fit. -/
def fit (negative : Bool) (p s : Nat) : Nat → Option Decimal
  | 0 => rounded negative p s 0
  | t + 1 => (rounded negative p s (t + 1)).orElse fun _ => fit negative p s t

/-- `a * b`: the exact product, or the product rounded half to even to the digits that fit;
    `none` where the operator panics because even its whole part does not fit. -/
def checkedMul (a b : Decimal) : Option Decimal :=
  let s := a.scale + b.scale
  fit (decide (a.mantissa * b.mantissa < 0)) (a.mantissa * b.mantissa).natAbs s s

/-- Once the whole part fits, the product does. -/
theorem fit_isSome {negative : Bool} {p s : Nat} (h : (rounded negative p s 0).isSome) (t : Nat) :
    (fit negative p s t).isSome := by
  induction t with
  | zero => exact h
  | succ t ih =>
    rw [fit]
    cases rounded negative p s (t + 1) with
    | some d => rfl
    | none => exact ih

/-- **A threshold that is a fraction of one can be shown as a percentage.** -/
theorem checkedMul_hundred_isSome {d : Decimal} (h0 : zero ≤ d)
    (h1 : d ≤ ⟨1, 0, by decide, by decide⟩) :
    (checkedMul d hundred).isSome := by
  have hle : d.mantissa.natAbs ≤ 10 ^ d.scale := by
    have h0' : 0 * 10 ^ d.scale ≤ d.mantissa * 10 ^ 0 := h0
    have h1' : d.mantissa * 10 ^ 0 ≤ 1 * 10 ^ d.scale := h1
    have hm : (d.mantissa.natAbs : Int) = d.mantissa := Int.natAbs_of_nonneg (by omega)
    zify
    rw [← Int.natCast_natAbs, hm]
    omega
  have hp : (d.mantissa * hundred.mantissa).natAbs = d.mantissa.natAbs * 100 := Int.natAbs_mul _ _
  apply fit_isSome
  have hdiv : divHalfEven (d.mantissa * hundred.mantissa).natAbs
      (10 ^ (d.scale + hundred.scale - 0)) ≤ 101 := by
    refine (divHalfEven_le _ _).trans ?_
    have : (d.mantissa * hundred.mantissa).natAbs / 10 ^ d.scale ≤ 100 := by
      rw [hp]
      exact Nat.div_le_of_le_mul (by nlinarith)
    have hscale : d.scale + hundred.scale - 0 = d.scale := rfl
    rw [hscale]
    omega
  have hlt : divHalfEven (d.mantissa * hundred.mantissa).natAbs
      (10 ^ (d.scale + hundred.scale - 0)) < 2 ^ 96 := by omega
  exact ofDigits_isSome hlt (Nat.zero_le _)

end Decimal

/-! ## `f64` -/

/-- An `f64`, with the number it stands for. Of the rationals only those of binary64 occur: a value
    comes from `ofRat`. What rounds in the source is reading a text (`parse`, `Crates.parseF64s`),
    the division `div100` and the product `mul100`; comparing and printing are exact. A zero has a
    sign, which only printing shows. -/
inductive F64 where
  | num (q : ℚ)
  | negZero
  | inf (negative : Bool)
  | nan
  deriving DecidableEq

/-- 53 digits, and none below `2 ^ -1074`. -/
def binary64 : BinaryFormat := ⟨53, -1074, by decide, by decide⟩

namespace F64

/-- The nearest `f64`, ties to even. Past the largest one is an infinity, and a negative number
    that is too small becomes a zero that is still negative. -/
def ofRat (q : ℚ) : F64 :=
  let r := binary64.round q
  if 2 ^ 1024 ≤ |r| then .inf (decide (q < 0))
  else if r = 0 ∧ q < 0 then .negZero
  else .num r

/-- **A number between 0 and 1 stays there.** -/
theorem ofRat_unit {q : ℚ} (h0 : 0 ≤ q) (h1 : q ≤ 1) :
    ∃ r, ofRat q = .num r ∧ 0 ≤ r ∧ r ≤ 1 := by
  have hr0 := binary64.round_nonneg h0
  have hr1 := binary64.round_le_one h0 h1
  refine ⟨binary64.round q, ?_, hr0, hr1⟩
  have hsmall : ¬ (2 : ℚ) ^ 1024 ≤ |binary64.round q| := by
    rw [abs_of_nonneg hr0]
    intro hlarge
    have hone : (1 : ℚ) < 2 ^ 1024 := one_lt_pow₀ one_lt_two (by decide)
    exact absurd (hlarge.trans hr1) (not_le.mpr hone)
  unfold ofRat
  dsimp only
  rw [if_neg hsmall, if_neg fun h => absurd h.2 (not_lt.mpr h0)]

/-- `-v`. -/
def neg : F64 → F64
  | .num q => if q = 0 then .negZero else .num (-q)
  | .negZero => .num 0
  | .inf negative => .inf (!negative)
  | .nan => .nan

/-- `(lo..=hi).contains(&v)` for whole bounds; a NaN is in no range. The bounds are compared as
    they are, since small whole numbers are among the `f64`s. -/
def inRange (lo hi : Nat) : F64 → Bool
  | .num q => lo ≤ q && q ≤ hi
  | .negZero => lo = 0
  | _ => false

/-- `v / 100.0`. The quotient is only ever stored, and SQLite stores no sign of a zero: it writes a
    `REAL` that is a whole number as an integer. -/
def div100 : F64 → F64
  | .num q => ofRat (q / 100)
  | .negZero => .num 0
  | v => v

/-- **A percentage in range is a fraction of one.** -/
theorem div100_unit {v : F64} (h : v.inRange 0 100 = true) :
    ∃ q, v.div100 = .num q ∧ 0 ≤ q ∧ q ≤ 1 := by
  cases v with
  | num q =>
    have hq : 0 ≤ q ∧ q ≤ 100 := by simpa [inRange] using h
    exact ofRat_unit (by linarith [hq.1]) (by linarith [hq.2])
  | negZero => exact ⟨0, rfl, le_refl 0, zero_le_one⟩
  | inf _ => cases h
  | nan => cases h

/-- `v * 100.0`. -/
def mul100 : F64 → F64
  | .num q => ofRat (q * 100)
  | v => v

/-- `{:.n}`: the exact value of the `f64`, rounded once, half to even, to `n` digits after the
    point. -/
def fixed (n : Nat) : F64 → String
  | .num q =>
      (if q < 0 then "-" else "") ++
        decimalDigits (divHalfEven (q.num.natAbs * 10 ^ n) q.den) n
  | .negZero => "-" ++ decimalDigits 0 n
  | .inf negative => if negative then "-inf" else "inf"
  | .nan => "NaN"

/-! ### `str::parse::<f64>`

A sign, then `inf`, `infinity` or `nan` in any case, or digits with at most one point and an
optional exponent. At least one digit stands before or after the point. The number that is written
is rounded once, however many digits it has, and the sign is put before what came out. -/

/-- The sign and the rest. -/
def splitSign : List Char → Bool × List Char
  | '-' :: cs => (true, cs)
  | '+' :: cs => (false, cs)
  | cs => (false, cs)

def splitDigits (cs : List Char) : List Char × List Char :=
  (cs.takeWhile Char.isDigit, cs.dropWhile Char.isDigit)

/-- What follows the digits: nothing, or an exponent that fills the text. -/
def parseExponent : List Char → Option Int
  | [] => some 0
  | c :: cs =>
      if c = 'e' ∨ c = 'E' then
        let (negative, ds) := splitSign cs
        (Lib.parseDigits ds).map fun n => if negative then -(n : Int) else n
      else none

/-- `n * 10 ^ e`. -/
def scale10 (n : Nat) (e : Int) : ℚ :=
  if 0 ≤ e then ((n * 10 ^ e.toNat : Nat) : ℚ) else mkRat n (10 ^ (-e).toNat)

def parseNumber (cs : List Char) : Option ℚ :=
  let (whole, rest) := splitDigits cs
  let (frac, rest) := match rest with
    | '.' :: r => splitDigits r
    | r => ([], r)
  if whole ++ frac = [] then none
  else (parseExponent rest).map fun e : Int =>
    scale10 (Nat.ofDigitChars 10 (whole ++ frac) 0) (e - frac.length)

/-- `str::parse::<f64>`. -/
def parse (s : String) : Option F64 :=
  let (negative, cs) := splitSign s.toList
  let word := String.ofList (cs.map Char.toLower)
  if word = "inf" ∨ word = "infinity" then some (.inf negative)
  else if word = "nan" then some .nan
  else (parseNumber cs).map fun q => if negative then (ofRat q).neg else ofRat q

end F64

end PolyNotifier
