import PolyNotifier.Common.Db

/-!
# A lawful set of third-party functions, and a small database

`Crates.Lawful` asks something of code that is not in the repository. `Crates.reference` shows
that it can be met: the JSON of string lists as `Lib.Json` reads and writes it, and the conversion
of an `f64` to a `Decimal` as `rust_decimal` does it, with the digits that are worth keeping. A
decimal that was printed reads back as it was (`Decimal.parse_toString`).
-/

namespace PolyNotifier

open Lib (Json isDigit_of_mem_decimal)

namespace Decimal

/-- The decimal with the fewest digits after the point that is equal to `q`. -/
def exact (q : ℚ) : Option Decimal :=
  (List.range 29).findSome? fun t =>
    if h : (q * 10 ^ t).den = 1 ∧ (q * 10 ^ t).num.natAbs < 2 ^ 96 ∧ t ≤ 28 then
      some ⟨(q * 10 ^ t).num, t, h.2.1, h.2.2⟩
    else none

/-! ### `Decimal::from_f64` -/

/-- `|q| * 10 ^ t`, rounded to the nearest integer, halves up. -/
def halfUp (q : ℚ) (t : Nat) : Nat := (2 * (q.num.natAbs * 10 ^ t) + q.den) / (2 * q.den)

/-- How many digits after the point are kept: as many as leave the mantissa below `2 ^ 52`, and `t`
    at most. That is what an `f64` is good for, so the digits of its binary expansion that come
    after them are cut off. -/
def keptDigits (q : ℚ) : Nat → Nat
  | 0 => 0
  | t + 1 => if halfUp q (t + 1) < 2 ^ 52 then t + 1 else keptDigits q t

/-- Zeros at the end go. -/
def trimZeros : Nat → Nat → Nat × Nat
  | m, 0 => (m, 0)
  | m, t + 1 => if m % 10 = 0 then trimZeros (m / 10) t else (m, t + 1)

/-- `Decimal::from_f64` of a finite number. -/
def fromF64 (q : ℚ) : Option Decimal :=
  let t := keptDigits q 28
  let trimmed := trimZeros (halfUp q t) t
  ofDigits (decide (q < 0)) trimmed.1 trimmed.2

theorem keptDigits_le (q : ℚ) (t : Nat) : keptDigits q t ≤ t := by
  induction t with
  | zero => exact le_refl 0
  | succ t ih =>
    unfold keptDigits
    split
    · exact le_refl _
    · exact Nat.le_succ_of_le ih

/-- Where `s` digits are short enough, at least `s` are kept. -/
theorem le_keptDigits {q : ℚ} {s t : Nat} (hs : s ≤ t) (hshort : halfUp q s < 2 ^ 52) :
    s ≤ keptDigits q t ∧ halfUp q (keptDigits q t) < 2 ^ 52 := by
  induction t with
  | zero =>
    obtain rfl := Nat.le_zero.mp hs
    exact ⟨le_refl 0, hshort⟩
  | succ t ih =>
    unfold keptDigits
    split
    · rename_i hfits
      exact ⟨hs, hfits⟩
    · rename_i hlong
      refine ih (Nat.le_of_lt_succ (hs.lt_of_ne ?_))
      rintro rfl
      exact hlong hshort

theorem trimZeros_le (m t : Nat) : (trimZeros m t).1 ≤ m ∧ (trimZeros m t).2 ≤ t := by
  induction t generalizing m with
  | zero => exact ⟨le_refl m, le_refl 0⟩
  | succ t ih =>
    unfold trimZeros
    split
    · obtain ⟨hm, ht⟩ := ih (m / 10)
      exact ⟨hm.trans (Nat.div_le_self m 10), Nat.le_succ_of_le ht⟩
    · exact ⟨le_refl m, le_refl _⟩

theorem trimZeros_value (m t : Nat) :
    ((trimZeros m t).1 : ℚ) / 10 ^ (trimZeros m t).2 = m / 10 ^ t := by
  induction t generalizing m with
  | zero => rfl
  | succ t ih =>
    unfold trimZeros
    split
    · rename_i hzero
      have hm : (m : ℚ) = (m / 10 : Nat) * 10 := by
        exact_mod_cast (Nat.div_mul_cancel (Nat.dvd_of_mod_eq_zero hzero)).symm
      rw [ih, hm, pow_succ]
      field_simp
    · rfl

theorem value_of_ofDigits {negative : Bool} {m scale : Nat} {d : Decimal}
    (h : ofDigits negative m scale = some d) :
    d.value = (if negative then -1 else 1) * (m / 10 ^ scale) := by
  unfold ofDigits at h
  split at h
  · cases h
    cases negative with
    | true =>
      simp only [value, if_true]
      push_cast
      ring
    | false =>
      simp only [value, Bool.false_eq_true, if_false, one_mul]
      push_cast
      rfl
  · cases h

/-- What is found, up to the sign. -/
theorem fromF64_of_short {q : ℚ} {s : Nat} (hs : s ≤ 28) (hshort : halfUp q s < 2 ^ 52) :
    ∃ d t, fromF64 q = some d ∧ s ≤ t ∧
      d.value = (if q < 0 then -1 else 1) * (halfUp q t / 10 ^ t) := by
  obtain ⟨hle, hfits⟩ := le_keptDigits hs hshort
  obtain ⟨hm, ht⟩ := trimZeros_le (halfUp q (keptDigits q 28)) (keptDigits q 28)
  have hlarge : 2 ^ 52 < 2 ^ 96 := by decide
  have hbound := hm.trans_lt (hfits.trans hlarge)
  obtain ⟨d, hd⟩ := Option.isSome_iff_exists.mp
    (@ofDigits_isSome (decide (q < 0)) _ _ hbound (ht.trans (keptDigits_le q 28)))
  exact ⟨d, keptDigits q 28, hd, hle, by
    rw [value_of_ofDigits hd, trimZeros_value]
    simp only [decide_eq_true_eq]⟩

theorem natAbs_num_le_den {q : ℚ} (h0 : 0 ≤ q) (h1 : q ≤ 1) : q.num.natAbs ≤ q.den := by
  have hnum : (q.num.natAbs : Int) = q.num := Int.natAbs_of_nonneg (Rat.num_nonneg.mpr h0)
  have hle : q.num ≤ q.den := by
    rw [← Rat.num_div_den q, div_le_one (by exact_mod_cast q.den_pos)] at h1
    exact_mod_cast h1
  omega

theorem halfUp_unit {q : ℚ} (h0 : 0 ≤ q) (h1 : q ≤ 1) (t : Nat) : halfUp q t ≤ 10 ^ t := by
  have hnat := Nat.mul_le_mul_right (10 ^ t) (natAbs_num_le_den h0 h1)
  have hd := q.den_pos
  refine Nat.le_of_lt_succ ((Nat.div_lt_iff_lt_mul (by omega)).mpr ?_)
  have hsplit : (10 ^ t).succ * (2 * q.den) = 2 * (q.den * 10 ^ t) + 2 * q.den := by
    rw [Nat.succ_mul]
    ring
  omega

/-- **A number between 0 and 1 has a decimal**, which is between 0 and 1. -/
theorem fromF64_unit {q : ℚ} (h0 : 0 ≤ q) (h1 : q ≤ 1) :
    ∃ d, fromF64 q = some d ∧ 0 ≤ d.value ∧ d.value ≤ 1 := by
  obtain ⟨d, t, hd, _, hvalue⟩ := fromF64_of_short (Nat.zero_le 28)
    (lt_of_le_of_lt (halfUp_unit h0 h1 0) (by decide))
  rw [if_neg (Rat.not_lt.mpr h0), one_mul] at hvalue
  have h10 : (0 : ℚ) < 10 ^ t := by positivity
  refine ⟨d, hd, ?_, ?_⟩
  · rw [hvalue]
    positivity
  · rw [hvalue, div_le_one h10]
    exact_mod_cast halfUp_unit h0 h1 t

theorem natAbs_num_value (d : Decimal) :
    d.value.num.natAbs * 10 ^ d.scale = d.mantissa.natAbs * d.value.den := by
  have hcross : d.value.num * (10 ^ d.scale : Int) = d.mantissa * d.value.den := by
    have h10 : (10 : ℚ) ^ d.scale ≠ 0 := by positivity
    have hden : (d.value.den : ℚ) ≠ 0 := by exact_mod_cast d.value.den_nz
    have hq : (d.value.num : ℚ) / d.value.den = d.mantissa / 10 ^ d.scale :=
      (Rat.num_div_den d.value).trans rfl
    rw [div_eq_div_iff hden h10] at hq
    exact_mod_cast hq
  have habs := congrArg Int.natAbs hcross
  rwa [Int.natAbs_mul, Int.natAbs_mul, Int.natAbs_pow, Int.natAbs_natCast] at habs

/-- With all its digits a decimal is not rounded. -/
theorem halfUp_value (d : Decimal) {t : Nat} (ht : d.scale ≤ t) :
    halfUp d.value t = d.mantissa.natAbs * 10 ^ (t - d.scale) := by
  have hpow : 10 ^ t = 10 ^ d.scale * 10 ^ (t - d.scale) := by
    rw [← Nat.pow_add, Nat.add_sub_cancel' ht]
  have hd := d.value.den_pos
  have hnum : d.value.num.natAbs * 10 ^ t =
      d.mantissa.natAbs * 10 ^ (t - d.scale) * d.value.den := by
    rw [hpow, ← Nat.mul_assoc, natAbs_num_value]
    ring
  unfold halfUp
  rw [hnum]
  generalize d.mantissa.natAbs * 10 ^ (t - d.scale) = m
  rw [← Nat.mul_assoc, Nat.mul_right_comm, Nat.add_comm, Nat.mul_comm (2 * d.value.den),
    Nat.add_mul_div_right _ _ (by omega), Nat.div_eq_of_lt (by omega), Nat.zero_add]

/-- **A decimal of fifteen digits comes back.** -/
theorem fromF64_value {d : Decimal} (h : d.mantissa.natAbs < 10 ^ 15) :
    ∃ d', fromF64 d.value = some d' ∧ d'.value = d.value := by
  have hshort : halfUp d.value d.scale < 2 ^ 52 := by
    rw [halfUp_value d (le_refl _), Nat.sub_self, Nat.pow_zero, Nat.mul_one]
    exact h.trans (by decide)
  obtain ⟨d', t, hd', ht, hvalue⟩ := fromF64_of_short d.scale_le hshort
  refine ⟨d', hd', ?_⟩
  have hsplit : (10 : ℚ) ^ t = 10 ^ d.scale * 10 ^ (t - d.scale) := by
    rw [← pow_add, Nat.add_sub_cancel' ht]
  have hdigits : (halfUp d.value t : ℚ) / 10 ^ t = d.mantissa.natAbs / 10 ^ d.scale := by
    rw [halfUp_value d ht, hsplit]
    push_cast
    field_simp
  rw [hvalue, hdigits]
  have h10 : (0 : ℚ) < 10 ^ d.scale := by positivity
  have hneg : d.value < 0 ↔ d.mantissa < 0 := by
    rw [value, div_lt_iff₀ h10, zero_mul]
    exact_mod_cast Iff.rfl
  by_cases hsign : d.mantissa < 0
  · have habs : (d.mantissa.natAbs : ℚ) = -d.mantissa := by
      have hint : (d.mantissa.natAbs : Int) = -d.mantissa := by omega
      rw [← Int.cast_natCast, hint, Int.cast_neg]
    rw [if_pos (hneg.mpr hsign), habs, value]
    ring
  · have habs : (d.mantissa.natAbs : ℚ) = d.mantissa := by
      have hint : (d.mantissa.natAbs : Int) = d.mantissa := by omega
      rw [← Int.cast_natCast, hint]
    rw [if_neg (fun hlt => hsign (hneg.mp hlt)), habs, one_mul, value]

/-- The decimal a text denotes: a sign, digits, and a point with more digits. -/
def parse (s : String) : Option Decimal :=
  let (negative, cs) := F64.splitSign s.toList
  let (whole, rest) := F64.splitDigits cs
  match rest with
  | [] => ofDigits negative (Nat.ofDigitChars 10 whole 0) 0
  | '.' :: frac =>
      if frac.all Char.isDigit then
        ofDigits negative (Nat.ofDigitChars 10 (whole ++ frac) 0) frac.length
      else none
  | _ => none

/-- What `decimalDigits` writes: digits, and after them a point with `scale` digits if there are
    any; all the digits together are the number. -/
theorem toList_decimalDigits (m scale : Nat) : ∃ whole frac,
    (decimalDigits m scale).toList = whole ++ (if scale = 0 then [] else '.' :: frac) ∧
      whole ≠ [] ∧ frac.length = scale ∧ (∀ c ∈ whole ++ frac, c.isDigit = true) ∧
      Nat.ofDigitChars 10 (whole ++ frac) 0 = m := by
  generalize hp : List.replicate (scale + 1 - (Nat.toDigits 10 m).length) '0' ++
    Nat.toDigits 10 m = padded
  have hlen : scale + 1 ≤ padded.length := by
    rw [← hp, List.length_append, List.length_replicate]
    omega
  refine ⟨padded.take (padded.length - scale), padded.drop (padded.length - scale), ?_, ?_, ?_,
    ?_, ?_⟩
  · rw [decimalDigits, hp]
    by_cases h : scale = 0
    · simp [h]
    · simp [h]
  · intro hnil
    have := congrArg List.length hnil
    rw [List.length_take, List.length_nil] at this
    omega
  · rw [List.length_drop]
    omega
  · intro c hc
    rw [List.take_append_drop, ← hp, List.mem_append] at hc
    rcases hc with hc | hc
    · rw [List.eq_of_mem_replicate hc]
      rfl
    · exact isDigit_of_mem_decimal hc
  · rw [List.take_append_drop, ← hp, Nat.ofDigitChars_append, Nat.ofDigitChars_replicate_zero,
      Nat.mul_zero, Nat.ofDigitChars_ten_toDigits]

/-- **A decimal that was printed reads back**, with its scale. -/
theorem parse_toString (d : Decimal) : parse d.toString = some d := by
  obtain ⟨whole, frac, htext, hwhole, hfrac, hdigit, hval⟩ :=
    toList_decimalDigits d.mantissa.natAbs d.scale
  obtain ⟨c, cs, rfl⟩ := List.exists_cons_of_ne_nil hwhole
  have hc : c.isDigit = true := hdigit c (by simp)
  -- the sign comes off, and no digit is taken for one
  have hsign : F64.splitSign d.toString.toList =
      (decide (d.mantissa < 0), (decimalDigits d.mantissa.natAbs d.scale).toList) := by
    rw [toString, String.toList_append]
    by_cases hneg : d.mantissa < 0
    · simp [hneg, F64.splitSign]
    · rw [if_neg hneg, decide_eq_false hneg, htext]
      show F64.splitSign (c :: _) = _
      unfold F64.splitSign
      split
      · rename_i heq
        rw [(List.cons.inj heq).1] at hc
        exact absurd hc (by decide)
      · rename_i heq
        rw [(List.cons.inj heq).1] at hc
        exact absurd hc (by decide)
      · rfl
  have hall : ∀ a ∈ c :: cs, a.isDigit = true := fun a ha => hdigit a (List.mem_append_left _ ha)
  have hof : ofDigits (decide (d.mantissa < 0)) d.mantissa.natAbs d.scale = some d := by
    rw [ofDigits, dif_pos ⟨d.mantissa_lt, d.scale_le⟩]
    congr 1
    cases d with
    | mk mantissa scale h1 h2 =>
      simp only [decide_eq_true_eq, mk.injEq, and_true]
      split <;> omega
  unfold parse
  rw [hsign]
  dsimp only
  rw [F64.splitDigits, htext, List.takeWhile_append_of_pos hall, List.dropWhile_append_of_pos hall]
  by_cases h : d.scale = 0
  · rw [if_pos h]
    rw [h] at hfrac hof
    obtain rfl : frac = [] := List.length_eq_zero_iff.mp hfrac
    rw [List.append_nil] at hval
    simpa [hval] using hof
  · have hfd : frac.all Char.isDigit = true :=
      List.all_eq_true.mpr fun a ha => hdigit a (List.mem_append_right _ ha)
    rw [if_neg h]
    simp only [List.takeWhile_cons, List.dropWhile_cons, show Char.isDigit '.' = false from rfl,
      Bool.false_eq_true, if_false, List.append_nil, hfd, if_true]
    rw [hval, hfrac]
    exact hof

end Decimal

namespace Crates

/-- Third-party functions that agree with the real ones on lists of strings, on the decimals a
    price or a threshold has, and at the start of 1970. -/
def reference : Crates where
  fromStr s := (Json.readStrings s).map Json.strings
  toString j := Json.writeStrings (j.asStrings.getD [])
  decimalTryFrom
    | .num q => Decimal.fromF64 q
    | .negZero => some .zero
    | _ => none
  decimalFromStr := Decimal.parse
  serializeDecimal d := .str d.toString
  deserializeDecimal
    | .str s => Decimal.parse s
    | .num q => Decimal.exact q
    | _ => none
  formatDecimal1 d := (F64.num d.value).fixed 1
  format _ _ := "1970-01-01 00:00:00 UTC"

/-- **The assumptions about the third-party code can be met.** -/
theorem reference_lawful : reference.Lawful where
  fromStr_strings ss := by
    show (Json.readStrings (Json.writeStrings ((Json.strings ss).asStrings.getD []))).map
      Json.strings = some (Json.strings ss)
    rw [Json.asStrings_strings, Option.getD_some, Json.readStrings_writeStrings]
    rfl
  tryFrom_unit q h0 h1 := by
    obtain ⟨d, hd, _⟩ := Decimal.fromF64_unit h0 h1
    exact ⟨d, hd⟩
  tryFrom_exact _ h _ := Decimal.fromF64_value h
  serialize_str d := ⟨d.toString, rfl⟩
  deserialize_serialize := Decimal.parse_toString

end Crates

/-- The price of so many cents, and of a dollar from there on. -/
def Decimal.cents (n : Nat) : Decimal where
  mantissa := min n 100
  scale := 2
  mantissa_lt := by omega
  scale_le := by decide

namespace Db

/-- Telegram users 7 and 8 of bot `bot`, one market, a subscription of each user to one of its
    outcomes, and an alert above 75% on each subscription. -/
def sample : Except DbError Db := do
  let (u, d) ← insertUser 0 7 "bot" none empty
  let (v, d) ← insertUser 0 8 "bot" none d
  let (m, d) ← upsertMarket 0 0 "0xc" "Will it?" none "[\"Yes\",\"No\"]" "[\"yes\",\"no\"]" d
  let (_, d) ← insertSubscription 0 u m 0 d
  let (_, d) ← insertSubscription 0 v m 1 d
  let d ← insertAlert 0 1 "above" (.num (3 / 4)) d
  insertAlert 0 2 "above" (.num (3 / 4)) d

/-- `sample`, whose statements all succeed. -/
def sampleDb : Db := sample.toOption.getD empty

end Db

end PolyNotifier
