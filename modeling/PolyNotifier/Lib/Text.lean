import Mathlib.Algebra.Ring.Int.Defs
import Mathlib.Algebra.Ring.Nat
import Mathlib.Data.List.Infix
import Mathlib.Data.List.TakeWhile

/-!
# Text: the pieces of the Rust string library the code uses

`str::strip_prefix`, `str::trim`, `str::find` with what follows the match, integer `Display` and
integer `parse`. All of them work on the characters of the string, and each comes with the one
or two equations its users need: a prefix that was put on comes off again, and an integer that
was printed parses back.
-/

namespace PolyNotifier
namespace Lib

/-! ## Prefixes -/

/-- `str::strip_prefix`. -/
def stripPrefix (p s : String) : Option String :=
  if p.toList.isPrefixOf s.toList then some (String.ofList (s.toList.drop p.toList.length))
  else none

@[simp] theorem stripPrefix_append (p s : String) : stripPrefix p (p ++ s) = some s := by
  have hp : p.toList.isPrefixOf (p ++ s).toList = true := by
    rw [String.toList_append, List.isPrefixOf_iff_prefix]
    exact List.prefix_append _ _
  rw [stripPrefix, if_pos hp, String.toList_append, List.drop_left, String.ofList_toList]

/-- Two prefixes that differ at a position both have cannot both come off. -/
theorem stripPrefix_eq_none {p q s : String} (h : ¬ p.toList <+: (q ++ s).toList) :
    stripPrefix p (q ++ s) = none := by
  rw [stripPrefix, if_neg]
  rwa [List.isPrefixOf_iff_prefix]

/-! ## White space and substrings -/

/-- The characters with the Unicode property `White_Space`, which `str::trim` removes. -/
def isWhitespace (c : Char) : Bool :=
  (0x9 ≤ c.toNat && c.toNat ≤ 0xD) || c.toNat == 0x20 || c.toNat == 0x85 || c.toNat == 0xA0 ||
    c.toNat == 0x1680 || (0x2000 ≤ c.toNat && c.toNat ≤ 0x200A) || c.toNat == 0x2028 ||
    c.toNat == 0x2029 || c.toNat == 0x202F || c.toNat == 0x205F || c.toNat == 0x3000

/-- `str::trim`. -/
def trim (s : String) : String :=
  String.ofList (((s.toList.dropWhile isWhitespace).reverse.dropWhile isWhitespace).reverse)

theorem utf8ByteSize_ofList (cs : List Char) :
    (String.ofList cs).utf8ByteSize = (cs.map Char.utf8Size).sum := by
  induction cs with
  | nil => rfl
  | cons c cs ih =>
    rw [String.ofList_cons, String.utf8ByteSize_append, String.utf8ByteSize_singleton, ih,
      List.map_cons, List.sum_cons]

/-- The characters after the first occurrence of `pat`: `&s[s.find(pat)? + pat.len()..]`. -/
def afterFirst (pat : List Char) : List Char → Option (List Char)
  | [] => if pat.isEmpty then some [] else none
  | c :: cs =>
      if pat.isPrefixOf (c :: cs) then some ((c :: cs).drop pat.length) else afterFirst pat cs

/-- `pat` occurs in `text` between `before` and `after`, and nowhere earlier. -/
structure FirstAt (pat text before after : List Char) : Prop where
  eq : text = before ++ (pat ++ after)
  first : ¬ pat <:+: before ++ pat.dropLast

theorem FirstAt.length_le {pat text before after before' after' : List Char} (hpat : pat ≠ [])
    (h : FirstAt pat text before after) (h' : FirstAt pat text before' after') :
    before'.length ≤ before.length := by
  by_contra hlt
  rw [not_le] at hlt
  apply h'.first
  have heq : before ++ (pat ++ after) = before' ++ (pat ++ after') := h.eq.symm.trans h'.eq
  obtain ⟨gap, rfl⟩ : before <+: before' :=
    List.prefix_of_prefix_length_le ⟨_, heq⟩ ⟨_, rfl⟩ (by omega)
  -- the first occurrence ends before the second one does
  have hgap : pat ++ after = gap ++ (pat ++ after') := by
    rw [List.append_assoc] at heq
    exact List.append_cancel_left heq
  have hshort : pat <+: gap ++ pat.dropLast := by
    refine List.prefix_of_prefix_length_le ⟨after, hgap⟩ ?_ ?_
    · rw [← List.append_assoc]
      exact ((List.prefix_append_right_inj gap).mpr (List.dropLast_prefix pat)).trans
        (List.prefix_append _ _)
    · have hpos := List.length_pos_iff.mpr hpat
      rw [List.length_append] at hlt ⊢
      rw [List.length_dropLast]
      omega
  rw [List.append_assoc]
  exact hshort.isInfix.trans (List.suffix_append _ _).isInfix

/-- **There is one first occurrence.** -/
theorem FirstAt.unique {pat text before after before' after' : List Char} (hpat : pat ≠ [])
    (h : FirstAt pat text before after) (h' : FirstAt pat text before' after') :
    before = before' ∧ after = after' := by
  have hlen : before.length = before'.length :=
    Nat.le_antisymm (h'.length_le hpat h) (h.length_le hpat h')
  obtain ⟨hbefore, hrest⟩ := List.append_inj (h.eq.symm.trans h'.eq) hlen
  exact ⟨hbefore, List.append_cancel_left hrest⟩

/-- **The search finds the first occurrence.** -/
theorem afterFirst_eq_some {pat text after : List Char} (hpat : pat ≠ []) :
    afterFirst pat text = some after ↔ ∃ before, FirstAt pat text before after := by
  induction text with
  | nil =>
    rw [afterFirst, if_neg (by rwa [List.isEmpty_iff])]
    constructor
    · intro h
      cases h
    · rintro ⟨before, h⟩
      have hnil := List.append_eq_nil_iff.mp h.eq.symm
      exact absurd (List.append_eq_nil_iff.mp hnil.2).1 hpat
  | cons c cs ih =>
    rw [afterFirst]
    split
    · -- the pattern begins here
      rename_i hstart
      obtain ⟨t, ht⟩ := List.isPrefixOf_iff_prefix.mp hstart
      have hfirst : FirstAt pat (c :: cs) [] t := by
        refine ⟨ht.symm, fun hinfix => ?_⟩
        have hle := hinfix.length_le
        have hpos := List.length_pos_iff.mpr hpat
        rw [List.nil_append, List.length_dropLast] at hle
        omega
      rw [← ht, List.drop_left, Option.some.injEq, ht]
      constructor
      · rintro rfl
        exact ⟨[], hfirst⟩
      · rintro ⟨before, h⟩
        exact (hfirst.unique hpat h).2
    -- it does not begin here: an occurrence with `c` in front of it is one in the rest
    · rename_i hstart
      rw [List.isPrefixOf_iff_prefix] at hstart
      rw [ih]
      constructor
      · rintro ⟨before, h⟩
        refine ⟨c :: before, by rw [h.eq]; rfl, ?_⟩
        rw [List.cons_append, List.infix_cons_iff]
        rintro (hhere | hlater)
        · apply hstart
          rw [h.eq]
          refine hhere.trans ((List.prefix_cons_inj c).mpr ?_)
          exact (List.prefix_append_right_inj before).mpr
            ((List.dropLast_prefix pat).trans (List.prefix_append _ _))
        · exact h.first hlater
      · rintro ⟨before, h⟩
        cases before with
        | nil => exact absurd ⟨after, h.eq.symm⟩ hstart
        | cons b before =>
          obtain ⟨rfl, hcs⟩ := List.cons.inj h.eq
          refine ⟨before, hcs, fun hinfix => h.first ?_⟩
          exact List.infix_cons_iff.mpr (Or.inr hinfix)

/-- `lines.join(sep)`. -/
def join (sep : String) : List String → String
  | [] => ""
  | [s] => s
  | s :: t :: rest => s ++ sep ++ join sep (t :: rest)

/-! ## Integers

`Display` is Lean's `toString`. `parse` accepts an optional sign (for the unsigned types only
`+`) and at least one ASCII digit, and refuses what does not fit the type. -/

def parseDigits (cs : List Char) : Option Nat :=
  if cs ≠ [] ∧ cs.all Char.isDigit then some (Nat.ofDigitChars 10 cs 0) else none

/-- `str::parse` before the range check. -/
def parseSigned : List Char → Option Int
  | '-' :: cs => (parseDigits cs).map fun n => -(n : Int)
  | '+' :: cs => (parseDigits cs).map fun n => (n : Int)
  | cs => (parseDigits cs).map fun n => (n : Int)

/-- `str::parse::<i64>`. -/
def parseI64 (s : String) : Option Int :=
  (parseSigned s.toList).filter fun n => -2 ^ 63 ≤ n && n < 2 ^ 63

/-- `str::parse::<usize>`, on a 64-bit target. -/
def parseUsize (s : String) : Option Nat :=
  (match s.toList with
    | '+' :: cs => parseDigits cs
    | cs => parseDigits cs).filter fun n => n < 2 ^ 64

theorem isDigit_of_mem_decimal {n : Nat} {c : Char} (h : c ∈ Nat.toDigits 10 n) :
    c.isDigit = true :=
  Nat.isDigit_of_mem_toDigits (b := 10) (by decide) (by decide) h

theorem parseDigits_toDigits (n : Nat) : parseDigits (Nat.toDigits 10 n) = some n := by
  have hall : (Nat.toDigits 10 n).all Char.isDigit = true :=
    List.all_eq_true.mpr fun c hc => isDigit_of_mem_decimal hc
  rw [parseDigits, if_pos ⟨Nat.toDigits_ne_nil, hall⟩, Nat.ofDigitChars_ten_toDigits]

/-- The first character of a printed natural number is no sign. -/
theorem toDigits_head_digit {n : Nat} {c : Char} {cs : List Char}
    (h : Nat.toDigits 10 n = c :: cs) : c ≠ '-' ∧ c ≠ '+' := by
  have hd : c.isDigit = true := isDigit_of_mem_decimal (n := n) (by rw [h]; simp)
  constructor <;> (rintro rfl; exact absurd hd (by decide))

theorem parseSigned_toDigits (n : Nat) : parseSigned (Nat.toDigits 10 n) = some (n : Int) := by
  have h := parseDigits_toDigits n
  cases hd : Nat.toDigits 10 n with
  | nil => exact absurd hd Nat.toDigits_ne_nil
  | cons c cs =>
    obtain ⟨h1, h2⟩ := toDigits_head_digit hd
    rw [hd] at h
    unfold parseSigned
    split
    · rename_i heq; exact absurd (List.cons.inj heq).1 h1
    · rename_i heq; exact absurd (List.cons.inj heq).1 h2
    · rw [h]; rfl

theorem parseSigned_toString (i : Int) : parseSigned (toString i).toList = some i := by
  cases i with
  | ofNat n =>
    have : (toString (Int.ofNat n)).toList = Nat.toDigits 10 n := Nat.toList_repr
    rw [this]
    exact parseSigned_toDigits n
  | negSucc n =>
    have : (toString (Int.negSucc n)).toList = '-' :: Nat.toDigits 10 (n + 1) := by
      show ("-" ++ (n + 1).repr).toList = _
      rw [String.toList_append, Nat.toList_repr]
      rfl
    rw [this]
    simp only [parseSigned, parseDigits_toDigits]
    rfl

/-- **A printed `i64` parses back.** -/
theorem parseI64_toString {i : Int} (h : -2 ^ 63 ≤ i) (h' : i < 2 ^ 63) :
    parseI64 (toString i) = some i := by
  rw [parseI64, parseSigned_toString, Option.filter_some, if_pos]
  rw [Bool.and_eq_true, decide_eq_true_eq, decide_eq_true_eq]
  exact ⟨h, h'⟩

/-- **A printed index parses back.** -/
theorem parseUsize_toString {n : Nat} (h : n < 2 ^ 64) : parseUsize (toString n) = some n := by
  have ht : (toString n).toList = Nat.toDigits 10 n := Nat.toList_repr
  have hd := parseDigits_toDigits n
  unfold parseUsize
  rw [ht]
  cases hc : Nat.toDigits 10 n with
  | nil => exact absurd hc Nat.toDigits_ne_nil
  | cons c cs =>
    have hne := (toDigits_head_digit hc).2
    rw [hc] at hd
    split
    · rename_i heq; exact absurd (List.cons.inj heq).1 hne
    · rw [hd, Option.filter_some, if_pos (decide_eq_true h)]

end Lib
end PolyNotifier
