import Mathlib.Data.Rat.Defs

/-!
# JSON values, and the text of an array of strings

`Json` is the data model of a JSON text. What a program may assume of a JSON library is small
(what it writes for a list of strings reads back as that list), and this file shows that the
assumption can be met: `writeStrings` is the compact text of an array of strings, with the
escapes a JSON writer uses, `readStrings` reads such an array back, and
`readStrings_writeStrings` is the round trip.

The reader works on characters and returns what is left. The round trip follows the text from
the inside out: one escaped character, one string, the tail of the array, the array.
-/

namespace PolyNotifier
namespace Lib

/-- A JSON value. Numbers are read as the exact number their text denotes; what a reader makes of
    one, it rounds on its own. The fields of an object keep their order and may come twice. -/
inductive Json where
  | null
  | bool (b : Bool)
  | num (q : Rat)
  | str (s : String)
  | arr (vs : List Json)
  | obj (fields : List (String × Json))

namespace Json

/-- The array of strings `ss`. -/
def strings (ss : List String) : Json := .arr (ss.map .str)

/-- A string is the text of a JSON string, and of nothing else. -/
def asString : Json → Option String
  | .str s => some s
  | _ => none

/-- The number of a JSON number; a string that holds digits is none. -/
def asNumber : Json → Option Rat
  | .num q => some q
  | _ => none

/-- A list is an array all of whose elements are what the list holds. -/
def asList {α : Type} (f : Json → Option α) : Json → Option (List α)
  | .arr vs => vs.mapM f
  | _ => none

def asStrings : Json → Option (List String) := asList asString

@[simp] theorem asStrings_strings (ss : List String) : (strings ss).asStrings = some ss := by
  show (ss.map Json.str).mapM asString = some ss
  induction ss with
  | nil => rfl
  | cons s ss ih => simp [asString, ih]

/-! ## Writing -/

/-- The digit of a value below 16, in lower case. -/
def hexDigit (n : Nat) : Char := if n < 10 then Char.ofNat (48 + n) else Char.ofNat (87 + n)

/-- The characters with a two-character escape, each with its letter. -/
def shortEscapes : List (Char × Char) :=
  [('"', '"'), ('\\', '\\'), (Char.ofNat 8, 'b'), (Char.ofNat 9, 't'), (Char.ofNat 10, 'n'),
    (Char.ofNat 12, 'f'), (Char.ofNat 13, 'r')]

/-- One character inside a JSON string. -/
def escape (c : Char) : List Char :=
  match shortEscapes.find? (·.1 == c) with
  | some e => ['\\', e.2]
  | none =>
      if c.toNat < 32 then
        ['\\', 'u', '0', '0', hexDigit (c.toNat / 16), hexDigit (c.toNat % 16)]
      else [c]

def writeString (s : String) : List Char := '"' :: s.toList.flatMap escape ++ ['"']

/-- What follows the first element: the other elements and the closing bracket. -/
def writeTail : List String → List Char
  | [] => [']']
  | s :: ss => ',' :: writeString s ++ writeTail ss

/-- The compact text of an array of strings. -/
def writeStrings : List String → String
  | [] => "[]"
  | s :: ss => String.ofList ('[' :: writeString s ++ writeTail ss)

/-! ## Reading -/

def hexValue (c : Char) : Option Nat :=
  if '0' ≤ c ∧ c ≤ '9' then some (c.toNat - 48)
  else if 'a' ≤ c ∧ c ≤ 'f' then some (c.toNat - 87)
  else if 'A' ≤ c ∧ c ≤ 'F' then some (c.toNat - 55)
  else none

/-- The character of a `\u` escape; halves of surrogate pairs are refused. -/
def unicodeEscape (a b c d : Char) : Option Char := do
  let n := 4096 * (← hexValue a) + 256 * (← hexValue b) + 16 * (← hexValue c) + (← hexValue d)
  if 0xD800 ≤ n ∧ n ≤ 0xDFFF then none else some (Char.ofNat n)

/-- The character a two-character escape stands for; a reader also knows `\/`. -/
def unescape (l : Char) : Option Char :=
  if l = '/' then some '/' else (shortEscapes.find? (·.2 == l)).map (·.1)

/-- A string after its opening quote: its characters and what follows the closing quote. -/
def readBody : List Char → Option (List Char × List Char)
  | [] => none
  | '"' :: r => some ([], r)
  | '\\' :: 'u' :: a :: b :: c :: d :: r =>
      (unicodeEscape a b c d).bind fun x => (readBody r).map fun p => (x :: p.1, p.2)
  | '\\' :: l :: r => (unescape l).bind fun x => (readBody r).map fun p => (x :: p.1, p.2)
  | c :: r => if c = '\\' ∨ c.toNat < 32 then none else (readBody r).map fun p => (c :: p.1, p.2)

def isSpace (c : Char) : Bool := c == ' ' || c == '\n' || c == '\t' || c == '\r'

def skipSpace (cs : List Char) : List Char := cs.dropWhile isSpace

/-- A string with its opening quote. -/
def readString (cs : List Char) : Option (String × List Char) :=
  match skipSpace cs with
  | '"' :: r => (readBody r).map fun p => (String.ofList p.1, p.2)
  | _ => none

/-- The elements after the first one, up to the closing bracket. -/
def readTail : Nat → List Char → Option (List String × List Char)
  | 0, _ => none
  | n + 1, cs =>
      match skipSpace cs with
      | ']' :: r => some ([], r)
      | ',' :: r =>
          (readString r).bind fun p => (readTail n p.2).map fun q => (p.1 :: q.1, q.2)
      | _ => none

/-- An array of strings that fills the text. -/
def readStrings (t : String) : Option (List String) :=
  match skipSpace t.toList with
  | '[' :: r =>
      match skipSpace r with
      | ']' :: r' => if skipSpace r' = [] then some [] else none
      | r' =>
          (readString r').bind fun p =>
            (readTail p.2.length p.2).bind fun q =>
              if skipSpace q.2 = [] then some (p.1 :: q.1) else none
  | _ => none

/-! ## The round trip -/

theorem hexValue_hexDigit : ∀ n, n < 16 → hexValue (hexDigit n) = some n := by decide

theorem hexValue_zero : hexValue '0' = some 0 := by decide

theorem unicodeEscape_control {n : Nat} (h : n < 32) :
    unicodeEscape '0' '0' (hexDigit (n / 16)) (hexDigit (n % 16)) = some (Char.ofNat n) := by
  have h1 := hexValue_hexDigit (n / 16) (by omega)
  have h2 := hexValue_hexDigit (n % 16) (by omega)
  have hn : 4096 * 0 + 256 * 0 + 16 * (n / 16) + n % 16 = n := by omega
  have hs : ¬ (0xD800 ≤ n ∧ n ≤ 0xDFFF) := by omega
  simp only [unicodeEscape, hexValue_zero, h1, h2, Option.bind_eq_bind, Option.bind_some, hn,
    if_neg hs]

/-- Every letter of the table stands for its character, and none of them is the `u`. -/
theorem unescape_of_mem : ∀ e ∈ shortEscapes, unescape e.2 = some e.1 ∧ e.2 ≠ 'u' := by decide

/-- What has no two-character escape is neither of the two characters that end a plain one. -/
theorem ne_of_find?_none {c : Char} (h : shortEscapes.find? (·.1 == c) = none) :
    c ≠ '"' ∧ c ≠ '\\' := by
  rw [List.find?_eq_none] at h
  have hq := h ('"', '"') (by simp [shortEscapes])
  have hb := h ('\\', '\\') (by simp [shortEscapes])
  simp only [beq_iff_eq] at hq hb
  exact ⟨Ne.symm hq, Ne.symm hb⟩

/-- Reading undoes the escape of one character. -/
theorem readBody_escape (c : Char) (r : List Char) :
    readBody (escape c ++ r) = (readBody r).map fun p => (c :: p.1, p.2) := by
  unfold escape
  cases hf : shortEscapes.find? (·.1 == c) with
  | some e =>
    obtain ⟨hu, hne⟩ := unescape_of_mem e (List.mem_of_find?_eq_some hf)
    have hc : e.1 = c := by simpa using List.find?_some hf
    simp only [List.cons_append, List.nil_append]
    rw [readBody.eq_def]
    simp [hu, hne, hc]
  | none =>
    obtain ⟨hq, hb⟩ := ne_of_find?_none hf
    by_cases hctl : c.toNat < 32
    · simp only [if_pos hctl, List.cons_append, List.nil_append, readBody,
        unicodeEscape_control hctl, Option.bind_some, Char.ofNat_toNat]
    · simp only [if_neg hctl, List.cons_append, List.nil_append]
      rw [readBody.eq_def]
      simp [hb, hctl]

theorem readBody_flatMap_escape (cs r : List Char) :
    readBody (cs.flatMap escape ++ '"' :: r) = some (cs, r) := by
  induction cs with
  | nil => simp [readBody]
  | cons c cs ih => rw [List.flatMap_cons, List.append_assoc, readBody_escape, ih]; rfl

theorem readString_writeString (s : String) (r : List Char) :
    readString (writeString s ++ r) = some (s, r) := by
  have hsp : skipSpace (writeString s ++ r)
      = '"' :: (s.toList.flatMap escape ++ '"' :: r) := by
    simp [skipSpace, writeString, isSpace]
  simp only [readString, hsp, readBody_flatMap_escape, Option.map_some, String.ofList_toList]

theorem readTail_writeTail (ss : List String) (r : List Char) {n : Nat}
    (hn : (writeTail ss).length ≤ n) : readTail n (writeTail ss ++ r) = some (ss, r) := by
  induction ss generalizing n with
  | nil =>
    cases n with
    | zero => simp [writeTail] at hn
    | succ n => simp [writeTail, readTail, skipSpace, isSpace]
  | cons s ss ih =>
    cases n with
    | zero => simp [writeTail] at hn
    | succ n =>
      have hlen : (writeTail ss).length ≤ n := by
        simp only [writeTail, List.cons_append, List.length_cons, List.length_append] at hn
        omega
      have hsp : skipSpace (writeTail (s :: ss) ++ r)
          = ',' :: (writeString s ++ (writeTail ss ++ r)) := by
        simp [skipSpace, writeTail, isSpace]
      simp only [readTail, hsp, readString_writeString, Option.bind_some, ih hlen,
        Option.map_some]

/-- **What is written for an array of strings reads back as that array.** -/
theorem readStrings_writeStrings (ss : List String) :
    readStrings (writeStrings ss) = some ss := by
  cases ss with
  | nil => rfl
  | cons s ss =>
    have hsp : skipSpace (writeStrings (s :: ss)).toList
        = '[' :: (writeString s ++ writeTail ss) := by
      simp [skipSpace, writeStrings, isSpace]
    have hsp' : skipSpace (writeString s ++ writeTail ss)
        = '"' :: (s.toList.flatMap escape ++ '"' :: writeTail ss) := by
      simp [skipSpace, writeString, isSpace]
    have hre : '"' :: (s.toList.flatMap escape ++ '"' :: writeTail ss)
        = writeString s ++ writeTail ss := by simp [writeString]
    have htail := readTail_writeTail ss [] (Nat.le_refl _)
    rw [List.append_nil] at htail
    have hhead : readString ('"' :: (s.toList.flatMap escape ++ '"' :: writeTail ss))
        = some (s, writeTail ss) := by rw [hre, readString_writeString]
    unfold readStrings
    simp only [hsp, hsp']
    split
    case h_1 heq =>
      -- a closing bracket is not the quote the text goes on with
      exact absurd (List.cons.inj heq).1 (by decide)
    case h_2 =>
      rw [hhead, Option.bind_some, htail, Option.bind_some]
      exact if_pos List.dropWhile_nil

end Json

end Lib
end PolyNotifier
