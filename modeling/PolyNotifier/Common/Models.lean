import Mathlib.Data.Finmap
import PolyNotifier.Common.Number
import PolyNotifier.Lib.Json

/-!
# What the crates of the workspace share

Machine integers, time, the concurrent maps, the events on the channels between the services,
and the third-party functions the code calls.

A third-party function is a field of `Crates`: the code's own functions take one as a parameter
and say nothing about it. What the code relies on is `Crates.Lawful`, assumed only where a
result needs it.
-/

namespace PolyNotifier

open Lib (Json)

/-! ## Machine integers -/

/-- `n as i32`. -/
def asI32 (n : Int) : Int := n.bmod (2 ^ 32)

/-- `n as i64`. -/
def asI64 (n : Int) : Int := n.bmod (2 ^ 64)

/-- `n as usize`, on a 64-bit target. -/
def asUsize (n : Int) : Nat := (n % 2 ^ 64).toNat

def InI32 (n : Int) : Prop := -2 ^ 31 ≤ n ∧ n < 2 ^ 31

instance (n : Int) : Decidable (InI32 n) := inferInstanceAs (Decidable (_ ∧ _))

theorem asUsize_of_nonneg {n : Int} (h0 : 0 ≤ n) (h : n < 2 ^ 64) : asUsize n = n.toNat := by
  rw [asUsize, Int.emod_eq_of_lt h0 h]

/-! ## Time -/

/-- `chrono::NaiveDateTime`: nanoseconds on the UTC clock. The ends of chrono's range are not here;
    where they matter, `Alert.DefaultCooldown` has them. -/
abbrev NaiveDateTime := Int

/-- `chrono::Duration`, in nanoseconds. -/
abbrev Duration := Int

namespace Duration

def seconds (n : Int) : Duration := n * 1000000000
def minutes (n : Int) : Duration := seconds (n * 60)
def hours (n : Int) : Duration := seconds (n * 3600)

end Duration

/-! ## Maps -/

/-- `dashmap::DashMap`, and `HashMap` where it is only looked up. A walk over such a map is a list
    of keys that is given from outside, as its order is the map's own. -/
abbrev DashMap (κ ν : Type) := Finmap fun _ : κ => ν

/-! ## Alerts -/

/-- `models::AlertType`. -/
inductive AlertType where
  | above
  | below
  | cross
  deriving DecidableEq

namespace AlertType

/-- `Display`. -/
def toString : AlertType → String
  | .above => "above"
  | .below => "below"
  | .cross => "cross"

/-- `FromStr`. -/
def fromStr (s : String) : Option AlertType :=
  match s with
  | "above" => some .above
  | "below" => some .below
  | "cross" => some .cross
  | _ => none

@[simp] theorem fromStr_toString (t : AlertType) : fromStr t.toString = some t := by
  cases t <;> rfl

end AlertType

/-! ## Events -/

/-- `events::PriceUpdate`: one tick of the price feed. -/
structure PriceUpdate where
  tokenId : String
  conditionId : String
  price : Decimal
  timestamp : NaiveDateTime
  deriving DecidableEq

/-- `events::NotificationType`. -/
inductive NotificationType where
  | alert
  | dailySummary
  deriving DecidableEq

/-- `Display`. -/
def NotificationType.toString : NotificationType → String
  | .alert => "alert"
  | .dailySummary => "daily_summary"

/-- `events::NotificationRequest`. -/
structure NotificationRequest where
  userTelegramId : Int
  botId : String
  message : String
  notificationType : NotificationType
  deriving DecidableEq

/-! ## Outcomes -/

/-- The label of an outcome index, as the bot and the summary show it. -/
def outcomeLabel (outcomes : List String) (outcomeIndex : Int) : String :=
  (outcomes[asUsize outcomeIndex]?).getD ("Outcome " ++ ToString.toString outcomeIndex)

/-! ## Third-party functions -/

/-- The third-party functions the program calls, as it sees them. They are parameters, and not
    definitions, because their code is not part of the repository; `Crates.Lawful` is what is
    relied on, and `Crates.reference` meets it. -/
structure Crates where
  /-- `serde_json::from_str::<Value>` -/
  fromStr : String → Option Json
  /-- `serde_json::to_string` -/
  toString : Json → String
  /-- `Decimal::try_from(f64)` -/
  decimalTryFrom : F64 → Option Decimal
  /-- `Decimal::from_str` -/
  decimalFromStr : String → Option Decimal
  /-- `Serialize` of `Decimal`, with the feature `serde-with-str` alone -/
  serializeDecimal : Decimal → Json
  /-- `Deserialize` of `Decimal` -/
  deserializeDecimal : Json → Option Decimal
  /-- `format!("{d:.1}")` of a `Decimal` -/
  formatDecimal1 : Decimal → String
  /-- `NaiveDateTime::format`, by format string -/
  format : String → NaiveDateTime → String

namespace Crates

variable (x : Crates)

/-- `serde_json::from_str::<Vec<String>>`. -/
def parseStrings (s : String) : Option (List String) := (x.fromStr s).bind Json.asStrings

/-- `serde_json::to_string(&Vec<String>)`. -/
def writeStrings (ss : List String) : String := x.toString (.strings ss)

/-- `serde_json::from_str::<Vec<f64>>`: JSON numbers, and nothing else. An integer may have more
    digits than an `f64` keeps. -/
def parseF64s (s : String) : Option (List F64) :=
  (x.fromStr s).bind (Json.asList fun j => j.asNumber.map F64.ofRat)

/-- `serde_json::from_str::<Vec<Decimal>>`. -/
def parseDecimals (s : String) : Option (List Decimal) :=
  (x.fromStr s).bind (Json.asList x.deserializeDecimal)

/-- `serde_json::to_string(&Vec<Decimal>)`. -/
def writeDecimals (ds : List Decimal) : String := x.toString (.arr (ds.map x.serializeDecimal))

/-- What the code relies on. Each field is something the crate promises on its own; none of them is
    about what the program does with it, and most results need none of them. -/
structure Lawful : Prop where
  /-- A list of strings that was written as JSON reads back. -/
  fromStr_strings : ∀ ss, x.fromStr (x.toString (.strings ss)) = some (.strings ss)
  /-- A number between 0 and 1 has a decimal, -/
  tryFrom_unit : ∀ q : ℚ, 0 ≤ q → q ≤ 1 → ∃ d, x.decimalTryFrom (.num q) = some d
  /-- which is the number itself, if that is an `f64` with at most fifteen significant digits. -/
  tryFrom_exact : ∀ d : Decimal, d.mantissa.natAbs < 10 ^ 15 → F64.ofRat d.value = .num d.value →
    ∃ d', x.decimalTryFrom (.num d.value) = some d' ∧ d'.value = d.value
  /-- A decimal is written as a JSON string, -/
  serialize_str : ∀ d, ∃ s, x.serializeDecimal d = .str s
  /-- and reads back. -/
  deserialize_serialize : ∀ d, x.deserializeDecimal (x.serializeDecimal d) = some d

variable {x}

/-- **A list of strings written as JSON parses as that list.** -/
theorem Lawful.parseStrings_writeStrings (hx : x.Lawful) (ss : List String) :
    x.parseStrings (x.writeStrings ss) = some ss := by
  rw [parseStrings, writeStrings, hx.fromStr_strings, Option.bind_some, Json.asStrings_strings]

/-- A list of decimals is written as a list of strings. -/
theorem Lawful.fromStr_writeDecimals (hx : x.Lawful) (ds : List Decimal) :
    ∃ ss, ss.length = ds.length ∧ .strings ss = Json.arr (ds.map x.serializeDecimal) ∧
      x.fromStr (x.writeDecimals ds) = some (.strings ss) := by
  have hss : ∃ ss : List String, ss.map Json.str = ds.map x.serializeDecimal := by
    induction ds with
    | nil => exact ⟨[], rfl⟩
    | cons d ds ih =>
      obtain ⟨s, hs⟩ := hx.serialize_str d
      obtain ⟨ss, hss⟩ := ih
      exact ⟨s :: ss, by rw [List.map_cons, List.map_cons, hs, hss]⟩
  obtain ⟨ss, hss⟩ := hss
  have hlen : ss.length = ds.length := by simpa using congrArg List.length hss
  refine ⟨ss, hlen, congrArg Json.arr hss, ?_⟩
  rw [writeDecimals, ← hss]
  exact hx.fromStr_strings ss

/-- **A list of decimals written as JSON parses as that list.** -/
theorem Lawful.parseDecimals_writeDecimals (hx : x.Lawful) (ds : List Decimal) :
    x.parseDecimals (x.writeDecimals ds) = some ds := by
  obtain ⟨ss, _, hss, hread⟩ := hx.fromStr_writeDecimals ds
  have hmap : ∀ l : List Decimal,
      (l.map x.serializeDecimal).mapM x.deserializeDecimal = some l := by
    intro l
    induction l with
    | nil => rfl
    | cons d l ih =>
      rw [List.map_cons, List.mapM_cons, hx.deserialize_serialize, ih]
      rfl
  rw [parseDecimals, hread, Option.bind_some, hss]
  exact hmap ds

/-- **A list of decimals written as JSON is no list of `f64`**, unless it is empty. -/
theorem Lawful.parseF64s_writeDecimals (hx : x.Lawful) {ds : List Decimal} (hds : ds ≠ []) :
    x.parseF64s (x.writeDecimals ds) = none := by
  obtain ⟨ss, hlen, _, hread⟩ := hx.fromStr_writeDecimals ds
  rw [parseF64s, hread, Option.bind_some]
  cases ss with
  | nil => exact absurd (List.length_eq_zero_iff.mp hlen.symm) hds
  | cons s ss => simp [Json.strings, Json.asList, Json.asNumber]

end Crates

end PolyNotifier
