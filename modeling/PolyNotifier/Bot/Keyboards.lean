import PolyNotifier.Bot.Api
import PolyNotifier.Lib.Text

/-!
# Inline keyboards and their callback data

Each keyboard writes an index, an id or a word behind a prefix into the data of its buttons, and
each handler strips the prefix and parses the rest. `decode_*` is the round trip; the prefixes
keep the kinds apart.
-/

namespace PolyNotifier

open Lib (stripPrefix parseI64 parseUsize)

def maxLabelLen : Nat := 40

/-- Labels longer than `maxLabelLen` characters end in an ellipsis. Characters are counted, and not
    bytes, so no label is cut inside one. -/
def truncate (s : String) : String :=
  if s.toList.length ≤ maxLabelLen then s
  else String.ofList (s.toList.take (maxLabelLen - 1)) ++ "…"

/-- Data `market:{index}`. -/
def marketListKeyboard (markets : List MarketOption) : Keyboard :=
  markets.zipIdx.map fun (m, i) => [⟨truncate m.question, "market:" ++ toString i⟩]

/-- Data `outcome:{index}`. The label is the outcome as it is; only the other keyboards shorten
    theirs. -/
def outcomeKeyboard (outcomes : List String) : Keyboard :=
  outcomes.zipIdx.map fun (label, i) => [⟨label, "outcome:" ++ toString i⟩]

/-- Data `alert_type:{type}`. -/
def alertTypeKeyboard : Keyboard :=
  [[⟨"Above threshold", "alert_type:above"⟩, ⟨"Below threshold", "alert_type:below"⟩,
    ⟨"Cross threshold", "alert_type:cross"⟩]]

/-- Data `sub:{id}`. -/
def subscriptionListKeyboard (subscriptions : List (Int × String)) : Keyboard :=
  subscriptions.map fun (id, label) => [⟨truncate label, "sub:" ++ toString id⟩]

/-- Data `unsub:{id}`. -/
def unsubscribeKeyboard (subscriptions : List (Int × String)) : Keyboard :=
  subscriptions.map fun (id, label) => [⟨truncate label, "unsub:" ++ toString id⟩]

/-! ## Decoding -/

/-- The index of a market is parsed as a `usize`: a negative number is no index, and the press is
    ignored. -/
def decodeMarket (data : String) : Option Nat := (stripPrefix "market:" data).bind parseUsize

/-- The outcome index is parsed as an `i64`, so a negative number gets through, and so does one
    beyond the list. -/
def decodeOutcome (data : String) : Option Int := (stripPrefix "outcome:" data).bind parseI64

def decodeAlertType (data : String) : Option String :=
  (stripPrefix "alert_type:" data).filter fun t => ["above", "below", "cross"].contains t

def decodeSub (data : String) : Option Int := (stripPrefix "sub:" data).bind parseI64

def decodeUnsub (data : String) : Option Int := (stripPrefix "unsub:" data).bind parseI64

theorem decodeMarket_data {i : Nat} (h : i < 2 ^ 64) :
    decodeMarket ("market:" ++ toString i) = some i := by
  rw [decodeMarket, Lib.stripPrefix_append, Option.bind_some, Lib.parseUsize_toString h]

theorem decodeOutcome_data {i : Int} (h0 : -2 ^ 63 ≤ i) (h1 : i < 2 ^ 63) :
    decodeOutcome ("outcome:" ++ toString i) = some i := by
  rw [decodeOutcome, Lib.stripPrefix_append, Option.bind_some, Lib.parseI64_toString h0 h1]

theorem decodeSub_data {i : Int} (h0 : -2 ^ 63 ≤ i) (h1 : i < 2 ^ 63) :
    decodeSub ("sub:" ++ toString i) = some i := by
  rw [decodeSub, Lib.stripPrefix_append, Option.bind_some, Lib.parseI64_toString h0 h1]

theorem decodeUnsub_data {i : Int} (h0 : -2 ^ 63 ≤ i) (h1 : i < 2 ^ 63) :
    decodeUnsub ("unsub:" ++ toString i) = some i := by
  rw [decodeUnsub, Lib.stripPrefix_append, Option.bind_some, Lib.parseI64_toString h0 h1]

theorem decodeAlertType_data (t : AlertType) :
    decodeAlertType ("alert_type:" ++ t.toString) = some t.toString := by
  rw [decodeAlertType, Lib.stripPrefix_append]
  cases t <;> rfl

end PolyNotifier
