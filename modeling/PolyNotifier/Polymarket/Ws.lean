import PolyNotifier.Common.Models

/-!
# Frames of the WebSocket

A text frame is a JSON array of events. `parseWsMessage` turns each element into one `WsEvent`,
an element it can make nothing of into `unknown`, and a frame that is no array into a single
`unknown`.

The wire types are read the way a derived `Deserialize` reads a `serde_json::Value`: an object by
its field names, an optional field may be missing or `null`, and an array by position, in which
case every field has to be there.
-/

namespace PolyNotifier

open Lib (Json)

/-! ## Wire types -/

/-- `types::RawBookLevel`. -/
structure RawBookLevel where
  price : String
  size : String

/-- `types::RawWsEvent`. -/
structure RawWsEvent where
  eventType : Option String
  assetId : Option String
  price : Option String
  lastTradePrice : Option String
  bids : Option (List RawBookLevel)
  asks : Option (List RawBookLevel)

/-- An `Option` field: missing and `null` are `None`. -/
def optionalField {α : Type} (f : Json → Option α) : Option Json → Option (Option α)
  | none => some none
  | some .null => some none
  | some v => (f v).map some

/-- A level is an object or, as for every struct that `serde` derives, an array of its fields in
    their order. -/
def RawBookLevel.fromValue : Json → Option RawBookLevel
  | .obj fields => do
      let price ← (fields.lookup "price").bind Json.asString
      let size ← (fields.lookup "size").bind Json.asString
      some ⟨price, size⟩
  | .arr [price, size] => do
      let price ← price.asString
      let size ← size.asString
      some ⟨price, size⟩
  | _ => none

/-- The six fields, each from its value. A field that is absent or `null` is `None`; one of the
    wrong type fails the whole event. -/
def RawWsEvent.ofFields (eventType assetId price lastTradePrice bids asks : Option Json) :
    Option RawWsEvent := do
  let eventType ← optionalField Json.asString eventType
  let assetId ← optionalField Json.asString assetId
  let price ← optionalField Json.asString price
  let lastTradePrice ← optionalField Json.asString lastTradePrice
  let bids ← optionalField (Json.asList RawBookLevel.fromValue) bids
  let asks ← optionalField (Json.asList RawBookLevel.fromValue) asks
  some { eventType, assetId, price, lastTradePrice, bids, asks }

/-- `serde_json::from_value::<RawWsEvent>`. Fields that the struct does not have are ignored, and
    like any derived struct it can be read from an array as well, if all fields are there. -/
def RawWsEvent.fromValue : Json → Option RawWsEvent
  | .obj fields =>
      ofFields (fields.lookup "event_type") (fields.lookup "asset_id") (fields.lookup "price")
        (fields.lookup "last_trade_price") (fields.lookup "bids") (fields.lookup "asks")
  | .arr [eventType, assetId, price, lastTradePrice, bids, asks] =>
      ofFields (some eventType) (some assetId) (some price) (some lastTradePrice) (some bids)
        (some asks)
  | _ => none

/-! ## Events -/

/-- `types::BookLevel`. -/
structure BookLevel where
  price : Decimal
  size : Decimal
  deriving DecidableEq

/-- `types::WsEvent`. -/
inductive WsEvent where
  | priceChange (assetId : String) (price : Decimal)
  | lastTradePrice (assetId : String) (price : Decimal)
  | book (assetId : String) (bids asks : List BookLevel)
  | unknown (text : String)
  deriving DecidableEq

section

variable (x : Crates)

/-- `Decimal::from_str` of a price or a size; what does not parse is skipped. -/
def parseBookLevels (raw : List RawBookLevel) : List BookLevel :=
  raw.filterMap fun r => do
    let price ← x.decimalFromStr r.price
    let size ← x.decimalFromStr r.size
    some ⟨price, size⟩

/-- `parse_single_event`. Whatever is not understood becomes `unknown` with its text, so that one
    frame always has as many events as elements. The price of a trade may come in either of two
    fields. -/
def parseSingleEvent (value : Json) : WsEvent :=
  match RawWsEvent.fromValue value with
  | none => .unknown (x.toString value)
  | some raw =>
      match raw.assetId.filter (· ≠ "") with
      | none => .unknown (x.toString value)
      | some assetId =>
          match raw.eventType.getD "" with
          | "price_change" =>
              match raw.price.bind x.decimalFromStr with
              | some price => .priceChange assetId price
              | none => .unknown (x.toString value)
          | "last_trade_price" =>
              match (raw.lastTradePrice.or raw.price).bind x.decimalFromStr with
              | some price => .lastTradePrice assetId price
              | none => .unknown (x.toString value)
          | "book" =>
              .book assetId (parseBookLevels x (raw.bids.getD []))
                (parseBookLevels x (raw.asks.getD []))
          | _ => .unknown (x.toString value)

def parseWsMessage (text : String) : List WsEvent :=
  match x.fromStr text with
  | some (.arr values) => values.map (parseSingleEvent x)
  | _ => [.unknown text]

/-- What an element has to be to carry a price: it deserialises, names an asset, and is a
    `price_change` with a price that parses, or a `last_trade_price` whose own field parses, or,
    only where that is absent, its price. -/
def Quotes (value : Json) (assetId : String) (price : Decimal) : Prop :=
  ∃ raw, RawWsEvent.fromValue value = some raw ∧ raw.assetId = some assetId ∧ assetId ≠ "" ∧
    ((raw.eventType = some "price_change" ∧
        ∃ text, raw.price = some text ∧ x.decimalFromStr text = some price) ∨
      (raw.eventType = some "last_trade_price" ∧
        ∃ text, (raw.lastTradePrice = some text ∨
          raw.lastTradePrice = none ∧ raw.price = some text) ∧
          x.decimalFromStr text = some price))

/-- The asset and the price of an event that has them. -/
def WsEvent.quote : WsEvent → Option (String × Decimal)
  | .priceChange assetId price => some (assetId, price)
  | .lastTradePrice assetId price => some (assetId, price)
  | .book .. => none
  | .unknown _ => none

variable {x}

theorem eventType_eq {o : Option String} {s : String} (h : o.getD "" = s) (hs : s ≠ "") :
    o = some s := by
  cases o with
  | none => exact absurd h.symm hs
  | some t => exact congrArg some h

/-- What an element quotes, once it has been read. -/
theorem quotes_iff {value : Json} {raw : RawWsEvent} (hraw : RawWsEvent.fromValue value = some raw)
    {assetId : String} {price : Decimal} : Quotes x value assetId price ↔
      raw.assetId = some assetId ∧ assetId ≠ "" ∧
        ((raw.eventType = some "price_change" ∧ raw.price.bind x.decimalFromStr = some price) ∨
          (raw.eventType = some "last_trade_price" ∧
            (raw.lastTradePrice.or raw.price).bind x.decimalFromStr = some price)) := by
  simp only [Quotes, hraw, Option.some.injEq, exists_eq_left', Option.bind_eq_some_iff,
    Option.or_eq_some_iff]

/-- **An element quotes a price if and only if it is one of the two.** -/
theorem quote_parseSingleEvent {value : Json} {assetId : String} {price : Decimal} :
    (parseSingleEvent x value).quote = some (assetId, price) ↔ Quotes x value assetId price := by
  unfold parseSingleEvent
  cases hraw : RawWsEvent.fromValue value with
  | none => simp [WsEvent.quote, Quotes, hraw]
  | some raw =>
    rw [quotes_iff hraw]
    dsimp only
    cases hasset : raw.assetId with
    | none => simp [WsEvent.quote]
    | some a =>
      by_cases ha : a = ""
      · have hfilter : (some a).filter (fun s => s ≠ "") = none := by simp [ha]
        simp only [hfilter, WsEvent.quote, reduceCtorEq, false_iff]
        rintro ⟨heq, hne, _⟩
        exact hne ((Option.some.inj heq).symm.trans ha)
      · have hfilter : (some a).filter (fun s => s ≠ "") = some a := by simp [ha]
        simp only [hfilter]
        split
        · -- price_change: its own price
          rename_i htype
          have htype' : raw.eventType = some "price_change" := eventType_eq htype (by decide)
          cases hprice : raw.price.bind x.decimalFromStr with
          | none => simp [WsEvent.quote, htype']
          | some p =>
            simp only [WsEvent.quote, htype', Option.some.injEq, Prod.mk.injEq]
            constructor
            · rintro ⟨rfl, rfl⟩
              exact ⟨rfl, ha, .inl ⟨trivial, rfl⟩⟩
            · rintro ⟨rfl, _, ⟨_, hp⟩ | ⟨he, _⟩⟩
              · exact ⟨rfl, hp⟩
              · exact absurd he (by decide)
        · -- last_trade_price: its own field, and the price where that is absent
          rename_i htype
          have htype' : raw.eventType = some "last_trade_price" := eventType_eq htype (by decide)
          cases hprice : (raw.lastTradePrice.or raw.price).bind x.decimalFromStr with
          | none => simp [WsEvent.quote, htype']
          | some p =>
            simp only [WsEvent.quote, htype', Option.some.injEq, Prod.mk.injEq]
            constructor
            · rintro ⟨rfl, rfl⟩
              exact ⟨rfl, ha, .inr ⟨trivial, rfl⟩⟩
            · rintro ⟨rfl, _, ⟨he, _⟩ | ⟨_, hp⟩⟩
              · exact absurd he (by decide)
              · exact ⟨rfl, hp⟩
        · rename_i htype
          have htype' : raw.eventType = some "book" := eventType_eq htype (by decide)
          simp [WsEvent.quote, htype']
        · rename_i hchange htrade _
          simp only [WsEvent.quote, reduceCtorEq, false_iff]
          rintro ⟨_, _, ⟨he, _⟩ | ⟨he, _⟩⟩
          · exact hchange (by rw [he]; rfl)
          · exact htrade (by rw [he]; rfl)

end

end PolyNotifier
