import PolyNotifier.Common.Models

/-!
# Markets of the Gamma API

The API answers with events, each with raw markets whose outcomes and token ids are JSON lists
inside strings. `flattenEvent` keeps the markets that have a condition id and zips the two
lists; where one is longer, its rest is dropped.
-/

namespace PolyNotifier

/-- `types::GammaRawMarket`: every field may be missing. -/
structure GammaRawMarket where
  conditionId : Option String
  question : Option String
  outcomes : Option String
  clobTokenIds : Option String
  active : Option Bool
  slug : Option String

/-- `types::GammaEvent`, without the title, which nothing reads. -/
structure GammaEvent where
  slug : Option String
  markets : Option (List GammaRawMarket)

structure GammaToken where
  tokenId : String
  outcome : String
  deriving DecidableEq

structure GammaMarket where
  conditionId : String
  question : String
  slug : String
  outcomes : String
  tokens : List GammaToken
  active : Bool
  deriving DecidableEq

section

variable (x : Crates)

/-- A JSON list inside a string; one that is missing or does not parse is empty. -/
def parseLabels (field : Option String) : List String :=
  (x.parseStrings (field.getD "[]")).getD []

/-- `parse_raw_market`. A market without a condition id is dropped; a list that does not parse
    counts as empty; and labels and tokens are zipped, so the longer list loses its end. -/
def parseRawMarket (raw : GammaRawMarket) (eventSlug : String) : Option GammaMarket :=
  match raw.conditionId with
  | some conditionId =>
      if conditionId = "" then none
      else
        let tokens := List.zipWith (fun outcome tokenId => ⟨tokenId, outcome⟩)
          (parseLabels x raw.outcomes) (parseLabels x raw.clobTokenIds)
        some { conditionId, question := raw.question.getD "", slug := raw.slug.getD eventSlug,
               outcomes := raw.outcomes.getD "[]", tokens, active := raw.active.getD false }
  | none => none

def flattenEvent (event : GammaEvent) : List GammaMarket :=
  (event.markets.getD []).filterMap fun raw => parseRawMarket x raw (event.slug.getD "")

/-- `events.into_iter().flat_map(flatten_event)` -/
def flattenEvents (events : List GammaEvent) : List GammaMarket := events.flatMap (flattenEvent x)

variable {x}

/-- **The `j`-th token of a market is the `j`-th entry of both lists.** -/
theorem parseRawMarket_token {raw : GammaRawMarket} {slug : String} {m : GammaMarket}
    (h : parseRawMarket x raw slug = some m) {j : Nat} (hj : j < m.tokens.length) :
    raw.conditionId = some m.conditionId ∧
    (parseLabels x raw.outcomes)[j]? = some (m.tokens[j].outcome) ∧
    (parseLabels x raw.clobTokenIds)[j]? = some (m.tokens[j].tokenId) := by
  unfold parseRawMarket at h
  cases hc : raw.conditionId with
  | none => rw [hc] at h; cases h
  | some c =>
    rw [hc] at h
    dsimp only at h
    split at h
    · cases h
    · cases h
      simp only [List.length_zipWith] at hj
      refine ⟨rfl, ?_, ?_⟩
      · rw [List.getElem?_eq_getElem (by omega), List.getElem_zipWith]
      · rw [List.getElem?_eq_getElem (by omega), List.getElem_zipWith]

/-- Every market of a response comes from one of its raw markets. -/
theorem mem_flattenEvents {events : List GammaEvent} {m : GammaMarket} :
    m ∈ flattenEvents x events ↔ ∃ event ∈ events, ∃ raw ∈ event.markets.getD [],
      parseRawMarket x raw (event.slug.getD "") = some m := by
  simp only [flattenEvents, flattenEvent, List.mem_flatMap, List.mem_filterMap]

end

end PolyNotifier
