import Mathlib.Data.List.Induction
import PolyNotifier.Common.Reference
import PolyNotifier.Scheduler.DailySummary

/-!
# What the users get of a summary

`send_summaries` groups the rows over a hash map and formats each group by itself. So what a user
gets depends on their own rows alone: `requestFor` is that function, and `filter_sendSummaries`
says that the requests of a user are what it gives, in whatever order the map is walked.

A message is a block of lines for each row, in query order. `Shows` is one block, with a price
for every outcome.
-/

namespace PolyNotifier

open Lib (join)

/-! ## Messages -/

section

variable (x : Crates)

/-- Both columns of the row parse. -/
def Parses (row : SummaryRow) : Prop :=
  (x.parseStrings row.outcomes).isSome ∧ (x.parseF64s row.lastPrices).isSome

instance (row : SummaryRow) : Decidable (Parses x row) := inferInstanceAs (Decidable (_ ∧ _))

/-- The prices of the outcomes: the `k`-th label with the `k`-th price, zero where there are fewer
    prices. It is said position by position, and not by the `zip` of the source, since what must
    not happen is a price under another label. -/
def PairsPrices (outcomes : List String) (prices : List F64) (parts : List String) : Prop :=
  parts.length = outcomes.length ∧
    ∀ (k : Nat) (label : String), outcomes[k]? = some label →
      parts[k]? = some (label ++ ": $" ++ F64.fixed 2 ((prices[k]?).getD (.num 0)))

/-- The block of one row: its number and question, the outcome that is tracked with its price, and
    all outcomes with theirs. -/
def Shows (row : SummaryRow) (number : Nat) (block : List String) : Prop :=
  ∃ outcomes prices parts, x.parseStrings row.outcomes = some outcomes ∧
    x.parseF64s row.lastPrices = some prices ∧ PairsPrices outcomes prices parts ∧
    block = [toString number ++ ". " ++ row.question,
      "   Tracking: " ++ outcomeLabel outcomes row.outcomeIndex ++ " @ $" ++
        F64.fixed 2 ((prices[asUsize row.outcomeIndex]?).getD (.num 0)),
      "   " ++ join " | " parts,
      ""]

/-- The message is a block for each row, in order and numbered from one. -/
def Summarizes (subs : List SummaryRow) (nowStr message : String) : Prop :=
  ∃ blocks : List (List String), blocks.length = subs.length ∧
    (∀ (k : Nat) (row : SummaryRow), subs[k]? = some row →
      ∃ block, blocks[k]? = some block ∧ Shows x row (k + 1) block) ∧
    message = join "\n" (["📊 Daily Summary", ""] ++ blocks.flatten ++ ["Updated: " ++ nowStr])

variable {x}

/-- Zipping with zeros at the end pairs every label. -/
theorem pairsPrices_zipWith (outcomes : List String) (prices : List F64) :
    PairsPrices outcomes prices
      (List.zipWith (fun label price => label ++ ": $" ++ F64.fixed 2 price) outcomes
        (prices ++ List.replicate outcomes.length (.num 0))) := by
  constructor
  · simp
  · intro k label hlabel
    have hk : k < outcomes.length := (List.getElem?_eq_some_iff.mp hlabel).1
    have hprice : (prices ++ List.replicate outcomes.length (F64.num 0))[k]? =
        some ((prices[k]?).getD (.num 0)) := by
      rcases Nat.lt_or_ge k prices.length with h | h
      · rw [List.getElem?_append_left h, List.getElem?_eq_getElem h, Option.getD_some]
      · rw [List.getElem?_append_right h, List.getElem?_replicate, if_pos (by omega),
          List.getElem?_eq_none h, Option.getD_none]
    rw [List.getElem?_zipWith, hlabel, hprice]

theorem summaryLines_shows {row : SummaryRow} {idx : Nat} {block : List String}
    (h : summaryLines x row idx = some block) : Shows x row (idx + 1) block := by
  unfold summaryLines at h
  obtain ⟨outcomes, houtcomes, h⟩ := Option.bind_eq_some_iff.mp h
  obtain ⟨prices, hprices, rfl⟩ := Option.map_eq_some_iff.mp h
  exact ⟨outcomes, prices, _, houtcomes, hprices, pairsPrices_zipWith outcomes prices, rfl⟩

theorem summaryLines_isSome {row : SummaryRow} (idx : Nat) :
    (summaryLines x row idx).isSome ↔ Parses x row := by
  unfold summaryLines Parses
  cases x.parseStrings row.outcomes with
  | none => simp
  | some outcomes => cases x.parseF64s row.lastPrices <;> simp

/-- The blocks of the rows from one on. -/
theorem mapM_summaryLines (subs : List SummaryRow) (start : Nat) :
    (∀ blocks, ((subs.zipIdx start).mapM fun r => summaryLines x r.1 r.2) = some blocks →
      blocks.length = subs.length ∧
        ∀ (k : Nat) (row : SummaryRow), subs[k]? = some row →
          ∃ block, blocks[k]? = some block ∧ Shows x row (start + k + 1) block) ∧
    (((subs.zipIdx start).mapM fun r => summaryLines x r.1 r.2).isSome ↔
      ∀ row ∈ subs, Parses x row) := by
  -- induction on the rows, with the number of the first left open
  induction subs generalizing start with
  | nil => simp
  | cons row subs ih =>
    obtain ⟨ih1, ih2⟩ := ih (start + 1)
    rw [List.zipIdx_cons, List.mapM_cons, List.forall_mem_cons, ← ih2,
      ← summaryLines_isSome start]
    cases hlines : summaryLines x row start with
    | none => simp
    | some block =>
      cases hrest : (subs.zipIdx (start + 1)).mapM fun r => summaryLines x r.1 r.2 with
      | none => simp
      | some rest =>
        obtain ⟨hlen, hshows⟩ := ih1 rest hrest
        refine ⟨?_, by simp⟩
        intro blocks hblocks
        obtain rfl : block :: rest = blocks := by simpa using hblocks
        refine ⟨by simp [hlen], ?_⟩
        intro k row' hrow'
        cases k with
        | zero =>
          cases hrow'
          exact ⟨block, rfl, summaryLines_shows hlines⟩
        | succ k =>
          obtain ⟨block', hblock', hshow⟩ := hshows k row' hrow'
          exact ⟨block', hblock', by rwa [show start + (k + 1) + 1 = start + 1 + k + 1 by omega]⟩

/-- **A message is the blocks of its rows**, and there is one if and only if every row parses. -/
theorem formatSummary_spec (subs : List SummaryRow) (nowStr : String) :
    (∀ message, formatSummary x subs nowStr = some message → Summarizes x subs nowStr message) ∧
      ((formatSummary x subs nowStr).isSome ↔ ∀ row ∈ subs, Parses x row) := by
  obtain ⟨hblocks, hsome⟩ := mapM_summaryLines (x := x) subs 0
  unfold formatSummary
  constructor
  · intro message hmessage
    obtain ⟨blocks, hlines, rfl⟩ := Option.map_eq_some_iff.mp hmessage
    obtain ⟨hlen, hshows⟩ := hblocks blocks hlines
    refine ⟨blocks, hlen, ?_, rfl⟩
    intro k row hrow
    obtain ⟨block, hblock, hshow⟩ := hshows k row hrow
    exact ⟨block, hblock, by rwa [Nat.zero_add] at hshow⟩
  · rw [Option.isSome_map, hsome]

end

/-! ## Requests -/

/-- The rows of a user, in query order. -/
def subsOf (rows : List SummaryRow) (userId : Int) : List SummaryRow :=
  rows.filter fun r => r.userId == userId

/-- Rows of the same user are of one Telegram user and one bot. -/
def Identified (rows : List SummaryRow) : Prop :=
  ∀ row ∈ rows, ∀ row' ∈ rows, row.userId = row'.userId →
    row.telegramId = row'.telegramId ∧ row.botId = row'.botId

/-- The walk over the map of the users visits every entry, once. It is all that is known of the
    order. -/
structure Walks (rows : List SummaryRow) (order : List Int) : Prop where
  nodup : order.Nodup
  mem : ∀ userId, userId ∈ order ↔ userId ∈ userMap rows

/-- **The entry of a user is made of their own rows.** -/
theorem lookup_userMap_eq (rows : List SummaryRow) (userId : Int) :
    (userMap rows).lookup userId = (subsOf rows userId).head?.map fun row =>
      (row.telegramId, row.botId, subsOf rows userId) := by
  induction rows using List.reverseRecOn with
  | nil => rfl
  | append_singleton rows row ih =>
    have hmap : userMap (rows ++ [row]) = groupRow (userMap rows) row := by
      rw [userMap, List.foldl_append]
      rfl
    rw [hmap, groupRow]
    by_cases huser : row.userId = userId
    · subst huser
      have hsubs : subsOf (rows ++ [row]) row.userId = subsOf rows row.userId ++ [row] := by
        simp [subsOf]
      rw [Finmap.lookup_insert, ih, hsubs]
      cases subsOf rows row.userId with
      | nil => rfl
      | cons first rest => rfl
    · have hsubs : subsOf (rows ++ [row]) userId = subsOf rows userId := by
        simp [subsOf, huser]
      rw [Finmap.lookup_insert_of_ne _ (Ne.symm huser), ih, hsubs]

theorem mem_userMap {rows : List SummaryRow} {userId : Int} :
    userId ∈ userMap rows ↔ ∃ row ∈ rows, row.userId = userId := by
  rw [← Finmap.lookup_isSome, lookup_userMap_eq, Option.isSome_map, List.isSome_head?, subsOf]
  simp [List.filter_eq_nil_iff]

section

variable (x : Crates)

/-- What a user gets. -/
def requestFor (nowStr : String) (rows : List SummaryRow) (userId : Int) :
    Option NotificationRequest :=
  ((userMap rows).lookup userId).bind (summaryRequest x nowStr)

variable {x} {env : SummaryEnv} {rows : List SummaryRow}

/-- Of a walk that visits each key once, those of one key. -/
theorem filter_filterMap_key {β : Type} (g : Int → Option β) {order : List Int}
    (hnodup : order.Nodup) (userId : Int) :
    (order.filterMap fun k => (g k).map fun b => (k, b)).filter (fun s => s.1 == userId) =
      if userId ∈ order then ((g userId).map fun b => (userId, b)).toList else [] := by
  -- induction on the walk; the key of the user occurs in it once, or not at all
  induction order with
  | nil => rfl
  | cons k order ih =>
    obtain ⟨hk, hnodup⟩ := List.nodup_cons.mp hnodup
    have hrest := ih hnodup
    by_cases heq : k = userId
    · subst heq
      rw [if_neg hk] at hrest
      rw [if_pos List.mem_cons_self]
      cases hg : g k with
      | none =>
        rw [List.filterMap_cons_none (by rw [hg]; rfl), hrest]
        rfl
      | some b =>
        rw [List.filterMap_cons_some (by rw [hg]; rfl), List.filter_cons_of_pos (by simp), hrest]
        rfl
    · have hmem : userId ∈ k :: order ↔ userId ∈ order := by
        rw [List.mem_cons]
        constructor
        · rintro (h | h)
          · exact absurd h.symm heq
          · exact h
        · exact .inr
      rw [if_congr hmem rfl rfl, ← hrest]
      cases hg : g k with
      | none => rw [List.filterMap_cons_none (by rw [hg]; rfl)]
      | some b =>
        rw [List.filterMap_cons_some (by rw [hg]; rfl), List.filter_cons_of_neg (by simpa using heq)]

/-- **What is sent to a user depends on their own rows alone.** -/
theorem filter_sendSummaries (hwalk : Walks rows env.order) (hopen : ∀ u, env.sendOk u = true)
    (userId : Int) :
    (sendSummaries x env rows).filter (fun sent => sent.1 == userId) =
      ((requestFor x (x.format "%Y-%m-%d %H:%M UTC" env.now) rows userId).map
        fun request => (userId, request)).toList := by
  have hsend : sendSummaries x env rows = env.order.filterMap fun k =>
      (requestFor x (x.format "%Y-%m-%d %H:%M UTC" env.now) rows k).map
        fun request => (k, request) := by
    unfold sendSummaries requestFor
    apply List.filterMap_congr
    intro k _
    cases (userMap rows).lookup k with
    | none => rfl
    | some entry =>
      rw [Option.bind_some, Option.bind_some, hopen k]
      cases summaryRequest x (x.format "%Y-%m-%d %H:%M UTC" env.now) entry <;> rfl
  rw [hsend, filter_filterMap_key _ hwalk.nodup]
  by_cases hmem : userId ∈ env.order
  · rw [if_pos hmem]
  · have hnone : (userMap rows).lookup userId = none :=
      Finmap.lookup_eq_none.mpr fun h => hmem ((hwalk.mem userId).mpr h)
    rw [if_neg hmem, requestFor, hnone]
    rfl

/-- The request for a user, if all their rows parse. -/
theorem requestFor_spec (hid : Identified rows) (nowStr : String) (userId : Int) :
    (subsOf rows userId ≠ [] ∧ (∀ row ∈ subsOf rows userId, Parses x row) →
      ∃ request, requestFor x nowStr rows userId = some request ∧
        request.notificationType = .dailySummary ∧
        (∀ row ∈ subsOf rows userId,
          request.userTelegramId = row.telegramId ∧ request.botId = row.botId) ∧
        formatSummary x (subsOf rows userId) nowStr = some request.message ∧
        Summarizes x (subsOf rows userId) nowStr request.message) ∧
    (¬ (subsOf rows userId ≠ [] ∧ ∀ row ∈ subsOf rows userId, Parses x row) →
      requestFor x nowStr rows userId = none) := by
  have hmem : ∀ row ∈ subsOf rows userId, row ∈ rows ∧ row.userId = userId := by
    intro row hrow
    obtain ⟨hrow, huser⟩ := List.mem_filter.mp hrow
    exact ⟨hrow, by simpa using huser⟩
  obtain ⟨hsummarizes, hsome⟩ := formatSummary_spec (x := x) (subsOf rows userId) nowStr
  rw [requestFor, lookup_userMap_eq]
  cases hsubs : subsOf rows userId with
  | nil => exact ⟨fun h => absurd rfl h.1, fun _ => rfl⟩
  | cons first rest =>
    rw [hsubs] at hmem hsummarizes hsome
    constructor
    -- the recipient is read off the first row, and the rows of a user all name the same
    · rintro ⟨_, hparses⟩
      obtain ⟨message, hmessage⟩ := Option.isSome_iff_exists.mp (hsome.mpr hparses)
      refine ⟨⟨first.telegramId, first.botId, message, .dailySummary⟩, ?_, rfl, ?_, hmessage,
        hsummarizes message hmessage⟩
      · rw [List.head?_cons, Option.map_some, Option.bind_some, summaryRequest, hmessage]
        rfl
      · intro row hrow
        obtain ⟨hfirst, hu⟩ := hmem first List.mem_cons_self
        obtain ⟨hrow, hu'⟩ := hmem row hrow
        exact hid first hfirst row hrow (hu.trans hu'.symm)
    · intro hnot
      have hnone : formatSummary x (first :: rest) nowStr = none := by
        rw [← Option.not_isSome_iff_eq_none, hsome]
        exact fun h => hnot ⟨List.cons_ne_nil _ _, h⟩
      rw [List.head?_cons, Option.map_some, Option.bind_some, summaryRequest, hnone]
      rfl

/-- **Every user gets one summary of exactly their markets**, or none if one of their rows does not
    parse, and what it says does not depend on the rows of anyone else. The users are kept in a
    hash map, whose order is nobody's: `env.order` is any walk over its keys, and the last part
    compares two runs with different rows of others and different walks. -/
theorem summaries_exact (hid : Identified rows) (hwalk : Walks rows env.order)
    (hopen : ∀ u, env.sendOk u = true) (userId : Int) :
    (subsOf rows userId ≠ [] ∧ (∀ row ∈ subsOf rows userId, Parses x row) →
      ∃ request, (sendSummaries x env rows).filter (fun sent => sent.1 == userId) =
          [(userId, request)] ∧
        request.notificationType = .dailySummary ∧
        (∀ row ∈ subsOf rows userId,
          request.userTelegramId = row.telegramId ∧ request.botId = row.botId) ∧
        formatSummary x (subsOf rows userId) (x.format "%Y-%m-%d %H:%M UTC" env.now) =
          some request.message ∧
        Summarizes x (subsOf rows userId) (x.format "%Y-%m-%d %H:%M UTC" env.now)
          request.message) ∧
    (¬ (subsOf rows userId ≠ [] ∧ ∀ row ∈ subsOf rows userId, Parses x row) →
      (sendSummaries x env rows).filter (fun sent => sent.1 == userId) = []) ∧
    ∀ env' rows', Walks rows' env'.order → (∀ u, env'.sendOk u = true) → env'.now = env.now →
      subsOf rows' userId = subsOf rows userId →
      (sendSummaries x env' rows').filter (fun sent => sent.1 == userId) =
        (sendSummaries x env rows).filter (fun sent => sent.1 == userId) := by
  obtain ⟨hserved, hskipped⟩ :=
    requestFor_spec (x := x) hid (x.format "%Y-%m-%d %H:%M UTC" env.now) userId
  rw [filter_sendSummaries hwalk hopen]
  refine ⟨?_, ?_, ?_⟩
  · intro hall
    obtain ⟨request, hrequest, hrest⟩ := hserved hall
    exact ⟨request, by rw [hrequest]; rfl, hrest⟩
  · intro hnot
    rw [hskipped hnot]
    rfl
  · intro env' rows' hwalk' hopen' hnow hsubs
    rw [filter_sendSummaries hwalk' hopen', hnow, requestFor, requestFor, lookup_userMap_eq,
      lookup_userMap_eq, hsubs]

end

section Example

/-- A row of a market that has no prices yet. -/
def rowOfUser (userId : Int) (question outcomes : String) : SummaryRow :=
  ⟨userId, 70 + userId, "bot", 0, question, outcomes, "[]"⟩

/-- Two rows of one user, and between them one of another that does not parse. -/
def mixedRows : List SummaryRow :=
  [rowOfUser 1 "Rain?" "[\"Yes\",\"No\"]", rowOfUser 2 "Snow?" "broken",
   rowOfUser 1 "Wind?" "[\"Yes\",\"No\"]"]

/-- The second user is visited first. -/
def mixedEnv : SummaryEnv := ⟨[2, 1], 0, fun _ => true⟩

theorem summaries_exact_mixed :
    Identified mixedRows ∧ Walks mixedRows mixedEnv.order ∧
      (∀ u, mixedEnv.sendOk u = true) ∧
      ∃ request, (sendSummaries Crates.reference mixedEnv mixedRows).filter
          (fun sent => sent.1 == 1) = [(1, request)] ∧
        request.userTelegramId = 71 := by
  have hid : Identified mixedRows := by
    unfold Identified
    decide
  have hwalk : Walks mixedRows mixedEnv.order := by
    refine ⟨by decide, ?_⟩
    intro u
    rw [mem_userMap]
    simp [mixedRows, mixedEnv, rowOfUser]
    tauto
  have hall : subsOf mixedRows 1 ≠ [] ∧
      ∀ row ∈ subsOf mixedRows 1, Parses Crates.reference row := by
    constructor
    · decide
    · decide +kernel
  obtain ⟨request, hsent, _, haddress, _⟩ := (summaries_exact hid hwalk (fun _ => rfl) 1).1 hall
  exact ⟨hid, hwalk, fun _ => rfl, request, hsent,
    (haddress (rowOfUser 1 "Rain?" "[\"Yes\",\"No\"]") (by decide)).1⟩

end Example

end PolyNotifier
