import PolyNotifier.Common.Db

/-!
# The daily summary

One query joins users, subscriptions and markets; `sendSummaries` groups the rows by user and
enqueues one message for each. A user one of whose rows does not parse gets no message.
-/

namespace PolyNotifier

open Lib (join Table)

/-- The columns of the query of `send_summaries`, one row for each active subscription. The last
    two are JSON, and are parsed when the message is made. -/
structure SummaryRow where
  userId : Int
  telegramId : Int
  botId : String
  outcomeIndex : Int
  question : String
  outcomes : String
  lastPrices : String
  deriving DecidableEq

namespace Db

/-- The joined row of a subscription, if it and its market are active. -/
def summaryRow (d : Db) (s : Subscription) : Option SummaryRow :=
  (d.users.find s.userId).bind fun u =>
    (d.markets.find s.marketId).bind fun m =>
      if s.isActive && m.isActive then
        some ⟨u.id, u.telegramId, u.botId, s.outcomeIndex, m.question, m.outcomes, m.lastPrices⟩
      else none

/-- `SELECT .. FROM users u JOIN subscriptions s .. JOIN markets m .. WHERE s.is_active = 1 AND
    m.is_active = 1 ORDER BY u.id, s.id` -/
def fetchSummaryRows (d : Db) : Except DbError (List SummaryRow) :=
  decodeAll (fun r => decide (InI32 r.outcomeIndex)) <|
    (d.subscriptions.rows.insertionSort fun s s' =>
      s.userId < s'.userId ∨ s.userId = s'.userId ∧ s.id ≤ s'.id).filterMap d.summaryRow

/-- **An active subscription to an active market has a row**, with the column of the market. -/
theorem mem_fetchSummaryRows {d : Db} {rows : List SummaryRow} (h : d.fetchSummaryRows = .ok rows)
    {s : Subscription} (hs : s ∈ d.subscriptions.rows) (hactive : s.isActive = true) {m : Market}
    (hm : m ∈ d.markets.rows) (hid : m.id = s.marketId) (hopen : m.isActive = true) :
    ∃ row ∈ rows, row.userId = s.userId ∧ row.lastPrices = m.lastPrices := by
  obtain ⟨u, hu⟩ := Table.find_isSome (d.subscriptionUser s hs)
  have hfind : d.markets.find s.marketId = some m := Table.find_eq_some.mpr ⟨hm, hid⟩
  have hrow : d.summaryRow s = some ⟨u.id, u.telegramId, u.botId, s.outcomeIndex, m.question,
      m.outcomes, m.lastPrices⟩ := by
    rw [summaryRow, hu, Option.bind_some, hfind, Option.bind_some, if_pos]
    rw [hactive, hopen]
    rfl
  rw [(decodeAll_ok h).1]
  refine ⟨_, List.mem_filterMap.mpr ⟨s, (List.mem_insertionSort _).mpr hs, hrow⟩, ?_, rfl⟩
  exact (Table.mem_of_find hu).2

end Db

/-! ## Message formatting -/

section

variable (x : Crates)

/-- The lines of one row; `none` where one of the two columns does not parse. Prices that are
    missing at the end count as zero, and prices beyond the labels are not shown. -/
def summaryLines (row : SummaryRow) (idx : Nat) : Option (List String) :=
  (x.parseStrings row.outcomes).bind fun outcomes =>
    (x.parseF64s row.lastPrices).map fun lastPrices =>
      let zero : F64 := .num 0
      let priceParts := List.zipWith (fun label price => label ++ ": $" ++ F64.fixed 2 price)
        outcomes (lastPrices ++ List.replicate outcomes.length zero)
      let subscribedPrice := (lastPrices[asUsize row.outcomeIndex]?).getD zero
      [toString (idx + 1) ++ ". " ++ row.question,
        "   Tracking: " ++ outcomeLabel outcomes row.outcomeIndex ++ " @ $" ++
          subscribedPrice.fixed 2,
        "   " ++ join " | " priceParts,
        ""]

/-- `none` where a row does not parse. -/
def formatSummary (subs : List SummaryRow) (nowStr : String) : Option String :=
  (subs.zipIdx.mapM fun r => summaryLines x r.1 r.2).map fun lines =>
    join "\n" (["📊 Daily Summary", ""] ++ lines.flatten ++ ["Updated: " ++ nowStr])

/-! ## Sending -/

/-- `entry(row.user_id).or_insert_with(..).2.push(row)` -/
def groupRow (m : DashMap Int (Int × String × List SummaryRow)) (row : SummaryRow) :
    DashMap Int (Int × String × List SummaryRow) :=
  let entry := (m.lookup row.userId).getD (row.telegramId, row.botId, [])
  m.insert row.userId (entry.1, entry.2.1, entry.2.2 ++ [row])

def userMap (rows : List SummaryRow) : DashMap Int (Int × String × List SummaryRow) :=
  rows.foldl groupRow ∅

/-- The order in which the map of the users is walked, the clock, and whether the channel takes the
    request of a user. A `HashMap` is walked in an order of its own, so it is an input. -/
structure SummaryEnv where
  order : List Int
  now : NaiveDateTime
  sendOk : Int → Bool

/-- The request for one entry of the map. -/
def summaryRequest (nowStr : String) (entry : Int × String × List SummaryRow) :
    Option NotificationRequest :=
  (formatSummary x entry.2.2 nowStr).map fun message =>
    { userTelegramId := entry.1, botId := entry.2.1, message, notificationType := .dailySummary }

/-- The requests the channel took, each with its user. A message that cannot be made and a request
    that is refused both go no further than the log, and the loop goes on. -/
def sendSummaries (env : SummaryEnv) (rows : List SummaryRow) :
    List (Int × NotificationRequest) :=
  let nowStr := x.format "%Y-%m-%d %H:%M UTC" env.now
  env.order.filterMap fun userId =>
    ((userMap rows).lookup userId).bind fun entry =>
      ((summaryRequest x nowStr entry).filter fun _ => env.sendOk userId).map fun request =>
        (userId, request)

variable {x}

/-- **A row that does not parse takes the message with it.** -/
theorem formatSummary_eq_none {subs : List SummaryRow} {row : SummaryRow} (hrow : row ∈ subs)
    (h : x.parseF64s row.lastPrices = none) (nowStr : String) :
    formatSummary x subs nowStr = none := by
  have hlines : ∀ idx, summaryLines x row idx = none := by
    intro idx
    unfold summaryLines
    rw [h]
    cases x.parseStrings row.outcomes <;> rfl
  -- the walk over the rows stops at the first that does not parse
  have hall : ∀ l : List (SummaryRow × Nat), (∃ idx, (row, idx) ∈ l) →
      (l.mapM fun r => summaryLines x r.1 r.2) = none := by
    intro l
    induction l with
    | nil =>
      rintro ⟨idx, hmem⟩
      cases hmem
    | cons r l ih =>
      rintro ⟨idx, hmem⟩
      rw [List.mapM_cons]
      rcases List.mem_cons.mp hmem with hr | hl
      · rw [← hr, hlines]
        rfl
      · cases summaryLines x r.1 r.2 with
        | none => rfl
        | some ls =>
          rw [ih ⟨idx, hl⟩]
          rfl
  obtain ⟨i, hi, hget⟩ := List.mem_iff_getElem.mp hrow
  have hmem : ∃ idx, (row, idx) ∈ subs.zipIdx := by
    refine ⟨i, List.mem_iff_getElem.mpr ⟨i, by simpa using hi, ?_⟩⟩
    simp [hget]
  rw [formatSummary, hall _ hmem]
  rfl

theorem lookup_foldl_groupRow (rows : List SummaryRow)
    (m : DashMap Int (Int × String × List SummaryRow)) (k : Int) :
    (((rows.foldl groupRow m).lookup k).map fun entry => entry.2.2).getD [] =
      ((m.lookup k).map fun entry => entry.2.2).getD [] ++ rows.filter fun r => r.userId == k := by
  induction rows generalizing m with
  | nil => simp
  | cons row rows ih =>
    rw [List.foldl_cons, ih, List.filter_cons, groupRow]
    by_cases hk : row.userId = k
    · subst hk
      cases m.lookup row.userId <;> simp [Finmap.lookup_insert]
    · simp [Finmap.lookup_insert_of_ne _ (Ne.symm hk), hk]

/-- **The rows of a user are grouped in query order.** -/
theorem rowsOf_userMap (rows : List SummaryRow) (k : Int) :
    (((userMap rows).lookup k).map fun entry => entry.2.2).getD [] =
      rows.filter fun r => r.userId == k := by
  rw [userMap, lookup_foldl_groupRow, Finmap.lookup_empty]
  rfl

/-- A user is addressed as one of their rows says. -/
theorem lookup_userMap {rows : List SummaryRow} {m : DashMap Int (Int × String × List SummaryRow)}
    {k : Int} {entry : Int × String × List SummaryRow}
    (h : (rows.foldl groupRow m).lookup k = some entry) :
    (∃ row ∈ rows, row.userId = k ∧ entry.1 = row.telegramId ∧ entry.2.1 = row.botId) ∨
      ∃ entry', m.lookup k = some entry' ∧ entry.1 = entry'.1 ∧ entry.2.1 = entry'.2.1 := by
  induction rows generalizing m with
  | nil => exact .inr ⟨entry, h, rfl, rfl⟩
  | cons row rows ih =>
    rw [List.foldl_cons] at h
    rcases ih h with ⟨row', hrow', hrest⟩ | ⟨entry', hentry', h1, h2⟩
    · exact .inl ⟨row', List.mem_cons_of_mem _ hrow', hrest⟩
    · by_cases hk : row.userId = k
      · rw [groupRow, hk, Finmap.lookup_insert, Option.some.injEq] at hentry'
        rw [← hentry'] at h1 h2
        cases hm : m.lookup k with
        | none =>
          rw [hm] at h1 h2
          exact .inl ⟨row, List.mem_cons_self .., hk, h1, h2⟩
        | some old =>
          rw [hm] at h1 h2
          exact .inr ⟨old, rfl, h1, h2⟩
      · rw [groupRow, Finmap.lookup_insert_of_ne _ (Ne.symm hk)] at hentry'
        exact .inr ⟨entry', hentry', h1, h2⟩

/-- **A summary goes to the identity of one of its rows.** -/
theorem sendSummaries_row {env : SummaryEnv} {rows : List SummaryRow}
    {sent : Int × NotificationRequest} (h : sent ∈ sendSummaries x env rows) :
    ∃ row ∈ rows, sent.2.userTelegramId = row.telegramId ∧ sent.2.botId = row.botId := by
  obtain ⟨userId, _, hs⟩ := List.mem_filterMap.mp h
  obtain ⟨entry, hentry, hs⟩ := Option.bind_eq_some_iff.mp hs
  obtain ⟨request, hreq, rfl⟩ := Option.map_eq_some_iff.mp hs
  obtain ⟨message, _, rfl⟩ := Option.map_eq_some_iff.mp (Option.filter_eq_some_iff.mp hreq).1
  rcases lookup_userMap hentry with ⟨row, hrow, _, h1, h2⟩ | ⟨entry', hentry', _⟩
  · exact ⟨row, hrow, h1, h2⟩
  · rw [Finmap.lookup_empty] at hentry'
    cases hentry'

/-- **A user one of whose rows does not parse is skipped.** -/
theorem not_mem_sendSummaries {env : SummaryEnv} {rows : List SummaryRow} {row : SummaryRow}
    (hrow : row ∈ rows) (h : x.parseF64s row.lastPrices = none) :
    ∀ sent ∈ sendSummaries x env rows, sent.1 ≠ row.userId := by
  intro sent hsent heq
  obtain ⟨userId, _, hs⟩ := List.mem_filterMap.mp hsent
  obtain ⟨entry, hentry, hs⟩ := Option.bind_eq_some_iff.mp hs
  obtain ⟨request, hreq, rfl⟩ := Option.map_eq_some_iff.mp hs
  dsimp only at heq
  subst heq
  have hrows := rowsOf_userMap rows row.userId
  rw [hentry] at hrows
  have hmem : row ∈ entry.2.2 := by
    have hr : row ∈ rows.filter fun r => r.userId == row.userId := by simp [hrow]
    rw [← hrows] at hr
    exact hr
  have hnone : summaryRequest x (x.format "%Y-%m-%d %H:%M UTC" env.now) entry = none := by
    rw [summaryRequest, formatSummary_eq_none hmem h]
    rfl
  rw [hnone] at hreq
  cases hreq

end

end PolyNotifier
