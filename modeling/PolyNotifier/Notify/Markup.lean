import PolyNotifier.Alert.Engine
import PolyNotifier.Common.Reference
import PolyNotifier.Lib.Html
import PolyNotifier.Scheduler.Summaries

/-!
# Notifications as HTML

`BotRegistry::send_message` sends every text as HTML. The two formatters put questions and
outcome labels into their texts as they come, so what Telegram makes of a text depends on them.

The template of an alert has the only tags, in its title; everything after it is read as text.
Each piece of a text ends with a character that is in no entity, so an entity cannot reach from
one piece into the next, and the condition is one on each piece.
-/

namespace PolyNotifier

open Lib (join)
open Lib.Html

/-! ## The reader -/

/-- The entities Telegram knows: four by name, and every number. -/
inductive TelegramName : List Char → Char → Prop
  | lt : TelegramName ['l', 't'] '<'
  | gt : TelegramName ['g', 't'] '>'
  | amp : TelegramName ['a', 'm', 'p'] '&'
  | quot : TelegramName ['q', 'u', 'o', 't'] '"'
  | decimal {digits : List Char} (h : ∀ d ∈ digits, d.isDigit = true) (hne : digits ≠ []) :
      TelegramName ('#' :: digits) (Char.ofNat (Nat.ofDigitChars 10 digits 0))
  | hexadecimal {digits : List Char} (h : ∀ d ∈ digits, d.isAlphanum = true)
      {values : List Nat} (hvalues : digits.mapM Lib.Json.hexValue = some values)
      (hne : digits ≠ []) :
      TelegramName ('#' :: 'x' :: digits) (Char.ofNat (values.foldl (fun n v => 16 * n + v) 0))

/-- The entities of Telegram, with the fact that makes texts readable piece by piece: a name has no
    character at which a text could be cut. -/
def telegram : Entities where
  Names := TelegramName
  nameChar := by
    intro name c h
    cases h with
    | lt => simp [NameChar]
    | gt => simp [NameChar]
    | amp => simp [NameChar]
    | quot => simp [NameChar]
    | decimal h _ =>
      refine List.forall_mem_cons.mpr ⟨.inr rfl, fun d hd => .inl ?_⟩
      rw [Char.isAlphanum, h d hd, Bool.or_true]
    | hexadecimal h _ _ =>
      refine List.forall_mem_cons.mpr ⟨.inr rfl, List.forall_mem_cons.mpr ⟨.inl (by decide), ?_⟩⟩
      exact fun d hd => .inl (h d hd)

/-- The two formats of a time give no special character. -/
def Crates.PlainDates (x : Crates) : Prop :=
  ∀ t, Plain (x.format "%Y-%m-%d %H:%M:%S UTC" t).toList ∧
    Plain (x.format "%Y-%m-%d %H:%M UTC" t).toList

/-! ## Plain pieces -/

theorem plain_append_iff {s t : String} : Plain (s ++ t).toList ↔ Plain s.toList ∧ Plain t.toList := by
  rw [String.toList_append]
  exact List.forall_mem_append

theorem plain_digits {cs : List Char} (h : ∀ c ∈ cs, c.isDigit = true) : Plain cs := by
  intro c hc hspecial
  have hdigit := h c hc
  rcases hspecial with rfl | rfl | rfl <;> exact absurd hdigit (by decide)

theorem plain_nat (n : Nat) : Plain (toString n).toList := by
  have ht : (toString n).toList = Nat.toDigits 10 n := Nat.toList_repr
  rw [ht]
  exact plain_digits fun _ hc => Lib.isDigit_of_mem_decimal hc

theorem plain_int (n : Int) : Plain (toString n).toList := by
  cases n with
  | ofNat n => exact plain_nat n
  | negSucc n =>
    show Plain ("-" ++ (n + 1).repr).toList
    rw [plain_append_iff]
    exact ⟨by decide, plain_nat (n + 1)⟩

theorem plain_decimalDigits (m scale : Nat) : Plain (decimalDigits m scale).toList := by
  obtain ⟨whole, frac, htext, _, _, hdigit, _⟩ := Decimal.toList_decimalDigits m scale
  rw [htext]
  have hwhole : Plain whole := plain_digits fun c hc => hdigit c (List.mem_append_left _ hc)
  have hfrac : Plain frac := plain_digits fun c hc => hdigit c (List.mem_append_right _ hc)
  refine hwhole.append ?_
  split
  · exact fun c hc => by cases hc
  · exact List.forall_mem_cons.mpr ⟨by decide, hfrac⟩

theorem plain_decimal (d : Decimal) : Plain d.toString.toList := by
  unfold Decimal.toString
  rw [plain_append_iff]
  refine ⟨?_, plain_decimalDigits _ _⟩
  split <;> decide

theorem plain_fixed (n : Nat) (v : F64) : Plain (v.fixed n).toList := by
  cases v with
  | num q =>
    unfold F64.fixed
    rw [plain_append_iff]
    refine ⟨?_, plain_decimalDigits _ _⟩
    split <;> decide
  | negZero =>
    unfold F64.fixed
    rw [plain_append_iff]
    exact ⟨by decide, plain_decimalDigits _ _⟩
  | inf negative =>
    cases negative
    · show Plain "inf".toList
      decide
    · show Plain "-inf".toList
      decide
  | nan =>
    show Plain "NaN".toList
    decide

/-! ## Alerts -/

section

variable {x : Crates} {E : Entities}

/-- The title of an alert, with the tags of the template. -/
def alertTitle : String := "🔔 <b>Price Alert</b>"

/-- Telegram takes the alert: after the title special characters are in it only as part of an
    entity. The title has the two tags of the template, and no other tag is ever meant. -/
def AlertAccepted (E : Entities) (message : String) : Prop :=
  ∃ text, message = alertTitle ++ text ∧ Escaped E text.toList

/-- Telegram takes the alert, and shows the question, and all that comes after it, as it is. Taking
    is not enough: a question with `&amp;` in it is taken, and shows something else. -/
def AlertShown (E : Entities) (question message : String) : Prop :=
  ∃ tail, message = alertTitle ++ ("\n\n📊 " ++ question ++ tail) ∧
    Decodes E ("\n\n📊 " ++ question ++ tail).toList ("\n\n📊 " ++ question ++ tail).toList

/-- An alert is the title, the question, and a line break with a plain text. -/
theorem formatNotification_eq (hx : x.PlainDates) {r : AlertRule} {price : Decimal}
    {update : PriceUpdate} {message : String}
    (h : AlertEngine.formatNotification x r price update = some message) :
    ∃ tail, Plain tail.toList ∧
      message = alertTitle ++ ("\n\n📊 " ++ r.marketQuestion ++ ("\n" ++ tail)) := by
  unfold AlertEngine.formatNotification at h
  obtain ⟨pct, _, rfl⟩ := Option.map_eq_some_iff.mp h
  have hlabel : ∀ label : String, Plain label.toList → ∃ tail : String, Plain tail.toList ∧
      "🔔 <b>Price Alert</b>\n\n📊 " ++ r.marketQuestion ++ "\n📈 Type: " ++ label ++ " " ++
          pct.toString ++ "%\n💰 Current: " ++ price.toString ++ "\n⏰ " ++
          x.format "%Y-%m-%d %H:%M:%S UTC" update.timestamp =
        alertTitle ++ ("\n\n📊 " ++ r.marketQuestion ++ ("\n" ++ tail)) := by
    intro label hplain
    refine ⟨"📈 Type: " ++ label ++ " " ++ pct.toString ++ "%\n💰 Current: " ++ price.toString ++
      "\n⏰ " ++ x.format "%Y-%m-%d %H:%M:%S UTC" update.timestamp, ?_, ?_⟩
    · simp only [plain_append_iff]
      refine ⟨⟨⟨⟨⟨⟨⟨?_, hplain⟩, ?_⟩, plain_decimal pct⟩, ?_⟩, plain_decimal price⟩, ?_⟩,
        (hx update.timestamp).1⟩
      all_goals decide
    · have htitle : "🔔 <b>Price Alert</b>\n\n📊 " = alertTitle ++ "\n\n📊 " := by decide
      have hbreak : "\n📈 Type: " = "\n" ++ "📈 Type: " := by decide
      rw [htitle, hbreak]
      simp only [String.append_assoc]
  cases r.alertType with
  | above => exact hlabel "Above" (by decide)
  | below => exact hlabel "Below" (by decide)
  | cross => exact hlabel "Cross" (by decide)

/-- What stands before the question, and the question. -/
theorem escaped_question (E : Entities) (question tail : String) (htail : Plain tail.toList) :
    Escaped E ("\n\n📊 " ++ question ++ ("\n" ++ tail)).toList ↔ Escaped E question.toList := by
  have hlead : Plain "\n\n📊 ".toList := by decide
  have hbreak : Break '\n' := by decide
  have htext : ("\n\n📊 " ++ question ++ ("\n" ++ tail)).toList =
      "\n\n📊 ".toList ++ (question.toList ++ '\n' :: tail.toList) := by
    simp only [String.toList_append, List.append_assoc]
    rfl
  rw [htext, escaped_plain_append hlead, escaped_break hbreak]
  exact ⟨fun h => h.1, fun h => ⟨h, _, htail.decodes⟩⟩

/-- Both texts that follow the title are the same. -/
theorem alertTitle_append_inj {s t : String} (h : alertTitle ++ s = alertTitle ++ t) : s = t := by
  have h := congrArg String.toList h
  rw [String.toList_append, String.toList_append] at h
  exact String.toList_inj.mp (List.append_cancel_left h)

theorem alertAccepted_iff (hx : x.PlainDates) {r : AlertRule} {price : Decimal}
    {update : PriceUpdate} {message : String}
    (h : AlertEngine.formatNotification x r price update = some message) :
    AlertAccepted E message ↔ Escaped E r.marketQuestion.toList := by
  obtain ⟨tail, htail, rfl⟩ := formatNotification_eq hx h
  rw [← escaped_question E r.marketQuestion tail htail]
  constructor
  · rintro ⟨text, htext, hescaped⟩
    rwa [alertTitle_append_inj htext]
  · intro hescaped
    exact ⟨_, rfl, hescaped⟩

theorem alertShown_iff (hx : x.PlainDates) {r : AlertRule} {price : Decimal}
    {update : PriceUpdate} {message : String}
    (h : AlertEngine.formatNotification x r price update = some message) :
    AlertShown E r.marketQuestion message ↔ Plain r.marketQuestion.toList := by
  constructor
  · rintro ⟨tail, _, hshown⟩
    have hplain := decodes_self_iff.mp hshown
    rw [plain_append_iff, plain_append_iff] at hplain
    exact hplain.1.2
  · intro hquestion
    obtain ⟨tail, htail, rfl⟩ := formatNotification_eq hx h
    refine ⟨_, rfl, decodes_self_iff.mpr ?_⟩
    simp only [plain_append_iff]
    exact ⟨⟨by decide, hquestion⟩, by decide, htail⟩

/-! ## Summaries -/

/-- The lines of a summary. -/
def summaryText (nowStr : String) (blocks : List (List String)) : String :=
  join "\n" (["📊 Daily Summary", ""] ++ blocks.flatten ++ ["Updated: " ++ nowStr])

/-- Telegram takes the summary, and shows the line with the question of each row as it is. -/
def SummaryShown (x : Crates) (E : Entities) (subs : List SummaryRow) (nowStr message : String) :
    Prop :=
  ∃ blocks shown, (subs.zipIdx.mapM fun r => summaryLines x r.1 r.2) = some blocks ∧
    message = summaryText nowStr blocks ∧
    Decodes E message.toList (summaryText nowStr shown).toList ∧
    List.Forall₂ (fun block block' => ShownAs E block block' ∧ block'.head? = block.head?)
      blocks shown

/-- The question of a row is plain, and in its labels special characters are part of an
    entity. -/
def RowSafe (x : Crates) (E : Entities) (row : SummaryRow) : Prop :=
  Plain row.question.toList ∧
    ∀ outcomes, x.parseStrings row.outcomes = some outcomes →
      ∀ label ∈ outcomes, Escaped E label.toList

/-- The line of the prices can be read if every label can. -/
theorem escaped_parts {outcomes : List String} {prices : List F64} {parts : List String}
    (h : PairsPrices outcomes prices parts) :
    (∀ part ∈ parts, Escaped E part.toList) ↔ ∀ label ∈ outcomes, Escaped E label.toList := by
  have hbreak : Break ':' := by decide
  -- the colon ends whatever the label has begun, and the price is plain
  have hpart : ∀ (label : String) (price : F64),
      Escaped E (label ++ ": $" ++ price.fixed 2).toList ↔ Escaped E label.toList := by
    intro label price
    have htext : (label ++ ": $" ++ price.fixed 2).toList =
        label.toList ++ ':' :: (" $" ++ price.fixed 2).toList := by
      simp only [String.toList_append, List.append_assoc]
      rfl
    have hrest : Plain (" $" ++ price.fixed 2).toList := by
      rw [plain_append_iff]
      exact ⟨by decide, plain_fixed 2 price⟩
    rw [htext, escaped_break hbreak]
    exact ⟨fun h => h.1, fun h => ⟨h, _, hrest.decodes⟩⟩
  obtain ⟨hlen, hpairs⟩ := h
  constructor
  · intro hparts label hlabel
    obtain ⟨k, hk⟩ := List.mem_iff_getElem?.mp hlabel
    exact (hpart _ _).mp (hparts _ (List.mem_iff_getElem?.mpr ⟨k, hpairs k label hk⟩))
  · intro hlabels part hmem
    obtain ⟨k, hk⟩ := List.mem_iff_getElem?.mp hmem
    have hlt : k < outcomes.length := by
      rw [← hlen]
      exact (List.getElem?_eq_some_iff.mp hk).1
    have hlabel := List.getElem?_eq_getElem hlt
    rw [hpairs k _ hlabel] at hk
    cases hk
    exact (hpart _ _).mpr (hlabels _ (List.getElem_mem hlt))

/-- The label of an outcome is one of the list, or plain. -/
theorem escaped_outcomeLabel {outcomes : List String} (idx : Int)
    (h : ∀ label ∈ outcomes, Escaped E label.toList) :
    Escaped E (outcomeLabel outcomes idx).toList := by
  unfold outcomeLabel
  cases hget : outcomes[asUsize idx]? with
  | none =>
    have hplain : Plain ("Outcome " ++ toString idx).toList := by
      rw [plain_append_iff]
      exact ⟨by decide, plain_int idx⟩
    exact ⟨_, hplain.decodes⟩
  | some label => exact h label (List.mem_of_getElem? hget)

/-- **The block of a row can be read, with its question as it is, if and only if the row is
    safe.** -/
theorem shownBlock_iff {row : SummaryRow} {number : Nat} {block : List String}
    (h : Shows x row number block) :
    (∃ block', ShownAs E block block' ∧ block'.head? = block.head?) ↔ RowSafe x E row := by
  obtain ⟨outcomes, prices, parts, houtcomes, _, hpairs, rfl⟩ := h
  have hprices : Escaped E ("   " ++ join " | " parts).toList ↔
      ∀ label ∈ outcomes, Escaped E label.toList := by
    have hlead : Plain "   ".toList := by decide
    have hsep : " | ".toList = ' ' :: ['|', ' '] := by decide
    have hbreak : Break ' ' := by decide
    have hrest : Plain ['|', ' '] := by decide
    rw [String.toList_append, escaped_plain_append hlead, escaped_join hsep hbreak hrest,
      escaped_parts hpairs]
  -- the first line has the question, the other two the labels; figures and separators are plain
  constructor
  · rintro ⟨block', hshown, hhead⟩
    cases hshown with
    | @cons _ line' _ rest' hquestion hrest =>
      obtain rfl : line' = _ := Option.some.inj hhead
      have hplain := decodes_self_iff.mp hquestion
      rw [plain_append_iff] at hplain
      refine ⟨hplain.2, ?_⟩
      intro outcomes' houtcomes'
      rw [houtcomes] at houtcomes'
      cases houtcomes'
      cases hrest with
      | cons _ hrest =>
        cases hrest with
        | cons hline _ => exact hprices.mp ⟨_, hline⟩
  · rintro ⟨hquestion, hlabels⟩
    have hlabels := hlabels outcomes houtcomes
    have hfirst : Plain (toString number ++ ". " ++ row.question).toList := by
      rw [plain_append_iff, plain_append_iff]
      exact ⟨⟨plain_nat number, by decide⟩, hquestion⟩
    have htracking : Escaped E ("   Tracking: " ++ outcomeLabel outcomes row.outcomeIndex ++
        " @ $" ++ F64.fixed 2 ((prices[asUsize row.outcomeIndex]?).getD (.num 0))).toList := by
      have hlead : Plain "   Tracking: ".toList := by decide
      have hrest : Plain ("@ $" ++
          F64.fixed 2 ((prices[asUsize row.outcomeIndex]?).getD (.num 0))).toList := by
        rw [plain_append_iff]
        exact ⟨by decide, plain_fixed 2 _⟩
      have htext : ("   Tracking: " ++ outcomeLabel outcomes row.outcomeIndex ++ " @ $" ++
          F64.fixed 2 ((prices[asUsize row.outcomeIndex]?).getD (.num 0))).toList =
          "   Tracking: ".toList ++ ((outcomeLabel outcomes row.outcomeIndex).toList ++ ' ' ::
            ("@ $" ++ F64.fixed 2 ((prices[asUsize row.outcomeIndex]?).getD (.num 0))).toList) := by
        simp only [String.toList_append, List.append_assoc]
        rfl
      rw [htext, escaped_plain_append hlead, escaped_break (by decide)]
      exact ⟨escaped_outcomeLabel _ hlabels, _, hrest.decodes⟩
    obtain ⟨shown₂, h₂⟩ := htracking
    obtain ⟨shown₃, h₃⟩ := hprices.mpr hlabels
    refine ⟨[_, String.ofList shown₂, String.ofList shown₃, ""], ?_, rfl⟩
    refine .cons hfirst.decodes (.cons ?_ (.cons ?_ (.cons .nil .nil)))
    · rwa [String.toList_ofList]
    · rwa [String.toList_ofList]

/-- A summary reads as its blocks do. -/
theorem decodes_summaryText {nowStr : String} (hnow : Plain nowStr.toList)
    {blocks shown : List (List String)} (h : List.Forall₂ (ShownAs E) blocks shown) :
    Decodes E (summaryText nowStr blocks).toList (summaryText nowStr shown).toList := by
  have hsep : "\n".toList = '\n' :: [] := by decide
  have hnone : Plain [] := by decide
  have hheader : ShownAs E ["📊 Daily Summary", ""] ["📊 Daily Summary", ""] := by
    have h₁ : Plain "📊 Daily Summary".toList := by decide
    exact .cons h₁.decodes (.cons .nil .nil)
  have hfooter : ShownAs E ["Updated: " ++ nowStr] ["Updated: " ++ nowStr] := by
    have h₁ : Plain ("Updated: " ++ nowStr).toList := by
      rw [plain_append_iff]
      exact ⟨by decide, hnow⟩
    exact .cons h₁.decodes .nil
  refine (decodes_join hsep (by decide) hnone).mpr ⟨_, ?_, rfl⟩
  exact List.rel_append (List.rel_append hheader (List.rel_flatten h)) hfooter

theorem summaryShown_iff {subs : List SummaryRow} {nowStr message : String}
    (hnow : Plain nowStr.toList) (h : formatSummary x subs nowStr = some message) :
    SummaryShown x E subs nowStr message ↔ ∀ row ∈ subs, RowSafe x E row := by
  obtain ⟨blocks, hlines, rfl⟩ := Option.map_eq_some_iff.mp h
  obtain ⟨hlen, hshows⟩ := (mapM_summaryLines (x := x) subs 0).1 blocks hlines
  -- one block for a row, so the condition on all blocks is the one on all rows
  have hblocks : (∀ block ∈ blocks, ∃ block', ShownAs E block block' ∧
      block'.head? = block.head?) ↔ ∀ row ∈ subs, RowSafe x E row := by
    constructor
    · intro hall row hrow
      obtain ⟨k, hk⟩ := List.mem_iff_getElem?.mp hrow
      obtain ⟨block, hblock, hshow⟩ := hshows k row hk
      exact (shownBlock_iff hshow).mp (hall block (List.mem_of_getElem? hblock))
    · intro hall block hmem
      obtain ⟨k, hk⟩ := List.mem_iff_getElem?.mp hmem
      have hlt : k < subs.length := by
        rw [← hlen]
        exact (List.getElem?_eq_some_iff.mp hk).1
      obtain ⟨block', hblock, hshow⟩ := hshows k _ (List.getElem?_eq_getElem hlt)
      rw [hk] at hblock
      cases hblock
      exact (shownBlock_iff hshow).mpr (hall _ (List.getElem_mem hlt))
  rw [← hblocks, ← exists_forall₂_iff]
  constructor
  · rintro ⟨blocks', shown, hlines', _, _, hshown⟩
    rw [hlines] at hlines'
    cases hlines'
    exact ⟨shown, hshown⟩
  · rintro ⟨shown, hshown⟩
    exact ⟨blocks, shown, hlines, rfl,
      decodes_summaryText hnow (hshown.imp fun _ _ h => h.1), hshown⟩

end

/-! ## Every notification -/

/-- The time as a summary ends with it. -/
def Crates.nowStr (x : Crates) (t : NaiveDateTime) : String := x.format "%Y-%m-%d %H:%M UTC" t

/-- Telegram takes an alert, and shows its question as it is stored. -/
def AlertWellFormed (r : AlertRule) (message : String) : Prop :=
  AlertAccepted telegram message ∧ AlertShown telegram r.marketQuestion message

/-- Telegram takes every notification, and shows the questions in it as they are stored. -/
def AlwaysWellFormed (x : Crates) : Prop :=
  (∀ (r : AlertRule) (price : Decimal) (update : PriceUpdate) (message : String),
    AlertEngine.formatNotification x r price update = some message →
      AlertWellFormed r message) ∧
  ∀ (subs : List SummaryRow) (now : NaiveDateTime) (message : String),
    formatSummary x subs (x.nowStr now) = some message →
      SummaryShown x telegram subs (x.nowStr now) message

/-- An alert with a question in it that is not plain is not shown as it should be. -/
theorem not_alertWellFormed {x : Crates} (hx : x.PlainDates) {r : AlertRule} {price : Decimal}
    {update : PriceUpdate} {message : String}
    (h : AlertEngine.formatNotification x r price update = some message)
    (hquestion : ¬ Plain r.marketQuestion.toList) : ¬ AlertWellFormed r message :=
  fun hformed => hquestion ((alertShown_iff hx h).mp hformed.2)

/-- **A notification is well-formed if and only if no question in it has a special character.** The
    texts put the question between tags without escaping it, and Telegram reads the whole as HTML.
    In a summary the labels of the outcomes may have special characters, where they are part of an
    entity: the question is read back as it is, a label only has to be readable. -/
theorem notification_wellFormed_iff {x : Crates} (hx : x.PlainDates) :
    (∀ (r : AlertRule) (price : Decimal) (update : PriceUpdate) (message : String),
      AlertEngine.formatNotification x r price update = some message →
        (AlertWellFormed r message ↔ Plain r.marketQuestion.toList)) ∧
    ∀ (subs : List SummaryRow) (now : NaiveDateTime) (message : String),
      formatSummary x subs (x.nowStr now) = some message →
        (SummaryShown x telegram subs (x.nowStr now) message ↔
          ∀ row ∈ subs, RowSafe x telegram row) := by
  constructor
  · intro r price update message h
    constructor
    · rintro ⟨_, hshown⟩
      exact (alertShown_iff hx h).mp hshown
    · intro hquestion
      have hescaped : Escaped telegram r.marketQuestion.toList := ⟨_, hquestion.decodes⟩
      exact ⟨(alertAccepted_iff hx h).mpr hescaped, (alertShown_iff hx h).mpr hquestion⟩
  · intro subs now message h
    exact summaryShown_iff (hx now).2 h

section Example

theorem plainDates_reference : Crates.reference.PlainDates := by
  intro t
  have hplain : Plain "1970-01-01 00:00:00 UTC".toList := by decide
  exact ⟨hplain, hplain⟩

/-- A rule of a market whose question is that. -/
def ruleAbout (question : String) : AlertRule where
  alertId := 1
  subscriptionId := 1
  userTelegramId := 7
  botId := "bot"
  tokenId := "yes"
  outcomeIndex := 0
  marketQuestion := question
  alertType := .above
  threshold := .cents 70
  cooldownMinutes := 60
  lastTriggeredAt := none

/-- A price for the token of the rule. -/
def tickAbout : PriceUpdate := ⟨"yes", "0xc", .cents 75, 0⟩

theorem format_ruleAbout (question : String) :
    ∃ message, AlertEngine.formatNotification Crates.reference (ruleAbout question) (.cents 75)
      tickAbout = some message := by
  refine Option.isSome_iff_exists.mp ?_
  unfold AlertEngine.formatNotification
  rw [Option.isSome_map]
  show ((Decimal.cents 70).checkedMul Decimal.hundred).isSome = true
  decide +kernel

theorem notification_wellFormed_reference :
    Crates.reference.PlainDates ∧
      (∃ message, AlertEngine.formatNotification Crates.reference (ruleAbout "Rain?") (.cents 75)
        tickAbout = some message ∧ AlertWellFormed (ruleAbout "Rain?") message) := by
  obtain ⟨message, h⟩ := format_ruleAbout "Rain?"
  exact ⟨plainDates_reference, message, h,
    ((notification_wellFormed_iff plainDates_reference).1 _ _ _ _ h).mpr (by decide)⟩

/-- A question with an ampersand is put into the text as it is, where it begins an entity that does
    not end. -/
theorem ampersand_not_wellFormed : ¬ AlwaysWellFormed Crates.reference := by
  intro halways
  obtain ⟨message, h⟩ := format_ruleAbout "Will the S&P 500 rise?"
  exact not_alertWellFormed plainDates_reference h (by decide) (halways.1 _ _ _ _ h)

end Example

end PolyNotifier
