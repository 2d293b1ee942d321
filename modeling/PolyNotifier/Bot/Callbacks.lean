import PolyNotifier.Bot.Keyboards

/-!
# Buttons and their decoders

Five kinds of buttons share the data of a callback query. A decoder is right when it gives back
what the keyboard wrote (`StandsFor`) and when it drops the buttons of the other kinds. The second
rests on the first character alone: the five tags begin with five different letters, which is
why `unsub:` is not taken for the `sub:` inside it.
-/

namespace PolyNotifier

open Lib (stripPrefix)

/-- The kinds of buttons with a handler of their own. -/
inductive ButtonKind where
  | market
  | outcome
  | alertType
  | sub
  | unsub
  deriving DecidableEq

namespace ButtonKind

/-- What the data of the kind begins with. -/
def tag : ButtonKind → String
  | market => "market:"
  | outcome => "outcome:"
  | alertType => "alert_type:"
  | sub => "sub:"
  | unsub => "unsub:"

/-- The decoder of the kind's handler takes the data. -/
def accepts : ButtonKind → String → Bool
  | market, data => (decodeMarket data).isSome
  | outcome, data => (decodeOutcome data).isSome
  | alertType, data => (decodeAlertType data).isSome
  | sub, data => (decodeSub data).isSome
  | unsub, data => (decodeUnsub data).isSome

/-- The keyboard of the kind, for the entries it lists. -/
def keyboard (subscriptions : List (Int × String)) (markets : List MarketOption)
    (outcomes : List String) : ButtonKind → Keyboard
  | market => marketListKeyboard markets
  | outcome => outcomeKeyboard outcomes
  | alertType => alertTypeKeyboard
  | sub => subscriptionListKeyboard subscriptions
  | unsub => unsubscribeKeyboard subscriptions

/-! ## Kinds are kept apart -/

/-- The first letter of a tag names its kind. -/
theorem tag_head_inj {k k' : ButtonKind}
    (h : k.tag.toList.head? = k'.tag.toList.head?) : k = k' := by
  cases k <;> cases k' <;> first | rfl | exact absurd h (by decide)

theorem stripPrefix_tag_other {k k' : ButtonKind} (h : k ≠ k') (rest : String) :
    stripPrefix k'.tag (k.tag ++ rest) = none := by
  apply Lib.stripPrefix_eq_none
  rintro ⟨t, ht⟩
  apply h
  apply tag_head_inj
  have hne : k.tag.toList ≠ [] := by cases k <;> decide
  have hne' : k'.tag.toList ≠ [] := by cases k' <;> decide
  rw [String.toList_append] at ht
  have hheads := congrArg List.head? ht
  rwa [List.head?_append_of_ne_nil _ hne', List.head?_append_of_ne_nil _ hne, eq_comm] at hheads

/-- A decoder strips its own tag first. -/
theorem accepts_of_stripPrefix_none {k : ButtonKind} {data : String}
    (h : stripPrefix k.tag data = none) : k.accepts data = false := by
  cases k with
  | market => rw [accepts, decodeMarket, show stripPrefix "market:" data = none from h]; rfl
  | outcome => rw [accepts, decodeOutcome, show stripPrefix "outcome:" data = none from h]; rfl
  | alertType =>
    rw [accepts, decodeAlertType, show stripPrefix "alert_type:" data = none from h]
    rfl
  | sub => rw [accepts, decodeSub, show stripPrefix "sub:" data = none from h]; rfl
  | unsub => rw [accepts, decodeUnsub, show stripPrefix "unsub:" data = none from h]; rfl

/-- **A decoder takes no data of another kind.** -/
theorem accepts_other {k k' : ButtonKind} (h : k ≠ k') (rest : String) :
    k'.accepts (k.tag ++ rest) = false :=
  accepts_of_stripPrefix_none (stripPrefix_tag_other h rest)

/-- Every button of a keyboard carries the tag of its kind. -/
theorem data_of_keyboard {subscriptions : List (Int × String)} {markets : List MarketOption}
    {outcomes : List String} {k : ButtonKind} {button : Button}
    (h : button ∈ (k.keyboard subscriptions markets outcomes).flatten) :
    ∃ rest, button.data = k.tag ++ rest := by
  obtain ⟨row, hrow, hbutton⟩ := List.mem_flatten.mp h
  cases k with
  | market =>
    obtain ⟨p, -, rfl⟩ := List.mem_map.mp hrow
    exact ⟨toString p.2, by rw [List.mem_singleton.mp hbutton]; rfl⟩
  | outcome =>
    obtain ⟨p, -, rfl⟩ := List.mem_map.mp hrow
    exact ⟨toString p.2, by rw [List.mem_singleton.mp hbutton]; rfl⟩
  | alertType =>
    rw [List.mem_singleton.mp hrow] at hbutton
    rcases List.mem_cons.mp hbutton with rfl | hbutton
    · exact ⟨"above", rfl⟩
    rcases List.mem_cons.mp hbutton with rfl | hbutton
    · exact ⟨"below", rfl⟩
    · exact ⟨"cross", by rw [List.mem_singleton.mp hbutton]; rfl⟩
  | sub =>
    obtain ⟨p, -, rfl⟩ := List.mem_map.mp hrow
    exact ⟨toString p.1, by rw [List.mem_singleton.mp hbutton]; rfl⟩
  | unsub =>
    obtain ⟨p, -, rfl⟩ := List.mem_map.mp hrow
    exact ⟨toString p.1, by rw [List.mem_singleton.mp hbutton]; rfl⟩

end ButtonKind

/-! ## What a keyboard writes, its decoder reads -/

/-- The buttons of a keyboard stand for these values, in order: the decoder gives them back, and
    buttons that stand for different values have different data. -/
structure StandsFor {α : Type} (keyboard : Keyboard) (decode : String → Option α)
    (values : List α) : Prop where
  decoded : keyboard.flatten.map (fun b => decode b.data) = values.map some
  distinct : ∀ i j : Nat, values[i]? ≠ values[j]? →
    (keyboard.flatten.map (·.data))[i]? ≠ (keyboard.flatten.map (·.data))[j]?

/-- Data that decodes is data that tells its value. -/
theorem StandsFor.of_decoded {α : Type} {keyboard : Keyboard} {decode : String → Option α}
    {values : List α} (h : keyboard.flatten.map (fun b => decode b.data) = values.map some) :
    StandsFor keyboard decode values := by
  refine ⟨h, fun i j hne hdata => hne ?_⟩
  have hget : ∀ n : Nat, values[n]?.map some
      = (keyboard.flatten.map (·.data))[n]?.map decode := by
    intro n
    rw [← List.getElem?_map, ← h, ← List.getElem?_map, List.map_map]
    rfl
  apply Option.map_injective (Option.some_injective α)
  rw [hget, hget, hdata]

/-- A keyboard with one button a row, each decoding to the value of its entry. -/
theorem StandsFor.of_rows {α β : Type} {entries : List β} {button : β → Button}
    {decode : String → Option α} {value : β → α}
    (h : ∀ e ∈ entries, decode (button e).data = some (value e)) :
    StandsFor (entries.map fun e => [button e]) decode (entries.map value) := by
  apply StandsFor.of_decoded
  induction entries with
  | nil => rfl
  | cons e entries ih =>
    have hrest := ih fun e' he' => h e' (List.mem_cons_of_mem _ he')
    simp only [List.map_cons, List.flatten_cons, List.singleton_append]
    rw [h e List.mem_cons_self, hrest]

/-- An index that `enumerate` yields is less than the length. -/
theorem map_snd_zipIdx {α : Type} (xs : List α) :
    xs.zipIdx.map Prod.snd = List.range xs.length := by
  rw [List.zipIdx_map_snd, List.range_eq_range']

theorem market_standsFor {markets : List MarketOption} (h : markets.length < 2 ^ 63) :
    StandsFor (marketListKeyboard markets) decodeMarket (List.range markets.length) := by
  rw [← map_snd_zipIdx]
  apply StandsFor.of_rows
  rintro ⟨m, i⟩ hmem
  have hi := List.snd_lt_of_mem_zipIdx hmem
  exact decodeMarket_data (by omega)

theorem outcome_standsFor {outcomes : List String} (h : outcomes.length < 2 ^ 63) :
    StandsFor (outcomeKeyboard outcomes) decodeOutcome
      ((List.range outcomes.length).map (fun i : Nat => (i : Int))) := by
  rw [← map_snd_zipIdx, List.map_map]
  apply StandsFor.of_rows
  rintro ⟨label, i⟩ hmem
  have hi := List.snd_lt_of_mem_zipIdx hmem
  exact decodeOutcome_data (i := (i : Int)) (by omega) (by omega)

theorem alertType_standsFor :
    StandsFor alertTypeKeyboard decodeAlertType ["above", "below", "cross"] := by
  apply StandsFor.of_decoded
  have htypes : ["above", "below", "cross"].map some
      = [AlertType.above, .below, .cross].map
          fun t => decodeAlertType ("alert_type:" ++ t.toString) := by
    simp only [decodeAlertType_data]
    rfl
  exact htypes.symm

/-- An id is an `i64`. -/
def InI64 (id : Int) : Prop := -2 ^ 63 ≤ id ∧ id < 2 ^ 63

theorem sub_standsFor {subscriptions : List (Int × String)}
    (h : ∀ s ∈ subscriptions, InI64 s.1) :
    StandsFor (subscriptionListKeyboard subscriptions) decodeSub (subscriptions.map Prod.fst) := by
  apply StandsFor.of_rows
  intro s hs
  exact decodeSub_data (h s hs).1 (h s hs).2

theorem unsub_standsFor {subscriptions : List (Int × String)}
    (h : ∀ s ∈ subscriptions, InI64 s.1) :
    StandsFor (unsubscribeKeyboard subscriptions) decodeUnsub (subscriptions.map Prod.fst) := by
  apply StandsFor.of_rows
  intro s hs
  exact decodeUnsub_data (h s hs).1 (h s hs).2

/-- **Keyboards and decoders agree**: each keyboard carries its ids, respectively its positions,
    and no button is taken by the decoder of another kind. A `Vec` has fewer than `2 ^ 63`
    elements. -/
theorem keyboards_agree (subscriptions : List (Int × String)) (markets : List MarketOption)
    (outcomes : List String) (hids : ∀ s ∈ subscriptions, InI64 s.1)
    (hmarkets : markets.length < 2 ^ 63) (houtcomes : outcomes.length < 2 ^ 63) :
    StandsFor (marketListKeyboard markets) decodeMarket (List.range markets.length) ∧
    StandsFor (outcomeKeyboard outcomes) decodeOutcome
      ((List.range outcomes.length).map (fun i : Nat => (i : Int))) ∧
    StandsFor alertTypeKeyboard decodeAlertType ["above", "below", "cross"] ∧
    StandsFor (subscriptionListKeyboard subscriptions) decodeSub (subscriptions.map Prod.fst) ∧
    StandsFor (unsubscribeKeyboard subscriptions) decodeUnsub (subscriptions.map Prod.fst) ∧
    ∀ k k' : ButtonKind, k ≠ k' →
      ∀ button ∈ (k.keyboard subscriptions markets outcomes).flatten,
        k'.accepts button.data = false := by
  refine ⟨market_standsFor hmarkets, outcome_standsFor houtcomes, alertType_standsFor,
    sub_standsFor hids, unsub_standsFor hids, ?_⟩
  intro k k' hne button hbutton
  obtain ⟨rest, hdata⟩ := ButtonKind.data_of_keyboard hbutton
  rw [hdata]
  exact ButtonKind.accepts_other hne rest

/-- The two ends of the `i64` range, one market and two outcomes. -/
theorem keyboards_agree_extremes :
    let subscriptions := [(-2 ^ 63, "lowest"), (2 ^ 63 - 1, "highest")]
    let markets : List MarketOption := [⟨"0xc", "Rain?", ["Yes", "No"], ["t1", "t2"]⟩]
    let outcomes := ["Yes", "No"]
    StandsFor (marketListKeyboard markets) decodeMarket (List.range markets.length) ∧
    StandsFor (outcomeKeyboard outcomes) decodeOutcome
      ((List.range outcomes.length).map (fun i : Nat => (i : Int))) ∧
    StandsFor alertTypeKeyboard decodeAlertType ["above", "below", "cross"] ∧
    StandsFor (subscriptionListKeyboard subscriptions) decodeSub (subscriptions.map Prod.fst) ∧
    StandsFor (unsubscribeKeyboard subscriptions) decodeUnsub (subscriptions.map Prod.fst) ∧
    ∀ k k' : ButtonKind, k ≠ k' →
      ∀ button ∈ (k.keyboard subscriptions markets outcomes).flatten,
        k'.accepts button.data = false :=
  keyboards_agree _ _ _ (by unfold InI64; decide) (by decide) (by decide)

end PolyNotifier
