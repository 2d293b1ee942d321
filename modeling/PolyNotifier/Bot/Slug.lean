import PolyNotifier.Bot.Dialogues

/-!
# Which texts are taken for event URLs

`extractSlugFromUrl` cuts the trimmed text at its first `/event/` and takes the segment behind
it (`extractSlugFromUrl_eq_some`). It looks at neither what stands before the cut nor what is
inside the segment, so it is right about event URLs and takes other texts for them too:
`slug_exact_iff` says for which texts it is exact.
-/

namespace PolyNotifier

open Lib (FirstAt afterFirst isWhitespace trim)

/-- A character that does not end a path segment. -/
def inSegment (c : Char) : Bool := c != '/' && c != '?' && c != '#'

/-- A path segment, and what follows it. -/
structure Segment (segment rest : String) : Prop where
  nonempty : segment ≠ ""
  inside : ∀ c ∈ segment.toList, inSegment c = true
  ends : ∀ c ∈ rest.toList.head?, inSegment c = false

/-- `polymarket.com`, with an optional scheme and an optional `www.`. -/
def IsHost (host : String) : Prop :=
  ∃ scheme ∈ ["", "http://", "https://"], ∃ www ∈ ["", "www."],
    host = scheme ++ www ++ "polymarket.com"

/-- The trimmed text is the URL of a Polymarket event, and `slug` names the event. It says what
    such a URL is, and not how it is taken apart: where `/event/` is first, and what ends a slug,
    is the code's business and comes in with `EventCut`. -/
def EventUrl (text slug : String) : Prop :=
  ∃ host rest, IsHost host ∧ trim text = host ++ "/event/" ++ slug ++ rest ∧
    Segment slug rest ∧ ∀ c ∈ slug.toList, isWhitespace c = false

/-- The trimmed text cut at its first `/event/`, with a segment behind it. -/
structure EventCut (text before segment rest : String) : Prop where
  eq : trim text = before ++ "/event/" ++ segment ++ rest
  first : ¬ "/event/".toList <:+: (before ++ "/event").toList
  segment : Segment segment rest

/-! ## What the code accepts -/

/-- A segment ends where its first delimiter stands. -/
theorem Segment.takeWhile {segment rest : String} (h : Segment segment rest) :
    (segment ++ rest).toList.takeWhile inSegment = segment.toList := by
  rw [String.toList_append, List.takeWhile_append_of_pos h.inside]
  cases hrest : rest.toList with
  | nil => rw [List.takeWhile_nil, List.append_nil]
  | cons c cs =>
    have hstop : inSegment c = false := h.ends c (by rw [hrest]; rfl)
    rw [List.takeWhile_cons_of_neg (ne_true_of_eq_false hstop), List.append_nil]

/-- What `takeWhile` cuts off is a segment, unless it is empty. -/
theorem Segment.of_takeWhile {after : List Char} (h : after.takeWhile inSegment ≠ []) :
    Segment (String.ofList (after.takeWhile inSegment))
      (String.ofList (after.dropWhile inSegment)) := by
  refine ⟨?_, ?_, ?_⟩
  · intro hempty
    exact h (by rw [← String.toList_ofList (l := after.takeWhile inSegment), hempty]; rfl)
  · intro c hc
    rw [String.toList_ofList] at hc
    exact List.mem_takeWhile_imp hc
  · intro c hc
    rw [String.toList_ofList] at hc
    have hnot := List.head?_dropWhile_not inSegment after
    rw [Option.mem_def.mp hc] at hnot
    simpa using hnot

theorem EventCut.firstAt {text before segment rest : String}
    (h : EventCut text before segment rest) :
    FirstAt "/event/".toList (trim text).toList before.toList (segment ++ rest).toList := by
  refine ⟨?_, ?_⟩
  · rw [h.eq]
    simp only [String.toList_append, List.append_assoc]
  · have hfirst := h.first
    rwa [String.toList_append] at hfirst

/-- **The code accepts the texts that have a segment behind their first `/event/`.** -/
theorem extractSlugFromUrl_eq_some {text slug : String} :
    extractSlugFromUrl text = some slug ↔ ∃ before rest, EventCut text before slug rest := by
  have hcode : extractSlugFromUrl text
      = (afterFirst "/event/".toList (trim text).toList).bind fun after =>
          if after.takeWhile inSegment = [] then none
          else some (String.ofList (after.takeWhile inSegment)) := rfl
  rw [hcode, Option.bind_eq_some_iff]
  constructor
  · rintro ⟨after, hafter, hslug⟩
    obtain ⟨before, hfirst⟩ := (Lib.afterFirst_eq_some (by decide)).mp hafter
    split at hslug
    · cases hslug
    · rename_i hne
      obtain rfl := Option.some.inj hslug
      refine ⟨String.ofList before, String.ofList (after.dropWhile inSegment), ?_, ?_,
        Segment.of_takeWhile hne⟩
      · apply String.toList_inj.mp
        rw [hfirst.eq]
        simp only [String.toList_append, String.toList_ofList, List.append_assoc,
          List.takeWhile_append_dropWhile]
      · rw [String.toList_append, String.toList_ofList (l := before)]
        exact hfirst.first
  · rintro ⟨before, rest, hcut⟩
    refine ⟨_, (Lib.afterFirst_eq_some (by decide)).mpr ⟨_, hcut.firstAt⟩, ?_⟩
    have hne : slug.toList ≠ [] := by
      intro hnil
      exact hcut.segment.nonempty (String.toList_inj.mp hnil)
    rw [hcut.segment.takeWhile, if_neg hne, String.ofList_toList]

/-- A text is cut in one way. -/
theorem EventCut.unique {text before segment rest before' segment' rest' : String}
    (h : EventCut text before segment rest) (h' : EventCut text before' segment' rest') :
    before = before' ∧ segment = segment' := by
  obtain ⟨hbefore, hafter⟩ := h.firstAt.unique (by decide) h'.firstAt
  refine ⟨String.toList_inj.mp hbefore, String.toList_inj.mp ?_⟩
  rw [← h.segment.takeWhile, ← h'.segment.takeWhile, hafter]

/-! ## Event URLs among them -/

/-- No host contains `/event/`, nor does one run into the `/event/` behind it. -/
theorem IsHost.first {host : String} (h : IsHost host) :
    ¬ "/event/".toList <:+: (host ++ "/event").toList := by
  have hall : ∀ scheme ∈ ["", "http://", "https://"], ∀ www ∈ ["", "www."],
      ¬ "/event/".toList <:+: (scheme ++ www ++ "polymarket.com" ++ "/event").toList := by
    decide
  obtain ⟨scheme, hscheme, www, hwww, rfl⟩ := h
  exact hall scheme hscheme www hwww

/-- An event URL is cut at its host. -/
theorem EventUrl.cut {text slug : String} (h : EventUrl text slug) :
    ∃ host rest, IsHost host ∧ EventCut text host slug rest ∧
      ∀ c ∈ slug.toList, isWhitespace c = false := by
  obtain ⟨host, rest, hhost, heq, hseg, hspace⟩ := h
  exact ⟨host, rest, hhost, ⟨heq, hhost.first, hseg⟩, hspace⟩

/-- The slug is exact on the text: it is found if and only if the text is an event URL. -/
def SlugExact (text : String) : Prop :=
  ∀ slug, extractSlugFromUrl text = some slug ↔ EventUrl text slug

/-- **The slug is exact if and only if a text with a segment behind its first `/event/` has a
    Polymarket host before it and no white space in the segment.** A text without such a segment is
    told apart rightly in any case. The function looks for the segment only: the host before it and
    the white space in it are never tested. -/
theorem slug_exact_iff (text : String) :
    SlugExact text ↔
      ∀ before segment rest, EventCut text before segment rest →
        IsHost before ∧ ∀ c ∈ segment.toList, isWhitespace c = false := by
  constructor
  · intro hexact before segment rest hcut
    have hfound := extractSlugFromUrl_eq_some.mpr ⟨before, rest, hcut⟩
    obtain ⟨host, rest', hhost, hcut', hspace⟩ := ((hexact segment).mp hfound).cut
    obtain ⟨rfl, -⟩ := hcut.unique hcut'
    exact ⟨hhost, hspace⟩
  · intro hclear slug
    constructor
    · intro hfound
      obtain ⟨before, rest, hcut⟩ := extractSlugFromUrl_eq_some.mp hfound
      obtain ⟨hhost, hspace⟩ := hclear before slug rest hcut
      exact ⟨before, rest, hhost, hcut.eq, hcut.segment, hspace⟩
    · intro hurl
      obtain ⟨host, rest, -, hcut, -⟩ := hurl.cut
      exact extractSlugFromUrl_eq_some.mpr ⟨host, rest, hcut⟩

/-- The URL of another site is taken for a Polymarket event: nothing in the function looks at what
    stands before `/event/`. -/
theorem other_site_taken :
    extractSlugFromUrl "https://kalshi.com/event/rain" = some "rain" ∧
      ¬ EventUrl "https://kalshi.com/event/rain" "rain" ∧
      ¬ SlugExact "https://kalshi.com/event/rain" := by
  have hfound : extractSlugFromUrl "https://kalshi.com/event/rain" = some "rain" := by decide
  have hurl : ¬ EventUrl "https://kalshi.com/event/rain" "rain" := by
    intro h
    obtain ⟨host, rest, ⟨scheme, hscheme, www, hwww, rfl⟩, hcut, -⟩ := h.cut
    have hsite : EventCut "https://kalshi.com/event/rain" "https://kalshi.com" "rain" "" :=
      ⟨by decide, by decide, by decide, List.all_eq_true.mp (by decide), by simp⟩
    have hother : ∀ scheme ∈ ["", "http://", "https://"], ∀ www ∈ ["", "www."],
        "https://kalshi.com" ≠ scheme ++ www ++ "polymarket.com" := by decide
    exact hother scheme hscheme www hwww (hsite.unique hcut).1
  exact ⟨hfound, hurl, fun hexact => hurl ((hexact _).mp hfound)⟩

end PolyNotifier
