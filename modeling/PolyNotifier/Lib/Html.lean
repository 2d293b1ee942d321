import Mathlib.Data.List.Forall2
import PolyNotifier.Lib.Text

/-!
# Text in HTML

What a reader of HTML shows of a text without tags. `<`, `>` and `&` may not stand for
themselves: an `&` begins an entity, a name closed by a semicolon, and the reader shows the
character it names. `Decodes` is that reading, for any set of entities; a text that has none is
refused.

A text is shown as it is written if and only if it has none of the three characters. A character
that is in no name ends every entity before it, so a text that is put together with such
characters reads piece by piece.
-/

namespace PolyNotifier
namespace Lib
namespace Html

/-! ## Entities -/

/-- May not stand for itself. -/
def Special (c : Char) : Prop := c = '<' ∨ c = '>' ∨ c = '&'

instance : DecidablePred Special := fun _ => inferInstanceAs (Decidable (_ ∨ _ ∨ _))

/-- No character of the text is special. -/
def Plain (cs : List Char) : Prop := ∀ c ∈ cs, ¬ Special c

instance (cs : List Char) : Decidable (Plain cs) :=
  List.decidableBAll (fun c => ¬ Special c) cs

/-- What the name of an entity is made of. -/
def NameChar (c : Char) : Prop := c.isAlphanum = true ∨ c = '#'

instance : DecidablePred NameChar := fun _ => inferInstanceAs (Decidable (_ ∨ _))

/-- Neither special, nor in the name of an entity, nor the end of one. -/
def Break (c : Char) : Prop := ¬ Special c ∧ ¬ NameChar c ∧ c ≠ ';'

instance : DecidablePred Break := fun _ => inferInstanceAs (Decidable (_ ∧ _ ∧ _))

/-- The entities that a reader knows, each with the character it shows. Readers differ in this and
    in nothing else here, so it is a parameter; what a name is made of is what keeps an entity
    inside one piece of text. -/
structure Entities where
  Names : List Char → Char → Prop
  nameChar : ∀ {name c}, Names name c → ∀ d ∈ name, NameChar d

/-! ## Reading -/

/-- The text is shown as the other. -/
inductive Decodes (E : Entities) : List Char → List Char → Prop
  | nil : Decodes E [] []
  | plain {c : Char} {cs ds : List Char} (hc : ¬ Special c) :
      Decodes E cs ds → Decodes E (c :: cs) (c :: ds)
  | entity {name : List Char} {c : Char} {cs ds : List Char} (hname : E.Names name c) :
      Decodes E cs ds → Decodes E ('&' :: (name ++ ';' :: cs)) (c :: ds)

/-- The text can be read: special characters are in it only as part of an entity. -/
def Escaped (E : Entities) (cs : List Char) : Prop := ∃ ds, Decodes E cs ds

variable {E : Entities} {cs ds out : List Char} {s : Char}

theorem Plain.append (hc : Plain cs) (hd : Plain ds) : Plain (cs ++ ds) := by
  intro c h
  rcases List.mem_append.mp h with h | h
  · exact hc c h
  · exact hd c h

theorem Decodes.append {cs' ds' : List Char} (h : Decodes E cs ds) (h' : Decodes E cs' ds') :
    Decodes E (cs ++ cs') (ds ++ ds') := by
  induction h with
  | nil => exact h'
  | plain hc _ ih => exact .plain hc ih
  | @entity name c cs ds hname _ ih =>
    have hassoc : '&' :: (name ++ ';' :: cs) ++ cs' = '&' :: (name ++ ';' :: (cs ++ cs')) := by
      simp
    rw [hassoc]
    exact .entity hname ih

theorem Plain.decodes (h : Plain cs) : Decodes E cs cs := by
  induction cs with
  | nil => exact .nil
  | cons c cs ih =>
    obtain ⟨hc, hcs⟩ := List.forall_mem_cons.mp h
    exact .plain hc (ih hcs)

theorem Decodes.length_le (h : Decodes E cs ds) : ds.length ≤ cs.length := by
  induction h with
  | nil => exact Nat.le_refl _
  | plain _ _ ih => exact Nat.succ_le_succ ih
  | entity _ _ ih =>
    simp only [List.length_cons, List.length_append]
    omega

/-- An entity is longer than what it shows. -/
theorem Decodes.plain_of_length (h : Decodes E cs ds) (hlen : ds.length = cs.length) :
    Plain cs := by
  induction h with
  | nil => exact fun c hc => by cases hc
  | plain hc _ ih => exact List.forall_mem_cons.mpr ⟨hc, ih (Nat.succ.inj hlen)⟩
  | entity _ hrest _ =>
    have hle := hrest.length_le
    simp only [List.length_cons, List.length_append] at hlen
    omega

/-- **A text is shown as it is written if and only if it is plain.** -/
theorem decodes_self_iff : Decodes E cs cs ↔ Plain cs :=
  ⟨fun h => h.plain_of_length rfl, Plain.decodes⟩

/-- What follows a plain text is read by itself. -/
theorem decodes_plain_append (hc : Plain cs) :
    Decodes E (cs ++ ds) out ↔ ∃ out', out = cs ++ out' ∧ Decodes E ds out' := by
  constructor
  · intro h
    induction cs generalizing out with
    | nil => exact ⟨out, rfl, h⟩
    | cons c cs ih =>
      obtain ⟨hplain, hcs⟩ := List.forall_mem_cons.mp hc
      rw [List.cons_append] at h
      generalize htext : cs ++ ds = text at h
      cases h with
      | plain _ hrest =>
        rw [← htext] at hrest
        obtain ⟨out', rfl, hds⟩ := ih hcs hrest
        exact ⟨out', rfl, hds⟩
      | entity hname _ => exact absurd (.inr (.inr rfl)) hplain
  · rintro ⟨out', rfl, hds⟩
    exact hc.decodes.append hds

/-- **A break ends what is read before it.** -/
theorem decodes_break (hs : Break s) :
    Decodes E (cs ++ s :: ds) out ↔
      ∃ a b, out = a ++ s :: b ∧ Decodes E cs a ∧ Decodes E ds b := by
  constructor
  · intro h
    generalize htext : cs ++ s :: ds = text at h
    induction h generalizing cs with
    | nil => simp at htext
    | @plain c rest shown hc hrest ih =>
      cases cs with
      | nil =>
        cases htext
        exact ⟨[], shown, rfl, .nil, hrest⟩
      | cons c' cs =>
        cases htext
        obtain ⟨a, b, rfl, ha, hb⟩ := ih rfl
        exact ⟨c :: a, b, rfl, .plain hc ha, hb⟩
    | @entity name c rest shown hname hrest ih =>
      cases cs with
      | nil =>
        cases htext
        exact absurd (.inr (.inr rfl)) hs.1
      | cons c' cs =>
        obtain ⟨rfl, htail⟩ := List.cons.inj htext
        -- the break is neither in the name nor its end, so it comes after both
        obtain ⟨cs', rfl, hrest'⟩ : ∃ cs', cs = name ++ ';' :: cs' ∧ cs' ++ s :: ds = rest := by
          rcases List.append_eq_append_iff.mp htail with ⟨a, hname', ha⟩ | ⟨a, hcs, ha⟩
          · cases a with
            | nil => exact absurd (List.cons.inj ha).1 hs.2.2
            | cons c' a =>
              obtain rfl := (List.cons.inj ha).1
              exact absurd (E.nameChar hname s (by simp [hname'])) hs.2.1
          · cases a with
            | nil => exact absurd (List.cons.inj ha).1.symm hs.2.2
            | cons c' a =>
              obtain ⟨rfl, hrest'⟩ := List.cons.inj ha
              exact ⟨a, hcs, hrest'.symm⟩
        obtain ⟨a, b, rfl, ha, hb⟩ := ih hrest'
        exact ⟨c :: a, b, rfl, .entity hname ha, hb⟩
  · rintro ⟨a, b, rfl, ha, hb⟩
    exact ha.append (.plain hs.1 hb)

theorem escaped_plain_append (hc : Plain cs) : Escaped E (cs ++ ds) ↔ Escaped E ds := by
  constructor
  · rintro ⟨out, h⟩
    obtain ⟨out', _, hds⟩ := (decodes_plain_append hc).mp h
    exact ⟨out', hds⟩
  · rintro ⟨out, h⟩
    exact ⟨cs ++ out, hc.decodes.append h⟩

theorem escaped_break (hs : Break s) :
    Escaped E (cs ++ s :: ds) ↔ Escaped E cs ∧ Escaped E ds := by
  constructor
  · rintro ⟨out, h⟩
    obtain ⟨a, b, _, ha, hb⟩ := (decodes_break hs).mp h
    exact ⟨⟨a, ha⟩, ⟨b, hb⟩⟩
  · rintro ⟨⟨a, ha⟩, ⟨b, hb⟩⟩
    exact ⟨a ++ s :: b, ha.append (.plain hs.1 hb)⟩

/-! ## Joined lines -/

/-- Each has one if and only if all together have a list of them. -/
theorem exists_forall₂_iff {α β : Type} {R : α → β → Prop} {as : List α} :
    (∃ bs, List.Forall₂ R as bs) ↔ ∀ a ∈ as, ∃ b, R a b := by
  constructor
  · rintro ⟨bs, h⟩
    induction h with
    | nil => exact fun a ha => by cases ha
    | cons hfirst _ ih => exact List.forall_mem_cons.mpr ⟨⟨_, hfirst⟩, ih⟩
  · intro h
    induction as with
    | nil => exact ⟨[], .nil⟩
    | cons a as ih =>
      obtain ⟨⟨b, hb⟩, has⟩ := List.forall_mem_cons.mp h
      obtain ⟨bs, hbs⟩ := ih has
      exact ⟨b :: bs, .cons hb hbs⟩

/-- The text of the second list of strings is what is shown of the first, one by one. -/
def ShownAs (E : Entities) : List String → List String → Prop :=
  List.Forall₂ fun line shown => Decodes E line.toList shown.toList

section Join

variable {sep : String} {rest : List Char} (hsep : sep.toList = s :: rest) (hs : Break s)
  (hrest : Plain rest)

include hsep hs hrest

/-- **Joined lines are read line by line.** -/
theorem decodes_join {lines : List String} :
    Decodes E (join sep lines).toList out ↔
      ∃ shown, ShownAs E lines shown ∧ out = (join sep shown).toList := by
  induction lines generalizing out with
  | nil =>
    constructor
    · intro h
      cases h
      exact ⟨[], .nil, rfl⟩
    · rintro ⟨shown, hshown, rfl⟩
      cases hshown
      exact .nil
  | cons line lines ih =>
    cases lines with
    | nil =>
      constructor
      · intro h
        refine ⟨[String.ofList out], .cons ?_ .nil, ?_⟩
        · rwa [String.toList_ofList]
        · exact String.toList_ofList.symm
      · rintro ⟨shown, hshown, rfl⟩
        cases hshown with
        | cons hline hnil =>
          cases hnil
          exact hline
    | cons line' lines =>
      have hjoin : ∀ l l' ls, (join sep (l :: l' :: ls)).toList =
          l.toList ++ s :: (rest ++ (join sep (l' :: ls)).toList) := by
        intro l l' ls
        rw [join, String.toList_append, String.toList_append, hsep, List.append_assoc]
        rfl
      -- the first character of the separator ends a reading, and the rest of it is read as it is
      rw [hjoin, decodes_break hs]
      constructor
      · rintro ⟨a, b, rfl, ha, hb⟩
        obtain ⟨out', rfl, hlines⟩ := (decodes_plain_append hrest).mp hb
        obtain ⟨shown, hshown, rfl⟩ := ih.mp hlines
        refine ⟨String.ofList a :: shown, .cons ?_ hshown, ?_⟩
        · rwa [String.toList_ofList]
        · cases hshown
          rw [hjoin, String.toList_ofList]
      · rintro ⟨shown, hshown, rfl⟩
        cases hshown with
        | @cons _ m _ ms hline hlines =>
          cases hlines with
          | @cons _ m' _ ms' hline' hlines' =>
            refine ⟨m.toList, rest ++ (join sep (m' :: ms')).toList, hjoin m m' ms', hline, ?_⟩
            exact (decodes_plain_append hrest).mpr
              ⟨_, rfl, ih.mpr ⟨m' :: ms', .cons hline' hlines', rfl⟩⟩

theorem escaped_join {lines : List String} :
    Escaped E (join sep lines).toList ↔ ∀ line ∈ lines, Escaped E line.toList := by
  have hone : ∀ line : String, (∃ shown : String, Decodes E line.toList shown.toList) ↔
      Escaped E line.toList := by
    intro line
    constructor
    · rintro ⟨shown, h⟩
      exact ⟨_, h⟩
    · rintro ⟨out, h⟩
      exact ⟨String.ofList out, by rwa [String.toList_ofList]⟩
  calc Escaped E (join sep lines).toList
      ↔ ∃ shown, ShownAs E lines shown := by
        constructor
        · rintro ⟨out, h⟩
          obtain ⟨shown, hshown, _⟩ := (decodes_join hsep hs hrest).mp h
          exact ⟨shown, hshown⟩
        · rintro ⟨shown, hshown⟩
          exact ⟨_, (decodes_join hsep hs hrest).mpr ⟨shown, hshown, rfl⟩⟩
    _ ↔ ∀ line ∈ lines, ∃ shown : String, Decodes E line.toList shown.toList := exists_forall₂_iff
    _ ↔ ∀ line ∈ lines, Escaped E line.toList := by simp only [hone]

end Join

end Html
end Lib
end PolyNotifier
