import ManifestPatch.Proofs.Selector.Offence
import ManifestPatch.Selector.Printer

/-!
# Texts Joined by a Separator

A text that is read as a selector ends outside all brackets and literals. A separator and another
text behind it therefore leave its pieces as they are, and the reading goes on with the pieces of
the other text. If the first text ends with an element, the result is that of the other text, with
more components in front or with the same error; if it ends with an attribute, any further piece is
one too many. For the same reason separators may be repeated wherever one stands.

## Main definitions

* `ReadAlike`: two texts are read as the same selector, or with the same error.

## Main results

* `ReadAlike.of_pieces_eq`: texts with the same pieces read alike.
* `pieces_join`: the pieces of two texts joined by a separator.
* `parse_join`: reading turns a separator between texts into one list of components after another.
-/

namespace ManifestPatch.Selector

variable {text text' a b : String} {s t : Selector} {e : SelectorError}

/-! ### Reading alike -/

/-- Two texts **read alike**: the second is read as the selector that the first is, or is refused
with the same error, which then names the second text. -/
def ReadAlike (text text' : String) : Prop :=
  parse text' = (parse text).mapError (SelectorError.within text')

/-- Reading pieces does not look at the text that they come from, which is only named in errors. -/
theorem parsePieces_within (text text' : String) (ps : List (List Char)) :
    parsePieces text' ps = (parsePieces text ps).mapError (SelectorError.within text') := by
  induction ps with
  | nil => rfl
  | cons piece ps ih =>
      rw [parsePieces, parsePieces]
      cases parseComponent piece with
      | error fault => rfl
      | ok component =>
          by_cases hlast : (component.isAttribute && !ps.isEmpty) = true
          · simp only [if_pos hlast]
            rfl
          · simp only [if_neg hlast, ih]
            cases parsePieces text ps <;> rfl

/-- **Texts with the same pieces read alike.** -/
theorem ReadAlike.of_pieces_eq (h : pieces text'.toList = pieces text.toList) :
    ReadAlike text text' := by
  rw [ReadAlike, parse, parse, h, parsePieces_within text text']
  cases parsePieces text (pieces text.toList) with
  | error e => rfl
  | ok components => cases components <;> rfl

/-- Texts that read alike are read as the same selector. -/
theorem ReadAlike.parse_eq_ok (h : ReadAlike text text') (hs : parse text = .ok s) :
    parse text' = .ok s := by
  rw [h, hs]
  rfl

/-! ### Joined texts -/

/-- The pieces of two texts **joined** by a separator, if the first is closed. -/
theorem pieces_join (h : Closed a) (b : String) :
    pieces (a ++ "/" ++ b).toList = pieces a.toList ++ pieces b.toList := by
  rw [← pieces_append_of_after h]
  simp

/-- Behind a closed text, separators and a text without pieces count for nothing. -/
theorem ReadAlike.join_onlySeparators (h : Closed a) (hb : OnlySeparators b) :
    ReadAlike a (a ++ "/" ++ b) := by
  refine .of_pieces_eq ?_
  rw [pieces_join h, pieces_eq_nil_iff.mpr hb, List.append_nil]

/-- **Separators may be repeated** in front of a text, and behind a closed text or between it and
another one. -/
theorem readAlike_separators (u : String) (n : Nat) :
    ReadAlike u (separators n ++ u) ∧
      (Closed u → ReadAlike u (u ++ separators n) ∧
        ∀ v, ReadAlike (u ++ "/" ++ v) (u ++ separators (n + 1) ++ v)) := by
  refine ⟨.of_pieces_eq ?_, fun h => ⟨.of_pieces_eq ?_, fun v => .of_pieces_eq ?_⟩⟩
  · rw [String.toList_append, toList_separators, pieces_separators]
  · rw [String.toList_append, toList_separators, pieces_append_separators h]
  · rw [pieces_join h, String.toList_append, String.toList_append, toList_separators,
      List.replicate_succ, List.append_assoc, List.cons_append, pieces_append_of_after h,
      pieces_separators]

/-- The pieces of a text that is read as a selector for an element all mean elements. -/
theorem forall₂_spellsElement (ha : parse a = .ok s) (he : s.targetsAttribute = false) :
    List.Forall₂ SpellsElement (pieces a.toList) s.components := by
  rcases parsePieces_ok_cases (parse_eq_ok_iff_parsePieces.mp ha) with
    hall | ⟨before, others, name, -, -, -, hcomponents⟩
  · exact hall
  · have hleaf := s.getLast?_components
    rw [hcomponents, List.getLast?_concat, Option.some.injEq] at hleaf
    rw [targetsAttribute, ← hleaf, isAttribute_at] at he
    exact absurd he nofun

/-- A text that is read as a selector for an attribute has pieces that mean elements, and the one
for the attribute as it is written. -/
theorem exists_pieces_attribute (ha : parse a = .ok s) (he : s.targetsAttribute = true) :
    ∃ before, ∃ name : String, (∀ p ∈ before, ∃ c, SpellsElement p c) ∧ SpellsName name.toList ∧
      pieces a.toList = before ++ ['@' :: name.toList] ∧ s.leaf.render = "@" ++ name := by
  have hleaf := s.getLast?_components
  rcases parsePieces_ok_cases (parse_eq_ok_iff_parsePieces.mp ha) with
    hall | ⟨before, others, name, hbefore, hn, hpieces, hcomponents⟩
  · obtain ⟨piece, -, hpiece⟩ := exists_of_forall₂_of_mem hall (List.mem_of_getLast? hleaf)
    rw [targetsAttribute, hpiece.isAttribute_eq_false] at he
    exact absurd he nofun
  · rw [hcomponents, List.getLast?_concat, Option.some.injEq] at hleaf
    refine ⟨before, name, forall_exists_of_forall₂ hbefore, hn, hpieces, ?_⟩
    rw [← hleaf, Component.render]
    simp

/-- Behind a text for an element, another text is read as it is by itself, with the components of
the first in front. -/
theorem parse_join_of_parse (ha : parse a = .ok s) (he : s.targetsAttribute = false)
    (hb : parse b = .ok t) :
    parse (a ++ "/" ++ b) = .ok { root := s.root, steps := s.steps ++ t.components } := by
  rw [parse_eq_ok_iff_parsePieces, pieces_join (.of_parse ha),
    parsePieces_append (forall₂_spellsElement ha he), parsePieces_within b,
    parse_eq_ok_iff_parsePieces.mp hb]
  rfl

/-- Behind a text for an element, another text is refused as it is by itself. -/
theorem parse_join_of_error (ha : parse a = .ok s) (he : s.targetsAttribute = false)
    (hb : parse b = .error e) (hne : ¬ OnlySeparators b) :
    parse (a ++ "/" ++ b) = .error (e.within (a ++ "/" ++ b)) := by
  rcases parse_eq_error_iff.mp hb with ⟨honly, -⟩ | ⟨before, piece, after, hps, hbefore, hrefused⟩
  · exact absurd honly hne
  have hall : ∀ p ∈ pieces a.toList ++ before, ∃ c, SpellsElement p c := by
    intro p hp
    rcases List.mem_append.mp hp with hp | hp
    · exact forall_exists_of_forall₂ (forall₂_spellsElement ha he) p hp
    · exact hbefore p hp
  refine parse_eq_error_iff.mpr (.inr ⟨_, piece, after, ?_, hall, hrefused.within _ Iff.rfl⟩)
  rw [piecesOf_iff, pieces_join (.of_parse ha), piecesOf_iff.mp hps, List.append_assoc]

/-- Behind a text for an attribute, anything that has a piece is too much. -/
theorem parse_join_of_attribute (ha : parse a = .ok s) (he : s.targetsAttribute = true)
    (hne : ¬ OnlySeparators b) :
    parse (a ++ "/" ++ b) = .error (.attributeNotLast (a ++ "/" ++ b) s.leaf.render) := by
  obtain ⟨before, name, hbefore, hn, hpieces, hleaf⟩ := exists_pieces_attribute ha he
  have hafter : pieces b.toList ≠ [] := mt pieces_eq_nil_iff.mp hne
  have hname : String.ofList ('@' :: name.toList) = "@" ++ name :=
    String.toList_injective (by simp)
  have hrefused : Refused (a ++ "/" ++ b) ('@' :: name.toList) (pieces b.toList) _ :=
    .attributeNotLast hn rfl hafter
  rw [hname, ← hleaf] at hrefused
  refine parse_eq_error_iff.mpr (.inr ⟨before, _, _, ?_, hbefore, hrefused⟩)
  rw [piecesOf_iff, pieces_join (.of_parse ha), hpieces, List.append_assoc]
  rfl

/-- **Reading takes a separator between texts to one list of components after another.** Let a text
be read as a selector for an element. With a separator and a second text behind it, it is read as
its components followed by those of the second text, if that is read; as before, if the second text
is empty or has separators alone; and else it is refused with the error of the second text, which
then names the whole. A text for an attribute is read as before with separators behind it, and
refused for that attribute with anything else. In both cases the text is closed; and in front of any
text, behind any that is closed, and where one stands behind such a text, separators may be
repeated. -/
theorem parse_join (ha : parse a = .ok s) (b : String) :
    (s.targetsElement = true →
      (∀ t, parse b = .ok t → ∃ st, parse (a ++ "/" ++ b) = .ok st ∧
        st.components = s.components ++ t.components) ∧
      (OnlySeparators b → parse (a ++ "/" ++ b) = .ok s) ∧
      ∀ e, parse b = .error e → ¬ OnlySeparators b →
        parse (a ++ "/" ++ b) = .error (e.within (a ++ "/" ++ b))) ∧
    (s.targetsAttribute = true →
      (OnlySeparators b → parse (a ++ "/" ++ b) = .ok s) ∧
      (¬ OnlySeparators b →
        parse (a ++ "/" ++ b) = .error (.attributeNotLast (a ++ "/" ++ b) s.leaf.render))) ∧
    Closed a ∧
    ∀ u n, ReadAlike u (separators n ++ u) ∧
      (Closed u → ReadAlike u (u ++ separators n) ∧
        ∀ v, ReadAlike (u ++ "/" ++ v) (u ++ separators (n + 1) ++ v)) := by
  have hclosed := Closed.of_parse ha
  have honly : OnlySeparators b → parse (a ++ "/" ++ b) = .ok s :=
    fun hb => (ReadAlike.join_onlySeparators hclosed hb).parse_eq_ok ha
  refine ⟨fun he => ?_, fun he => ?_, hclosed, readAlike_separators⟩
  · have he : s.targetsAttribute = false := by simpa [targetsElement] using he
    refine ⟨fun t hb => ⟨_, parse_join_of_parse ha he hb, rfl⟩, honly, fun e hb hne => ?_⟩
    exact parse_join_of_error ha he hb hne
  · exact ⟨honly, parse_join_of_attribute ha he⟩

/-- Behind a literal with a bracket and a separator in it, a second text has the error that it has
by itself; behind an attribute it is one piece too many; and the separators around are free. -/
theorem parse_join_literal :
    parse "/MPD/a[@b=']/']" = .ok
        { root := { name := "MPD" },
          steps := [{ name := "a", predicate := some (.attributeIs "b" "]/") }] } ∧
      parse "/MPD/a[@b=']/']//c[0]" =
        .error (.malformed "/MPD/a[@b=']/']//c[0]" "c[0]" .zeroPosition) ∧
      parse "/MPD/@id/c[0]" = .error (.attributeNotLast "/MPD/@id/c[0]" "@id") ∧
      parse "//MPD/@id" = .ok { root := { name := "MPD" }, steps := [{ name := "@id" }] } := by
  have ha : parse "/MPD/a[@b=']/']" = .ok
      { root := { name := "MPD" },
        steps := [{ name := "a", predicate := some (.attributeIs "b" "]/") }] } := by
    decide +kernel
  have ha' : parse "/MPD/@id" = .ok { root := { name := "MPD" }, steps := [{ name := "@id" }] } := by
    decide +kernel
  have hb : parse "/c[0]" = .error (.malformed "/c[0]" "c[0]" .zeroPosition) := by decide +kernel
  have hne : ∀ text : String, 'c' ∈ text.toList → ¬ OnlySeparators text :=
    fun text hc honly => absurd (honly 'c' hc) (by decide)
  obtain ⟨helement, -⟩ := parse_join ha "/c[0]"
  obtain ⟨-, hattribute, -, hseparators⟩ := parse_join ha' "c[0]"
  obtain ⟨-, -, hrefused⟩ := helement (by decide)
  refine ⟨ha, hrefused _ hb (hne _ (by decide)), ?_, ?_⟩
  · exact (hattribute (by decide)).2 (hne _ (by decide))
  · exact (hseparators "/MPD/@id" 1).1.parse_eq_ok ha'

end ManifestPatch.Selector
