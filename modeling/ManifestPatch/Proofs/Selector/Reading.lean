import ManifestPatch.Proofs.Selector.Component
import ManifestPatch.Proofs.Selector.Cut

/-!
# Reading Selectors

The reader of selectors cuts a text at its separators and reads the pieces one after the other.
This module joins the two halves: the cut finds the pieces of every derivation, and the pieces of
every accepted text make up a derivation.

## Main results

* `parsePieces_pieces_iff`: the pieces of a text are accepted exactly if the grammar has the text.
* `parse_eq_ok_iff_spells`: a text is read as a selector exactly if it spells its components.
* `Spells.unique`: a text spells at most one list of components.
* `parse_accepts_exactly_spells`: the reader and the grammar agree on every text.
-/

namespace ManifestPatch.Selector

/-! ### One piece after the other -/

/-- The first piece is read on its own, and it may be an attribute only if no other follows. -/
theorem parsePieces_cons_eq_ok_iff {text : String} {piece : List Char} {rest : List (List Char)}
    {components : List Component} :
    parsePieces text (piece :: rest) = .ok components ↔
      ∃ component others, parseComponent piece = .ok component ∧
        (component.isAttribute = true → rest = []) ∧
        parsePieces text rest = .ok others ∧ components = component :: others := by
  rw [parsePieces]
  cases hc : parseComponent piece with
  | error fault => simp
  | ok component =>
      by_cases ha : (component.isAttribute && !rest.isEmpty) = true
      · simp only [ha, if_true, reduceCtorEq, false_iff]
        rintro ⟨_, _, hok, hlast, -⟩
        obtain rfl := Except.ok.inj hok
        rw [Bool.and_eq_true, Bool.not_eq_true', List.isEmpty_eq_false_iff] at ha
        exact ha.2 (hlast ha.1)
      · have hlast : component.isAttribute = true → rest = [] := by
          intro h
          simpa [h] using ha
        simp only [ha, if_false, Bool.false_eq_true]
        cases hr : parsePieces text rest with
        | error e => simp [Functor.map, Except.map]
        | ok others =>
            simp only [Functor.map, Except.map, Except.ok.injEq]
            constructor
            · rintro rfl
              exact ⟨component, others, rfl, hlast, rfl, rfl⟩
            · rintro ⟨_, _, rfl, -, rfl, rfl⟩
              rfl

/-- A text that begins with a piece is cut into the pieces of its derivation, and these are
accepted. -/
theorem SpellsPath.parsePieces_eq (text : String) {s : List Char} {components : List Component}
    (h : SpellsPath s components) : parsePieces text (pieces s) = .ok components := by
  induction h with
  | @last piece component h trailing =>
      have hp : pieces (piece ++ List.replicate trailing '/') = [piece] := by
        cases trailing with
        | zero =>
            rw [List.replicate_zero, List.append_nil]
            exact pieces_of_passes h.passes h.ne_nil
        | succ n =>
            have hn := pieces_separators n []
            rw [List.append_nil] at hn
            rw [List.replicate_succ, pieces_append_separator h.passes h.ne_nil, hn]
            rfl
      rw [hp, parsePieces_cons_eq_ok_iff]
      exact ⟨component, [], h.parseComponent_eq, fun _ => rfl, rfl, rfl⟩
  | @step piece rest component others h more hr ih =>
      have hp : pieces (piece ++ List.replicate (more + 1) '/' ++ rest) = piece :: pieces rest := by
        rw [List.replicate_succ, List.append_assoc, List.cons_append,
          pieces_append_separator h.passes h.ne_nil, pieces_separators]
      rw [hp, parsePieces_cons_eq_ok_iff]
      exact ⟨component, others, h.parseComponent_eq,
        fun ha => by simp [h.isAttribute_eq_false] at ha, ih, rfl⟩

/-- Pieces that are accepted, empty ones between them passed over, make up a text of the grammar
when each has a separator before it; without components it is separators alone. The induction is
on the pieces, and separators gather until the next piece that is not empty. -/
theorem spellsPath_of_parsePieces {text : String} {cuts : List (List Char)}
    {components : List Component}
    (h : parsePieces text (cuts.filter fun piece => !piece.isEmpty) = .ok components) :
    (components = [] ∧
        ∃ n, cuts.flatMap (fun piece => '/' :: piece) = List.replicate n '/') ∨
      ∃ n rest, cuts.flatMap (fun piece => '/' :: piece) = List.replicate (n + 1) '/' ++ rest ∧
        SpellsPath rest components := by
  induction cuts generalizing components with
  | nil => exact .inl ⟨(Except.ok.inj h).symm, 0, rfl⟩
  | cons piece cuts ih =>
      rw [List.flatMap_cons, List.cons_append]
      by_cases he : piece = []
      · subst he
        rcases ih h with ⟨hnil, n, hn⟩ | ⟨n, rest, hn, hrest⟩
        · exact .inl ⟨hnil, n + 1, by rw [hn]; rfl⟩
        · exact .inr ⟨n + 1, rest, by rw [hn]; rfl, hrest⟩
      · rw [List.filter_cons_of_pos (by simpa using he), parsePieces_cons_eq_ok_iff] at h
        obtain ⟨component, others, hc, hlast, ho, rfl⟩ := h
        have hspells := parseComponent_eq_ok_iff.mp hc
        rcases ih ho with ⟨rfl, n, hn⟩ | ⟨n, rest, hn, hrest⟩
        · exact .inr ⟨0, piece ++ List.replicate n '/', by rw [hn]; rfl, .last hspells n⟩
        · have hmore : component.isAttribute = false := by
            rw [Bool.eq_false_iff]
            intro ha
            rw [hlast ha] at ho
            exact hrest.components_ne_nil (Except.ok.inj ho).symm
          refine .inr ⟨0, piece ++ List.replicate (n + 1) '/' ++ rest, ?_,
            .step (spellsElement_iff.mpr ⟨hspells, hmore⟩) n hrest⟩
          rw [hn, List.append_assoc]
          rfl

/-- The pieces of a text are accepted, and there are some, exactly if the grammar has the text. -/
theorem parsePieces_pieces_iff (text : String) {s : List Char} {components : List Component} :
    parsePieces text (pieces s) = .ok components ∧ components ≠ [] ↔ Spells s components := by
  constructor
  · rintro ⟨h, ne⟩
    rcases spellsPath_of_parsePieces h with ⟨hnil, -⟩ | ⟨n, rest, hn, hrest⟩
    · exact absurd hnil ne
    · rw [flatMap_cut, List.replicate_succ, List.cons_append] at hn
      rw [(List.cons.inj hn).2]
      exact Spells.intro n hrest
  · rintro ⟨leading, h⟩
    rw [pieces_separators]
    exact ⟨h.parsePieces_eq text, h.components_ne_nil⟩

/-! ### Reader and grammar -/

/-- A text is read as a selector exactly if its pieces are accepted as the components. -/
theorem parse_eq_ok_iff_parsePieces {text : String} {s : Selector} :
    parse text = .ok s ↔ parsePieces text (pieces text.toList) = .ok s.components := by
  rw [parse]
  cases hp : parsePieces text (pieces text.toList) with
  | error e => simp [bind, Except.bind]
  | ok components =>
      cases components with
      | nil => simp [bind, Except.bind, components, throw, throwThe, MonadExceptOf.throw]
      | cons root steps =>
          cases s
          simp [bind, Except.bind, pure, Except.pure, components]

/-- A text is read as a selector exactly if it **spells** the selector's components. -/
theorem parse_eq_ok_iff_spells {text : String} {s : Selector} :
    parse text = .ok s ↔ Spells text.toList s.components := by
  rw [parse_eq_ok_iff_parsePieces, ← parsePieces_pieces_iff text]
  simp [components]

/-- A text spells at most one list of components. -/
theorem Spells.unique {s : List Char} {components components' : List Component}
    (h : Spells s components) (h' : Spells s components') : components = components' := by
  have hp := ((parsePieces_pieces_iff "").mpr h).1
  rw [((parsePieces_pieces_iff "").mpr h').1] at hp
  exact (Except.ok.inj hp).symm

/-- **The reader and the grammar agree on every text.** A text is read as a selector with certain
components exactly if the grammar derives the text with these components, and no text has
derivations with different components. -/
theorem parse_accepts_exactly_spells (text : String) :
    (∀ components, (∃ s, parse text = .ok s ∧ s.components = components) ↔
      Spells text.toList components) ∧
    ∀ components components', Spells text.toList components → Spells text.toList components' →
      components = components' := by
  refine ⟨fun components => ⟨?_, fun h => ?_⟩, fun _ _ => Spells.unique⟩
  · rintro ⟨s, hs, rfl⟩
    exact parse_eq_ok_iff_spells.mp hs
  · have ne := ((parsePieces_pieces_iff text).mpr h).2
    obtain ⟨root, steps, rfl⟩ := List.exists_cons_of_ne_nil ne
    exact ⟨{ root, steps }, parse_eq_ok_iff_spells.mpr h, rfl⟩

/-- A text with needless separators, a zero before a position and a separator in a literal has a
derivation, and no other components than those of the derivation. -/
theorem parse_accepts_exactly_spells_loose :
    Spells "//a[01]/b[@c='/']//@d/".toList
        [{ name := "a", predicate := some (.position 1) },
          { name := "b", predicate := some (.attributeIs "c" "/") }, { name := "@d" }] ∧
      ∀ components, Spells "//a[01]/b[@c='/']//@d/".toList components →
        components = [{ name := "a", predicate := some (.position 1) },
          { name := "b", predicate := some (.attributeIs "c" "/") }, { name := "@d" }] := by
  obtain ⟨hiff, hunique⟩ := parse_accepts_exactly_spells "//a[01]/b[@c='/']//@d/"
  have h := (hiff _).mp
    ⟨{ root := { name := "a", predicate := some (.position 1) },
       steps := [{ name := "b", predicate := some (.attributeIs "c" "/") }, { name := "@d" }] },
      by decide +kernel, rfl⟩
  exact ⟨h, fun components h' => hunique components _ h' h⟩

end ManifestPatch.Selector
