import ManifestPatch.Proofs.Pointwise
import ManifestPatch.Proofs.Selector.Separators

/-!
# The First Offence in a Text

A text that is no selector is refused for one of its pieces: the first that spells no component, or
that spells an attribute and is not the last. This module shows that the error says just that. The
piece is in it as it stands in the text, the fault is the one that the piece has alone, and nothing
behind the piece matters except whether there is anything. The induction is on the pieces; a piece
that means an element is passed over, and every other one ends the reading.

## Main definitions

* `Refused`: why a piece is refused, and the error for it.
* `SelectorError.within`: the same error in another text.

## Main results

* `first_piece_cases`: what a first piece can be.
* `parsePieces_append`: pieces that mean elements are passed over.
* `parsePieces_eq_error_iff`: pieces are refused exactly for the first that is.
* `parse_eq_error_iff`: a text is refused if it has no pieces, or for its first offence.
* `parse_names_first_offence`: what the error of a text says.
-/

namespace ManifestPatch

/-- The same error **within** another text: only the text that it names is another one. -/
def SelectorError.within (text : String) : SelectorError → SelectorError
  | .empty _ => .empty text
  | .malformed _ component fault => .malformed text component fault
  | .attributeNotLast _ component => .attributeNotLast text component

namespace Selector

variable {text : String} {piece : List Char} {ps before after : List (List Char)}
  {component : Component} {components : List Component} {e : SelectorError}

/-! ### What a first piece can be -/

/-- A piece is **refused** with an error: it spells no component, or it is an attribute and others
come after it. -/
inductive Refused (text : String) (piece : List Char) (after : List (List Char)) :
    SelectorError → Prop
  | malformed {fault : Fault} (h : parseComponent piece = .error fault) :
      Refused text piece after (.malformed text (.ofList piece) fault)
  | attributeNotLast {name : String} (hn : SpellsName name.toList)
      (hpiece : piece = '@' :: name.toList) (hafter : after ≠ []) :
      Refused text piece after (.attributeNotLast text (.ofList piece))

/-- What is named with an `@` is an attribute. -/
theorem isAttribute_at (name : String) : Component.isAttribute { name := "@" ++ name } = true := by
  rw [Component.isAttribute, Component.attributeName?_eq_some_iff.mpr rfl, Option.isSome_some]

/-- **What a first piece can be**: it means an element, or it is an attribute that nothing comes
after, or it is refused. -/
theorem first_piece_cases (text : String) (piece : List Char) (after : List (List Char)) :
    (∃ c, SpellsElement piece c) ∨
      (∃ name : String, SpellsName name.toList ∧ piece = '@' :: name.toList ∧ after = []) ∨
      ∃ e, Refused text piece after e := by
  cases hc : parseComponent piece with
  | error fault => exact .inr (.inr ⟨_, .malformed hc⟩)
  | ok component =>
      cases parseComponent_eq_ok_iff.mp hc with
      | ofElement h => exact .inl ⟨component, h⟩
      | ofAttribute hn =>
          by_cases hafter : after = []
          · exact .inr (.inl ⟨_, hn, rfl, hafter⟩)
          · exact .inr (.inr ⟨_, .attributeNotLast hn rfl hafter⟩)

/-- A first piece that means an element is passed over. -/
theorem SpellsElement.parsePieces_cons (h : SpellsElement piece component) :
    parsePieces text (piece :: ps) = (component :: ·) <$> parsePieces text ps := by
  rw [parsePieces, h.parseComponent_eq]
  simp only [h.isAttribute_eq_false, Bool.false_and, Bool.false_eq_true, if_false]

/-- An attribute that nothing comes after is accepted. -/
theorem SpellsName.parsePieces_attribute {name : String} (hn : SpellsName name.toList) :
    parsePieces text ['@' :: name.toList] = .ok [{ name := "@" ++ name }] := by
  rw [parsePieces, (SpellsLast.ofAttribute hn).parseComponent_eq]
  simp only [List.isEmpty_nil, Bool.not_true, Bool.and_false, Bool.false_eq_true, if_false]
  rfl

/-- A first piece that is refused ends the reading. -/
theorem Refused.parsePieces_cons (h : Refused text piece after e) :
    parsePieces text (piece :: after) = .error e := by
  cases h with
  | malformed h => rw [parsePieces, h]
  | attributeNotLast hn hpiece hafter =>
      rw [parsePieces, hpiece, (SpellsLast.ofAttribute hn).parseComponent_eq]
      simp only [isAttribute_at, Bool.true_and, Bool.not_eq_true',
        List.isEmpty_eq_false_iff.mpr hafter, if_true]

/-! ### All pieces -/

/-- **Pieces that mean elements are passed over**, whatever comes after them. -/
theorem parsePieces_append (h : List.Forall₂ SpellsElement before components) :
    parsePieces text (before ++ ps) = (components ++ ·) <$> parsePieces text ps := by
  induction h with
  | nil => cases hp : parsePieces text ps <;> simp [hp, Functor.map, Except.map]
  | cons hpiece _ ih =>
      rw [List.cons_append, hpiece.parsePieces_cons, ih]
      cases parsePieces text ps <;> rfl

/-- Pieces that are accepted all mean elements, or all but the last do and that is an attribute. -/
theorem parsePieces_ok_cases (h : parsePieces text ps = .ok components) :
    List.Forall₂ SpellsElement ps components ∨
      ∃ before others, ∃ name : String, List.Forall₂ SpellsElement before others ∧
        SpellsName name.toList ∧ ps = before ++ ['@' :: name.toList] ∧
        components = others ++ [{ name := "@" ++ name }] := by
  induction ps generalizing components with
  | nil =>
      obtain rfl := Except.ok.inj h
      exact .inl .nil
  | cons piece ps ih =>
      obtain ⟨c, helement⟩ | ⟨name, hn, rfl, rfl⟩ | ⟨e, hrefused⟩ := first_piece_cases text piece ps
      · obtain ⟨component, others, hc, -, hrest, rfl⟩ := parsePieces_cons_eq_ok_iff.mp h
        obtain rfl := Except.ok.inj (helement.parseComponent_eq.symm.trans hc)
        rcases ih hrest with hall | ⟨before, init, name, hbefore, hn, rfl, rfl⟩
        · exact .inl (.cons helement hall)
        · exact .inr ⟨piece :: before, c :: init, name, .cons helement hbefore, hn, rfl, rfl⟩
      · obtain rfl := Except.ok.inj (hn.parsePieces_attribute.symm.trans h)
        exact .inr ⟨[], [], name, .nil, hn, rfl, rfl⟩
      · exact absurd (hrefused.parsePieces_cons.symm.trans h) nofun

/-- **Pieces are refused** exactly for the first that is: all before it mean elements. The induction
is on the pieces. -/
theorem parsePieces_eq_error_iff :
    parsePieces text ps = .error e ↔
      ∃ before piece after, ps = before ++ piece :: after ∧
        (∀ p ∈ before, ∃ c, SpellsElement p c) ∧ Refused text piece after e := by
  constructor
  · intro h
    induction ps with
    | nil => simp [parsePieces] at h
    | cons piece ps ih =>
        obtain ⟨c, helement⟩ | ⟨name, hn, rfl, rfl⟩ | ⟨e', hrefused⟩ :=
          first_piece_cases text piece ps
        · have hrest : parsePieces text ps = .error e := by
            rw [helement.parsePieces_cons] at h
            cases hp : parsePieces text ps with
            | ok others => simp [hp, Functor.map, Except.map] at h
            | error e' => simpa [hp, Functor.map, Except.map] using h
          obtain ⟨before, p, after, rfl, hbefore, hrefused⟩ := ih hrest
          exact ⟨piece :: before, p, after, rfl,
            List.forall_mem_cons.mpr ⟨⟨c, helement⟩, hbefore⟩, hrefused⟩
        · simp [hn.parsePieces_attribute] at h
        · rw [hrefused.parsePieces_cons, Except.error.injEq] at h
          exact ⟨[], piece, ps, rfl, List.forall_mem_nil _, h ▸ hrefused⟩
  · rintro ⟨before, piece, after, rfl, hbefore, hrefused⟩
    obtain ⟨components, hcomponents⟩ := exists_forall₂ hbefore
    rw [parsePieces_append hcomponents, hrefused.parsePieces_cons]
    rfl

/-- A text is refused if it has only separators, or for the first of its pieces that is. -/
theorem parse_eq_error_iff :
    parse text = .error e ↔
      OnlySeparators text ∧ e = .empty text ∨
        ∃ before piece after, PiecesOf text (before ++ piece :: after) ∧
          (∀ p ∈ before, ∃ c, SpellsElement p c) ∧ Refused text piece after e := by
  have hpieces : (∃ before piece after, PiecesOf text (before ++ piece :: after) ∧
      (∀ p ∈ before, ∃ c, SpellsElement p c) ∧ Refused text piece after e) ↔
      parsePieces text (pieces text.toList) = .error e := by
    simp only [piecesOf_iff, parsePieces_eq_error_iff]
  rw [hpieces, ← pieces_eq_nil_iff, parse]
  cases hp : pieces text.toList with
  | nil => simp [parsePieces, bind, Except.bind, throw, throwThe, MonadExceptOf.throw, eq_comm]
  | cons piece rest =>
      cases hok : parsePieces text (piece :: rest) with
      | error e' => simp [bind, Except.bind]
      | ok components =>
          obtain ⟨component, others, -, -, -, rfl⟩ := parsePieces_cons_eq_ok_iff.mp hok
          simp [bind, Except.bind, pure, Except.pure]

/-! ### What the error says -/

/-- A piece is refused for the same reason in any other text, whatever comes after it there, if
something does exactly if something did. -/
theorem Refused.within (h : Refused text piece after e) (text' : String)
    {after' : List (List Char)} (hafter : after' = [] ↔ after = []) :
    Refused text' piece after' (e.within text') := by
  cases h with
  | malformed h => exact .malformed h
  | attributeNotLast hn hpiece hne => exact .attributeNotLast hn hpiece (mt hafter.mp hne)

/-- A piece of a text that spells no component has the same fault when it is read alone. -/
theorem parse_ofList_of_piecesOf (h : PiecesOf text ps) (hmem : piece ∈ ps) {fault : Fault}
    (hfault : parseComponent piece = .error fault) :
    parse (.ofList piece) = .error (.malformed (.ofList piece) (.ofList piece) fault) := by
  have halone : PiecesOf (.ofList piece) ([] ++ piece :: []) := by
    rw [piecesOf_iff, String.toList_ofList]
    exact pieces_of_mem_pieces (piecesOf_iff.mp h ▸ hmem)
  exact parse_eq_error_iff.mpr (.inr ⟨[], piece, [], halone, nofun, .malformed hfault⟩)

/-- **The error of a text names its first offence.** It names the text. It is that of an empty
text exactly if there are only separators. Otherwise there is a first piece that is refused, as all
before it mean elements: either it spells no component, and the error has the piece as it stands and
the fault that it has alone, or it is `@` and a name and not the last piece, and the error says so.
Every other text with the same pieces up to this one has the same error, whatever comes after, if
something does in both texts or in neither. -/
theorem parse_names_first_offence (h : parse text = .error e) :
    (e = .empty text ↔ OnlySeparators text) ∧
      (¬ OnlySeparators text →
        ∃ before piece after, PiecesOf text (before ++ piece :: after) ∧
          (∀ ps, PiecesOf text ps → ps = before ++ piece :: after) ∧
          (∀ p ∈ before, ∃ c, SpellsElement p c) ∧
          ((∀ c, ¬ SpellsLast piece c) ∧
              (∃ fault, e = .malformed text (.ofList piece) fault ∧
                parse (.ofList piece) =
                  .error (.malformed (.ofList piece) (.ofList piece) fault)) ∨
            (∃ name : String, SpellsName name.toList ∧ piece = '@' :: name.toList) ∧ after ≠ [] ∧
              e = .attributeNotLast text (.ofList piece)) ∧
          ∀ text' after', PiecesOf text' (before ++ piece :: after') →
            (after' = [] ↔ after = []) → parse text' = .error (e.within text')) := by
  rcases parse_eq_error_iff.mp h with ⟨honly, rfl⟩ | ⟨before, piece, after, hps, hbefore, hrefused⟩
  · exact ⟨iff_of_true rfl honly, fun hnot => absurd honly hnot⟩
  have hnot : ¬ OnlySeparators text := by
    rw [← pieces_eq_nil_iff, piecesOf_iff.mp hps]
    simp
  refine ⟨iff_of_false ?_ hnot, fun _ => ⟨before, piece, after, hps, ?_, hbefore, ?_, ?_⟩⟩
  · rintro rfl
    exact nomatch hrefused
  · intro ps hps'
    rw [← piecesOf_iff.mp hps', piecesOf_iff.mp hps]
  · cases hrefused with
    | malformed hfault =>
        refine .inl ⟨fun c hc => ?_, _, rfl, parse_ofList_of_piecesOf hps (by simp) hfault⟩
        exact absurd (hc.parseComponent_eq.symm.trans hfault) nofun
    | attributeNotLast hn hpiece hafter => exact .inr ⟨⟨_, hn, hpiece⟩, hafter, rfl⟩
  · intro text' after' hps' hafter
    exact parse_eq_error_iff.mpr
      (.inr ⟨before, piece, after', hps', hbefore, hrefused.within text' hafter⟩)

/-- An attribute before a piece with an open bracket, which takes the separator behind it into the
piece: the attribute is the first offence, and it is one before any other last piece. -/
theorem parse_names_first_offence_open :
    parse "/MPD//@id/x[/y" = .error (.attributeNotLast "/MPD//@id/x[/y" "@id") ∧
      PiecesOf "/MPD//@id/x[/y" ["MPD".toList, "@id".toList, "x[/y".toList] ∧
      parse "MPD/@id/Period" = .error (.attributeNotLast "MPD/@id/Period" "@id") := by
  have h : parse "/MPD//@id/x[/y" = .error (.attributeNotLast "/MPD//@id/x[/y" "@id") := by
    decide +kernel
  have hps : PiecesOf "/MPD//@id/x[/y" ["MPD".toList, "@id".toList, "x[/y".toList] :=
    piecesOf_iff.mpr (by decide +kernel)
  refine ⟨h, hps, ?_⟩
  have hnot : ¬ OnlySeparators "/MPD//@id/x[/y" :=
    fun honly => absurd (honly 'M' (by decide)) (by decide)
  obtain ⟨before, piece, after, -, hunique, -, hoffence, hany⟩ :=
    (parse_names_first_offence h).2 hnot
  obtain ⟨-, fault, he, -⟩ | ⟨-, hafter, he⟩ := hoffence
  · exact absurd he nofun
  have hpiece : piece = "@id".toList := by
    rw [(SelectorError.attributeNotLast.inj he).2, String.toList_ofList]
  have hlist := hunique _ hps
  obtain rfl : before = ["MPD".toList] := by
    rcases before with _ | ⟨p, _ | ⟨q, before⟩⟩
    · exact absurd ((List.cons.inj hlist).1.trans hpiece) (by decide)
    · rw [(List.cons.inj hlist).1]
    · have hlength := congrArg List.length hlist
      have hpos := List.length_pos_iff.mpr hafter
      simp only [List.length_cons, List.length_nil, List.length_append] at hlength
      omega
  refine hany _ ["Period".toList] ?_ (by simp [hafter])
  rw [hpiece]
  exact piecesOf_iff.mpr (by decide +kernel)

end Selector

end ManifestPatch
