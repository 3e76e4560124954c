import ManifestPatch.Proofs.Selector.Reading
import ManifestPatch.Proofs.Selector.WellFormed

/-!
# Selectors Written and Read Again

Different texts may spell one selector: separators may be doubled, positions may have leading
zeros, the `@` of a comparison may be missing and its literal may stand in either quotes or in
none. Writing picks one of these texts. This module shows that the choice is faithful: what is
written for a selector that was read is read as the same selector, so that the text, as well as
the JSON form, determines the selector.

## Main results

* `SpellsPath.exists_render`: what is written for the components of a derivation has a derivation
  with the same components.
* `parse_render_of_parse`: what is written for a selector that was read is read as that selector.
* `render_canonical_injective`: the form that is written is canonical, and no two selectors that
  were read share it.
* `wellFormed_of_parse`: every component of a selector that was read is well formed.
* `component_reads_back_iff`: a component reads back exactly if it is well formed.
-/

namespace ManifestPatch.Selector

/-- A selector is written as its components, each after a separator. -/
theorem toList_render (s : Selector) :
    s.render.toList = s.components.flatMap fun c => '/' :: c.render.toList := by
  rw [Selector.render, String.toList_join, List.flatMap_map]
  simp

/-- What is written for the components of a derivation has a derivation again, which spells the
same components. -/
theorem SpellsPath.exists_render {text : List Char} {components : List Component}
    (h : SpellsPath text components) :
    ∃ rest, components.flatMap (fun c => '/' :: c.render.toList) = '/' :: rest ∧
      SpellsPath rest components := by
  induction h with
  | @last piece component h trailing =>
      have key := SpellsPath.last h.wellFormed.spellsLast 0
      rw [List.replicate_zero, List.append_nil] at key
      exact ⟨component.render.toList, by simp, key⟩
  | @step piece rest component others h more hr ih =>
      obtain ⟨written, hw, hspells⟩ := ih
      have hc : SpellsElement component.render.toList component := by
        rw [spellsElement_iff]
        exact ⟨(SpellsLast.ofElement h).wellFormed.spellsLast, h.isAttribute_eq_false⟩
      refine ⟨component.render.toList ++ List.replicate 1 '/' ++ written, ?_,
        SpellsPath.step hc 0 hspells⟩
      rw [List.flatMap_cons, hw]
      simp

/-- If some text spells components, what is written for them does. -/
theorem Spells.spells_render {text : List Char} {s : Selector} (h : Spells text s.components) :
    Spells s.render.toList s.components := by
  obtain ⟨leading, hpath⟩ := h
  obtain ⟨rest, hrest, hspells⟩ := hpath.exists_render
  rw [toList_render, hrest]
  exact Spells.intro 1 hspells

/-- What is written for a selector that was read is read as that selector. -/
theorem parse_render_of_parse {text : String} {s : Selector} (h : parse text = .ok s) :
    parse s.render = .ok s :=
  parse_eq_ok_iff_spells.mpr (parse_eq_ok_iff_spells.mp h).spells_render

/-- Two selectors that were read and are written alike are equal. -/
theorem eq_of_render_eq {text text' : String} {s s' : Selector} (h : parse text = .ok s)
    (h' : parse text' = .ok s') (he : s.render = s'.render) : s = s' := by
  have hs := parse_render_of_parse h
  rw [he, parse_render_of_parse h'] at hs
  exact (Except.ok.inj hs).symm

/-- **Writing and reading are inverse on all selectors that are read from texts.** For a selector
read from any text, what is written is read as the same selector; so the written form is
canonical, as reading and writing it again changes nothing, and it is injective, as a selector
read from any other text has another written form and another JSON form. -/
theorem render_canonical_injective {text : String} {s : Selector} (h : parse text = .ok s) :
    parse s.render = .ok s ∧
      (∀ again, parse s.render = .ok again → again.render = s.render) ∧
      (∀ text' s', parse text' = .ok s' →
        (s'.render = s.render → s' = s) ∧ (s'.toJson = s.toJson → s' = s)) := by
  have hs := parse_render_of_parse h
  refine ⟨hs, fun again ha => ?_, fun text' s' h' => ⟨fun he => ?_, fun he => ?_⟩⟩
  · rw [hs] at ha
    rw [Except.ok.inj ha]
  · exact eq_of_render_eq h' h he
  · exact eq_of_render_eq h' h (Json.string.inj he)

/-- A text with needless separators and zeros, without `@` in a comparison and with a value that
needs single quotes is written in the canonical form. -/
theorem render_canonical_injective_loose :
    ∃ s, parse "//MPD/Period[007]/a[b='x\"/]']//@lang/" = .ok s ∧
      s.render = "/MPD/Period[7]/a[@b='x\"/]']/@lang" ∧
      parse s.render = .ok s ∧
      (∀ again, parse s.render = .ok again → again.render = s.render) ∧
      (∀ text' s', parse text' = .ok s' →
        (s'.render = s.render → s' = s) ∧ (s'.toJson = s.toJson → s' = s)) := by
  have h : parse "//MPD/Period[007]/a[b='x\"/]']//@lang/" = .ok
      { root := { name := "MPD" },
        steps := [{ name := "Period", predicate := some (.position 7) },
          { name := "a", predicate := some (.attributeIs "b" "x\"/]") }, { name := "@lang" }] } := by
    decide +kernel
  exact ⟨_, h, by decide +kernel, render_canonical_injective h⟩

/-! ### Components by themselves -/

/-- Every component that a text spells is well formed. -/
theorem SpellsPath.wellFormed {text : List Char} {components : List Component}
    (h : SpellsPath text components) : ∀ c ∈ components, c.WellFormed := by
  induction h with
  | last h trailing => exact List.forall_mem_singleton.mpr h.wellFormed
  | step h more _ ih =>
      exact List.forall_mem_cons.mpr ⟨(SpellsLast.ofElement h).wellFormed, ih⟩

theorem Spells.wellFormed {text : List Char} {components : List Component}
    (h : Spells text components) : ∀ c ∈ components, c.WellFormed := by
  obtain ⟨leading, hpath⟩ := h
  exact hpath.wellFormed

/-- Every component of a selector that was read is well formed. -/
theorem wellFormed_of_parse {text : String} {s : Selector} (h : parse text = .ok s) :
    ∀ c ∈ s.components, c.WellFormed :=
  (parse_eq_ok_iff_spells.mp h).wellFormed

/-- A well-formed component, written by itself, is read as the selector of that component. -/
theorem parse_render_of_wellFormed {c : Component} (h : c.WellFormed) :
    parse c.render = .ok { root := c } := by
  rw [parse_eq_ok_iff_spells]
  have hspells := Spells.intro 0 (SpellsPath.last h.spellsLast 0)
  rwa [List.replicate_zero, List.nil_append, List.append_nil] at hspells

/-- **The components whose written form is safe are the well-formed ones.** A component with any
name and any predicate, written by itself, is read as exactly that component if and only if its name
is `@` and a name and it has no predicate, or its name is a name and its predicate, if it has one,
is a position from one on or compares an attribute that has a name with a value that does not hold
both quotes. All components of all selectors that are read are of this form. -/
theorem component_reads_back_iff :
    (∀ c : Component, (∃ s, parse c.render = .ok s ∧ s.components = [c]) ↔ c.WellFormed) ∧
      ∀ text s, parse text = .ok s → ∀ c ∈ s.components, c.WellFormed := by
  refine ⟨fun c => ⟨?_, fun h => ?_⟩, fun text s h => wellFormed_of_parse h⟩
  · rintro ⟨s, hs, hcomponents⟩
    refine wellFormed_of_parse hs c ?_
    rw [hcomponents]
    exact List.mem_singleton_self c
  · exact ⟨_, parse_render_of_wellFormed h, rfl⟩

/-- A value with brackets, a separator and one quote reads back. One with both quotes can close its
literal and its bracket and read as two components, none of them the one that was written. -/
theorem component_reads_back_iff_quotes :
    (∃ s, parse "a[@b=\"']/[=\"]" = .ok s ∧
      s.components = [{ name := "a", predicate := some (.attributeIs "b" "']/[=") }]) ∧
      Component.render { name := "a", predicate := some (.attributeIs "b" "\"']/c[@d='e") } =
        "a[@b='\"']/c[@d='e']" ∧
      (¬ ∃ s, parse "a[@b='\"']/c[@d='e']" = .ok s ∧
        s.components = [{ name := "a", predicate := some (.attributeIs "b" "\"']/c[@d='e") }]) ∧
      parse "a[@b='\"']/c[@d='e']" = .ok
        { root := { name := "a", predicate := some (.attributeIs "b" "\"") },
          steps := [{ name := "c", predicate := some (.attributeIs "d" "e") }] } ∧
      Component.WellFormed { name := "c", predicate := some (.attributeIs "d" "e") } := by
  obtain ⟨hiff, hwellFormed⟩ := component_reads_back_iff
  have hrender : Component.render
      { name := "a", predicate := some (.attributeIs "b" "\"']/c[@d='e") } =
      "a[@b='\"']/c[@d='e']" := by
    decide +kernel
  have htwo : parse "a[@b='\"']/c[@d='e']" = .ok
      { root := { name := "a", predicate := some (.attributeIs "b" "\"") },
        steps := [{ name := "c", predicate := some (.attributeIs "d" "e") }] } := by
    decide +kernel
  refine ⟨?_, hrender, ?_, htwo, hwellFormed _ _ htwo _ (by simp [components])⟩
  · have hname : ∀ name : String, isName name.toList = true → SpellsName name.toList :=
      fun name h => isName_iff_spellsName.mp h
    have h := (hiff { name := "a", predicate := some (.attributeIs "b" "']/[=") }).mpr
      (.ofElement (hname "a" (by decide)) (by
        rintro p ⟨⟩
        exact .attributeIs (hname "b" (by decide)) (by decide)))
    rwa [show Component.render { name := "a", predicate := some (.attributeIs "b" "']/[=") } =
      "a[@b=\"']/[=\"]" by decide +kernel] at h
  · rw [← hrender, hiff]
    intro h
    generalize hc : Component.mk "a" (some (.attributeIs "b" "\"']/c[@d='e")) = c at h
    cases h with
    | ofElement hn hp =>
        cases hp _ (Component.mk.inj hc).2.symm with
        | attributeIs hn hv => exact hv (by decide)
    | ofAttribute hn => exact absurd (Component.mk.inj hc).2 nofun

end ManifestPatch.Selector
