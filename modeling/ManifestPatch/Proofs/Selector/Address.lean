import ManifestPatch.Proofs.Selector.Resolution
import ManifestPatch.Proofs.Selector.RoundTrip

/-!
# Addresses by Position

Every element of a manifest has an **address**: the text of a selector that goes down to it one
child at a time, by the name of the child and its position among the children of that name. An
address needs names that selectors can spell, and positions that a selector can hold. Such an
address is read as a selector, which leads to the element that it was made for and to no other, so
different elements have different addresses; and whatever other selector leads to an element, its
address leads there too.

## Main definitions

* `Element.address`: the address of the element at a path.
* `Element.Along`: a condition holds at every step of a path.
* `Element.FewSiblings`, `Element.Addressable`: the positions, and also the names, that an address
  needs.

## Main results

* `Selector.parse_render_of_spellsElement`: what is written for pieces that mean elements is read
  as they are.
* `Selector.exists_selector_of_addressable`: an address is the text of a selector that matches the
  path.
* `Selector.address_unique`: addresses lead to their elements, and to every element that some
  selector leads to.
-/

namespace ManifestPatch

open Selector

/-! ### Addresses -/

namespace Element

/-- How many of the children before an index have the name of a child. -/
def earlierSiblings (parent child : Element) (i : Nat) : Nat :=
  (parent.children.take i).countP fun sibling => sibling.name == child.name

/-- The steps of an address, from an element down: for every step a separator, the name of the
child, and in brackets its position among the children of that name, counted from one. -/
def addressSteps (e : Element) : List Nat → String
  | [] => ""
  | i :: path =>
    match e.children[i]? with
    | none => ""
    | some child =>
      "/" ++ child.name ++ "[" ++ toString (e.earlierSiblings child i + 1) ++ "]"
        ++ child.addressSteps path

/-- The **address** of the element at a path, with a name for the root, which may be any. -/
def address (root : Element) (rootName : String) (path : List Nat) : String :=
  "/" ++ rootName ++ root.addressSteps path

/-- A path leads to an element, and at each of its steps a condition holds of the parent, the child
and the index of the child. -/
inductive Along (holds : Element → Element → Nat → Prop) : Element → List Nat → Prop
  | nil (e : Element) : Along holds e []
  | cons {e child : Element} {i : Nat} {path : List Nat} (at_index : e.children[i]? = some child)
      (here : holds e child i) (below : Along holds child path) : Along holds e (i :: path)

/-- Along a path, the position of every child is one that a selector can hold. -/
def FewSiblings (root : Element) (path : List Nat) : Prop :=
  root.Along (fun parent child i => parent.earlierSiblings child i < UInt64.size - 1) path

/-- Along a path, every child has a name that a selector can spell, and a position that it can
hold. -/
def Addressable (root : Element) (path : List Nat) : Prop :=
  root.Along (fun parent child i => isName child.name.toList = true ∧
    parent.earlierSiblings child i < UInt64.size - 1) path

end Element

open Element

/-! ### Pieces that mean elements -/

namespace Selector

/-- A name is written as a piece that means elements of that name. -/
theorem spellsElement_name {name : String} (hn : SpellsName name.toList) :
    SpellsElement ({ name } : Component).render.toList { name } := by
  simpa [Component.render] using SpellsElement.plain hn

/-- A name and a position are written as a piece that means the element at that position. -/
theorem spellsElement_position {name : String} {ordinal : UInt64} (hn : SpellsName name.toList)
    (h : 1 ≤ ordinal.toNat) :
    SpellsElement
      ({ name, predicate := some (.position ordinal) } : Component).render.toList
      { name, predicate := some (.position ordinal) } := by
  have hpiece := SpellsElement.qualified hn (Predicate.spellsPredicate_toDigits h)
  simpa [Component.render, Predicate.render] using hpiece

/-- Pieces that mean elements, each after a separator, spell their components. The induction is on
the pieces after the first. -/
theorem exists_spellsPath_of_spellsElement {first : Component} {others : List Component}
    (hfirst : SpellsElement first.render.toList first)
    (hothers : ∀ c ∈ others, SpellsElement c.render.toList c) :
    ∃ rest, (first :: others).flatMap (fun c => '/' :: c.render.toList) = '/' :: rest ∧
      SpellsPath rest (first :: others) := by
  induction others generalizing first with
  | nil =>
      have hpath := SpellsPath.last (SpellsLast.ofElement hfirst) 0
      rw [List.replicate_zero, List.append_nil] at hpath
      exact ⟨first.render.toList, by simp, hpath⟩
  | cons second others ih =>
      rw [List.forall_mem_cons] at hothers
      obtain ⟨rest, hrest, hpath⟩ := ih hothers.1 hothers.2
      refine ⟨first.render.toList ++ List.replicate 1 '/' ++ rest, ?_,
        SpellsPath.step hfirst 0 hpath⟩
      rw [List.flatMap_cons, hrest]
      simp

/-- **A selector whose components are written as pieces that mean them** is read from what is
written for it. -/
theorem parse_render_of_spellsElement {s : Selector}
    (h : ∀ c ∈ s.components, SpellsElement c.render.toList c) : parse s.render = .ok s := by
  rw [components, List.forall_mem_cons] at h
  obtain ⟨rest, hrest, hpath⟩ := exists_spellsPath_of_spellsElement h.1 h.2
  rw [parse_eq_ok_iff_spells, toList_render, components, hrest]
  exact Spells.intro 1 hpath

/-- All components of a text have names, if the last one means no attribute. -/
theorem SpellsPath.spellsName {text : List Char} {components : List Component}
    (h : SpellsPath text components)
    (hlast : ∀ c, components.getLast? = some c → c.isAttribute = false) :
    ∀ c ∈ components, SpellsName c.name.toList := by
  have hname : ∀ {piece : List Char} {c : Component}, SpellsElement piece c →
      SpellsName c.name.toList := by
    rintro piece c (hn | ⟨hn, -⟩)
    · exact hn
    · exact hn
  induction h with
  | @last piece component hpiece trailing =>
      rw [List.forall_mem_singleton]
      exact hname (spellsElement_iff.mpr ⟨hpiece, hlast component rfl⟩)
  | @step piece rest component others hpiece more hr ih =>
      rw [List.forall_mem_cons]
      refine ⟨hname hpiece, ih fun c hc => hlast c ?_⟩
      rw [List.getLast?_cons, hc, Option.getD_some]

/-- All components of a text for a selector that addresses an element have names. -/
theorem Spells.spellsName {text : List Char} {s : Selector} (h : Spells text s.components)
    (he : s.targetsAttribute = false) : ∀ c ∈ s.components, SpellsName c.name.toList := by
  obtain ⟨leading, hpath⟩ := h
  refine hpath.spellsName fun c hc => ?_
  rw [s.getLast?_components, Option.some.injEq] at hc
  rw [← hc]
  exact he

/-! ### From addresses to selectors -/

/-- A position that a selector can hold is held as it is. -/
theorem toNat_ofNat_position {earlier : Nat} (h : earlier < UInt64.size - 1) :
    (UInt64.ofNat (earlier + 1)).toNat = earlier + 1 :=
  UInt64.toNat_ofNat_of_lt' (by omega)

/-- A child is picked by its name and its position. -/
theorem picks_position {parent child : Element} {i : Nat}
    (hi : parent.children[i]? = some child)
    (hfew : parent.earlierSiblings child i < UInt64.size - 1) :
    Component.Picks
      { name := child.name,
        predicate := some (.position (.ofNat (parent.earlierSiblings child i + 1))) }
      parent i child where
  at_index := hi
  name_eq := rfl
  first := (toNat_ofNat_position hfew).symm

/-- The steps of an address are written for components that match the path. The induction is on the
path. -/
theorem exists_steps_of_addressable {e : Element} {path : List Nat} (h : e.Addressable path) :
    ∃ steps : List Component, Matches steps e path ∧
      (∀ c ∈ steps, SpellsElement c.render.toList c) ∧
      e.addressSteps path = String.join (steps.map fun c => "/" ++ c.render) := by
  induction h with
  | nil e => exact ⟨[], Matches.nil e, by simp, rfl⟩
  | @cons e child i path hi hhere _ ih =>
      obtain ⟨hname, hfew⟩ := hhere
      obtain ⟨steps, hmatches, hspells, htext⟩ := ih
      have hordinal := toNat_ofNat_position hfew
      refine ⟨{ name := child.name,
                predicate := some (.position (.ofNat (e.earlierSiblings child i + 1))) } :: steps,
        Matches.cons (picks_position hi hfew) hmatches, ?_, ?_⟩
      · refine List.forall_mem_cons.mpr ⟨?_, hspells⟩
        exact spellsElement_position (isName_iff_spellsName.mp hname) (by omega)
      · rw [addressSteps, hi]
        simp only [htext, List.map_cons, String.join_cons, Component.render, Predicate.render,
          Option.elim_some, hordinal, String.append_assoc]

/-- **An address is the text of a selector** that addresses an element, and whose steps match the
path. -/
theorem exists_selector_of_addressable {root : Element} {name : String}
    (hname : isName name.toList = true) {path : List Nat} (h : root.Addressable path) :
    ∃ s, parse (root.address name path) = .ok s ∧ s.targetsAttribute = false ∧
      Matches s.elementSteps root path := by
  obtain ⟨steps, hmatches, hspells, htext⟩ := exists_steps_of_addressable h
  have hcomponents : ∀ c ∈ components { root := { name }, steps },
      SpellsElement c.render.toList c :=
    List.forall_mem_cons.mpr
      ⟨spellsElement_name (isName_iff_spellsName.mp hname), hspells⟩
  have helement : targetsAttribute { root := { name }, steps } = false :=
    (hcomponents _ (List.mem_of_getLast? (getLast?_components _))).isAttribute_eq_false
  refine ⟨{ root := { name }, steps }, ?_, helement, ?_⟩
  · rw [← parse_render_of_spellsElement hcomponents, address, htext]
    simp [render, components, Component.render]
  · rw [elementSteps, helement]
    exact hmatches

/-- A path that named components match is addressable, if its positions can be held. -/
theorem addressable_of_matches {components : List Component} {e : Element} {path : List Nat}
    (hm : Matches components e path) (hnames : ∀ c ∈ components, SpellsName c.name.toList)
    (hfew : e.FewSiblings path) : e.Addressable path := by
  induction hm with
  | nil e => exact Along.nil e
  | cons hpicks _ ih =>
      rw [List.forall_mem_cons] at hnames
      cases hfew with
      | cons hi hhere hbelow =>
          obtain rfl := Option.some.inj (hpicks.at_index.symm.trans hi)
          refine Along.cons hi ⟨?_, hhere⟩ (ih hnames.2 hbelow)
          rw [isName_iff_spellsName, hpicks.name_eq]
          exact hnames.1

/-! ### Where addresses lead -/

/-- Places in a tree with the same path are the same. -/
theorem place_eq_of_path_eq {root : Element} {place place' : Place} (h : place.In root)
    (h' : place'.In root) (hpath : place.path = place'.path) : place = place' := by
  obtain ⟨path, element⟩ := place
  obtain ⟨path', element'⟩ := place'
  obtain rfl : path = path' := hpath
  obtain rfl : element = element' := Option.some.inj (h.symm.trans h')
  rfl

/-- Two selectors that address elements, and lead to the same path, have the same leaf and the same
target. -/
theorem Denotes.places_eq {s s' : Selector} {root : Element} {sibling : Bool} {t t' : Target}
    (h : s.Denotes root sibling t) (h' : s'.Denotes root sibling t')
    (he : s.targetsAttribute = false) (he' : s'.targetsAttribute = false)
    (hpath : t'.leaf.path = t.leaf.path) : t'.leaf = t.leaf ∧ t'.target = t.target := by
  have hleaf : t'.leaf = t.leaf := place_eq_of_path_eq h'.leaf_in h.leaf_in hpath
  refine ⟨hleaf, ?_⟩
  cases sibling with
  | false => rw [h.in_place he rfl, h'.in_place he' rfl, hleaf]
  | true =>
      obtain ⟨-, htarget, hin⟩ := h.at_parent he rfl
      obtain ⟨-, htarget', hin'⟩ := h'.at_parent he' rfl
      exact place_eq_of_path_eq hin' hin (by rw [htarget, htarget', hpath])

/-- A selector that addresses an element, and matches a path, resolves to the element at that path.
If siblings are meant, the path must not be that of the root. -/
theorem exists_denotes_of_matches {s : Selector} {root : Element} {path : List Nat}
    (he : s.targetsAttribute = false) (hm : Matches s.elementSteps root path) (sibling : Bool)
    (hne : sibling = true → path ≠ []) :
    ∃ t, s.resolve root sibling = .ok t ∧ s.Denotes root sibling t ∧ t.leaf.path = path := by
  have hroot : ¬ (sibling = true ∧ s.targetsElement = true ∧ s.steps = []) := by
    rintro ⟨hsibling, -, hnil⟩
    exact (path_ne_nil_iff he hm).mp (hne hsibling) hnil
  obtain ⟨t, ht⟩ := exists_resolve_of_matches hm hroot
  have hden := denotes_of_resolve ht
  exact ⟨t, ht, hden, hden.leaf_matches.unique hm⟩

/-- Different paths have different addresses. -/
theorem path_eq_of_address_eq {root : Element} {name : String} (hname : isName name.toList = true)
    {path path' : List Nat} (h : root.Addressable path) (h' : root.Addressable path')
    (haddress : root.address name path = root.address name path') : path = path' := by
  obtain ⟨s, hs, -, hm⟩ := exists_selector_of_addressable hname h
  obtain ⟨s', hs', -, hm'⟩ := exists_selector_of_addressable hname h'
  rw [haddress, hs'] at hs
  obtain rfl : s' = s := Except.ok.inj hs
  exact hm.unique hm'

/-- **Every element is addressable, and its address is its own.** Let the root go by any name that
a selector can spell. The address of a path whose names and positions a selector can hold is read
as a selector. It resolves to exactly the element at the path, in place, and, below the root, with
the parent of that element as the target if siblings are meant. No two such paths have the same
address. And where any selector that was read, and addresses an element, resolves to a path whose
positions a selector can hold, the address of that path resolves to the same leaf and the same
target. -/
theorem address_unique (root : Element) {name : String} (hname : isName name.toList = true) :
    (∀ path, root.Addressable path →
      ∃ s leaf, parse (root.address name path) = .ok s ∧ leaf.path = path ∧ leaf.In root ∧
        (∃ t, s.resolve root false = .ok t ∧ t.isAttribute = false ∧ t.leaf = leaf ∧
          t.target = leaf) ∧
        (path ≠ [] →
          ∃ t, s.resolve root true = .ok t ∧ t.isAttribute = false ∧ t.leaf = leaf ∧
            t.target.path = path.dropLast ∧ t.target.In root)) ∧
    (∀ path path', root.Addressable path → root.Addressable path' →
      root.address name path = root.address name path' → path = path') ∧
    (∀ text s sibling t, parse text = .ok s → s.targetsElement = true →
      s.resolve root sibling = .ok t → root.FewSiblings t.leaf.path →
      ∃ s' t', parse (root.address name t.leaf.path) = .ok s' ∧
        s'.resolve root sibling = .ok t' ∧ t'.leaf = t.leaf ∧ t'.target = t.target) := by
  refine ⟨fun path h => ?_, fun path path' => path_eq_of_address_eq hname,
    fun text s sibling t hs he ht hfew => ?_⟩
  · obtain ⟨s, hs, he, hm⟩ := exists_selector_of_addressable hname h
    obtain ⟨t, ht, hden, rfl⟩ := exists_denotes_of_matches he hm false (by simp)
    refine ⟨s, t.leaf, hs, rfl, hden.leaf_in,
      ⟨t, ht, (hden.of_element he).1, rfl, hden.in_place he rfl⟩, fun hne => ?_⟩
    obtain ⟨t', ht', hden', hpath⟩ := exists_denotes_of_matches he hm true fun _ => hne
    obtain ⟨-, htarget, hin⟩ := hden'.at_parent he rfl
    refine ⟨t', ht', (hden'.of_element he).1, ?_, by rw [htarget, hpath], hin⟩
    exact place_eq_of_path_eq hden'.leaf_in hden.leaf_in hpath
  · have he : s.targetsAttribute = false := by simpa [targetsElement] using he
    have hden := denotes_of_resolve ht
    have hm := hden.leaf_matches
    have hnames : ∀ c ∈ s.elementSteps, SpellsName c.name.toList := by
      rw [elementSteps, he]
      exact fun c hc =>
        (parse_eq_ok_iff_spells.mp hs).spellsName he c (List.mem_cons_of_mem _ hc)
    obtain ⟨s', hs', he', hm'⟩ :=
      exists_selector_of_addressable hname (addressable_of_matches hm hnames hfew)
    have hne : sibling = true → t.leaf.path ≠ [] := by
      rintro rfl
      exact (hden.at_parent he rfl).1
    obtain ⟨t', ht', hden', hpath⟩ := exists_denotes_of_matches he' hm' sibling hne
    exact ⟨s', t', hs', ht', hden.places_eq hden' he he' hpath⟩

/-- Of two children of a name, with another one between them, the second has a child. That child
has an address, which leads to it, and to where a selector by an attribute leads. -/
theorem address_unique_second :
    ∃ root : Element, root = { name := "R", children := [{ name := "a" }, { name := "b" },
        { name := "a", attributes := [("k", "1")], children := [{ name := "c" }] }] } ∧
      isName "MPD".toList = true ∧ root.Addressable [2, 0] ∧ root.FewSiblings [2, 0] ∧
      root.address "MPD" [2, 0] = "/MPD/a[2]/c[1]" ∧
      (∃ s t, parse "/MPD/a[2]/c[1]" = .ok s ∧ s.resolve root true = .ok t ∧
        t.leaf.path = [2, 0] ∧ t.leaf.In root ∧ t.target.path = [2]) ∧
      ∃ s s' t t', parse "/x/a[@k='1']/c" = .ok s ∧ s.resolve root false = .ok t ∧
        parse "/MPD/a[2]/c[1]" = .ok s' ∧ s'.resolve root false = .ok t' ∧ t'.leaf = t.leaf := by
  have hname : isName "MPD".toList = true := by decide +kernel
  obtain ⟨root, hroot⟩ : ∃ root : Element, root = { name := "R", children := [{ name := "a" },
      { name := "b" },
      { name := "a", attributes := [("k", "1")], children := [{ name := "c" }] }] } :=
    ⟨_, rfl⟩
  have hpath : root.Addressable [2, 0] := by
    rw [hroot]
    exact .cons rfl (by decide +kernel) (.cons rfl (by decide +kernel) (.nil _))
  have hfew : root.FewSiblings [2, 0] := by
    rw [hroot]
    exact .cons rfl (by decide +kernel) (.cons rfl (by decide +kernel) (.nil _))
  have htext : root.address "MPD" [2, 0] = "/MPD/a[2]/c[1]" := by
    rw [hroot]
    decide +kernel
  have hother : parse "/x/a[@k='1']/c" = .ok
      { root := { name := "x" },
        steps := [{ name := "a", predicate := some (.attributeIs "k" "1") },
          { name := "c" }] } := by
    decide +kernel
  obtain ⟨there, hthere, hat⟩ : ∃ t, resolve
      { root := { name := "x" },
        steps := [{ name := "a", predicate := some (.attributeIs "k" "1") }, { name := "c" }] }
      root false = .ok t ∧ t.leaf.path = [2, 0] := by
    rw [hroot]
    exact ⟨_, rfl, rfl⟩
  obtain ⟨haddress, -, hlead⟩ := address_unique root hname
  obtain ⟨s, leaf, hs, hleaf, hin, -, hparent⟩ := haddress [2, 0] hpath
  obtain ⟨t, ht, -, rfl, htarget, -⟩ := hparent (by simp)
  obtain ⟨s', t', hs', ht', hleaf', -⟩ :=
    hlead _ _ false _ hother (by decide +kernel) hthere (hat ▸ hfew)
  rw [htext] at hs
  rw [hat, htext] at hs'
  exact ⟨root, hroot, hname, hpath, hfew, htext, ⟨s, t, hs, ht, hleaf, hin, htarget⟩,
    _, s', there, t', hother, hthere, hs', ht', hleaf'⟩

end Selector

end ManifestPatch
