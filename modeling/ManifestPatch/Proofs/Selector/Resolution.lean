import ManifestPatch.Proofs.Selector.Selection

/-!
# The Meaning of Selectors

A selector is resolved by a walk that keeps the place reached and the one before it, and that
breaks off at a trailing attribute. Its **meaning** is stated without the walk: the components
below the root that name elements have to match a path of child indexes, one by one, and the
element at the end of that path is the leaf. This module shows that resolution succeeds exactly
when there is such a path, that the path is unique, and that the target is read off it.

## Main definitions

* `Selector.elementSteps`: the components below the root that name elements.
* `Matches`: components match a path of child indexes from an element down.
* `Place.descend`: the place that components select one after the other.
* `Selector.Denotes`: the reference meaning of a selector as a target.

## Main results

* `Place.descend_eq_some_iff`: a descent follows the path that matches.
* `Selector.walk_eq_ok_iff`: a walk is a descent, which also knows the place before the last.
* `Selector.resolve_meets_meaning`: resolution and the reference meaning agree.
-/

namespace ManifestPatch

/-! ### The reference meaning -/

/-- Components **match** a path of child indexes from an element down: each picks the child at its
index. -/
inductive Matches : List Component → Element → List Nat → Prop
  | nil (e : Element) : Matches [] e []
  | cons {c : Component} {components : List Component} {e child : Element} {i : Nat}
      {path : List Nat} (h : c.Picks e i child) (hr : Matches components child path) :
      Matches (c :: components) e (i :: path)

/-- The components below the root that name elements: all steps of a selector that addresses an
element, and all but the last of one that addresses an attribute. -/
def Selector.elementSteps (s : Selector) : List Component :=
  if s.targetsAttribute then s.steps.dropLast else s.steps

/-! ### Descending -/

/-- The place that components select one after the other. -/
def Place.descend (place : Place) : List Component → Option Place
  | [] => some place
  | c :: components => (c.select place).bind fun child => child.descend components

/-- A descent follows the path that the components match. -/
theorem Place.descend_eq_some_iff {components : List Component} {place reached : Place} :
    place.descend components = some reached ↔
      ∃ path, Matches components place.element path ∧ reached.path = place.path ++ path ∧
        place.element.at? path = some reached.element := by
  induction components generalizing place with
  | nil =>
      rw [descend, Option.some.injEq]
      constructor
      · rintro rfl
        exact ⟨[], Matches.nil _, by simp, rfl⟩
      · rintro ⟨path, hm, hp, he⟩
        cases hm
        rw [List.append_nil] at hp
        cases place
        cases reached
        simp_all [Element.at?]
  | cons c components ih =>
      rw [descend, Option.bind_eq_some_iff]
      constructor
      · rintro ⟨child, hc, hd⟩
        obtain ⟨i, hpicks, hpath⟩ := Component.select_eq_some_iff.mp hc
        obtain ⟨path, hm, hp, he⟩ := ih.mp hd
        refine ⟨i :: path, Matches.cons hpicks hm, ?_, ?_⟩
        · rw [hp, hpath, List.append_assoc]
          rfl
        · rw [Element.at?, hpicks.at_index]
          exact he
      · rintro ⟨path, hm, hp, he⟩
        cases hm with
        | @cons _ _ _ child i path hpicks hr =>
            rw [Element.at?, hpicks.at_index] at he
            refine ⟨{ path := place.path ++ [i], element := child },
              Component.select_eq_some_iff.mpr ⟨i, hpicks, rfl⟩, ih.mpr ⟨path, hr, ?_, he⟩⟩
            rw [hp, List.append_assoc]
            rfl

/-- A path that components match leads to an element. -/
theorem Matches.exists_at? {components : List Component} {e : Element} {path : List Nat}
    (h : Matches components e path) : ∃ leaf, e.at? path = some leaf := by
  induction h with
  | nil e => exact ⟨e, rfl⟩
  | cons hpicks _ ih =>
      obtain ⟨leaf, hleaf⟩ := ih
      refine ⟨leaf, ?_⟩
      rw [Element.at?, hpicks.at_index]
      exact hleaf

/-- Components match at most one path. -/
theorem Matches.unique {components : List Component} {e : Element} {path path' : List Nat}
    (h : Matches components e path) (h' : Matches components e path') : path = path' := by
  induction h generalizing path' with
  | nil e =>
      cases h'
      rfl
  | cons hpicks _ ih =>
      cases h' with
      | cons hpicks' hr' =>
          obtain ⟨rfl, rfl⟩ := hpicks.unique hpicks'
          rw [ih hr']

/-- Components match as many indexes as they are. -/
theorem Matches.length_eq {components : List Component} {e : Element} {path : List Nat}
    (h : Matches components e path) : path.length = components.length := by
  induction h with
  | nil e => rfl
  | cons _ _ ih => simp [ih]

/-- From the root, a descent reaches the element at the path that the components match. -/
theorem Place.descend_ofRoot_eq_some_iff {components : List Component} {root : Element}
    {reached : Place} :
    (Place.ofRoot root).descend components = some reached ↔
      Matches components root reached.path ∧ reached.In root := by
  rw [Place.descend_eq_some_iff]
  constructor
  · rintro ⟨path, hm, hp, he⟩
    obtain rfl : reached.path = path := hp
    exact ⟨hm, he⟩
  · rintro ⟨hm, he⟩
    exact ⟨reached.path, hm, rfl, he⟩

/-- From the root, a descent reaches a place exactly if the components match a path. -/
theorem Place.exists_descend_ofRoot_iff {components : List Component} {root : Element} :
    (∃ reached, (Place.ofRoot root).descend components = some reached) ↔
      ∃ path, Matches components root path := by
  constructor
  · rintro ⟨reached, h⟩
    exact ⟨reached.path, (Place.descend_ofRoot_eq_some_iff.mp h).1⟩
  · rintro ⟨path, hm⟩
    obtain ⟨leaf, hleaf⟩ := hm.exists_at?
    exact ⟨{ path, element := leaf }, Place.descend_ofRoot_eq_some_iff.mpr ⟨hm, hleaf⟩⟩

/-! ### Walking -/

/-- The steps that a walk takes: all of them, or all but a trailing attribute. -/
def stepsTaken (steps : List Component) : List Component :=
  if steps.getLast?.any Component.isAttribute then steps.dropLast else steps

/-- Of a single step, an attribute is not taken. -/
theorem stepsTaken_singleton (step : Component) :
    stepsTaken [step] = if step.isAttribute then [] else [step] := rfl

/-- Whether the last step is taken does not depend on those before it. -/
theorem stepsTaken_cons_cons (step next : Component) (steps : List Component) :
    stepsTaken (step :: next :: steps) = step :: stepsTaken (next :: steps) := by
  rw [stepsTaken, stepsTaken, List.getLast?_cons_cons]
  split
  · rfl
  · rfl

/-- **A walk is a descent** that also knows the place before the last step. The induction is on
the steps; only the last of them may be an attribute that the walk does not take. -/
theorem Selector.walk_eq_ok_iff {steps : List Component} {level : Nat} {before : Option Place}
    {place reached : Place} {parent : Option Place} :
    walk level before place steps = .ok (parent, reached) ↔
      place.descend (stepsTaken steps) = some reached ∧
        parent = if steps = [] then before else place.descend steps.dropLast := by
  induction steps generalizing level before place with
  | nil =>
      rw [walk, if_pos rfl, show stepsTaken [] = [] from rfl, Place.descend, Except.ok.injEq,
        Prod.mk.injEq, Option.some.injEq, eq_comm (a := before)]
      exact and_comm
  | cons step steps ih =>
      cases steps with
      | nil =>
          rw [walk, stepsTaken_singleton]
          by_cases ha : step.isAttribute = true
          · simp only [ha, List.isEmpty_nil, Bool.and_self, if_true, Except.ok.injEq,
              Prod.mk.injEq, Place.descend, Option.some.injEq, List.dropLast_singleton,
              List.cons_ne_nil, if_false, eq_comm (a := parent)]
            exact and_comm
          · simp only [ha, List.isEmpty_nil, Bool.and_false, Bool.false_eq_true, if_false,
              Place.descend, List.dropLast_singleton, List.cons_ne_nil]
            cases hs : step.select place with
            | none => simp
            | some child =>
                simp only [walk, Except.ok.injEq, Prod.mk.injEq, Option.bind_some,
                  Option.some.injEq, eq_comm (a := parent)]
                exact and_comm
      | cons next rest =>
          rw [walk, if_neg (by simp), if_neg (by simp), stepsTaken_cons_cons,
            List.dropLast_cons_cons, Place.descend, Place.descend]
          cases hs : step.select place with
          | none => simp
          | some child =>
              simp only [Option.bind_some]
              rw [ih, if_neg (by simp)]

/-- Components that match a path match, but for the last, the path to the parent. -/
theorem Matches.dropLast {components : List Component} {e : Element} {path : List Nat}
    (h : Matches components e path) : Matches components.dropLast e path.dropLast := by
  induction h with
  | nil e => exact Matches.nil e
  | @cons c components e child i path hpicks hr ih =>
      cases hr with
      | nil => exact Matches.nil e
      | cons hpicks' hr' => exact Matches.cons hpicks ih

/-! ### Resolving -/

namespace Selector

/-- The **reference meaning** of a selector at a root, as a target. The leaf is the element at the
path that the components match. An attribute goes by its name without `@` and is edited at its
owner, whether or not siblings are meant. An element goes by the name of the last component; it is
edited in place, or, if siblings are meant, at the element one index less far down. -/
structure Denotes (s : Selector) (root : Element) (sibling : Bool) (t : Target) : Prop where
  leaf_matches : Matches s.elementSteps root t.leaf.path
  leaf_in : t.leaf.In root
  of_attribute : s.targetsAttribute = true →
    t.isAttribute = true ∧ s.leaf.name = "@" ++ t.name ∧ t.target = t.leaf
  of_element : s.targetsAttribute = false → t.isAttribute = false ∧ t.name = s.leaf.name
  in_place : s.targetsAttribute = false → sibling = false → t.target = t.leaf
  at_parent : s.targetsAttribute = false → sibling = true →
    t.leaf.path ≠ [] ∧ t.target.path = t.leaf.path.dropLast ∧ t.target.In root

/-- A selector whose last component means an attribute addresses one. -/
theorem targetsAttribute_of_eq_some {s : Selector} {name : String}
    (hs : s.leaf.attributeName? = some name) : s.targetsAttribute = true := by
  rw [targetsAttribute, Component.isAttribute, hs, Option.isSome_some]

/-- A selector whose last component means no attribute addresses none. -/
theorem targetsAttribute_of_eq_none {s : Selector} (hs : s.leaf.attributeName? = none) :
    s.targetsAttribute = false := by
  rw [targetsAttribute, Component.isAttribute, hs, Option.isSome_none]

/-- The walk along a selector's steps takes those that name elements. -/
theorem stepsTaken_steps (s : Selector) : stepsTaken s.steps = s.elementSteps := by
  rw [stepsTaken, elementSteps, targetsAttribute, leaf]
  cases hs : s.steps.getLast? with
  | none =>
      rw [List.getLast?_eq_none_iff] at hs
      simp [hs]
  | some last => simp [List.getLastD_eq_getLast?, hs]

/-- If the steps that name elements lead somewhere, the walk ends there; the place before the last
step is where the other steps lead. -/
theorem walk_of_descend {s : Selector} {root : Element} {leaf : Place}
    (h : (Place.ofRoot root).descend s.elementSteps = some leaf) :
    walk 1 none (.ofRoot root) s.steps =
      .ok (if s.steps = [] then none else (Place.ofRoot root).descend s.steps.dropLast, leaf) := by
  rw [walk_eq_ok_iff, stepsTaken_steps]
  exact ⟨h, rfl⟩

/-- If the steps that name elements lead nowhere, the selector does not resolve. -/
theorem exists_miss_of_descend {s : Selector} {root : Element} (sibling : Bool)
    (h : (Place.ofRoot root).descend s.elementSteps = none) :
    ∃ miss, s.resolve root sibling = .error miss := by
  cases hw : walk 1 none (.ofRoot root) s.steps with
  | error miss =>
      refine ⟨miss, ?_⟩
      simp only [resolve, hw, bind, Except.bind]
  | ok reached =>
      obtain ⟨hd, -⟩ := walk_eq_ok_iff.mp hw
      rw [stepsTaken_steps, h] at hd
      exact absurd hd (by simp)

/-- An attribute is resolved to its owner, whether or not siblings are meant. -/
theorem resolve_attribute_eq_ok_iff {s : Selector} {name : String}
    (hs : s.leaf.attributeName? = some name) {root : Element} {sibling : Bool} {t : Target} :
    s.resolve root sibling = .ok t ↔
      ∃ leaf, (Place.ofRoot root).descend s.elementSteps = some leaf ∧
        t = { name, isAttribute := true, leaf, target := leaf } := by
  cases hd : (Place.ofRoot root).descend s.elementSteps with
  | none =>
      obtain ⟨miss, hr⟩ := exists_miss_of_descend sibling hd
      simp [hr]
  | some leaf =>
      simp [resolve, walk_of_descend hd, hs, bind, Except.bind, pure, Except.pure, eq_comm]

/-- An element is resolved to itself if siblings are not meant. -/
theorem resolve_element_eq_ok_iff {s : Selector} (hs : s.leaf.attributeName? = none)
    {root : Element} {t : Target} :
    s.resolve root false = .ok t ↔
      ∃ leaf, (Place.ofRoot root).descend s.elementSteps = some leaf ∧
        t = { name := s.leaf.name, isAttribute := false, leaf, target := leaf } := by
  cases hd : (Place.ofRoot root).descend s.elementSteps with
  | none =>
      obtain ⟨miss, hr⟩ := exists_miss_of_descend false hd
      simp [hr]
  | some leaf =>
      simp [resolve, walk_of_descend hd, hs, bind, Except.bind, pure, Except.pure, eq_comm]

/-- An element is resolved to its parent if siblings are meant, and the root is not resolved. -/
theorem resolve_sibling_eq_ok_iff {s : Selector} (hs : s.leaf.attributeName? = none)
    {root : Element} {t : Target} :
    s.resolve root true = .ok t ↔
      s.steps ≠ [] ∧ ∃ leaf parent, (Place.ofRoot root).descend s.elementSteps = some leaf ∧
        (Place.ofRoot root).descend s.steps.dropLast = some parent ∧
        t = { name := s.leaf.name, isAttribute := false, leaf, target := parent } := by
  cases hd : (Place.ofRoot root).descend s.elementSteps with
  | none =>
      obtain ⟨miss, hr⟩ := exists_miss_of_descend true hd
      simp [hr]
  | some leaf =>
      by_cases hsteps : s.steps = []
      · rw [resolve, walk_of_descend hd, if_pos hsteps]
        simp [hs, hsteps, bind, Except.bind, throw, throwThe, MonadExceptOf.throw]
      · cases hp : (Place.ofRoot root).descend s.steps.dropLast with
        | none =>
            simp [resolve, walk_of_descend hd, hs, hsteps, hp, bind, Except.bind, throw, throwThe,
              MonadExceptOf.throw]
        | some parent =>
            simp [resolve, walk_of_descend hd, hs, hsteps, hp, bind, Except.bind, pure,
              Except.pure, eq_comm]

/-! ### Resolution and meaning -/

/-- Only the root matches the empty path, if an element is addressed. -/
theorem path_ne_nil_iff {s : Selector} {root : Element} {path : List Nat}
    (ha : s.targetsAttribute = false) (hm : Matches s.elementSteps root path) :
    path ≠ [] ↔ s.steps ≠ [] := by
  have hlen := hm.length_eq
  rw [elementSteps, ha, if_neg (by simp)] at hlen
  rw [← List.length_pos_iff, ← List.length_pos_iff, hlen]

/-- The steps before the last match the path to the parent, if an element is addressed. -/
theorem matches_dropLast {s : Selector} {root : Element} {path : List Nat}
    (ha : s.targetsAttribute = false) (hm : Matches s.elementSteps root path) :
    Matches s.steps.dropLast root path.dropLast := by
  rw [elementSteps, ha, if_neg (by simp)] at hm
  exact hm.dropLast

/-- What resolution yields is what the selector denotes. -/
theorem denotes_of_resolve {s : Selector} {root : Element} {sibling : Bool} {t : Target}
    (h : s.resolve root sibling = .ok t) : s.Denotes root sibling t := by
  cases hs : s.leaf.attributeName? with
  | some name =>
      have ha := targetsAttribute_of_eq_some hs
      obtain ⟨leaf, hd, rfl⟩ := (resolve_attribute_eq_ok_iff hs).mp h
      obtain ⟨hm, hin⟩ := Place.descend_ofRoot_eq_some_iff.mp hd
      exact
        { leaf_matches := hm
          leaf_in := hin
          of_attribute := fun _ => ⟨rfl, Component.attributeName?_eq_some_iff.mp hs, rfl⟩
          of_element := by simp [ha]
          in_place := by simp [ha]
          at_parent := by simp [ha] }
  | none =>
      have ha := targetsAttribute_of_eq_none hs
      cases sibling with
      | false =>
          obtain ⟨leaf, hd, rfl⟩ := (resolve_element_eq_ok_iff hs).mp h
          obtain ⟨hm, hin⟩ := Place.descend_ofRoot_eq_some_iff.mp hd
          exact
            { leaf_matches := hm
              leaf_in := hin
              of_attribute := by simp [ha]
              of_element := fun _ => ⟨rfl, rfl⟩
              in_place := fun _ _ => rfl
              at_parent := by simp }
      | true =>
          obtain ⟨hsteps, leaf, parent, hd, hp, rfl⟩ := (resolve_sibling_eq_ok_iff hs).mp h
          obtain ⟨hm, hin⟩ := Place.descend_ofRoot_eq_some_iff.mp hd
          obtain ⟨hmp, hinp⟩ := Place.descend_ofRoot_eq_some_iff.mp hp
          exact
            { leaf_matches := hm
              leaf_in := hin
              of_attribute := by simp [ha]
              of_element := fun _ => ⟨rfl, rfl⟩
              in_place := by simp
              at_parent := fun _ _ => ⟨(path_ne_nil_iff ha hm).mpr hsteps,
                hmp.unique (matches_dropLast ha hm), hinp⟩ }

/-- What the selector denotes is what resolution yields. -/
theorem resolve_of_denotes {s : Selector} {root : Element} {sibling : Bool} {t : Target}
    (h : s.Denotes root sibling t) : s.resolve root sibling = .ok t := by
  obtain ⟨name, isAttribute, leaf, target⟩ := t
  have hd := Place.descend_ofRoot_eq_some_iff.mpr ⟨h.leaf_matches, h.leaf_in⟩
  cases hs : s.leaf.attributeName? with
  | some attributeName =>
      have ha := targetsAttribute_of_eq_some hs
      obtain ⟨rfl, hname, htarget⟩ := h.of_attribute ha
      rw [← Component.attributeName?_eq_some_iff, hs, Option.some.injEq] at hname
      obtain rfl : attributeName = name := hname
      obtain rfl : target = leaf := htarget
      rw [resolve_attribute_eq_ok_iff hs]
      exact ⟨_, hd, rfl⟩
  | none =>
      have ha := targetsAttribute_of_eq_none hs
      obtain ⟨rfl, rfl⟩ := h.of_element ha
      cases sibling with
      | false =>
          obtain rfl : target = leaf := h.in_place ha rfl
          rw [resolve_element_eq_ok_iff hs]
          exact ⟨_, hd, rfl⟩
      | true =>
          obtain ⟨hne, hpath, hin⟩ := h.at_parent ha rfl
          have hp : (Place.ofRoot root).descend s.steps.dropLast = some target := by
            rw [Place.descend_ofRoot_eq_some_iff, hpath]
            exact ⟨matches_dropLast ha h.leaf_matches, hin⟩
          rw [resolve_sibling_eq_ok_iff hs]
          exact ⟨(path_ne_nil_iff ha h.leaf_matches).mp hne, leaf, target, hd, hp, rfl⟩

/-- A match leads to what the selector denotes, unless the parent of the root is asked for. -/
theorem exists_resolve_of_matches {s : Selector} {root : Element} {sibling : Bool}
    {path : List Nat} (hm : Matches s.elementSteps root path)
    (hroot : ¬ (sibling = true ∧ s.targetsElement = true ∧ s.steps = [])) :
    ∃ t, s.resolve root sibling = .ok t := by
  obtain ⟨leaf, hd⟩ := Place.exists_descend_ofRoot_iff.mpr ⟨path, hm⟩
  cases hs : s.leaf.attributeName? with
  | some name => exact ⟨_, (resolve_attribute_eq_ok_iff hs).mpr ⟨leaf, hd, rfl⟩⟩
  | none =>
      have ha := targetsAttribute_of_eq_none hs
      cases sibling with
      | false => exact ⟨_, (resolve_element_eq_ok_iff hs).mpr ⟨leaf, hd, rfl⟩⟩
      | true =>
          have hsteps : s.steps ≠ [] := by
            intro hnil
            exact hroot ⟨rfl, by simp [targetsElement, ha], hnil⟩
          obtain ⟨parent, hp⟩ := Place.exists_descend_ofRoot_iff.mpr
            ⟨path.dropLast, matches_dropLast ha hm⟩
          exact ⟨_, (resolve_sibling_eq_ok_iff hs).mpr ⟨hsteps, leaf, parent, hd, hp, rfl⟩⟩

/-- No selector resolves to the parent of the root. -/
theorem not_root_of_resolve {s : Selector} {root : Element} {sibling : Bool} {t : Target}
    (h : s.resolve root sibling = .ok t) :
    ¬ (sibling = true ∧ s.targetsElement = true ∧ s.steps = []) := by
  rintro ⟨rfl, he, hnil⟩
  have ha : s.targetsAttribute = false := by simpa [targetsElement] using he
  have hden := denotes_of_resolve h
  obtain ⟨hne, -⟩ := hden.at_parent ha rfl
  exact (path_ne_nil_iff ha hden.leaf_matches).mp hne hnil

/-- **Resolution meets its reference meaning.** At most one path matches; the selector resolves
exactly if one does and the parent of the root is not asked for; and it resolves to what it
denotes. -/
theorem resolve_meets_meaning (s : Selector) (root : Element) (sibling : Bool) :
    (∀ path path', Matches s.elementSteps root path → Matches s.elementSteps root path' →
      path = path') ∧
    ((∃ t, s.resolve root sibling = .ok t) ↔
      (∃ path, Matches s.elementSteps root path) ∧
        ¬ (sibling = true ∧ s.targetsElement = true ∧ s.steps = [])) ∧
    ∀ t, s.resolve root sibling = .ok t ↔ s.Denotes root sibling t := by
  refine ⟨fun path path' hm hm' => hm.unique hm', ⟨?_, ?_⟩, fun t => ⟨?_, ?_⟩⟩
  · rintro ⟨t, h⟩
    exact ⟨⟨t.leaf.path, (denotes_of_resolve h).leaf_matches⟩, not_root_of_resolve h⟩
  · rintro ⟨⟨path, hm⟩, hroot⟩
    exact exists_resolve_of_matches hm hroot
  · exact denotes_of_resolve
  · exact resolve_of_denotes

/-- Of two children of a name, with another one between them, the second is at index 2, and its
siblings are at the root. -/
theorem resolve_meets_meaning_second :
    ∃ t, Denotes
        { root := { name := "R" }, steps := [{ name := "a", predicate := some (.position 2) }] }
        { name := "R", children := [{ name := "a" }, { name := "b" }, { name := "a" }] } true t ∧
      t.name = "a" ∧ t.isAttribute = false ∧ t.leaf.path = [2] ∧ t.target.path = [] := by
  obtain ⟨-, -, h⟩ := resolve_meets_meaning
    { root := { name := "R" }, steps := [{ name := "a", predicate := some (.position 2) }] }
    { name := "R", children := [{ name := "a" }, { name := "b" }, { name := "a" }] } true
  exact ⟨_, (h _).mp rfl, rfl, rfl, rfl, rfl⟩

end Selector

end ManifestPatch
