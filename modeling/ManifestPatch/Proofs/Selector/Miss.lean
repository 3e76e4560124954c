import ManifestPatch.Proofs.Selector.Reading
import ManifestPatch.Proofs.Selector.Resolution

/-!
# The Step That Selects Nothing

A resolution that comes to nothing is logged by an event with the component at which the walk ended
and its level. This module says which component that is without the walk: the components before it,
taken as a selector for an element, lead to an element, and that element has no child that the
component picks. There is at most one such level, and whether siblings are meant has no part in it;
so there is one event at most, and it is the same either way. That the root has no parent is the
only failure without an event.

## Main definitions

* `Selector.FailsAt`: a selector fails at a component.

## Main results

* `Selector.walk_eq_error_iff`: where a walk ends without a place.
* `Selector.resolveEvents_eq`: the events of a resolution are those of its walk.
* `Selector.walk_eq_unmatched_iff`: the walk of a selector that was read ends where it fails.
* `Selector.resolve_logs_failing_step`: what is logged, and when.
-/

namespace ManifestPatch

/-- A component selects nothing exactly if it picks no child. -/
theorem Component.select_eq_none_iff {c : Component} {parent : Place} :
    c.select parent = none ↔ ∀ i child, ¬ c.Picks parent.element i child := by
  rw [Option.eq_none_iff_forall_ne_some]
  constructor
  · intro h i child hpicks
    refine h { path := parent.path ++ [i], element := child } ?_
    exact select_eq_some_iff.mpr ⟨i, hpicks, rfl⟩
  · intro h place hselect
    obtain ⟨i, hpicks, -⟩ := select_eq_some_iff.mp hselect
    exact h i _ hpicks

namespace Selector

variable {s : Selector} {root : Element} {steps : List Component} {level : Nat}
  {before : Option Place} {place : Place} {component : Component} {miss : Miss}

/-! ### Where a walk ends -/

/-- A walk goes on behind the steps that lead somewhere; they count for the level. -/
theorem walk_append_of_descend {taken : List Component} {reached : Place}
    (h : place.descend taken = some reached) (hsteps : steps ≠ []) :
    ∃ before', walk level before place (taken ++ steps) =
      walk (level + taken.length) before' reached steps := by
  induction taken generalizing level before place with
  | nil =>
      obtain rfl : place = reached := Option.some.inj h
      exact ⟨before, rfl⟩
  | cons first taken ih =>
      rw [Place.descend, Option.bind_eq_some_iff] at h
      obtain ⟨child, hchild, hdescend⟩ := h
      obtain ⟨before', hwalk⟩ := @ih (level + 1) (some place) child hdescend
      refine ⟨before', ?_⟩
      rw [List.cons_append, walk, if_neg (by simp [hsteps]), hchild]
      simp only [hwalk, List.length_cons, Nat.add_right_comm level 1, Nat.add_assoc]

/-- **Where a walk ends without a place**: at a step that selects nothing where the steps before it
lead, and that is no attribute in last place. -/
theorem walk_eq_error_iff :
    walk level before place steps = .error miss ↔
      ∃ taken step rest reached, steps = taken ++ step :: rest ∧
        place.descend taken = some reached ∧ step.select reached = none ∧
        ¬ (rest = [] ∧ step.isAttribute = true) ∧
        miss = .unmatched (level + taken.length) step := by
  constructor
  · intro h
    induction steps generalizing level before place with
    | nil => simp [walk] at h
    | cons first steps ih =>
        rw [walk] at h
        split at h
        · cases h
        · next hgo =>
            cases hselect : first.select place with
            | none =>
                rw [hselect] at h
                refine ⟨[], first, steps, place, rfl, rfl, hselect, by simpa using hgo, ?_⟩
                exact (Except.error.inj h).symm
            | some child =>
                rw [hselect] at h
                obtain ⟨taken, step, rest, reached, rfl, hdescend, hnone, hlast, rfl⟩ := ih h
                refine ⟨first :: taken, step, rest, reached, rfl, ?_, hnone, hlast, ?_⟩
                · rw [Place.descend, hselect, Option.bind_some, hdescend]
                · rw [List.length_cons, Nat.add_right_comm level 1, Nat.add_assoc]
  · rintro ⟨taken, step, rest, reached, rfl, hdescend, hnone, hlast, rfl⟩
    obtain ⟨before', hwalk⟩ :=
      @walk_append_of_descend (step :: rest) level before place taken reached hdescend
        (List.cons_ne_nil step rest)
    rw [hwalk, walk, if_neg (by simpa using hlast), hnone]

/-- A walk ends without a place only because a step selects nothing. -/
theorem walk_ne_noParent : walk level before place steps ≠ .error .noParent := by
  intro h
  obtain ⟨_, _, _, _, -, -, -, -, hmiss⟩ := walk_eq_error_iff.mp h
  exact absurd hmiss nofun

/-! ### Resolutions and their walks -/

/-- **The events of a resolution are those of its walk**: that the root has no parent is found out
behind the walk, and is not logged. -/
theorem resolveEvents_eq (s : Selector) (root : Element) (sibling : Bool) :
    s.resolveEvents root sibling =
      match walk 1 none (.ofRoot root) s.steps with
      | .ok _ => []
      | .error miss => s.missEvents miss := by
  rw [resolveEvents, resolve]
  cases walk 1 none (.ofRoot root) s.steps with
  | error miss => rfl
  | ok reached =>
      obtain ⟨parent, leaf⟩ := reached
      cases s.leaf.attributeName? with
      | some name => rfl
      | none =>
          cases sibling with
          | false => rfl
          | true => cases parent <;> rfl

/-- What is logged is the step where the walk ends. -/
theorem mem_resolveEvents_iff {sibling : Bool} {event : Event} :
    event ∈ s.resolveEvents root sibling ↔
      ∃ level component,
        walk 1 none (.ofRoot root) s.steps = .error (.unmatched level component) ∧
          event = .unmatched s.render level component.render := by
  rw [resolveEvents_eq]
  cases hwalk : walk 1 none (.ofRoot root) s.steps with
  | ok reached => simp
  | error miss =>
      cases miss with
      | unmatched level component => simp [missEvents]
      | noParent => exact absurd hwalk walk_ne_noParent

/-- A resolution has one event at most. -/
theorem length_resolveEvents_le (s : Selector) (root : Element) (sibling : Bool) :
    (s.resolveEvents root sibling).length ≤ 1 := by
  rw [resolveEvents_eq]
  cases walk 1 none (.ofRoot root) s.steps with
  | ok reached => simp
  | error miss => cases miss <;> simp [missEvents]

/-- A resolution has an event exactly if its walk ends without a place. -/
theorem resolveEvents_ne_nil_iff {sibling : Bool} :
    s.resolveEvents root sibling ≠ [] ↔
      ∃ miss, walk 1 none (.ofRoot root) s.steps = .error miss := by
  rw [resolveEvents_eq]
  cases hwalk : walk 1 none (.ofRoot root) s.steps with
  | ok reached => simp
  | error miss =>
      cases miss with
      | unmatched level component => simp [missEvents]
      | noParent => exact absurd hwalk walk_ne_noParent

/-- **A walk ends without a place** exactly if the selector does not resolve, for another reason
than that the parent of the root is asked for. -/
theorem exists_walk_eq_error_iff (sibling : Bool) :
    (∃ miss, walk 1 none (.ofRoot root) s.steps = .error miss) ↔
      (∀ t, s.resolve root sibling ≠ .ok t) ∧
        ¬ (sibling = true ∧ s.targetsElement = true ∧ s.steps = []) := by
  cases hwalk : walk 1 none (.ofRoot root) s.steps with
  | error miss =>
      simp only [Except.error.injEq, exists_eq', true_iff]
      refine ⟨fun t => ?_, ?_⟩
      · simp [resolve, hwalk, bind, Except.bind]
      · rintro ⟨-, -, hnil⟩
        rw [hnil, walk] at hwalk
        cases hwalk
  | ok reached =>
      simp only [reduceCtorEq, exists_false, false_iff]
      rintro ⟨hnone, hroot⟩
      obtain ⟨hdescend, -⟩ := walk_eq_ok_iff.mp hwalk
      rw [stepsTaken_steps] at hdescend
      obtain ⟨t, ht⟩ :=
        exists_resolve_of_matches (Place.descend_ofRoot_eq_some_iff.mp hdescend).1 hroot
      exact hnone t ht

/-! ### Failing at a component -/

/-- A selector **fails at** a component at a level. The component is not the first, and means an
element. The components before it, taken as a selector for an element, lead to an element, which
has no child that the component picks. -/
structure FailsAt (s : Selector) (root : Element) (level : Nat) (component : Component) : Prop where
  one_le : 1 ≤ level
  le_last : level ≤ s.components.length - 1
  at_level : s.components[level]? = some component
  isAttribute_eq : component.isAttribute = false
  exists_parent : ∃ (upper : Selector) (t : Target),
    upper.components = s.components.take level ∧ upper.targetsElement = true ∧
      upper.resolve root false = .ok t ∧ t.isAttribute = false ∧
      ∀ i child, ¬ component.Picks t.target.element i child

/-- All components but the last of what a text spells mean elements. -/
theorem SpellsPath.isAttribute_of_mem_dropLast {text : List Char} {components : List Component}
    (h : SpellsPath text components) :
    ∀ c ∈ components.dropLast, c.isAttribute = false := by
  induction h with
  | last => simp
  | @step _ _ component components h _ hr ih =>
      rw [List.dropLast_cons_of_ne_nil hr.components_ne_nil]
      exact List.forall_mem_cons.mpr ⟨h.isAttribute_eq_false, ih⟩

/-- All components but the last of a selector that was read mean elements. -/
theorem isAttribute_of_mem_dropLast {text : String} (h : parse text = .ok s) :
    ∀ c ∈ s.components.dropLast, c.isAttribute = false := by
  have hspells := parse_eq_ok_iff_spells.mp h
  generalize text.toList = cs at hspells
  obtain ⟨-, hpath⟩ := hspells
  exact hpath.isAttribute_of_mem_dropLast

/-- A selector addresses an element if its components are the first ones, but not all, of a
selector that was read. -/
theorem targetsAttribute_eq_of_take {text : String} (h : parse text = .ok s) {upper : Selector}
    (hupper : upper.components = s.components.take level) (hlevel : level < s.components.length) :
    upper.targetsAttribute = false := by
  have hlast := List.mem_of_getLast? upper.getLast?_components
  rw [hupper] at hlast
  refine isAttribute_of_mem_dropLast h _ ?_
  rw [List.dropLast_eq_take]
  exact (List.take_prefix_take_left (by omega)).subset hlast

/-- A selector for an element is resolved to the element that its steps lead to. -/
theorem exists_resolve_element_iff (hs : s.targetsAttribute = false) :
    (∃ t, s.resolve root false = .ok t ∧ t.isAttribute = false ∧ t.target = place) ↔
      (Place.ofRoot root).descend s.steps = some place := by
  have hname : s.leaf.attributeName? = none := by
    rwa [targetsAttribute, Component.isAttribute, Option.isSome_eq_false_iff,
      Option.isNone_iff_eq_none] at hs
  have hsteps : s.elementSteps = s.steps := by rw [elementSteps, if_neg (by simp [hs])]
  simp only [resolve_element_eq_ok_iff hname, hsteps]
  constructor
  · rintro ⟨t, ⟨leaf, hdescend, rfl⟩, -, rfl⟩
    exact hdescend
  · intro hdescend
    exact ⟨_, ⟨place, hdescend, rfl⟩, rfl, rfl⟩

/-- The step where a walk ends means an element. -/
theorem isAttribute_eq_false_of_parse {text : String} (h : parse text = .ok s)
    {taken rest : List Component} (hsteps : s.steps = taken ++ component :: rest)
    (hlast : ¬ (rest = [] ∧ component.isAttribute = true)) : component.isAttribute = false := by
  by_cases hrest : rest = []
  · simpa [hrest] using hlast
  · refine isAttribute_of_mem_dropLast h component ?_
    rw [components, hsteps, ← List.cons_append, List.dropLast_append_of_ne_nil (by simp),
      List.dropLast_cons_of_ne_nil hrest]
    simp

/-- **The walk of a selector that was read ends where the selector fails.** -/
theorem walk_eq_unmatched_iff {text : String} (h : parse text = .ok s) :
    walk 1 none (.ofRoot root) s.steps = .error (.unmatched level component) ↔
      s.FailsAt root level component := by
  rw [walk_eq_error_iff]
  constructor
  · rintro ⟨taken, step, rest, reached, hsteps, hdescend, hnone, hlast, hmiss⟩
    obtain ⟨rfl, rfl⟩ := Miss.unmatched.inj hmiss
    have hcomponents : s.components = (s.root :: taken) ++ component :: rest := by
      rw [components, hsteps, List.cons_append]
    have hlength : (s.root :: taken).length = 1 + taken.length := by
      rw [List.length_cons, Nat.add_comm]
    have hupper : ({ s with steps := taken } : Selector).components =
        s.components.take (1 + taken.length) := by
      rw [hcomponents, List.take_left' hlength, components]
    have hattribute := targetsAttribute_eq_of_take h hupper (by simp [hcomponents]; omega)
    obtain ⟨t, ht, hkind, htarget⟩ := (exists_resolve_element_iff hattribute).mpr hdescend
    exact
      { one_le := by omega
        le_last := by simp [hcomponents]; omega
        at_level := by rw [hcomponents, ← hlength, List.getElem?_append_right (Nat.le_refl _)]; simp
        isAttribute_eq := isAttribute_eq_false_of_parse h hsteps hlast
        exists_parent := ⟨_, t, hupper, by simp [targetsElement, hattribute], ht, hkind, by
          rw [htarget]
          exact Component.select_eq_none_iff.mp hnone⟩ }
  · rintro ⟨hone, hle, hat, hattribute, upper, t, hupper, helement, ht, hkind, hnone⟩
    obtain ⟨n, rfl⟩ := Nat.exists_eq_add_of_le' hone
    rw [components, List.getElem?_cons_succ] at hat
    rw [components, components, List.take_succ_cons, List.cons.injEq] at hupper
    obtain ⟨hn, hstep⟩ := List.getElem?_eq_some_iff.mp hat
    have hdescend := (exists_resolve_element_iff (by simpa [targetsElement] using helement)).mp
      ⟨t, ht, hkind, rfl⟩
    refine ⟨s.steps.take n, component, s.steps.drop (n + 1), t.target, ?_, ?_,
      Component.select_eq_none_iff.mpr hnone, by simp [hattribute], ?_⟩
    · rw [← hstep, List.getElem_cons_drop, List.take_append_drop]
    · rw [← hupper.2, hdescend]
    · rw [List.length_take_of_le (by omega), Nat.add_comm]

/-! ### What is logged -/

/-- **A failed resolution is logged once, at the step that failed.** A selector that was read has at
most one event, which is one for debugging. It has one exactly if it does not resolve, for another
reason than that the parent of the root is asked for. What is logged is the text of the selector,
and the level and the text of the component at which it fails; so the event is the same whether or
not siblings are meant. -/
theorem resolve_logs_failing_step {text : String} (h : parse text = .ok s) (root : Element) :
    (∀ sibling, (s.resolveEvents root sibling).length ≤ 1 ∧
      ∀ event ∈ s.resolveEvents root sibling, event.severity = .debug) ∧
    (∀ sibling, s.resolveEvents root sibling ≠ [] ↔
      (∀ t, s.resolve root sibling ≠ .ok t) ∧
        ¬ (sibling = true ∧ s.targetsElement = true ∧ s.steps = [])) ∧
    (∀ sibling event, event ∈ s.resolveEvents root sibling ↔
      ∃ level component, s.FailsAt root level component ∧
        event = .unmatched s.render level component.render) ∧
    s.resolveEvents root true = s.resolveEvents root false := by
  refine ⟨fun sibling => ⟨length_resolveEvents_le s root sibling, ?_⟩, fun sibling => ?_,
    fun sibling event => ?_, ?_⟩
  · intro event hevent
    obtain ⟨level, component, -, rfl⟩ := mem_resolveEvents_iff.mp hevent
    rfl
  · rw [resolveEvents_ne_nil_iff, exists_walk_eq_error_iff sibling]
  · simp only [mem_resolveEvents_iff, walk_eq_unmatched_iff h]
  · rw [resolveEvents_eq, resolveEvents_eq]

/-- The second of several children is asked for where there is one, and an attribute of it: the
step that is logged is the one to the child. -/
theorem resolve_logs_failing_step_second :
    ∃ s component, parse "/MPD/a[2]/@k" = .ok s ∧
      s.FailsAt { name := "MPD", children := [{ name := "a" }, { name := "b" }] } 1 component ∧
      component.render = "a[2]" ∧
      s.resolveEvents { name := "MPD", children := [{ name := "a" }, { name := "b" }] } true =
        [.unmatched "/MPD/a[2]/@k" 1 "a[2]"] := by
  have hparse : parse "/MPD/a[2]/@k" = .ok
      { root := { name := "MPD" },
        steps := [{ name := "a", predicate := some (.position 2) }, { name := "@k" }] } := by
    decide +kernel
  obtain ⟨-, -, hmem, -⟩ := resolve_logs_failing_step hparse
    { name := "MPD", children := [{ name := "a" }, { name := "b" }] }
  have hevents : resolveEvents
      { root := { name := "MPD" },
        steps := [{ name := "a", predicate := some (.position 2) }, { name := "@k" }] }
      { name := "MPD", children := [{ name := "a" }, { name := "b" }] } true =
        [.unmatched "/MPD/a[2]/@k" 1 "a[2]"] := by
    decide +kernel
  obtain ⟨level, component, hfails, hevent⟩ :=
    (hmem true (.unmatched "/MPD/a[2]/@k" 1 "a[2]")).mp (by simp [hevents])
  obtain ⟨-, rfl, hrender⟩ := Event.unmatched.inj hevent
  exact ⟨_, component, hparse, hfails, hrender.symm, hevents⟩

end Selector

end ManifestPatch
