import ManifestPatch.Selector.Target

/-!
# Selecting One Child

A component selects a child by filtering the places of all children by name and taking one of
them. What that means is stated here on the element itself, by the index of the child and the
children before it: the child **picked** has the component's name, and is the first to satisfy the
predicate.

## Main definitions

* `Component.FirstAfter`: what the predicate demands of a child, given the children before it.
* `Component.Picks`: the child at an index is the one that the component means.

## Main results

* `Component.select_eq_some_iff`: what is selected is the child picked, at its place.
* `Component.Picks.unique`: a component picks at most one child.
-/

namespace ManifestPatch

/-! ### The meaning of a component -/

/-- What a component demands of a child of its name, given the children **before** it: without
predicate, that none of these has the name; with a position, that as many have the name as the
position counts ahead of itself; with an attribute, that the child has it with that value, and none
of the name before it has. -/
def Component.FirstAfter (c : Component) (before : List Element) (child : Element) : Prop :=
  match c.predicate with
  | none => ∀ sibling ∈ before, sibling.name ≠ c.name
  | some (.position ordinal) =>
    before.countP (fun sibling => sibling.name == c.name) + 1 = ordinal.toNat
  | some (.attributeIs name value) =>
    child.attribute? name = some value ∧
      ∀ sibling ∈ before, sibling.name = c.name → sibling.attribute? name ≠ some value

/-- A component **picks** the child at an index: the child has its name, and is the first to
satisfy its predicate. -/
structure Component.Picks (c : Component) (e : Element) (i : Nat) (child : Element) : Prop where
  at_index : e.children[i]? = some child
  name_eq : child.name = c.name
  first : c.FirstAfter (e.children.take i) child

/-! ### Ranks among the children -/

/-- What stands at a rank of a filtered list is what passes the filter and has that many passing
before it. -/
theorem getElem?_filter_eq_some_iff {α : Type} {test : α → Bool} {l : List α} {rank : Nat}
    {x : α} :
    (l.filter test)[rank]? = some x ↔
      ∃ i, l[i]? = some x ∧ test x = true ∧ (l.take i).countP test = rank := by
  induction l generalizing rank with
  | nil => simp
  | cons a l ih =>
      by_cases ha : test a = true
      · rw [List.filter_cons_of_pos ha]
        cases rank with
        | zero =>
            rw [List.getElem?_cons_zero, Option.some.injEq]
            constructor
            · rintro rfl
              exact ⟨0, rfl, ha, rfl⟩
            · rintro ⟨i, hi, -, hcount⟩
              cases i with
              | zero => simpa using hi
              | succ i => simp [ha] at hcount
        | succ rank =>
            rw [List.getElem?_cons_succ, ih]
            constructor
            · rintro ⟨i, hi, hx, hcount⟩
              exact ⟨i + 1, hi, hx, by simp [ha, hcount]⟩
            · rintro ⟨i, hi, hx, hcount⟩
              cases i with
              | zero => simp at hcount
              | succ i => exact ⟨i, hi, hx, by simpa [List.countP_cons, ha] using hcount⟩
      · rw [List.filter_cons_of_neg ha, ih]
        constructor
        · rintro ⟨i, hi, hx, hcount⟩
          exact ⟨i + 1, hi, hx, by simpa [List.countP_cons, ha] using hcount⟩
        · rintro ⟨i, hi, hx, hcount⟩
          cases i with
          | zero =>
              obtain rfl : a = x := by simpa using hi
              exact absurd hx ha
          | succ i => exact ⟨i, hi, hx, by simpa [List.countP_cons, ha] using hcount⟩

namespace Place

/-- The places of the children are in the order of the children. -/
theorem getElem?_children_eq_some_iff {parent child : Place} {i : Nat} :
    parent.children[i]? = some child ↔
      parent.element.children[i]? = some child.element ∧ child.path = parent.path ++ [i] := by
  simp only [children, List.getElem?_map, List.getElem?_zipIdx, Option.map_eq_some_iff]
  constructor
  · rintro ⟨_, ⟨e, he, rfl⟩, rfl⟩
    exact ⟨by simpa using he, by simp⟩
  · rintro ⟨he, hp⟩
    refine ⟨(child.element, i), ⟨child.element, he, by simp⟩, ?_⟩
    rw [← hp]

/-- The places of the children hold the children. -/
theorem map_element_children (parent : Place) :
    parent.children.map Place.element = parent.element.children := by
  simp [children, List.map_map, Function.comp_def]

/-- What stands at a rank among the places of the children that pass a test. -/
theorem getElem?_filter_children (parent child : Place) (test : Element → Bool) (rank : Nat) :
    (parent.children.filter fun place => test place.element)[rank]? = some child ↔
      ∃ i, parent.element.children[i]? = some child.element ∧
        child.path = parent.path ++ [i] ∧ test child.element = true ∧
        (parent.element.children.take i).countP test = rank := by
  have hcount : ∀ i, (parent.element.children.take i).countP test =
      (parent.children.take i).countP fun place => test place.element := by
    intro i
    rw [← map_element_children, ← List.map_take, List.countP_map]
    rfl
  rw [getElem?_filter_eq_some_iff]
  simp only [getElem?_children_eq_some_iff, hcount, and_assoc]

end Place

/-! ### Selection -/

namespace Component

/-- Without predicate, what is selected is first among the places of the name. -/
theorem select_of_none {c : Component} (hc : c.predicate = none) (parent : Place) :
    c.select parent =
      (parent.children.filter fun place => place.element.name == c.name)[0]? := by
  rw [select, hc, Place.childrenNamed, List.head?_eq_getElem?]

/-- By a position, what is selected is at that rank, counted from one, among the places of the
name. -/
theorem select_of_position {c : Component} {ordinal : UInt64}
    (hc : c.predicate = some (.position ordinal)) (h0 : ordinal ≠ 0) (parent : Place) :
    c.select parent =
      (parent.children.filter fun place => place.element.name == c.name)[ordinal.toNat - 1]? := by
  rw [select, hc, Place.childrenNamed]
  exact if_neg h0

/-- By an attribute, what is selected is first among the places of the name that have it. -/
theorem select_of_attributeIs {c : Component} {name value : String}
    (hc : c.predicate = some (.attributeIs name value)) (parent : Place) :
    c.select parent =
      (parent.children.filter fun place =>
        place.element.name == c.name && place.element.attribute? name == some value)[0]? := by
  simp only [select, hc, Place.childrenNamed, ← List.head?_eq_getElem?, List.head?_filter,
    List.find?_filter]
  congr 1
  funext place
  rw [Bool.eq_iff_iff]
  simp

/-- **What a component selects** is the child that it picks, at the place of that child. -/
theorem select_eq_some_iff {c : Component} {parent child : Place} :
    c.select parent = some child ↔
      ∃ i, c.Picks parent.element i child.element ∧ child.path = parent.path ++ [i] := by
  rcases hc : c.predicate with _ | ⟨ordinal⟩ | ⟨name, value⟩
  · rw [select_of_none hc, Place.getElem?_filter_children parent child (·.name == c.name)]
    refine exists_congr fun i => ?_
    simp only [List.countP_eq_zero, beq_iff_eq]
    constructor
    · rintro ⟨hi, hp, hn, hfirst⟩
      exact ⟨⟨hi, hn, by simpa [FirstAfter, hc] using hfirst⟩, hp⟩
    · rintro ⟨⟨hi, hn, hfirst⟩, hp⟩
      exact ⟨hi, hp, hn, by simpa [FirstAfter, hc] using hfirst⟩
  · by_cases h0 : ordinal = 0
    · have hnone : c.select parent = none := by rw [select, hc, h0]; rfl
      rw [hnone]
      simp only [reduceCtorEq, false_iff]
      rintro ⟨i, ⟨-, -, hfirst⟩, -⟩
      simp [FirstAfter, hc, h0] at hfirst
    · have hpos : 0 < ordinal.toNat := by
        rw [Nat.pos_iff_ne_zero]
        exact fun h => h0 (UInt64.toNat_inj.mp h)
      rw [select_of_position hc h0, Place.getElem?_filter_children parent child (·.name == c.name)]
      refine exists_congr fun i => ?_
      simp only [beq_iff_eq]
      constructor
      · rintro ⟨hi, hp, hn, hcount⟩
        refine ⟨⟨hi, hn, ?_⟩, hp⟩
        simp only [FirstAfter, hc]
        omega
      · rintro ⟨⟨hi, hn, hfirst⟩, hp⟩
        simp only [FirstAfter, hc] at hfirst
        exact ⟨hi, hp, hn, by omega⟩
  · rw [select_of_attributeIs hc, Place.getElem?_filter_children parent child
      (fun e => e.name == c.name && e.attribute? name == some value)]
    refine exists_congr fun i => ?_
    simp only [List.countP_eq_zero, Bool.and_eq_true, beq_iff_eq, not_and]
    constructor
    · rintro ⟨hi, hp, ⟨hn, ha⟩, hfirst⟩
      exact ⟨⟨hi, hn, by simpa [FirstAfter, hc] using ⟨ha, hfirst⟩⟩, hp⟩
    · rintro ⟨⟨hi, hn, hfirst⟩, hp⟩
      simp only [FirstAfter, hc] at hfirst
      exact ⟨hi, hp, ⟨hn, hfirst.1⟩, hfirst.2⟩

/-- A component picks at most one child. -/
theorem Picks.unique {c : Component} {e child child' : Element} {i j : Nat}
    (h : c.Picks e i child) (h' : c.Picks e j child') : i = j ∧ child = child' := by
  have hi : c.select (.ofRoot e) = some { path := [i], element := child } :=
    select_eq_some_iff.mpr ⟨i, h, rfl⟩
  have hj : c.select (.ofRoot e) = some { path := [j], element := child' } :=
    select_eq_some_iff.mpr ⟨j, h', rfl⟩
  rw [hi] at hj
  simpa using hj

end Component

end ManifestPatch
