import ManifestPatch.Proofs.Element.Alike
import ManifestPatch.Proofs.Selector.Selection

/-!
# Resolution Does Not See Interleaving

A component selects among the children of its own name, so how children of different names
interleave makes no difference to where a selector leads. Stated on two runs: from roots that are
alike, a selector resolves to targets that are alike, or fails for the same reason. One step keeps
places alike, and so does the walk along all of them. This is why a manifest may be read from a
document that does not list its children in order.

## Main definitions

* `Place.Alike`, `Target.Alike`: what two runs have in common.

## Main results

* `Component.rel_select`: one step from places that are alike.
* `Selector.walk_agree`: a walk from places that are alike.
* `Selector.resolve_alike`: resolution from roots that are alike.
-/

namespace ManifestPatch

/-! ### Two runs -/

/-- Places are **alike** if their elements are; their paths may differ. -/
def Place.Alike (place place' : Place) : Prop :=
  Element.Alike Element.SameLookups place.element place'.element

/-- Targets are **alike** if they go by the same name and mean the same kind of thing, if an
attribute that is addressed has the same value, and if what is selected and what is to be edited
are alike. -/
structure Target.Alike (t t' : Target) : Prop where
  name_eq : t.name = t'.name
  isAttribute_eq : t.isAttribute = t'.isAttribute
  attributeValue?_eq : t.attributeValue? = t'.attributeValue?
  leaf : t.leaf.Alike t'.leaf
  target : t.target.Alike t'.target

/-! ### One step -/

/-- The places of the children of a name hold the children of that name. -/
theorem Place.map_element_childrenNamed (place : Place) (name : String) :
    (place.childrenNamed name).map Place.element = place.element.childrenNamed name := by
  rw [Element.childrenNamed, ← map_element_children, List.filter_map]
  rfl

/-- Places that are alike have alike children of every name. -/
theorem Place.Alike.childrenNamed {place place' : Place} (h : place.Alike place')
    (name : String) :
    List.Forall₂ Place.Alike (place.childrenNamed name) (place'.childrenNamed name) := by
  have hbelow := Element.Alike.childrenNamed h name
  rw [← map_element_childrenNamed, ← map_element_childrenNamed, List.forall₂_map_left_iff,
    List.forall₂_map_right_iff] at hbelow
  exact hbelow

/-- **One step** from places that are alike selects children that are alike, or none from both. -/
theorem Component.rel_select {place place' : Place} (c : Component) (h : place.Alike place') :
    Option.Rel Place.Alike (c.select place) (c.select place') := by
  have hnamed := h.childrenNamed c.name
  rw [select, select]
  cases c.predicate with
  | none =>
      simp only [List.head?_eq_getElem?]
      exact rel_getElem? hnamed 0
  | some predicate =>
      cases predicate with
      | position ordinal =>
          by_cases h0 : ordinal = 0
          · simp only [h0, if_true]
            exact Option.Rel.none
          · simp only [h0, if_false]
            exact rel_getElem? hnamed _
      | attributeIs name value =>
          refine rel_find? hnamed fun child child' hchild => ?_
          rw [Element.Alike.here hchild name]

namespace Selector

/-! ### The whole walk -/

/-- **A walk from places that are alike** ends at places that are alike, one step after places
that are alike, or selects nothing at the same step. The induction is on the steps. -/
theorem walk_agree {steps : List Component} {level : Nat} {before before' : Option Place}
    {place place' : Place} (hbefore : Option.Rel Place.Alike before before')
    (hplace : place.Alike place') :
    Agree (fun reached reached' =>
        Option.Rel Place.Alike reached.1 reached'.1 ∧ reached.2.Alike reached'.2)
      (walk level before place steps) (walk level before' place' steps) := by
  induction steps generalizing level before before' place place' with
  | nil => exact Agree.ok ⟨hbefore, hplace⟩
  | cons step rest ih =>
      rw [walk, walk]
      by_cases hlast : (rest.isEmpty && step.isAttribute) = true
      · rw [if_pos hlast, if_pos hlast]
        exact Agree.ok ⟨Option.Rel.some hplace, hplace⟩
      · rw [if_neg hlast, if_neg hlast]
        have hstep := step.rel_select hplace
        cases hs : step.select place with
        | none =>
            rw [hs] at hstep
            cases hs' : step.select place' with
            | none => exact Agree.error _
            | some child' => simp [hs'] at hstep
        | some child =>
            rw [hs] at hstep
            cases hs' : step.select place' with
            | none => simp [hs'] at hstep
            | some child' =>
                rw [hs'] at hstep
                cases hstep with
                | some hchild => exact ih (Option.Rel.some hplace) hchild

/-- Targets with alike places are alike, if they are named and marked in the same way. -/
theorem target_alike {name : String} {isAttribute : Bool} {leaf leaf' target target' : Place}
    (hleaf : leaf.Alike leaf') (htarget : target.Alike target') :
    Target.Alike { name, isAttribute, leaf, target }
      { name, isAttribute, leaf := leaf', target := target' } where
  name_eq := rfl
  isAttribute_eq := rfl
  attributeValue?_eq := by
    rw [Target.attributeValue?, Target.attributeValue?, Element.Alike.here hleaf name]
  leaf := hleaf
  target := htarget

/-- From roots that are alike, the outcomes of resolution agree. -/
theorem resolve_agree {root root' : Element} (h : Element.Alike Element.SameLookups root root')
    (s : Selector) (sibling : Bool) :
    Agree Target.Alike (s.resolve root sibling) (s.resolve root' sibling) := by
  have hroot : (Place.ofRoot root).Alike (Place.ofRoot root') := h
  refine Agree.bind (walk_agree Option.Rel.none hroot) ?_
  rintro ⟨parent, leaf⟩ ⟨parent', leaf'⟩ ⟨hparent, hleaf⟩
  cases hname : s.leaf.attributeName? with
  | some name => exact Agree.ok (target_alike hleaf hleaf)
  | none =>
      cases sibling with
      | false => exact Agree.ok (target_alike hleaf hleaf)
      | true =>
          cases hparent with
          | none => exact Agree.error _
          | some hp => exact Agree.ok (target_alike hleaf hp)

/-- **Resolution does not see interleaving.** If every attribute look-up has the same answer at
both roots, and if under every tag they have equally many children, related in the same way one by
one, then a selector resolves from both or from neither: to the same name and the same kind of
target, to attributes of the same value, to leaves and targets that are again so related, or for
the same reason to nothing. The events are the same. -/
theorem resolve_alike {root root' : Element} (h : Element.Alike Element.SameLookups root root')
    (s : Selector) (sibling : Bool) :
    Agree Target.Alike (s.resolve root sibling) (s.resolve root' sibling) ∧
      s.resolveEvents root sibling = s.resolveEvents root' sibling := by
  have hagree := resolve_agree h s sibling
  refine ⟨hagree, ?_⟩
  rw [resolveEvents, resolveEvents]
  generalize s.resolve root sibling = outcome, s.resolve root' sibling = outcome' at hagree
  cases hagree with
  | ok _ => rfl
  | error _ => rfl

/-- Of three children, two of a name, the one between may stand last instead, and attributes may
change places. The second child of the name is then found at another index, with the same value of
the attribute that is addressed. -/
theorem resolve_alike_reordered :
    ∃ t t' : Target, t.Alike t' ∧
      resolve
        { root := { name := "R" }
          steps := [{ name := "a", predicate := some (.position 2) }, { name := "@k" }] }
        { name := "R", children := [{ name := "a" }, { name := "b" },
          { name := "a", attributes := [("k", "1"), ("l", "2")] }] } true = .ok t ∧
      resolve
        { root := { name := "R" }
          steps := [{ name := "a", predicate := some (.position 2) }, { name := "@k" }] }
        { name := "S", children := [{ name := "a", text := some "" },
          { name := "a", attributes := [("l", "2"), ("k", "1")] }, { name := "b" }] } true =
        .ok t' ∧
      t.attributeValue? = some "1" ∧ t.leaf.path = [2] ∧ t'.leaf.path = [1] := by
  have hlookups : Element.SameLookups { name := "a", attributes := [("k", "1"), ("l", "2")] }
      { name := "a", attributes := [("l", "2"), ("k", "1")] } := by
    intro name
    by_cases hk : name = "k"
    · subst hk
      rfl
    · simp [Element.attribute?, List.lookup_cons, beq_false_of_ne hk]
  have halike : Element.Alike Element.SameLookups
      { name := "R", children := [{ name := "a" }, { name := "b" },
          { name := "a", attributes := [("k", "1"), ("l", "2")] }] }
      { name := "S", children := [{ name := "a", text := some "" },
          { name := "a", attributes := [("l", "2"), ("k", "1")] }, { name := "b" }] } := by
    refine Element.Alike.node (fun _ => rfl) fun tag => ?_
    by_cases ha : tag = "a"
    · subst ha
      exact List.Forall₂.cons (Element.Alike.of_children_nil (fun _ => rfl) rfl rfl)
        (List.Forall₂.cons (Element.Alike.of_children_nil hlookups rfl rfl) List.Forall₂.nil)
    · by_cases hb : tag = "b"
      · subst hb
        exact List.Forall₂.cons (Element.Alike.of_children_nil (fun _ => rfl) rfl rfl)
          List.Forall₂.nil
      · simp [Element.childrenNamed, Ne.symm ha, Ne.symm hb]
  obtain ⟨hagree, -⟩ := resolve_alike halike
    { root := { name := "R" }
      steps := [{ name := "a", predicate := some (.position 2) }, { name := "@k" }] } true
  exact ⟨_, _, hagree.rel_of_ok rfl rfl, rfl, rfl, rfl, rfl, rfl⟩

end Selector

end ManifestPatch
