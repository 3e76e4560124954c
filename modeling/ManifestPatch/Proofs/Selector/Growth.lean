import ManifestPatch.Proofs.Element.Alike
import ManifestPatch.Proofs.Selector.Resolution

/-!
# Resolution Survives Growth

A manifest **grows** if elements are appended to the children of some of its elements and texts
change, while attributes and the children that were there stay. What a selector found before is
then found after, at the same path: whatever a component demands of a child, it demands of that
child and of those before it, and these are the same. This is why several additions can be resolved
in the manifest as it is before any of them.

## Main definitions

* `Element.GrowsInto`: a tree with the same attributes and, at every element, children appended.

## Main results

* `Component.Picks.grows`: one step finds the same child.
* `Matches.grows`: components match the same path.
* `Selector.resolve_grows`: a target is found again.
-/

namespace ManifestPatch

/-! ### Growth -/

namespace Element

/-- An element **grows into** another if every attribute look-up has the same answer, and if its
children have grown into the first children of the other one by one and under their names. Other
children may follow. The names of the two and their texts may differ. -/
inductive GrowsInto : Element → Element → Prop
  | node {a b : Element} {kept added : List Element} (lookups : SameLookups a b)
      (children_eq : b.children = kept ++ added)
      (names_eq : kept.map Element.name = a.children.map Element.name)
      (below : List.Forall₂ GrowsInto a.children kept) : GrowsInto a b

variable {a b : Element}

/-- Attributes stay. -/
theorem GrowsInto.lookups (h : a.GrowsInto b) : SameLookups a b := by
  cases h with
  | node lookups _ _ _ => exact lookups

/-- Every element grows into itself. -/
theorem GrowsInto.refl (e : Element) : e.GrowsInto e := by
  induction e using inductionOn with
  | node e ih =>
      exact GrowsInto.node (fun _ => rfl) (List.append_nil _).symm rfl (List.forall₂_same.mpr ih)

/-- A child grows into one of the same name. -/
structure ChildGrowsInto (child child' : Element) : Prop where
  name_eq : child'.name = child.name
  grows : child.GrowsInto child'

/-- Children of the same names that have grown one by one. -/
theorem forall₂_childGrowsInto {children kept : List Element}
    (hnames : kept.map Element.name = children.map Element.name)
    (h : List.Forall₂ GrowsInto children kept) : List.Forall₂ ChildGrowsInto children kept := by
  induction h with
  | nil => exact List.Forall₂.nil
  | cons hchild _ ih =>
      rw [List.map_cons, List.map_cons, List.cons.injEq] at hnames
      exact List.Forall₂.cons ⟨hnames.1, hchild⟩ (ih hnames.2)

/-- The children of an element that has grown begin with those that were there. -/
theorem GrowsInto.exists_kept (h : a.GrowsInto b) :
    ∃ kept added, b.children = kept ++ added ∧ List.Forall₂ ChildGrowsInto a.children kept := by
  cases h with
  | @node _ _ kept added _ children_eq names_eq below =>
      exact ⟨kept, added, children_eq, forall₂_childGrowsInto names_eq below⟩

/-- **A child stays at its index**, and so do those before it. -/
theorem GrowsInto.exists_child (h : a.GrowsInto b) {i : Nat} {child : Element}
    (hi : a.children[i]? = some child) :
    ∃ child', b.children[i]? = some child' ∧ ChildGrowsInto child child' ∧
      List.Forall₂ ChildGrowsInto (a.children.take i) (b.children.take i) := by
  obtain ⟨kept, added, hb, hkept⟩ := h.exists_kept
  have hlt : i < kept.length := by
    rw [← hkept.length_eq]
    exact (List.getElem?_eq_some_iff.mp hi).1
  have hchild := rel_getElem? hkept i
  rw [hi, List.getElem?_eq_getElem hlt, Option.rel_some_some] at hchild
  refine ⟨kept[i], ?_, hchild, ?_⟩
  · rw [hb, List.getElem?_append_left hlt, List.getElem?_eq_getElem hlt]
  · rw [hb, List.take_append_of_le_length (Nat.le_of_lt hlt)]
    exact List.forall₂_take i hkept

/-- The element at a path has grown into the one at the same path. -/
theorem GrowsInto.exists_at? (h : a.GrowsInto b) {path : List Nat} {e : Element}
    (he : a.at? path = some e) : ∃ e', b.at? path = some e' ∧ e.GrowsInto e' := by
  induction path generalizing a b with
  | nil =>
      obtain rfl : a = e := Option.some.inj he
      exact ⟨b, rfl, h⟩
  | cons i path ih =>
      cases hi : a.children[i]? with
      | none => simp [at?, hi] at he
      | some child =>
          rw [at?, hi] at he
          obtain ⟨child', hi', hchild, -⟩ := h.exists_child hi
          obtain ⟨e', he', hgrows⟩ := ih hchild.grows he
          refine ⟨e', ?_, hgrows⟩
          rw [at?, hi']
          exact he'

end Element

open Element

/-! ### One step -/

namespace Component

variable {c : Component}

/-- What a component demands of a child, given those before it, it finds again after growth. The
demand is about names and attributes alone, and both stay. -/
theorem FirstAfter.grows {before before' : List Element} {child child' : Element}
    (hbefore : List.Forall₂ ChildGrowsInto before before') (hchild : ChildGrowsInto child child')
    (h : c.FirstAfter before child) : c.FirstAfter before' child' := by
  rw [FirstAfter] at h ⊢
  cases hc : c.predicate with
  | none =>
      rw [hc] at h
      intro sibling' hmem
      obtain ⟨sibling, hsibling, hgrows⟩ := exists_of_forall₂_of_mem hbefore hmem
      rw [hgrows.name_eq]
      exact h sibling hsibling
  | some predicate =>
      rw [hc] at h
      cases predicate with
      | position ordinal =>
          have hnames : before'.map Element.name = before.map Element.name := by
            rw [← List.forall₂_eq_eq_eq, List.forall₂_map_left_iff, List.forall₂_map_right_iff]
            exact (hbefore.imp fun _ _ hgrows => hgrows.name_eq).flip
          have hcount : before'.countP (fun sibling => sibling.name == c.name) =
              before.countP fun sibling => sibling.name == c.name := by
            have := congrArg (List.countP (· == c.name)) hnames
            rwa [List.countP_map, List.countP_map] at this
          simpa only [hcount] using h
      | attributeIs name value =>
          obtain ⟨hvalue, hfirst⟩ := h
          refine ⟨(hchild.grows.lookups name).symm.trans hvalue, ?_⟩
          intro sibling' hmem hname
          obtain ⟨sibling, hsibling, hgrows⟩ := exists_of_forall₂_of_mem hbefore hmem
          rw [← hgrows.grows.lookups name]
          exact hfirst sibling hsibling (hgrows.name_eq.symm.trans hname)

/-- **One step** picks the same child after growth. -/
theorem Picks.grows {a b child : Element} {i : Nat} (hp : c.Picks a i child)
    (h : a.GrowsInto b) : ∃ child', c.Picks b i child' ∧ child.GrowsInto child' := by
  obtain ⟨child', hi', hchild, hbefore⟩ := h.exists_child hp.at_index
  exact ⟨child', ⟨hi', hchild.name_eq.trans hp.name_eq, hp.first.grows hbefore hchild⟩,
    hchild.grows⟩

end Component

/-! ### The whole path -/

/-- **Components match the same path** after growth. -/
theorem Matches.grows {components : List Component} {a b : Element} {path : List Nat}
    (hm : Matches components a path) (h : a.GrowsInto b) : Matches components b path := by
  induction hm generalizing b with
  | nil e => exact Matches.nil b
  | cons hpicks _ ih =>
      obtain ⟨child', hpicks', hchild⟩ := hpicks.grows h
      exact Matches.cons hpicks' (ih hchild)

namespace Selector

/-- What a selector denotes at two roots, with leaves at the same path, has the same name, and
targets at the same path. -/
theorem Denotes.eq_of_leaf_path_eq {s : Selector} {root root' : Element} {sibling : Bool}
    {t t' : Target} (h : s.Denotes root sibling t) (h' : s.Denotes root' sibling t')
    (hleaf : t'.leaf.path = t.leaf.path) :
    t'.target.path = t.target.path ∧ t'.name = t.name ∧ t'.isAttribute = t.isAttribute := by
  cases ha : s.targetsAttribute with
  | true =>
      obtain ⟨hattribute, hname, htarget⟩ := h.of_attribute ha
      obtain ⟨hattribute', hname', htarget'⟩ := h'.of_attribute ha
      rw [← Component.attributeName?_eq_some_iff] at hname hname'
      refine ⟨?_, Option.some.inj (hname'.symm.trans hname), hattribute'.trans hattribute.symm⟩
      rw [htarget, htarget', hleaf]
  | false =>
      obtain ⟨hattribute, hname⟩ := h.of_element ha
      obtain ⟨hattribute', hname'⟩ := h'.of_element ha
      refine ⟨?_, hname'.trans hname.symm, hattribute'.trans hattribute.symm⟩
      cases sibling with
      | false => rw [h.in_place ha rfl, h'.in_place ha rfl, hleaf]
      | true => rw [(h.at_parent ha rfl).2.1, (h'.at_parent ha rfl).2.1, hleaf]

/-- **A target once found is found again after growth**: at the same path from the root, with the
target of the edit at the same path too, under the same name, and with the same value if an
attribute is addressed. The leaf is what the leaf before has grown into. -/
theorem resolve_grows {root root' : Element} (h : root.GrowsInto root') {s : Selector}
    {sibling : Bool} {t : Target} (ht : s.resolve root sibling = .ok t) :
    ∃ t', s.resolve root' sibling = .ok t' ∧ t'.leaf.path = t.leaf.path ∧
      t'.target.path = t.target.path ∧ t'.name = t.name ∧ t'.isAttribute = t.isAttribute ∧
      t'.attributeValue? = t.attributeValue? ∧ t.leaf.element.GrowsInto t'.leaf.element := by
  have hden := denotes_of_resolve ht
  have hmatches := hden.leaf_matches.grows h
  obtain ⟨t', ht'⟩ := exists_resolve_of_matches hmatches (not_root_of_resolve ht)
  have hden' := denotes_of_resolve ht'
  have hleaf : t'.leaf.path = t.leaf.path := hden'.leaf_matches.unique hmatches
  obtain ⟨htarget, hname, hattribute⟩ := hden.eq_of_leaf_path_eq hden' hleaf
  have hgrows : t.leaf.element.GrowsInto t'.leaf.element := by
    obtain ⟨e', he', hgrows⟩ := h.exists_at? hden.leaf_in
    rw [← hleaf, hden'.leaf_in] at he'
    exact Option.some.inj he' ▸ hgrows
  refine ⟨t', ht', hleaf, htarget, hname, hattribute, ?_, hgrows⟩
  rw [Target.attributeValue?, Target.attributeValue?, hattribute, hname, hgrows.lookups t.name]

/-- The second of two children of a name has an attribute that is addressed. A child of that name
is appended at the root and another one below the second, and its text changes. -/
theorem resolve_grows_appended :
    ∃ t t' : Target,
      resolve { root := { name := "R" }
                steps := [{ name := "a", predicate := some (.position 2) }, { name := "@k" }] }
        { name := "R", children := [{ name := "a" }, { name := "b" },
          { name := "a", attributes := [("k", "1")] }] } true = .ok t ∧
      resolve { root := { name := "R" }
                steps := [{ name := "a", predicate := some (.position 2) }, { name := "@k" }] }
        { name := "R", children := [{ name := "a" }, { name := "b" },
          { name := "a", attributes := [("k", "1")], text := some "new",
            children := [{ name := "a" }] },
          { name := "a", attributes := [("k", "2")] }] } true = .ok t' ∧
      t.leaf.path = [2] ∧ t'.leaf.path = t.leaf.path ∧ t'.target.path = t.target.path ∧
      t'.attributeValue? = t.attributeValue? ∧ t.attributeValue? = some "1" := by
  have hsecond : GrowsInto { name := "a", attributes := [("k", "1")] }
      { name := "a", attributes := [("k", "1")], text := some "new",
        children := [{ name := "a" }] } :=
    GrowsInto.node (fun _ => rfl) (List.nil_append _).symm rfl List.Forall₂.nil
  have hroot : GrowsInto
      { name := "R", children := [{ name := "a" }, { name := "b" },
        { name := "a", attributes := [("k", "1")] }] }
      { name := "R", children := [{ name := "a" }, { name := "b" },
        { name := "a", attributes := [("k", "1")], text := some "new",
          children := [{ name := "a" }] },
        { name := "a", attributes := [("k", "2")] }] } :=
    GrowsInto.node (fun _ => rfl)
      (List.take_append_drop 3 _).symm rfl
      (.cons (.refl _) (.cons (.refl _) (.cons hsecond .nil)))
  have ht : resolve
      { root := { name := "R" }
        steps := [{ name := "a", predicate := some (.position 2) }, { name := "@k" }] }
      { name := "R", children := [{ name := "a" }, { name := "b" },
        { name := "a", attributes := [("k", "1")] }] } true = .ok _ := rfl
  obtain ⟨t', ht', hleaf, htarget, -, -, hvalue, -⟩ := resolve_grows hroot ht
  exact ⟨_, t', ht, ht', rfl, hleaf, htarget, hvalue, rfl⟩

end Selector

end ManifestPatch
