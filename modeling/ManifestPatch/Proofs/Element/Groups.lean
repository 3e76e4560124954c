import ManifestPatch.Element.Basic
import ManifestPatch.Proofs.Keyed
import Mathlib.Algebra.GroupWithZero.Nat

/-!
# Groups of Elements

The groups of an element are built by pushing its children one after the other. What they are is
stated here without the pushing: under each name that occurs stand the elements of that name in
their order, and the names ascend. The step lemma is that one push keeps this, and the run lemma
that all of them do. So the groups hold every child once, and all that they forget is how children
of different names interleave.

## Main definitions

* `Element.Groups.Sorts`: the groups hold exactly the given elements, sorted by name.

## Main results

* `Element.sorts_groups`: the groups of an element sort its children.
* `Element.Groups.Sorts.unique`: only one list of groups sorts given elements.
* `Element.perm_flatMap_groups`: the groups hold the children, each as often as it occurs.
* `Element.groups_eq_iff`: when the groups of two elements are equal.
-/

namespace ManifestPatch

/-! ### Sorting by name -/

namespace Element

/-- Groups **sort** elements if the names ascend, and a group stands under a name exactly if it is
all elements of that name, in their order, and there are any. -/
structure Groups.Sorts (groups : Groups) (elements : List Element) : Prop where
  ascending : Keyed.Ascending groups
  mem_iff : ∀ name members, (name, members) ∈ groups ↔
    members ≠ [] ∧ members = elements.filter fun e => e.name == name

/-- In groups that sort elements, a look-up finds the elements of a name. -/
theorem Groups.Sorts.lookup_getD {groups : Groups} {elements : List Element}
    (h : groups.Sorts elements) (name : String) :
    (groups.lookup name).getD [] = elements.filter fun e => e.name == name := by
  cases hl : groups.lookup name with
  | some members =>
      exact ((h.mem_iff name members).mp (h.ascending.mem_iff_lookup_eq_some.mpr hl)).2
  | none =>
      cases hf : elements.filter fun e => e.name == name with
      | nil => rfl
      | cons first others =>
          have hmem := (h.mem_iff name (first :: others)).mpr ⟨List.cons_ne_nil _ _, hf.symm⟩
          rw [h.ascending.mem_iff_lookup_eq_some, hl] at hmem
          exact absurd hmem (by simp)

/-- No groups sort no elements. -/
theorem Groups.sorts_nil : Groups.Sorts [] [] where
  ascending := List.Pairwise.nil
  mem_iff := by simp

/-- One push keeps groups sorting the elements so far. -/
theorem Groups.Sorts.push {groups : Groups} {elements : List Element} (h : groups.Sorts elements)
    (child : Element) : (groups.push child).Sorts (elements ++ [child]) where
  ascending := h.ascending.upsert
  mem_iff := by
    intro name members
    rw [Groups.push, h.ascending.upsert.mem_iff_lookup_eq_some, List.filter_append]
    by_cases hname : name = child.name
    · subst hname
      rw [Keyed.lookup_upsert_self h.ascending, h.lookup_getD, Option.some.injEq]
      constructor
      · rintro rfl
        simp
      · rintro ⟨-, rfl⟩
        simp
    · rw [Keyed.lookup_upsert_ne hname, ← h.ascending.mem_iff_lookup_eq_some, h.mem_iff]
      simp [Ne.symm hname]

/-- Pushing elements one after the other keeps groups sorting the elements so far. -/
theorem Groups.Sorts.foldl_push {groups : Groups} {elements : List Element}
    (h : groups.Sorts elements) (children : List Element) :
    (children.foldl Groups.push groups).Sorts (elements ++ children) := by
  induction children generalizing groups elements with
  | nil =>
      rw [List.append_nil]
      exact h
  | cons child children ih =>
      rw [List.foldl_cons, List.append_cons]
      exact ih (h.push child)

/-- **The groups of an element sort its children.** -/
theorem sorts_groups (e : Element) : e.groups.Sorts e.children :=
  Groups.sorts_nil.foldl_push e.children

/-- Only one list of groups sorts given elements. -/
theorem Groups.Sorts.unique {groups groups' : Groups} {elements : List Element}
    (h : groups.Sorts elements) (h' : groups'.Sorts elements) : groups = groups' := by
  refine h.ascending.eq_of_mem_iff h'.ascending ?_
  rintro ⟨name, members⟩
  rw [h.mem_iff, h'.mem_iff]

/-! ### The groups of an element -/

variable {e a b : Element} {tag : String}

/-- An entry of the groups of an element is all its children of a name, if there are any. -/
theorem mem_groups_iff {members : List Element} :
    (tag, members) ∈ e.groups ↔ members ≠ [] ∧ members = e.childrenNamed tag :=
  (sorts_groups e).mem_iff tag members

/-- There is an entry under a tag exactly if there is a child of that name. -/
theorem exists_mem_groups_iff :
    (∃ members, (tag, members) ∈ e.groups) ↔ ∃ child ∈ e.children, child.name = tag := by
  simp [mem_groups_iff, childrenNamed]

/-- The first child of a name stands first under it. -/
theorem firstChild?_of_mem_groups {members : List Element} (h : (tag, members) ∈ e.groups) :
    e.firstChild? tag = members.head? := by
  rw [(mem_groups_iff.mp h).2, head?_childrenNamed]

/-- There is no first child of a name exactly if there is no entry under it. -/
theorem firstChild?_eq_none_iff :
    e.firstChild? tag = none ↔ ∀ members, (tag, members) ∉ e.groups := by
  rw [← not_exists, exists_mem_groups_iff, firstChild?, List.find?_eq_none]
  simp

/-- One push adds the element to all that are in the groups. -/
theorem Groups.perm_flatMap_push (groups : Groups) (child : Element) :
    ((groups.push child).flatMap Prod.snd).Perm (groups.flatMap Prod.snd ++ [child]) :=
  Keyed.perm_flatMap_upsert (by simp) (fun members => by simp) groups

/-- Pushing elements one after the other adds them to all that are in the groups. -/
theorem Groups.perm_flatMap_foldl_push (groups : Groups) (children : List Element) :
    ((children.foldl Groups.push groups).flatMap Prod.snd).Perm
      (groups.flatMap Prod.snd ++ children) := by
  induction children generalizing groups with
  | nil => simp
  | cons child children ih =>
      rw [List.foldl_cons, List.append_cons]
      exact (ih _).trans ((groups.perm_flatMap_push child).append_right _)

/-- **The groups of an element hold its children**, each as often as it occurs. -/
theorem perm_flatMap_groups (e : Element) : (e.groups.flatMap Prod.snd).Perm e.children := by
  exact Groups.perm_flatMap_foldl_push [] e.children

/-- The sizes of the groups make up the number of children. -/
theorem sum_length_groups (e : Element) :
    (e.groups.map fun group => group.2.length).sum = e.children.length := by
  rw [← e.perm_flatMap_groups.length_eq, List.length_flatMap]

/-- **Groups are equal** exactly if the children of every name are the same sequence. -/
theorem groups_eq_iff :
    a.groups = b.groups ↔ ∀ tag, a.childrenNamed tag = b.childrenNamed tag := by
  constructor
  · intro h tag
    rw [childrenNamed, childrenNamed, ← (sorts_groups a).lookup_getD, h,
      (sorts_groups b).lookup_getD]
  · intro h
    refine (sorts_groups a).unique ⟨(sorts_groups b).ascending, fun name members => ?_⟩
    rw [(sorts_groups b).mem_iff]
    have := h name
    rw [childrenNamed, childrenNamed] at this
    rw [this]

end Element

end ManifestPatch
