import ManifestPatch.Element.Basic
import ManifestPatch.Proofs.Keyed

/-!
# Attributes of Elements

Setting attributes one after the other on an element without any gives them in that order, as long
as no name comes twice. A document keeps attributes in the order of its keys, so what is read from
it has them **sorted by name** at every node, and is otherwise the tree that was written.

## Main definitions

* `Element.sortAttributes`: a tree with the attributes sorted by name at every node.

## Main results

* `Element.setAttributes_of_nodup`: attributes that are set are listed in that order.
* `Element.eq_sortByName`: the only ascending list of given attributes.
-/

namespace ManifestPatch

namespace Element

/-! ### Setting attributes -/

/-- Setting attributes changes nothing but the attributes. -/
theorem setAttributes_eq (e : Element) (pairs : List (String × String)) :
    e.setAttributes pairs =
      { e with
        attributes := pairs.foldl (fun attributes pair => setIn pair.1 pair.2 attributes)
          e.attributes } := by
  induction pairs generalizing e with
  | nil =>
      cases e
      rfl
  | cons pair pairs ih =>
      have hstep : e.setAttributes (pair :: pairs) =
          (e.setAttribute pair.1 pair.2).setAttributes pairs := rfl
      rw [hstep, ih]
      rfl

@[simp] theorem name_setAttributes (e : Element) (pairs : List (String × String)) :
    (e.setAttributes pairs).name = e.name := by
  rw [setAttributes_eq]

@[simp] theorem children_setAttributes (e : Element) (pairs : List (String × String)) :
    (e.setAttributes pairs).children = e.children := by
  rw [setAttributes_eq]

/-- An attribute of a new name is set at the end. -/
theorem setIn_of_notMem {name value : String} {attributes : List (String × String)}
    (h : name ∉ attributes.map Prod.fst) :
    setIn name value attributes = attributes ++ [(name, value)] := by
  induction attributes with
  | nil => rfl
  | cons pair rest ih =>
      obtain ⟨key, old⟩ := pair
      rw [List.map_cons, List.mem_cons, not_or] at h
      rw [setIn, if_neg (Ne.symm h.1), ih h.2]
      rfl

/-- Attributes of new names, none of them twice, are set at the end in their order. -/
theorem foldl_setIn_of_nodup {attributes pairs : List (String × String)}
    (h : ((attributes ++ pairs).map Prod.fst).Nodup) :
    pairs.foldl (fun attributes pair => setIn pair.1 pair.2 attributes) attributes =
      attributes ++ pairs := by
  induction pairs generalizing attributes with
  | nil => rw [List.foldl_nil, List.append_nil]
  | cons pair pairs ih =>
      have hnew : pair.1 ∉ attributes.map Prod.fst := by
        rw [List.map_append, List.map_cons] at h
        intro hmem
        exact (List.nodup_append.mp h).2.2 pair.1 hmem pair.1 List.mem_cons_self rfl
      rw [List.append_cons] at h ⊢
      rw [List.foldl_cons, setIn_of_notMem hnew, ih h]

/-- **Attributes that are set** on an element without any are listed in that order. -/
theorem setAttributes_of_nodup {e : Element} {pairs : List (String × String)}
    (he : e.attributes = []) (h : (pairs.map Prod.fst).Nodup) :
    e.setAttributes pairs = { e with attributes := pairs } := by
  rw [setAttributes_eq, he, foldl_setIn_of_nodup (by simpa using h), List.nil_append]

/-! ### Sorting by name -/

/-- The attributes in ascending order of their names. -/
def sortByName (attributes : List (String × String)) : List (String × String) :=
  attributes.mergeSort fun a b => decide (a.1 ≤ b.1)

/-- Sorting keeps the attributes. -/
theorem mem_sortByName {attributes : List (String × String)} {pair : String × String} :
    pair ∈ sortByName attributes ↔ pair ∈ attributes :=
  (List.mergeSort_perm attributes _).mem_iff

/-- Sorted attributes strictly ascend if no name comes twice. -/
theorem ascending_sortByName {attributes : List (String × String)}
    (h : (attributes.map Prod.fst).Nodup) : Keyed.Ascending (sortByName attributes) := by
  have hle : (sortByName attributes).Pairwise fun a b => a.1 ≤ b.1 := by
    refine (List.pairwise_mergeSort ?_ ?_ attributes).imp of_decide_eq_true
    · intro a b c hab hbc
      exact decide_eq_true (String.le_trans (of_decide_eq_true hab) (of_decide_eq_true hbc))
    · intro a b
      rw [Bool.or_eq_true, decide_eq_true_iff, decide_eq_true_iff]
      exact String.le_total a.1 b.1
  have hne : (sortByName attributes).Pairwise fun a b => a.1 ≠ b.1 := by
    have hperm := (List.mergeSort_perm attributes fun a b => decide (a.1 ≤ b.1)).map Prod.fst
    exact List.pairwise_map.mp (hperm.nodup_iff.mpr h)
  refine (hle.and hne).imp ?_
  rintro a b ⟨hab, hne⟩
  exact Classical.byContradiction fun hlt =>
    hne (String.le_antisymm hab (String.not_lt.mp hlt))

/-- **The only ascending list** of given attributes is the one sorted by name. -/
theorem eq_sortByName {attributes sorted : List (String × String)}
    (h : (attributes.map Prod.fst).Nodup) (hsorted : Keyed.Ascending sorted)
    (hmem : ∀ pair, pair ∈ sorted ↔ pair ∈ attributes) : sorted = sortByName attributes := by
  refine hsorted.eq_of_mem_iff (ascending_sortByName h) fun pair => ?_
  rw [hmem, mem_sortByName]

mutual

/-- The tree with the attributes **sorted by name** at every node. -/
def sortAttributes : Element → Element
  | ⟨name, attributes, children, text⟩ =>
    ⟨name, sortByName attributes, sortAttributesAll children, text⟩

/-- The trees with the attributes sorted by name at every node. -/
def sortAttributesAll : List Element → List Element
  | [] => []
  | child :: rest => child.sortAttributes :: sortAttributesAll rest

end

theorem sortAttributesAll_eq_map (es : List Element) :
    sortAttributesAll es = es.map sortAttributes := by
  induction es with
  | nil => rfl
  | cons e es ih => rw [sortAttributesAll, ih, List.map_cons]

/-- Sorting goes through the children. -/
theorem sortAttributes_eq (e : Element) :
    e.sortAttributes =
      { e with
        attributes := sortByName e.attributes
        children := e.children.map sortAttributes } := by
  cases e
  rw [sortAttributes, sortAttributesAll_eq_map]

@[simp] theorem name_sortAttributes (e : Element) : e.sortAttributes.name = e.name := by
  rw [sortAttributes_eq]

/-- Sorting attributes does not mix children of different names. -/
theorem childrenNamed_sortAttributes (e : Element) (tag : String) :
    e.sortAttributes.childrenNamed tag = (e.childrenNamed tag).map sortAttributes := by
  rw [sortAttributes_eq, childrenNamed, childrenNamed, List.filter_map]
  simp [Function.comp_def]

end Element

end ManifestPatch
