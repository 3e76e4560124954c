import ManifestPatch.Element.Basic
import ManifestPatch.Proofs.Pointwise

/-!
# Elements Alike up to Interleaving

A document that keeps its children under their tags does not say how children of different tags
interleave. What it does fix is the sequence under each tag. Two elements are **alike** if they
agree in what matters at one node, whatever that is taken to be, and if under every tag they have
alike children in the same sequence.

## Main definitions

* `Element.Throughout`: a condition holds at an element and at everything below it.
* `Element.Alike`: elements are the same at every node up to interleaving.
* `Element.SameLookups`, `Element.SameData`: two notions of being the same at one node.

## Main results

* `Element.inductionOn`: induction on a tree.
* `Element.Alike.refl`, `Element.Alike.symm`, `Element.Alike.trans`: being alike is an equivalence
  if being the same at one node is.
-/

namespace ManifestPatch

namespace Element

/-! ### Trees -/

/-- **Induction on a tree**: what holds of an element if it holds of all its children, holds of
every element. -/
@[elab_as_elim]
theorem inductionOn {motive : Element → Prop} (e : Element)
    (node : ∀ e, (∀ child ∈ e.children, motive child) → motive e) : motive e := by
  refine Element.rec (motive_1 := motive) (motive_2 := fun es => ∀ child ∈ es, motive child)
    ?_ ?_ ?_ e
  · intro name attributes children text ih
    exact node ⟨name, attributes, children, text⟩ ih
  · simp
  · intro head tail hhead htail
    simpa using ⟨hhead, htail⟩

/-- A condition holds **throughout** a tree: at its root and everywhere below. -/
inductive Throughout (holds : Element → Prop) : Element → Prop
  | node {e : Element} (here : holds e) (below : ∀ child ∈ e.children, Throughout holds child) :
      Throughout holds e

/-! ### Being alike -/

/-- Elements are **alike** if they are the same by themselves, and if under every tag they have
equally many children, alike one by one. -/
inductive Alike (same : Element → Element → Prop) : Element → Element → Prop
  | node {a b : Element} (here : same a b)
      (below : ∀ tag, List.Forall₂ (Alike same) (a.childrenNamed tag) (b.childrenNamed tag)) :
      Alike same a b

/-- Elements are the same by themselves if every **attribute look-up** has the same answer; their
names, their texts and the order of their attributes may differ. -/
def SameLookups (a b : Element) : Prop :=
  ∀ name, a.attribute? name = b.attribute? name

/-- Elements are the same by themselves if they have the same **name, attributes and text**. -/
structure SameData (a b : Element) : Prop where
  name_eq : a.name = b.name
  attributes_eq : a.attributes = b.attributes
  text_eq : a.text = b.text

variable {same same' : Element → Element → Prop} {a b c : Element}

/-- The children of a name are children. -/
theorem mem_children_of_mem_childrenNamed {tag : String} (h : a ∈ b.childrenNamed tag) :
    a ∈ b.children :=
  (List.mem_filter.mp h).1

/-- The children of a name have it. -/
theorem name_of_mem_childrenNamed {tag : String} (h : a ∈ b.childrenNamed tag) : a.name = tag :=
  eq_of_beq (List.mem_filter.mp h).2

/-- Without children, there is nothing below. -/
theorem Throughout.of_children_nil {holds : Element → Prop} (h : holds a) (ha : a.children = []) :
    Throughout holds a := by
  refine Throughout.node h fun child hchild => ?_
  rw [ha] at hchild
  exact absurd hchild List.not_mem_nil

/-- Alike elements are the same by themselves. -/
theorem Alike.here (h : Alike same a b) : same a b := by
  cases h with
  | node here _ => exact here

/-- Alike elements have alike children under every tag. -/
theorem Alike.childrenNamed (h : Alike same a b) (tag : String) :
    List.Forall₂ (Alike same) (a.childrenNamed tag) (b.childrenNamed tag) := by
  cases h with
  | node _ below => exact below tag

/-- Elements without children are alike if they are the same by themselves. -/
theorem Alike.of_children_nil (h : same a b) (ha : a.children = []) (hb : b.children = []) :
    Alike same a b := by
  refine Alike.node h fun tag => ?_
  rw [Element.childrenNamed, Element.childrenNamed, ha, hb]
  exact List.Forall₂.nil

/-- Every element is alike to itself. -/
theorem Alike.refl (hsame : ∀ e, same e e) (e : Element) : Alike same e e := by
  induction e using inductionOn with
  | node e ih =>
      refine Alike.node (hsame e) fun tag => List.forall₂_same.mpr ?_
      intro child hchild
      exact ih child (mem_children_of_mem_childrenNamed hchild)

/-- Being alike has no direction. -/
theorem Alike.symm (hsame : ∀ a b, same a b → same b a) (h : Alike same a b) :
    Alike same b a := by
  induction a using inductionOn generalizing b with
  | node a ih =>
      refine Alike.node (hsame a b h.here) fun tag => List.Forall₂.flip ?_
      refine forall₂_imp_of_mem (h.childrenNamed tag) ?_
      intro child hchild other hother
      exact ih child (mem_children_of_mem_childrenNamed hchild) hother

/-- Being alike passes on. -/
theorem Alike.trans (hsame : ∀ a b c, same a b → same b c → same a c) (h : Alike same a b)
    (h' : Alike same b c) : Alike same a c := by
  induction a using inductionOn generalizing b c with
  | node a ih =>
      refine Alike.node (hsame a b c h.here h'.here) fun tag => ?_
      refine forall₂_imp_of_mem (forall₂_comp (h.childrenNamed tag) (h'.childrenNamed tag)) ?_
      rintro child hchild last ⟨middle, hfirst, hsecond⟩
      exact ih child (mem_children_of_mem_childrenNamed hchild) hfirst hsecond

theorem SameData.symm (h : SameData a b) : SameData b a :=
  ⟨h.name_eq.symm, h.attributes_eq.symm, h.text_eq.symm⟩

theorem SameData.trans (h : SameData a b) (h' : SameData b c) : SameData a c :=
  ⟨h.name_eq.trans h'.name_eq, h.attributes_eq.trans h'.attributes_eq, h.text_eq.trans h'.text_eq⟩

end Element

end ManifestPatch
