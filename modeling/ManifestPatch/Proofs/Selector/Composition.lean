import ManifestPatch.Proofs.Selector.Resolution
import ManifestPatch.Proofs.Selector.RoundTrip

/-!
# Resolution Composes along the Path

The steps of one selector may be written behind another one that addresses an element. Resolving
the whole is then resolving the first, and the second in the tree below the element that was
found: a walk can be stopped at any step and taken up again there. Three things make this true. The
place before the one reached is only asked for at the end of a walk, and by then the second part
has set it anew. Only the last step of all can be an attribute, at which a walk breaks off. And a
step looks at the element alone, so that a walk in a tree below another one is the same walk, with
all paths **under** a common one.

## Main definitions

* `Place.under`, `Target.under`: a place or a target in a tree, seen from further up.
* `Selector.followedBy`: a selector with the steps of another one behind its own.

## Main results

* `SpellsPath.append`: texts of selectors are put together with a separator between them.
* `walk_append`: a walk is taken up where it was stopped.
* `walk_under`: a walk in a tree below another one.
* `resolve_composes`: resolving a selector in two parts.
-/

namespace ManifestPatch

/-! ### Seen from further up -/

/-- The place **under** a path: the path of the place is taken from an element further up, to which
the given path leads back. -/
def Place.under (path : List Nat) (place : Place) : Place :=
  { place with path := path ++ place.path }

/-- The target **under** a path: leaf and target are places under it. -/
def Target.under (path : List Nat) (t : Target) : Target :=
  { t with leaf := t.leaf.under path, target := t.target.under path }

/-- The same failure, that many levels further down. -/
def Miss.deeper (levels : Nat) : Miss → Miss
  | .unmatched level component => .unmatched (levels + level) component
  | .noParent => .noParent

/-- Every place is its element as a root, under the path of the place. -/
theorem Place.under_ofRoot (place : Place) :
    (Place.ofRoot place.element).under place.path = place := by
  rw [Place.under, Place.ofRoot, List.append_nil]

/-- An attribute has the same value from further up. -/
theorem Target.attributeValue?_under (path : List Nat) (t : Target) :
    (t.under path).attributeValue? = t.attributeValue? := rfl

/-- The children of a place under a path are under it too. -/
theorem Place.children_under (path : List Nat) (place : Place) :
    (place.under path).children = place.children.map (Place.under path) := by
  rw [Place.children, Place.children, List.map_map]
  refine List.map_congr_left fun entry _ => ?_
  simp only [Function.comp_apply, Place.under, List.append_assoc]

/-- **A step does not look at the path**: from a place under a path it selects the same child, under
that path. -/
theorem Component.select_under (c : Component) (path : List Nat) (place : Place) :
    c.select (place.under path) = (c.select place).map (Place.under path) := by
  have hnamed : (place.under path).childrenNamed c.name =
      (place.childrenNamed c.name).map (Place.under path) := by
    rw [Place.childrenNamed, Place.childrenNamed, Place.children_under, List.filter_map]
    rfl
  rw [Component.select, Component.select, hnamed]
  cases c.predicate with
  | none => exact List.head?_map
  | some predicate =>
      cases predicate with
      | position ordinal =>
          by_cases h0 : ordinal = 0
          · simp only [h0, if_true, Option.map_none]
          · simp only [h0, if_false, List.getElem?_map]
      | attributeIs name value => exact List.find?_map

namespace Selector

/-! ### Walks in two parts -/

variable {level : Nat} {before : Option Place} {place : Place} {steps : List Component}

/-- Where a walk starts from does not matter to it once a step is taken. -/
theorem walk_before (before' : Option Place) (h : steps ≠ []) :
    walk level before place steps = walk level before' place steps := by
  obtain ⟨step, rest, rfl⟩ := List.exists_cons_of_ne_nil h
  rw [walk, walk]

/-- **A walk is taken up where it was stopped**, if it was not stopped at an attribute. The induction
is on the steps of the first part; none of them is the last one of all. -/
theorem walk_append {more : List Component}
    (hlast : ∀ c, steps.getLast? = some c → c.isAttribute = false) (hmore : more ≠ []) :
    walk level before place (steps ++ more) =
      walk level before place steps >>= fun reached =>
        walk (level + steps.length) reached.1 reached.2 more := by
  induction steps generalizing level before place with
  | nil => rfl
  | cons step rest ih =>
      have hgo : ¬ ((rest ++ more).isEmpty && step.isAttribute) = true := by
        simp [hmore]
      have hgo' : ¬ (rest.isEmpty && step.isAttribute) = true := by
        intro hstop
        simp only [Bool.and_eq_true, List.isEmpty_iff] at hstop
        obtain ⟨rfl, hattribute⟩ := hstop
        exact absurd (hlast step rfl) (by simp [hattribute])
      rw [List.cons_append, walk, walk, if_neg hgo, if_neg hgo']
      cases step.select place with
      | none => rfl
      | some child =>
          have hrest : ∀ c, rest.getLast? = some c → c.isAttribute = false := by
            intro c hc
            refine hlast c ?_
            rw [List.getLast?_cons, hc, Option.getD_some]
          simp only [ih hrest, List.length_cons, Nat.add_right_comm level 1, Nat.add_assoc]

/-- **A walk in a tree below another one**: from a place under a path, the walk takes the same steps
and ends under that path, or fails at the same step, which is that many levels further down. -/
theorem walk_under (levels : Nat) (path : List Nat) :
    walk (levels + level) (before.map (Place.under path)) (place.under path) steps =
      match walk level before place steps with
      | .ok reached => .ok (reached.1.map (Place.under path), reached.2.under path)
      | .error miss => .error (miss.deeper levels) := by
  induction steps generalizing level before place with
  | nil => rfl
  | cons step rest ih =>
      rw [walk, walk, step.select_under]
      by_cases hstop : (rest.isEmpty && step.isAttribute) = true
      · rw [if_pos hstop, if_pos hstop]
        rfl
      · rw [if_neg hstop, if_neg hstop]
        cases step.select place with
        | none => rfl
        | some child =>
            simp only [Option.map_some]
            rw [Nat.add_assoc]
            exact @ih (level + 1) (some place) child

/-! ### Selectors in two parts -/

/-- A selector **followed by** the steps of another one. -/
def followedBy (a b : Selector) : Selector :=
  { a with steps := a.steps ++ b.steps }

variable {a b : Selector}

/-- What is at the end of the second part is at the end of the whole. -/
theorem leaf_followedBy (h : b.steps ≠ []) : (a.followedBy b).leaf = b.leaf := by
  have hlast := List.getLast?_eq_some_getLast h
  simp [leaf, followedBy, List.getLastD_eq_getLast?, List.getLast?_append, hlast]

/-- A selector that addresses an element has no step to an attribute in last place. -/
theorem isAttribute_getLast?_steps (h : a.targetsAttribute = false) :
    ∀ c, a.steps.getLast? = some c → c.isAttribute = false := by
  intro c hc
  have hleaf : a.leaf = c := by rw [leaf, List.getLastD_eq_getLast?, hc, Option.getD_some]
  rw [← hleaf]
  exact h

/-- A selector that addresses an element is resolved to where its walk ends. -/
theorem resolve_element_eq (h : a.targetsAttribute = false) (root : Element) :
    a.resolve root false =
      walk 1 none (.ofRoot root) a.steps >>= fun reached =>
        .ok { name := a.leaf.name, isAttribute := false, leaf := reached.2,
              target := reached.2 } := by
  have hname : a.leaf.attributeName? = none := by
    rwa [targetsAttribute, Component.isAttribute, Option.isSome_eq_false_iff,
      Option.isNone_iff_eq_none] at h
  rw [resolve, hname]
  rfl

/-- **Resolving a selector in two parts** is resolving the first, and the second at the element that
was found. -/
theorem resolve_followedBy (ha : a.targetsAttribute = false) (hb : b.steps ≠ []) (root : Element)
    (sibling : Bool) :
    (a.followedBy b).resolve root sibling =
      a.resolve root false >>= fun t =>
        match b.resolve t.leaf.element sibling with
        | .ok r => .ok (r.under t.leaf.path)
        | .error miss => .error (miss.deeper a.steps.length) := by
  have hwalk : walk 1 none (.ofRoot root) (a.steps ++ b.steps) =
      walk 1 none (.ofRoot root) a.steps >>= fun reached =>
        walk (1 + a.steps.length) reached.1 reached.2 b.steps :=
    walk_append (isAttribute_getLast?_steps ha) hb
  rw [resolve_element_eq ha, resolve, leaf_followedBy hb, followedBy, hwalk]
  cases walk 1 none (.ofRoot root) a.steps with
  | error miss => rfl
  | ok reached =>
      obtain ⟨parent, leaf⟩ := reached
      have hsecond := @walk_under 1 none (.ofRoot leaf.element) b.steps a.steps.length leaf.path
      rw [Place.under_ofRoot, Nat.add_comm, Option.map_none, walk_before parent hb] at hsecond
      simp only [bind, Except.bind, hsecond, resolve]
      cases walk 1 none (.ofRoot leaf.element) b.steps with
      | error miss => rfl
      | ok reached' =>
          obtain ⟨parent', leaf'⟩ := reached'
          cases b.leaf.attributeName? with
          | some name => rfl
          | none =>
              cases sibling with
              | false => rfl
              | true => cases parent' <;> rfl

/-! ### Texts in two parts -/

/-- **Texts of selectors are put together** with a separator between them, if the first has no
attribute in last place. The induction is on the pieces of the first. -/
theorem SpellsPath.append {s t : List Char} {components more : List Component}
    (h : SpellsPath s components)
    (hlast : ∀ c, components.getLast? = some c → c.isAttribute = false) (h' : SpellsPath t more) :
    SpellsPath (s ++ '/' :: t) (components ++ more) := by
  induction h with
  | @last piece component hpiece trailing =>
      have helement := spellsElement_iff.mpr ⟨hpiece, hlast component rfl⟩
      have hstep := SpellsPath.step helement trailing h'
      rwa [List.replicate_succ', List.append_assoc, List.append_assoc, ← List.append_assoc] at hstep
  | @step piece rest component others hpiece between hr ih =>
      have hstep := SpellsPath.step hpiece between (ih fun c hc => hlast c ?_)
      · rwa [← List.append_assoc] at hstep
      · rw [List.getLast?_cons, hc, Option.getD_some]

/-- Separators in front of the first text stay there. -/
theorem Spells.append {s t : List Char} {components more : List Component}
    (h : Spells s components)
    (hlast : ∀ c, components.getLast? = some c → c.isAttribute = false) (h' : SpellsPath t more) :
    Spells (s ++ '/' :: t) (components ++ more) := by
  obtain ⟨leading, hpath⟩ := h
  rw [List.append_assoc]
  exact Spells.intro leading (hpath.append hlast h')

/-- The components of a text but the first are those of a text that begins with a piece. -/
theorem Spells.exists_tail {s : List Char} {first : Component} {others : List Component}
    (h : Spells s (first :: others)) (hne : others ≠ []) : ∃ t, SpellsPath t others := by
  obtain ⟨-, hpath⟩ := h
  cases hpath with
  | last => exact absurd rfl hne
  | step _ _ hr => exact ⟨_, hr⟩

/-- The text of a selector that addresses an element, with what is written for the steps of another
one behind it, is read as the one followed by the other. -/
theorem parse_append {text text' : String} (ha : parse text = .ok a) (hb : parse text' = .ok b)
    (he : a.targetsAttribute = false) (hsteps : b.steps ≠ []) :
    parse (text ++ String.join (b.steps.map fun c => "/" ++ c.render)) = .ok (a.followedBy b) := by
  rw [parse_eq_ok_iff_spells] at ha hb ⊢
  obtain ⟨t, hothers⟩ := hb.exists_tail hsteps
  obtain ⟨rest, hrest, hspells⟩ := hothers.exists_render
  have htext : (text ++ String.join (b.steps.map fun c => "/" ++ c.render)).toList =
      text.toList ++ '/' :: rest := by
    rw [String.toList_append, String.toList_join, List.flatMap_map, ← hrest]
    simp
  have hlast : ∀ c, a.components.getLast? = some c → c.isAttribute = false := by
    intro c hc
    rw [a.getLast?_components, Option.some.injEq] at hc
    exact hc ▸ he
  rw [htext]
  exact ha.append hlast hspells

/-! ### Composition -/

/-- **Resolution composes along the path.** Take a selector that was read from a text and addresses
an element, and another one that was read and has two components or more. The text of the first,
with what is written for the components of the second after its first one, is read as the
components of the first and then those. Resolved at any root, it leads nowhere if the first does,
at the same step. Otherwise it leads where the second leads from the element that the first is
resolved to: nowhere, at the same step as many levels further down, or to the same name and kind of
target with the same value of the attribute, and to the same leaf and target, whose paths come
after that of the element. -/
theorem resolve_composes {text text' : String} (ha : parse text = .ok a) (hb : parse text' = .ok b)
    (he : a.targetsElement = true) (hcomponents : 2 ≤ b.components.length) :
    ∃ ab, parse (text ++ String.join (b.components.tail.map fun c => "/" ++ c.render)) = .ok ab ∧
      ab.components = a.components ++ b.components.tail ∧
      ∀ (root : Element) (sibling : Bool),
        (∀ miss, a.resolve root false = .error miss → ab.resolve root sibling = .error miss) ∧
        ∀ t, a.resolve root false = .ok t → t.leaf.In root ∧
          (∀ miss, b.resolve t.leaf.element sibling = .error miss →
            ab.resolve root sibling = .error (miss.deeper a.components.tail.length)) ∧
          ∀ r, b.resolve t.leaf.element sibling = .ok r →
            ∃ t', ab.resolve root sibling = .ok t' ∧ t'.name = r.name ∧
              t'.isAttribute = r.isAttribute ∧ t'.attributeValue? = r.attributeValue? ∧
              t'.leaf = r.leaf.under t.leaf.path ∧ t'.target = r.target.under t.leaf.path := by
  have he : a.targetsAttribute = false := by simpa [targetsElement] using he
  have hsteps : b.steps ≠ [] := by
    rintro hnil
    simp [components, hnil] at hcomponents
  refine ⟨a.followedBy b, parse_append ha hb he hsteps, rfl, fun root sibling => ?_⟩
  rw [resolve_followedBy he hsteps]
  refine ⟨fun miss hmiss => ?_, fun t ht => ⟨(denotes_of_resolve ht).leaf_in, ?_, ?_⟩⟩
  · rw [hmiss]
    rfl
  · intro miss hmiss
    simp only [ht, bind, Except.bind, hmiss]
    rfl
  · intro r hr
    refine ⟨r.under t.leaf.path, ?_, rfl, rfl, r.attributeValue?_under t.leaf.path, rfl, rfl⟩
    simp only [ht, bind, Except.bind, hr]

/-- The second of two children has a child with an attribute, and a selector for that attribute is
written behind one for the child's parent; the root of the second selector is not looked at, and
the separator at the end of the first text is one more. -/
theorem resolve_composes_second :
    ∃ ab t', parse "/MPD/a[2]/" = .ok
        { root := { name := "MPD" }, steps := [{ name := "a", predicate := some (.position 2) }] } ∧
      parse "x[@y=z]/c/@k" = .ok
        { root := { name := "x", predicate := some (.attributeIs "y" "z") },
          steps := [{ name := "c" }, { name := "@k" }] } ∧
      parse ("/MPD/a[2]/" ++ String.join (["c", "@k"].map fun c => "/" ++ c)) = .ok ab ∧
      ab.resolve { name := "MPD", children := [{ name := "a" }, { name := "b" },
        { name := "a", children := [{ name := "c", attributes := [("k", "1")] }] }] } true =
        .ok t' ∧
      t'.leaf.path = [2, 0] ∧ t'.attributeValue? = some "1" := by
  have ha : parse "/MPD/a[2]/" = .ok
      { root := { name := "MPD" }, steps := [{ name := "a", predicate := some (.position 2) }] } := by
    decide +kernel
  have hb : parse "x[@y=z]/c/@k" = .ok
      { root := { name := "x", predicate := some (.attributeIs "y" "z") },
        steps := [{ name := "c" }, { name := "@k" }] } := by
    decide +kernel
  obtain ⟨ab, hab, -, hresolve⟩ := resolve_composes ha hb (by decide +kernel) (by decide)
  obtain ⟨-, hlead⟩ := hresolve { name := "MPD", children := [{ name := "a" }, { name := "b" },
    { name := "a", children := [{ name := "c", attributes := [("k", "1")] }] }] } true
  obtain ⟨-, -, hfound⟩ := hlead _ rfl
  obtain ⟨t', ht', -, -, hvalue, hleaf, -⟩ := hfound _ rfl
  exact ⟨ab, t', ha, hb, hab, ht', by rw [hleaf]; rfl, by rw [hvalue]; rfl⟩

end Selector

end ManifestPatch
