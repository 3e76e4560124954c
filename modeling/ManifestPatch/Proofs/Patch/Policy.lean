import ManifestPatch.Proofs.Patch.Accounting
import ManifestPatch.Proofs.Pointwise

/-!
# Aborting and Skipping

The two policies differ in one thing: a node whose selector does not parse is passed over by the
one and ends the extraction with the other. So an extraction that aborts can be read off one that
skips. The diagnostics are searched for the first one about a selector; if there is one, it is the
error, and if there is none, the two extractions are the same. A node of no kind has a diagnostic
of another sort before its selector is looked at, and never ends an extraction.

## Main definitions

* `Diagnostic.refusal?`: the error that a diagnostic is if the policy is to abort.

## Main results

* `Extraction.ofNodes_abort`: an extraction that aborts, in terms of one that skips.
* `Extraction.ofPatch_abort_stops_at_first`: the policies agree up to the first selector that does
  not parse.
-/

namespace ManifestPatch

namespace Diagnostic

/-- The **error** that a diagnostic is if the policy is to abort, and none if it is not about a
selector. -/
def refusal? (d : Diagnostic) : Option PatchError :=
  match d.reason with
  | .unsupportedKind _ => none
  | .malformedSelector error => some (.malformedSelector d.index error)

/-- A diagnostic is no error exactly if it is not about a selector. -/
theorem refusal?_eq_none_iff {d : Diagnostic} :
    d.refusal? = none ↔ ∀ error, d.reason ≠ .malformedSelector error := by
  rw [refusal?]
  cases d.reason with
  | unsupportedKind kind => simp
  | malformedSelector error => simp

/-- A diagnostic that is an error has its index and its reason. -/
theorem refusal?_eq_some_iff {d : Diagnostic} {refusal : PatchError} :
    d.refusal? = some refusal ↔
      ∃ source, d.reason = .malformedSelector source ∧
        refusal = .malformedSelector d.index source := by
  rw [refusal?]
  cases d.reason with
  | unsupportedKind kind => simp
  | malformedSelector error => simp [eq_comm]

end Diagnostic

namespace Extraction

/-! ### The diagnostics of an extraction that skips -/

/-- The diagnostics of nodes are those whose reason applies to the node at their index. -/
theorem mem_diagnostics_iff {nodes : List Element} {d : Diagnostic} :
    d ∈ nodes.zipIdx.filterMap diagnostic? ↔
      ∃ node, nodes[d.index]? = some node ∧ d.reason.AppliesTo node := by
  simp only [List.mem_filterMap, diagnostic?_eq_some_iff, Prod.exists,
    List.mem_zipIdx_iff_getElem?]
  constructor
  · rintro ⟨node, i, hnode, rfl, happlies⟩
    exact ⟨node, hnode, happlies⟩
  · rintro ⟨node, hnode, happlies⟩
    exact ⟨node, d.index, hnode, rfl, happlies⟩

/-- The diagnostics of nodes are in the order of their indexes. -/
theorem pairwise_index_diagnostics (nodes : List Element) :
    (nodes.zipIdx.filterMap diagnostic?).Pairwise fun d d' => d.index < d'.index := by
  refine (pairwise_zipIdx nodes).filterMap _ fun entry entry' hlt d hd d' hd' => ?_
  rw [(diagnostic?_eq_some_iff.mp hd).1, (diagnostic?_eq_some_iff.mp hd').1]
  exact hlt

/-! ### The two policies -/

/-- **An extraction that aborts** ends with the first diagnostic of the one that skips which is an
error, and is the same if none is. The induction is on the nodes. -/
theorem ofNodes_abort (index : Nat) (nodes : List Element) :
    ofNodes .abort index nodes =
      match ((nodes.zipIdx index).filterMap diagnostic?).findSome? Diagnostic.refusal? with
      | some refusal => .error refusal
      | none => ofNodes .skip index nodes := by
  induction nodes generalizing index with
  | nil => rfl
  | cons node rest ih =>
      rw [ofNodes, ofNodes, List.zipIdx_cons, ih]
      cases hnode : Operation.ofNode node with
      | ok operation =>
          have hnone : diagnostic? (node, index) = none := by simp [diagnostic?, hnode]
          rw [List.filterMap_cons_none hnone]
          cases List.findSome? Diagnostic.refusal? _ with
          | none => rfl
          | some refusal => rfl
      | error reason =>
          have hsome : diagnostic? (node, index) = some { index, reason } := by
            simp [diagnostic?, hnode]
          rw [List.filterMap_cons_some hsome, List.findSome?_cons]
          cases reason with
          | malformedSelector source => rfl
          | unsupportedKind kind =>
              simp only [Diagnostic.refusal?]
              cases List.findSome? Diagnostic.refusal? _ with
              | none => rfl
              | some refusal => rfl

/-- An extraction from a whole patch either is refused, at the first diagnostic that is an error, or
is the same with both policies, and none is. -/
theorem ofPatch_abort_cases (patch : Element) :
    (∃ refusal, ofPatch .abort patch = .error refusal ∧
        (patch.children.zipIdx.filterMap diagnostic?).findSome? Diagnostic.refusal? =
          some refusal) ∨
      ofPatch .abort patch = ofPatch .skip patch ∧
        ∀ d ∈ patch.children.zipIdx.filterMap diagnostic?, d.refusal? = none := by
  have habort := ofNodes_abort 0 patch.children
  cases hfirst :
      (patch.children.zipIdx.filterMap diagnostic?).findSome? Diagnostic.refusal? with
  | some refusal =>
      rw [hfirst] at habort
      exact .inl ⟨refusal, habort, rfl⟩
  | none =>
      rw [hfirst] at habort
      exact .inr ⟨habort, List.findSome?_eq_none_iff.mp hfirst⟩

/-- No diagnostic is about a selector exactly if the selector of every node of a kind parses. -/
theorem forall_diagnostics_iff {nodes : List Element} :
    (∀ d ∈ nodes.zipIdx.filterMap diagnostic?, ∀ error, d.reason ≠ .malformedSelector error) ↔
      ∀ node ∈ nodes, node.name ∈ ["add", "remove", "replace"] →
        ∃ s, Selector.parse ((node.attribute? "sel").getD "") = .ok s := by
  constructor
  · intro h node hnode hkind
    obtain ⟨i, hi⟩ := List.mem_iff_getElem?.mp hnode
    cases hs : Selector.parse ((node.attribute? "sel").getD "") with
    | ok s => exact ⟨s, rfl⟩
    | error error =>
        have hmem : { index := i, reason := .malformedSelector error } ∈
            nodes.zipIdx.filterMap diagnostic? :=
          mem_diagnostics_iff.mpr ⟨node, hi, hkind, hs⟩
        exact absurd rfl (h _ hmem error)
  · rintro h ⟨i, reason⟩ hd error rfl
    obtain ⟨node, hnode, hkind, herror⟩ := mem_diagnostics_iff.mp hd
    obtain ⟨s, hs⟩ := h node (List.mem_of_getElem? hnode) hkind
    rw [hs] at herror
    exact absurd herror nofun

/-- The first diagnostic that is an error is about the first node of a kind whose selector does not
parse. -/
theorem exists_first_of_findSome? {nodes : List Element} {refusal : PatchError}
    (h : (nodes.zipIdx.filterMap diagnostic?).findSome? Diagnostic.refusal? = some refusal) :
    ∃ index source before after, refusal = .malformedSelector index source ∧
      nodes.zipIdx.filterMap diagnostic? =
        before ++ { index, reason := .malformedSelector source } :: after ∧
      (∀ d ∈ before, ∀ error, d.reason ≠ .malformedSelector error) ∧
      (∃ node, nodes[index]? = some node ∧ (Reason.malformedSelector source).AppliesTo node) ∧
      ∀ i < index, ∀ node, nodes[i]? = some node →
        ∀ error, ¬ (Reason.malformedSelector error).AppliesTo node := by
  obtain ⟨before, ⟨index, reason⟩, after, hsplit, hd, hbefore⟩ :=
    List.findSome?_eq_some_iff.mp h
  obtain ⟨source, hreason, rfl⟩ := Diagnostic.refusal?_eq_some_iff.mp hd
  obtain rfl : reason = .malformedSelector source := hreason
  have hnone : ∀ d ∈ before, ∀ error, d.reason ≠ .malformedSelector error :=
    fun d hmem => Diagnostic.refusal?_eq_none_iff.mp (hbefore d hmem)
  have hself := mem_diagnostics_iff.mp (hsplit ▸ List.mem_append_right before List.mem_cons_self)
  refine ⟨index, source, before, after, rfl, hsplit, hnone, hself, ?_⟩
  intro i hi node hnode error happlies
  -- the node would have a diagnostic, whose index places it before the first one
  have hmem : { index := i, reason := .malformedSelector error } ∈
      nodes.zipIdx.filterMap diagnostic? :=
    mem_diagnostics_iff.mpr ⟨node, hnode, happlies⟩
  have hascending := pairwise_index_diagnostics nodes
  rw [hsplit] at hmem hascending
  rcases List.mem_append.mp hmem with hmem | hmem
  · exact hnone _ hmem error rfl
  · rcases List.mem_cons.mp hmem with heq | hmem
    · exact absurd (congrArg Diagnostic.index heq) (Nat.ne_of_lt hi)
    · have hlt : index < i :=
        (List.pairwise_cons.mp (List.pairwise_append.mp hascending).2.1).1 _ hmem
      exact absurd hlt (Nat.lt_asymm hi)

/-- An extraction that aborts succeeds exactly if no diagnostic is about a selector. -/
theorem exists_ofPatch_abort_iff (patch : Element) :
    (∃ e, ofPatch .abort patch = .ok e) ↔
      ∀ d ∈ patch.children.zipIdx.filterMap diagnostic?,
        ∀ error, d.reason ≠ .malformedSelector error := by
  rcases ofPatch_abort_cases patch with ⟨refusal, habort, hfirst⟩ | ⟨habort, hnone⟩
  · obtain ⟨index, source, before, after, -, hsplit, -⟩ := exists_first_of_findSome? hfirst
    rw [habort, hsplit]
    constructor
    · rintro ⟨e, he⟩
      exact absurd he nofun
    · intro h
      exact absurd rfl (h _ (List.mem_append_right before List.mem_cons_self) source)
  · rw [habort]
    constructor
    · rintro - d hd
      exact Diagnostic.refusal?_eq_none_iff.mp (hnone d hd)
    · rintro -
      exact ⟨_, ofNodes_skip 0 patch.children⟩

/-- An extraction that aborts, and succeeds, is that of the other policy. -/
theorem ofPatch_skip_of_abort {patch : Element} {e : Extraction}
    (h : ofPatch .abort patch = .ok e) : ofPatch .skip patch = .ok e := by
  rcases ofPatch_abort_cases patch with ⟨refusal, habort, -⟩ | ⟨habort, -⟩
  · rw [habort] at h
    exact absurd h nofun
  · rw [← habort, h]

/-- The error of an extraction that aborts is the first diagnostic that is one. -/
theorem findSome?_of_ofPatch_abort {patch : Element} {refusal : PatchError}
    (h : ofPatch .abort patch = .error refusal) :
    (patch.children.zipIdx.filterMap diagnostic?).findSome? Diagnostic.refusal? =
      some refusal := by
  rcases ofPatch_abort_cases patch with ⟨refusal', habort, hfirst⟩ | ⟨habort, -⟩
  · obtain rfl : refusal' = refusal := Except.error.inj (habort.symm.trans h)
    exact hfirst
  · rw [habort, show ofPatch .skip patch = .ok _ from ofNodes_skip 0 patch.children] at h
    exact absurd h nofun

/-- **The policies agree up to the first selector that does not parse.** An extraction that skips
succeeds. One that aborts succeeds exactly if no diagnostic of the other is about a selector, and
then it is the same. Otherwise its error has the index and the reason of the first such diagnostic,
and no node before that one is of a kind and has a selector that does not parse. What nodes of no
kind hold, and where they stand, makes no difference to whether it succeeds. -/
theorem ofPatch_abort_stops_at_first (patch : Element) :
    ∃ e, ofPatch .skip patch = .ok e ∧
      ((∃ e', ofPatch .abort patch = .ok e') ↔
        ∀ d ∈ e.diagnostics, ∀ error, d.reason ≠ .malformedSelector error) ∧
      (∀ e', ofPatch .abort patch = .ok e' → e' = e) ∧
      (∀ refusal, ofPatch .abort patch = .error refusal →
        ∃ index source before after, refusal = .malformedSelector index source ∧
          e.diagnostics = before ++ { index, reason := .malformedSelector source } :: after ∧
          (∀ d ∈ before, ∀ error, d.reason ≠ .malformedSelector error) ∧
          (∃ node, patch.children[index]? = some node ∧
            (Reason.malformedSelector source).AppliesTo node) ∧
          ∀ i < index, ∀ node, patch.children[i]? = some node →
            ∀ error, ¬ (Reason.malformedSelector error).AppliesTo node) ∧
      ((∃ e', ofPatch .abort patch = .ok e') ↔
        ∀ node ∈ patch.children, node.name ∈ ["add", "remove", "replace"] →
          ∃ s, Selector.parse ((node.attribute? "sel").getD "") = .ok s) := by
  have hskip : ofPatch .skip patch = .ok _ := ofNodes_skip 0 patch.children
  have hiff := exists_ofPatch_abort_iff patch
  refine ⟨_, hskip, hiff, fun e' habort => ?_, fun refusal habort => ?_,
    hiff.trans forall_diagnostics_iff⟩
  · exact Except.ok.inj ((ofPatch_skip_of_abort habort).symm.trans hskip)
  · exact exists_first_of_findSome? (findSome?_of_ofPatch_abort habort)

/-- A node of no kind may have a selector that does not parse, and comes to nothing. An addition
without selector after it ends the extraction at index 2, though a removal follows that has none
either. -/
theorem ofPatch_abort_stops_at_first_third :
    ofPatch .abort
        { name := "Patch",
          children := [{ name := "merge", attributes := [("sel", "]")] },
            { name := "remove", attributes := [("sel", "/MPD/Period")] },
            { name := "add" }, { name := "remove" }] } =
        .error (.malformedSelector 2 (.empty "")) ∧
      ∃ e before after, ofPatch .skip
          { name := "Patch",
            children := [{ name := "merge", attributes := [("sel", "]")] },
              { name := "remove", attributes := [("sel", "/MPD/Period")] },
              { name := "add" }, { name := "remove" }] } = .ok e ∧
        e.diagnostics =
          before ++ { index := 2, reason := .malformedSelector (.empty "") } :: after ∧
        ∀ d ∈ before, ∀ error, d.reason ≠ .malformedSelector error := by
  have habort : ofPatch .abort
      { name := "Patch",
        children := [{ name := "merge", attributes := [("sel", "]")] },
          { name := "remove", attributes := [("sel", "/MPD/Period")] },
          { name := "add" }, { name := "remove" }] } =
      .error (.malformedSelector 2 (.empty "")) := by
    decide +kernel
  obtain ⟨e, hskip, -, -, hfirst, -⟩ := ofPatch_abort_stops_at_first
    { name := "Patch",
      children := [{ name := "merge", attributes := [("sel", "]")] },
        { name := "remove", attributes := [("sel", "/MPD/Period")] },
        { name := "add" }, { name := "remove" }] }
  obtain ⟨index, source, before, after, hrefusal, hsplit, hbefore, -⟩ := hfirst _ habort
  cases hrefusal
  exact ⟨habort, e, before, after, hskip, hsplit, hbefore⟩

end Extraction

end ManifestPatch
