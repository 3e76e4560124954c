import ManifestPatch.Proofs.Document.Bookkeeping

/-!
# Remarks

Fields whose keys begin with `#` are **remarks**: comments, and the white space between elements.
They may stand in any object of a document: in an element, in an entry of its list of children, and
in an entry of their own. They are bookkeeping that has no effect, so that a document is read as if
they were not there.

As for values of the same effect, the relations of fields and of entries have a parameter, the
relation of the values below; it is closed for values as a whole in `Document.Remarked`.

## Main definitions

* `Document.FieldRemarked`, `Document.EntriesRemarked`: a field, or a list of entries, with remarks
  inserted.
* `Document.Remarked`: a value with remarks inserted wherever they may be.

## Main results

* `Document.Remarked.sameEffect`: remarks have no effect.
* `Document.Remarked.readElement_eq`: a value with remarks inserted is read as the same element.
-/

namespace ManifestPatch.Document

/-! ### Inserting remarks -/

/-- A list of entries with **remarks inserted**: in the entries that were there, and in others that
hold nothing else. -/
inductive EntriesRemarked (R : Json → Json → Prop) : List Json → List Json → Prop
  | nil : EntriesRemarked R [] []
  | entry {fields fields' : List (String × Json)} {entries entries' : List Json}
      (h : List.Forall₂ (SameKey R) (childFields fields) (childFields fields'))
      (rest : EntriesRemarked R entries entries') :
      EntriesRemarked R (.object fields :: entries) (.object fields' :: entries')
  | inserted {fields : List (String × Json)} {entries entries' : List Json}
      (h : childFields fields = []) (rest : EntriesRemarked R entries entries') :
      EntriesRemarked R entries (.object fields :: entries')

/-- A field of an object with **remarks inserted**: into the entries if it is the list of children,
and else into the value. -/
inductive FieldRemarked (R : Json → Json → Prop) : String × Json → String × Json → Prop
  | value {key : String} (hkey : key ≠ childrenKey) {v v' : Json} (h : R v v') :
      FieldRemarked R (key, v) (key, v')
  | list {entries entries' : List Json} (h : EntriesRemarked R entries entries') :
      FieldRemarked R (childrenKey, .array entries) (childrenKey, .array entries')

/-- A value with **remarks inserted**, into any object in it. -/
inductive Remarked : Json → Json → Prop
  | same (v : Json) : Remarked v v
  | array {items items' : List Json} (h : List.Forall₂ Remarked items items') :
      Remarked (.array items) (.array items')
  | object {fields fields' : List (String × Json)}
      (h : List.Forall₂ (FieldRemarked Remarked) (childFields fields) (childFields fields')) :
      Remarked (.object fields) (.object fields')

variable {v v' : Json} {fields fields' : List (String × Json)} {entries entries' : List Json}
  {R S : Json → Json → Prop}

/-! ### Remarks have no effect -/

/-- What is not inert is no remark. -/
theorem effectiveFields_childFields (fields : List (String × Json)) :
    effectiveFields (childFields fields) = effectiveFields fields := by
  rw [effectiveFields, effectiveFields, childFields, List.filter_filter]
  refine List.filter_congr fun field _ => ?_
  cases hinert : isInert field.1 with
  | true => rfl
  | false =>
      have hremark : Text.startsWith "#" field.1 = false := by
        rw [← Bool.not_eq_true]
        intro hremark
        rw [isInert_of_remark hremark] at hinert
        cases hinert
      rw [hremark]
      rfl

/-- A list of entries with remarks inserted has the same effect, if the values below do. -/
theorem EntriesRemarked.effectiveEntries_rel (h : EntriesRemarked R entries entries')
    (hvalue : ∀ v v', sizeOf v < sizeOf entries → R v v' → S v v') :
    List.Forall₂ (EntrySameEffect S) (effectiveEntries entries) (effectiveEntries entries') := by
  induction h with
  | nil => exact .nil
  | @entry fields fields' entries entries' h _ ih =>
      have hchildren : List.Forall₂ (SameKey S) (childFields fields) (childFields fields') := by
        refine forall₂_imp_of_mem h ?_
        rintro _ hmem _ ⟨key, hfield⟩
        refine .of key (hvalue _ _ ?_ hfield)
        have := sizeOf_lt_of_mem_fields (List.mem_filter.mp hmem).1
        simp only [List.cons.sizeOf_spec, Json.object.sizeOf_spec]
        omega
      have hrest := ih fun v v' hsize => hvalue v v' (by simp only [List.cons.sizeOf_spec]; omega)
      have hremark : isRemarkEntry (.object fields) = isRemarkEntry (.object fields') := by
        rw [isRemarkEntry, isRemarkEntry]
        generalize childFields fields = children, childFields fields' = children' at hchildren
        cases hchildren with
        | nil | cons _ _ => rfl
      rw [effectiveEntries, effectiveEntries, List.filter_cons, List.filter_cons, hremark]
      split
      · exact .cons (.object hchildren) hrest
      · exact hrest
  | @inserted fields entries entries' h _ ih =>
      have hremark : isRemarkEntry (.object fields) = true := by
        rw [isRemarkEntry, h]
        rfl
      rw [effectiveEntries, effectiveEntries, List.filter_cons, hremark]
      exact ih hvalue

/-- **Remarks have no effect**, wherever they are inserted. -/
theorem Remarked.sameEffect (h : Remarked v v') : SameEffect v v' := by
  induction hsize : sizeOf v using Nat.strongRecOn generalizing v v' with
  | ind size ih =>
  subst hsize
  cases h with
  | same => exact .same v
  | @array items items' h =>
      refine .array (forall₂_imp_of_mem h fun item hmem item' hitem => ih _ ?_ hitem rfl)
      have := List.sizeOf_lt_of_mem hmem
      simp only [Json.array.sizeOf_spec]
      omega
  | @object fields fields' h =>
      have hfields : List.Forall₂ (FieldSameEffect SameEffect) (childFields fields)
          (childFields fields') := by
        refine forall₂_imp_of_mem h ?_
        rintro _ hmem _ hfield
        -- the value of a field is a part of the object
        have hbelow := sizeOf_lt_of_mem_fields (List.mem_filter.mp hmem).1
        simp only [Json.object.sizeOf_spec] at ih
        cases hfield with
        | value hkey hvalue =>
            exact .value hkey (ih _ (by dsimp only at hbelow; omega) hvalue rfl)
        | list hentries =>
            refine .list (hentries.effectiveEntries_rel fun w w' hw hwvalue => ih _ ?_ hwvalue rfl)
            simp only [Json.array.sizeOf_spec] at hbelow
            omega
      refine .object ?_
      rw [← effectiveFields_childFields fields, ← effectiveFields_childFields fields']
      refine List.rel_filter (fun field field' hfield => ?_) hfields
      simp only [hfield.key_eq]

/-! ### Reading -/

/-- **A value with remarks inserted** is read as the same element, or refused for the same
reason. -/
theorem Remarked.readElement_eq (h : Remarked v v') (p name : String) :
    readElement p name v = readElement p name v' :=
  h.sameEffect.readElement_eq p name

/-- Remarks are no list of children. -/
theorem Remarked.listsChildren_eq (h : Remarked v v') : listsChildren v = listsChildren v' :=
  h.sameEffect.listsChildren_eq

end ManifestPatch.Document
