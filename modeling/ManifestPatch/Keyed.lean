/-!
# Entries in Key Order

Lists of entries under text keys, kept in ascending order of the keys (by code point), each key
once. They hold the fields of a JSON object and the groups of an element's children.

## Main results

* `lookup_upsert_self`, `lookup_upsert_ne`: an entry is changed at its key and nowhere else.
* `Ascending.upsert`: a change keeps the keys in ascending order.
-/

namespace ManifestPatch.Keyed

variable {α : Type}

/-- The entries with the one at `key` changed, or added in its place in the order. -/
def upsert (key : String) (change : Option α → α) : List (String × α) → List (String × α)
  | [] => [(key, change none)]
  | (k, v) :: rest =>
    if key < k then (key, change none) :: (k, v) :: rest
    else if key = k then (k, change (some v)) :: rest
    else (k, v) :: upsert key change rest

/-- The entries with `value` at `key`, instead of what stood there. -/
def insert (key : String) (value : α) (entries : List (String × α)) : List (String × α) :=
  upsert key (fun _ => value) entries

/-- The entries of a list of pairs in any order; of a repeated key the last value counts. -/
def ofPairs (pairs : List (String × α)) : List (String × α) :=
  pairs.foldl (fun entries pair => insert pair.1 pair.2 entries) []

/-- The texts in ascending order, each once. -/
def sortedDistinct (texts : List String) : List String :=
  (ofPairs (texts.map fun text => (text, ()))).map Prod.fst

/-- The keys are in strictly ascending order. -/
def Ascending (entries : List (String × α)) : Prop :=
  entries.Pairwise fun a b => a.1 < b.1

theorem mem_upsert {key : String} {change : Option α → α} {entries : List (String × α)}
    {entry : String × α} (h : entry ∈ upsert key change entries) :
    entry.1 = key ∨ entry ∈ entries := by
  fun_induction upsert key change entries with
  | case1 => simp_all
  | case2 => exact (List.mem_cons.1 h).imp (congrArg Prod.fst) id
  | case3 => simp only [List.mem_cons] at h ⊢; rcases h with rfl | h <;> simp_all
  | case4 _ _ _ _ _ ih =>
    rcases List.mem_cons.1 h with rfl | h
    · simp
    · exact (ih h).imp_right (List.mem_cons_of_mem _)

/-- A change keeps the order of the keys. -/
theorem Ascending.upsert {key : String} {change : Option α → α} {entries : List (String × α)}
    (h : Ascending entries) : Ascending (upsert key change entries) := by
  fun_induction Keyed.upsert key change entries with
  | case1 => simp [Ascending]
  | case2 k v rest hlt =>
    refine List.pairwise_cons.2 ⟨fun entry hm => ?_, h⟩
    rcases List.mem_cons.1 hm with rfl | hm
    · exact hlt
    · exact String.lt_trans hlt ((List.pairwise_cons.1 h).1 entry hm)
  | case3 => exact List.pairwise_cons.2 ⟨(List.pairwise_cons.1 h).1, (List.pairwise_cons.1 h).2⟩
  | case4 k v rest hlt hne ih =>
    refine List.pairwise_cons.2 ⟨fun entry hm => ?_, ih (List.pairwise_cons.1 h).2⟩
    rcases mem_upsert hm with hk | hm
    · rw [hk]
      exact Classical.byContradiction fun hge =>
        hne (String.le_antisymm (String.not_lt.1 hge) (String.not_lt.1 hlt))
    · exact (List.pairwise_cons.1 h).1 entry hm

/-- At its key, a change is seen. -/
theorem lookup_upsert_self {key : String} {change : Option α → α} {entries : List (String × α)}
    (h : Ascending entries) :
    (upsert key change entries).lookup key = some (change (entries.lookup key)) := by
  fun_induction upsert key change entries with
  | case1 => simp
  | case2 k v rest hlt =>
    have absent : List.lookup key ((k, v) :: rest) = none := by
      refine List.lookup_eq_none_iff.2 fun entry hm => ?_
      have hkey : key < entry.1 := by
        rcases List.mem_cons.1 hm with rfl | hm
        · exact hlt
        · exact String.lt_trans hlt ((List.pairwise_cons.1 h).1 entry hm)
      exact bne_iff_ne.2 fun heq => String.lt_irrefl _ (heq ▸ hkey)
    rw [absent]
    simp
  | case3 => simp_all
  | case4 k v rest hlt hne ih =>
    simp [List.lookup_cons, beq_false_of_ne hne, ih (List.pairwise_cons.1 h).2]

/-- At every other key, a change is not seen. -/
theorem lookup_upsert_ne {key other : String} {change : Option α → α}
    {entries : List (String × α)} (hne : other ≠ key) :
    (upsert key change entries).lookup other = entries.lookup other := by
  fun_induction upsert key change entries with
  | case1 => simp [List.lookup_cons, beq_false_of_ne hne]
  | case2 => simp [List.lookup_cons, beq_false_of_ne hne]
  | case3 => simp [List.lookup_cons, beq_false_of_ne hne]
  | case4 k v rest hlt hne ih => simp [List.lookup_cons, ih]

end ManifestPatch.Keyed
