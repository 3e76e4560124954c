import ManifestPatch.Keyed
import Mathlib.Data.List.Forall2
import Mathlib.Data.List.Induction
import Mathlib.Data.List.Nodup
import Mathlib.Data.List.Perm.Subperm

/-!
# Entries in Key Order

A look-up and a filter by keys do not see each other's keys. In entries that ascend a key stands
once: an entry is what a look-up of its key finds, the members alone make the list, and what is
collected from one key is what its entry gives. Entries are made
by inserting pairs one after the other, and a look-up is answered by the last pair of its key, so
that pairs of different keys are all found again.

## Main results

* `Keyed.lookup_filter_key`, `Keyed.filter_upsert`: filters by keys.
* `Keyed.Ascending.mem_iff_lookup_eq_some`, `Keyed.Ascending.eq_of_mem_iff`: entries that ascend.
* `Keyed.ascending_ofPairs`, `Keyed.mem_ofPairs`: entries made from pairs.
* `Keyed.mem_sortedDistinct`, `Keyed.nodup_sortedDistinct`: texts sorted, each once.
* `Keyed.Ascending.flatMap_eq_of_lookup`, `Keyed.perm_flatMap_upsert`: collecting from entries.
-/

namespace ManifestPatch

/-- Texts with a common beginning are in the order of what follows it. -/
theorem append_lt_append (p : String) {s t : String} (h : s < t) : p ++ s < p ++ t := by
  rw [String.lt_iff, String.toList_append, String.toList_append]
  exact List.append_left_lt (String.lt_iff.mp h)

namespace Keyed

variable {α β : Type}

/-! ### Look-ups -/

/-- Where no key comes twice, an entry is what a look-up of its key finds. -/
theorem mem_iff_lookup_of_nodup {entries : List (String × α)}
    (h : (entries.map Prod.fst).Nodup) {key : String} {value : α} :
    (key, value) ∈ entries ↔ entries.lookup key = some value := by
  induction entries with
  | nil => simp
  | cons entry rest ih =>
      obtain ⟨k, v⟩ := entry
      rw [List.map_cons, List.nodup_cons] at h
      rw [List.mem_cons, List.lookup_cons, ih h.2]
      by_cases hk : key = k
      · subst hk
        have habsent : rest.lookup key ≠ some value := by
          rw [Ne, ← ih h.2]
          exact fun hmem => h.1 (List.mem_map.mpr ⟨(key, value), hmem, rfl⟩)
        simp [habsent, eq_comm]
      · simp [beq_false_of_ne hk, hk]

/-- A look-up finds nothing exactly if the key stands nowhere. -/
theorem lookup_eq_none_iff_notMem {entries : List (String × α)} {key : String} :
    entries.lookup key = none ↔ key ∉ entries.map Prod.fst := by
  simp only [List.lookup_eq_none_iff, bne_iff_ne, List.mem_map, not_exists, not_and]
  exact forall₂_congr fun entry _ => ne_comm

/-- A look-up does not see what a filter takes away, if the filter keeps its key. -/
theorem lookup_filter_key (keep : String → Bool) {key : String} (h : keep key = true)
    (entries : List (String × α)) :
    (entries.filter fun entry => keep entry.1).lookup key = entries.lookup key := by
  induction entries with
  | nil => rfl
  | cons entry rest ih =>
      obtain ⟨k, v⟩ := entry
      by_cases hk : keep k = true
      · rw [List.filter_cons, if_pos hk, List.lookup_cons, List.lookup_cons, ih]
      · have hne : key ≠ k := fun heq => hk (heq ▸ h)
        rw [List.filter_cons, if_neg hk, ih, List.lookup_cons, beq_false_of_ne hne]

/-- A change at a key that a filter takes away is not seen behind the filter. -/
theorem filter_upsert (keep : String → Bool) {key : String} (h : keep key = false)
    (change : Option α → α) (entries : List (String × α)) :
    ((upsert key change entries).filter fun entry => keep entry.1) =
      entries.filter fun entry => keep entry.1 := by
  fun_induction upsert key change entries with
  | case1 => simp [h]
  | case2 => simp [h]
  | case3 => simp [h]
  | case4 k v rest _ _ ih => rw [List.filter_cons, List.filter_cons, ih]

/-- Entries that are related pointwise, and only if their keys are the same, have related values
under every key. -/
theorem rel_lookup {R : String × α → String × β → Prop} {entries : List (String × α)}
    {entries' : List (String × β)} (h : List.Forall₂ R entries entries')
    (hkeys : ∀ entry entry', R entry entry' → entry.1 = entry'.1) (key : String) :
    Option.Rel (fun v v' => R (key, v) (key, v')) (entries.lookup key) (entries'.lookup key) := by
  induction h with
  | nil => exact .none
  | @cons entry entry' rest rest' hentry _ ih =>
      obtain ⟨k, v⟩ := entry
      obtain ⟨k', v'⟩ := entry'
      obtain rfl : k = k' := hkeys _ _ hentry
      rw [List.lookup_cons, List.lookup_cons]
      cases hbeq : key == k with
      | true => exact .some (eq_of_beq hbeq ▸ hentry)
      | false => exact ih

instance (entries : List (String × α)) : Decidable (Ascending entries) :=
  inferInstanceAs (Decidable (entries.Pairwise fun a b => a.1 < b.1))

/-- Entries that ascend have no key twice. -/
theorem Ascending.nodup_keys {entries : List (String × α)} (h : Ascending entries) :
    (entries.map Prod.fst).Nodup := by
  refine List.pairwise_map.mpr (h.imp ?_)
  rintro a b hlt heq
  exact String.lt_irrefl _ (heq ▸ hlt)

/-- An entry of an ascending list is what a look-up of its key finds. -/
theorem Ascending.mem_iff_lookup_eq_some {entries : List (String × α)} (h : Ascending entries)
    {key : String} {value : α} :
    (key, value) ∈ entries ↔ entries.lookup key = some value :=
  mem_iff_lookup_of_nodup h.nodup_keys

/-- What is in the list after an insertion was in it before, or was inserted. -/
theorem mem_insert {entries : List (String × α)} (h : Ascending entries) {key : String} {value : α}
    {entry : String × α} (hmem : entry ∈ insert key value entries) :
    entry = (key, value) ∨ entry ∈ entries := by
  obtain ⟨k, v⟩ := entry
  rcases mem_upsert hmem with hk | hold
  · obtain rfl : k = key := hk
    rw [insert, h.upsert.mem_iff_lookup_eq_some, lookup_upsert_self h] at hmem
    exact .inl (by rw [← Option.some.inj hmem])
  · exact .inr hold

/-- Ascending lists with the same entries are the same. -/
theorem Ascending.eq_of_mem_iff {entries entries' : List (String × α)} (h : Ascending entries)
    (h' : Ascending entries') (hmem : ∀ entry, entry ∈ entries ↔ entry ∈ entries') :
    entries = entries' := by
  have hperm : entries.Perm entries' :=
    (List.perm_ext_iff_of_nodup h.nodup_keys.of_map h'.nodup_keys.of_map).mpr hmem
  refine hperm.eq_of_pairwise ?_ h h'
  intro a b _ _ hab hba
  exact absurd (String.lt_trans hab hba) (String.lt_irrefl _)

/-- **Collecting from a single key**: if all other entries give nothing, the whole list gives what
the entry at the key gives. -/
theorem Ascending.flatMap_eq_of_lookup {entries : List (String × α)} (h : Ascending entries)
    {key : String} {value : α} (hl : entries.lookup key = some value)
    {collect : String × α → List β}
    (hother : ∀ entry ∈ entries, entry.1 ≠ key → collect entry = []) :
    entries.flatMap collect = collect (key, value) := by
  obtain ⟨before, after, rfl, hbefore⟩ := List.lookup_eq_some_iff.mp hl
  have hnil : ∀ part : List (String × α), (∀ entry ∈ part, collect entry = []) →
      part.flatMap collect = [] := fun part hpart => List.flatMap_eq_nil_iff.mpr hpart
  rw [List.flatMap_append, List.flatMap_cons, hnil before, hnil after]
  · simp
  · intro entry hmem
    refine hother entry (by simp [hmem]) ?_
    have hlt := (List.pairwise_cons.mp (List.pairwise_append.mp h).2.1).1 entry hmem
    rintro rfl
    exact String.lt_irrefl _ hlt
  · intro entry hmem
    refine hother entry (by simp [hmem]) ?_
    exact Ne.symm (bne_iff_ne.mp (hbefore entry hmem))

/-- A change adds to what is collected from all entries what it adds to the entry at its key. -/
theorem perm_flatMap_upsert {key : String} {change : Option α → α} {collect : String × α → List β}
    {added : List β} (hnew : (collect (key, change none)).Perm added)
    (hold : ∀ value, (collect (key, change (some value))).Perm (collect (key, value) ++ added))
    (entries : List (String × α)) :
    ((upsert key change entries).flatMap collect).Perm (entries.flatMap collect ++ added) := by
  fun_induction upsert key change entries with
  | case1 => simpa using hnew
  | case2 k value rest =>
      rw [List.flatMap_cons]
      exact (hnew.append_right _).trans List.perm_append_comm
  | case3 value rest =>
      rw [List.flatMap_cons, List.flatMap_cons, List.append_assoc]
      refine ((hold value).append_right _).trans ?_
      rw [List.append_assoc]
      exact List.perm_append_comm.append_left _
  | case4 k value rest _ _ ih =>
      rw [List.flatMap_cons, List.flatMap_cons, List.append_assoc]
      exact ih.append_left _

/-! ### Entries made from pairs -/

/-- Of a repeated key, the last pair is inserted last. -/
theorem ofPairs_concat (pairs : List (String × α)) (pair : String × α) :
    ofPairs (pairs ++ [pair]) = insert pair.1 pair.2 (ofPairs pairs) := by
  rw [ofPairs, List.foldl_append]
  rfl

/-- Entries made from pairs ascend. -/
theorem ascending_ofPairs (pairs : List (String × α)) : Ascending (ofPairs pairs) := by
  induction pairs using List.reverseRecOn with
  | nil => exact List.Pairwise.nil
  | append_singleton pairs pair ih =>
      rw [ofPairs_concat]
      exact ih.upsert

/-- A look-up in entries made from pairs finds the last pair of its key. -/
theorem lookup_ofPairs_eq_reverse (pairs : List (String × α)) (key : String) :
    (ofPairs pairs).lookup key = pairs.reverse.lookup key := by
  induction pairs using List.reverseRecOn with
  | nil => rfl
  | append_singleton pairs pair ih =>
      rw [ofPairs_concat, List.reverse_concat, List.lookup_cons, insert]
      by_cases hk : key = pair.1
      · subst hk
        rw [lookup_upsert_self (ascending_ofPairs pairs), beq_self_eq_true]
      · rw [lookup_upsert_ne hk, ih, beq_false_of_ne hk]

/-- The keys of entries made from pairs are those of the pairs. -/
theorem mem_keys_ofPairs {pairs : List (String × α)} {key : String} :
    key ∈ (ofPairs pairs).map Prod.fst ↔ key ∈ pairs.map Prod.fst := by
  rw [← not_iff_not, ← lookup_eq_none_iff_notMem, lookup_ofPairs_eq_reverse,
    lookup_eq_none_iff_notMem, List.map_reverse, List.mem_reverse]

/-- Pairs of different keys are all kept. -/
theorem mem_ofPairs {pairs : List (String × α)} (h : (pairs.map Prod.fst).Nodup)
    {entry : String × α} : entry ∈ ofPairs pairs ↔ entry ∈ pairs := by
  have hreverse : (pairs.reverse.map Prod.fst).Nodup := by
    rw [List.map_reverse, List.nodup_reverse]
    exact h
  rw [(ascending_ofPairs pairs).mem_iff_lookup_eq_some, lookup_ofPairs_eq_reverse,
    ← mem_iff_lookup_of_nodup hreverse, List.mem_reverse]

/-! ### Texts sorted, each once -/

theorem mem_sortedDistinct {texts : List String} {text : String} :
    text ∈ sortedDistinct texts ↔ text ∈ texts := by
  rw [sortedDistinct, mem_keys_ofPairs, List.map_map]
  simp [Function.comp_def]

theorem nodup_sortedDistinct (texts : List String) : (sortedDistinct texts).Nodup :=
  (ascending_ofPairs _).nodup_keys

theorem pairwise_sortedDistinct (texts : List String) :
    (sortedDistinct texts).Pairwise (· < ·) :=
  List.pairwise_map.mpr (ascending_ofPairs _)

/-- If two texts differ, more than one is left. -/
theorem one_lt_length_sortedDistinct {texts : List String} {a b : String} (ha : a ∈ texts)
    (hb : b ∈ texts) (hne : a ≠ b) : 1 < (sortedDistinct texts).length := by
  have hsub : [a, b] ⊆ sortedDistinct texts := by
    simp [mem_sortedDistinct, ha, hb]
  have hpair : [a, b].Nodup := by simp [hne]
  exact (hpair.subperm hsub).length_le

end Keyed

end ManifestPatch
