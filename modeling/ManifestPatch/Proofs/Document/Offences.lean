import ManifestPatch.Proofs.Document.Tagged
import ManifestPatch.Proofs.Json.KeyOrder
import Mathlib.Data.List.Lex

/-!
# What Cannot Be Read

A value is read as an element unless there is something in it that cannot be there: an array in an
array of children, a list of children that is no array, or an entry of such a list that is no
object. This is said here without the reader. The values that count are those that are **visited**:
the children of an object, wherever they are written, and theirs in turn. Every one of them has a
**spot** in its object, and the spots on the way to it make up its path. Paths are ordered as the
reader goes, entry by entry, key by key and item by item, and the value is refused for what is wrong
at the first path where anything is.

## Main definitions

* `Document.Spot`, `Document.Spot.Before`: where a child is written in an object, and the order.
* `Document.Visits`: what stands at a spot of an object.
* `Document.OffendsAt`: at a path in a value, something cannot be read.
* `Document.IsFirstOffence`: and nothing before it cannot.

## Main results

* `Document.map_snd_spots`, `Document.pairwise_spots`: the nodes of an object, with their spots, are
  in the order of the spots.
* `Document.exists_readElement_iff`: a value is read exactly if nothing in it offends.
* `Document.readElement_first_offence`: and else it is refused for the first offence.
-/

namespace ManifestPatch.Document

/-! ### Spots and offences -/

/-- A **spot** in an object: a key, in one entry of the list of children if there is one, and an
index, if there is an array under the key. -/
structure Spot where
  entry : Nat
  key : String
  item : Nat
  deriving DecidableEq

/-- A spot is **before** another one in an earlier entry, or under an earlier key of the same entry,
or at an earlier index under the same key. -/
def Spot.Before (a b : Spot) : Prop :=
  a.entry < b.entry ∨ a.entry = b.entry ∧ (a.key < b.key ∨ a.key = b.key ∧ a.item < b.item)

/-- Without a list of children, a field of an object **is visited** if its key is no bookkeeping and
is the key of an array of children, or has an object or an array under it and no such key beside
it. -/
def IsVisited (fields : List (String × Json)) (key : String) (v : Json) : Prop :=
  isBookkeeping key = false ∧
    (Text.endsWith arrayEnding key = true ∨
      (v.kind = .object ∨ v.kind = .array) ∧ hasArrayForm fields key = false)

/-- An object **visits** what stands at a spot: a node that is to be read, or a value of a kind that
cannot be there. -/
inductive Visits (fields : List (String × Json)) : Spot → Except Json.Kind Node → Prop
  /-- The list of children is no array. -/
  | no_list {v : Json} (hlist : fields.lookup childrenKey = some v) (hkind : v.kind ≠ .array) :
      Visits fields ⟨0, "", 0⟩ (.error v.kind)
  /-- An entry of the list is no object. -/
  | no_entry {entries : List Json} {i : Nat} {entry : Json}
      (hlist : fields.lookup childrenKey = some (.array entries))
      (hentry : entries[i]? = some entry) (hkind : entry.kind ≠ .object) :
      Visits fields ⟨i, "", 0⟩ (.error entry.kind)
  /-- A child stands in an entry of the list. -/
  | listed {entries : List Json} {i : Nat} {entryFields : List (String × Json)} {key : String}
      {v item : Json} {j : Nat} (hlist : fields.lookup childrenKey = some (.array entries))
      (hentry : entries[i]? = some (.object entryFields)) (hfield : (key, v) ∈ entryFields)
      (hkey : Text.startsWith "#" key = false) (hitem : (itemsOf v)[j]? = some item) :
      Visits fields ⟨i, key, j⟩ (.ok ⟨key, item⟩)
  /-- Without a list, a child stands in a field. -/
  | keyed {key : String} {v item : Json} {j : Nat} (hunlisted : fields.lookup childrenKey = none)
      (hfield : (key, v) ∈ fields) (hvisited : IsVisited fields key v)
      (hitem : (itemsOf v)[j]? = some item) :
      Visits fields ⟨0, key, j⟩ (.ok ⟨keyTag key, item⟩)

/-- In the value of an element **something offends** at a path, for a reason: the value is itself an
array, or there is a value of a wrong kind at one of the spots of the object, or something offends
deeper down, in a child. -/
inductive OffendsAt : String → Json → List Spot → DocumentError → Prop
  | itself {name : String} {items : List Json} :
      OffendsAt name (.array items) [] (.unexpectedValue name .array)
  | here {name : String} {fields : List (String × Json)} {spot : Spot} {found : Json.Kind}
      (h : Visits fields spot (.error found)) :
      OffendsAt name (.object fields) [spot] (.unexpectedValue name found)
  | deeper {name : String} {fields : List (String × Json)} {spot : Spot} {node : Node}
      {path : List Spot} {reason : DocumentError} (h : Visits fields spot (.ok node))
      (hchild : OffendsAt node.tag node.value path reason) :
      OffendsAt name (.object fields) (spot :: path) reason

/-- The **first offence** in a value: all others are at later paths. -/
def IsFirstOffence (name : String) (v : Json) (path : List Spot) (reason : DocumentError) : Prop :=
  OffendsAt name v path reason ∧
    ∀ path' reason', OffendsAt name v path' reason' →
      path' = path ∨ List.Lex Spot.Before path path'

variable {p name key tag : String} {v : Json} {fields : List (String × Json)} {spot spot' : Spot}
  {node : Node} {node? node?' : Except Json.Kind Node} {path path' : List Spot}
  {reason reason' : DocumentError}

/-! ### The order of spots -/

/-- No spot is before another one that is before it. -/
instance : Std.Asymm Spot.Before where
  asymm a b hab hba := by
    simp only [Spot.Before] at hab hba
    rcases hab with h | ⟨h, h₁ | ⟨h₁, h₂⟩⟩ <;> rcases hba with h' | ⟨h', h₁' | ⟨h₁', h₂'⟩⟩
    all_goals try omega
    · exact String.lt_irrefl _ (String.lt_trans h₁ h₁')
    · exact String.lt_irrefl _ (h₁' ▸ h₁)
    · exact String.lt_irrefl _ (h₁ ▸ h₁')

/-- No spot is before itself. -/
theorem Spot.Before.irrefl (spot : Spot) : ¬ spot.Before spot :=
  fun h => Std.Asymm.asymm spot spot h h

/-! ### The nodes of an object with their spots -/

/-- Nodes at the spots of one key. -/
def atSpots (entry : Nat) (key : String) (nodes : List Node) :
    List (Spot × Except Json.Kind Node) :=
  nodes.zipIdx.map fun (node, item) => (⟨entry, key, item⟩, .ok node)

/-- The nodes of the entry with an index, at their spots. -/
def entrySpots (entry : Nat) : Json → List (Spot × Except Json.Kind Node)
  | .object fields =>
    (childFields fields).flatMap fun field => atSpots entry field.1 (nodesUnder field.1 field.2)
  | v => [(⟨entry, "", 0⟩, .error v.kind)]

/-- The nodes of an object at their **spots**, in the order in which they are read. -/
def spots (p : String) (fields : List (String × Json)) : List (Spot × Except Json.Kind Node) :=
  match fields.lookup childrenKey with
  | some (.array entries) => entries.zipIdx.flatMap fun (entry, i) => entrySpots i entry
  | some v => [(⟨0, "", 0⟩, .error v.kind)]
  | none => fields.flatMap fun field => atSpots 0 field.1 (fieldNodes p fields field)

theorem map_snd_atSpots (entry : Nat) (key : String) (nodes : List Node) :
    (atSpots entry key nodes).map Prod.snd = nodes.map .ok := by
  rw [atSpots, List.map_map]
  conv_rhs => rw [← List.zipIdx_map_fst 0 nodes, List.map_map]
  rfl

theorem map_snd_entrySpots (i : Nat) (entry : Json) :
    (entrySpots i entry).map Prod.snd = entryNodes entry := by
  cases entry with
  | object fields => simp only [entrySpots, entryNodes, List.map_flatMap, map_snd_atSpots]
  | null | bool _ | number _ | string _ | array _ => rfl

theorem spots_of_listed {entries : List Json}
    (h : fields.lookup childrenKey = some (.array entries)) :
    spots p fields = entries.zipIdx.flatMap fun (entry, i) => entrySpots i entry := by
  rw [spots, h]

theorem spots_of_not_array (h : fields.lookup childrenKey = some v) (hkind : v.kind ≠ .array) :
    spots p fields = [(⟨0, "", 0⟩, .error v.kind)] := by
  rw [spots, h]
  cases v with
  | array entries => exact absurd rfl hkind
  | null | bool _ | number _ | string _ | object _ => rfl

theorem spots_of_keyed (h : fields.lookup childrenKey = none) :
    spots p fields = fields.flatMap fun field => atSpots 0 field.1 (fieldNodes p fields field) := by
  rw [spots, h]

/-- Without their spots, these are the nodes of the object. -/
theorem map_snd_spots (p : String) (fields : List (String × Json)) :
    (spots p fields).map Prod.snd = nodes p fields := by
  rcases lookup_childrenKey_cases fields with hl | ⟨entries, hl⟩ | ⟨v, hkind, hl⟩
  · rw [spots_of_keyed hl, nodes_of_keyed hl]
    simp only [List.map_flatMap, map_snd_atSpots]
  · rw [spots_of_listed hl, nodes_of_listed hl]
    simp only [List.map_flatMap, map_snd_entrySpots]
    conv_rhs => rw [← List.zipIdx_map_fst 0 entries, List.flatMap_map]
  · rw [spots_of_not_array hl hkind, nodes_of_not_array hl hkind]
    rfl

theorem mem_atSpots {entry : Nat} {nodes : List Node} :
    (spot, node?) ∈ atSpots entry key nodes ↔
      ∃ node j, nodes[j]? = some node ∧ spot = ⟨entry, key, j⟩ ∧ node? = .ok node := by
  simp only [atSpots, List.mem_map, Prod.exists, List.mem_zipIdx_iff_getElem?, Prod.mk.injEq,
    eq_comm (a := spot), eq_comm (a := node?)]

theorem entry_of_mem_entrySpots {i : Nat} {entry : Json}
    (h : (spot, node?) ∈ entrySpots i entry) : spot.entry = i := by
  cases entry with
  | object fields =>
      obtain ⟨field, -, hmem⟩ := List.mem_flatMap.mp h
      obtain ⟨node, j, -, rfl, -⟩ := mem_atSpots.mp hmem
      rfl
  | null | bool _ | number _ | string _ | array _ => rw [(Prod.mk.inj (List.mem_singleton.mp h)).1]

/-! ### In the order of the spots -/

theorem pairwise_atSpots (entry : Nat) (key : String) (nodes : List Node) :
    (atSpots entry key nodes).Pairwise fun a b => a.1.Before b.1 := by
  rw [atSpots, List.pairwise_map]
  exact (pairwise_zipIdx nodes).imp fun hlt => .inr ⟨rfl, .inr ⟨rfl, hlt⟩⟩

/-- Fields in the order of their keys have their nodes in the order of the spots. -/
theorem pairwise_flatMap_atSpots {entry : Nat} {collect : String × Json → List Node}
    (h : Keyed.Ascending fields) :
    (fields.flatMap fun field => atSpots entry field.1 (collect field)).Pairwise
      fun a b => a.1.Before b.1 := by
  refine List.pairwise_flatMap.mpr ⟨fun field _ => pairwise_atSpots _ _ _, h.imp ?_⟩
  rintro field field' hlt ⟨spot, _⟩ hmem ⟨spot', _⟩ hmem'
  obtain ⟨-, -, -, rfl, -⟩ := mem_atSpots.mp hmem
  obtain ⟨-, -, -, rfl, -⟩ := mem_atSpots.mp hmem'
  exact .inr ⟨rfl, .inl hlt⟩

theorem pairwise_entrySpots (i : Nat) {entry : Json} (h : entry.InKeyOrder) :
    (entrySpots i entry).Pairwise fun a b => a.1.Before b.1 := by
  cases entry with
  | object fields => exact pairwise_flatMap_atSpots (h.ascending.filter _)
  | null | bool _ | number _ | string _ | array _ => exact List.pairwise_singleton _ _

/-- What is looked up in an object in key order is in key order. -/
theorem inKeyOrder_of_lookup (h : (Json.object fields).InKeyOrder)
    (hl : fields.lookup key = some v) : v.InKeyOrder :=
  h.of_mem_fields (h.ascending.mem_iff_lookup_eq_some.mpr hl)

/-- **The nodes of an object** are in the order of their spots. -/
theorem pairwise_spots (p : String) (h : (Json.object fields).InKeyOrder) :
    (spots p fields).Pairwise fun a b => a.1.Before b.1 := by
  rcases lookup_childrenKey_cases fields with hl | ⟨entries, hl⟩ | ⟨v, hkind, hl⟩
  · rw [spots_of_keyed hl]
    exact pairwise_flatMap_atSpots h.ascending
  · rw [spots_of_listed hl]
    have hentries := inKeyOrder_of_lookup h hl
    refine List.pairwise_flatMap.mpr ⟨?_, (pairwise_zipIdx entries).imp ?_⟩
    · rintro ⟨entry, i⟩ hmem
      have hentry := List.mem_of_getElem? (List.mem_zipIdx_iff_getElem?.mp hmem)
      exact pairwise_entrySpots i (hentries.of_mem_items hentry)
    · rintro ⟨entry, i⟩ ⟨entry', i'⟩ hlt ⟨spot, _⟩ hmem ⟨spot', _⟩ hmem'
      refine .inl ?_
      rw [entry_of_mem_entrySpots hmem, entry_of_mem_entrySpots hmem']
      exact hlt
  · rw [spots_of_not_array hl hkind]
    exact List.pairwise_singleton _ _

/-- At one spot stands one node. -/
theorem node_eq_of_mem_spots (h : (Json.object fields).InKeyOrder)
    (hmem : (spot, node?) ∈ spots p fields) (hmem' : (spot, node?') ∈ spots p fields) :
    node? = node?' := by
  have hnodup : ((spots p fields).map Prod.fst).Nodup := by
    refine List.pairwise_map.mpr ((pairwise_spots p h).imp ?_)
    rintro a b hbefore heq
    exact Spot.Before.irrefl _ (heq ▸ hbefore)
  exact (Prod.mk.inj (List.inj_on_of_nodup_map hnodup hmem hmem' rfl)).2

/-! ### What is visited -/

theorem getElem?_nodesUnder {j : Nat} :
    (nodesUnder tag v)[j]? = some node ↔
      ∃ item, (itemsOf v)[j]? = some item ∧ node = ⟨tag, item⟩ := by
  rw [nodesUnder_eq_map, List.getElem?_map, Option.map_eq_some_iff]
  simp only [eq_comm (a := node)]

/-- A field that is visited gives what stands under the tag that its key names. -/
theorem fieldNodes_of_isVisited (p : String) (h : IsVisited fields key v) :
    fieldNodes p fields (key, v) = nodesUnder (keyTag key) v := by
  obtain ⟨hkey, hvisited⟩ := h
  cases hend : Text.endsWith arrayEnding key with
  | true =>
      obtain ⟨tag, rfl⟩ := Text.endsWith_iff.mp hend
      rw [fieldNodes_arrayForm hkey, keyTag_append_arrayEnding]
  | false =>
      obtain ⟨hkind, harray⟩ := hvisited.resolve_left (by simp [hend])
      rw [keyTag_of_endsWith hend]
      simp only [fieldNodes, hkey, beforeEnd?_of_endsWith hend, harray]
      cases v with
      | array _ | object _ => rfl
      | null | bool _ | number _ | string _ => simp [Json.kind] at hkind

/-- A field that is not visited gives scalars, if anything. -/
theorem kind_of_not_isVisited (h : ¬ IsVisited fields key v)
    (hnode : node ∈ fieldNodes p fields (key, v)) :
    node.value.kind ≠ .array ∧ node.value.kind ≠ .object := by
  cases hkey : isBookkeeping key with
  | true => simp [fieldNodes_of_isBookkeeping hkey] at hnode
  | false =>
      cases hend : Text.endsWith arrayEnding key with
      | true => exact absurd ⟨hkey, .inl hend⟩ h
      | false =>
          cases harray : hasArrayForm fields key with
          | true => simp [fieldNodes_of_hasArrayForm hend harray] at hnode
          | false =>
              have hkind : ¬ (v.kind = .object ∨ v.kind = .array) :=
                fun hkind => h ⟨hkey, .inr ⟨hkind, harray⟩⟩
              rcases fieldNodes_eq_nil_or p fields (key, v) with hnil | hunder
              · simp [hnil] at hnode
              · rw [hunder] at hnode
                cases v with
                | array _ => exact absurd (.inr rfl) hkind
                | null | bool _ | number _ | string _ | object _ =>
                    rw [List.mem_singleton.mp hnode]
                    exact ⟨fun h => hkind (.inr h), fun h => hkind (.inl h)⟩

/-- What is visited at a spot is among the nodes, at that spot. -/
theorem Visits.mem_spots (h : Visits fields spot node?) (p : String) :
    (spot, node?) ∈ spots p fields := by
  cases h with
  | no_list hlist hkind =>
      rw [spots_of_not_array hlist hkind]
      exact List.mem_singleton_self _
  | @no_entry entries i entry hlist hentry hkind =>
      rw [spots_of_listed hlist]
      refine List.mem_flatMap.mpr ⟨(entry, i), List.mem_zipIdx_iff_getElem?.mpr hentry, ?_⟩
      cases entry with
      | object _ => exact absurd rfl hkind
      | null | bool _ | number _ | string _ | array _ => exact List.mem_singleton_self _
  | @listed entries i entryFields key v item j hlist hentry hfield hkey hitem =>
      rw [spots_of_listed hlist]
      refine List.mem_flatMap.mpr
        ⟨(.object entryFields, i), List.mem_zipIdx_iff_getElem?.mpr hentry, ?_⟩
      refine List.mem_flatMap.mpr ⟨(key, v), List.mem_filter.mpr ⟨hfield, by simp [hkey]⟩, ?_⟩
      exact mem_atSpots.mpr ⟨_, j, getElem?_nodesUnder.mpr ⟨item, hitem, rfl⟩, rfl, rfl⟩
  | @keyed key v item j hunlisted hfield hvisited hitem =>
      rw [spots_of_keyed hunlisted]
      refine List.mem_flatMap.mpr ⟨(key, v), hfield, ?_⟩
      rw [fieldNodes_of_isVisited p hvisited]
      exact mem_atSpots.mpr ⟨_, j, getElem?_nodesUnder.mpr ⟨item, hitem, rfl⟩, rfl, rfl⟩

/-- The nodes of an object are what it visits, and scalars. -/
theorem visits_of_mem_spots (h : (spot, node?) ∈ spots p fields) :
    Visits fields spot node? ∨
      ∃ node, node? = .ok node ∧ node.value.kind ≠ .array ∧ node.value.kind ≠ .object := by
  rcases lookup_childrenKey_cases fields with hl | ⟨entries, hl⟩ | ⟨v, hkind, hl⟩
  · rw [spots_of_keyed hl] at h
    obtain ⟨⟨key, v⟩, hfield, hmem⟩ := List.mem_flatMap.mp h
    obtain ⟨node, j, hnode, rfl, rfl⟩ := mem_atSpots.mp hmem
    by_cases hvisited : IsVisited fields key v
    · rw [fieldNodes_of_isVisited p hvisited] at hnode
      obtain ⟨item, hitem, rfl⟩ := getElem?_nodesUnder.mp hnode
      exact .inl (.keyed hl hfield hvisited hitem)
    · exact .inr ⟨node, rfl, kind_of_not_isVisited hvisited (List.mem_of_getElem? hnode)⟩
  · rw [spots_of_listed hl] at h
    obtain ⟨⟨entry, i⟩, hentry, hmem⟩ := List.mem_flatMap.mp h
    rw [List.mem_zipIdx_iff_getElem?] at hentry
    refine .inl ?_
    cases entry with
    | object entryFields =>
        obtain ⟨⟨key, v⟩, hfield, hmem⟩ := List.mem_flatMap.mp hmem
        obtain ⟨hfield, hkey⟩ := List.mem_filter.mp hfield
        obtain ⟨node, j, hnode, rfl, rfl⟩ := mem_atSpots.mp hmem
        obtain ⟨item, hitem, rfl⟩ := getElem?_nodesUnder.mp hnode
        exact .listed hl hentry hfield (by simpa using hkey) hitem
    | null | bool _ | number _ | string _ | array _ =>
        obtain ⟨rfl, rfl⟩ := Prod.mk.inj (List.mem_singleton.mp hmem)
        exact .no_entry hl hentry nofun
  · rw [spots_of_not_array hl hkind] at h
    obtain ⟨rfl, rfl⟩ := Prod.mk.inj (List.mem_singleton.mp h)
    exact .inl (.no_list hl hkind)

theorem inKeyOrder_of_mem_itemsOf (h : v.InKeyOrder) {item : Json} (hmem : item ∈ itemsOf v) :
    item.InKeyOrder := by
  cases v with
  | array items => exact h.of_mem_items hmem
  | null | bool _ | number _ | string _ | object _ => exact List.mem_singleton.mp hmem ▸ h

/-- A child that is visited is in key order if the object is. -/
theorem Visits.inKeyOrder (h : Visits fields spot (.ok node))
    (hfields : (Json.object fields).InKeyOrder) : node.value.InKeyOrder := by
  cases h with
  | listed hlist hentry hfield _ hitem =>
      have hentries := inKeyOrder_of_lookup hfields hlist
      have hentry := hentries.of_mem_items (List.mem_of_getElem? hentry)
      exact inKeyOrder_of_mem_itemsOf (hentry.of_mem_fields hfield) (List.mem_of_getElem? hitem)
  | keyed _ hfield _ hitem =>
      exact inKeyOrder_of_mem_itemsOf (hfields.of_mem_fields hfield)
        (List.mem_of_getElem? hitem)

/-- The value of a node is a part of the object. -/
theorem sizeOf_lt_of_mem_spots (h : (spot, .ok node) ∈ spots p fields) :
    sizeOf node.value < sizeOf (Json.object fields) := by
  have hmem : .ok node ∈ nodes p fields := by
    rw [← map_snd_spots]
    exact List.mem_map_of_mem h
  exact sizeOf_lt_of_mem_nodes hmem

/-! ### Reading -/

/-- An object is read exactly if every node of it is. -/
theorem exists_readElement_object_iff :
    (∃ e, readElement p name (.object fields) = .ok e) ↔
      ∀ spot node?, (spot, node?) ∈ spots p fields → ∃ child, readNode p name node? = .ok child := by
  have hread : (∃ e, readElement p name (.object fields) = .ok e) ↔
      ∃ children, (nodes p fields).mapM (readNode p name) = .ok children := by
    simp only [readElement_object_eq_ok_iff, mapM_eq_ok_iff]
    constructor
    · rintro ⟨e, children, hchildren, -⟩
      exact ⟨children, hchildren⟩
    · rintro ⟨children, hchildren⟩
      exact ⟨_, children, hchildren, rfl⟩
  rw [hread, exists_mapM_eq_ok_iff, ← map_snd_spots, List.forall_mem_map, Prod.forall]

/-- **A value is read** exactly if nothing in it offends. -/
theorem exists_readElement_iff (p name : String) (v : Json) :
    (∃ e, readElement p name v = .ok e) ↔ ∀ path reason, ¬ OffendsAt name v path reason := by
  induction hsize : sizeOf v using Nat.strongRecOn generalizing v name with
  | ind size ih =>
  subst hsize
  cases v with
  | array items =>
      constructor
      · rintro ⟨e, h⟩
        simp [readElement_array] at h
      · intro h
        exact absurd .itself (h [] _)
  | object fields =>
      rw [exists_readElement_object_iff]
      constructor
      · intro h path reason hoffends
        cases hoffends with
        | here hvisit =>
            obtain ⟨child, hread⟩ := h _ _ (hvisit.mem_spots p)
            exact readNode_error_ne_ok hread
        | deeper hvisit hchild =>
            have hmem := hvisit.mem_spots p
            exact (ih _ (sizeOf_lt_of_mem_spots hmem) _ _ rfl).mp (h _ _ hmem) _ _ hchild
      · intro h spot node? hmem
        rcases visits_of_mem_spots hmem with hvisit | ⟨node, rfl, harray, hobject⟩
        · cases node? with
          | error found => exact absurd (.here hvisit) (h _ _)
          | ok node =>
              refine (ih _ (sizeOf_lt_of_mem_spots hmem) node.tag _ rfl).mpr ?_
              exact fun path reason hchild => h _ _ (.deeper hvisit hchild)
        · exact ⟨_, readElement_of_scalar p node.tag harray hobject⟩
  | null | bool _ | number _ | string _ =>
      rw [readElement_of_scalar p name (by simp [Json.kind]) (by simp [Json.kind])]
      refine iff_of_true ⟨_, rfl⟩ ?_
      rintro path reason ⟨⟩

/-- At one path there is one offence. -/
theorem OffendsAt.reason_eq (h : OffendsAt name v path reason) (hv : v.InKeyOrder)
    (h' : OffendsAt name v path reason') : reason = reason' := by
  induction h with
  | itself =>
      cases h'
      rfl
  | here hvisit =>
      cases h' with
      | here hvisit' =>
          have hnode := node_eq_of_mem_spots hv (hvisit.mem_spots "") (hvisit'.mem_spots "")
          rw [Except.error.inj hnode]
      | deeper hvisit' _ =>
          exact absurd (node_eq_of_mem_spots hv (hvisit.mem_spots "") (hvisit'.mem_spots "")) nofun
  | deeper hvisit _ ih =>
      cases h' with
      | here hvisit' =>
          exact absurd (node_eq_of_mem_spots hv (hvisit.mem_spots "") (hvisit'.mem_spots "")) nofun
      | deeper hvisit' hchild' =>
          have hnode := node_eq_of_mem_spots hv (hvisit.mem_spots "") (hvisit'.mem_spots "")
          obtain rfl := Except.ok.inj hnode
          exact ih (hvisit.inKeyOrder hv) hchild'

/-- Of an object that is refused, one node is refused for the same reason, and every other one that
cannot be read is at a later spot. -/
theorem exists_first_node (hfields : (Json.object fields).InKeyOrder)
    (h : readElement p name (.object fields) = .error reason) :
    ∃ spot node?, (spot, node?) ∈ spots p fields ∧ readNode p name node? = .error reason ∧
      ∀ spot' node?', (spot', node?') ∈ spots p fields →
        (∀ child, readNode p name node?' ≠ .ok child) →
        (spot', node?') = (spot, node?) ∨ spot.Before spot' := by
  rw [readElement_object_eq_error_iff, ← map_snd_spots, List.mapM_map] at h
  obtain ⟨before, ⟨spot, node?⟩, after, hspots, hbefore, hread⟩ := mapM_eq_error_iff.mp h
  have hpairwise := pairwise_spots p hfields
  rw [hspots] at hpairwise
  refine ⟨spot, node?, by simp [hspots], hread, fun spot' node?' hmem hfails => ?_⟩
  rw [hspots, List.mem_append, List.mem_cons] at hmem
  rcases hmem with hmem | heq | hmem
  · obtain ⟨child, hchild⟩ := hbefore _ hmem
    exact absurd hchild (hfails child)
  · exact .inl heq
  · exact .inr ((List.pairwise_cons.mp (List.pairwise_append.mp hpairwise).2.1).1 _ hmem)

/-- In what stands at a spot something offends: if it is a value of a wrong kind, that, and if it is
a node, what does in its value. -/
def NodeOffendsAt (name : String) : Except Json.Kind Node → List Spot → DocumentError → Prop
  | .ok node, path, reason => OffendsAt node.tag node.value path reason
  | .error found, path, reason => path = [] ∧ reason = .unexpectedValue name found

/-- What offends in an object offends in what it visits at one spot. -/
theorem offendsAt_object_iff :
    OffendsAt name (.object fields) path reason ↔
      ∃ spot node? rest, path = spot :: rest ∧ Visits fields spot node? ∧
        NodeOffendsAt name node? rest reason := by
  constructor
  · intro h
    cases h with
    | here hvisit => exact ⟨_, _, [], rfl, hvisit, rfl, rfl⟩
    | deeper hvisit hchild => exact ⟨_, _, _, rfl, hvisit, hchild⟩
  · rintro ⟨spot, node?, rest, rfl, hvisit, hnode⟩
    cases node? with
    | ok node => exact .deeper hvisit hnode
    | error found =>
        obtain ⟨rfl, rfl⟩ := hnode
        exact .here hvisit

/-- A node in which something offends is not read. -/
theorem NodeOffendsAt.readNode_ne_ok (h : NodeOffendsAt name node? path reason) (p : String)
    (child : Element) : readNode p name node? ≠ .ok child := by
  cases node? with
  | ok node => exact fun hread => (exists_readElement_iff p _ _).mp ⟨child, hread⟩ path reason h
  | error found => exact readNode_error_ne_ok

/-- **A value that is refused** is refused for the first offence in it. -/
theorem exists_isFirstOffence (hv : v.InKeyOrder) (h : readElement p name v = .error reason) :
    ∃ path, IsFirstOffence name v path reason := by
  induction hsize : sizeOf v using Nat.strongRecOn generalizing v name with
  | ind size ih =>
  subst hsize
  cases v with
  | array items =>
      rw [readElement_array] at h
      obtain rfl : .unexpectedValue name .array = reason := Except.error.inj h
      refine ⟨[], .itself, ?_⟩
      rintro path' reason' ⟨⟩
      exact .inl rfl
  | object fields =>
      obtain ⟨spot, node?, hmem, hread, hlater⟩ := exists_first_node hv h
      have hvisit : Visits fields spot node? := by
        refine (visits_of_mem_spots hmem).resolve_right ?_
        rintro ⟨node, rfl, harray, hobject⟩
        rw [readNode, readElement_of_scalar p node.tag harray hobject] at hread
        cases hread
      have hfirst : ∃ rest, NodeOffendsAt name node? rest reason ∧
          ∀ rest' reason', NodeOffendsAt name node? rest' reason' →
            rest' = rest ∨ List.Lex Spot.Before rest rest' := by
        cases node? with
        | ok node => exact ih _ (sizeOf_lt_of_mem_spots hmem) (hvisit.inKeyOrder hv) hread rfl
        | error found =>
            obtain rfl : .unexpectedValue name found = reason := Except.error.inj hread
            exact ⟨[], ⟨rfl, rfl⟩, fun rest' reason' h => .inl h.1⟩
      obtain ⟨rest, hnode, hrest⟩ := hfirst
      refine ⟨spot :: rest, offendsAt_object_iff.mpr ⟨_, _, _, rfl, hvisit, hnode⟩, ?_⟩
      intro path' reason' hoffends
      obtain ⟨spot', node?', rest', rfl, hvisit', hnode'⟩ := offendsAt_object_iff.mp hoffends
      rcases hlater spot' node?' (hvisit'.mem_spots p) (hnode'.readNode_ne_ok p) with heq | hbefore
      · obtain ⟨rfl, rfl⟩ := Prod.mk.inj heq
        exact (hrest rest' reason' hnode').imp (congrArg _) .cons
      · exact .inr (.rel hbefore)
  | null | bool _ | number _ | string _ =>
      rw [readElement_of_scalar p name (by simp [Json.kind]) (by simp [Json.kind])] at h
      cases h

/-- **What is accepted, and what is refused for which reason**: a value is read as an element of
whatever name exactly if nothing in it offends. Else, if it is in key order, as all values are that
`Json.parse` reads, it is refused for the first offence, and there is one. -/
theorem readElement_first_offence (p name : String) (v : Json) :
    ((∃ e, readElement p name v = .ok e) ↔ ∀ path reason, ¬ OffendsAt name v path reason) ∧
      (v.InKeyOrder → ∀ reason,
        readElement p name v = .error reason ↔ ∃ path, IsFirstOffence name v path reason) := by
  refine ⟨exists_readElement_iff p name v, fun hv reason => ⟨exists_isFirstOffence hv, ?_⟩⟩
  rintro ⟨path, hoffends, hfirst⟩
  cases hread : readElement p name v with
  | ok e => exact absurd hoffends ((exists_readElement_iff p name v).mp ⟨e, hread⟩ path reason)
  | error reason' =>
      obtain ⟨path', hoffends', hfirst'⟩ := exists_isFirstOffence hv hread
      -- of two first offences neither is before the other
      have hpath : path' = path := by
        rcases hfirst _ _ hoffends' with rfl | hbefore
        · rfl
        · refine (hfirst' _ _ hoffends).elim Eq.symm fun hbefore' => ?_
          exact absurd hbefore' (Std.Asymm.asymm _ _ hbefore)
      subst hpath
      rw [hoffends'.reason_eq hv hoffends]

/-- The second period has a remark in its list, then an entry that is no object, and then a nested
array. It is refused for the entry, and not for the array, which offends too. What is under a remark
does not count. -/
theorem readElement_first_offence_entry :
    let period : Json := .object [("__children", .array
      [.object [("#text", .array [.array []])], .null, .object [("A", .array [.array []])]])]
    let root : Json := .object [("Period", .array [.object [], period])]
    readElement "" "MPD" root = .error (.unexpectedValue "Period" .null) ∧
      (∃ path, IsFirstOffence "MPD" root path (.unexpectedValue "Period" .null)) ∧
      OffendsAt "MPD" root [⟨0, "Period", 1⟩, ⟨2, "A", 0⟩] (.unexpectedValue "A" .array) := by
  intro period root
  have hperiod : readElement "" "Period" period = .error (.unexpectedValue "Period" .null) :=
    readElement_object_eq_error_iff.mpr (mapM_eq_error_iff.mpr
      ⟨[], .error .null, [.ok ⟨"A", .array []⟩], (nodes_of_listed rfl).trans rfl, nofun, rfl⟩)
  have hempty : readElement "" "Period" (.object []) = .ok { name := "Period" } :=
    readElement_object_of_nodes_eq_nil _ _ rfl
  have hroot : readElement "" "MPD" root = .error (.unexpectedValue "Period" .null) :=
    readElement_object_eq_error_iff.mpr (mapM_eq_error_iff.mpr ⟨[.ok ⟨"Period", .object []⟩],
      .ok ⟨"Period", period⟩, [], (nodes_of_keyed rfl).trans rfl,
      List.forall_mem_singleton.mpr ⟨_, hempty⟩, hperiod⟩)
  have harray : (Json.array [.array []]).InKeyOrder :=
    .array (List.forall_mem_singleton.mpr (.array nofun))
  have hentries : ∀ entry ∈ [Json.object [("#text", .array [.array []])], .null,
      .object [("A", .array [.array []])]], entry.InKeyOrder := by
    refine List.forall_mem_cons.mpr ⟨harray.singleton _, List.forall_mem_cons.mpr ⟨?_, ?_⟩⟩
    · exact .scalar nofun nofun
    · exact List.forall_mem_singleton.mpr (harray.singleton _)
  have hperiods : ∀ item ∈ [Json.object [], period], item.InKeyOrder :=
    List.forall_mem_cons.mpr ⟨.object List.Pairwise.nil nofun,
      List.forall_mem_singleton.mpr ((Json.InKeyOrder.array hentries).singleton _)⟩
  have hordered : root.InKeyOrder := (Json.InKeyOrder.array hperiods).singleton _
  refine ⟨hroot, ((readElement_first_offence _ _ _).2 hordered _).mp hroot, ?_⟩
  have hvisit : Visits [("Period", .array [.object [], period])] ⟨0, "Period", 1⟩
      (.ok ⟨keyTag "Period", period⟩) :=
    .keyed rfl List.mem_cons_self ⟨by decide, .inr ⟨.inr rfl, by decide⟩⟩ rfl
  exact .deeper hvisit (.deeper (.listed rfl rfl List.mem_cons_self (by decide) rfl) .itself)

end ManifestPatch.Document
