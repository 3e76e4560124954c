import ManifestPatch.Json.Parser
import ManifestPatch.Proofs.Keyed

/-!
# Values in Key Order

The fields of an object are held in ascending order of their keys. A value is **in key order** if
this is so of every object in it, at any depth. The machine that reads JSON has it of all arrays and
objects that are still open, and so of the value that is complete at the end.

## Main definitions

* `Json.InKeyOrder`: every object in a value has its keys in ascending order.
* `Json.Reader.InKeyOrder`: everything that the reader has read so far is in key order.

## Main results

* `Json.Reader.InKeyOrder.step`: one more token keeps what was read in key order.
* `Json.inKeyOrder_of_parse`: every value that is read is in key order.
-/

namespace ManifestPatch.Json

/-- A value is **in key order** if every object in it has its keys in ascending order. -/
inductive InKeyOrder : Json → Prop
  | scalar {v : Json} (harray : v.kind ≠ .array) (hobject : v.kind ≠ .object) : InKeyOrder v
  | array {items : List Json} (h : ∀ item ∈ items, InKeyOrder item) : InKeyOrder (.array items)
  | object {fields : List (String × Json)} (hkeys : Keyed.Ascending fields)
      (h : ∀ field ∈ fields, InKeyOrder field.2) : InKeyOrder (.object fields)

variable {v : Json} {items : List Json} {fields : List (String × Json)} {key : String}

/-! ### Parts of a value -/

theorem InKeyOrder.of_mem_items (h : InKeyOrder (.array items)) {item : Json}
    (hmem : item ∈ items) : InKeyOrder item := by
  cases h with
  | scalar harray _ => exact absurd rfl harray
  | array h => exact h item hmem

theorem InKeyOrder.of_mem_fields (h : InKeyOrder (.object fields)) {field : String × Json}
    (hmem : field ∈ fields) : InKeyOrder field.2 := by
  cases h with
  | scalar _ hobject => exact absurd rfl hobject
  | object _ h => exact h field hmem

theorem InKeyOrder.ascending (h : InKeyOrder (.object fields)) : Keyed.Ascending fields := by
  cases h with
  | scalar _ hobject => exact absurd rfl hobject
  | object hkeys _ => exact hkeys

/-- One field is in order by itself. -/
theorem InKeyOrder.singleton (hv : InKeyOrder v) (key : String) :
    InKeyOrder (.object [(key, v)]) :=
  .object (List.pairwise_singleton _ _) (List.forall_mem_singleton.mpr hv)

/-- An object stays in key order when a field is inserted. -/
theorem InKeyOrder.insert (h : InKeyOrder (.object fields)) (hv : InKeyOrder v) (key : String) :
    InKeyOrder (.object (Keyed.insert key v fields)) := by
  refine .object h.ascending.upsert fun field hmem => ?_
  rcases Keyed.mem_insert h.ascending hmem with rfl | hold
  · exact hv
  · exact h.of_mem_fields hold

/-! ### The reader -/

/-- An open array or object is **in key order** if it would be when closed. -/
def Frame.InKeyOrder : Frame → Prop
  | .array items => Json.InKeyOrder (.array items)
  | .object fields _ => Json.InKeyOrder (.object fields)

/-- All that a reader has read so far is **in key order**. -/
structure Reader.InKeyOrder (reader : Reader) : Prop where
  stack : ∀ frame ∈ reader.stack, frame.InKeyOrder
  result : ∀ v, reader.expected = .nothing v → v.InKeyOrder

namespace Reader

variable {stack : List Frame} {reader reader' : Reader} {token : Token}

/-- A complete value takes its place in the innermost array or object. -/
theorem inKeyOrder_deliver (hv : v.InKeyOrder) (hstack : ∀ frame ∈ stack, frame.InKeyOrder) :
    (deliver v stack).InKeyOrder := by
  cases stack with
  | nil =>
      refine ⟨nofun, fun w hw => ?_⟩
      cases hw
      exact hv
  | cons frame rest =>
      rw [List.forall_mem_cons] at hstack
      obtain ⟨hframe, hrest⟩ := hstack
      cases frame with
      | array items =>
          have hitems : Json.InKeyOrder (.array (v :: items)) :=
            .array (List.forall_mem_cons.mpr ⟨hv, fun _ => Json.InKeyOrder.of_mem_items hframe⟩)
          exact ⟨List.forall_mem_cons.mpr ⟨hitems, hrest⟩, nofun⟩
      | object fields key =>
          have hfields := Json.InKeyOrder.insert hframe hv key
          exact ⟨List.forall_mem_cons.mpr ⟨hfields, hrest⟩, nofun⟩

/-- The end of an array completes it. -/
theorem inKeyOrder_closeArray (hstack : ∀ frame ∈ stack, frame.InKeyOrder)
    (h : closeArray stack = some reader) : reader.InKeyOrder := by
  unfold closeArray at h
  split at h
  · rename_i items rest
    rw [List.forall_mem_cons] at hstack
    obtain ⟨hitems, hrest⟩ := hstack
    rw [← Option.some.inj h]
    refine inKeyOrder_deliver (.array fun item hmem => ?_) hrest
    exact Json.InKeyOrder.of_mem_items hitems (List.mem_reverse.mp hmem)
  · exact absurd h nofun

/-- The end of an object completes it. -/
theorem inKeyOrder_closeObject (hstack : ∀ frame ∈ stack, frame.InKeyOrder)
    (h : closeObject stack = some reader) : reader.InKeyOrder := by
  unfold closeObject at h
  split at h
  · rw [List.forall_mem_cons] at hstack
    rw [← Option.some.inj h]
    exact inKeyOrder_deliver hstack.1 hstack.2
  · exact absurd h nofun

/-- A new array or object has nothing in it. -/
theorem inKeyOrder_openFrame {frame : Frame} {expected : Expected}
    (hstack : ∀ frame ∈ stack, frame.InKeyOrder) (hframe : frame.InKeyOrder)
    (h : openFrame stack frame expected = some reader) (hexpected : ∀ v, expected ≠ .nothing v) :
    reader.InKeyOrder := by
  unfold openFrame at h
  split at h
  · rw [← Option.some.inj h]
    exact ⟨List.forall_mem_cons.mpr ⟨hframe, hstack⟩, fun v hv => absurd hv (hexpected v)⟩
  · exact absurd h nofun

/-- The first token of a value is a scalar, or opens an array or object. -/
theorem inKeyOrder_startValue (hstack : ∀ frame ∈ stack, frame.InKeyOrder)
    (h : startValue stack token = some reader) : reader.InKeyOrder := by
  cases token with
  | null | bool _ | number _ | string _ =>
      rw [← Option.some.inj h]
      exact inKeyOrder_deliver (.scalar nofun nofun) hstack
  | openArray =>
      have hempty : (Frame.array []).InKeyOrder := Json.InKeyOrder.array nofun
      exact inKeyOrder_openFrame hstack hempty h nofun
  | openObject =>
      have hempty : (Frame.object [] "").InKeyOrder := Json.InKeyOrder.object .nil nofun
      exact inKeyOrder_openFrame hstack hempty h nofun
  | closeArray | closeObject | comma | colon => exact absurd h nofun

/-- **One more token** keeps what was read in key order. -/
theorem InKeyOrder.step (h : reader.InKeyOrder) (hstep : reader.step token = some reader') :
    reader'.InKeyOrder := by
  obtain ⟨stack, expected⟩ := reader
  have hstack := h.stack
  cases expected with
  | value orClose =>
      simp only [Reader.step] at hstep
      split at hstep
      · exact inKeyOrder_closeArray hstack hstep
      · exact inKeyOrder_startValue hstack hstep
  | key orClose =>
      simp only [Reader.step] at hstep
      split at hstep
      · -- the key is noted, and no field is changed
        rw [List.forall_mem_cons] at hstack
        rw [← Option.some.inj hstep]
        exact ⟨List.forall_mem_cons.mpr hstack, nofun⟩
      · split at hstep
        · exact inKeyOrder_closeObject hstack hstep
        · exact absurd hstep nofun
      · exact absurd hstep nofun
  | colon =>
      simp only [Reader.step] at hstep
      split at hstep
      · rw [← Option.some.inj hstep]
        exact ⟨hstack, nofun⟩
      · exact absurd hstep nofun
  | separator =>
      simp only [Reader.step] at hstep
      split at hstep
      · rw [← Option.some.inj hstep]
        exact ⟨hstack, nofun⟩
      · rw [← Option.some.inj hstep]
        exact ⟨hstack, nofun⟩
      · exact inKeyOrder_closeArray hstack hstep
      · exact inKeyOrder_closeObject hstack hstep
      · exact absurd hstep nofun
  | nothing result => exact absurd hstep nofun

/-- **Any number of tokens** keeps what was read in key order. -/
theorem InKeyOrder.run (h : reader.InKeyOrder) {tokens : List Token}
    (hrun : tokens.foldlM Reader.step reader = some reader') : reader'.InKeyOrder := by
  induction tokens generalizing reader with
  | nil =>
      rw [← Option.some.inj hrun]
      exact h
  | cons token tokens ih =>
      rw [List.foldlM_cons] at hrun
      obtain ⟨next, hstep, hrest⟩ := Option.bind_eq_some_iff.mp hrun
      exact ih (h.step hstep) hrest

end Reader

/-- **A value that is read** is in key order. -/
theorem inKeyOrder_of_parse {text : String} (h : parse text = some v) : v.InKeyOrder := by
  obtain ⟨tokens, -, h⟩ := Option.bind_eq_some_iff.mp h
  obtain ⟨reader, hrun, hresult⟩ := Option.bind_eq_some_iff.mp h
  have hstart : Reader.InKeyOrder {} := ⟨nofun, nofun⟩
  have hreader := hstart.run hrun
  unfold Reader.result? at hresult
  split at hresult
  · rename_i w hexpected
    exact Option.some.inj hresult ▸ hreader.result w hexpected
  · exact absurd hresult nofun

end ManifestPatch.Json
