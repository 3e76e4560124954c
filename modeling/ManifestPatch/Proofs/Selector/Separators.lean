import ManifestPatch.Proofs.Selector.Reading

/-!
# Pieces between Separators

A `/` is a **separator** if it stands outside all brackets and literals, and the pieces of a text
are what stands between its separators. This module says so without cutting anything, for every
text, balanced or not: a text falls into pieces that the scan passes over, and at every separator
the scan is back outside. Hence a text can be taken apart at any of its separators, and the pieces
of the two parts are the pieces of the whole. Every text of the grammar ends outside, so that a
separator behind it is one.

## Main definitions

* `CutsInto`, `PiecesOf`: what stands between the separators of a text, with and without the empty
  pieces.
* `Scan.after`, `Closed`: where a scan ends; a text behind which it is outside.
* `OnlySeparators`, `separators`: texts without any piece.

## Main results

* `cutsInto_iff`, `piecesOf_iff`: the cut of a text is what stands between its separators.
* `pieces_append_of_after`: a text taken apart at a separator.
* `pieces_eq_nil_iff`: only separators have no pieces.
* `Closed.of_parse`: every text that is read as a selector is closed.
-/

namespace ManifestPatch.Selector

/-! ### What stands between separators -/

/-- A text is **cut into** pieces: the scan starts outside and passes over each of them, and behind
each but the last it is outside again, where it meets a separator. -/
inductive CutsInto : List Char → List (List Char) → Prop
  | last {piece : List Char} {final : Scan} (h : Scan.Passes {} piece final) :
      CutsInto piece [piece]
  | step {piece rest : List Char} {cuts : List (List Char)} (h : Scan.Passes {} piece {})
      (hr : CutsInto rest cuts) : CutsInto (piece ++ '/' :: rest) (piece :: cuts)

/-- The **pieces of** a text: what stands between its separators, and is not empty. -/
def PiecesOf (text : String) (ps : List (List Char)) : Prop :=
  ∃ cuts, CutsInto text.toList cuts ∧ ps = cuts.filter fun piece => !piece.isEmpty

/-- A separator is a `/`, and the scan is outside all brackets and literals there. -/
theorem Scan.separates_iff {scan : Scan} {c : Char} :
    scan.separates c = true ↔ scan = {} ∧ c = '/' := by
  obtain ⟨depth, quote⟩ := scan
  simp [Scan.separates, and_comm]

/-- What stands between separators is what the cut gives. -/
theorem CutsInto.cut_eq {s : List Char} {cuts : List (List Char)} (h : CutsInto s cuts) :
    cut {} s = cuts := by
  induction h with
  | last h => exact cut_of_passes h
  | step h _ ih =>
      rw [cut_append h, cut_separator, ih, List.modifyHead_cons, List.append_nil]

/-- The rest of a text behind some characters that the scan has passed over is cut into a piece
that goes on with these characters, and further pieces. The induction is on the rest; at a separator
the scan is outside, and a new piece begins. -/
theorem cutsInto_of_passes {scan : Scan} {front : List Char} (h : Scan.Passes {} front scan)
    (s : List Char) : CutsInto (front ++ s) ((cut scan s).modifyHead (front ++ ·)) := by
  induction s generalizing scan front with
  | nil =>
      rw [cut, List.modifyHead_cons, List.append_nil]
      exact .last h
  | cons c rest ih =>
      by_cases hc : scan.separates c = true
      · obtain ⟨rfl, rfl⟩ := Scan.separates_iff.mp hc
        rw [cut_separator, List.modifyHead_cons, List.append_nil]
        have hrest := ih (Scan.Passes.nil {})
        cases hcut : cut {} rest with
        | nil => exact absurd hcut (cut_ne_nil _ _)
        | cons piece others =>
            rw [hcut] at hrest
            exact .step h hrest
      · rw [Bool.not_eq_true] at hc
        have hone : scan.Passes [c] (scan.next c) := .cons hc (.nil _)
        have hrest := ih (h.append hone)
        rw [cut_cons hc, List.modifyHead_modifyHead]
        simpa [Function.comp_def] using hrest

/-- **The cut of a text is what stands between its separators**, and nothing else is. -/
theorem cutsInto_iff {s : List Char} {cuts : List (List Char)} :
    CutsInto s cuts ↔ cut {} s = cuts := by
  refine ⟨CutsInto.cut_eq, ?_⟩
  rintro rfl
  have h := cutsInto_of_passes (Scan.Passes.nil {}) s
  cases hcut : cut {} s with
  | nil => exact absurd hcut (cut_ne_nil _ _)
  | cons piece others => rwa [hcut] at h

/-- A text has exactly the pieces that are read as components. -/
theorem piecesOf_iff {text : String} {ps : List (List Char)} :
    PiecesOf text ps ↔ pieces text.toList = ps := by
  simp only [PiecesOf, cutsInto_iff, pieces]
  constructor
  · rintro ⟨cuts, rfl, rfl⟩
    rfl
  · rintro rfl
    exact ⟨_, rfl, rfl⟩

/-- The scan passes over every piece of a cut. -/
theorem CutsInto.passes_of_mem {s piece : List Char} {cuts : List (List Char)}
    (h : CutsInto s cuts) (hmem : piece ∈ cuts) : ∃ final, Scan.Passes {} piece final := by
  induction h with
  | last h =>
      rw [List.mem_singleton.mp hmem]
      exact ⟨_, h⟩
  | step h _ ih =>
      rcases List.mem_cons.mp hmem with rfl | hmem
      · exact ⟨_, h⟩
      · exact ih hmem

/-- A piece is the only piece of its own. -/
theorem pieces_of_mem_pieces {s piece : List Char} (h : piece ∈ pieces s) :
    pieces piece = [piece] := by
  obtain ⟨hmem, hne⟩ := List.mem_filter.mp h
  obtain ⟨final, hpasses⟩ := (cutsInto_iff.mpr rfl).passes_of_mem hmem
  exact pieces_of_passes hpasses (by simpa using hne)

/-! ### Only separators -/

/-- A text of **separators** alone, or an empty one. -/
def OnlySeparators (text : String) : Prop :=
  ∀ c ∈ text.toList, c = '/'

/-- A run of separators. -/
def separators (n : Nat) : String :=
  .ofList (List.replicate n '/')

@[simp] theorem toList_separators (n : Nat) : (separators n).toList = List.replicate n '/' :=
  String.toList_ofList

/-- Only texts of separators alone have no pieces. -/
theorem pieces_eq_nil_iff {text : String} : pieces text.toList = [] ↔ OnlySeparators text := by
  constructor
  · intro h c hc
    have hall : ∀ piece ∈ cut {} text.toList, piece = [] := by
      simpa [pieces, List.filter_eq_nil_iff] using h
    have hmem : c ∈ (cut {} text.toList).flatMap fun piece => '/' :: piece := by
      rw [flatMap_cut]
      exact List.mem_cons_of_mem _ hc
    obtain ⟨piece, hpiece, hc⟩ := List.mem_flatMap.mp hmem
    rw [hall piece hpiece] at hc
    exact List.mem_singleton.mp hc
  · intro h
    have hall := List.eq_replicate_iff.mpr ⟨rfl, h⟩
    have hnone := pieces_separators text.toList.length []
    rw [List.append_nil, ← hall] at hnone
    exact hnone

/-! ### Where a scan ends -/

/-- Where a scan stands **after** a text. A separator leaves it outside. -/
def Scan.after (scan : Scan) (s : List Char) : Scan :=
  s.foldl Scan.next scan

/-- A text is **closed** if the scan is outside all brackets and literals behind it, so that a `/`
there is a separator. -/
def Closed (text : String) : Prop :=
  Scan.after {} text.toList = {}

theorem Scan.after_append (scan : Scan) (s t : List Char) :
    scan.after (s ++ t) = (scan.after s).after t :=
  List.foldl_append

/-- Where a scan stands after a text that it passes over. -/
theorem Scan.Passes.after_eq {scan final : Scan} {s : List Char} (h : scan.Passes s final) :
    scan.after s = final := by
  induction h with
  | nil => rfl
  | cons _ _ ih => exact ih

/-- Separators leave the scan outside. -/
theorem Scan.after_separators (n : Nat) : Scan.after {} (List.replicate n '/') = {} := by
  induction n with
  | zero => rfl
  | succ n ih => exact ih

/-- A cut in two parts, if the first ends outside. The induction is on the first part. -/
theorem cut_append_of_after {scan : Scan} {s : List Char} (h : scan.after s = {})
    (rest : List Char) : cut scan (s ++ '/' :: rest) = cut scan s ++ cut {} rest := by
  induction s generalizing scan with
  | nil =>
      obtain rfl : scan = {} := h
      rw [List.nil_append, cut_separator]
      rfl
  | cons c s ih =>
      rw [List.cons_append]
      by_cases hc : scan.separates c = true
      · obtain ⟨rfl, rfl⟩ := Scan.separates_iff.mp hc
        have hs : Scan.after {} s = {} := h
        rw [cut_separator, cut_separator, ih hs, List.cons_append]
      · rw [Bool.not_eq_true] at hc
        rw [cut_cons hc, cut_cons hc, ih h]
        cases hcut : cut (scan.next c) s with
        | nil => exact absurd hcut (cut_ne_nil _ _)
        | cons piece others => rfl

/-- **A text taken apart at a separator** has the pieces of its parts. -/
theorem pieces_append_of_after {s : List Char} (h : Scan.after {} s = {}) (rest : List Char) :
    pieces (s ++ '/' :: rest) = pieces s ++ pieces rest := by
  rw [pieces, cut_append_of_after h, List.filter_append]
  rfl

/-- Separators behind a closed text count for nothing. -/
theorem pieces_append_separators {s : List Char} (h : Scan.after {} s = {}) (n : Nat) :
    pieces (s ++ List.replicate n '/') = pieces s := by
  cases n with
  | zero => rw [List.replicate_zero, List.append_nil]
  | succ n =>
      have hnone := pieces_separators n []
      rw [List.append_nil] at hnone
      rw [List.replicate_succ, pieces_append_of_after h, hnone]
      exact List.append_nil _

/-- A text that begins with a piece leaves the scan outside. -/
theorem SpellsPath.after_eq {s : List Char} {components : List Component}
    (h : SpellsPath s components) : Scan.after {} s = {} := by
  induction h with
  | last h trailing => rw [Scan.after_append, h.passes.after_eq, Scan.after_separators]
  | step h more _ ih =>
      rw [Scan.after_append, Scan.after_append, h.passes.after_eq, Scan.after_separators, ih]

/-- **Every text that is read as a selector is closed.** -/
theorem Closed.of_parse {text : String} {s : Selector} (h : parse text = .ok s) :
    Closed text := by
  have hspells := parse_eq_ok_iff_spells.mp h
  rw [Closed]
  generalize text.toList = t at hspells
  obtain ⟨leading, hpath⟩ := hspells
  rw [Scan.after_append, Scan.after_separators, hpath.after_eq]

end ManifestPatch.Selector
