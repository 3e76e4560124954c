import ManifestPatch.Proofs.Selector.Grammar
import Mathlib.Tactic.Tauto

/-!
# Cutting at Separators

The reader of selectors first cuts the text in one scan, which counts open brackets and remembers
an open quote. It knows nothing of names, predicates and literals. What makes the cut agree with
the grammar is that the scan **passes** over every piece of the grammar: it meets no separator
inside, and it is back outside all brackets and quotes at the end.

## Main definitions

* `Scan.Passes`: the scan meets no separator in a text and ends in a given state.

## Main results

* `SpellsLast.passes`: the scan passes over every piece of the grammar.
* `cut_append`: what the scan passes over stays in one piece.
* `cut_of_passes`, `cut_separator`: a text that the scan passes over is one piece, and outside
  brackets and quotes a separator begins a new one.
* `flatMap_cut`: the pieces with a separator before each are the text with one before it, so that
  a cut loses nothing.
* `pieces_append_separator`, `pieces_of_passes`: the first piece of a text, and the only one.
-/

namespace ManifestPatch.Selector

/-! ### Passing over a text -/

/-- A scan **passes** over a text: no character of it separates, and after it the scan stands as
given. -/
inductive Scan.Passes : Scan → List Char → Scan → Prop
  | nil (scan : Scan) : Passes scan [] scan
  | cons {scan final : Scan} {c : Char} {rest : List Char} (hc : scan.separates c = false)
      (hr : Passes (scan.next c) rest final) : Passes scan (c :: rest) final

/-- A scan passes over two texts one after the other. -/
theorem Scan.Passes.append {scan middle final : Scan} {s t : List Char} (hs : scan.Passes s middle)
    (ht : middle.Passes t final) : scan.Passes (s ++ t) final := by
  induction hs with
  | nil => exact ht
  | cons hc _ ih => exact Scan.Passes.cons hc (ih ht)

/-- A scan that no character of a text moves, and at which none separates, passes over it. -/
theorem Scan.passes_of_stays {scan : Scan} {s : List Char}
    (h : ∀ c ∈ s, scan.separates c = false ∧ scan.next c = scan) : scan.Passes s scan := by
  induction s with
  | nil => exact Scan.Passes.nil scan
  | cons c rest ih =>
      obtain ⟨hc, hn⟩ := h c (by simp)
      refine Scan.Passes.cons hc ?_
      rw [hn]
      exact ih fun d hd => h d (List.mem_cons_of_mem c hd)

/-- Outside brackets, only separators and brackets matter. -/
theorem Scan.passes_outside {s : List Char} (h : ∀ c ∈ s, c ∉ ['/', '[', ']']) :
    Scan.Passes {} s {} := by
  refine Scan.passes_of_stays fun c hc => ?_
  have hd := h c hc
  simp only [List.mem_cons, List.not_mem_nil, or_false, not_or] at hd
  simp [Scan.separates, Scan.next, hd]

/-- Inside brackets, only brackets and quotes matter. -/
theorem Scan.passes_inside {s : List Char} (h : ∀ c ∈ s, c ∉ ['"', '\'', '[', ']']) :
    Scan.Passes { depth := 1 } s { depth := 1 } := by
  refine Scan.passes_of_stays fun c hc => ?_
  have hd := h c hc
  simp only [List.mem_cons, List.not_mem_nil, or_false, not_or] at hd
  simp [Scan.separates, Scan.next, isQuote, hd]

/-- Between brackets, a text in quotes is passed over whatever it holds besides the quote. -/
theorem Scan.passes_quoted {quote : Char} {s : List Char} (hq : isQuote quote = true)
    (h : quote ∉ s) : Scan.Passes { depth := 1 } (quote :: (s ++ [quote])) { depth := 1 } := by
  have hin : Scan.Passes { depth := 1, quote := some quote } s
      { depth := 1, quote := some quote } := by
    refine Scan.passes_of_stays fun c hc => ?_
    have hne : c ≠ quote := by
      rintro rfl
      exact h hc
    simp [Scan.separates, Scan.next, hne]
  have hout : Scan.Passes { depth := 1, quote := some quote } [quote] { depth := 1 } := by
    refine Scan.Passes.cons (by simp [Scan.separates]) ?_
    simpa [Scan.next] using Scan.Passes.nil { depth := 1 }
  refine Scan.Passes.cons (by simp [Scan.separates]) ?_
  simpa [Scan.next, hq] using hin.append hout

/-! ### The pieces of the grammar -/

/-- The scan passes over a name, outside brackets. -/
theorem SpellsName.passes_outside {s : List Char} (h : SpellsName s) : Scan.Passes {} s {} := by
  refine Scan.passes_outside fun c hc hd => h.notMem (c := c) ?_ hc
  simp only [List.mem_cons, List.not_mem_nil, or_false] at hd ⊢
  tauto

/-- The scan passes over a name, inside brackets. -/
theorem SpellsName.passes_inside {s : List Char} (h : SpellsName s) :
    Scan.Passes { depth := 1 } s { depth := 1 } := by
  refine Scan.passes_inside fun c hc hd => h.notMem (c := c) ?_ hc
  simp only [List.mem_cons, List.not_mem_nil, or_false] at hd ⊢
  tauto

/-- The scan passes over a literal. -/
theorem SpellsLiteral.passes {s : List Char} {value : String} (h : SpellsLiteral s value) :
    Scan.Passes { depth := 1 } s { depth := 1 } := by
  cases h with
  | doubleQuoted h => exact Scan.passes_quoted (by decide) h
  | singleQuoted h => exact Scan.passes_quoted (by decide) h
  | bare ne h =>
      refine Scan.passes_inside fun c hc hd => (h c hc).1 ?_
      simp only [List.mem_cons, List.not_mem_nil, or_false] at hd ⊢
      tauto

/-- The scan passes over the inside of a predicate. -/
theorem SpellsPredicate.passes {body : List Char} {predicate : Predicate}
    (h : SpellsPredicate body predicate) :
    Scan.Passes { depth := 1 } body { depth := 1 } := by
  cases h with
  | position ne hd h1 hs =>
      refine Scan.passes_inside fun c hc hcd => ?_
      have hdigit := hd c hc
      simp only [List.mem_cons, List.not_mem_nil, or_false] at hcd
      rcases hcd with rfl | rfl | rfl | rfl <;> exact absurd hdigit (by decide)
  | @attributeIs mark literal name value hm hn hl =>
      have hmark : Scan.Passes { depth := 1 } mark { depth := 1 } := by
        rcases hm with rfl | rfl
        · exact Scan.Passes.nil _
        · exact Scan.passes_inside (by simp)
      have heq : Scan.Passes { depth := 1 } ['='] { depth := 1 } := Scan.passes_inside (by simp)
      exact (hmark.append hn.passes_inside).append (heq.append hl.passes)

/-- The scan passes over a piece that means an element. -/
theorem SpellsElement.passes {piece : List Char} {component : Component}
    (h : SpellsElement piece component) : Scan.Passes {} piece {} := by
  cases h with
  | plain hn => exact hn.passes_outside
  | qualified hn hp =>
      have hopen : Scan.Passes {} ['['] { depth := 1 } :=
        Scan.Passes.cons (by decide) (Scan.Passes.nil _)
      have hclose : Scan.Passes { depth := 1 } [']'] {} :=
        Scan.Passes.cons (by decide) (Scan.Passes.nil _)
      exact hn.passes_outside.append (hopen.append (hp.passes.append hclose))

/-- The scan passes over every piece of the grammar. -/
theorem SpellsLast.passes {piece : List Char} {component : Component}
    (h : SpellsLast piece component) : Scan.Passes {} piece {} := by
  cases h with
  | ofElement h => exact h.passes
  | ofAttribute hn =>
      have hat : Scan.Passes {} ['@'] {} := Scan.passes_outside (by simp)
      exact hat.append hn.passes_outside

/-! ### The cut -/

/-- A cut has at least one piece. -/
theorem cut_ne_nil (scan : Scan) (s : List Char) : cut scan s ≠ [] := by
  fun_cases cut scan s <;> simp

/-- A character that does not separate goes to the piece of what follows it. -/
theorem cut_cons {scan : Scan} {c : Char} {rest : List Char} (h : scan.separates c = false) :
    cut scan (c :: rest) = (cut (scan.next c) rest).modifyHead (c :: ·) := by
  rw [cut, if_neg (by simp [h])]
  cases hr : cut (scan.next c) rest with
  | nil => exact absurd hr (cut_ne_nil _ _)
  | cons piece pieces => rfl

/-- What the scan passes over goes to the piece of what follows it. -/
theorem cut_append {scan final : Scan} {s : List Char} (h : scan.Passes s final)
    (rest : List Char) : cut scan (s ++ rest) = (cut final rest).modifyHead (s ++ ·) := by
  induction h with
  | nil scan => cases hr : cut scan rest <;> simp [hr]
  | cons hc _ ih =>
      rw [List.cons_append, cut_cons hc, ih, List.modifyHead_modifyHead]
      rfl

/-- What the scan passes over is not cut. -/
theorem cut_of_passes {scan final : Scan} {s : List Char} (h : scan.Passes s final) :
    cut scan s = [s] := by
  have hcut := cut_append h []
  rwa [List.append_nil, cut, List.modifyHead_cons, List.append_nil] at hcut

/-- Outside, a separator begins a new piece. -/
theorem cut_separator (rest : List Char) : cut {} ('/' :: rest) = [] :: cut {} rest := by
  rw [cut, if_pos (by decide)]

/-- The pieces with a separator before each are the text with one before it. -/
theorem flatMap_cut (scan : Scan) (s : List Char) :
    (cut scan s).flatMap (fun piece => '/' :: piece) = '/' :: s := by
  induction s generalizing scan with
  | nil => rfl
  | cons c rest ih =>
      by_cases hc : scan.separates c = true
      · have : c = '/' := by
          simp only [Scan.separates, Bool.and_eq_true, beq_iff_eq] at hc
          exact hc.2
        rw [cut, if_pos hc, List.flatMap_cons, ih, this]
        rfl
      · rw [cut_cons (Bool.eq_false_iff.mpr hc)]
        have hrest := ih (scan.next c)
        cases hr : cut (scan.next c) rest with
        | nil => exact absurd hr (cut_ne_nil _ _)
        | cons piece pieces =>
            rw [hr, List.flatMap_cons, List.cons_append] at hrest
            rw [List.modifyHead_cons, List.flatMap_cons, List.cons_append, List.cons_append,
              (List.cons.inj hrest).2]

/-! ### The pieces of a text -/

/-- A leading separator counts for nothing. -/
theorem pieces_separator (rest : List Char) : pieces ('/' :: rest) = pieces rest := by
  rw [pieces, cut_separator, List.filter_cons_of_neg (by simp), pieces]

/-- Leading separators count for nothing. -/
theorem pieces_separators (n : Nat) (rest : List Char) :
    pieces (List.replicate n '/' ++ rest) = pieces rest := by
  induction n with
  | zero => rfl
  | succ n ih => rw [List.replicate_succ, List.cons_append, pieces_separator, ih]

/-- A text before a separator, if the scan passes over it, is the first piece. -/
theorem pieces_append_separator {piece rest : List Char} (h : Scan.Passes {} piece {})
    (ne : piece ≠ []) : pieces (piece ++ '/' :: rest) = piece :: pieces rest := by
  rw [pieces, cut_append h, cut_separator, List.modifyHead_cons, List.append_nil,
    List.filter_cons_of_pos (by simpa using ne), pieces]

/-- A text that the scan passes over is its only piece, wherever the scan ends. -/
theorem pieces_of_passes {piece : List Char} {final : Scan} (h : Scan.Passes {} piece final)
    (ne : piece ≠ []) : pieces piece = [piece] := by
  rw [pieces, cut_of_passes h, List.filter_cons_of_pos (by simpa using ne), List.filter_nil]

end ManifestPatch.Selector
