import ManifestPatch.Selector.Parser

/-!
# The Grammar of Selectors

This module states which texts are selectors, and which components such a text spells, without
any reference to how selectors are read. Every nonterminal is a relation between a text and what
the text stands for, so that a derivation carries the components that are read off it:

* a **text** has pieces, separated by one or more `/`, with any number of `/` around them;
* a **piece** is a name, a name with a predicate in brackets, or, in last place only, `@` and a
  name;
* a **predicate** is a position from 1 to the largest 64-bit number, in decimal with any number of
  leading zeros, or an attribute name, with or without `@`, compared with a literal;
* a **literal** stands in double or single quotes, whatever it holds besides that quote, or it
  stands bare and holds no quote, bracket, equals sign or white space.

## Main definitions

* `SpellsName`, `SpellsLiteral`, `SpellsPredicate`, `SpellsElement`, `SpellsLast`: the parts of a
  piece and the two kinds of pieces.
* `SpellsPath`, `Spells`: the pieces of a text without and with leading separators.

## Main results

* `isName_iff_spellsName`: the test for names accepts exactly the names of the grammar.
* `SpellsName.notMem`: no delimiter of the grammar stands in a name.
* `SpellsElement.ne_nil`, `SpellsLast.ne_nil`, `SpellsPath.components_ne_nil`: no piece is empty,
  and no text is without a piece.
-/

namespace ManifestPatch.Selector

/-! ### Parts of a piece -/

/-- A **name**: a letter or `_`, then letters, numerals and `_ - . :`, with at most one `:`, which
does not come last. -/
inductive SpellsName : List Char → Prop
  | intro {c : Char} {rest : List Char} (first : Text.isLetter c = true ∨ c = '_')
      (others : ∀ d ∈ rest,
        Text.isLetter d = true ∨ Text.isNumeral d = true ∨ d ∈ ['_', '-', '.', ':'])
      (colons : (c :: rest).count ':' ≤ 1) (last : (c :: rest).getLast? ≠ some ':') :
      SpellsName (c :: rest)

/-- A **literal** and its value: anything but double quotes between double quotes, anything but
single quotes between single quotes, or a text that is neither empty nor has a quote, a bracket,
an equals sign or white space in it. -/
inductive SpellsLiteral : List Char → String → Prop
  | doubleQuoted {value : String} (h : '"' ∉ value.toList) :
      SpellsLiteral ('"' :: (value.toList ++ ['"'])) value
  | singleQuoted {value : String} (h : '\'' ∉ value.toList) :
      SpellsLiteral ('\'' :: (value.toList ++ ['\''])) value
  | bare {value : String} (ne : value.toList ≠ [])
      (h : ∀ c ∈ value.toList, c ∉ ['"', '\'', '[', ']', '='] ∧ Text.isBlank c = false) :
      SpellsLiteral value.toList value

/-- The inside of a **predicate**: decimal digits whose value lies between 1 and the largest
64-bit number, or an attribute name, possibly after `@`, then `=` and a literal. -/
inductive SpellsPredicate : List Char → Predicate → Prop
  | position {digits : List Char} (ne : digits ≠ []) (h : ∀ d ∈ digits, d.isDigit = true)
      (pos : 1 ≤ Nat.ofDigitChars 10 digits 0)
      (fits : Nat.ofDigitChars 10 digits 0 < UInt64.size) :
      SpellsPredicate digits (.position (UInt64.ofNat (Nat.ofDigitChars 10 digits 0)))
  | attributeIs {mark literal : List Char} {name value : String} (hm : mark = [] ∨ mark = ['@'])
      (hn : SpellsName name.toList) (hl : SpellsLiteral literal value) :
      SpellsPredicate (mark ++ name.toList ++ '=' :: literal) (.attributeIs name value)

/-! ### Pieces and texts -/

/-- A piece that means an **element**: a name, with or without a predicate in brackets. -/
inductive SpellsElement : List Char → Component → Prop
  | plain {name : String} (hn : SpellsName name.toList) : SpellsElement name.toList { name }
  | qualified {name : String} {body : List Char} {predicate : Predicate}
      (hn : SpellsName name.toList) (hp : SpellsPredicate body predicate) :
      SpellsElement (name.toList ++ '[' :: (body ++ [']']))
        { name, predicate := some predicate }

/-- A piece in **last** place, which means an element, or an attribute if it is `@` and a name. -/
inductive SpellsLast : List Char → Component → Prop
  | ofElement {piece : List Char} {component : Component} (h : SpellsElement piece component) :
      SpellsLast piece component
  | ofAttribute {name : String} (hn : SpellsName name.toList) :
      SpellsLast ('@' :: name.toList) { name := "@" ++ name }

/-- A text that begins with a piece: pieces with one or more separators after each but the last,
and any number of separators after that. -/
inductive SpellsPath : List Char → List Component → Prop
  | last {piece : List Char} {component : Component} (h : SpellsLast piece component)
      (trailing : Nat) : SpellsPath (piece ++ List.replicate trailing '/') [component]
  | step {piece rest : List Char} {component : Component} {components : List Component}
      (h : SpellsElement piece component) (more : Nat) (hr : SpellsPath rest components) :
      SpellsPath (piece ++ List.replicate (more + 1) '/' ++ rest) (component :: components)

/-- A **selector** text and the components that it spells: any number of separators, then a text
that begins with a piece. -/
inductive Spells : List Char → List Component → Prop
  | intro {text : List Char} {components : List Component} (leading : Nat)
      (h : SpellsPath text components) : Spells (List.replicate leading '/' ++ text) components

/-! ### Names -/

/-- The characters of a name after its first. -/
theorem isNameChar_iff {c : Char} : isNameChar c = true ↔
    Text.isLetter c = true ∨ Text.isNumeral c = true ∨ c ∈ ['_', '-', '.', ':'] := by
  simp only [isNameChar, Bool.or_eq_true, beq_iff_eq, List.mem_cons, List.not_mem_nil, or_false]
  constructor
  · rintro (((((h | h) | h) | h) | h) | h) <;> simp [h]
  · rintro (h | h | h | h | h | h) <;> simp [h]

/-- No name begins with the colon. -/
theorem ne_colon_of_first {c : Char} (h : Text.isLetter c = true ∨ c = '_') : c ≠ ':' := by
  rintro rfl
  rcases h with h | h
  · exact absurd h (by decide)
  · exact absurd h (by decide)

/-- The last character of a list with one more in front, which is not the colon, is the colon
exactly if it was before. -/
theorem getLast?_cons_ne_colon_iff {c : Char} {rest : List Char} (h : c ≠ ':') :
    (c :: rest).getLast? ≠ some ':' ↔ rest.getLast? ≠ some ':' := by
  rw [List.getLast?_cons]
  cases rest.getLast? with
  | none => simpa using h
  | some d => simp

/-- The test for names accepts exactly the names of the grammar. -/
theorem isName_iff_spellsName {s : List Char} : isName s = true ↔ SpellsName s := by
  constructor
  · intro h
    cases s with
    | nil => simp [isName] at h
    | cons c rest =>
        simp only [isName, isNameStart, Bool.and_eq_true, Bool.or_eq_true, List.all_eq_true,
          decide_eq_true_eq, beq_iff_eq, bne_iff_ne] at h
        obtain ⟨⟨⟨first, others⟩, colons⟩, last⟩ := h
        have hc := ne_colon_of_first first
        exact SpellsName.intro first (fun d hd => isNameChar_iff.mp (others d hd))
          (by rwa [List.count_cons_of_ne hc]) ((getLast?_cons_ne_colon_iff hc).mpr last)
  · rintro ⟨first, others, colons, last⟩
    have hc := ne_colon_of_first first
    rw [List.count_cons_of_ne hc] at colons
    rw [getLast?_cons_ne_colon_iff hc] at last
    simp only [isName, isNameStart, Bool.and_eq_true, Bool.or_eq_true, List.all_eq_true,
      decide_eq_true_eq, beq_iff_eq, bne_iff_ne]
    exact ⟨⟨⟨first, fun d hd => isNameChar_iff.mpr (others d hd)⟩, colons⟩, last⟩

/-- No delimiter of the grammar stands in a name. -/
theorem SpellsName.notMem {s : List Char} (h : SpellsName s) {c : Char}
    (hc : c ∈ ['/', '[', ']', '@', '=', '"', '\'', ' ']) : c ∉ s := by
  intro hs
  have := isNameChar_of_mem (isName_iff_spellsName.mpr h) hs
  rw [isNameChar_delimiter hc] at this
  exact absurd this (by simp)

/-- No name is empty. -/
theorem SpellsName.ne_nil {s : List Char} (h : SpellsName s) : s ≠ [] := by
  cases h
  simp

/-! ### Pieces -/

/-- No piece that means an element is empty. -/
theorem SpellsElement.ne_nil {piece : List Char} {component : Component}
    (h : SpellsElement piece component) : piece ≠ [] := by
  cases h with
  | plain hn => exact hn.ne_nil
  | qualified hn hp => simp

/-- No piece in last place is empty. -/
theorem SpellsLast.ne_nil {piece : List Char} {component : Component}
    (h : SpellsLast piece component) : piece ≠ [] := by
  cases h with
  | ofElement h => exact h.ne_nil
  | ofAttribute hn => simp

/-- A piece that means an element spells no attribute. -/
theorem SpellsElement.isAttribute_eq_false {piece : List Char} {component : Component}
    (h : SpellsElement piece component) : component.isAttribute = false := by
  have key : ∀ {name : String}, SpellsName name.toList → Text.afterStart? "@" name = none := by
    intro name hn
    rw [Option.eq_none_iff_forall_ne_some]
    intro rest hr
    rw [Text.afterStart?_eq_some_iff] at hr
    exact hn.notMem (c := '@') (by simp) (by simp [hr])
  cases h with
  | plain hn => simp [Component.isAttribute, Component.attributeName?, key hn]
  | qualified hn hp => simp [Component.isAttribute, Component.attributeName?, key hn]

/-- A text spells at least one component. -/
theorem SpellsPath.components_ne_nil {text : List Char} {components : List Component}
    (h : SpellsPath text components) : components ≠ [] := by
  cases h <;> simp

end ManifestPatch.Selector
