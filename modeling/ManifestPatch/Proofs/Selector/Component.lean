import ManifestPatch.Proofs.Selector.Grammar
import Mathlib.Data.List.Basic
import Mathlib.Data.List.TakeWhile

/-!
# Reading One Component

The reader takes a piece apart at its first opening bracket, at its end and at the first equals
sign of the predicate. This module shows that it thereby accepts exactly the pieces of the
grammar, each with the component that the grammar assigns: one equivalence for each of its
functions, from the literal up to the piece.

## Main results

* `parseLiteral_eq_ok_iff`, `parsePredicate_eq_ok_iff`: the inside of a predicate.
* `parseComponent_eq_ok_iff`: a piece is accepted exactly if the grammar has it in last place.
* `spellsElement_iff`: the pieces that mean elements are those whose component is no attribute.
-/

namespace ManifestPatch.Selector

/-! ### Cutting at the first delimiter -/

/-- Every character of a text without `d` is another one. -/
theorem forall_ne_of_notMem {d : Char} {s : List Char} (h : d ∉ s) :
    ∀ c ∈ s, (c != d) = true := by
  intro c hc
  rw [bne_iff_ne]
  rintro rfl
  exact h hc

/-- A text with a front that has no `d` is cut behind that front. -/
theorem dropWhile_ne_append {d : Char} {front rest : List Char} (h : d ∉ front) :
    (front ++ d :: rest).dropWhile (· != d) = d :: rest := by
  rw [List.dropWhile_append_of_pos (forall_ne_of_notMem h)]
  simp

/-- What stands before the first `d` is the front that has none. -/
theorem takeWhile_ne_append {d : Char} {front rest : List Char} (h : d ∉ front) :
    (front ++ d :: rest).takeWhile (· != d) = front := by
  rw [List.takeWhile_append_of_pos (forall_ne_of_notMem h)]
  simp

/-- Nothing is cut off exactly if there is no `d`. -/
theorem dropWhile_ne_eq_nil_iff {d : Char} {s : List Char} :
    s.dropWhile (· != d) = [] ↔ d ∉ s := by
  rw [List.dropWhile_eq_nil_iff]
  exact ⟨fun h hd => by simpa using h d hd, forall_ne_of_notMem⟩

/-- A text without `d` stands before the first `d` as a whole. -/
theorem takeWhile_ne_of_notMem {d : Char} {s : List Char} (h : d ∉ s) :
    s.takeWhile (· != d) = s :=
  List.takeWhile_eq_self_iff.mpr (forall_ne_of_notMem h)

/-- What is cut off begins with `d`, and what stands before it has no `d`. -/
theorem exists_eq_append_of_dropWhile_ne {d c : Char} {s rest : List Char}
    (h : s.dropWhile (· != d) = c :: rest) : ∃ front, d ∉ front ∧ s = front ++ d :: rest := by
  have hc : c = d := by
    have := List.head?_dropWhile_not (· != d) s
    rw [h] at this
    simpa using this
  subst hc
  refine ⟨s.takeWhile (· != c), fun hd => by simpa using List.mem_takeWhile_imp hd, ?_⟩
  rw [← h, List.takeWhile_append_dropWhile]

/-! ### Literals -/

/-- The two quotes. -/
theorem isQuote_iff {c : Char} : isQuote c = true ↔ c = '"' ∨ c = '\'' := by
  simp [isQuote]

/-- The characters that no bare literal has. -/
theorem isReserved_iff {c : Char} : isReserved c = true ↔ c ∈ ['"', '\'', '[', ']', '='] := by
  simp [isReserved, isQuote, or_assoc]

/-- What the reader of literals accepts is a literal of the grammar. -/
theorem spellsLiteral_of_parseLiteral {s : List Char} {value : String}
    (h : parseLiteral s = .ok value) : SpellsLiteral s value := by
  cases s with
  | nil => simp [parseLiteral] at h
  | cons c rest =>
      rw [parseLiteral] at h
      by_cases hq : isQuote c = true
      · rw [if_pos hq] at h
        by_cases hlast : rest.getLast? = some c
        · rw [if_pos hlast] at h
          by_cases hc : c ∈ rest.dropLast
          · simp [hc] at h
          · rw [if_neg hc, Except.ok.injEq] at h
            have hd : rest.dropLast = value.toList := by rw [← h, String.toList_ofList]
            have hr : rest = value.toList ++ [c] := by
              rw [← hd]
              exact (List.dropLast_append_getLast? c hlast).symm
            rw [hd] at hc
            rw [hr]
            rcases isQuote_iff.mp hq with rfl | rfl
            · exact SpellsLiteral.doubleQuoted hc
            · exact SpellsLiteral.singleQuoted hc
        · simp [hlast] at h
      · rw [if_neg hq] at h
        by_cases hr : (c :: rest).any isReserved = true
        · simp only [hr, if_true, reduceCtorEq] at h
        · rw [if_neg hr] at h
          by_cases hb : (c :: rest).any Text.isBlank = true
          · simp only [hb, if_true, reduceCtorEq] at h
          · rw [if_neg hb, Except.ok.injEq] at h
            have hv : c :: rest = value.toList := by rw [← h, String.toList_ofList]
            rw [hv] at hr hb ⊢
            simp only [List.any_eq_true, not_exists, not_and] at hr hb
            refine SpellsLiteral.bare (by simp [← hv]) fun d hd => ⟨fun hd' => ?_, ?_⟩
            · exact hr d hd (isReserved_iff.mpr hd')
            · exact Bool.eq_false_iff.mpr (hb d hd)

/-- Every literal of the grammar is accepted, with its value. -/
theorem SpellsLiteral.parseLiteral_eq {s : List Char} {value : String}
    (h : SpellsLiteral s value) : parseLiteral s = .ok value := by
  cases h with
  | doubleQuoted h => simp [parseLiteral, isQuote, h]
  | singleQuoted h => simp [parseLiteral, isQuote, h]
  | bare ne h =>
      obtain ⟨c, rest, hv⟩ := List.exists_cons_of_ne_nil ne
      have hq : ¬ isQuote c = true := by
        have hc := (h c (by simp [hv])).1
        rw [isQuote_iff]
        rintro (rfl | rfl) <;> exact hc (by simp)
      have hr : ¬ (c :: rest).any isReserved = true := by
        rw [← hv, List.any_eq_true]
        rintro ⟨d, hd, hd'⟩
        exact (h d hd).1 (isReserved_iff.mp hd')
      have hb : ¬ (c :: rest).any Text.isBlank = true := by
        rw [← hv, List.any_eq_true]
        rintro ⟨d, hd, hd'⟩
        exact absurd hd' (by simp [(h d hd).2])
      rw [hv, parseLiteral, if_neg hq, if_neg hr, if_neg hb, ← hv, String.ofList_toList]

/-- The reader of literals accepts exactly the literals of the grammar. -/
theorem parseLiteral_eq_ok_iff {s : List Char} {value : String} :
    parseLiteral s = .ok value ↔ SpellsLiteral s value :=
  ⟨spellsLiteral_of_parseLiteral, SpellsLiteral.parseLiteral_eq⟩

/-! ### Predicates -/

/-- A run of digits is accepted as a position exactly if its value is one. -/
theorem parsePosition_eq_ok_iff {digits : List Char} {predicate : Predicate} :
    parsePosition digits = .ok predicate ↔
      (∀ d ∈ digits, d.isDigit = true) ∧ 1 ≤ Nat.ofDigitChars 10 digits 0 ∧
        Nat.ofDigitChars 10 digits 0 < UInt64.size ∧
          predicate = .position (UInt64.ofNat (Nat.ofDigitChars 10 digits 0)) := by
  rw [parsePosition, ← List.all_eq_true]
  by_cases hd : digits.all Char.isDigit = true
  · rw [if_pos hd]
    by_cases h0 : Nat.ofDigitChars 10 digits 0 = 0
    · simp [h0]
    · have h1 : 1 ≤ Nat.ofDigitChars 10 digits 0 := Nat.one_le_iff_ne_zero.mpr h0
      by_cases hs : Nat.ofDigitChars 10 digits 0 < UInt64.size
      · simp only [h0, hs, hd, h1, if_false, dite_true, true_and, Except.ok.injEq,
          UInt64.ofNatLT_eq_ofNat]
        exact eq_comm
      · simp [h0, hs]
  · simp [hd]

/-- A text that does not begin with `@` has none to drop. -/
theorem dropAt_of_head?_ne {s : List Char} (h : s.head? ≠ some '@') : dropAt s = s := by
  unfold dropAt
  split
  · simp at h
  · rfl

/-- A name has no `@` to drop. -/
theorem SpellsName.dropAt_eq {s : List Char} (h : SpellsName s) : dropAt s = s := by
  refine dropAt_of_head?_ne fun hat => ?_
  exact h.notMem (c := '@') (by simp) (List.mem_of_head? hat)

/-- A text without its leading `@` is what it was, or follows the `@`. -/
theorem eq_append_dropAt (s : List Char) :
    ∃ mark, (mark = [] ∨ mark = ['@']) ∧ s = mark ++ dropAt s := by
  unfold dropAt
  split
  · exact ⟨['@'], .inr rfl, rfl⟩
  · exact ⟨[], .inl rfl, rfl⟩

/-- What the reader of predicates accepts is a predicate of the grammar. -/
theorem spellsPredicate_of_parsePredicate {body : List Char} {predicate : Predicate}
    (h : parsePredicate body = .ok predicate) : SpellsPredicate body predicate := by
  rw [parsePredicate] at h
  by_cases he : body.isEmpty = true
  · simp [he] at h
  · rw [if_neg he] at h
    cases hb : body.dropWhile (· != '=') with
    | nil =>
        rw [hb] at h
        obtain ⟨hd, h1, hs, rfl⟩ := parsePosition_eq_ok_iff.mp h
        exact SpellsPredicate.position (by simpa using he) hd h1 hs
    | cons c literal =>
        obtain ⟨front, hfront, rfl⟩ := exists_eq_append_of_dropWhile_ne hb
        simp only [hb, takeWhile_ne_append hfront] at h
        by_cases hn : isName (dropAt front) = true
        · rw [if_pos hn] at h
          cases hl : parseLiteral literal with
          | error fault => simp [hl, Functor.map, Except.map] at h
          | ok value =>
              rw [hl] at h
              obtain rfl : _ = predicate := Except.ok.inj h
              obtain ⟨mark, hm, hmark⟩ := eq_append_dropAt front
              rw [isName_iff_spellsName, ← String.toList_ofList (l := dropAt front)] at hn
              have key := SpellsPredicate.attributeIs hm hn (parseLiteral_eq_ok_iff.mp hl)
              rwa [String.toList_ofList, ← hmark] at key
        · simp [hn] at h

/-- Every predicate of the grammar is accepted, with what it means. -/
theorem SpellsPredicate.parsePredicate_eq {body : List Char} {predicate : Predicate}
    (h : SpellsPredicate body predicate) : parsePredicate body = .ok predicate := by
  cases h with
  | position ne hd h1 hs =>
      have heq : '=' ∉ body := fun hc => absurd (hd '=' hc) (by decide)
      rw [parsePredicate, if_neg (by simpa using ne)]
      simp only [dropWhile_ne_eq_nil_iff.mpr heq]
      exact parsePosition_eq_ok_iff.mpr ⟨hd, h1, hs, rfl⟩
  | @attributeIs mark literal name value hm hn hl =>
      have hfront : '=' ∉ mark ++ name.toList := by
        rw [List.mem_append, not_or]
        exact ⟨by rcases hm with rfl | rfl <;> simp, hn.notMem (by simp)⟩
      have hname : dropAt (mark ++ name.toList) = name.toList := by
        rcases hm with rfl | rfl
        · exact hn.dropAt_eq
        · rfl
      rw [parsePredicate, if_neg (by simp)]
      simp only [dropWhile_ne_append hfront, takeWhile_ne_append hfront, hname,
        isName_iff_spellsName.mpr hn, if_true, parseLiteral_eq_ok_iff.mpr hl, String.ofList_toList]
      rfl

/-- The reader of predicates accepts exactly the predicates of the grammar. -/
theorem parsePredicate_eq_ok_iff {body : List Char} {predicate : Predicate} :
    parsePredicate body = .ok predicate ↔ SpellsPredicate body predicate :=
  ⟨spellsPredicate_of_parsePredicate, SpellsPredicate.parsePredicate_eq⟩

/-! ### Pieces -/

/-- A piece has no predicate exactly if it has no opening bracket. -/
theorem predicateBody_eq_ok_none_iff {piece : List Char} :
    predicateBody piece = .ok none ↔ '[' ∉ piece := by
  rw [← dropWhile_ne_eq_nil_iff, predicateBody]
  cases piece.dropWhile (· != '[') with
  | nil => simp
  | cons c rest => by_cases h : rest.getLast? = some ']' <;> simp [h]

/-- A piece has a predicate exactly if the text from its first opening bracket on ends with a
closing bracket; the predicate is what stands between the two. -/
theorem predicateBody_eq_ok_some_iff {piece body : List Char} :
    predicateBody piece = .ok (some body) ↔
      ∃ front, '[' ∉ front ∧ piece = front ++ '[' :: (body ++ [']']) := by
  constructor
  · intro h
    rw [predicateBody] at h
    cases hp : piece.dropWhile (· != '[') with
    | nil => simp [hp] at h
    | cons c rest =>
        obtain ⟨front, hfront, rfl⟩ := exists_eq_append_of_dropWhile_ne hp
        by_cases hlast : rest.getLast? = some ']'
        · simp only [hp, if_pos hlast, Except.ok.injEq, Option.some.injEq] at h
          rw [← h, List.dropLast_append_getLast? ']' hlast]
          exact ⟨front, hfront, rfl⟩
        · simp [hp, hlast] at h
  · rintro ⟨front, hfront, rfl⟩
    simp [predicateBody, dropWhile_ne_append hfront]

/-- A text with an axis has at least two colons. -/
theorem two_le_count_of_hasAxis {s : List Char} (h : hasAxis s = true) : 2 ≤ s.count ':' := by
  fun_induction hasAxis s with
  | case1 rest => simp
  | case2 c rest _ ih =>
      have h2 := ih h
      have hle := List.count_le_count_cons (a := ':') (b := c) (l := rest)
      omega
  | case3 => simp at h

/-- No name has an axis, with or without an `@` before it. -/
theorem SpellsName.hasAxis_eq_false {s : List Char} (h : SpellsName s) {mark : List Char}
    (hm : mark = [] ∨ mark = ['@']) : hasAxis (mark ++ s) = false := by
  rw [Bool.eq_false_iff]
  intro ha
  have h2 := two_le_count_of_hasAxis ha
  have hmark : mark.count ':' = 0 := by rcases hm with rfl | rfl <;> decide
  rw [List.count_append, hmark] at h2
  cases h with
  | intro first others colons last => omega

/-- **What reading a piece amounts to**: the piece may have a predicate, its name has no axis and
is a name but for one `@`, and an `@` excludes a predicate. -/
theorem parseComponent_eq_ok_iff_parts {piece : List Char} {component : Component} :
    parseComponent piece = .ok component ↔
      hasAxis (piece.takeWhile (· != '[')) = false ∧
        isName (dropAt (piece.takeWhile (· != '['))) = true ∧
          (predicateBody piece = .ok none ∧
              component = { name := .ofList (piece.takeWhile (· != '[')) } ∨
            ∃ body predicate, predicateBody piece = .ok (some body) ∧
              (piece.takeWhile (· != '[')).head? ≠ some '@' ∧
              parsePredicate body = .ok predicate ∧
              component =
                { name := .ofList (piece.takeWhile (· != '[')), predicate := some predicate }) := by
  rw [parseComponent]
  by_cases ha : hasAxis (piece.takeWhile (· != '[')) = true
  · cases predicateBody piece <;> simp [ha, bind, Except.bind, throw, throwThe, MonadExceptOf.throw]
  by_cases hn : isName (dropAt (piece.takeWhile (· != '['))) = true
  · cases predicateBody piece with
    | error fault => simp [bind, Except.bind]
    | ok body? =>
        cases body? with
        | none =>
            simp [ha, hn, bind, Except.bind, pure, Except.pure, eq_comm]
        | some body =>
            by_cases hat : (piece.takeWhile (· != '[')).head? = some '@'
            · simp [ha, hn, hat, bind, Except.bind, throw, throwThe, MonadExceptOf.throw]
            · cases hp : parsePredicate body <;>
                simp [ha, hn, hat, hp, bind, Except.bind, pure, Except.pure, eq_comm]
  · cases predicateBody piece <;>
      simp [ha, hn, bind, Except.bind, throw, throwThe, MonadExceptOf.throw]

/-- What the reader of pieces accepts is a piece of the grammar. -/
theorem spellsLast_of_parseComponent {piece : List Char} {component : Component}
    (h : parseComponent piece = .ok component) : SpellsLast piece component := by
  obtain ⟨-, hn, ⟨hb, rfl⟩ | ⟨body, predicate, hb, hat, hp, rfl⟩⟩ :=
    parseComponent_eq_ok_iff_parts.mp h
  · have hpiece := predicateBody_eq_ok_none_iff.mp hb
    rw [takeWhile_ne_of_notMem hpiece] at hn ⊢
    obtain ⟨name, hname⟩ : ∃ name : String, dropAt piece = name.toList :=
      ⟨.ofList (dropAt piece), String.toList_ofList.symm⟩
    obtain ⟨mark, hm, hmark⟩ := eq_append_dropAt piece
    rw [hname] at hn hmark
    have hspells := isName_iff_spellsName.mp hn
    rw [hmark]
    rcases hm with rfl | rfl
    · rw [List.nil_append, String.ofList_toList]
      exact SpellsLast.ofElement (SpellsElement.plain hspells)
    · have heq : String.ofList (['@'] ++ name.toList) = "@" ++ name :=
        String.toList_injective (by simp)
      rw [heq]
      exact SpellsLast.ofAttribute hspells
  · obtain ⟨front, hfront, rfl⟩ := predicateBody_eq_ok_some_iff.mp hb
    rw [takeWhile_ne_append hfront] at hn hat ⊢
    obtain ⟨name, rfl⟩ : ∃ name : String, front = name.toList :=
      ⟨.ofList front, String.toList_ofList.symm⟩
    rw [dropAt_of_head?_ne hat] at hn
    rw [String.ofList_toList]
    exact SpellsLast.ofElement (SpellsElement.qualified (isName_iff_spellsName.mp hn)
      (parsePredicate_eq_ok_iff.mp hp))

/-- A piece that means an element is accepted, with its component. -/
theorem SpellsElement.parseComponent_eq {piece : List Char} {component : Component}
    (h : SpellsElement piece component) : parseComponent piece = .ok component := by
  rw [parseComponent_eq_ok_iff_parts]
  cases h with
  | @plain name hn =>
      have hb : '[' ∉ name.toList := hn.notMem (by simp)
      rw [takeWhile_ne_of_notMem hb, hn.dropAt_eq]
      refine ⟨hn.hasAxis_eq_false (.inl rfl), isName_iff_spellsName.mpr hn, .inl ⟨?_, ?_⟩⟩
      · exact predicateBody_eq_ok_none_iff.mpr hb
      · rw [String.ofList_toList]
  | @qualified name body predicate hn hp =>
      have hb : '[' ∉ name.toList := hn.notMem (by simp)
      have hat : name.toList.head? ≠ some '@' :=
        fun hat => hn.notMem (c := '@') (by simp) (List.mem_of_head? hat)
      rw [takeWhile_ne_append hb, hn.dropAt_eq]
      refine ⟨hn.hasAxis_eq_false (.inl rfl), isName_iff_spellsName.mpr hn,
        .inr ⟨body, predicate, ?_, hat, parsePredicate_eq_ok_iff.mpr hp, ?_⟩⟩
      · exact predicateBody_eq_ok_some_iff.mpr ⟨name.toList, hb, rfl⟩
      · rw [String.ofList_toList]

/-- Every piece of the grammar is accepted, with the component that it spells. -/
theorem SpellsLast.parseComponent_eq {piece : List Char} {component : Component}
    (h : SpellsLast piece component) : parseComponent piece = .ok component := by
  cases h with
  | ofElement h => exact h.parseComponent_eq
  | @ofAttribute name hn =>
      rw [parseComponent_eq_ok_iff_parts]
      have hb : '[' ∉ '@' :: name.toList := by
        rw [List.mem_cons, not_or]
        exact ⟨by decide, hn.notMem (by simp)⟩
      have heq : String.ofList ('@' :: name.toList) = "@" ++ name :=
        String.toList_injective (by simp)
      rw [takeWhile_ne_of_notMem hb, heq]
      exact ⟨hn.hasAxis_eq_false (.inr rfl), isName_iff_spellsName.mpr hn,
        .inl ⟨predicateBody_eq_ok_none_iff.mpr hb, rfl⟩⟩

/-- The reader of pieces accepts exactly the pieces of the grammar. -/
theorem parseComponent_eq_ok_iff {piece : List Char} {component : Component} :
    parseComponent piece = .ok component ↔ SpellsLast piece component :=
  ⟨spellsLast_of_parseComponent, SpellsLast.parseComponent_eq⟩

/-- The pieces that mean elements are those whose component is no attribute. -/
theorem spellsElement_iff {piece : List Char} {component : Component} :
    SpellsElement piece component ↔
      SpellsLast piece component ∧ component.isAttribute = false := by
  constructor
  · intro h
    exact ⟨SpellsLast.ofElement h, h.isAttribute_eq_false⟩
  · rintro ⟨h, ha⟩
    cases h with
    | ofElement h => exact h
    | @ofAttribute name hn =>
        have hat : Component.attributeName? { name := "@" ++ name } = some name :=
          Component.attributeName?_eq_some_iff.mpr rfl
        simp [Component.isAttribute, hat] at ha

end ManifestPatch.Selector
