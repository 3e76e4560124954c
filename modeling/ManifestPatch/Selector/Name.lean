import ManifestPatch.Text.Letter

/-!
# Names

The names that a selector may use for elements and attributes: a letter or `_`, then letters,
numerals and `_ - . :`, with at most one `:`, which sets off a namespace and cannot stand at the
end.
-/

namespace ManifestPatch.Selector

/-- Whether a name may begin with the character. -/
def isNameStart (c : Char) : Bool :=
  Text.isLetter c || c == '_'

/-- Whether a name may go on with the character. -/
def isNameChar (c : Char) : Bool :=
  Text.isLetter c || Text.isNumeral c || c == '_' || c == '-' || c == '.' || c == ':'

/-- Whether a text is a **name**. -/
def isName : List Char → Bool
  | [] => false
  | c :: rest =>
    isNameStart c && rest.all isNameChar && rest.count ':' ≤ 1 && rest.getLast? != some ':'

/-- Every character of a name is one that names are made of. -/
theorem isNameChar_of_mem {s : List Char} (h : isName s = true) {c : Char} (hc : c ∈ s) :
    isNameChar c = true := by
  cases s with
  | nil => simp at hc
  | cons a rest =>
    simp only [isName, isNameStart, Bool.and_eq_true, Bool.or_eq_true, List.all_eq_true] at h
    rcases List.mem_cons.1 hc with rfl | hr
    · rcases h.1.1.1 with hl | hu <;> simp [isNameChar, *]
    · exact h.1.1.2 c hr

/-- The characters that structure a selector stand in no name. -/
theorem isNameChar_delimiter {c : Char} (h : c ∈ ['/', '[', ']', '@', '=', '"', '\'', ' ']) :
    isNameChar c = false := by
  simp only [List.mem_cons, List.not_mem_nil, or_false] at h
  rcases h with rfl | rfl | rfl | rfl | rfl | rfl | rfl | rfl <;> decide

end ManifestPatch.Selector
