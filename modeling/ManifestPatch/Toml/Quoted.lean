/-!
# Quoted TOML Strings

Strings in double quotes have escapes, strings in single quotes have none, and strings in three
quotes run over several lines. Control characters other than the tab have to be escaped.

## Main definitions

* `Toml.quoted`: a string of any of the four kinds, from its opening quote on.
* `Toml.quotedKey`: a string of the two kinds that keys may be.
-/

namespace ManifestPatch.Toml

/-- Characters taken off the front of a text, and the rest. -/
abbrev Taken := Option (List Char × List Char)

/-- Whether a character may stand unescaped in a string or a comment. -/
def isPlain (c : Char) : Bool :=
  c == '\t' || (0x20 ≤ c.toNat && c.toNat != 0x7F)

/-- The value of a run of hexadecimal digits. -/
def hexNumber? (digits : List Char) : Option Nat :=
  digits.foldlM (fun value c =>
    if c.isDigit then some (16 * value + (c.toNat - '0'.toNat))
    else if 'a' ≤ c ∧ c ≤ 'f' then some (16 * value + (c.toNat - 'a'.toNat + 10))
    else if 'A' ≤ c ∧ c ≤ 'F' then some (16 * value + (c.toNat - 'A'.toNat + 10))
    else none) 0

/-- The character with a code point in hexadecimal. A surrogate is none. -/
def codePoint? (digits : List Char) : Option Char := do
  let n ← hexNumber? digits
  if h : n.isValidChar then some (Char.ofNatAux n h) else none

/-- The character that an escape of one letter stands for. -/
def letterEscape? : Char → Option Char
  | 'b' => some '\x08'
  | 't' => some '\t'
  | 'n' => some '\n'
  | 'f' => some '\x0C'
  | 'r' => some '\r'
  | 'e' => some '\x1B'
  | '"' => some '"'
  | '\\' => some '\\'
  | _ => none

/-- The character that an escape stands for, after its backslash. -/
def escapedChar? : List Char → Option (Char × List Char)
  | 'x' :: a :: b :: rest => (codePoint? [a, b]).map (·, rest)
  | 'u' :: a :: b :: c :: d :: rest => (codePoint? [a, b, c, d]).map (·, rest)
  | 'U' :: a :: b :: c :: d :: e :: f :: g :: h :: rest =>
    (codePoint? [a, b, c, d, e, f, g, h]).map (·, rest)
  | c :: rest => (letterEscape? c).map (·, rest)
  | [] => none

/-- What follows an escape is shorter than the text it was read from. -/
theorem length_lt_of_escapedChar? {s rest : List Char} {c : Char}
    (h : escapedChar? s = some (c, rest)) : rest.length < s.length := by
  unfold escapedChar? at h
  split at h
  all_goals simp_all
  all_goals grind

/-- A string in double quotes, after the opening one. -/
def basic (s : List Char) : Taken :=
  match s with
  | '"' :: rest => some ([], rest)
  | '\\' :: rest =>
    match h : escapedChar? rest with
    | none => none
    | some (c, rest') =>
      have := length_lt_of_escapedChar? h
      (basic rest').map fun (chars, rest) => (c :: chars, rest)
  | c :: rest =>
    if isPlain c then (basic rest).map fun (chars, rest) => (c :: chars, rest) else none
  | [] => none
termination_by s.length

/-- A string in single quotes, after the opening one. -/
def literal : List Char → Taken
  | '\'' :: rest => some ([], rest)
  | c :: rest =>
    if isPlain c then (literal rest).map fun (chars, rest) => (c :: chars, rest) else none
  | [] => none

/-- The end of a string in three quotes, after those: one or two more belong to the string. -/
def extraQuotes (quote : Char) : List Char → List Char × List Char
  | a :: b :: rest =>
    if a = quote ∧ b = quote then ([a, b], rest)
    else if a = quote then ([a], b :: rest)
    else ([], a :: b :: rest)
  | [a] => if a = quote then ([a], []) else ([], [a])
  | [] => ([], [])

/-- Whether a character is a space or a tab. -/
def isBlank (c : Char) : Bool :=
  c == ' ' || c == '\t'

/-- The text after all white space and line ends in front. -/
def skipLines : List Char → List Char
  | '\r' :: '\n' :: rest => skipLines rest
  | c :: rest => if isBlank c || c == '\n' then skipLines rest else c :: rest
  | [] => []

/-- What follows a backslash at the end of a line, if it stands at one: the text after the white
space and the line ends. -/
def continuation? (s : List Char) : Option (List Char) :=
  match s.dropWhile isBlank with
  | '\n' :: rest => some (skipLines rest)
  | '\r' :: '\n' :: rest => some (skipLines rest)
  | _ => none

theorem length_skipLines_le (s : List Char) : (skipLines s).length ≤ s.length := by
  fun_induction skipLines s <;> simp_all <;> omega

theorem length_lt_of_continuation? {s rest : List Char} (h : continuation? s = some rest) :
    rest.length < s.length := by
  have hle := (List.dropWhile_sublist (l := s) isBlank).length_le
  unfold continuation? at h
  split at h
  · rename_i tail hd
    have := length_skipLines_le tail
    simp_all
    omega
  · rename_i tail hd
    have := length_skipLines_le tail
    simp_all
    omega
  · simp at h

/-- A string in three double quotes, after the opening ones. -/
def multilineBasic (s : List Char) : Taken :=
  match s with
  | '"' :: '"' :: '"' :: rest => some (extraQuotes '"' rest)
  | '\\' :: rest =>
    match hc : continuation? rest with
    | some rest' =>
      have := length_lt_of_continuation? hc
      multilineBasic rest'
    | none =>
      match h : escapedChar? rest with
      | none => none
      | some (c, rest') =>
        have := length_lt_of_escapedChar? h
        (multilineBasic rest').map fun (chars, rest) => (c :: chars, rest)
  | '\r' :: '\n' :: rest =>
    (multilineBasic rest).map fun (chars, rest) => ('\r' :: '\n' :: chars, rest)
  | c :: rest =>
    if isPlain c || c == '\n' then
      (multilineBasic rest).map fun (chars, rest) => (c :: chars, rest)
    else none
  | [] => none
termination_by s.length

/-- A string in three single quotes, after the opening ones. -/
def multilineLiteral : List Char → Taken
  | '\'' :: '\'' :: '\'' :: rest => some (extraQuotes '\'' rest)
  | '\r' :: '\n' :: rest =>
    (multilineLiteral rest).map fun (chars, rest) => ('\r' :: '\n' :: chars, rest)
  | c :: rest =>
    if isPlain c || c == '\n' then
      (multilineLiteral rest).map fun (chars, rest) => (c :: chars, rest)
    else none
  | [] => none

/-- The text without a line end at its very front. -/
def dropFirstNewline : List Char → List Char
  | '\n' :: rest => rest
  | '\r' :: '\n' :: rest => rest
  | s => s

/-- A **string** of any kind. -/
def quoted : List Char → Taken
  | '"' :: '"' :: '"' :: rest => multilineBasic (dropFirstNewline rest)
  | '\'' :: '\'' :: '\'' :: rest => multilineLiteral (dropFirstNewline rest)
  | '"' :: rest => basic rest
  | '\'' :: rest => literal rest
  | _ => none

/-- A string on one line, which is what keys may be. -/
def quotedKey : List Char → Taken
  | '"' :: rest => basic rest
  | '\'' :: rest => literal rest
  | _ => none

end ManifestPatch.Toml
