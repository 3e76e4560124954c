import ManifestPatch.Json.Basic

/-!
# Tokens of JSON

The text of a JSON document as a list of tokens: brackets, braces, commas, colons, strings and the
other scalar values. White space between tokens is dropped.

## Main definitions

* `scanString`: a string from after its opening quote on, with its escapes resolved.
* `tokens`: a text as tokens, if every part of it is one.

## Main results

* `length_lt_of_scanString`: what follows a string is shorter than what it was read from.
-/

namespace ManifestPatch.Json

/-- A **token**. -/
inductive Token where
  | openArray
  | closeArray
  | openObject
  | closeObject
  | comma
  | colon
  | string (s : String)
  | null
  | bool (b : Bool)
  | number (n : Number)
  deriving DecidableEq, Repr

/-! ### Strings -/

/-- The value of a hexadecimal digit. -/
def hexDigit? (c : Char) : Option Nat :=
  if c.isDigit then some (c.toNat - '0'.toNat)
  else if 'a' ≤ c ∧ c ≤ 'f' then some (c.toNat - 'a'.toNat + 10)
  else if 'A' ≤ c ∧ c ≤ 'F' then some (c.toNat - 'A'.toNat + 10)
  else none

/-- The value of a run of hexadecimal digits. -/
def hexValue? (digits : List Char) : Option Nat :=
  digits.foldlM (fun value c => (16 * value + ·) <$> hexDigit? c) 0

/-- The character with this code point. A surrogate is none. -/
def scalarChar? (n : Nat) : Option Char :=
  if n < 0xD800 ∨ (0xDFFF < n ∧ n < 0x110000) then some (Char.ofNat n) else none

/-- The character that two surrogates stand for. -/
def surrogatePair? (high low : Nat) : Option Char :=
  if 0xD800 ≤ high ∧ high < 0xDC00 ∧ 0xDC00 ≤ low ∧ low < 0xE000 then
    some (Char.ofNat (0x10000 + (high - 0xD800) * 0x400 + (low - 0xDC00)))
  else none

/-- The character that an escape of one letter stands for. -/
def shortEscape? : Char → Option Char
  | '"' => some '"'
  | '\\' => some '\\'
  | '/' => some '/'
  | 'b' => some '\x08'
  | 'f' => some '\x0C'
  | 'n' => some '\n'
  | 'r' => some '\r'
  | 't' => some '\t'
  | _ => none

/-- One character of a string, escaped or not, and what follows it. Control characters have to be
escaped, and surrogates come in pairs. -/
def scanChar : List Char → Option (Char × List Char)
  | '\\' :: 'u' :: a :: b :: c :: d :: rest =>
    match hexValue? [a, b, c, d] with
    | none => none
    | some unit =>
      match scalarChar? unit with
      | some ch => some (ch, rest)
      | none =>
        match rest with
        | '\\' :: 'u' :: e :: f :: g :: h :: rest =>
          match hexValue? [e, f, g, h] with
          | some low => (surrogatePair? unit low).map (·, rest)
          | none => none
        | _ => none
  | '\\' :: c :: rest => (shortEscape? c).map (·, rest)
  | c :: rest => if c.toNat < 0x20 || c == '\\' then none else some (c, rest)
  | [] => none

/-- What follows a character is shorter than what it was read from. -/
theorem length_lt_of_scanChar {s rest : List Char} {ch : Char} (h : scanChar s = some (ch, rest)) :
    rest.length < s.length := by
  unfold scanChar at h
  repeat' split at h
  all_goals simp_all
  all_goals grind

/-- The characters of a string up to its closing quote, and what follows that. -/
def scanString (s : List Char) : Option (List Char × List Char) :=
  match s with
  | '"' :: rest => some ([], rest)
  | s =>
    match h : scanChar s with
    | none => none
    | some (ch, rest) =>
      have := length_lt_of_scanChar h
      (scanString rest).map fun (chars, rest) => (ch :: chars, rest)
termination_by s.length

/-- What follows a string is shorter than what it was read from. -/
theorem length_lt_of_scanString {s chars rest : List Char}
    (h : scanString s = some (chars, rest)) : rest.length < s.length := by
  fun_induction scanString s generalizing chars rest with
  | case1 => simp_all
  | case2 => simp at h
  | case3 s _ ch tail hc this ih =>
    obtain ⟨⟨chars', rest'⟩, hs, heq⟩ := Option.map_eq_some_iff.1 h
    obtain ⟨-, rfl⟩ := Prod.mk.inj heq
    have := ih hs
    have := length_lt_of_scanChar hc
    omega

/-! ### Tokens -/

/-- Whether words and numbers are made of the character. -/
def isWordChar (c : Char) : Bool :=
  c.isAlphanum || c == '+' || c == '-' || c == '.'

/-- The token that a word or a number is. -/
def wordToken? (word : List Char) : Option Token :=
  if word = "null".toList then some .null
  else if word = "true".toList then some (.bool true)
  else if word = "false".toList then some (.bool false)
  else .number <$> Number.parse word

/-- The token that a character is by itself. -/
def punctuation? : Char → Option Token
  | '[' => some .openArray
  | ']' => some .closeArray
  | '{' => some .openObject
  | '}' => some .closeObject
  | ',' => some .comma
  | ':' => some .colon
  | _ => none

/-- Whether the character is white space between tokens. -/
def isSpace (c : Char) : Bool :=
  c == ' ' || c == '\t' || c == '\n' || c == '\r'

theorem length_dropWhile_le (p : Char → Bool) (s : List Char) :
    (s.dropWhile p).length ≤ s.length :=
  (List.dropWhile_sublist p).length_le

/-- The **tokens** of a text. -/
def tokens (s : List Char) : Option (List Token) :=
  match s with
  | [] => some []
  | c :: rest =>
    if isSpace c then tokens rest
    else
      match punctuation? c with
      | some token => (token :: ·) <$> tokens rest
      | none =>
        if c = '"' then
          match h : scanString rest with
          | none => none
          | some (chars, rest') =>
            have := length_lt_of_scanString h
            (.string (.ofList chars) :: ·) <$> tokens rest'
        else
          match wordToken? (c :: rest.takeWhile isWordChar) with
          | none => none
          | some token =>
            have := length_dropWhile_le isWordChar rest
            (token :: ·) <$> tokens (rest.dropWhile isWordChar)
termination_by s.length

end ManifestPatch.Json
