import ManifestPatch.Json.Basic

/-!
# Writing JSON

A value as text, laid out with every item and field on a line of its own, indented by two spaces a
level. Empty arrays and objects stay closed. Quotes, backslashes and control characters are escaped
in strings, and nothing else.

## Main definitions

* `Json.quoted`: a string with its quotes and escapes.
* `Json.pretty`: a value laid out over lines.
-/

namespace ManifestPatch.Json

/-- A hexadecimal digit, in lower case. -/
def hexDigit (n : Nat) : Char :=
  if n < 10 then Char.ofNat ('0'.toNat + n) else Char.ofNat ('a'.toNat + (n - 10))

/-- A character as it stands in a string. -/
def escaped (c : Char) : List Char :=
  match c with
  | '"' => ['\\', '"']
  | '\\' => ['\\', '\\']
  | '\x08' => ['\\', 'b']
  | '\x0C' => ['\\', 'f']
  | '\n' => ['\\', 'n']
  | '\r' => ['\\', 'r']
  | '\t' => ['\\', 't']
  | c =>
    if c.toNat < 0x20 then ['\\', 'u', '0', '0', hexDigit (c.toNat / 16), hexDigit (c.toNat % 16)]
    else [c]

/-- A string with its quotes and escapes. -/
def quoted (s : String) : String :=
  .ofList ('"' :: s.toList.flatMap escaped ++ ['"'])

/-- The start of a line at a level. -/
def indent (level : Nat) : String :=
  .ofList ('\n' :: List.replicate (2 * level) ' ')

mutual

/-- A value **laid out** over lines, its own first line at `level`. -/
def prettyAt (level : Nat) : Json → String
  | .null => "null"
  | .bool b => if b then "true" else "false"
  | .number n => n.render
  | .string s => quoted s
  | .array [] => "[]"
  | .array (item :: items) =>
    "[" ++ indent (level + 1) ++ prettyAt (level + 1) item ++ prettyItems (level + 1) items
      ++ indent level ++ "]"
  | .object [] => "\x7b\x7d"
  | .object ((key, v) :: fields) =>
    "\x7b" ++ indent (level + 1) ++ quoted key ++ ": " ++ prettyAt (level + 1) v
      ++ prettyFields (level + 1) fields ++ indent level ++ "\x7d"

/-- The items of an array after the first. -/
def prettyItems (level : Nat) : List Json → String
  | [] => ""
  | item :: items => "," ++ indent level ++ prettyAt level item ++ prettyItems level items

/-- The fields of an object after the first. -/
def prettyFields (level : Nat) : List (String × Json) → String
  | [] => ""
  | (key, v) :: fields =>
    "," ++ indent level ++ quoted key ++ ": " ++ prettyAt level v ++ prettyFields level fields

end

/-- A value laid out over lines. -/
def pretty (v : Json) : String :=
  prettyAt 0 v

end ManifestPatch.Json
