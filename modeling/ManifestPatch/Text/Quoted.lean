import ManifestPatch.Text.Printable

/-!
# Quotations

A text in double quotes, so that it can be read off whatever it holds. Quotes, backslashes and the
usual control characters have short escapes; any other character that would not show itself is
given by its code point.

## Main definitions

* `Text.quoted`: a text as a quotation.
-/

namespace ManifestPatch.Text

/-- A character by its code point, in hexadecimal digits. -/
def codePointEscape (c : Char) : List Char :=
  ['\\', 'u', '\x7b'] ++ Nat.toDigits 16 c.toNat ++ ['\x7d']

/-- A character as it stands in a quotation. A character that extends the one before it would hide
in it, and is not shown either. -/
def inQuotation (c : Char) : List Char :=
  match c with
  | '\x00' => ['\\', '0']
  | '\t' => ['\\', 't']
  | '\n' => ['\\', 'n']
  | '\r' => ['\\', 'r']
  | '"' => ['\\', '"']
  | '\\' => ['\\', '\\']
  | c => if isPrintable c && !isExtending c then [c] else codePointEscape c

/-- A text as a **quotation**. -/
def quoted (s : String) : String :=
  .ofList ('"' :: s.toList.flatMap inQuotation ++ ['"'])

end ManifestPatch.Text
