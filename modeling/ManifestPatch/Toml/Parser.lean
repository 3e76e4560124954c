import ManifestPatch.Toml.Quoted
import ManifestPatch.Toml.Scalar

/-!
# Reading TOML

A TOML document is read line by line. A line is a definition of a key, a header that opens a table,
or empty but for a comment; a value that is an array or a table in braces may go on over several
lines, which end wherever white space may stand, but for the white space around the dots of a key.

Arrays and tables in braces nest to a limited depth, and the parts of a key are limited too. Since
values nest, their scanners take a bound on the steps, which the length of the document always
satisfies.

## Main definitions

* `Toml.value`: a value of any kind.
* `Toml.statement`: one line of a document.
* `Toml.parse`: a document, as the entries of its table.
-/

namespace ManifestPatch.Toml

open Text (Scanner)
open Text.Scanner (char charThat optionalChar peek? takeWhile ofFunction)

/-! ### Between the values -/

/-- The text after all white space, line ends and comments in front. -/
def skipFiller (inComment : Bool) : List Char → Option (List Char)
  | [] => some []
  | '\r' :: '\n' :: rest => skipFiller false rest
  | c :: rest =>
    if c = '\n' then skipFiller false rest
    else if inComment then (if isPlain c then skipFiller true rest else none)
    else if isBlank c then skipFiller false rest
    else if c = '#' then skipFiller true rest
    else some (c :: rest)

/-- The text after the end of a line, which white space and a comment may precede. -/
def skipLineEnd (inComment : Bool) : List Char → Option (List Char)
  | [] => some []
  | '\r' :: '\n' :: rest => some rest
  | c :: rest =>
    if c = '\n' then some rest
    else if inComment then (if isPlain c then skipLineEnd true rest else none)
    else if isBlank c then skipLineEnd false rest
    else if c = '#' then skipLineEnd true rest
    else none

/-- White space, line ends and comments are passed over. -/
def filler : Scanner Unit :=
  ofFunction fun s => (skipFiller false s).map fun rest => ((), rest)

/-- The line ends here. -/
def lineEnd : Scanner Unit :=
  ofFunction fun s => (skipLineEnd false s).map fun rest => ((), rest)

/-- White space on the line is passed over. -/
def blanks : Scanner Unit := do
  let _ ← takeWhile isBlank

/-! ### Keys -/

/-- Whether a key may have the character without quotes. -/
def isBareKeyChar (c : Char) : Bool :=
  c.isAlphanum || c == '_' || c == '-'

/-- A key without dots. -/
def simpleKey : Scanner String := do
  match ← peek? with
  | some '"' | some '\'' => return .ofList (← ofFunction quotedKey)
  | _ =>
    let bare ← takeWhile isBareKeyChar
    guard !bare.isEmpty
    return .ofList bare

/-- A dotted key of at most so many parts: the parts before the last, and the last. -/
def keyParts : Nat → Scanner (List String × String)
  | 0 => failure
  | limit + 1 => do
    blanks
    let key ← simpleKey
    blanks
    if ← optionalChar '.' then
      let (path, last) ← keyParts limit
      return (key :: path, last)
    else return ([], key)

/-- How many parts a dotted key may have. -/
def maxKeyParts : Nat := 80

/-- A **dotted key**: the parts before the last, and the last. -/
def dottedKey : Scanner (List String × String) :=
  keyParts maxKeyParts

/-! ### Values -/

/-- Whether a value without quotes may have the character. -/
def isScalarChar (c : Char) : Bool :=
  c.isAlphanum || c == '_' || c == '-' || c == '+' || c == '.' || c == ':'

/-- Whether a text has the shape of a date. -/
def looksLikeDate (s : List Char) : Bool :=
  s.map (fun c => if c.isDigit then '0' else c) == "0000-00-00".toList

/-- The text of a value without quotes. A date may be followed by a space and a time. -/
def scalarText : Scanner (List Char) := do
  let first ← takeWhile isScalarChar
  match ← get with
  | ' ' :: c :: rest =>
    if looksLikeDate first && c.isDigit then
      set (c :: rest)
      return first ++ ' ' :: (← takeWhile isScalarChar)
    else return first
  | _ => return first

/-- How deep arrays and tables in braces may nest. -/
def maxDepth : Nat := 80

mutual

/-- A **value** inside so many arrays and tables. -/
def value (depth : Nat) : Nat → Scanner Toml
  | 0 => failure
  | bound + 1 => do
    match ← peek? with
    | some '[' =>
      guard (depth < maxDepth)
      char '['
      return .array (← arrayItems (depth + 1) bound)
    | some '\x7b' =>
      guard (depth < maxDepth)
      char '\x7b'
      return .table .inline (← inlineEntries (depth + 1) [] bound)
    | some '"' | some '\'' => return .string (.ofList (← ofFunction quoted))
    | _ =>
      match scalar? (← scalarText) with
      | some v => return v
      | none => failure

/-- The items of an array up to its end. -/
def arrayItems (depth : Nat) : Nat → Scanner (List Toml)
  | 0 => failure
  | bound + 1 => do
    filler
    if ← optionalChar ']' then return []
    let item ← value depth bound
    filler
    if ← optionalChar ',' then return item :: (← arrayItems depth bound)
    char ']'
    return [item]

/-- The entries of a table in braces up to its end, added to those before. -/
def inlineEntries (depth : Nat) (entries : Entries) : Nat → Scanner Entries
  | 0 => failure
  | bound + 1 => do
    filler
    if ← optionalChar '\x7d' then return entries
    let (path, key) ← dottedKey
    filler
    char '='
    filler
    let v ← value depth bound
    match define path key v .inline entries with
    | none => failure
    | some entries =>
      filler
      if ← optionalChar ',' then inlineEntries depth entries bound
      else
        char '\x7d'
        return entries

end

/-! ### Lines -/

/-- What has been read of a document: its entries, and the path of the header that the next
definitions come under. -/
structure Draft where
  entries : Entries := []
  header : List String := []

/-- The draft with a header opened. -/
def Draft.openHeader (draft : Draft) (isElement : Bool) (path : List String) (key : String) :
    Option Draft := do
  let entries ← (if isElement then openElement else openTable) path key draft.entries
  return { entries, header := path ++ [key] }

/-- The draft with a key defined under its header. -/
def Draft.addDefinition (draft : Draft) (path : List String) (key : String) (v : Toml) :
    Option Draft := do
  let entries ← update false (define path key v) .header draft.header draft.entries
  return { draft with entries }

/-- A header. -/
def header (draft : Draft) : Scanner Draft := do
  char '['
  let isElement ← optionalChar '['
  let (path, key) ← dottedKey
  char ']'
  if isElement then char ']'
  match draft.openHeader isElement path key with
  | some draft => return draft
  | none => failure

/-- A definition. -/
def definition (draft : Draft) (bound : Nat) : Scanner Draft := do
  let (path, key) ← dottedKey
  char '='
  blanks
  let v ← value 0 bound
  match draft.addDefinition path key v with
  | some draft => return draft
  | none => failure

/-- One **line** of a document that is not empty. -/
def statement (draft : Draft) (bound : Nat) : Scanner Draft := do
  blanks
  let draft ← match ← peek? with
    | some '[' => header draft
    | _ => definition draft bound
  lineEnd
  return draft

/-- All lines of a document, at most so many. -/
def statements (draft : Draft) (bound : Nat) : Nat → List Char → Option Entries
  | _, [] => some draft.entries
  | 0, _ => none
  | lines + 1, s =>
    match skipLineEnd false s with
    | some rest => statements draft bound lines rest
    | none =>
      match (statement draft bound).run s with
      | some (draft, rest) => statements draft bound lines rest
      | none => none

/-- A **document**, as the entries of its table. A byte order mark in front is passed over. -/
def parse (text : String) : Option Entries :=
  let s := match text.toList with
    | '\uFEFF' :: rest => rest
    | s => s
  statements {} (s.length + 1) (s.length + 1) s

end ManifestPatch.Toml
