import ManifestPatch.Text.Blank
import ManifestPatch.Selector.Basic
import ManifestPatch.Selector.Error
import ManifestPatch.Selector.Name

/-!
# Reading Selectors

A text is first cut into pieces at its separators: a `/` separates unless it stands in brackets or
in a quoted literal inside brackets. Empty pieces count for nothing, so that leading, trailing and
doubled separators are free. Every piece is then read as one component.

## Main definitions

* `Selector.pieces`: the pieces between the separators.
* `Selector.parseComponent`: one piece as a component.
* `Selector.parse`: a text as a selector, or the first error in it.
-/

namespace ManifestPatch.Selector

/-! ### Cutting at separators -/

/-- Where a scan stands: how many brackets are open, and which quote, if it is in a literal. -/
structure Scan where
  depth : Nat := 0
  quote : Option Char := none
  deriving DecidableEq, Repr

/-- Whether the character is one of the two quotes. -/
def isQuote (c : Char) : Bool :=
  c == '"' || c == '\''

namespace Scan

/-- Whether the character separates components at this point of the scan. -/
def separates (scan : Scan) (c : Char) : Bool :=
  scan.quote.isNone && scan.depth == 0 && c == '/'

/-- The scan after one more character. A quote opens a literal only inside brackets, and nothing
but the same quote closes it; a closing bracket without an opening one is passed over. -/
def next (scan : Scan) (c : Char) : Scan :=
  match scan.quote with
  | some opening => if c = opening then { scan with quote := none } else scan
  | none =>
    if isQuote c && scan.depth > 0 then { scan with quote := some c }
    else if c = '[' then { scan with depth := scan.depth + 1 }
    else if c = ']' then { scan with depth := scan.depth - 1 }
    else scan

end Scan

/-- The pieces of a text between its separators, empty ones included. -/
def cut (scan : Scan) : List Char → List (List Char)
  | [] => [[]]
  | c :: rest =>
    if scan.separates c then [] :: cut scan rest
    else
      match cut (scan.next c) rest with
      | [] => [[c]]
      | piece :: pieces => (c :: piece) :: pieces

/-- The pieces of a text that are to be read as components. -/
def pieces (s : List Char) : List (List Char) :=
  (cut {} s).filter fun piece => !piece.isEmpty

/-! ### Reading a component -/

/-- The text without one leading `@`. -/
def dropAt : List Char → List Char
  | '@' :: rest => rest
  | s => s

/-- Whether `::` stands somewhere in the text. -/
def hasAxis : List Char → Bool
  | ':' :: ':' :: _ => true
  | _ :: rest => hasAxis rest
  | [] => false

/-- A predicate without a comparison: a run of digits with a value from 1 to the largest 64-bit
number. -/
def parsePosition (digits : List Char) : Except Fault Predicate :=
  if digits.all Char.isDigit then
    let value := Nat.ofDigitChars 10 digits 0
    if value = 0 then .error .zeroPosition
    else if h : value < UInt64.size then .ok (.position (.ofNatLT value h))
    else .error .positionOutOfRange
  else .error .notAPosition

/-- Whether a literal without quotes must not have the character. -/
def isReserved (c : Char) : Bool :=
  isQuote c || c == '[' || c == ']' || c == '='

/-- The value of a literal: what stands between two equal quotes that it does not contain, or a
text without quotes, brackets, equals signs and white space. -/
def parseLiteral : List Char → Except Fault String
  | [] => .error .missingLiteral
  | c :: rest =>
    if isQuote c then
      if rest.getLast? = some c then
        if c ∈ rest.dropLast then .error .secondComparison
        else .ok (.ofList rest.dropLast)
      else .error .unterminatedLiteral
    else if (c :: rest).any isReserved then .error .reservedCharacter
    else if (c :: rest).any Text.isBlank then .error .blankInLiteral
    else .ok (.ofList (c :: rest))

/-- What stands between the brackets: a position, or an attribute compared with a literal. -/
def parsePredicate (body : List Char) : Except Fault Predicate :=
  if body.isEmpty then .error .emptyPredicate
  else
    match body.dropWhile (· != '=') with
    | [] => parsePosition body
    | _ :: literal =>
      let name := dropAt (body.takeWhile (· != '='))
      if isName name then .attributeIs (.ofList name) <$> parseLiteral literal
      else .error .notAComparison

/-- The text between the bracket that opens a predicate and the one that ends the piece, if the
piece has a predicate at all. -/
def predicateBody (piece : List Char) : Except Fault (Option (List Char)) :=
  match piece.dropWhile (· != '[') with
  | [] => .ok none
  | _ :: rest =>
    if rest.getLast? = some ']' then .ok (some rest.dropLast) else .error .unclosedPredicate

/-- One piece as a component. -/
def parseComponent (piece : List Char) : Except Fault Component := do
  let body? ← predicateBody piece
  let name := piece.takeWhile (· != '[')
  if hasAxis name then throw .axis
  if !isName (dropAt name) then throw .notAName
  match body? with
  | none => return { name := .ofList name }
  | some body =>
    if name.head? = some '@' then throw .predicateOnAttribute
    let predicate ← parsePredicate body
    return { name := .ofList name, predicate := some predicate }

/-! ### Reading a selector -/

/-- The components that the pieces of the text stand for. An attribute may only come last. -/
def parsePieces (text : String) : List (List Char) → Except SelectorError (List Component)
  | [] => .ok []
  | piece :: rest =>
    match parseComponent piece with
    | .error fault => .error (.malformed text (.ofList piece) fault)
    | .ok component =>
      if component.isAttribute && !rest.isEmpty then .error (.attributeNotLast text (.ofList piece))
      else (component :: ·) <$> parsePieces text rest

/-- A text as a **selector**, or the first error in it. -/
def parse (text : String) : Except SelectorError Selector := do
  match ← parsePieces text (pieces text.toList) with
  | [] => throw (.empty text)
  | root :: steps => return { root, steps }

end ManifestPatch.Selector
