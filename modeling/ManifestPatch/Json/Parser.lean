import ManifestPatch.Json.Token

/-!
# Reading JSON

The tokens of a document are read one after the other by a machine that keeps a stack of the arrays
and objects that are still open, and what may come next.

## Main definitions

* `Json.Reader.step`: one token.
* `Json.parse`: a whole text; nothing may follow its value but white space.
-/

namespace ManifestPatch.Json

/-- An array or object that is still open. -/
inductive Frame where
  /-- The items read so far, the last one first. -/
  | array (items : List Json)
  /-- The fields read so far, and the key whose value is to come or came last. -/
  | object (fields : List (String × Json)) (key : String)
  deriving Repr

/-- What may come next. -/
inductive Expected where
  /-- A value; right after `[` also the end of the array. -/
  | value (orClose : Bool)
  /-- A key; right after an opening brace also the end of the object. -/
  | key (orClose : Bool)
  | colon
  /-- A comma or the end of the innermost array or object. -/
  | separator
  /-- Nothing: this is the value. -/
  | nothing (result : Json)
  deriving Repr

/-- The **reader** between two tokens: the open arrays and objects, the innermost first, and what
it expects. -/
structure Reader where
  stack : List Frame := []
  expected : Expected := .value false
  deriving Repr

namespace Reader

/-- How many arrays and objects may be open at once. -/
def maxDepth : Nat := 127

/-- The reader after a complete value. -/
def deliver (v : Json) : List Frame → Reader
  | [] => { stack := [], expected := .nothing v }
  | .array items :: rest => { stack := .array (v :: items) :: rest, expected := .separator }
  | .object fields key :: rest =>
    { stack := .object (Keyed.insert key v fields) key :: rest, expected := .separator }

/-- The reader after an opening bracket or brace, unless too many are open. -/
def openFrame (stack : List Frame) (frame : Frame) (expected : Expected) : Option Reader :=
  if stack.length < maxDepth then some { stack := frame :: stack, expected } else none

/-- The reader after the end of the innermost array. -/
def closeArray : List Frame → Option Reader
  | .array items :: rest => some (deliver (.array items.reverse) rest)
  | _ => none

/-- The reader after the end of the innermost object. -/
def closeObject : List Frame → Option Reader
  | .object fields _ :: rest => some (deliver (.object fields) rest)
  | _ => none

/-- The reader after the first token of a value. -/
def startValue (stack : List Frame) : Token → Option Reader
  | .null => some (deliver .null stack)
  | .bool b => some (deliver (.bool b) stack)
  | .number n => some (deliver (.number n) stack)
  | .string s => some (deliver (.string s) stack)
  | .openArray => openFrame stack (.array []) (.value true)
  | .openObject => openFrame stack (.object [] "") (.key true)
  | _ => none

/-- The reader after one more token, if it is one that may come. -/
def step (reader : Reader) (token : Token) : Option Reader :=
  match reader.expected with
  | .value orClose =>
    if orClose && token == .closeArray then closeArray reader.stack
    else startValue reader.stack token
  | .key orClose =>
    match token, reader.stack with
    | .string key, .object fields _ :: rest =>
      some { stack := .object fields key :: rest, expected := .colon }
    | .closeObject, stack => if orClose then closeObject stack else none
    | _, _ => none
  | .colon =>
    if token = .colon then some { reader with expected := .value false } else none
  | .separator =>
    match token, reader.stack with
    | .comma, .array _ :: _ => some { reader with expected := .value false }
    | .comma, .object _ _ :: _ => some { reader with expected := .key false }
    | .closeArray, stack => closeArray stack
    | .closeObject, stack => closeObject stack
    | _, _ => none
  | .nothing _ => none

/-- The value that was read, if it is complete. -/
def result? (reader : Reader) : Option Json :=
  match reader.expected with
  | .nothing v => some v
  | _ => none

end Reader

/-- The **value** that a text denotes. -/
def parse (text : String) : Option Json := do
  let tokens ← tokens text.toList
  let reader ← tokens.foldlM Reader.step {}
  reader.result?

end ManifestPatch.Json
