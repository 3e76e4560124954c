/-!
# TOML Values

A TOML document is a table of values under keys. Tables come about in different ways, and which of
them may be added to later depends on that: a table written in braces is closed; one that a header
names may be opened once; one that a longer header or a dotted key passes through is open to its
own kind.

## Main definitions

* `Toml.update`: an edit of the table that a path of keys leads to.
* `Toml.define`, `Toml.openTable`, `Toml.openElement`: the three ways to add to a document.
-/

namespace ManifestPatch

/-- How a table came about. -/
inductive Toml.Origin where
  /-- It is written in braces. -/
  | inline
  /-- A header names it, or it is the document itself. -/
  | header
  /-- A header names something in it. -/
  | implied
  /-- A dotted key passes through it. -/
  | dotted
  deriving DecidableEq, Repr

/-- A **TOML value**. Floats and dates are kept as they are written. -/
inductive Toml where
  | string (s : String)
  | integer (n : Int)
  | float (text : String)
  | boolean (b : Bool)
  | datetime (text : String)
  | array (items : List Toml)
  | table (origin : Toml.Origin) (entries : List (String × Toml))
  /-- The tables that headers in double brackets open one after the other, the last one first. -/
  | tables (elements : List (List (String × Toml)))
  deriving Repr, Inhabited

namespace Toml

/-- The entries of a table. -/
abbrev Entries := List (String × Toml)

/-- The entries with a value under a key: in place if the key is there, else at the end. -/
def setEntry (key : String) (v : Toml) : Entries → Entries
  | [] => [(key, v)]
  | (k, old) :: rest => if k = key then (k, v) :: rest else (k, old) :: setEntry key v rest

/-- An edit of a table, which is told how the table came about and may refuse. -/
abbrev Edit := Origin → Entries → Option Entries

/-- The **edit** of the table that a path leads to. Tables on the path that are not there are made.
A dotted key passes only through tables that no header has named. -/
def update (dotted : Bool) (edit : Edit) (origin : Origin) : List String → Entries → Option Entries
  | [], entries => edit origin entries
  | key :: path, entries =>
    match entries.lookup key with
    | none => do
      let fresh := if dotted then .dotted else .implied
      return setEntry key (.table fresh (← update dotted edit fresh path [])) entries
    | some (.table .inline _) => none
    | some (.table kind inner) =>
      if dotted && kind == .header then none
      else do return setEntry key (.table kind (← update dotted edit kind path inner)) entries
    | some (.tables (current :: earlier)) => do
      let changed ← update dotted edit .header path current
      return setEntry key (.tables (changed :: earlier)) entries
    | some _ => none

/-- An edit that puts a value under a new key. -/
def addNew (key : String) (v : Toml) (entries : Entries) : Option Entries :=
  if (entries.lookup key).isSome then none else some (setEntry key v entries)

/-- The value of a possibly dotted key is **defined** in a table. A dotted key ends in a table that
dotted keys have made. -/
def define (path : List String) (key : String) (v : Toml) : Edit := fun origin entries =>
  update true
    (fun last inner =>
      if (last == .dotted) == path.isEmpty then none else addNew key v inner)
    origin path entries

/-- The table of a header in single brackets is **opened**. -/
def openTable (path : List String) (key : String) (document : Entries) : Option Entries :=
  update false
    (fun _ entries =>
      match entries.lookup key with
      | none => some (setEntry key (.table .header []) entries)
      | some (.table .implied inner) => some (setEntry key (.table .header inner) entries)
      | some _ => none)
    .header path document

/-- The next table of a header in double brackets is **opened**. -/
def openElement (path : List String) (key : String) (document : Entries) : Option Entries :=
  update false
    (fun _ entries =>
      match entries.lookup key with
      | none => some (setEntry key (.tables [[]]) entries)
      | some (.tables elements) => some (setEntry key (.tables ([] :: elements)) entries)
      | some _ => none)
    .header path document

end Toml

end ManifestPatch
