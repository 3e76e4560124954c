/-!
# Columns

Texts filled up with spaces to a width, and lines moved to the right. What is too wide for a column
stays as it is.
-/

namespace ManifestPatch.Text

/-- So many spaces. -/
def spaces (n : Nat) : List Char :=
  List.replicate n ' '

/-- A text with spaces after it up to a width. -/
def alignLeft (width : Nat) (s : String) : String :=
  .ofList (s.toList ++ spaces (width - s.length))

/-- A text with spaces before it up to a width. -/
def alignRight (width : Nat) (s : String) : String :=
  .ofList (spaces (width - s.length) ++ s.toList)

/-- A text whose lines after the first are moved to the right. -/
def hanging (width : Nat) (s : String) : String :=
  .ofList (s.toList.flatMap fun c => if c = '\n' then '\n' :: spaces width else [c])

end ManifestPatch.Text
