/-!
# Volumes

A **volume** tells what is found under a path. Programs read files through a volume and through
nothing else, so that what they do is a function of it.

## Main definitions

* `Volume.read`: the text of the file under a path, or the fault that keeps it from being read.
-/

namespace ManifestPatch

/-- What is found under a path. -/
inductive Entry where
  /-- A file with its bytes. -/
  | file (content : ByteArray)
  /-- A directory, with the names of the files that are directly in it. -/
  | directory (files : List String)
  /-- Nothing. -/
  | absent
  /-- Nothing, since the path goes on after a file. -/
  | beyondFile
  /-- Nothing, since the path, or a step of it that was reached, is longer than one may be. -/
  | tooLong

/-- A **volume**: what is found under every path. -/
abbrev Volume := String → Entry

/-- What keeps a text from being read. -/
inductive ReadFault where
  | notFound
  | isDirectory
  | notDirectory
  | nameTooLong
  /-- The bytes are no UTF-8. -/
  | notText
  deriving DecidableEq, Repr

/-- The wording of a fault. -/
def ReadFault.message : ReadFault → String
  | .notFound => "No such file or directory (os error 2)"
  | .isDirectory => "Is a directory (os error 21)"
  | .notDirectory => "Not a directory (os error 20)"
  | .nameTooLong => "File name too long (os error 36)"
  | .notText => "stream did not contain valid UTF-8"

/-- The text that an entry holds. -/
def Entry.text : Entry → Except ReadFault String
  | .file content =>
    match String.fromUTF8? content with
    | some s => .ok s
    | none => .error .notText
  | .directory _ => .error .isDirectory
  | .absent => .error .notFound
  | .beyondFile => .error .notDirectory
  | .tooLong => .error .nameTooLong

/-- The **text** of the file under a path. -/
def Volume.read (volume : Volume) (path : String) : Except ReadFault String :=
  (volume path).text

end ManifestPatch
