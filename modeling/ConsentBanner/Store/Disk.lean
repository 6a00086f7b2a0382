import ConsentBanner.Keyed
import ConsentBanner.Text.Blank

/-!
# Disks

A tree of directories and files, kept as a table from places to what is there.  A place is the list of
names from the root.  A path is walked name by name: empty names and single points stay where they
are, two points go up, and everything walked through must be a directory.
-/

set_option autoImplicit false

namespace ConsentBanner

/-- What is at a place. -/
inductive DiskEntry where
  | directory
  | file (text : String)
  deriving DecidableEq, Repr

/-- Why a file cannot be used. -/
inductive FileError where
  | notFound
  | notDirectory
  | isDirectory
  | nameTooLong
  /-- A path contains the character that ends paths. -/
  | endedPath
  deriving DecidableEq, Repr

/-- The wording of a file error, with its number if it has one. -/
def FileError.message : FileError → String
  | .notFound => "No such file or directory (os error 2)"
  | .notDirectory => "Not a directory (os error 20)"
  | .isDirectory => "Is a directory (os error 21)"
  | .nameTooLong => "File name too long (os error 36)"
  | .endedPath => "file name contained an unexpected NUL byte"

abbrev Place : Type := List String

structure Disk where
  entries : Keyed Place DiskEntry

namespace Disk

/-- The longest name, in bytes. -/
def nameLimit : Nat := 255

def at? (disk : Disk) (place : Place) : Option DiskEntry :=
  if place = [] then some .directory else disk.entries.get? place

def withDirectory (place : Place) : Disk :=
  ⟨((List.range place.length).map fun n => (place.take (n + 1), .directory))⟩

def walk (disk : Disk) : Place → List String → Except FileError Place
  | place, [] => .ok place
  | place, name :: rest =>
    if name = "" ∨ name = "." then walk disk place rest
    else if name = ".." then walk disk place.dropLast rest
    else if nameLimit < name.utf8ByteSize then .error .nameTooLong
    else
      let next := place ++ [name]
      if rest.isEmpty then .ok next
      else
        match disk.at? next with
        | some .directory => walk disk next rest
        | some (.file _) => .error .notDirectory
        | none => .error .notFound

/-- The place that a path leads to.  A path that starts with a slash starts at the root. -/
def locate (disk : Disk) (start : Place) (path : String) : Except FileError Place :=
  let chars := path.toList
  if chars.contains (Char.ofNat 0) then .error .endedPath
  else
    let names := (Text.splitBy (· = '/') chars).map String.ofList
    disk.walk (if chars.head? = some '/' then [] else start) names

def read (disk : Disk) (start : Place) (path : String) : Except FileError String := do
  match disk.at? (← disk.locate start path) with
  | some (.file text) => .ok text
  | some .directory => .error .isDirectory
  | none => .error .notFound

def write (disk : Disk) (start : Place) (path text : String) : Except FileError Disk := do
  let place ← disk.locate start path
  match disk.at? place with
  | some .directory => .error .isDirectory
  | _ => .ok ⟨disk.entries.put place (.file text)⟩

def remove (disk : Disk) (start : Place) (path : String) : Except FileError Disk := do
  let place ← disk.locate start path
  match disk.at? place with
  | some (.file _) => .ok ⟨disk.entries.erase place⟩
  | some .directory => .error .isDirectory
  | none => .error .notFound

def makeDirectory (disk : Disk) (start : Place) (path : String) : Except FileError Disk := do
  let place ← disk.locate start path
  return ⟨disk.entries.put place .directory⟩

end Disk

end ConsentBanner
