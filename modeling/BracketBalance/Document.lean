/-
  BracketBalance.Document — the text behind a path, or why there is none.

  A document is text in UTF-8; bytes that are not are refused, as is a path that
  leads to no file. A `FileSystem` has files and folders at paths, which are names
  separated by slashes, and one of its folders is the working folder.

  A path is followed name by name, from the outermost folder if it begins with a
  slash and from the working folder if not. An empty name and a dot stay where they
  are, two dots go up one folder, and up from the outermost folder is that folder
  itself. Nothing lies beyond a file, not even an empty name. What is put where
  something was before replaces it.
-/

import BracketBalance.Check

namespace BracketBalance

inductive ReadFault where
  | notFound
  | notFolder
  | isFolder
  | nameTooLong
  | nulInPath
  | notText
  /-- What the system said, with its number for it. -/
  | system (text : String) (code : Nat)
  deriving DecidableEq, Repr

namespace ReadFault

def message : ReadFault → String
  | notFound => "No such file or directory (os error 2)"
  | notFolder => "Not a directory (os error 20)"
  | isFolder => "Is a directory (os error 21)"
  | nameTooLong => "File name too long (os error 36)"
  | nulInPath => "file name contained an unexpected NUL byte"
  | notText => "stream did not contain valid UTF-8"
  | system text code => text ++ " (os error " ++ toString code ++ ")"

end ReadFault

structure Unreadable where
  path : String
  fault : ReadFault
  deriving DecidableEq, Repr

def Unreadable.message (u : Unreadable) : String := u.path ++ ": " ++ u.fault.message

abbrev Document := Except ReadFault (List Char)

namespace Document

def ofBytes (bytes : ByteArray) : Document :=
  match String.fromUTF8? bytes with
  | some s => .ok s.toList
  | none => .error .notText

/-- The document at `path`, checked. -/
def check (config : Config) (path : String) : Document → Except Unreadable (Outcome × List Log.Record)
  | .ok t => .ok (BracketBalance.check config t)
  | .error fault => .error ⟨path, fault⟩

end Document

inductive Entry where
  | file (bytes : ByteArray)
  | folder

/-- The bytes a name may have. -/
def nameLimit : Nat := 255

def pathLimit : Nat := 4095

structure FileSystem where
  /-- Each entry at its place, the last one put first. -/
  entries : List (List String × Entry)
  working : List String

namespace FileSystem

def names (path : String) : List String := (pieces '/' path.toList).map String.ofList

/-- Where a path is followed from. -/
def origin (f : FileSystem) (path : String) : List String :=
  if path.toList.head? = some '/' then [] else f.working

def place (here : List String) (name : String) : List String :=
  if name = "" || name = "." then here
  else if name = ".." then here.dropLast
  else here ++ [name]

/-- A file system with nothing but the folder at `working`. -/
def empty (working : List String) : FileSystem := ⟨[(working, .folder)], working⟩

def put (f : FileSystem) (path : String) (entry : Entry) : FileSystem :=
  { f with entries := ((names path).foldl place (f.origin path), entry) :: f.entries }

def entry? (f : FileSystem) (place : List String) : Option Entry :=
  match f.entries.find? (·.1 = place) with
  | some e => some e.2
  | none => if f.entries.any (place.isPrefixOf ·.1) then some .folder else none

/-- Follows the names of a path from the folder `here`. -/
def follow (f : FileSystem) (here : List String) : List String → Document
  | [] => .error .isFolder
  | name :: rest =>
    let there := place here name
    if name = "" || name = "." || name = ".." then f.follow there rest
    else if name.utf8ByteSize > nameLimit then .error .nameTooLong
    else match f.entry? there with
      | none => .error .notFound
      | some .folder => f.follow there rest
      | some (.file bytes) => if rest = [] then .ofBytes bytes else .error .notFolder

def read (f : FileSystem) (path : String) : Document :=
  if path.toList.contains '\x00' then .error .nulInPath
  else if path.utf8ByteSize > pathLimit then .error .nameTooLong
  else f.follow (f.origin path) (names path)

end FileSystem

end BracketBalance
