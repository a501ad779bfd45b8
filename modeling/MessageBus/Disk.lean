import MessageBus.Shelf
import MessageBus.Text.Lines

namespace MessageBus

/-- What has a name in a directory. The content of a file is kept if it is text. -/
inductive DiskEntry
  | file (content : Option String)
  | directory
  deriving DecidableEq, Inhabited

/-- The files and directories that are known, each under its path from the working directory. -/
structure Disk where
  entries : Shelf DiskEntry := []
  deriving Inhabited

inductive DiskError
  | missing | taken | notDirectory | isDirectory | nameTooLong | nulInName | notText
  deriving DecidableEq, Inhabited

def DiskError.message : DiskError → String
  | missing => "No such file or directory (os error 2)"
  | taken => "File exists (os error 17)"
  | notDirectory => "Not a directory (os error 20)"
  | isDirectory => "Is a directory (os error 21)"
  | nameTooLong => "File name too long (os error 36)"
  | nulInName => "file name contained an unexpected NUL byte"
  | notText => "stream did not contain valid UTF-8"

/-- Where a path leads: the names on the way from the working directory. They begin with as many
`..` as there are steps up, or with an empty name when the way begins at the root. -/
abbrev Place := List String

namespace Place

/-- Whether a place lies on the way up from the working directory, or is the root. -/
def isAbove (p : Place) : Bool := p = [""] || p.all (· = "..")

def up (p : Place) : Place :=
  if p = [""] then p
  else if p.all (· = "..") then p ++ [".."]
  else p.dropLast

def path (p : Place) : String := "/".intercalate p

end Place

namespace Disk

/-- The longest name, and the least length that is too great for a path, in bytes. -/
def nameLimit : Nat := 255

def pathLimit : Nat := 4096

def at? (d : Disk) (p : Place) : Option DiskEntry :=
  if p.isAbove then some .directory else d.entries.get? p.path

/-- Goes from a directory along the parts of a path. Whether there is anything at the end is left
open. -/
def walk (d : Disk) : List String → Place → Except DiskError Place
  | [], place => .ok place
  | part :: rest, place =>
    match d.at? place with
    | none => .error .missing
    | some (.file _) => .error .notDirectory
    | some .directory =>
      if part = "" || part = "." then d.walk rest place
      else if part = ".." then d.walk rest place.up
      else if nameLimit < part.utf8ByteSize then .error .nameTooLong
      else d.walk rest (place ++ [part])

def locate (d : Disk) (path : String) : Except DiskError Place :=
  if path.toList.contains (Char.ofNat 0) then .error .nulInName
  else if path = "" then .error .missing
  else if pathLimit ≤ path.utf8ByteSize then .error .nameTooLong
  else d.walk (Text.parts '/' path) (if path.front = '/' then [""] else [])

def isDirectory (d : Disk) (path : String) : Bool :=
  match d.locate path with
  | .ok place => d.at? place = some .directory
  | .error _ => false

def read (d : Disk) (path : String) : Except DiskError String :=
  match d.locate path with
  | .error e => .error e
  | .ok place =>
    match d.at? place with
    | none => .error .missing
    | some .directory => .error .isDirectory
    | some (.file none) => .error .notText
    | some (.file (some s)) => .ok s

def put (d : Disk) (p : Place) (e : DiskEntry) : Disk :=
  { d with entries := Shelf.put d.entries p.path e }

/-- Makes one directory, in a directory that is there. -/
def makeDirectory (d : Disk) (path : String) : Except DiskError Disk :=
  let trimmed := path.toList.reverse.dropWhile (· == '/')
  match d.locate (if trimmed.isEmpty then path else String.ofList trimmed.reverse) with
  | .error e => .error e
  | .ok place =>
    match d.at? place with
    | none => .ok (d.put place .directory)
    | some _ => .error .taken

/-- The path of the directory that a path is in, as the path itself tells. -/
def parent (path : String) : String :=
  let idle (part : String) : Bool := part == "" || part == "."
  "/".intercalate (((Text.parts '/' path).reverse.dropWhile idle).drop 1 |>.dropWhile idle).reverse

def makeOne (d : Disk) (path : String) : Disk × Except DiskError Unit :=
  match d.makeDirectory path with
  | .ok d => (d, .ok ())
  | .error e => (d, if d.isDirectory path then .ok () else .error e)

/-- Makes a directory together with those it is in, whose number `depth` bounds. What was made
before something failed stays. -/
def makeDirectories : Nat → String → Disk → Disk × Except DiskError Unit
  | 0, _, d => (d, .error .missing)
  | depth + 1, path, d =>
    if path = "" then (d, .ok ())
    else
      match d.makeOne path with
      | (d, .error .missing) =>
        match makeDirectories depth (parent path) d with
        | (d, .error e) => (d, .error e)
        | (d, .ok ()) => d.makeOne path
      | result => result

/-- Makes a directory together with those it is in, unless it is there. -/
def ensureDirectory (d : Disk) (path : String) : Disk × Except DiskError Unit :=
  makeDirectories (path.length + 2) path d

def openFile (d : Disk) (path : String) : Except DiskError (Disk × Place) :=
  match d.locate path with
  | .error e => .error e
  | .ok place =>
    match d.at? place with
    | some (.file _) => .ok (d, place)
    | some .directory => .error .isDirectory
    | none => .ok (d.put place (.file (some "")), place)

def append (d : Disk) (p : Place) (text : String) : Disk :=
  match d.at? p with
  | some (.file (some content)) => d.put p (.file (some (content ++ text)))
  | _ => d

/-- Lays down a file or directory under a plain path, with the directories it is in. -/
def layDown (d : Disk) (path : String) (e : DiskEntry) : Disk :=
  let names := (Text.parts '/' path).filter fun part => part ≠ "" && part ≠ "."
  let above := ((List.range names.length).drop 1).map fun n => names.take n
  (above.foldl (fun d place => d.put place .directory) d).put names e

def below (d : Disk) : Shelf DiskEntry :=
  d.entries.filter fun (path, _) => !(["", ".."].contains ((Text.parts '/' path).headD ""))

end Disk

end MessageBus
