import Rota.OsError
import Rota.Register

namespace Rota

/-- The names on the way to a file: from the current folder on, or from the root, whose name is
empty. -/
abbrev Way := List String

def Way.root : Way := [""]

def Way.parent (w : Way) : Way := if w = root then root else w.dropLast

structure Files where
  texts : Register Way String := {}
  folders : List Way := [[]]
  deriving DecidableEq, Repr

inductive Place
  | folder
  /-- A file in a folder that exists, there or not. -/
  | file (way : Way)
  /-- The device that takes no data. -/
  | full
  | nowhere (error : OsError)
  deriving DecidableEq, Repr

/-- The way that a path goes, as far as its words say. -/
def Way.ofPath (path : String) : Way :=
  let steps := List.filter fun part => part ≠ "" ∧ part ≠ "."
  match (path.toList.splitOn '/').map String.ofList with
  | "" :: parts => root ++ steps parts
  | parts => steps parts

def Way.path (w : Way) : String :=
  if w = [] then "." else if w = root then "/" else String.intercalate "/" w

namespace Files

def read? (fs : Files) (way : Way) : Option String := fs.texts.get? way

def write (fs : Files) (way : Way) (text : String) : Files :=
  { fs with texts := fs.texts.set way text }

def makeFolder (fs : Files) (way : Way) : Files := { fs with folders := way :: fs.folders }

def nameBytes : Nat := 255

/-- Follows the rest of a path from the folder `here`. -/
def follow (fs : Files) (here : Way) : List String → Place
  | [] => .folder
  | part :: rest =>
    if part = "" ∨ part = "." then fs.follow here rest
    else if part = ".." then fs.follow here.parent rest
    else
      let next := here ++ [part]
      if fs.folders.contains next then fs.follow next rest
      else if nameBytes < part.utf8ByteSize then .nowhere .nameTooLong
      else if rest.isEmpty then .file next
      else .nowhere (if (fs.read? next).isSome then .notDirectory else .notFound)

def locate (fs : Files) (path : String) : Place :=
  if path = "/dev/full" then .full
  else if path.isEmpty then .nowhere .notFound
  else
    match (path.toList.splitOn '/').map String.ofList with
    | "" :: parts => fs.follow .root parts
    | parts => fs.follow [] parts

def load (fs : Files) (path : String) : Except OsError String :=
  match fs.locate path with
  | .file way => match fs.read? way with
    | some text => .ok text
    | none => .error .notFound
  | .folder => .error .isDirectory
  | .full => .error .invalid
  | .nowhere e => .error e

/-- Puts a text in place of the file that the path leads to. -/
def save (fs : Files) (path text : String) : Except OsError Files :=
  match fs.locate path with
  | .file way => .ok (fs.write way text)
  | .folder => .error .isDirectory
  | .full => .error .noSpace
  | .nowhere e => .error e

/-- Opens a file to write at its end; one that does not exist is made, empty. -/
def openToAppend (fs : Files) (path : String) : Except OsError Files :=
  match fs.locate path with
  | .file way => .ok (if (fs.read? way).isSome then fs else fs.write way "")
  | .folder => .error .isDirectory
  | .full => .ok fs
  | .nowhere e => .error e

def append (fs : Files) (path text : String) : Except OsError Files :=
  match fs.locate path with
  | .file way => .ok (fs.write way ((fs.read? way).getD "" ++ text))
  | .folder => .error .isDirectory
  | .full => .error .noSpace
  | .nowhere e => .error e

end Files
end Rota
