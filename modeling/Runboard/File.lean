import Runboard.Text.Basic

namespace Runboard

inductive FileError
  | missing
  | isFolder
  | notFolder
  | nameTooLong
  | nulInName
  /-- The bytes are no text. -/
  | notText
  /-- Whatever else the system reports. -/
  | system (text : String)
deriving DecidableEq, Repr

def FileError.message : FileError → String
  | .missing => "No such file or directory (os error 2)"
  | .isFolder => "Is a directory (os error 21)"
  | .notFolder => "Not a directory (os error 20)"
  | .nameTooLong => "File name too long (os error 36)"
  | .nulInName => "file name contained an unexpected NUL byte"
  | .notText => "stream did not contain valid UTF-8"
  | .system text => text

structure Files where
  /-- The content of a file. -/
  read : String → Except FileError ByteArray
  /-- Whether the log file could be created. -/
  logFile : Except FileError Unit

namespace Files

def readText (files : Files) (path : String) : Except FileError String := do
  match String.fromUTF8? (← files.read path) with
  | some text => return text
  | none => .error .notText

end Files

inductive Node
  | file (content : ByteArray)
  | folder

/-- A folder: the files and empty folders in it, by the names on the way to them. -/
structure Directory where
  entries : List (List String × Node) := []

namespace Directory

/-- The names of a path, with nothing between two slashes as the empty name. -/
def components (path : String) : List String :=
  (Text.splitAtMark '/' path.toList).map String.ofList

def names (path : String) : List String := (components path).filter fun n => n ≠ "" && n ≠ "."

/-- Adds an entry; a path that ends in a slash is an empty folder. -/
def insert (d : Directory) (path : String) (content : ByteArray) : Directory :=
  let node : Node := if path.toList.getLast? = some '/' then .folder else .file content
  { entries := (names path, node) :: d.entries.filter (·.1 ≠ names path) }

def ofEntries (entries : List (String × ByteArray)) : Directory :=
  entries.foldl (fun d e => d.insert e.1 e.2) {}

/-- What stands at a place. The folders on the way to an entry are there, too. -/
def node? (d : Directory) (place : List String) : Option Node :=
  match d.entries.find? (·.1 = place) with
  | some (_, node) => some node
  | none => if place.isEmpty || d.entries.any (place.isPrefixOf ·.1) then some .folder else none

/-- Where a path has led so far. -/
inductive Place
  | inside (names : List String)
  | outside

def nodeAt? (d : Directory) : Place → Option Node
  | .inside names => d.node? names
  | .outside => some .folder

def maxName : Nat := 255

def maxPath : Nat := 4095

/-- Takes one step of a path, which only a folder allows. -/
def step (d : Directory) (place : Place) (name : String) : Except FileError Place :=
  match d.nodeAt? place with
  | none => .error .missing
  | some (.file _) => .error .notFolder
  | some .folder =>
    if name = "" || name = "." then .ok place
    else if maxName < name.utf8ByteSize then .error .nameTooLong
    else
      match place with
      | .inside names =>
        if name = ".." then .ok (if names.isEmpty then .outside else .inside names.dropLast)
        else .ok (.inside (names ++ [name]))
      | .outside => if name = ".." then .ok .outside else .error .missing

def resolve (d : Directory) (path : String) : Except FileError Place :=
  if path.contains '\x00' then .error .nulInName
  else if path = "" then .error .missing
  else if maxPath < path.utf8ByteSize then .error .nameTooLong
  else
    match components path with
    | "" :: rest => rest.foldlM d.step .outside
    | names => names.foldlM d.step (.inside [])

def read (d : Directory) (path : String) : Except FileError ByteArray := do
  match d.nodeAt? (← d.resolve path) with
  | some (.file content) => return content
  | some .folder => .error .isFolder
  | none => .error .missing

/-- Creates an empty file; one that is there is emptied. -/
def create (d : Directory) (path : String) : Except FileError Directory := do
  let place ← d.resolve path
  match d.nodeAt? place, place with
  | some .folder, _ => .error .isFolder
  | _, .inside names =>
    return { entries := (names, .file ByteArray.empty) :: d.entries.filter (·.1 ≠ names) }
  | _, .outside => .error .missing

def hasFile (d : Directory) (path : String) : Bool := (d.read path).isOk

end Directory

end Runboard
