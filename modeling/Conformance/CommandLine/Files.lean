import Conformance.Entries

/-!
# File trees

The files and directories below a working directory, and what the system answers when a
program reads and writes them.
-/

namespace Conformance

inductive FileError where
  | notFound
  | alreadyExists
  | notDirectory
  | isDirectory
  | nameTooLong
  | nulInName
  deriving DecidableEq

def FileError.message : FileError → String
  | .notFound => "No such file or directory (os error 2)"
  | .alreadyExists => "File exists (os error 17)"
  | .notDirectory => "Not a directory (os error 20)"
  | .isDirectory => "Is a directory (os error 21)"
  | .nameTooLong => "File name too long (os error 36)"
  | .nulInName => "file name contained an unexpected NUL byte"

inductive FileNode where
  | directory
  | file (text : String)

/-- A place is the list of names that leads to it. -/
abbrev Place := List String

structure FileTree where
  nodes : List (Place × FileNode)

/-! ## Paths -/

def isAbsolute (path : String) : Bool := path.toList.head? == some '/'

def endsInSlash (path : String) : Bool := path.toList.getLast? == some '/'

/-- What stands between the slashes. -/
def pathParts (path : String) : List String := (path.toList.splitOn '/').map String.ofList

/-- The last name of a path, points included; there is none if the path has only slashes. -/
def lastName? (path : String) : Option String := ((pathParts path).filter (· ≠ "")).getLast?

def endsInName (path : String) : Bool := (lastName? path).any fun n => n ≠ "." && n ≠ ".."

/-- Such a path can only stand for a directory. -/
def endsInDirectory (path : String) : Bool := endsInSlash path || !endsInName path

/-- The names of a path; an absolute one starts with the name of the root. -/
def pathNames (path : String) : Place :=
  (if isAbsolute path then ["/"] else []) ++
    (pathParts path).filter fun n => n ≠ "" && n ≠ "."

def longestName : Nat := 255
def longestPath : Nat := 4095

/-- Slashes at the end of a path, and single points after them, name nothing. The characters
come from the last one on. -/
def dropIdle : List Char → List Char
  | '/' :: cs => dropIdle cs
  | '.' :: cs => if cs.head? = some '/' then dropIdle cs else '.' :: cs
  | cs => cs

def parentPath (path : String) : String :=
  let cs := dropIdle path.toList.reverse
  String.ofList (dropIdle (cs.dropWhile (· != '/'))).reverse

namespace FileTree

/-- The working directory and those above it are always there. -/
def node? (t : FileTree) (place : Place) : Option FileNode :=
  if place.all (· = "..") then some .directory
  else (t.nodes.find? (·.1 = place)).map Prod.snd

def above (here : Place) : Place :=
  if here = ["/"] then here
  else if here.isEmpty || here.getLast? = some ".." then here ++ [".."]
  else here.dropLast

/-- Follows names from a place. What names lead through must be directories. -/
def follow (t : FileTree) (here : Place) : Place → Except FileError Place
  | [] => .ok here
  | name :: names =>
    match t.node? here with
    | none => .error .notFound
    | some (.file _) => .error .notDirectory
    | some .directory =>
      if longestName < name.utf8ByteSize then .error .nameTooLong
      else t.follow (if name = ".." then above here else here ++ [name]) names

def checkPath (path : String) : Except FileError Unit :=
  if path.toList.contains '\x00' then .error .nulInName
  else if path = "" then .error .notFound
  else if longestPath < path.utf8ByteSize then .error .nameTooLong
  else .ok ()

def place (t : FileTree) (path : String) : Except FileError Place := do
  checkPath path
  t.follow [] (pathNames path)

def directory (t : FileTree) (path : String) : Except FileError Place := do
  let place ← t.place path
  match t.node? place with
  | none => .error .notFound
  | some .directory => .ok place
  | some (.file _) => .error .notDirectory

def read (t : FileTree) (path : String) : Except FileError String := do
  let place ← t.place path
  match t.node? place with
  | none => .error .notFound
  | some .directory => .error .isDirectory
  | some (.file text) => if endsInDirectory path then .error .notDirectory else .ok text

def children (t : FileTree) (place : Place) : List String :=
  let names := t.nodes.filterMap fun n =>
    if n.1.dropLast = place then n.1.getLast? else none
  names.mergeSort fun a b => a ≤ b

def isDirectory (t : FileTree) (place : Place) : Bool :=
  match t.node? place with
  | some .directory => true
  | _ => false

/-! ## Changing -/

def put (t : FileTree) (place : Place) (n : FileNode) : FileTree :=
  ⟨t.nodes.filter (·.1 ≠ place) ++ [(place, n)]⟩

def withDirectories (t : FileTree) (place : Place) : FileTree :=
  (List.range place.length).foldl (fun t i =>
    let part := place.take (i + 1)
    if (t.node? part).isSome then t else t.put part .directory) t

def makeDirectory (t : FileTree) (path : String) : Except FileError FileTree := do
  if endsInName path then
    let place ← t.place path
    if (t.node? place).isSome then .error .alreadyExists else .ok (t.put place .directory)
  else
    let _ ← t.directory path
    .error .alreadyExists

/-- An attempt to make a directory that is there has done what it should. -/
def settled (t : FileTree) (path : String) : Except FileError FileTree → Except FileError Unit × FileTree
  | .ok t => (.ok (), t)
  | .error e => (if e = .alreadyExists && (t.directory path).toBool then .ok () else .error e, t)

/-- Makes a directory and those above it, where they are missing, from the outermost on. Those made
before a failure stay. -/
def makeMissing : Nat → FileTree → String → Except FileError Unit × FileTree
  | 0, t, _ => (.ok (), t)
  | fuel + 1, t, path =>
    if path = "" then (.ok (), t)
    else match t.makeDirectory path with
      | .error .notFound =>
        match makeMissing fuel t (parentPath path) with
        | (.error e, t) => (.error e, t)
        | (.ok (), t) => t.settled path (t.makeDirectory path)
      | answer => t.settled path answer

def makeDirectories (t : FileTree) (path : String) : Except FileError Unit × FileTree :=
  makeMissing (path.length + 1) t path

def write (t : FileTree) (path text : String) : Except FileError FileTree := do
  checkPath path
  if !endsInName path then
    let _ ← t.directory path
    .error .isDirectory
  else if endsInSlash path then
    let above ← t.follow [] (pathNames path).dropLast
    match t.node? above with
    | none => .error .notFound
    | some .directory => .error .isDirectory
    | some (.file _) => .error .notDirectory
  else
    let place ← t.place path
    match t.node? place with
    | some .directory => .error .isDirectory
    | _ => .ok (t.put place (.file text))

def ofFiles (files : List (String × String)) : FileTree :=
  files.foldl (fun t f =>
    let place := pathNames f.1
    (t.withDirectories place.dropLast).put place (.file f.2)) ⟨[]⟩

end FileTree

end Conformance
