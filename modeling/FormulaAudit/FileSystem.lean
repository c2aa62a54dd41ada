import FormulaAudit.Path
import FormulaAudit.Text.Quoted
import FormulaAudit.Workbook.Basic

/-!
A file system as a value: a tree of directories with files, and the directory from which paths
start. There are no links, so each path leads to one place, and a part of two dots leads back to
the directory above.
-/

set_option autoImplicit false

namespace FormulaAudit

inductive FileContent where
  | text (content : String)
  | workbook (book : Workbook)
deriving DecidableEq

/-- What stands at a place. -/
inductive Node where
  | directory
  | file (content : FileContent)
deriving DecidableEq

/-- A place in the tree: the names from the root down. -/
abbrev Place := List String

structure FileSystem where
  /-- The directory from which paths start. -/
  here : Place
  nodes : List (Place × Node) := []

/-- Why an operation on a path fails. -/
inductive FileFault where
  | missing
  | alreadyThere
  | notADirectory
  | isADirectory
  /-- A name or the whole path has more bytes than names or paths may have. -/
  | nameTooLong
  /-- The path holds a NUL character, which no name may hold. -/
  | nulInPath
deriving DecidableEq

structure FileError where
  fault : FileFault
  path : Path
deriving DecidableEq

def FileError.message (e : FileError) : String :=
  let about (text : String) := text ++ ": " ++ Text.quoted e.path.toString
  match e.fault with
  | .missing => about "[Errno 2] No such file or directory"
  | .alreadyThere => about "[Errno 17] File exists"
  | .notADirectory => about "[Errno 20] Not a directory"
  | .isADirectory => about "[Errno 21] Is a directory"
  | .nameTooLong => about "[Errno 36] File name too long"
  | .nulInPath => "embedded null byte"

def Path.hasNul (p : Path) : Bool := p.parts.any fun part ↦ part.toList.contains '\x00'

namespace FileSystem

/-- The greatest number of bytes of a name. -/
def nameLimit : Nat := 255

/-- The greatest number of bytes of a path. -/
def pathLimit : Nat := 4095

/-- What stands at a place. The root is a directory. -/
def node? (fs : FileSystem) (place : Place) : Option Node :=
  if place = [] then some .directory else fs.nodes.lookup place

/-- The file system with something new at a place. -/
def put (fs : FileSystem) (place : Place) (node : Node) : FileSystem :=
  { fs with nodes := (place, node) :: fs.nodes.filter (·.1 ≠ place) }

/-- The places on the way from one place, which is left out, to another below it. -/
def placesTo (place : Place) : List String → List Place
  | [] => []
  | name :: names => (place ++ [name]) :: placesTo (place ++ [name]) names

/-- The file system with something at a place below another one, in directories made for it. -/
def install (fs : FileSystem) (place : Place) (names : List String) (node : Node) : FileSystem :=
  let fs := (placesTo place names.dropLast).foldl
    (fun fs place ↦ if (fs.node? place).isSome then fs else fs.put place .directory) fs
  fs.put (place ++ names) node

/-- A file system with nothing but the directory from which paths start. -/
def emptyAt (here : Place) : FileSystem := ({ here } : FileSystem).install [] here .directory

/-- The place that some names lead to from another place. All places on the way are directories in
which names of that length may be; at the place itself there may be nothing. -/
def walk (fs : FileSystem) (place : Place) : List String → Except FileFault Place
  | [] => .ok place
  | name :: names =>
    match fs.node? place with
    | some .directory =>
      if nameLimit < name.utf8ByteSize then .error .nameTooLong
      else fs.walk (if name = ".." then place.dropLast else place ++ [name]) names
    | some (.file _) => .error .notADirectory
    | none => .error .missing

/-- Where the path starts. -/
def start (fs : FileSystem) (p : Path) : Place := if p.anchor = .here then fs.here else []

def locate (fs : FileSystem) (p : Path) : Except FileFault Place :=
  if p.hasNul then .error .nulInPath
  else if pathLimit < p.toString.utf8ByteSize then .error .nameTooLong
  else fs.walk (fs.start p) p.parts

/-- What a path leads to, if it leads to anything. -/
def find? (fs : FileSystem) (p : Path) : Option Node :=
  match fs.locate p with
  | .ok place => fs.node? place
  | .error _ => none

/-- What a path leads to, if it leads to anything. To ask for a name that is too long is an
error. -/
def look (fs : FileSystem) (p : Path) : Except FileError (Option Node) :=
  match fs.locate p with
  | .ok place => .ok (fs.node? place)
  | .error .nameTooLong => .error ⟨.nameTooLong, p⟩
  | .error _ => .ok none

def isDirectory (fs : FileSystem) (p : Path) : Bool := fs.find? p = some .directory

/-- Makes a directory inside one that is there. -/
def makeDirectory (fs : FileSystem) (p : Path) : Except FileError FileSystem :=
  match fs.locate p with
  | .error fault => .error ⟨fault, p⟩
  | .ok place =>
    match fs.node? place with
    | some _ => .error ⟨.alreadyThere, p⟩
    | none => .ok (fs.put place .directory)

/-- A directory that is there is as good as a new one. -/
def allowDirectory (fs : FileSystem) (p : Path) (e : FileError) : Option FileError :=
  if fs.isDirectory p then none else some e

/-- Makes a directory and those above it that are missing. Also answers what went wrong; directories
that were made before stay. -/
def makeDirectories (fs : FileSystem) (p : Path) : FileSystem × Option FileError :=
  match fs.makeDirectory p with
  | .ok fs => (fs, none)
  | .error e =>
    if h : e.fault = .missing ∧ p.parts ≠ [] then
      have := p.length_parent_lt h.2
      match fs.makeDirectories p.parent with
      | (fs, some e) => (fs, some e)
      | (fs, none) =>
        match fs.makeDirectory p with
        | .ok fs => (fs, none)
        | .error e => (fs, fs.allowDirectory p e)
    else (fs, fs.allowDirectory p e)
termination_by p.parts.length

/-- Writes a text into a file, which need not be there, in a directory that is. -/
def write (fs : FileSystem) (p : Path) (text : String) : Except FileError FileSystem :=
  match fs.locate p with
  | .error fault => .error ⟨fault, p⟩
  | .ok place =>
    match fs.node? place with
    | some .directory => .error ⟨.isADirectory, p⟩
    | _ => .ok (fs.put place (.file (.text text)))

/-- What stands where another file system has something else, or nothing; ascending by place. -/
def changesFrom (fs before : FileSystem) : List (Place × Node) :=
  (fs.nodes.filter fun (place, node) ↦ before.node? place ≠ some node).mergeSort
    fun a b ↦ !b.1.lex a.1 fun x y ↦ decide (x < y)

end FileSystem

end FormulaAudit
