import LintConfig.Files.Path
import LintConfig.Text.Quotation
import LintConfig.Text.Utf8

/-! A tree of files and folders as a value, and the operations on it. A relative path is followed from
the root of the tree; a double dot leads back to the folder above. There is nothing outside of the
tree. -/

namespace LintConfig.Files

inductive Tree
  | file (bytes : List UInt8)
  | folder (entries : List (String × Tree))
  deriving BEq, Repr, Inhabited

/-- Why a path cannot be used as intended. -/
inductive Obstacle
  | missing
  | notFolder
  | isFolder
  | exists_
  /-- The path or one of its components has too many bytes. -/
  | tooLong
  /-- A null character ends a path before its end. -/
  | nullCharacter
  deriving DecidableEq, Repr

structure FileError where
  obstacle : Obstacle
  path : Path
  deriving DecidableEq, Repr

def Obstacle.message : Obstacle → String
  | missing => "[Errno 2] No such file or directory"
  | notFolder => "[Errno 20] Not a directory"
  | isFolder => "[Errno 21] Is a directory"
  | exists_ => "[Errno 17] File exists"
  | tooLong => "[Errno 36] File name too long"
  | nullCharacter => "embedded null byte"

def FileError.message (e : FileError) : String :=
  match e.obstacle with
  | .nullCharacter => e.obstacle.message
  | o => o.message ++ ": " ++ Text.quotation e.path.text

/-- How many bytes a component may have. -/
def componentLimit : Nat := 255

/-- How many bytes a path may have. -/
def pathLimit : Nat := 4095

/-- What stands in the way of asking about a path at all, whatever there is. -/
def Path.obstacle? (p : Path) : Option Obstacle :=
  if p.parts.any (·.toList.contains '\x00') then some .nullCharacter
  else if pathLimit < p.text.utf8ByteSize then some .tooLong
  else none

namespace Tree

def empty : Tree := .folder []

def lookup? (name : String) : List (String × Tree) → Option Tree
  | [] => none
  | (n, t) :: rest => if n = name then some t else lookup? name rest

/-- Put an entry in a folder, in place of the one of that name. -/
def put (name : String) (t : Tree) : List (String × Tree) → List (String × Tree)
  | [] => [(name, t)]
  | (n, u) :: rest => if n = name then (n, t) :: rest else (n, u) :: put name t rest

/-- The tree at a place, named by the components that lead down to it. -/
def get? : Tree → List String → Option Tree
  | t, [] => some t
  | .folder entries, name :: rest => (lookup? name entries).bind (get? · rest)
  | .file _, _ :: _ => none

/-- Put a tree at a place. Folders on the way are made, files on the way replaced. -/
def set : Tree → List String → Tree → Tree
  | _, [], new => new
  | .folder entries, name :: rest, new =>
    .folder (put name (set ((lookup? name entries).getD empty) rest new) entries)
  | .file _, name :: rest, new => .folder [(name, set empty rest new)]

def isFile : Tree → Bool
  | file _ => true
  | folder _ => false

/-- Follow components from a place to the place they lead to. -/
def follow (root : Tree) : (place : List String) → List String → Except Obstacle (List String)
  | place, [] => .ok place
  | place, part :: rest =>
    match root.get? place with
    | some (.folder entries) =>
      if part = ".." then
        if place.isEmpty then .error .missing else follow root place.dropLast rest
      else if (lookup? part entries).isSome then follow root (place ++ [part]) rest
      else if componentLimit < part.utf8ByteSize then .error .tooLong
      else .error .missing
    | some (.file _) => .error .notFolder
    | none => .error .missing

/-- Follow components from the root; where a path begins elsewhere, there is nothing. -/
def followPath (root : Tree) (p : Path) (parts : List String) : Except Obstacle (List String) :=
  match p.obstacle? with
  | some o => .error o
  | none =>
    if p.root == "" then root.follow [] parts
    else if parts.head?.any (componentLimit < ·.utf8ByteSize) then .error .tooLong
    else .error .missing

/-- The place a path leads to, and what is there. -/
def locate (root : Tree) (p : Path) : Except FileError (List String × Tree) :=
  match root.followPath p p.parts with
  | .error o => .error ⟨o, p⟩
  | .ok place =>
    match root.get? place with
    | some t => .ok (place, t)
    | none => .error ⟨.missing, p⟩

/-- What a path leads to. -/
def find? (root : Tree) (p : Path) : Option Tree :=
  match root.locate p with
  | .ok (_, t) => some t
  | .error _ => none

/-- What a path leads to, if anything. A path that is too long is an error, and no path to
nothing. -/
def probe (root : Tree) (p : Path) : Except FileError (Option Tree) :=
  match root.locate p with
  | .ok (_, t) => .ok (some t)
  | .error e => if e.obstacle = .tooLong then .error e else .ok none

def hasFile (root : Tree) (p : Path) : Bool := (root.find? p).any isFile

def hasFolder (root : Tree) (p : Path) : Bool := (root.find? p).any (!·.isFile)

/-- The bytes of a file. -/
def read (root : Tree) (p : Path) : Except FileError (List UInt8) :=
  match root.locate p with
  | .error e => .error e
  | .ok (_, .file bytes) => .ok bytes
  | .ok (_, .folder _) => .error ⟨.isFolder, p⟩

/-! ### Changing a tree -/

/-- The place a new entry at a path would have. -/
def newPlace (root : Tree) (p : Path) : Except FileError (List String) :=
  match p.parts.getLast? with
  | none => .error ⟨.exists_, p⟩
  | some name =>
    match root.followPath p p.parts.dropLast with
    | .error o => .error ⟨o, p⟩
    | .ok place =>
      match root.get? place with
      | some (.folder entries) =>
        if name = ".." || (lookup? name entries).isSome then .error ⟨.exists_, p⟩
        else if componentLimit < name.utf8ByteSize then .error ⟨.tooLong, p⟩
        else .ok (place ++ [name])
      | some (.file _) => .error ⟨.notFolder, p⟩
      | none => .error ⟨.missing, p⟩

/-- Make one folder, in a folder that is there. -/
def makeFolder (root : Tree) (p : Path) : Except FileError Tree :=
  match root.newPlace p with
  | .ok place => .ok (root.set place empty)
  | .error e => .error e

/-- A change that was given up: why, and the tree there is then. -/
structure Halt where
  error : FileError
  tree : Tree
  deriving BEq, Repr

/-- Make a folder and those above it as far as they are missing; `depth` bounds how many that can
be. A folder that is there already is no obstacle. -/
def makeFolders (root : Tree) (root' : String) : (depth : Nat) → List String → Except Halt Tree
  | depth, parts =>
    let p : Path := ⟨root', parts⟩
    match root.makeFolder p with
    | .ok made => .ok made
    | .error e =>
      if e.obstacle = .missing then
        match depth with
        | 0 => .error ⟨e, root⟩
        | depth + 1 =>
          match makeFolders root root' depth parts.dropLast with
          | .error h => .error h
          | .ok above =>
            match above.makeFolder p with
            | .ok made => .ok made
            | .error e => if above.hasFolder p then .ok above else .error ⟨e, above⟩
      else if root.hasFolder p then .ok root
      else .error ⟨e, root⟩

def makeFolderAt (root : Tree) (p : Path) : Except Halt Tree :=
  makeFolders root p.root p.parts.length p.parts

/-- Write a file in a folder that is there, over the file of that name if there is one. -/
def write (root : Tree) (p : Path) (bytes : List UInt8) : Except FileError Tree :=
  match root.locate p with
  | .ok (place, .file _) => .ok (root.set place (.file bytes))
  | .ok (_, .folder _) => .error ⟨.isFolder, p⟩
  | .error _ =>
    match root.newPlace p with
    | .ok place => .ok (root.set place (.file bytes))
    | .error e => .error e

/-! ### Listing -/

mutual

/-- All files of a tree with the components that lead to them. -/
def files (above : List String) : Tree → List (List String × List UInt8)
  | file bytes => [(above, bytes)]
  | folder entries => entryFiles above entries

def entryFiles (above : List String) : List (String × Tree) → List (List String × List UInt8)
  | [] => []
  | (name, t) :: rest => files (above ++ [name]) t ++ entryFiles above rest

end

/-- The files that are new or have other contents than before. -/
def changes (before after : Tree) : List (List String × List UInt8) :=
  (files [] after).filter fun (place, bytes) =>
    match before.get? place with
    | some (.file old) => old != bytes
    | _ => true

end Tree

end LintConfig.Files
