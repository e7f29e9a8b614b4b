/-
# Files

The files that a run of the program meets: a tree of directories, and for each file its bytes. Paths
are followed name by name, where `..` leads to the directory above; every name but the last has to be
a directory that is there. Directories are made on the way where a file is saved.

`file?_write` says that a file that has been written is there.
-/

import HeaderFollower.Config.Document

namespace HeaderFollower

/-- Why something cannot be done to a file or a directory. -/
inductive FileFault where
  | notFound
  | exists
  | notDirectory
  | isDirectory
  | nameTooLong
  /-- A name holds the character zero. -/
  | zeroInName
  deriving DecidableEq, Repr

def FileFault.message : FileFault → String
  | .notFound => "No such file or directory (os error 2)"
  | .exists => "File exists (os error 17)"
  | .notDirectory => "Not a directory (os error 20)"
  | .isDirectory => "Is a directory (os error 21)"
  | .nameTooLong => "File name too long (os error 36)"
  | .zeroInName => "file name contained an unexpected NUL byte"

/-- The longest name in bytes. -/
def longestName : Nat := 255

/-! ## Paths -/

/-- A path, name by name. -/
structure FilePath where
  /-- It begins at the root, not in the working directory. -/
  absolute : Bool
  names : List String
  /-- It ends with a slash or a point, so it can only lead to a directory. -/
  closed : Bool
  deriving DecidableEq, Repr

namespace FilePath

/-- Reads a path; a point stands for the directory itself. -/
def ofText (text : String) : FilePath :=
  let pieces := text.splitOn "/"
  { absolute := text.startsWith "/"
    names := pieces.filter fun name => name ≠ "" ∧ name ≠ "."
    closed := pieces.getLast? ∈ [some "", some "."] }

/-- The path of the directory above; none where there is no name to leave out. -/
def parent? (p : FilePath) : Option FilePath :=
  if p.names = [] ∨ (p.names.length = 1 ∧ !p.absolute) then none
  else some ⟨p.absolute, p.names.dropLast, false⟩

/-- The last name, unless it leads upwards. -/
def name? (p : FilePath) : Option String := p.names.getLast?.filter (· ≠ "..")

end FilePath

/-! ## Trees -/

/-- Directories and files; each is known by the names from the root down to it. -/
structure FileTree where
  /-- The working directory. -/
  here : List String := []
  /-- Directories that are there, with all above them. -/
  directories : List (List String) := []
  files : List (List String × List UInt8) := []

namespace FileTree

/-- What a file holds. -/
def file? (t : FileTree) (place : List String) : Option (List UInt8) := t.files.lookup place

def isDirectory (t : FileTree) (place : List String) : Bool :=
  (t.here :: t.directories).any (place.isPrefixOf ·)

/-- The place that names lead to from a directory; there need not be anything. -/
def follow (t : FileTree) (place : List String) : List String → Except FileFault (List String)
  | [] => .ok place
  | name :: rest =>
    if (t.file? place).isSome then .error .notDirectory
    else if !t.isDirectory place then .error .notFound
    else if name = ".." then t.follow place.dropLast rest
    else if longestName < name.utf8ByteSize then .error .nameTooLong
    else t.follow (place ++ [name]) rest

/-- Where the names of a path begin. -/
def start (t : FileTree) (p : FilePath) : List String := if p.absolute then [] else t.here

/-- The place that a path leads to. -/
def place (t : FileTree) (path : String) : Except FileFault (List String) :=
  if path = "" then .error .notFound
  else if path.contains '\x00' then .error .zeroInName
  else t.follow (t.start (.ofText path)) (FilePath.ofText path).names

/-- Reads a file. -/
def read (t : FileTree) (path : String) : Except FileFault (List UInt8) :=
  match t.place path with
  | .error e => .error e
  | .ok place =>
    match t.file? place with
    | some bytes => if (FilePath.ofText path).closed then .error .notDirectory else .ok bytes
    | none => .error (if t.isDirectory place then .isDirectory else .notFound)

/-- Writes a file, whether there is one or not. -/
def write (t : FileTree) (path : String) (bytes : List UInt8) : Except FileFault FileTree :=
  match t.place path with
  | .error e => .error e
  | .ok place =>
    if t.isDirectory place then .error .isDirectory
    else if (FilePath.ofText path).closed then
      .error (if (t.file? place).isSome then .notDirectory else .isDirectory)
    else .ok { t with files := (place, bytes) :: t.files }

/-- Makes the directories that names lead through, from a directory that is there. -/
def makeAll (t : FileTree) (place : List String) : List String → Except FileFault FileTree
  | [] => .ok t
  | name :: rest =>
    if name = ".." then t.makeAll place.dropLast rest
    else if longestName < name.utf8ByteSize then .error .nameTooLong
    else
      let next := place ++ [name]
      if (t.file? next).isSome then .error (if rest = [] then .exists else .notDirectory)
      else { t with directories := next :: t.directories }.makeAll next rest

/-- Makes the directories of a path. -/
def makeDirectories (t : FileTree) (p : FilePath) : Except FileFault FileTree :=
  if p.names.any (·.contains '\x00') then .error .zeroInName
  else t.makeAll (t.start p) p.names

/-- Writes a file, in directories that are made if they are not there. -/
def save (t : FileTree) (path : String) (bytes : List UInt8) : Except FileFault FileTree :=
  match (FilePath.ofText path).parent? with
  | none => t.write path bytes
  | some directory =>
    match t.makeDirectories directory with
    | .error e => .error e
    | .ok t => t.write path bytes

/-- A file as it is found: one that is not there and cannot be made either is unreadable. -/
def find (t : FileTree) (path : String) : FoundFile :=
  match t.read path with
  | .ok bytes => .content bytes.toByteArray
  | .error .isDirectory => .unreadable
  | .error _ => if (t.save path []).isOk then .missing else .unreadable

/-- Opens a file; one that is not there is made, empty. A file is no directory for another. -/
def openFile (t : FileTree) (path : String) : Except FileFault (List UInt8 × FileTree) :=
  match t.read path with
  | .ok bytes => .ok (bytes, t)
  | .error .isDirectory => .error .isDirectory
  | .error _ =>
    let isFile (p : FilePath) : Bool :=
      ((t.follow (t.start p) p.names).toOption.bind t.file?).isSome
    let made :=
      if (FilePath.ofText path).parent?.any isFile then t.write path [] else t.save path []
    made.map ([], ·)

/-- A tree with nothing but a working directory, and a device that holds nothing. -/
def atHome (home : String) : FileTree :=
  { here := (FilePath.ofText home).names, directories := [["dev"]], files := [(["dev", "null"], [])] }

/-- The tree with a file in the working directory. -/
def withFile (t : FileTree) (name : String) (bytes : List UInt8) : FileTree :=
  { t with files := (t.here ++ [name], bytes) :: t.files }

theorem file?_write {t u : FileTree} {path : String} {bytes : List UInt8}
    (h : t.write path bytes = .ok u) :
    ∃ place, t.place path = .ok place ∧ u.file? place = some bytes := by
  unfold write at h
  split at h
  · simp at h
  · rename_i place hp
    split at h
    · simp at h
    · split at h
      · simp at h
      · obtain rfl := Except.ok.inj h
        exact ⟨place, hp, by simp [file?]⟩

end FileTree
end HeaderFollower
