import TreeReport.Text.Quoted
import TreeReport.Text.Utf8

/-! Files and directories. A path is the list of its names from the root on.
Looking a path up walks along its names, so each one but the last has to be a
directory; a path may also be brought into absolute form by its names alone. Names
that stand for the same bytes lead to the same place. -/
namespace TreeReport

abbrev Path := List Text

inductive Entry where
  | file (content : List UInt8)
  | directory
  deriving DecidableEq, Repr

abbrev Storage := List (Path × Entry)

namespace Storage

inductive Cause where
  | missing
  | exists
  | notDirectory
  | isDirectory
  | nameTooLong
  deriving DecidableEq, Repr

def Cause.number : Cause → Nat
  | .missing => 2
  | .exists => 17
  | .notDirectory => 20
  | .isDirectory => 21
  | .nameTooLong => 36

def Cause.description : Cause → Text
  | .missing => "No such file or directory"
  | .exists => "File exists"
  | .notDirectory => "Not a directory"
  | .isDirectory => "Is a directory"
  | .nameTooLong => "File name too long"

structure Fault where
  cause : Cause
  path : Text
  deriving DecidableEq, Repr

def Fault.describe (fault : Fault) (quote : Text → Text) : Text :=
  ("[Errno " : Text) ++ Decimal.natural fault.cause.number ++ ("] " : Text) ++
    fault.cause.description ++ (": " : Text) ++ quote fault.path

def Fault.message (fault : Fault) : Text := fault.describe Text.quoted

/-- What keeps a path from being looked up at all. -/
inductive BadPath where
  | unencodable (fault : Utf8.Unencodable)
  | nullCharacter
  deriving DecidableEq, Repr

def BadPath.message : BadPath → Text
  | .unencodable fault => fault.message
  | .nullCharacter => "embedded null byte"

/-- The encoding of a path comes before the search for null characters in it. -/
def badPath? (path : Text) : Option BadPath :=
  match Utf8.unencodableName? 0 path with
  | some fault => some (.unencodable fault)
  | none => if path.contains (.char '\x00') then some .nullCharacter else none

/-- Why nothing was made or opened: only what the system refuses is forgiven. -/
inductive Obstacle where
  | refused (fault : Fault)
  | bad (path : BadPath)
  deriving DecidableEq, Repr

section Entries

def get? (path : Path) : Storage → Option Entry
  | [] => none
  | (other, entry) :: rest => if other = path then some entry else get? path rest

def put (path : Path) (entry : Entry) : Storage → Storage
  | [] => [(path, entry)]
  | (other, old) :: rest =>
      if other = path then (path, entry) :: rest else (other, old) :: put path entry rest

def remove (path : Path) (storage : Storage) : Storage :=
  storage.filter fun named => named.1 ≠ path

def isDirectory (storage : Storage) (path : Path) : Bool :=
  path.isEmpty || get? path storage == some .directory

def holds (storage : Storage) (path : Path) : Bool := path.isEmpty || (get? path storage).isSome

def content (storage : Storage) (path : Path) : List UInt8 :=
  match get? path storage with
  | some (.file bytes) => bytes
  | _ => []

def append (storage : Storage) (path : Path) (bytes : List UInt8) : Storage :=
  storage.put path (.file (storage.content path ++ bytes))

theorem get?_put_self (path : Path) (entry : Entry) (storage : Storage) :
    (storage.put path entry).get? path = some entry := by
  induction storage with
  | nil => simp [put, get?]
  | cons named rest ih =>
      simp only [put]
      split
      · simp [get?]
      · next apart => simp [get?, apart, ih]

theorem get?_put_of_ne {path other : Path} (apart : other ≠ path) (entry : Entry)
    (storage : Storage) : (storage.put path entry).get? other = storage.get? other := by
  induction storage with
  | nil => simp [put, get?, apart.symm]
  | cons named rest ih =>
      simp only [put]
      split
      · next same => simp [get?, same, apart.symm]
      · simp [get?, ih]

theorem get?_remove_self (path : Path) (storage : Storage) :
    (storage.remove path).get? path = none := by
  induction storage with
  | nil => rfl
  | cons named rest ih =>
      by_cases same : named.1 = path
      · simpa [remove, same] using ih
      · simpa [remove, get?, same] using ih

theorem get?_remove_of_ne {path other : Path} (apart : other ≠ path) (storage : Storage) :
    (storage.remove path).get? other = storage.get? other := by
  induction storage with
  | nil => rfl
  | cons named rest ih =>
      by_cases same : named.1 = path
      · simpa [remove, get?, same, apart.symm] using ih
      · by_cases wanted : named.1 = other
        · simp [remove, get?, wanted, apart]
        · simpa [remove, get?, same, wanted] using ih

theorem content_append_self (storage : Storage) (path : Path) (bytes : List UInt8) :
    (storage.append path bytes).content path = storage.content path ++ bytes := by
  rw [append, content, get?_put_self]

end Entries

section Paths

def splitNames (path : Text) : List Text := Text.splitOn (.char '/') path

def isAbsolute (path : Text) : Bool := Text.startsWith "/" path

def normalize (base : Path) (names : List Text) : Path :=
  names.foldl (fun path name =>
    if name = [] ∨ name = ("." : Text) then path
    else if name = (".." : Text) then path.dropLast
    else path ++ [name]) base

def absolute (working : Path) (path : Text) : Path :=
  normalize (if isAbsolute path then [] else working) (splitNames path)

def pathText (path : Path) : Text := .char '/' :: Text.joinWith "/" path

def nameLimit : Nat := 255

def pathLimit : Nat := 4095

def longName (name : Text) : Bool := nameLimit < (Utf8.encodeName name).length

def longPath (path : Text) : Bool := pathLimit < (Utf8.encodeName path).length

def onDisk (path : Path) : Path := path.map Utf8.sameName

def walk (storage : Storage) (current : Path) : List Text → Except Cause Path
  | [] => .ok current
  | name :: rest =>
      if !storage.isDirectory current then .error .notDirectory
      else if name = [] ∨ name = ("." : Text) then walk storage current rest
      else if name = (".." : Text) then walk storage current.dropLast rest
      else if longName name then .error .nameTooLong
      else
        let next := current ++ [Utf8.sameName name]
        if storage.holds next then walk storage next rest else .error .missing

end Paths

def read (storage : Storage) (working : Path) (path : Text) : Except Fault (List UInt8) :=
  let fault := fun cause => Except.error ⟨cause, path⟩
  if path = [] then fault .missing
  else if longPath path then fault .nameTooLong
  else match walk storage (if isAbsolute path then [] else working) (splitNames path) with
    | .error cause => fault cause
    | .ok found =>
        if storage.isDirectory found then fault .isDirectory else .ok (storage.content found)

def makeDirectory (storage : Storage) (path : Path) : Except Obstacle Storage :=
  let refused := fun cause => Except.error (.refused ⟨cause, pathText path⟩)
  match badPath? (pathText path) with
  | some bad => .error (.bad bad)
  | none =>
      if longPath (pathText path) then refused .nameTooLong
      else match walk storage [] path.dropLast with
        | .error cause => refused cause
        | .ok parent =>
            if !storage.isDirectory parent then refused .notDirectory
            else if longName (path.getLast?.getD []) then refused .nameTooLong
            else if storage.holds (onDisk path) then refused .exists
            else .ok (storage.put (onDisk path) .directory)

/-- Makes the directory of reversed names and those above it as far as they do
not exist. What has been made stays when a later step fails. -/
def makeDirectories (storage : Storage) : List Text → Storage × Option Obstacle
  | [] => (storage, none)
  | name :: parents =>
      let (storage, failed) :=
        if storage.holds (onDisk parents.reverse) then (storage, none)
        else makeDirectories storage parents
      match failed with
      | some obstacle => (storage, some obstacle)
      | none =>
          let path := parents.reverse ++ [name]
          match makeDirectory storage path with
          | .ok made => (made, none)
          | .error (.bad bad) => (storage, some (.bad bad))
          | .error (.refused fault) =>
              (storage, if storage.isDirectory (onDisk path) then none else some (.refused fault))

/-- Opens a file for appending below an existing directory, and makes it if it
does not exist. -/
def openForAppend (storage : Storage) (path : Path) : Except Obstacle Storage :=
  let refused := fun cause => Except.error (.refused ⟨cause, pathText path⟩)
  match badPath? (pathText path) with
  | some bad => .error (.bad bad)
  | none =>
      if longPath (pathText path) then refused .nameTooLong
      else if storage.isDirectory (onDisk path) then refused .isDirectory
      else if longName (path.getLast?.getD []) then refused .nameTooLong
      else .ok (storage.append (onDisk path) [])

section Moving

def takes (path : Path) : Bool :=
  !longPath (pathText path) && !longName (path.getLast?.getD [])

/-- Where a path leads once what it names, or what it lies in, has moved. -/
def moved (source target path : Path) : Path :=
  if source.isPrefixOf path then target ++ path.drop source.length else path

def repath (storage : Storage) (change : Path → Path) : Storage :=
  storage.map fun (path, entry) => (change path, entry)

def relocate (storage : Storage) (source target : Path) : Storage :=
  (storage.remove target).repath (moved source target)

/-- Moves what a path names to another path, over a file that is there. A directory
takes along what it holds, and none is moved over. -/
def rename (storage : Storage) (source target : Path) : Except Cause Storage :=
  if !storage.holds source then .ok storage
  else if storage.isDirectory target then .error .isDirectory
  else if !takes target then .error .nameTooLong
  else .ok (storage.relocate source target)

end Moving

end Storage

end TreeReport
