import TreeReport.Storage

/-! Log files of bounded size. When a record would bring the file to its limit
the file becomes the first backup, the backups move up by one and the oldest is
lost. Without backups the file just grows. A line is lost when it has no encoding or
the file cannot be moved aside. -/
namespace TreeReport.Logging

inductive NameForm where
  | text
  | bytes
  deriving DecidableEq, Repr

structure RotatingFile where
  path : Path
  form : NameForm
  maxBytes : Int
  backupCount : Int
  deriving DecidableEq, Repr

inductive RollFault where
  | numberOverflow
  | bytesName
  | refused (cause : Storage.Cause)
  deriving DecidableEq, Repr

inductive Loss where
  | unmoved (fault : RollFault)
  | unencodable (fault : Utf8.Unencodable)
  deriving DecidableEq, Repr

namespace RotatingFile

def backup (path : Path) (number : Nat) : Path :=
  path.dropLast ++ [path.getLast?.getD [] ++ .char '.' :: Decimal.natural number]

def shiftBackups (path : Path) : Nat → Storage → Storage × Option Storage.Cause
  | 0, storage => (storage, none)
  | number + 1, storage =>
      match storage.rename (backup path (number + 1)) (backup path (number + 2)) with
      | .error cause => (storage, some cause)
      | .ok moved => shiftBackups path number moved

/-- The backups are numbered before anything moves. A name that was given as bytes
takes no number. -/
def rollOver (file : RotatingFile) (storage : Storage) : Storage × Option RollFault :=
  match file.backupCount.toNat with
  | 0 => (storage, none)
  | kept + 1 =>
      if ¬ Decimal.Short kept then (storage, some .numberOverflow)
      else if file.form = .bytes then (storage, some .bytesName)
      else match shiftBackups file.path kept storage with
        | (shifted, some cause) => (shifted, some (.refused cause))
        | (shifted, none) =>
            match shifted.rename file.path (backup file.path 1) with
            | .error cause => (shifted, some (.refused cause))
            | .ok moved => (moved.append file.path [], none)

/-- The size counts bytes, the line to come counts symbols. -/
def isDue (file : RotatingFile) (line : Text) (storage : Storage) : Bool :=
  0 < file.maxBytes ∧ file.maxBytes ≤ (storage.content file.path).length + line.length

def prepare (file : RotatingFile) (line : Text) (storage : Storage) :
    Storage × Option RollFault :=
  if file.isDue line storage then file.rollOver storage else (storage, none)

def deliver (file : RotatingFile) (line : Text) (storage : Storage) : Storage × Option Loss :=
  match file.prepare line storage with
  | (storage, some fault) => (storage, some (.unmoved fault))
  | (storage, none) =>
      match Utf8.unencodable? 0 line with
      | some fault => (storage, some (.unencodable fault))
      | none => (storage.append file.path (Utf8.encode line), none)

end RotatingFile

end TreeReport.Logging
