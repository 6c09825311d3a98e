import TreeReport.Logging.Record
import TreeReport.Logging.Rotation
import TreeReport.Logging.Timestamp
import TreeReport.Value

/-! Where and when a record is made. Formats show it, and so do complaints about
records that could not be written. -/
namespace TreeReport.Logging

/-- Why a handler has not written a record. -/
inductive Failure where
  | format (format : Text) (dateFormat : Value)
  | file (loss : Loss)

structure Origin where
  created : Timestamp
  started : Timestamp
  path : Text
  line : Nat
  function : Text
  process : Nat
  thread : Nat
  /-- What is printed of the stack when a handler fails, which depends on where the
  program is installed. -/
  trace : Record → Failure → Text

namespace Origin

def sinceStart (origin : Origin) : Nat := origin.created.elapsed - origin.started.elapsed

def file (origin : Origin) : Text := (Text.splitOn (.char '/') origin.path).getLast?.getD []

/-- The name of the file up to its last point. A point at the start is no end. -/
def module (origin : Origin) : Text :=
  let pieces := Text.splitOn (.char '.') origin.file
  match Text.joinWith "." pieces.dropLast with
  | [] => origin.file
  | name => name

def complaint (origin : Origin) (record : Record) (failure : Failure) : Text :=
  ("--- Logging error ---\n" : Text) ++ origin.trace record failure ++ ("Message: " : Text) ++
    record.message.quoted ++ ("\nArguments: None\n" : Text)

end Origin

end TreeReport.Logging
