import TreeReport.Decimal

/-! Log records: a level, the name of the logger and a message. Any number is a
level; some have names of their own. -/
namespace TreeReport.Logging

structure Level where
  rank : Int
  deriving DecidableEq, Repr

namespace Level

def debug : Level := ⟨10⟩

def info : Level := ⟨20⟩

def warning : Level := ⟨30⟩

def error : Level := ⟨40⟩

def critical : Level := ⟨50⟩

def graded : List (Text × Level) := [
  ("DEBUG", debug), ("INFO", info), ("WARNING", warning), ("ERROR", error), ("CRITICAL", critical)]

def ofName? (name : Text) : Option Level :=
  (graded.find? fun entry => entry.1 == name).map Prod.snd

def named : List (Text × Level) := ("NOTSET", ⟨0⟩) :: graded

def name (level : Level) : Text :=
  match named.find? fun entry => entry.2 == level with
  | some (name, _) => name
  | none => ("Level " : Text) ++ Decimal.integer level.rank

/-- Every record holds the name of its level, so none is made of a level whose rank
is too long to be written. -/
def Nameable (level : Level) : Prop := Decimal.Short level.rank

instance (level : Level) : Decidable level.Nameable :=
  inferInstanceAs (Decidable (Decimal.Short level.rank))

def admits (threshold level : Level) : Bool := threshold.rank ≤ level.rank

end Level

structure Record where
  level : Level
  logger : Text
  message : Text
  deriving DecidableEq, Repr

end TreeReport.Logging
