import TreeReport.Options
import TreeReport.Report

/-! The entry points. They differ only in who decides about colours, and each
announces what it is about to show. A call fails only on an integer that is too long to
be written. -/
namespace TreeReport.Inspection

inductive ColorPolicy where
  | asAsked
  | always
  | never
  deriving DecidableEq, Repr

def ColorPolicy.forced : ColorPolicy → Value
  | .asAsked => .null
  | .always => .bool true
  | .never => .bool false

def loggerName : Text := "treeinspect.api"

def displayOf (options : Options) : Report.Display :=
  ⟨options.showPositions.truth, options.colors.truth⟩

def announcement (value : Value) (options : Options) : Except Decimal.Overflow Logging.Record := do
  let positions ← options.showPositions.spell
  let colors ← options.colors.spell
  return ⟨.debug, loggerName, ("Inspecting " : Text) ++ value.typeName ++ (" (positions=" : Text) ++
    positions ++ (", colors=" : Text) ++ colors ++ (")" : Text)⟩

/-- The report, if nothing in it and in what is said before is too long to be written,
with the log records in order. -/
def inspect (policy : ColorPolicy) (value options : Value) (overrides : Options.Overrides) :
    Except Decimal.Overflow Text × List Logging.Record :=
  match Options.resolve options overrides policy.forced with
  | .error overflow => (.error overflow, [])
  | .ok (resolved, records) =>
      match announcement value resolved with
      | .error overflow => (.error overflow, records)
      | .ok announced => (Report.render (displayOf resolved) value, records ++ [announced])

end TreeReport.Inspection
