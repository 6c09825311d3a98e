import TreeReport.Value

/-! Equality of the values that can be keys or set elements. Truth values and
numbers of both kinds are equal when they denote the same number, NaN and
objects equal nothing, and tuples and sets compare by their elements. Inserting
an equal key keeps the first key and its place. -/
namespace TreeReport.Value

def asInteger? : Value → Option Int
  | .bool b => some (if b then 1 else 0)
  | .int n => some n
  | _ => none

def sameNumber (a b : Value) : Bool :=
  match a, b with
  | .float x, .float y => x.sameNumber y
  | .float x, other => (other.asInteger?.map x.isInteger).getD false
  | other, .float y => (other.asInteger?.map y.isInteger).getD false
  | _, _ =>
      match a.asInteger?, b.asInteger? with
      | some m, some n => m == n
      | _, _ => false

mutual

def same : Value → Value → Bool
  | .null, .null => true
  | .str a, .str b => a == b
  | .bytes a, .bytes b => a == b
  | .sequence .tuple as, .sequence .tuple bs => sameItems as bs
  | .set _ as, .set _ bs => as.length == bs.length && allWithin as bs
  | .options p c, .options q d => same p q && same c d
  | a, b => sameNumber a b
termination_by structural a => a

def sameItems : List Value → List Value → Bool
  | [], [] => true
  | a :: as, b :: bs => same a b && sameItems as bs
  | _, _ => false
termination_by structural as => as

def allWithin : List Value → List Value → Bool
  | [], _ => true
  | a :: as, bs => bs.any (fun b => same a b) && allWithin as bs
termination_by structural as => as

end

theorem same_str (value : Value) (key : Text) : value.same (.str key) = value.isText key := by
  cases value with
  | sequence form items => cases form <;> rfl
  | _ => rfl

theorem same_null (value : Value) : value.same .null = value.isNull := by
  cases value with
  | sequence form items => cases form <;> rfl
  | _ => rfl

/-- The elements of a set: of equal ones the first stays. -/
def distinct (items : List Value) : List Value :=
  items.foldl (fun kept item =>
    if kept.any (fun other => same other item) then kept else kept ++ [item]) []

def insertEntry (key value : Value) : Entries → Entries
  | [] => [(key, value)]
  | (name, old) :: rest =>
      if same name key then (name, value) :: rest else (name, old) :: insertEntry key value rest

def entriesOf (pairs : List (Value × Value)) : Entries :=
  pairs.foldl (fun entries pair => insertEntry pair.1 pair.2 entries) []

end TreeReport.Value
