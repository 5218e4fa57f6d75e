/-!
# Points in time

A point in time is a whole number of seconds from the Unix epoch, negative
before it, and a number of nanoseconds after that second.  The seconds are
those of a signed 64-bit clock, and distances are measured in unsigned
64-bit seconds, so that moving a point can leave either range.
-/

namespace InterfaceManager

/-- A point in time: `seconds` from the epoch and `nanos` after that. -/
structure Timestamp where
  seconds : Int
  nanos : Nat
  deriving DecidableEq, Repr, Inhabited

namespace Timestamp

/-- Nanoseconds in a second. -/
def second : Nat := 1000000000

/-- Whether a clock with 64-bit seconds can show a number of seconds. -/
def InRange (seconds : Int) : Prop :=
  Int64.minValue.toInt ≤ seconds ∧ seconds ≤ Int64.maxValue.toInt

instance (seconds : Int) : Decidable (InRange seconds) :=
  inferInstanceAs (Decidable (_ ∧ _))

/-- Why a point at some distance from the epoch has no timestamp. -/
inductive Unreachable where
  /-- The distance passes every clock. -/
  | distance
  /-- The point is too late for the clock. -/
  | after
  /-- The point is too early for the clock. -/
  | before
  deriving DecidableEq, Repr

/-- The wording for a point without a timestamp. -/
def Unreachable.message : Unreachable → String
  | .distance => "overflow in Duration::new"
  | .after => "overflow when adding duration to `SystemTime`"
  | .before => "overflow when subtracting duration from `SystemTime`"

/-- A distance with the nanoseconds beyond a second carried over. -/
def carried (seconds nanos : Nat) : Except Unreachable (Nat × Nat) :=
  let whole := seconds + nanos / second
  if whole < UInt64.size then .ok (whole, nanos % second)
  else .error .distance

def afterEpoch (seconds nanos : Nat) : Except Unreachable Timestamp := do
  let (whole, rest) ← carried seconds nanos
  if InRange whole then .ok ⟨whole, rest⟩ else .error .after

def beforeEpoch (seconds nanos : Nat) : Except Unreachable Timestamp := do
  let (whole, rest) ← carried seconds nanos
  let (start, rest) : Int × Nat :=
    if rest = 0 then (-(whole : Int), 0)
    else (-(whole : Int) - 1, second - rest)
  if InRange start then .ok ⟨start, rest⟩ else .error .before

/-- Whether a point lies before the epoch. -/
def isBeforeEpoch (t : Timestamp) : Bool := t.seconds < 0

def distance (t : Timestamp) : Nat × Nat :=
  if t.isBeforeEpoch then
    if t.nanos = 0 then (t.seconds.natAbs, 0)
    else (t.seconds.natAbs - 1, second - t.nanos)
  else (t.seconds.natAbs, t.nanos)

end Timestamp

end InterfaceManager
