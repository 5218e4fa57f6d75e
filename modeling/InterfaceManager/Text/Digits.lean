/-!
# Numbers written in digits

Reading of unsigned numbers in a base of at most sixteen, with and without
a bound.  A bounded reading says why it fails: nothing was written, some
character is no digit, or the value passes the bound.  The first fault from
the left wins.
-/

namespace InterfaceManager.Text

/-- The value of a digit in bases up to sixteen; letters count in either
case. -/
def digitValue? (base : Nat) (c : Char) : Option Nat :=
  let value :=
    if '0' ≤ c ∧ c ≤ '9' then some (c.toNat - '0'.toNat)
    else if 'a' ≤ c ∧ c ≤ 'f' then some (c.toNat - 'a'.toNat + 10)
    else if 'A' ≤ c ∧ c ≤ 'F' then some (c.toNat - 'A'.toNat + 10)
    else none
  value.filter (· < base)

/-- The value of a text of digits read after a number already read. -/
def digitsAfter? (base : Nat) (read : Nat) : List Char → Option Nat
  | [] => some read
  | c :: cs =>
    (digitValue? base c).bind fun d => digitsAfter? base (read * base + d) cs

/-- The number written by a text of one or more digits. -/
def natOfDigits? (base : Nat) (cs : List Char) : Option Nat :=
  if cs = [] then none else digitsAfter? base 0 cs

/-- Why a text is not the decimal form of a number within bounds. -/
inductive NumberFault where
  | empty
  | invalidDigit
  | tooLarge
  | tooSmall
  deriving DecidableEq, Repr

def NumberFault.message : NumberFault → String
  | .empty => "cannot parse integer from empty string"
  | .invalidDigit => "invalid digit found in string"
  | .tooLarge => "number too large to fit in target type"
  | .tooSmall => "number too small to fit in target type"

/-- Reads decimal digits after a number already read, failing with `fault`
as soon as the value passes `bound`. -/
def boundedAfter (bound : Nat) (fault : NumberFault) (read : Nat) :
    List Char → Except NumberFault Nat
  | [] => .ok read
  | c :: cs =>
    match digitValue? 10 c with
    | none => .error .invalidDigit
    | some d =>
      if bound < read * 10 + d then .error fault
      else boundedAfter bound fault (read * 10 + d) cs

/-- The decimal number of at most `bound`, written with an optional plus
sign and any number of leading zeros. -/
def boundedNat (bound : Nat) : List Char → Except NumberFault Nat
  | [] => .error .empty
  | ['+'] => .error .invalidDigit
  | '+' :: cs => boundedAfter bound .tooLarge 0 cs
  | cs => boundedAfter bound .tooLarge 0 cs

/-- The decimal number between `-(bound + 1)` and `bound`, written with an
optional sign. -/
def boundedInt (bound : Nat) : List Char → Except NumberFault Int
  | [] => .error .empty
  | ['-'] => .error .invalidDigit
  | '-' :: cs =>
    (boundedAfter (bound + 1) .tooSmall 0 cs).map fun n => -(n : Int)
  | cs => (boundedNat bound cs).map Int.ofNat

end InterfaceManager.Text
