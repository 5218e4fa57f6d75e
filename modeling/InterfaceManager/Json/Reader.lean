import InterfaceManager.Json.Value
import InterfaceManager.Text.Digits

/-!
# JSON values from texts

A reader for one JSON document.  Each step consumes part of the text and
returns the rest; the depth of the reading is bounded by the length of the
text, so that the reader is total.
-/

namespace InterfaceManager.Json

/-- The text without its leading blanks. -/
def skipBlanks (cs : List Char) : List Char :=
  cs.dropWhile fun c => c = ' ' ∨ c = '\n' ∨ c = '\r' ∨ c = '\t'

/-- The text after `word`, if it starts with it. -/
def after? (word : List Char) (cs : List Char) : Option (List Char) :=
  if word.isPrefixOf cs then some (cs.drop word.length) else none

/-- The number written by four hexadecimal digits, and the rest. -/
def readUnit? (cs : List Char) : Option (Nat × List Char) :=
  let unit := cs.take 4
  if unit.length = 4 then
    (Text.natOfDigits? 16 unit).map fun n => (n, cs.drop 4)
  else none

/-- The character written after a backslash, and the rest.  Two units of
the surrogate ranges stand for one character. -/
def readEscape? : List Char → Option (Char × List Char)
  | '"' :: cs => some ('"', cs)
  | '\\' :: cs => some ('\\', cs)
  | '/' :: cs => some ('/', cs)
  | 'b' :: cs => some ('\x08', cs)
  | 'f' :: cs => some ('\x0c', cs)
  | 'n' :: cs => some ('\n', cs)
  | 'r' :: cs => some ('\r', cs)
  | 't' :: cs => some ('\t', cs)
  | 'u' :: cs => do
    let (high, rest) ← readUnit? cs
    if 0xd800 ≤ high ∧ high < 0xdc00 then
      let rest ← after? ['\\', 'u'] rest
      let (low, rest) ← readUnit? rest
      if 0xdc00 ≤ low ∧ low < 0xe000 then
        some (Char.ofNat (0x10000 + (high - 0xd800) * 0x400
          + (low - 0xdc00)), rest)
      else none
    else if 0xdc00 ≤ high ∧ high < 0xe000 then none
    else some (Char.ofNat high, rest)
  | _ => none

/-- The characters of a string up to its closing quote, and the rest. -/
def readCharacters : Nat → List Char → Option (List Char × List Char)
  | _, '"' :: cs => some ([], cs)
  | fuel + 1, '\\' :: cs => do
    let (c, rest) ← readEscape? cs
    let (text, rest) ← readCharacters fuel rest
    some (c :: text, rest)
  | fuel + 1, c :: cs => do
    let (text, rest) ← readCharacters fuel cs
    some (c :: text, rest)
  | _, _ => none

/-- The number with the given parts.  Integers stay integers as long as
64 bits hold them; a negative zero is fractional. -/
def numberOf (negative : Bool) (whole : Nat) (fraction : List Char)
    (exponent : Option Int) : Number :=
  match fraction, exponent with
  | [], none =>
    if negative then
      if 0 < whole ∧ Int64.minValue.toInt ≤ -(whole : Int) then
        .negative (-(whole : Int))
      else .fractional (-(Float.ofNat whole))
    else if whole < UInt64.size then .natural whole.toUInt64
    else .fractional (Float.ofNat whole)
  | fraction, exponent =>
    let digits := (Text.digitsAfter? 10 whole fraction).getD whole
    let power := exponent.getD 0 - fraction.length
    let x := Float.ofScientific digits (power < 0) power.natAbs
    .fractional (if negative then -x else x)

/-- The number at the start of a text, and the rest. -/
def readNumber? (cs : List Char) : Option (Number × List Char) := do
  let isDigit := fun c : Char => '0' ≤ c ∧ c ≤ '9'
  let (negative, cs) := match cs with
    | '-' :: rest => (true, rest)
    | _ => (false, cs)
  let whole ← Text.natOfDigits? 10 (cs.takeWhile isDigit)
  let cs := cs.dropWhile isDigit
  let (fraction, cs) := match cs with
    | '.' :: rest => (rest.takeWhile isDigit, rest.dropWhile isDigit)
    | _ => ([], cs)
  let signed := fun (sign : Int) (rest : List Char) => do
    let n ← Text.natOfDigits? 10 (rest.takeWhile isDigit)
    some (some (sign * n), rest.dropWhile isDigit)
  let (exponent, cs) ← match cs with
    | 'e' :: '-' :: rest | 'E' :: '-' :: rest => signed (-1) rest
    | 'e' :: '+' :: rest | 'E' :: '+' :: rest => signed 1 rest
    | 'e' :: rest | 'E' :: rest => signed 1 rest
    | _ => some (none, cs)
  some (numberOf negative whole fraction exponent, cs)

mutual

/-- The value at the start of a text, and the rest. -/
def readValue : Nat → List Char → Option (Json × List Char)
  | 0, _ => none
  | fuel + 1, cs =>
    match skipBlanks cs with
    | '[' :: rest =>
      match skipBlanks rest with
      | ']' :: rest => some (.array [], rest)
      | rest => (readItems fuel rest).map fun (vs, rest) => (.array vs, rest)
    | '\x7b' :: rest =>
      match skipBlanks rest with
      | '\x7d' :: rest => some (.object [], rest)
      | rest =>
        (readMembers fuel rest).map fun (ms, rest) => (ofMembers ms, rest)
    | '"' :: rest =>
      (readCharacters rest.length rest).map fun (text, rest) =>
        (.string (String.ofList text), rest)
    | 'n' :: rest => (after? "ull".toList rest).map fun rest => (.null, rest)
    | 't' :: rest =>
      (after? "rue".toList rest).map fun rest => (.bool true, rest)
    | 'f' :: rest =>
      (after? "alse".toList rest).map fun rest => (.bool false, rest)
    | rest => (readNumber? rest).map fun (n, rest) => (.number n, rest)

/-- The items of an array up to its closing bracket, and the rest. -/
def readItems : Nat → List Char → Option (List Json × List Char)
  | 0, _ => none
  | fuel + 1, cs => do
    let (v, rest) ← readValue fuel cs
    match skipBlanks rest with
    | ',' :: rest =>
      let (vs, rest) ← readItems fuel rest
      some (v :: vs, rest)
    | ']' :: rest => some ([v], rest)
    | _ => none

/-- The members of an object up to its closing brace, and the rest. -/
def readMembers : Nat → List Char → Option (List (String × Json) × List Char)
  | 0, _ => none
  | fuel + 1, cs => do
    let rest ← after? ['"'] (skipBlanks cs)
    let (key, rest) ← readCharacters rest.length rest
    let rest ← after? [':'] (skipBlanks rest)
    let (v, rest) ← readValue fuel rest
    let member := (String.ofList key, v)
    match skipBlanks rest with
    | ',' :: rest =>
      let (ms, rest) ← readMembers fuel rest
      some (member :: ms, rest)
    | '\x7d' :: rest => some ([member], rest)
    | _ => none

end

def parse? (text : String) : Option Json := do
  let cs := text.toList
  let (v, rest) ← readValue (2 * cs.length + 1) cs
  if skipBlanks rest = [] then some v else none

end InterfaceManager.Json
