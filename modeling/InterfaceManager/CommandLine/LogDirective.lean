import InterfaceManager.Notice
import InterfaceManager.Text.Pattern.Parser

/-!
# Directives of log filters

A directive lets notices up to a level pass.  It may be limited to a target,
by a prefix of its name, to the spans of a name, and to a field, with or
without a wish about its value: `target[span\x7bfield=value\x7d]=level`.

A directive is recognised without the blanks around it.  Its parts, however,
are cut out of the word with the blanks, at the same distances in octets
from the start, so blanks before a directive shift its parts.
-/

namespace InterfaceManager.CommandLine

/-- A limit for notices: nothing, or everything up to a level. -/
abbrev Limit := Option Level

def Limit.admits (limit : Limit) (level : Level) : Bool :=
  limit.any fun bound => level.rank ≤ bound.rank

/-- The limit with a number or with a name, in upper or lower case. -/
def limitOf? (cs : List Char) : Option Limit :=
  match Text.boundedNat (UInt64.size - 1) cs with
  | .ok 0 => some none
  | .ok 1 => some (some .error)
  | .ok 2 => some (some .warning)
  | .ok 3 => some (some .info)
  | .ok 4 => some (some .debug)
  | .ok 5 => some (some .trace)
  | _ =>
    match String.ofList (cs.map Char.toLower) with
    | "off" => some none
    | "error" => some (some .error)
    | "warn" => some (some .warning)
    | "info" => some (some .info)
    | "debug" => some (some .debug)
    | "trace" => some (some .trace)
    | _ => none

/-- What a directive wishes the value of a field to be. -/
inductive Wish where
  | number (n : Nat)
  /-- A text in which the occurrence of a pattern ends where the text
  ends. -/
  | pattern (source : String) (p : Text.Pattern)
  /-- A value that no field of a span has: a flag, a negative number or a
  fraction. -/
  | unmet
  deriving DecidableEq, Repr

namespace Wish

/-- Whether a text is the decimal form of a fraction: digits around a point,
with an exponent or without, or the name of an unusual value. -/
def isFraction (cs : List Char) : Bool :=
  let cs :=
    match cs with
    | '+' :: rest | '-' :: rest => rest
    | cs => cs
  let isName :=
    ["inf", "infinity", "nan"].contains (String.ofList (cs.map Char.toLower))
  let whole := cs.takeWhile Char.isDigit
  let rest := cs.drop whole.length
  let (fraction, rest) :=
    match rest with
    | '.' :: rest =>
      (rest.takeWhile Char.isDigit, rest.dropWhile Char.isDigit)
    | rest => ([], rest)
  isName || (whole ++ fraction != [] && isExponent rest)
where
  /-- Whether a text is an exponent, or nothing. -/
  isExponent : List Char → Bool
    | [] => true
    | c :: cs =>
      let cs :=
        match cs with
        | '+' :: rest | '-' :: rest => rest
        | cs => cs
      (c == 'e' || c == 'E') && cs != [] && cs.all Char.isDigit

def parse? (cs : List Char) : Option Wish :=
  let text := String.ofList cs
  if text = "true" ∨ text = "false" then some unmet
  else
    match Text.boundedNat (UInt64.size - 1) cs with
    | .ok n => some (number n)
    | .error _ =>
      match Text.boundedInt Int64.maxValue.toNatClampNeg cs with
      | .ok _ => some unmet
      | .error _ =>
        if isFraction cs then some unmet
        else (Text.Pattern.parse? cs).map (pattern text)

def isMetBy : Wish → FieldValue → Bool
  | number n, .number m => n == m
  | pattern _ p, .text s => p.endsText s
  | _, _ => false

end Wish

/-- A field that a directive is limited to. -/
structure FieldWish where
  name : String
  value : Option Wish
  deriving DecidableEq, Repr

/-- The field named by a text, with a wish after the first equals sign and
before the second one. -/
def FieldWish.parse? (cs : List Char) : Option FieldWish :=
  match Text.pieces '=' cs with
  | name :: value :: _ =>
    (Wish.parse? value).map fun wish => ⟨String.ofList name, some wish⟩
  | [name] => some ⟨String.ofList name, none⟩
  | [] => none

/-- A directive of a log filter. -/
structure Directive where
  target : Option String
  /-- The name of the spans that the directive is limited to. -/
  span : Option String
  field : Option FieldWish
  limit : Limit
  deriving DecidableEq, Repr

namespace Directive

/-- The number of octets of a text. -/
def width (cs : List Char) : Nat := (String.ofList cs).utf8ByteSize

/-- The text after the first `n` octets, if these are whole characters. -/
def after? (n : Nat) : List Char → Option (List Char)
  | [] => if n = 0 then some [] else none
  | c :: cs =>
    if n = 0 then some (c :: cs)
    else if c.utf8Size ≤ n then after? (n - c.utf8Size) cs
    else none

/-- The first `n` octets of a text, if these are whole characters. -/
def upTo? (n : Nat) (cs : List Char) : Option (List Char) :=
  (after? n cs).map fun rest => cs.take (cs.length - rest.length)

/-- The part of a word of `n` octets after the first `start` ones. -/
def part? (word : List Char) (start n : Nat) : Option String := do
  return String.ofList (← upTo? n (← after? start word))

/-- The limit after the first `start` octets of a word; nothing there stands
for all levels. -/
def limitFrom? (word : List Char) (start : Nat) : Option Limit := do
  let text ← after? start word
  if text = [] then some (some .trace) else limitOf? text

/-- The limit at the end of a directive; `form` follows its first `start`
octets. -/
def closing? (word : List Char) (start : Nat) (form : List Char) :
    Option Limit :=
  match form with
  | [] => some (some .trace)
  | '=' :: _ => limitFrom? word (start + 1)
  | _ => none

/-- The directive with a span or a field; `form` follows the opening
bracket, after the first `start` octets. -/
def bracketed? (word : List Char) (target : Option String) (start : Nat)
    (form : List Char) : Option Directive := do
  let name := form.takeWhile fun c => c ≠ ']' ∧ c ≠ '\x7b'
  let stop := start + width name
  let span ← part? word start (width name)
  match form.drop name.length with
  | ']' :: form =>
    return ⟨target, some span, none, ← closing? word (stop + 1) form⟩
  | '\x7b' :: form =>
    let inside := form.takeWhile (· ≠ '\x7d')
    match form.drop inside.length with
    | '\x7d' :: ']' :: form =>
      let text ← part? word (stop + 1) (width inside)
      if text = "" then none
      else
        let field ← FieldWish.parse? text.toList
        let span := if span = "" then none else some span
        let next := stop + 1 + width inside + 2
        return ⟨target, span, some field, ← closing? word next form⟩
    | _ => none
  | _ => none

/-- Whether a directive may start with a character outside of brackets. -/
def startsWord (c : Char) : Bool :=
  c == '-' || c == ':' || c == '_' || Text.isAlphanumeric c

def parse? (word : List Char) : Option Directive := do
  let form := Text.trimmed word
  match form with
  | [] => none
  | '[' :: rest => bracketed? word none 1 rest
  | c :: _ =>
    if startsWord c then
      let name := form.takeWhile fun d => d ≠ '=' ∧ d ≠ '['
      match form.drop name.length with
      | [] =>
        match limitOf? word with
        | some limit => some ⟨none, none, none, limit⟩
        | none => some ⟨some (String.ofList word), none, none, some .trace⟩
      | d :: rest =>
        let target ← part? word 0 (width name)
        if d = '=' then
          let limit ← limitFrom? word (width name + 1)
          some ⟨some target, none, none, limit⟩
        else bracketed? word (some target) (width name + 1) rest
    else none

def isDynamic (d : Directive) : Bool := d.span.isSome || d.field.isSome

/-- Whether a directive wishes something about the value of a field. -/
def hasWish (d : Directive) : Bool :=
  d.field.any fun field => field.value.isSome

/-- Whether a directive can be decided by a notice alone. -/
def isStatic (d : Directive) : Bool := d.span.isNone && !d.hasWish

/-- Whether a directive takes the place of another one. -/
def replaces (d other : Directive) : Bool :=
  d.target == other.target && d.span == other.span && d.field == other.field

def covers (d : Directive) (target : String) : Bool :=
  d.target.all fun t => t.toList.isPrefixOf target.toList

end Directive

end InterfaceManager.CommandLine
