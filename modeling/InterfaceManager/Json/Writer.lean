import InterfaceManager.Json.Value
import InterfaceManager.Text.Shortest

/-!
# JSON texts of values

Two layouts: on one line without blanks, and spread over lines with an
indentation of two blanks a level.
-/

namespace InterfaceManager.Json

/-- Numbers are written out in positions up to the fifteenth power of ten
and down to the fifth negative one. -/
def numberLayout : Text.DecimalLayout := ⟨-5, 15, 1⟩

def Number.render : Number → String
  | .natural n => toString n.toNat
  | .negative n => toString n
  | .fractional x => Text.shortestFloat numberLayout x

private def hexDigit (n : Nat) : Char := Nat.digitChar (n % 16)

/-- One character as it is written between quotes. -/
def escapedChar (c : Char) : List Char :=
  match c with
  | '"' => ['\\', '"']
  | '\\' => ['\\', '\\']
  | '\x08' => ['\\', 'b']
  | '\x0c' => ['\\', 'f']
  | '\n' => ['\\', 'n']
  | '\r' => ['\\', 'r']
  | '\t' => ['\\', 't']
  | c =>
    if c.toNat < 0x20 then
      ['\\', 'u', '0', '0', hexDigit (c.toNat / 16), hexDigit c.toNat]
    else [c]

/-- A text as a JSON string. -/
def renderString (s : String) : String :=
  String.ofList ('"' :: s.toList.flatMap escapedChar ++ ['"'])

mutual

/-- The text of a value on one line. -/
def render : Json → String
  | .null => "null"
  | .bool b => toString b
  | .number n => n.render
  | .string s => renderString s
  | .array items => "[" ++ renderItems items ++ "]"
  | .object members => "\x7b" ++ renderMembers members ++ "\x7d"

/-- The texts of the items of an array, separated by commas. -/
def renderItems : List Json → String
  | [] => ""
  | [v] => render v
  | v :: w :: rest => render v ++ "," ++ renderItems (w :: rest)

/-- The texts of the members of an object, separated by commas. -/
def renderMembers : List (String × Json) → String
  | [] => ""
  | [(k, v)] => renderString k ++ ":" ++ render v
  | (k, v) :: m :: rest =>
    renderString k ++ ":" ++ render v ++ "," ++ renderMembers (m :: rest)

end

/-- The start of a line `depth` levels deep. -/
def newline (depth : Nat) : String :=
  String.ofList ('\n' :: List.replicate (2 * depth) ' ')

mutual

/-- The text of a value spread over lines, its own lines `depth` levels
deep. -/
def pretty (depth : Nat) : Json → String
  | .array [] => "[]"
  | .array items =>
    "[" ++ prettyItems (depth + 1) items ++ newline depth ++ "]"
  | .object [] => "\x7b\x7d"
  | .object members =>
    "\x7b" ++ prettyMembers (depth + 1) members ++ newline depth ++ "\x7d"
  | .null => "null"
  | .bool b => toString b
  | .number n => n.render
  | .string s => renderString s

/-- The items of an array, each on lines of its own. -/
def prettyItems (depth : Nat) : List Json → String
  | [] => ""
  | [v] => newline depth ++ pretty depth v
  | v :: w :: rest =>
    newline depth ++ pretty depth v ++ "," ++ prettyItems depth (w :: rest)

/-- The members of an object, each on lines of its own. -/
def prettyMembers (depth : Nat) : List (String × Json) → String
  | [] => ""
  | [(k, v)] => newline depth ++ renderString k ++ ": " ++ pretty depth v
  | (k, v) :: m :: rest =>
    newline depth ++ renderString k ++ ": " ++ pretty depth v ++ ","
      ++ prettyMembers depth (m :: rest)

end

end InterfaceManager.Json
