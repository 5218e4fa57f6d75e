import InterfaceManager.Text.Shown

/-!
# Quoted texts

The form in which a text is shown inside a description of a value: between
double quotes, with quotes, backslashes and common control characters
escaped, and every other character without a glyph of its own given by its
code point in hexadecimal.
-/

namespace InterfaceManager.Text

/-- One character as it is written between quotes. -/
def quotedChar (c : Char) : List Char :=
  match c with
  | '\x00' => ['\\', '0']
  | '\t' => ['\\', 't']
  | '\n' => ['\\', 'n']
  | '\r' => ['\\', 'r']
  | '"' => ['\\', '"']
  | '\\' => ['\\', '\\']
  | c =>
    if isShown c then [c]
    else ['\\', 'u', '\x7b'] ++ Nat.toDigits 16 c.toNat ++ ['\x7d']

def quoted (text : String) : String :=
  String.ofList ('"' :: text.toList.flatMap quotedChar ++ ['"'])

/-- The quoted texts of a list, between brackets. -/
def quotedList (texts : List String) : String :=
  "[" ++ ", ".intercalate (texts.map quoted) ++ "]"

/-- A text that may be missing. -/
def quotedOption : Option String → String
  | none => "None"
  | some text => "Some(" ++ quoted text ++ ")"

end InterfaceManager.Text
