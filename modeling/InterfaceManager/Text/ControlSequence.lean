import InterfaceManager.Text.Utf8

/-!
# Control sequences of terminals

Some characters tell a terminal what to do instead of being shown: control
characters, and the sequences that an escape character starts.  They are
left out of a text here; blanks and line ends stay.

A line end inside of a sequence is shown at once, and what can be shown
after it is shown too, up to the next control character, where the sequence
goes on.
-/

namespace InterfaceManager.Text

inductive ControlSequence where
  /-- None. -/
  | outside
  /-- The escape character has been read. -/
  | escape
  /-- Intermediate characters after the escape character have been read. -/
  | intermediate
  /-- A sequence of parameters before a final character. -/
  | parameters
  /-- A text that ends with the bell character. -/
  | command
  /-- A text that ends with the terminator of strings. -/
  | string
  deriving DecidableEq, Repr

namespace ControlSequence

def escapeChar : Char := '\x1b'

/-- The octet that ends a string, in whichever character it stands. -/
def stringTerminator : UInt8 := 0x9c

/-- Whether a character is a blank or a line end. -/
def isSpacing (c : Char) : Bool :=
  c == '\t' || c == '\n' || c == '\x0c' || c == '\r' || c == ' '

def isShownOutside (c : Char) : Bool :=
  isSpacing c || (0x20 ≤ c.toNat && c.toNat != 0x7f)

/-- Whether a character lies between two others. -/
def within (first last c : Char) : Bool := first ≤ c && c ≤ last

/-- Whether a character is shown while a sequence is read. -/
def shows : ControlSequence → Char → Bool
  | outside, c => isShownOutside c
  | escape, c | intermediate, c | parameters, c => isSpacing c && c != ' '
  | command, _ | string, _ => false

/-- The sequence that is being read after one more character. -/
def next (s : ControlSequence) (c : Char) : ControlSequence :=
  if c = escapeChar then escape
  else if c = '\x18' ∨ c = '\x1a' then outside
  else
    match s with
    | outside => outside
    | escape =>
      if c = '[' then parameters
      else if c = ']' then command
      else if c = 'P' ∨ c = 'X' ∨ c = '^' ∨ c = '_' then string
      else if within ' ' '/' c then intermediate
      else if within '0' '~' c then outside
      else escape
    | intermediate => if within '0' '~' c then outside else intermediate
    | parameters => if within '@' '~' c then outside else parameters
    | command => if c = '\x07' then outside else command
    | string =>
      if stringTerminator ∈ octets (String.singleton c) then outside
      else string

end ControlSequence

/-- The characters of a text that are shown, from within a sequence.  While
`showing`, characters are shown that would be shown outside of it. -/
def shownFrom (showing : Bool) (s : ControlSequence) : List Char → List Char
  | [] => []
  | c :: cs =>
    if showing ∧ ControlSequence.isShownOutside c then
      c :: shownFrom true (if c.toNat < 0x80 then s else .outside) cs
    else if s.shows c then c :: shownFrom true (s.next c) cs
    else shownFrom false (s.next c) cs

def withoutControls (text : String) : String :=
  String.ofList (shownFrom false .outside text.toList)

end InterfaceManager.Text
