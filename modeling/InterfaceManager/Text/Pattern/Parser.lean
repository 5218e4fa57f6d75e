import InterfaceManager.Text.Alphanumeric
import InterfaceManager.Text.Blank
import InterfaceManager.Text.Digits
import InterfaceManager.Text.Pattern.Basic
import InterfaceManager.Text.Pieces

/-!
# Reading of patterns

The written form of patterns: alternatives between bars, repetitions with a
question mark for as few rounds as possible, groups with flags, and classes
of characters in brackets.  Classes of Unicode properties, letters in either
case and the boundaries of words are known for ASCII only, so they can be
read only where the flag for Unicode is off; there, in turn, a set has to
keep to ASCII.
-/

namespace InterfaceManager.Text

/-- How a part of a pattern is read. -/
structure PatternFlags where
  /-- Letters stand for both cases. -/
  anyCase : Bool
  /-- Anchors hold at every line. -/
  multiLine : Bool
  /-- The dot stands for line ends too. -/
  dotAll : Bool
  /-- Repetitions prefer few rounds. -/
  swapGreed : Bool
  unicode : Bool
  /-- Blanks and comments are left out. -/
  verbose : Bool
  deriving DecidableEq, Repr

namespace PatternFlags

def preset : PatternFlags := ⟨false, false, false, false, true, false⟩

def set? (flags : PatternFlags) (on : Bool) : Char → Option PatternFlags
  | 'i' => some { flags with anyCase := on }
  | 'm' => some { flags with multiLine := on }
  | 's' => some { flags with dotAll := on }
  | 'U' => some { flags with swapGreed := on }
  | 'u' => some { flags with unicode := on }
  | 'x' => some { flags with verbose := on }
  | _ => none

/-- The flags that letters set, and those after a minus sign clear; each
letter stands once, and something follows the minus sign. -/
def changed? (flags : PatternFlags) (letters : List Char) :
    Option PatternFlags :=
  let (on, off) := (cutFirst? '-' letters).getD (letters, [])
  if (on ++ off).eraseDups ≠ on ++ off then none
  else if '-' ∈ letters ∧ off = [] then none
  else do
    let flags ← on.foldlM (fun f c => f.set? true c) flags
    off.foldlM (fun f c => f.set? false c) flags

end PatternFlags

namespace Pattern

/-- The rest of a text after blanks and comments, where those are left
out. -/
def skipBlanks (flags : PatternFlags) (cs : List Char) : List Char :=
  if flags.verbose then skip false cs else cs
where
  /-- Leaves out blanks and comments; `inComment` up to the line end. -/
  skip : Bool → List Char → List Char
    | _, [] => []
    | true, c :: cs => skip (c != '\n') cs
    | false, c :: cs =>
      if c = '#' then skip true cs
      else if isBlank c then skip false cs
      else c :: cs

def eitherCase (c : Char) : CharSet :=
  .union (.single c) (.union (.single c.toLower) (.single c.toUpper))

/-- The set of the characters in any of several ranges, with letters in
either case where the flags ask for that. -/
def rangesSet? (flags : PatternFlags) (ranges : List (Char × Char)) :
    Option CharSet :=
  let exact := CharSet.ofRanges ranges
  if ¬ flags.anyCase then some exact
  else if flags.unicode then none
  else
    let letters := ("abcdefghijklmnopqrstuvwxyz".toList).filter fun c =>
      exact.contains c || exact.contains c.toUpper
    some (letters.foldr (fun c s => .union (eitherCase c) s) exact)

def literal? (flags : PatternFlags) (c : Char) : Option Pattern :=
  (rangesSet? flags [(c, c)]).map set

/-- The complement of a set, where it may leave ASCII. -/
def negated? (flags : PatternFlags) (negated : Bool) (s : CharSet) :
    Option CharSet :=
  if negated ∧ ¬ flags.unicode then none else some (.complementIf negated s)

/-- The ranges of the named classes of ASCII characters. -/
def classNamed? : String → Option (List (Char × Char))
  | "alnum" => some [('0', '9'), ('A', 'Z'), ('a', 'z')]
  | "alpha" => some [('A', 'Z'), ('a', 'z')]
  | "ascii" => some [('\x00', '\x7f')]
  | "blank" => some [('\t', '\t'), (' ', ' ')]
  | "cntrl" => some [('\x00', '\x1f'), ('\x7f', '\x7f')]
  | "digit" => some [('0', '9')]
  | "graph" => some [('!', '~')]
  | "lower" => some [('a', 'z')]
  | "print" => some [(' ', '~')]
  | "punct" => some [('!', '/'), (':', '@'), ('[', '`'), ('\x7b', '~')]
  | "space" => some [('\t', '\r'), (' ', ' ')]
  | "upper" => some [('A', 'Z')]
  | "word" => some [('0', '9'), ('A', 'Z'), ('_', '_'), ('a', 'z')]
  | "xdigit" => some [('0', '9'), ('A', 'F'), ('a', 'f')]
  | _ => none

/-- The class that a letter after a backslash names, and whether it stands
for the other characters. -/
def letterClass? : Char → Option (String × Bool)
  | 'd' => some ("digit", false)
  | 'D' => some ("digit", true)
  | 's' => some ("space", false)
  | 'S' => some ("space", true)
  | 'w' => some ("word", false)
  | 'W' => some ("word", true)
  | _ => none

/-- What a backslash starts. -/
inductive Escape where
  | char (c : Char)
  | set (s : CharSet)
  | check (a : Assertion)

/-- The character with a number of hexadecimal digits at the start of a
text. -/
def readCode? (digits : Nat) (cs : List Char) : Option (Escape × List Char) :=
  if cs.length < digits then none
  else do
    let code ← natOfDigits? 16 (cs.take digits)
    if Nat.isValidChar code then
      some (.char (.ofNat code), cs.drop digits)
    else none

/-- A condition that depends on what the letters of a word are. -/
def wordCheck? (flags : PatternFlags) (a : Assertion) (cs : List Char) :
    Option (Escape × List Char) :=
  if flags.unicode then none else some (.check a, cs)

/-- What the text after a backslash stands for. -/
def readEscape? (flags : PatternFlags) :
    List Char → Option (Escape × List Char)
  | [] => none
  | c :: cs =>
    match letterClass? c with
    | some (name, negated) =>
      if flags.unicode ∨ negated then none
      else do
        let ranges ← classNamed? name
        return (.set (← rangesSet? flags ranges), cs)
    | none =>
      match c with
      | 'x' => do
        let (escape, rest) ← readCode? 2 cs
        match escape with
        | .char d =>
          if flags.unicode ∨ d.toNat < 0x80 then some (escape, rest) else none
        | _ => none
      | 'u' => readCode? 4 cs
      | 'U' => readCode? 8 cs
      | 'a' => some (.char '\x07', cs)
      | 'f' => some (.char '\x0c', cs)
      | 't' => some (.char '\t', cs)
      | 'n' => some (.char '\n', cs)
      | 'r' => some (.char '\r', cs)
      | 'v' => some (.char '\x0b', cs)
      | 'A' => some (.check .textStart, cs)
      | 'z' => some (.check .textEnd, cs)
      | 'b' => wordCheck? flags .wordBoundary cs
      | 'B' => wordCheck? flags .noWordBoundary cs
      | '<' => wordCheck? flags .wordStart cs
      | '>' => wordCheck? flags .wordEnd cs
      | c =>
        if c.toNat < 0x80 ∧ ¬ c.isAlphanum then some (.char c, cs) else none

/-! ## Classes of characters -/

/-- The named class at the start of a text, after its opening bracket. -/
def namedClass? (flags : PatternFlags) :
    List Char → Option (CharSet × List Char)
  | ':' :: cs => do
    let (negated, cs) := match cs with
      | '^' :: cs => (true, cs)
      | cs => (false, cs)
    let (name, rest) ← cutFirst? ':' cs
    match rest with
    | ']' :: rest =>
      let ranges ← classNamed? (String.ofList name)
      let s ← rangesSet? flags ranges
      return (← negated? flags negated s, rest)
    | _ => none
  | _ => none

/-- Whether a named class stands at the start of a text, whatever its name
is in the end. -/
def startsNamedClass (cs : List Char) : Bool :=
  match cs with
  | ':' :: cs =>
    let cs := if cs.head? = some '^' then cs.drop 1 else cs
    match cutFirst? ':' cs with
    | some (name, ']' :: _) => (classNamed? (String.ofList name)).isSome
    | _ => false
  | _ => false

/-- One character, or a set for which a backslash stands, within a class. -/
def classItem? (flags : PatternFlags) :
    List Char → Option (Escape × List Char)
  | [] => none
  | '\\' :: cs => readEscape? flags cs
  | c :: cs => some (.char c, cs)

/-- Whether a hyphen before a text stands for itself. -/
def isPlainHyphen (flags : PatternFlags) (cs : List Char) : Bool :=
  match skipBlanks flags cs with
  | ']' :: _ | '-' :: _ => true
  | _ => false

/-- Whether a character may stand in a class. -/
def isInScope (flags : PatternFlags) (c : Char) : Bool :=
  flags.unicode || c.toNat < 0x80

/-- A character, a range or a set within a class. -/
def classRange? (flags : PatternFlags) (cs : List Char) :
    Option (CharSet × List Char) := do
  let (first, rest) ← classItem? flags cs
  let rest := skipBlanks flags rest
  match first, rest with
  | .check _, _ | _, [] => none
  | first, '-' :: more =>
    if isPlainHyphen flags more then single first rest
    else
      let (last, rest) ← classItem? flags (skipBlanks flags more)
      match first, last with
      | .char a, .char b =>
        if a ≤ b ∧ isInScope flags b then
          return (← rangesSet? flags [(a, b)], rest)
        else none
      | _, _ => none
  | first, rest => single first rest
where
  /-- An item that is no range. -/
  single (item : Escape) (rest : List Char) : Option (CharSet × List Char) :=
    match item with
    | .char c =>
      if isInScope flags c then
        (rangesSet? flags [(c, c)]).map fun s => (s, rest)
      else none
    | .set s => some (s, rest)
    | .check _ => none

abbrev SetOperation := CharSet → CharSet → CharSet

/-- The operation that two adjacent characters of a class stand for. -/
def setOperation? : Char → Option SetOperation
  | '&' => some .inter
  | '-' => some .diff
  | '~' => some .symmDiff
  | _ => none

/-- The operation written at the start of a text. -/
def readOperation? : List Char → Option (SetOperation × List Char)
  | c :: d :: cs =>
    if c = d then (setOperation? c).map fun operation => (operation, cs)
    else none
  | _ => none

/-- The hyphens at the start of a class, which stand for themselves, and a
closing bracket that would leave it empty. -/
def classStart? (flags : PatternFlags) (cs : List Char) :
    Option (CharSet × List Char) := do
  let cs := skipBlanks flags cs
  let hyphens := cs.takeWhile (· == '-')
  let rest := skipBlanks flags (cs.drop hyphens.length)
  match hyphens, rest with
  | [], ']' :: rest => return (← rangesSet? flags [(']', ']')], rest)
  | [], rest => return (.none, rest)
  | _, rest => return (← rangesSet? flags [('-', '-')], rest)

/-- The class at the start of a text, after its opening bracket. -/
def readClass? (flags : PatternFlags) :
    Nat → List Char → Option (CharSet × List Char)
  | 0, _ => none
  | fuel + 1, cs => do
    let (negated, cs) :=
      match skipBlanks flags cs with
      | '^' :: cs => (true, cs)
      | cs => (false, cs)
    let (start, rest) ← classStart? flags cs
    let (s, rest) ← items fuel id start rest
    return (← negated? flags negated s, rest)
where
  /-- The items up to the closing bracket; `left` joins what stands before
  the last operation with the set read since then. -/
  items (fuel : Nat) (left : CharSet → CharSet) (read : CharSet)
      (cs : List Char) : Option (CharSet × List Char) :=
    match fuel with
    | 0 => none
    | fuel + 1 =>
      match skipBlanks flags cs with
      | [] => none
      | ']' :: rest => some (left read, rest)
      | '[' :: rest =>
        if startsNamedClass rest then do
          let (s, rest) ← namedClass? flags rest
          items fuel left (.union read s) rest
        else do
          let (s, rest) ← readClass? flags fuel rest
          items fuel left (.union read s) rest
      | cs =>
        match readOperation? cs with
        | some (operation, rest) =>
          items fuel (operation (left read)) .none rest
        | none => do
          let (s, rest) ← classRange? flags cs
          items fuel left (.union read s) rest

/-! ## Groups and alternatives -/

/-- What an opening parenthesis starts. -/
inductive Opening where
  /-- A group with its flags. -/
  | group (flags : PatternFlags)
  /-- A change of flags for the rest of the group around. -/
  | change (flags : PatternFlags)

/-- Whether a text can be the name of a group. -/
def isGroupName : List Char → Bool
  | [] => false
  | c :: cs =>
    (c == '_' || (isAlphanumeric c && !c.isDigit))
      && cs.all fun d =>
        d == '_' || d == '.' || d == '[' || d == ']' || isAlphanumeric d

/-- The name of a group up to its closing bracket. -/
def namedGroup? (flags : PatternFlags) (cs : List Char) :
    Option (Opening × List Char) := do
  let (name, rest) ← cutFirst? '>' cs
  if isGroupName name then some (.group flags, rest) else none

/-- What a text after an opening parenthesis starts. -/
def readOpening? (flags : PatternFlags) :
    List Char → Option (Opening × List Char)
  | '?' :: 'P' :: '<' :: cs => namedGroup? flags cs
  | '?' :: '<' :: cs => namedGroup? flags cs
  | '?' :: cs =>
    let letters := cs.takeWhile fun c => c ≠ ':' ∧ c ≠ ')'
    match cs.drop letters.length with
    | ':' :: rest => (flags.changed? letters).map fun f => (.group f, rest)
    | ')' :: rest =>
      if letters = [] then none
      else (flags.changed? letters).map fun f => (.change f, rest)
    | _ => none
  | cs => some (.group flags, cs)

/-- The repetition that a character asks for. -/
def repetition? (c : Char) (greedy : Bool) (p : Pattern) : Option Pattern :=
  match c with
  | '*' => some (many greedy p)
  | '+' => some (repeated greedy p)
  | '?' => some (optional greedy p)
  | _ => none

/-- One part of an alternative; a change of flags is an empty part. -/
abbrev Part := Option Pattern

/-- Parts one after another, given from last to first. -/
def sequence (parts : List Part) : Pattern :=
  match parts.reverse.filterMap id with
  | [] => empty
  | p :: ps => ps.foldl seq p

/-- Alternatives in their order, given from last to first. -/
def choice : List Pattern → Pattern
  | [] => empty
  | p :: ps => ps.foldl (fun later earlier => either earlier later) p

def dot? (flags : PatternFlags) : Option CharSet :=
  if ¬ flags.unicode then none
  else some (if flags.dotAll then .all else .compl (.single '\n'))

/-- The single part at the start of a text. -/
def readPart? (flags : PatternFlags) :
    List Char → Option (Pattern × List Char)
  | [] => none
  | '\\' :: cs => do
    let (escape, rest) ← readEscape? flags cs
    match escape with
    | .char c => return (← literal? flags c, rest)
    | .set s => return (set s, rest)
    | .check a => return (check a, rest)
  | '.' :: cs => do return (set (← dot? flags), cs)
  | '^' :: cs =>
    some (check (if flags.multiLine then .lineStart else .textStart), cs)
  | '$' :: cs =>
    some (check (if flags.multiLine then .lineEnd else .textEnd), cs)
  | '\x7b' :: _ => none
  | '[' :: cs => do
    let (s, rest) ← readClass? flags (cs.length + 1) cs
    return (set s, rest)
  | c :: cs => do return (← literal? flags c, cs)

/-- The alternatives up to the end of a group or of the text, after the
alternatives `finished` and the parts `parts`. -/
def readChoice? :
    Nat → PatternFlags → List Pattern → List Part → List Char →
      Option (Pattern × List Char)
  | 0, _, _, _, _ => none
  | fuel + 1, flags, finished, parts, cs =>
    match skipBlanks flags cs with
    | [] => some (choice (sequence parts :: finished), [])
    | ')' :: rest => some (choice (sequence parts :: finished), ')' :: rest)
    | '|' :: rest =>
      readChoice? fuel flags (sequence parts :: finished) [] rest
    | '(' :: rest => do
      let (opening, rest) ← readOpening? flags rest
      match opening with
      | .change flags => readChoice? fuel flags finished (none :: parts) rest
      | .group inner =>
        let (p, rest) ← readChoice? fuel inner [] [] rest
        match rest with
        | ')' :: rest => readChoice? fuel flags finished (some p :: parts) rest
        | _ => none
    | c :: rest =>
      if c = '*' ∨ c = '+' ∨ c = '?' then
        match parts with
        | some p :: before => do
          let (few, rest) :=
            match rest with
            | '?' :: rest => (true, rest)
            | rest => (false, rest)
          let p ← repetition? c (few == flags.swapGreed) p
          readChoice? fuel flags finished (some p :: before) rest
        | _ => none
      else do
        let (p, rest) ← readPart? flags (c :: rest)
        readChoice? fuel flags finished (some p :: parts) rest

def parse? (text : List Char) : Option Pattern := do
  let (p, rest) ← readChoice? (text.length + 1) .preset [] [] text
  if rest = [] then some p else none

end Pattern

end InterfaceManager.Text
