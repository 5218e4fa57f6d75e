import InterfaceManager.CommandLine.LogDirective

/-!
# Log filters

A filter is a list of directives, separated by commas.  A notice passes
alone or by the span in which it was taken: alone if the most specific of
the directives that it falls under admits its level, and by its span if any
directive about that span does.  A span is seen only by a filter that admits
the level of spans somewhere, or that wishes something about the value of a
field.
-/

namespace InterfaceManager.CommandLine

abbrev LogFilter := List Directive

namespace LogFilter

/-- The filter that lets everything up to a level pass. -/
def upTo (level : Level) : LogFilter := [⟨none, none, none, some level⟩]

def parse? (text : String) : Option LogFilter :=
  ((Text.pieces ',' text.toList).filter (· ≠ [])).mapM Directive.parse?

/-- The directives that no later one takes the place of. -/
def effective : LogFilter → LogFilter
  | [] => []
  | d :: ds =>
    if ds.any fun later => later.replaces d then effective ds
    else d :: effective ds

/-- The name of the field that holds the sentence of a notice. -/
def sentenceField : String := "message"

def fieldNames (n : Notice) : List String :=
  sentenceField :: n.fields.map Prod.fst

/-- Whether a notice alone falls under a directive. -/
def concerns (d : Directive) (n : Notice) : Bool :=
  d.isStatic && d.covers n.target
    && d.field.all fun field => (fieldNames n).contains field.name

/-- How specific a directive is: how much it says about the target, and
which field it names. -/
def weight (d : Directive) : Nat × Option String :=
  (d.target.elim 0 fun target => target.utf8ByteSize + 1,
    d.field.map FieldWish.name)

/-- Whether one weight is less than another one: the targets decide, then
the fields. -/
def isLighter (a b : Nat × Option String) : Bool :=
  a.1 < b.1 || (a.1 == b.1 &&
    match a.2, b.2 with
    | _, none => false
    | none, some _ => true
    | some x, some y => x < y)

/-- The most specific directive that a notice falls under. -/
def decisive? (filter : LogFilter) (n : Notice) : Option Directive :=
  ((effective filter).filter fun d => concerns d n).foldl
    (fun best d =>
      match best with
      | some b => if isLighter (weight b) (weight d) then some d else some b
      | none => some d) none

def admitsAlone (filter : LogFilter) (n : Notice) : Bool :=
  (decisive? filter n).any fun d => Limit.admits d.limit n.level

/-! ## Notices in spans -/

def spanName : String := "netdev"

def spanTarget : String := "netdev_device::device"

def spanLevel : Level := .info

def seesSpans (filter : LogFilter) : Bool :=
  List.any filter fun d => d.hasWish || Limit.admits d.limit spanLevel

def meets (s : Span) (d : Directive) : Bool :=
  d.isDynamic && d.covers spanTarget && d.span.all (· == spanName)
    && d.field.all fun field =>
      match s.fields.lookup field.name with
      | some value => field.value.all fun wish => wish.isMetBy value
      | none => false

def admitsIn (filter : LogFilter) (s : Span) (level : Level) : Bool :=
  filter.seesSpans &&
    (effective filter).any fun d => meets s d && Limit.admits d.limit level

def admits (filter : LogFilter) (e : Entry) : Bool :=
  filter.admitsAlone e.notice
    || e.span.any fun s => filter.admitsIn s e.notice.level

/-- The filter for a run: the one that was asked for, if it can be read, or
else the one that the verbosity asks for. -/
def choose (asked : Option String) (verbose : Bool) : LogFilter :=
  (asked.bind parse?).getD (upTo (if verbose then .debug else .info))

end LogFilter

end InterfaceManager.CommandLine
