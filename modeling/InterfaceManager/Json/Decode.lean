import InterfaceManager.Json.Value
import InterfaceManager.Json.Writer
import InterfaceManager.Text.Quoted
import InterfaceManager.Text.Utf8

/-!
# Typed readings of JSON values

Readings of a JSON value as a text, a flag, a bounded natural or a record
of fields, with the reasons why a value does not fit.  A record is given as
an object with named members, where members of other names are ignored, or
as an array with its fields in order.
-/

namespace InterfaceManager.Json

/-- Why a JSON value does not fit. -/
inductive Misfit where
  | wrongType (found : Json) (expected : String)
  | wrongValue (found : Json) (expected : String)
  | missingField (name : String)
  | unknownVariant (found : String) (known : List String)
  | wrongLength (length : Nat) (expected : String)
  /-- The value was read and then refused. -/
  | refused (message : String)
  /-- The value was read, but what is computed from it leaves the range of
  its type.  This is not reported to the sender: the reading stops. -/
  | overflow (message : String)

/-- The kind of a value, with the value itself if it has no parts. -/
def describe : Json → String
  | .null => "null"
  | .bool b => s!"boolean `{b}`"
  | .number (.fractional x) =>
    s!"floating point `{(Number.fractional x).render}`"
  | .number n => s!"integer `{n.render}`"
  | .string s => s!"string {Text.quoted s}"
  | .array _ => "sequence"
  | .object _ => "map"

/-- The names to choose from, for a message. -/
def choiceOf (names : List String) : String :=
  match names.map fun name => s!"`{name}`" with
  | [] => "there are no variants"
  | [name] => s!"expected {name}"
  | [name, other] => s!"expected {name} or {other}"
  | names => "expected one of " ++ ", ".intercalate names

def Misfit.message : Misfit → String
  | wrongType found expected =>
    s!"invalid type: {found.describe}, expected {expected}"
  | wrongValue found expected =>
    s!"invalid value: {found.describe}, expected {expected}"
  | missingField name => s!"missing field `{name}`"
  | unknownVariant found known =>
    s!"unknown variant `{found}`, {choiceOf known}"
  | wrongLength length expected =>
    s!"invalid length {length}, expected {expected}"
  | refused message => message
  | overflow message => message

abbrev Reading (α : Type) := Json → Except Misfit α

def asText : Reading String
  | .string s => .ok s
  | v => .error (.wrongType v "a string")

/-- A path of a file, given as a text. -/
def asPath : Reading Text.Octets
  | .string s => .ok (Text.octets s)
  | v => .error (.wrongType v "path string")

def asFlag : Reading Bool
  | .bool b => .ok b
  | v => .error (.wrongType v "a boolean")

/-- A natural below `bound`, which is described as `expected`. -/
def asNatBelow (bound : Nat) (expected : String) : Reading Nat
  | .number (.natural n) =>
    if n.toNat < bound then .ok n.toNat
    else .error (.wrongValue (.number (.natural n)) expected)
  | .number (.negative n) =>
    .error (.wrongValue (.number (.negative n)) expected)
  | v => .error (.wrongType v expected)

def asUInt32 : Reading UInt32 := fun v =>
  (asNatBelow UInt32.size "u32" v).map Nat.toUInt32

/-- An integer from `low` up to `high`, which is described as
`expected`. -/
def asIntWithin (low high : Int) (expected : String) : Reading Int
  | .number (.natural n) =>
    if (n.toNat : Int) ≤ high then .ok n.toNat
    else .error (.wrongValue (.number (.natural n)) expected)
  | .number (.negative n) =>
    if low ≤ n then .ok n
    else .error (.wrongValue (.number (.negative n)) expected)
  | v => .error (.wrongType v expected)

def asList (read : Reading α) : Reading (List α)
  | .array items => items.mapM read
  | v => .error (.wrongType v "a sequence")

/-- The member called `key` of an object, unless it is absent or null. -/
def member? (key : String) : Json → Option Json
  | .object members =>
    match lookup? key members with
    | some .null => none
    | found => found
  | _ => none

/-- The member called `key`, which has to be present. -/
def requiredMember (key : String) (read : Reading α) : Reading α := fun v =>
  match v.member? key with
  | some w => read w
  | none => .error (.missingField key)

/-- The member called `key`, if it is present. -/
def optionalMember (key : String) (read : Reading α) :
    Reading (Option α) := fun v =>
  match v.member? key with
  | some w => some <$> read w
  | none => .ok none

/-- The member called `key`, or `preset` if it is not present. -/
def memberOr (key : String) (preset : α) (read : Reading α) : Reading α :=
  fun v => (optionalMember key read v).map fun found => found.getD preset

/-- Where the fields of a record come from. -/
inductive Fields where
  | named (members : List (String × Json))
  | listed (items : List Json)

/-- How a record of given fields describes its own length. -/
structure RecordShape where
  /-- What the record is. -/
  title : String
  /-- The names of the fields, in order. -/
  names : List String

/-- The value of the field called `name`, which is required. -/
def Fields.required (shape : RecordShape) (name : String) (read : Reading α) :
    Fields → Except Misfit α
  | .named members =>
    match lookup? name members with
    | some v => read v
    | none => .error (.missingField name)
  | .listed items =>
    let position := shape.names.idxOf name
    match items[position]? with
    | some v => read v
    | none =>
      .error (.wrongLength position
        s!"{shape.title} with {shape.names.length} elements")

/-- The value of the field called `name`, or `preset` if it is absent. -/
def Fields.optional (shape : RecordShape) (name : String) (preset : α)
    (read : Reading α) : Fields → Except Misfit α
  | .named members =>
    match lookup? name members with
    | some v => read v
    | none => .ok preset
  | .listed items =>
    match items[shape.names.idxOf name]? with
    | some v => read v
    | none => .ok preset

/-- Checks the members of an object in their order, each by the check for
its name, before any field is missed. -/
def Fields.check (checks : List (String × (Json → Except Misfit Unit))) :
    Fields → Except Misfit Unit
  | .named members =>
    members.forM fun (key, v) =>
      match checks.find? (fun check => check.1 == key) with
      | some (_, check) => check v
      | none => .ok ()
  | .listed _ => .ok ()

/-- The check that a value has a reading. -/
def fits (read : Reading α) (v : Json) : Except Misfit Unit :=
  (read v).map fun _ => ()

/-- The number of items beyond the fields of a record. -/
def Fields.surplus (shape : RecordShape) : Fields → Nat
  | .named _ => 0
  | .listed items => items.length - shape.names.length

def recordFields (shape : RecordShape) : Json → Except Misfit Fields
  | .object members => .ok (.named members)
  | .array items => .ok (.listed items)
  | v => .error (.wrongType v shape.title)

/-- Refuses items beyond the fields of a record. -/
def Fields.refuseSurplus (shape : RecordShape) (fields : Fields) :
    Except Misfit Unit :=
  if fields.surplus shape = 0 then .ok ()
  else
    .error (.wrongLength (shape.names.length + fields.surplus shape)
      "fewer elements in array")

end InterfaceManager.Json
