import InterfaceManager.Json.Value
import InterfaceManager.Notice

/-!
# JSON forms of notices

A notice is an object with its level, its sentence, its fields, and the
fields of the span that it was taken in.
-/

namespace InterfaceManager

def Level.label : Level → String
  | error => "ERROR"
  | warning => "WARN"
  | info => "INFO"
  | debug => "DEBUG"
  | trace => "TRACE"

/-- The JSON form of a value attached to a notice. -/
def FieldValue.toJson : FieldValue → Json
  | text s => .string s
  | number n => .nat n
  | flag b => .bool b

def fieldsToJson (fields : List (String × FieldValue)) : Json :=
  .object (fields.map fun (key, value) => (key, value.toJson))

def Entry.toJson (e : Entry) : Json :=
  .object <|
    [("level", .string e.notice.level.label),
      ("message", .string e.notice.message),
      ("fields", fieldsToJson e.notice.fields)]
      ++ (e.span.map fun span => ("span", fieldsToJson span.fields)).toList

/-- The JSON form of the notices taken so far. -/
def Journal.toJson (j : Journal) : Json :=
  .array (j.entries.toList.map Entry.toJson)

end InterfaceManager
