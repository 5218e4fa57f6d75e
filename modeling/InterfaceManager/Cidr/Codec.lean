import InterfaceManager.Cidr
import InterfaceManager.Json.Decode

/-!
# JSON forms of addresses with a prefix length

The JSON form is the text.
-/

namespace InterfaceManager.Cidr

def toJson (c : Cidr) : Json := .string (toString c)

/-- The value with a given JSON form. -/
def ofJson : Json.Reading Cidr := fun v => do
  match parse (← Json.asText v) with
  | .ok c => .ok c
  | .error e => .error (.refused e.message)

end InterfaceManager.Cidr
