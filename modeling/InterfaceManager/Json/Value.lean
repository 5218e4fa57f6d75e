/-!
# JSON values

Values with three kinds of numbers: naturals and negative integers of
64 bits, and binary64 numbers for every literal with a fraction or an
exponent.
-/

namespace InterfaceManager

inductive Json.Number where
  | natural (n : UInt64)
  | negative (n : Int)
  | fractional (x : Float)
  deriving Inhabited

/-- A JSON value.  The members of an object keep their order. -/
inductive Json where
  | null
  | bool (b : Bool)
  | number (n : Json.Number)
  | string (s : String)
  | array (items : List Json)
  | object (members : List (String × Json))
  deriving Inhabited

namespace Json

/-- A natural of at most 64 bits as a JSON number. -/
def nat (n : Nat) : Json := .number (.natural n.toUInt64)

/-- The value of the first member called `key`. -/
def lookup? (key : String) (members : List (String × Json)) : Option Json :=
  (members.find? (fun member => member.1 == key)).map Prod.snd

/-- The members of `members` with `key` set to `value`, kept in increasing
order of their keys. -/
def insertMember (key : String) (value : Json) :
    List (String × Json) → List (String × Json)
  | [] => [(key, value)]
  | (k, v) :: rest =>
    if key = k then (key, value) :: rest
    else if key < k then (key, value) :: (k, v) :: rest
    else (k, v) :: insertMember key value rest

/-- An object whose members are sorted by key; of two members with one key
the later one stays. -/
def ofMembers (members : List (String × Json)) : Json :=
  .object (members.foldl (fun acc (k, v) => insertMember k v acc) [])

end Json

end InterfaceManager
