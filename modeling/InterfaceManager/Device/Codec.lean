import InterfaceManager.Device.State
import InterfaceManager.Error.Codec

/-!
# JSON forms of devices

A device is an object with what can be asked about it, and a report of a
callback is either a call with the device as it was or the result of an
instruction.
-/

namespace InterfaceManager

namespace Json

/-- The JSON form of a value that may be missing. -/
def orNull (write : α → Json) : Option α → Json
  | some a => write a
  | none => .null

def texts (ss : List String) : Json := .array (ss.map .string)

/-- The JSON form of a value that was asked for. -/
def answered (v : Json) : Json := .object [("ok", v)]

end Json

def Device.toJson (d : Device ε) : Json :=
  .object
    [("id", .string (toString d.id)), ("name", .string d.name),
      ("ifindex", d.ifindex.toJson), ("netns", Json.orNull .string d.netns),
      ("dev_name", Json.orNull .string d.devName),
      ("registered", .bool d.isRegistered), ("up", Json.orNull .bool d.up),
      ("mtu", Json.orNull (fun mtu => .nat mtu.toNat) d.mtu),
      ("context", Json.orNull (fun c => .string c.name) d.context)]

/-- The JSON form of an observed value. -/
def Observation.toJson : Observation → Json
  | upDown up => .bool up
  | devName name => .string name
  | mtu value => .nat value.toNat

def Report.toJson : Report ε → Json
  | called observation device =>
    .object
      [("cb", .string observation.kind.label), ("arg", observation.toJson),
        ("dev", device.toJson)]
  | followed (.ok ()) => Json.answered .null
  | followed (.error e) => e.toJson
  | saw names => Json.answered (Json.texts names)

def OwnerData.toJson : OwnerData → Json
  | text s => .string s
  | number n => .nat n.toNat

end InterfaceManager
