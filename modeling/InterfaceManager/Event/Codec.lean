import InterfaceManager.Event
import InterfaceManager.IfIndex.Codec

/-!
# JSON forms of events

An event is an object whose member `type` names the kind of change, beside
the device, the fields of the change and the time in whole seconds from the
Unix epoch.  An event may also be given as an array: the kind of change,
then the fields in order.  Times before the epoch have no JSON form.
-/

namespace InterfaceManager.Event

/-- The member that names the kind of change. -/
def tag : String := "type"

/-- The names of the kinds of changes. -/
def labels : List String :=
  ["registered", "unregistered", "link_up_down", "renamed", "mtu_changed"]

/-- The wording for a time that has no JSON form. -/
def beforeEpochMessage : String := "second time provided was later than self"

/-- The members of the JSON form that a change contributes. -/
def changeMembers : Change → List (String × Json)
  | .registered devName ifindex netns =>
    [("dev_name", .string devName), ("ifindex", ifindex.toJson),
      ("netns", .string netns)]
  | .unregistered => []
  | .linkUpDown up => [("up", .bool up)]
  | .renamed oldName newName =>
    [("old_name", .string oldName), ("new_name", .string newName)]
  | .mtuChanged mtu => [("mtu", .nat mtu.toNat)]

/-- The JSON form of an event at or after the epoch. -/
def toJson? (e : Event) : Option Json :=
  if e.time.isBeforeEpoch then none
  else
    some <| .object <|
      [(tag, .string e.change.label), ("device", .string e.device)]
        ++ changeMembers e.change
        ++ [("timestamp", .nat e.time.seconds.toNat)]

/-- A point in time given in seconds from the epoch. -/
def asTime : Json.Reading Timestamp := fun v => do
  let seconds ← Json.asNatBelow UInt64.size "u64" v
  match Timestamp.afterEpoch seconds 0 with
  | .ok t => .ok t
  | .error e => .error (.overflow e.message)

/-- How a field of an event is checked. -/
def checks (names : List String) :
    List (String × (Json → Except Json.Misfit Unit)) :=
  List.filter (fun check => names.contains check.1) <|
    [("device", Json.fits Json.asText), ("dev_name", Json.fits Json.asText),
      ("ifindex", Json.fits IfIndex.ofJson), ("netns", Json.fits Json.asText),
      ("up", Json.fits Json.asFlag), ("old_name", Json.fits Json.asText),
      ("new_name", Json.fits Json.asText), ("mtu", Json.fits Json.asUInt32),
      ("timestamp", Json.fits asTime)]

/-- The record of the events of one kind, whose name is `title`. -/
def shape (title : String) (changeNames : List String) : Json.RecordShape :=
  ⟨s!"struct variant NetdevEvent::{title}",
    ["device"] ++ changeNames ++ ["timestamp"]⟩

/-- Reads the fields of an event of one kind: the device, the change by
`readChange`, and the time. -/
def ofFields (shape : Json.RecordShape)
    (readChange : Json.Fields → Except Json.Misfit Change)
    (fields : Json.Fields) : Except Json.Misfit Event := do
  fields.check (checks shape.names)
  let device ← fields.required shape "device" Json.asText
  let change ← readChange fields
  let time ← fields.required shape "timestamp" asTime
  if fields.surplus shape = 0 then return ⟨device, change, time⟩
  else
    .error <| .wrongLength (shape.names.length + fields.surplus shape)
      s!"{shape.names.length} elements in sequence"

/-- Reads the fields of an event of the kind `label`. -/
def ofLabel (label : String) (fields : Json.Fields) :
    Except Json.Misfit Event :=
  match label with
  | "registered" =>
    let shape := shape "Registered" ["dev_name", "ifindex", "netns"]
    ofFields shape (fun fields => do
      return .registered (← fields.required shape "dev_name" Json.asText)
        (← fields.required shape "ifindex" IfIndex.ofJson)
        (← fields.required shape "netns" Json.asText)) fields
  | "unregistered" =>
    ofFields (shape "Unregistered" []) (fun _ => .ok .unregistered) fields
  | "link_up_down" =>
    let shape := shape "LinkUpDown" ["up"]
    ofFields shape (fun fields => do
      return .linkUpDown (← fields.required shape "up" Json.asFlag)) fields
  | "renamed" =>
    let shape := shape "Renamed" ["old_name", "new_name"]
    ofFields shape (fun fields => do
      return .renamed (← fields.required shape "old_name" Json.asText)
        (← fields.required shape "new_name" Json.asText)) fields
  | "mtu_changed" =>
    let shape := shape "MtuChanged" ["mtu"]
    ofFields shape (fun fields => do
      return .mtuChanged (← fields.required shape "mtu" Json.asUInt32)) fields
  | label => .error (.unknownVariant label labels)

/-- The name of a kind of change. -/
def asLabel : Json.Reading String
  | .string label =>
    if labels.contains label then .ok label
    else .error (.unknownVariant label labels)
  | v => .error (.wrongType v "variant identifier")

/-- The event with a given JSON form. -/
def ofJson : Json → Except Json.Misfit Event
  | .object members =>
    match Json.lookup? tag members with
    | none => .error (.missingField tag)
    | some v => do
      let label ← asLabel v
      ofLabel label (.named (members.filter fun member => member.1 != tag))
  | .array [] => .error (.missingField tag)
  | .array (v :: items) => do
    let label ← asLabel v
    ofLabel label (.listed items)
  | v => .error (.wrongType v "internally tagged enum NetdevEvent")

end InterfaceManager.Event
