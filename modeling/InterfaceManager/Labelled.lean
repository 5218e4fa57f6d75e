/-!
# Values under labels

A collection in which every value is kept under a label.  Putting a value
under a label replaces the value that was there.
-/

namespace InterfaceManager

/-- Values of type `α` under labels. -/
abbrev Labelled (α : Type) := List (String × α)

namespace Labelled

def at? (entries : Labelled α) (label : String) : Option α :=
  (List.find? (fun entry => entry.1 == label) entries).map Prod.snd

def without (entries : Labelled α) (label : String) : Labelled α :=
  List.filter (fun entry => entry.1 != label) entries

def put (entries : Labelled α) (label : String) (value : α) : Labelled α :=
  (label, value) :: without entries label

end Labelled

end InterfaceManager
