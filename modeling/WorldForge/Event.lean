import WorldForge.Error.Kind
import WorldForge.Value.Literal

/-!
# The record of a notification

That a world was created is recorded as a dictionary with a type and the world's handle.
`readWorldCreated` reads what `worldCreatedRecord` writes; it looks at the type first, and does not
mind other entries. Nor does it check what it is given for the handle: any value is taken, and is
the handle of an instance only if it counts as a number. -/

namespace WorldForge

/-- Why a dictionary is not the record of a created world. -/
inductive EventError where
  | otherType (data : Value)
  | noHandle (data : Value)

namespace EventError

def kind : EventError → ErrorKind
  | otherType _ | noHandle _ => .badValue

def message : EventError → String
  | otherType data => "Not a world_created event: " ++ data.literal
  | noHandle data => "world_created event has no handle: " ++ data.literal

end EventError

/-- The type that marks the record of a created world. -/
def worldCreatedType : String := "world_created"

/-- The record of a created world: its type, and its handle as a number. -/
def worldCreatedRecord (h : InstanceHandle) : List (String × Value) :=
  [("type", .str worldCreatedType), ("handle", .ofNumeral h.value)]

/-- A dictionary's value under a text. -/
def entry? (name : String) (entries : List (Value × Value)) : Option Value :=
  entries.findSome? fun
    | (.str s, v) => if s = name then some v else none
    | _ => none

/-- Reads the record of a created world, and gives what stands for the number of its handle. -/
def readWorldCreated (entries : List (Value × Value)) : Except EventError Value :=
  match entry? "type" entries with
  | some (.str t) =>
    if t = worldCreatedType then
      match entry? "handle" entries with
      | none => .error (.noHandle (.dictionary entries))
      | some v => .ok v
    else .error (.otherType (.dictionary entries))
  | _ => .error (.otherType (.dictionary entries))

/-- **What is written is read back**: the number of the handle, as it was given. -/
theorem readWorldCreated_record (h : InstanceHandle) :
    readWorldCreated ((worldCreatedRecord h).map fun f => (.str f.1, f.2)) =
      .ok (.ofNumeral h.value) :=
  rfl

end WorldForge
