import ValueSchema.Property.Surface

/-!
# Slot records

A property surface spelled out slot by slot.  Each slot says for itself whether it can be read and
written, whether its value can be seen at all, and whether it admits `null`; names may repeat, and
the first slot of a name is the one that is read and written.
-/

namespace ValueSchema

/-- One property of a slot record. -/
structure Slot where
  name : String
  value : Json
  readable : Bool := true
  writable : Bool := true
  /-- Reading finds no value. -/
  hidden : Bool := false
  /-- Writing `null` is refused. -/
  refusesNull : Bool := false

namespace Slot

def descriptor (slot : Slot) : Descriptor := ⟨slot.name, slot.readable, slot.writable⟩

/-- Equality of slots, up to the order of members in their values. -/
def same (left right : Slot) : Bool :=
  left.name == right.name && left.value.same right.value && left.readable == right.readable &&
    left.writable == right.writable && left.hidden == right.hidden &&
    left.refusesNull == right.refusesNull

end Slot

structure SlotRecord where
  slots : List Slot

namespace SlotRecord

/-- The value of the first slot of a name, unless it is hidden. -/
def read (name : String) : List Slot → Option Json
  | [] => none
  | slot :: rest =>
    if slot.name = name then if slot.hidden then none else some slot.value else read name rest

/-- Writes the first slot of a name. -/
def write (name : String) (value : Json) : List Slot → Except FilterError (List Slot)
  | [] => .error (.invalidValue name .unknownProperty)
  | slot :: rest =>
    if slot.name = name then
      if slot.refusesNull && value.isNull then .error (.invalidValue name .nullValue)
      else .ok ({ slot with value := value } :: rest)
    else (write name value rest).map (slot :: ·)

instance : PropertySurface SlotRecord where
  properties record := record.slots.map Slot.descriptor
  get? record name := read name record.slots
  set record name value := (write name value record.slots).map SlotRecord.mk

/-- The two lists hold the same slots place by place. -/
def sameSlots : List Slot → List Slot → Bool
  | [], [] => true
  | left :: lefts, right :: rights => left.same right && sameSlots lefts rights
  | _, _ => false

def same (left right : SlotRecord) : Bool := sameSlots left.slots right.slots

end SlotRecord

end ValueSchema
