import OTServ.Map.Position

/-!
# Movement events

The registry of `MoveEvents`: which event a tile or an item has for each way of
moving.  An event of an item is found by its unique id, its action id or its
type, in this order.
-/

namespace OTServ.Movement

open Map

/-- `MoveEvent_t` -/
inductive MoveEventType where
  | stepIn
  | stepOut
  | equip
  | deEquip
  | addItem
  | removeItem
  | addItemItemTile
  | removeItemItemTile
deriving DecidableEq

structure ItemKey where
  uniqueId : Nat
  actionId : Nat
  id : Nat
deriving DecidableEq

/-- The maps of `MoveEvents`; of several events for one key the first counts. -/
structure Registry where
  uniqueIdMap : Nat → MoveEventType → Option Nat
  actionIdMap : Nat → MoveEventType → Option Nat
  itemIdMap : Nat → MoveEventType → Option Nat
  positionMap : Position → MoveEventType → Option Nat

variable (registry : Registry)

/-- `MoveEvents::getEvent` for an item. -/
def Registry.getEvent (key : ItemKey) (eventType : MoveEventType) : Option Nat :=
  ((if key.uniqueId ≠ 0 then registry.uniqueIdMap key.uniqueId eventType
    else none).or
      (if key.actionId ≠ 0 then registry.actionIdMap key.actionId eventType
        else none)).or
    (registry.itemIdMap key.id eventType)

/-- `MoveEvents::hasTileEvent` -/
def Registry.hasTileEvent (key : ItemKey) : Bool :=
  (registry.getEvent key .addItemItemTile).isSome ||
    (registry.getEvent key .removeItemItemTile).isSome ||
      (registry.getEvent key .stepIn).isSome || (registry.getEvent key .stepOut).isSome

/-- The event types which items lying on a tile have for things moving there. -/
def MoveEventType.OfTile (eventType : MoveEventType) : Prop :=
  eventType = .addItemItemTile ∨ eventType = .removeItemItemTile ∨
    eventType = .stepIn ∨ eventType = .stepOut

lemma Registry.hasTileEvent_of_getEvent {key : ItemKey} {eventType : MoveEventType}
  (ofTile : eventType.OfTile) (found : (registry.getEvent key eventType).isSome) :
  registry.hasTileEvent key := by
  rcases ofTile with rfl | rfl | rfl | rfl <;> simp [Registry.hasTileEvent, found]

end OTServ.Movement
