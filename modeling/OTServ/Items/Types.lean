import Mathlib.Tactic.TypeStar

/-!
# Item types

The part of `ItemType` at which the movement of items looks.  Whether an object
is a container, a depot or one of the other classes with behaviour of their own
is decided once, by its type when it is created.
-/

namespace OTServ.Items

/-- `itemgroup_t`; only these groups matter to the movement of items. -/
inductive ItemGroup where
  | none
  | ground
  | container
  | splash
  | fluid
  | other
deriving DecidableEq

/-- `ItemTypes_t`; keys, runes and `ITEM_TYPE_CONTAINER` are never asked for. -/
inductive ItemTypes where
  | none
  | depot
  | mailbox
  | trashHolder
  | door
  | magicField
  | teleport
  | bed
  | other
deriving DecidableEq

/-- `WeaponType_t` -/
inductive WeaponType where
  | none
  | sword
  | club
  | axe
  | shield
  | dist
  | wand
  | ammo
deriving DecidableEq

/-- The bits `SLOTP_` of a slot position. -/
structure SlotPosition where
  head : Bool
  necklace : Bool
  backpack : Bool
  armor : Bool
  right : Bool
  left : Bool
  legs : Bool
  feet : Bool
  ring : Bool
  ammo : Bool
  twoHand : Bool
deriving DecidableEq

/-- The bits of `tileflags_t` for a change of floor. -/
structure FloorChange where
  change : Bool
  down : Bool
  north : Bool
  south : Bool
  east : Bool
  west : Bool
deriving DecidableEq

/--
A type of items.  `known` is false for ids without a type, and the weight is in
hundredths of an ounce, as the item table has it.
-/
structure ItemType where
  known : Bool
  group : ItemGroup
  type : ItemTypes
  stackable : Bool
  alwaysOnTop : Bool
  alwaysOnTopOrder : Int
  moveable : Bool
  pickupable : Bool
  isHangable : Bool
  isVertical : Bool
  isHorizontal : Bool
  blockSolid : Bool
  hasHeight : Bool
  allowPickupable : Bool
  replaceable : Bool
  floorChangeDown : Bool
  floorChangeNorth : Bool
  floorChangeSouth : Bool
  floorChangeEast : Bool
  floorChangeWest : Bool
  slotPosition : SlotPosition
  weaponType : WeaponType
  maxItems : Nat
  weight : Int
  charges : Nat

/-- The classes of `Item` with behaviour of their own. -/
inductive ItemClass where
  | item
  | depot
  | container
  | teleport
  | magicField
  | door
  | trashHolder
  | mailbox
  | bed
deriving DecidableEq

/-- The class of which `Item::CreateItem` makes an object. -/
def ItemType.itemClass (it : ItemType) : ItemClass :=
  if it.type = .depot then .depot
  else if it.group = .container then .container
  else if it.type = .teleport then .teleport
  else if it.type = .magicField then .magicField
  else if it.type = .door then .door
  else if it.type = .trashHolder then .trashHolder
  else if it.type = .mailbox then .mailbox
  else if it.type = .bed then .bed
  else .item

/-- `Item::getContainer` finds a container. -/
def ItemClass.isContainer : ItemClass → Bool
  | .depot => true
  | .container => true
  | _ => false

/-- The object is a `Cylinder`. -/
def ItemClass.isCylinder : ItemClass → Bool
  | .depot => true
  | .container => true
  | .teleport => true
  | .trashHolder => true
  | .mailbox => true
  | _ => false

def ItemClass.isFixture : ItemClass → Bool
  | .teleport => true
  | .trashHolder => true
  | .mailbox => true
  | _ => false

/-- `ITEM_COINS_GOLD` -/
def goldCoin : Nat := 2148

/-- `ITEM_COINS_PLATINUM` -/
def platinumCoin : Nat := 2152

/-- `ITEM_COINS_CRYSTAL` -/
def crystalCoin : Nat := 2160

end OTServ.Items
