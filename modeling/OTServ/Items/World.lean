import OTServ.Game.ReturnValue
import OTServ.Items.Types
import OTServ.Library.Placements
import OTServ.Map.Position

/-!
# Items in the world

Items are known by pointers.  Each has a parent, and tiles, inventories and
containers list the items in them.  What lies where is the stock of the world;
beside it the world keeps what follows from the stock (the weight of the content
of containers and inventories, the floor changes of tiles) and where creatures
are.

Walks along parents need not end in an arbitrary world, so they take fuel, as
much as there are items.
-/

namespace OTServ.Items

open Map
open Library.Placements
open Function Option

/-! ## State -/

/-- The cylinders.  An item is one if its class is. -/
inductive Cylinder where
  | tile (position : Position)
  | player (id : Nat)
  | item (pointer : Nat)
deriving DecidableEq

structure Matter where
  id : Nat
  count : Nat
  charges : Nat
  fluidType : Nat
  itemClass : ItemClass
  maxSize : Nat
  maxDepotLimit : Nat
deriving DecidableEq

structure Item extends Matter where
  parent : Option Cylinder
  itemlist : List Nat
deriving DecidableEq

structure Tile where
  ground : Option Nat
  topItems : List Nat
  downItems : List Nat
deriving DecidableEq

/-- What lies where: the items, tiles and the inventories of the players. -/
structure Stock where
  item : Nat → Item
  tile : Position → Option Tile
  inventory : Nat → Nat → Option Nat

/-- A player, as far as the movement of items looks at it. -/
structure Player where
  position : Option Position
  isInternalRemoved : Bool
  capacity : Int
  inventoryWeight : Int
  cannotPickupItem : Bool
  hasInfiniteCapacity : Bool
  tradeItem : Option Nat

/-- The world.  Pointers from `next` on have not been given out. -/
structure World extends Stock where
  next : Nat
  totalWeight : Nat → Int
  floorChange : Position → FloorChange
  creatures : Position → Nat
  player : Nat → Player

abbrev ItemTable := Nat → ItemType

/-- `cylinderflags_t` -/
structure Flags where
  noLimit : Bool
  ignoreBlockItem : Bool
  ignoreBlockCreature : Bool
  childIsOwner : Bool
  ignoreNotMoveable : Bool
deriving DecidableEq

def Flags.none : Flags where
  noLimit := false
  ignoreBlockItem := false
  ignoreBlockCreature := false
  childIsOwner := false
  ignoreNotMoveable := false

/-- The slots of an inventory, from `SLOT_FIRST` up to `SLOT_LAST`. -/
def slots : List Nat := [1, 2, 3, 4, 5, 6, 7, 8, 9, 10]

def isSlot (index : Int) : Bool := 1 ≤ index && index < 11

namespace Stock

variable (items : ItemTable) (stock : Stock)

def itemType (item : Nat) : ItemType := items (stock.item item).id

/-- `Item::isStackable` -/
def isStackable (item : Nat) : Bool := (stock.itemType items item).stackable

/-- `getContainer() != nullptr` -/
def isContainer (item : Nat) : Bool := (stock.item item).itemClass.isContainer

/-- `dynamic_cast<Cylinder*>(item) != nullptr` -/
def isCylinder (item : Nat) : Bool := (stock.item item).itemClass.isCylinder

/-- The items in a cylinder, in the order of their indices. -/
def listing : Cylinder → List Nat
  | .tile position =>
    match stock.tile position with
    | none => []
    | some tile => tile.ground.toList ++ tile.topItems ++ tile.downItems
  | .player id => slots.filterMap (stock.inventory id)
  | .item pointer => (stock.item pointer).itemlist

def placement : Placement Cylinder Nat where
  listing := stock.listing
  parent item := (stock.item item).parent

/-- `Thing::setParent` -/
def setParent (item : Nat) (parent : Option Cylinder) : Stock :=
  { stock with
    item := update stock.item item { stock.item item with parent := parent } }

def setItemlist (container : Nat) (itemlist : List Nat) : Stock :=
  { stock with
    item := update stock.item container { stock.item container with itemlist := itemlist } }

def setMatter (item : Nat) (matter : Matter) : Stock :=
  { stock with
    item := update stock.item item { stock.item item with toMatter := matter } }

def setTile (position : Position) (tile : Tile) : Stock :=
  { stock with tile := update stock.tile position (some tile) }

/-- An inventory with something else in a slot. -/
def setInventory (player slot : Nat) (item : Option Nat) : Stock :=
  { stock with
    inventory := update stock.inventory player (update (stock.inventory player) slot item) }

end Stock

/-- `100 - count` as an unsigned number of 32 bits. -/
def room (count : Nat) : Nat := (100 + 2 ^ 32 - count) % 2 ^ 32

/-- What is left of a stack, as `__removeThing` computes it. -/
def lowered (count taken : Nat) : Nat :=
  (BitVec.ofInt 32 (count - taken : Int)).toInt.toNat % 256

lemma room_eq {count : Nat} (full : count ≤ 100) : room count = 100 - count := by
  rw [room]
  omega

lemma lowered_eq {count taken : Nat} (enough : taken ≤ count) (small : count < 256) :
  lowered count taken = count - taken := by
  have difference : (count - taken : Int) = ((count - taken : Nat) : Int) := by
    omega
  rw [lowered, difference, BitVec.toInt_ofInt, Int.bmod_eq_of_le (by omega) (by omega)]
  omega

/-- `Item::setItemCount` -/
def Matter.setItemCount (matter : Matter) (count : Nat) : Matter :=
  { matter with count := count % 256 }

/-- `Item::setSubType` -/
def Matter.setSubType (items : ItemTable) (matter : Matter) (subType : Nat) : Matter :=
  let it := items matter.id
  if it.group = .fluid ∨ it.group = .splash then
    { matter with fluidType := subType % 65536 }
  else if it.charges ≠ 0 then { matter with charges := subType % 65536 }
  else { matter with count := subType % 256 }

/-- `Item::setID`; decay is left out. -/
def Matter.setID (matter : Matter) (newid : Nat) : Matter :=
  { matter with id := newid }

namespace World

variable (items : ItemTable) (world : World)

def withStock (stock : Stock) : World := { world with toStock := stock }

@[simp]
lemma withStock_toStock (stock : Stock) : (world.withStock stock).toStock = stock :=
  rfl

/-- `Cylinder::getParent` -/
def getParent : Cylinder → Option Cylinder
  | .tile _ => none
  | .player id => (world.player id).position.map .tile
  | .item pointer => (world.item pointer).parent

/-- A cylinder with all that are around it, from the inside out. -/
def around : Nat → Option Cylinder → Option (List Cylinder)
  | _, none => some []
  | 0, some _ => none
  | fuel + 1, some cylinder =>
    (around fuel (world.getParent cylinder)).map (cylinder :: ·)

/-- All the cylinders in which something with the given parent is. -/
def parents (parent : Option Cylinder) : Option (List Cylinder) :=
  world.around (world.next + 2) parent

/-- The top parent among the cylinders around a thing. -/
def topOf (self : Option Cylinder) : List Cylinder → Option Cylinder
  | [] => self
  | [outermost] => self.or (some outermost)
  | [top, _] => some top
  | _ :: rest => topOf self rest

/-- `Thing::getTopParent` of an item. -/
def getTopParent (item : Nat) : Option (Option Cylinder) :=
  (world.parents (world.item item).parent).map
    (topOf (if world.isCylinder item then some (.item item) else none))

/-- `isRemoved` of a thing which is in the given cylinders. -/
def removedIn : List Cylinder → Bool
  | [] => true
  | .tile _ :: _ => false
  | .player id :: _ => (world.player id).isInternalRemoved
  | .item _ :: rest => removedIn rest

/-- `Thing::isRemoved` of an item. -/
def isRemoved (item : Nat) : Option Bool :=
  (world.parents (world.item item).parent).map world.removedIn

/-- `Tile::null_tile` -/
def nullTile : Position := ⟨0xFFFF, 0xFFFF, 0xFFFF⟩

def positionIn : List Cylinder → Position
  | [] => nullTile
  | [.tile position] => position
  | _ :: rest => positionIn rest

/-- `Thing::getPosition` of an item. -/
def getPosition (item : Nat) : Option Position :=
  (world.parents (world.item item).parent).map positionIn

/-- `getWeight` of an item or a container. -/
def getWeight (item : Nat) : Int :=
  let it := world.itemType items item
  let own :=
    if it.stackable then it.weight * max 1 (world.item item).count
    else it.weight
  if world.isContainer item then own + world.totalWeight item else own

/-- The containers from the inside out, up to the first other cylinder. -/
def containersOf : List Cylinder → List Nat
  | .item pointer :: rest =>
    if world.isContainer pointer then pointer :: containersOf rest else []
  | _ => []

/-- `Container::updateItemWeight` -/
def updateItemWeight (container : Nat) (diff : Int) : Option World :=
  (world.parents (some (.item container))).map fun cylinders =>
    let containers := world.containersOf cylinders
    { world with
      totalWeight := fun pointer =>
        if pointer ∈ containers then world.totalWeight pointer + diff
        else world.totalWeight pointer }

/-- `Player::updateInventoryWeigth` -/
def updateInventoryWeigth (id : Nat) : World :=
  let weights := (world.listing (.player id)).map (world.getWeight items)
  { world with
    player :=
      update world.player id
        { world.player id with
          inventoryWeight :=
            if (world.player id).hasInfiniteCapacity then 0
            else weights.sum } }

lemma updateItemWeight_toStock {world changed : World} {container : Nat} {diff : Int}
  (done : world.updateItemWeight container diff = some changed) :
  changed.toStock = world.toStock := by
  rcases map_eq_some_iff.mp done with ⟨_, _, rfl⟩
  rfl

lemma updateItemWeight_next {world changed : World} {container : Nat} {diff : Int}
  (done : world.updateItemWeight container diff = some changed) : changed.next = world.next := by
  rcases map_eq_some_iff.mp done with ⟨_, _, rfl⟩
  rfl

/--
`ContainerIterator`: all that is in the queued containers, breadth first.  Only
containers that are not empty are queued.
-/
def iterate : Nat → List Nat → Option (List Nat)
  | _, [] => some []
  | 0, _ :: _ => none
  | fuel + 1, container :: queue =>
    let itemlist := (world.item container).itemlist
    let found :=
      itemlist.filter fun item => world.isContainer item && !(world.item item).itemlist.isEmpty
    (iterate fuel (queue ++ found)).map (itemlist ++ ·)

/-- All that is in a container, from `begin()` to `end()`. -/
def contents (container : Nat) : Option (List Nat) :=
  world.iterate (world.next + 1) [container]

/-- `Container::getItemHoldingCount` -/
def getItemHoldingCount (container : Nat) : Option Nat :=
  (world.contents container).map List.length

/-- The matter of a new item, as the constructors of its class set it. -/
def newMatter (id count : Nat) : Matter :=
  let it := items id
  let units :=
    -- only the class `Item` itself is given the count
    if it.itemClass = .item then count % 65536 else 0
  let liquid : Bool := it.group = .fluid || it.group = .splash
  let stacked : Bool := !liquid && it.stackable && units != 0
  { id := id
    count := if stacked then units % 256 else 1
    charges :=
      if !liquid && !stacked && it.charges != 0 && units != 0 then units
      else it.charges % 65536
    fluidType := if liquid then units else 0
    itemClass := it.itemClass
    maxSize := if it.itemClass = .depot then 30 else it.maxItems
    maxDepotLimit := 1500 }

/-- `Item::CreateItem` -/
def createItem (id count : Nat) : Option Nat × World :=
  if (items id).known then
    (some world.next,
      { world with
        item :=
          update world.item world.next
            { toMatter := newMatter items id count
              parent := none
              itemlist := [] }
        next := world.next + 1
        totalWeight := update world.totalWeight world.next 0 })
  else (none, world)

end World

/--
What is around the world: the item table, the requirements of equip events, and
the reactions to items that come and go, which are `none` when they do not come
to an end.  The reactions of teleports and mailboxes move items themselves.
-/
structure Env where
  items : ItemTable
  canPlayerWearEquip : World → Nat → Nat → Int → ReturnValue
  onPlayerEquip : Nat → Nat → Int → World → Option World
  onPlayerDeEquip : Nat → Nat → Int → Bool → World → Option World
  onAddTileItem : Position → Nat → World → Option World
  onRemoveTileItem : Position → Nat → World → Option World
  teleport : Nat → Nat → World → Option World
  mailbox : Nat → Nat → World → Option World

/-- `cylinderlink_t` -/
inductive Link where
  | owner
  | parent
  | topParent
  | near
deriving DecidableEq

end OTServ.Items
