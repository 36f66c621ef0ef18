import OTServ.Items.World

/-!
# Queries of cylinders

`__queryAdd`, `__queryMaxCount`, `__queryRemove` and `__queryDestination` of
containers, depots, inventories, tiles and the items which are cylinders of
another kind.

A query answers `none` where the walk along parents does not come to an end.
-/

namespace OTServ.Items

open Map

variable (env : Env) (world : World)

/-- The index of an item in a list, and -1 if it is not there. -/
def indexIn (itemlist : List Nat) (item : Nat) : Int :=
  match itemlist.idxOf? item with
  | some index => index
  | none => -1

/-- `__getIndexOfThing` -/
def getIndexOfThing (cylinder : Cylinder) (item : Nat) : Int :=
  match cylinder with
  | .tile position =>
    match world.tile position with
    | none => -1
    | some tile =>
      let under := tile.ground.toList ++ tile.topItems
      if item ∈ under then indexIn under item
      else if item ∈ tile.downItems then
        under.length + world.creatures position + indexIn tile.downItems item
      else -1
  | .player id =>
    match slots.find? fun slot => world.inventory id slot = some item with
    | some slot => slot
    | none => -1
  | .item pointer =>
    if world.isContainer pointer then
      indexIn (world.item pointer).itemlist item
    else -1

/-- `Player::__getThing` and `Player::getInventoryItem` for the real slots. -/
def inventoryItem (id : Nat) (index : Int) : Option Nat :=
  if isSlot index then world.inventory id index.toNat else none

/-- `Container::__getThing` -/
def containerItem (container : Nat) (index : Int) : Option Nat :=
  if 0 ≤ index then (world.item container).itemlist[index.toNat]? else none

/-- `Player::getFreeCapacity` -/
def Player.getFreeCapacity (player : Player) : Int :=
  if player.hasInfiniteCapacity then 0
  else max 0 (player.capacity - player.inventoryWeight)

/-- `Player::hasCapacity` -/
def hasCapacity (id item count : Nat) : Option Bool :=
  let player := world.player id
  if player.cannotPickupItem then some false
  else if player.hasInfiniteCapacity then some true
  else
    (world.getTopParent item).map fun top =>
      if top ≠ some (.player id) then
        let itemWeight :=
          if world.isStackable env.items item then
            (world.itemType env.items item).weight * count
          else world.getWeight env.items item
        itemWeight < player.getFreeCapacity
      else true

/-- `Mailbox::canSend` -/
def canSend (item : Nat) : Bool :=
  (world.item item).id = 2595 || (world.item item).id = 2597

def depotAddCount (depot item count : Nat) : Option Nat :=
  (world.getTopParent item).bind fun top =>
    if top ≠ some (.item depot) then
      if world.isContainer item then
        (world.getItemHoldingCount item).map (· + 1)
      else some 1
    else if world.isStackable env.items item && (world.item item).count != count
    then some 1
    else some 0

/-- The limit which `Depot::__queryAdd` keeps. -/
def depotIsFull (depot item count : Nat) (flags : Flags) : Option Bool :=
  if flags.noLimit then some false
  else
    (depotAddCount env world depot item count).bind fun addCount =>
      (world.getItemHoldingCount depot).map fun holding =>
        holding + addCount > (world.item depot).maxDepotLimit

/-- What the top parent of a container answers with `FLAG_CHILDISOWNER`. -/
def ownerQueryAdd (owner : Cylinder) (item count : Nat) (flags : Flags) : Option ReturnValue :=
  match owner with
  -- a tile is never the top parent of a container
  | .tile _ => none
  | .player id =>
    if flags.noLimit then some .noError
    else
      (hasCapacity env world id item count).map fun fits =>
        if fits then .noError else .notEnoughCapacity
  | .item pointer =>
    match (world.item pointer).itemClass with
    | .depot =>
      (depotIsFull env world pointer item count flags).map fun full =>
        if full then .depotIsFull else .noError
    | .teleport => some .notPossible
    | .mailbox =>
      some (if canSend world item then .noError else .notPossible)
    | _ => some .noError

/-! ## `__queryAdd` -/

/-- `Container::__queryAdd` -/
def containerQueryAdd (container : Nat) (index : Int) (item count : Nat) (flags : Flags) :
  Option ReturnValue :=
  if flags.childIsOwner then some .noError
  else if !(world.itemType env.items item).pickupable then some .cannotPickup
  else if item = container then some .thisIsImpossible
  else
    (world.parents (world.item container).parent).bind fun cylinders =>
      if .item item ∈ cylinders then some .thisIsImpossible
      else if
        index = -1 ∧ ¬ flags.noLimit ∧
          (world.item container).maxSize ≤ (world.item container).itemlist.length
      then some .containerNotEnoughRoom
      else
        let self : Cylinder := .item container
        let topParent := (World.topOf (some self) cylinders).getD self
        if topParent ≠ self then
          ownerQueryAdd env world topParent item count flags
        else some .noError

/-- `Depot::__queryAdd` -/
def depotQueryAdd (depot : Nat) (index : Int) (item count : Nat) (flags : Flags) :
  Option ReturnValue :=
  (depotIsFull env world depot item count flags).bind fun full =>
    if full then some .depotIsFull
    else containerQueryAdd env world depot index item count flags

/-- The answer for an item that does not belong into the slot. -/
def cannotBeDressed (position : SlotPosition) : ReturnValue :=
  if position.head || position.necklace || position.backpack ||
      position.armor || position.legs || position.feet || position.ring then
    .cannotBeDressed
  else if position.twoHand then .putThisObjectInBothHands
  else if position.right || position.left then .putThisObjectInYourHand
  else .noError

def isSingleWeapon (it : ItemType) : Bool :=
  it.weaponType != .none && it.weaponType != .shield && it.weaponType != .ammo

/-- The check for a hand when the other hand is at the given slot. -/
def dressHand (id other item count : Nat) : ReturnValue :=
  let it := world.itemType env.items item
  match world.inventory id other with
  | none => .noError
  | some held =>
    if it.slotPosition.twoHand then
      if held ≠ item then .bothHandsNeedToBeFree else .noError
    else
      let heldType := world.itemType env.items held
      if heldType.slotPosition.twoHand then .dropTwoHandedItem
      else if item = held ∧ count = (world.item item).count then .noError
      else if !isSingleWeapon it then .noError
      else if !isSingleWeapon heldType then .noError
      else .canOnlyUseOneWeapon

/-- The switch of `Player::__queryAdd` over the slots. -/
def dress (id : Nat) (index : Int) (item count : Nat) : ReturnValue :=
  let position := (world.itemType env.items item).slotPosition
  let wrong := cannotBeDressed position
  match index with
  | 1 => if position.head then .noError else wrong
  | 2 => if position.necklace then .noError else wrong
  | 3 => if position.backpack then .noError else wrong
  | 4 => if position.armor then .noError else wrong
  | 5 => if position.right then dressHand env world id 6 item count else wrong
  | 6 => if position.left then dressHand env world id 5 item count else wrong
  | 7 => if position.legs then .noError else wrong
  | 8 => if position.feet then .noError else wrong
  | 9 => if position.ring then .noError else wrong
  | 10 => if position.ammo then .noError else wrong
  | 0 => .notEnoughRoom
  | -1 => .notEnoughRoom
  | _ => .notPossible

/-- Whether what is in the slot has to be exchanged for the item. -/
def needsExchange (id : Nat) (index : Int) (item : Nat) : Bool :=
  match inventoryItem world id index with
  | none => false
  | some held =>
    !world.isStackable env.items held || (world.item held).id != (world.item item).id

/-- `Player::__queryAdd` -/
def playerQueryAdd (id : Nat) (index : Int) (item count : Nat) (flags : Flags) :
  Option ReturnValue :=
  if flags.childIsOwner then
    ownerQueryAdd env world (.player id) item count flags
  else if !(world.itemType env.items item).pickupable then some .cannotPickup
  else
    let ret := dress env world id index item count
    if ret = .noError ∨ ret = .notEnoughRoom then
      if needsExchange env world id index item then some .needExchange
      else
        let wear := env.canPlayerWearEquip world id item index
        if wear ≠ .noError then some wear
        else
          (hasCapacity env world id item count).map fun fits =>
            if fits then ret else .notEnoughCapacity
    else some ret

def Tile.things (tile : Tile) : List Nat :=
  tile.ground.toList ++ tile.topItems ++ tile.downItems

/-- Whether something on the tile leaves no room for the item. -/
def blocksItem (position itemPosition : Position) (item other : Nat) : Bool :=
  let it := world.itemType env.items item
  let iiType := world.itemType env.items other
  if it.isHangable && (iiType.isHorizontal || iiType.isVertical) then false
  else if iiType.blockSolid then
    if it.pickupable || it.moveable && position.z != itemPosition.z then
      if iiType.allowPickupable then false
      else !iiType.hasHeight || iiType.pickupable || iiType.type = .bed
    else true
  else false

/-- `Tile::__queryAdd` for an item. -/
def tileQueryAdd (position : Position) (item : Nat) (flags : Flags) : Option ReturnValue :=
  if flags.noLimit then some .noError
  else
    let it := world.itemType env.items item
    match world.tile position with
    | none => none
    | some tile =>
      if tile.ground.isNone ∧ ¬ it.isHangable then some .notPossible
      else if world.creatures position ≠ 0 ∧ it.blockSolid ∧ ¬ flags.ignoreBlockCreature
      then some .notEnoughRoom
      else
        (world.getPosition item).map fun itemPosition =>
          let types := tile.things.map (world.itemType env.items)
          if tile.things.any (blocksItem env world position itemPosition item)
          then .notEnoughRoom
          else if
            it.isHangable ∧ types.any (·.isHangable) ∧
              types.any (fun it => it.isHorizontal || it.isVertical)
          then .needExchange
          else .noError

/-- `__queryAdd` -/
def queryAdd (cylinder : Cylinder) (index : Int) (item count : Nat) (flags : Flags) :
  Option ReturnValue :=
  match cylinder with
  | .tile position => tileQueryAdd env world position item flags
  | .player id => playerQueryAdd env world id index item count flags
  | .item pointer =>
    match (world.item pointer).itemClass with
    | .container => containerQueryAdd env world pointer index item count flags
    | .depot => depotQueryAdd env world pointer index item count flags
    | .teleport => some .notPossible
    | .trashHolder => some .noError
    | .mailbox =>
      some (if canSend world item then .noError else .notPossible)
    -- not a cylinder
    | _ => none

/-- `Container::__queryMaxCount` -/
def containerQueryMaxCount (container : Nat) (index : Int) (item count : Nat) (flags : Flags) :
  ReturnValue × Nat :=
  if flags.noLimit then (.noError, max 1 count)
  else
    let freeSlots := (world.item container).maxSize - (world.item container).itemlist.length
    if world.isStackable env.items item then
      let destItem := if index ≠ -1 then containerItem world container index else none
      let n :=
        match destItem with
        | none => 0
        | some dest =>
          if (world.item dest).id = (world.item item).id then
            room (world.item dest).count
          else 0
      let maxQueryCount := (freeSlots * 100 + n) % 2 ^ 32
      if maxQueryCount < count then (.containerNotEnoughRoom, maxQueryCount)
      else (.noError, maxQueryCount)
    else if freeSlots = 0 then (.containerNotEnoughRoom, freeSlots)
    else (.noError, freeSlots)

/-- `Player::__queryMaxCount` -/
def playerQueryMaxCount (id : Nat) (index : Int) (item count : Nat) : ReturnValue × Nat :=
  match inventoryItem world id index with
  | some dest =>
    let maxQueryCount :=
      if world.isStackable env.items dest ∧ (world.item item).id = (world.item dest).id
      then room (world.item dest).count
      else 0
    if maxQueryCount < count then (.notEnoughRoom, maxQueryCount)
    else (.noError, maxQueryCount)
  | none =>
    (.noError, if world.isStackable env.items item then 100 else 1)

/-- `__queryMaxCount` with the most that can be added. -/
def queryMaxCount (cylinder : Cylinder) (index : Int) (item count : Nat) (flags : Flags) :
  ReturnValue × Nat :=
  match cylinder with
  | .tile _ => (.noError, max 1 count)
  | .player id => playerQueryMaxCount env world id index item count
  | .item pointer =>
    if world.isContainer pointer then
      containerQueryMaxCount env world pointer index item count flags
    else if (world.item pointer).itemClass = .teleport then (.notPossible, 0)
    else (.noError, max 1 count)

/-- `__queryRemove`, alike in tiles, inventories and containers. -/
def queryRemove (cylinder : Cylinder) (item count : Nat) (flags : Flags) : ReturnValue :=
  let cylinderClass :=
    match cylinder with
    | .item pointer => (world.item pointer).itemClass
    | _ => .container
  match cylinderClass with
  | .teleport => .noError
  | .trashHolder => .notPossible
  | .mailbox => .notPossible
  | _ =>
    if getIndexOfThing world cylinder item = -1 then .notPossible
    else if count = 0 ∨ world.isStackable env.items item ∧ (world.item item).count < count
    then .notPossible
    else if ¬ (world.itemType env.items item).moveable ∧ ¬ flags.ignoreNotMoveable
    then .notMoveable
    else .noError

/-! ## `__queryDestination` -/

/-- A destination with the values which the queries pass on by reference. -/
structure Destination where
  cylinder : Cylinder
  index : Int
  toItem : Option Nat
  flags : Flags
deriving DecidableEq

/-- `Container::__queryDestination` -/
def containerQueryDestination (container : Nat) (asked : Destination) : Destination :=
  if asked.index = 254 then
    -- move up
    let parentContainer :=
      match (world.item container).parent with
      | some (.item pointer) =>
        if world.isContainer pointer then pointer else container
      | _ => container
    ⟨.item parentContainer, -1, none, asked.flags⟩
  else if asked.index = 255 then
    -- add wherever
    ⟨.item container, -1, none, asked.flags⟩
  else
    let index := if (world.item container).maxSize ≤ asked.index then -1 else asked.index
    if index = -1 then ⟨.item container, -1, asked.toItem, asked.flags⟩
    else
      match (containerItem world container index).or asked.toItem with
      | none => ⟨.item container, index, none, asked.flags⟩
      | some dest =>
        if world.isCylinder dest then ⟨.item dest, -1, none, asked.flags⟩
        else ⟨.item container, index, some dest, asked.flags⟩

def firstAccepted (accepts : Nat → Option Bool) : List Nat → Option (Option Nat)
  | [] => some none
  | candidate :: rest =>
    (accepts candidate).bind fun accepted =>
      if accepted then some (some candidate)
      else firstAccepted accepts rest

def slotAccepts (id item slot : Nat) : Option Bool :=
  if (world.inventory id slot).isNone then
    (playerQueryAdd env world id slot item (world.item item).count Flags.none).map (· = .noError)
  else some false

/-- Whether it is a container, not traded, that takes the item. -/
def subContainerAccepts (id item candidate : Nat) : Option Bool :=
  if (world.player id).tradeItem = some candidate then some false
  else if world.isContainer candidate then
    (queryAdd env world (.item candidate) (-1) item (world.item item).count
      Flags.none).map (· = .noError)
  else some false

/-- All that is in the containers of a list, one after the other. -/
def allContents : List Nat → Option (List Nat)
  | [] => some []
  | container :: rest =>
    (world.contents container).bind fun inside => (allContents rest).map (inside ++ ·)

/-- Where `Player::__queryDestination` puts an item wherever there is room. -/
def appropriatePlace (id item : Nat) (asked : Destination) : Option Destination :=
  (firstAccepted (slotAccepts env world id item) slots).bind fun slot =>
    match slot with
    | some slot => some ⟨.player id, slot, none, asked.flags⟩
    | none =>
      let worn := slots.filterMap (world.inventory id)
      (firstAccepted (subContainerAccepts env world id item) worn).bind
        fun container =>
          match container with
          | some container => some ⟨.item container, -1, none, asked.flags⟩
          | none =>
            let containerList :=
              worn.filter fun held =>
                (world.player id).tradeItem != some held && world.isContainer held
            (allContents world containerList).bind fun deeper =>
              (firstAccepted (subContainerAccepts env world id item)
                deeper).map fun found =>
                  match found with
                  | some container =>
                    ⟨.item container, -1, none, asked.flags⟩
                  | none => ⟨.player id, asked.index, none, asked.flags⟩

/-- `Player::__queryDestination` -/
def playerQueryDestination (id item : Nat) (asked : Destination) : Option Destination :=
  if asked.index = 0 ∨ asked.index = -1 then
    appropriatePlace env world id item asked
  else
    match inventoryItem world id asked.index with
    | none => some ⟨.player id, asked.index, asked.toItem, asked.flags⟩
    | some dest =>
      if world.isCylinder dest then
        some ⟨.item dest, -1, none, asked.flags⟩
      else some ⟨.player id, asked.index, some dest, asked.flags⟩

/-- `Game::getTile` -/
def World.getTile (x y z : UInt16) : Option Position :=
  if z < 16 ∧ (world.tile ⟨x, y, z⟩).isSome then some ⟨x, y, z⟩ else none

def floorDestination (position : Position) : Option Position :=
  let flags := world.floorChange position
  if flags.down then
    (world.getTile position.x position.y (position.z + 1)).bind fun below =>
      let down := world.floorChange below
      let dy := if down.north then position.y + 1 else position.y
      let dy := if down.south then dy - 1 else dy
      let dx := if down.east then position.x - 1 else position.x
      let dx := if down.west then dx + 1 else dx
      world.getTile dx dy (position.z + 1)
  else if flags.change then
    let dy := if flags.north then position.y - 1 else position.y
    let dy := if flags.south then dy + 1 else dy
    let dx := if flags.east then position.x + 1 else position.x
    let dx := if flags.west then dx - 1 else dx
    world.getTile dx dy (position.z - 1)
  else none

/-- `Tile::getTopDownItem` -/
def topDownItem (position : Position) : Option Nat :=
  (world.tile position).bind fun tile => tile.downItems.head?

/-- `Tile::__queryDestination` -/
def tileQueryDestination (position : Position) (asked : Destination) : Destination :=
  match floorDestination world position with
  | none =>
    ⟨.tile position, asked.index, topDownItem world position, asked.flags⟩
  | some destTile =>
    ⟨.tile destTile, asked.index, topDownItem world destTile, { asked.flags with noLimit := true }⟩

/-- `__queryDestination` -/
def queryDestination (item : Nat) (asked : Destination) : Option Destination :=
  match asked.cylinder with
  | .tile position => some (tileQueryDestination world position asked)
  | .player id => playerQueryDestination env world id item asked
  | .item pointer =>
    if world.isContainer pointer then
      some (containerQueryDestination world pointer asked)
    else some asked

/--
The search for the destination in `Game::internalMoveItem`.  It follows at most
as many redirections as there are floors.
-/
def findDestination (item : Nat) : Nat → Destination → Option Destination
  | 0, asked => some asked
  | floors + 1, asked =>
    (queryDestination env world item asked).bind fun found =>
      if found.cylinder = asked.cylinder then some found
      else findDestination item floors { found with flags := Flags.none }

/-- `MAP_MAX_LAYERS` -/
def mapMaxLayers : Nat := 16

end OTServ.Items
