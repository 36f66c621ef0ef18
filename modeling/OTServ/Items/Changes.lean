import OTServ.Items.Queries

/-!
# Changes of cylinders

`__addThing`, `__updateThing` and `__removeThing` of containers, inventories and
tiles, the notifications that follow them, and `Game::internalRemoveItem`.

What the notices to spectators do to the windows and trades of players is left
out, since nothing of it changes where items lie.
-/

namespace OTServ.Items

open Map

variable (env : Env) (world : World)

/-- `Container::__addThing` -/
def containerAddThing (container : Nat) (index : Int) (item : Nat) : Option World :=
  if (world.item container).maxSize ≤ index then some world
  else
    let itemlist := (world.item container).itemlist
    let stock :=
      (world.toStock.setParent item (some (.item container))).setItemlist
        container (item :: itemlist)
    (world.withStock stock).updateItemWeight container (world.getWeight env.items item)

/-- `Container::__updateThing` -/
def containerUpdateThing (container item itemId count : Nat) : Option World :=
  if item ∈ (world.item container).itemlist then
    let matter := ((world.item item).toMatter.setID itemId).setSubType env.items count
    let changed := world.withStock (world.toStock.setMatter item matter)
    changed.updateItemWeight container
      (changed.getWeight env.items item - world.getWeight env.items item)
  else some world

/-- `Container::__removeThing` -/
def containerRemoveThing (container item count : Nat) : Option World :=
  let itemlist := (world.item container).itemlist
  if item ∈ itemlist then
    let held := (world.item item).count
    if world.isStackable env.items item ∧ count ≠ held then
      let matter := (world.item item).toMatter.setItemCount (lowered held count)
      let changed := world.withStock (world.toStock.setMatter item matter)
      changed.updateItemWeight container
        (changed.getWeight env.items item - world.getWeight env.items item)
    else
      (world.updateItemWeight container
        (-(world.getWeight env.items item))).map fun lighter =>
          lighter.withStock
            ((lighter.toStock.setParent item none).setItemlist container (itemlist.erase item))
  else some world

/-- `Player::__addThing` -/
def playerAddThing (id : Nat) (index : Int) (item : Nat) : World :=
  -- the index 11 is let through, though there are no more than 11 places
  if index < 0 ∨ 11 < index ∨ index = 0 then world
  else
    world.withStock
      ((world.toStock.setParent item (some (.player id))).setInventory id index.toNat (some item))

/-- `Player::__updateThing` -/
def playerUpdateThing (id item itemId count : Nat) : World :=
  if getIndexOfThing world (.player id) item = -1 then world
  else
    let matter := ((world.item item).toMatter.setID itemId).setSubType env.items count
    world.withStock (world.toStock.setMatter item matter)

/-- `Player::__removeThing` -/
def playerRemoveThing (id item count : Nat) : World :=
  let index := getIndexOfThing world (.player id) item
  if index = -1 then world
  else
    let held := (world.item item).count
    if world.isStackable env.items item ∧ count ≠ held then
      let matter := (world.item item).toMatter.setItemCount (lowered held count)
      world.withStock (world.toStock.setMatter item matter)
    else
      world.withStock ((world.toStock.setParent item none).setInventory id index.toNat none)

/-! ## Tiles -/

/-- The part of `Tile::updateTileFlags` for changes of floor. -/
def FloorChange.update (flags : FloorChange) (it : ItemType) (removing : Bool) : FloorChange :=
  if removing then
    { change :=
        flags.change &&
          !(it.floorChangeDown || it.floorChangeNorth ||
            it.floorChangeSouth || it.floorChangeEast || it.floorChangeWest)
      down := flags.down && !it.floorChangeDown
      north := flags.north && !it.floorChangeNorth
      south := flags.south && !it.floorChangeSouth
      east := flags.east && !it.floorChangeEast
      west := flags.west && !it.floorChangeWest }
  else if flags.change then flags
  else
    { change :=
        it.floorChangeDown || it.floorChangeNorth || it.floorChangeSouth ||
          it.floorChangeEast || it.floorChangeWest
      down := flags.down || it.floorChangeDown
      north := flags.north || it.floorChangeNorth
      south := flags.south || it.floorChangeSouth
      east := flags.east || it.floorChangeEast
      west := flags.west || it.floorChangeWest }

/-- `Tile::updateTileFlags` -/
def updateTileFlags (position : Position) (item : Nat) (removing : Bool) : World :=
  { world with
    floorChange :=
      Function.update world.floorChange position
        ((world.floorChange position).update (world.itemType env.items item) removing) }

def changeTile (position : Position) (tile : Tile) (item : Nat) (parent : Option Cylinder)
  (removing : Bool) : World :=
  updateTileFlags env
    (world.withStock ((world.toStock.setParent item parent).setTile position tile))
    position item removing

/-- The part of `Tile::__removeThing` for an item in the given tile. -/
def tileRemoveFrom (position : Position) (tile : Tile) (item count : Nat) : World :=
  let it := world.itemType env.items item
  if tile.ground = some item then
    changeTile env world position { tile with ground := none } item none true
  else if it.alwaysOnTop then
    if item ∈ tile.topItems then
      changeTile env world position
        { tile with topItems := tile.topItems.erase item } item none true
    else world
  else if item ∈ tile.downItems then
    let held := (world.item item).count
    if it.stackable ∧ count ≠ held then
      let matter := (world.item item).toMatter.setItemCount (lowered held count)
      let changed := world.withStock (world.toStock.setMatter item matter)
      updateTileFlags env (updateTileFlags env changed position item true) position item false
    else
      changeTile env world position
        { tile with downItems := tile.downItems.erase item } item none true
  else world

/-- `Tile::__removeThing` for an item. -/
def tileRemoveThing (position : Position) (item count : Nat) : World :=
  match world.tile position with
  | none => world
  | some tile =>
    if getIndexOfThing world (.tile position) item = -1 then world
    else tileRemoveFrom env world position tile item count

/-- `Tile::__updateThing` -/
def tileUpdateThing (position : Position) (item itemId count : Nat) : World :=
  if getIndexOfThing world (.tile position) item = -1 then world
  else
    let before := updateTileFlags env world position item true
    let matter := ((before.item item).toMatter.setID itemId).setSubType env.items count
    let changed := before.withStock (before.toStock.setMatter item matter)
    updateTileFlags env (updateTileFlags env changed position item true) position item false

/-- Where an item comes among the items at the top of a tile. -/
def insertTop (item : Nat) : List Nat → List Nat
  | [] => [item]
  | other :: rest =>
    if
      (world.itemType env.items item).alwaysOnTopOrder ≤
        (world.itemType env.items other).alwaysOnTopOrder
    then item :: other :: rest
    else other :: insertTop item rest

/-- The old splash, if there is one, makes room for a new one. -/
def removeOldSplash (position : Position) (tile : Tile) : World :=
  match
    tile.topItems.find? fun other => (world.itemType env.items other).group = .splash
  with
  | none => world
  | some oldSplash =>
    let removed := tileRemoveThing env world position oldSplash 1
    removed.withStock (removed.toStock.setParent oldSplash none)

def oldField (tile : Tile) : Option Nat :=
  tile.downItems.find? fun other => (world.item other).itemClass = .magicField

/-- An item comes to the top of the other items below creatures' feet. -/
def addDownItem (position : Position) (item : Nat) : World :=
  match world.tile position with
  | none => world
  | some tile =>
    changeTile env world position
      { tile with downItems := item :: tile.downItems } item
      (some (.tile position)) false

def addTopItem (position : Position) (item : Nat) : World :=
  match world.tile position with
  | none => world
  | some tile =>
    changeTile env world position
      { tile with topItems := insertTop env world item tile.topItems } item
      (some (.tile position)) false

def addGround (position : Position) (tile : Tile) (item : Nat) : World :=
  let placed :=
    world.withStock
      ((world.toStock.setParent item (some (.tile position))).setTile position
        { tile with ground := some item })
  match tile.ground with
  | none => updateTileFlags env placed position item false
  | some oldGround =>
    let freed := placed.withStock (placed.toStock.setParent oldGround none)
    updateTileFlags env (updateTileFlags env freed position oldGround true) position item false

/-- `Tile::__addThing` for an item. -/
def tileAddThing (position : Position) (item : Nat) : World :=
  match world.tile position with
  | none => world
  | some tile =>
    let it := world.itemType env.items item
    if it.group = .ground then addGround env world position tile item
    else if it.alwaysOnTop then
      if it.group = .splash then
        addTopItem env (removeOldSplash env world position tile) position item
      else addTopItem env world position item
    else if it.type = .magicField then
      match oldField world tile with
      | none => addDownItem env world position item
      | some field =>
        if (world.itemType env.items field).replaceable then
          let removed := tileRemoveThing env world position field 1
          addDownItem env
            (removed.withStock (removed.toStock.setParent field none))
            position item
        else
          -- this magic field cannot be replaced
          world.withStock (world.toStock.setParent item none)
    else addDownItem env world position item

/-- `__removeThing` -/
def removeThing (cylinder : Cylinder) (item count : Nat) : Option World :=
  match cylinder with
  | .tile position => some (tileRemoveThing env world position item count)
  | .player id => some (playerRemoveThing env world id item count)
  | .item pointer =>
    if world.isContainer pointer then
      containerRemoveThing env world pointer item count
    else some world

/-- `__updateThing` -/
def updateThing (cylinder : Cylinder) (item itemId count : Nat) : Option World :=
  match cylinder with
  | .tile position => some (tileUpdateThing env world position item itemId count)
  | .player id => some (playerUpdateThing env world id item itemId count)
  | .item pointer =>
    if world.isContainer pointer then
      containerUpdateThing env world pointer item itemId count
    else some world

/-- `Player::postRemoveNotification` -/
def playerPostRemove (id item : Nat) (index : Int) (isCompleteRemoval : Bool) (link : Link) :
  Option World :=
  let told :=
    if link = .owner then
      env.onPlayerDeEquip id item index isCompleteRemoval world
    else some world
  told.map fun told =>
    if link = .owner ∨ link = .topParent then
      told.updateInventoryWeigth env.items id
    else told

/-- `postRemoveNotification` -/
def postRemoveNotification (world : World) (item : Nat) (index : Int)
  (isCompleteRemoval : Bool) : Nat → Cylinder → Link → Option World
  | 0, _, _ => none
  | fuel + 1, cylinder, link =>
    let tell := postRemoveNotification world item index isCompleteRemoval fuel
    match cylinder with
    | .tile position => env.onRemoveTileItem position item world
    | .player id =>
      playerPostRemove env world id item index isCompleteRemoval link
    | .item pointer =>
      if (world.item pointer).itemClass = .container then
        (world.getTopParent pointer).bind fun topParent =>
          match topParent with
          | some (.player id) => tell (.player id) .topParent
          | some other =>
            if other = .item pointer then
              match (world.item pointer).parent with
              | some parent => tell parent .near
              | none => some world
            else tell other .parent
          | none => some world
      else
        match (world.item pointer).parent with
        | some parent => tell parent .parent
        | none => some world

/-- The notification of a removal, with fuel for every parent. -/
def notifyRemoved (cylinder : Cylinder) (item : Nat) (index : Int) (isCompleteRemoval : Bool) :
  Option World :=
  postRemoveNotification env world item index isCompleteRemoval (world.next + 3) cylinder .owner

/-- `canRemove`; beds of houses are left out. -/
def canRemove (item : Nat) : Bool := (world.item item).itemClass != .depot

/-- `Game::internalRemoveItem` without `test`.  No count stands for -1. -/
def internalRemoveItem (item : Nat) (count : Option Nat) (flags : Flags) :
  Option (ReturnValue × World) :=
  match (world.item item).parent with
  | none => some (.notPossible, world)
  | some cylinder =>
    let count := count.getD (world.item item).count
    let ret := queryRemove env world cylinder item count { flags with ignoreNotMoveable := true }
    if ret ≠ .noError then some (ret, world)
    else if !canRemove world item then some (.notPossible, world)
    else
      let index := getIndexOfThing world cylinder item
      (removeThing env world cylinder item count).bind fun removed =>
        (removed.isRemoved item).bind fun isCompleteRemoval =>
          (notifyRemoved env removed cylinder item index
            isCompleteRemoval).map fun told => (.noError, told)

/-- `TrashHolder::__addThing` -/
def trashHolderAddThing (trashHolder item : Nat) : Option World :=
  if item ≠ trashHolder then
    (internalRemoveItem env world item none Flags.none).map (·.2)
  else some world

/-- `__addThing` -/
def addThing (cylinder : Cylinder) (index : Int) (item : Nat) : Option World :=
  match cylinder with
  | .tile position => some (tileAddThing env world position item)
  | .player id => some (playerAddThing world id index item)
  | .item pointer =>
    match (world.item pointer).itemClass with
    | .container => containerAddThing env world pointer index item
    | .depot => containerAddThing env world pointer index item
    | .teleport => env.teleport pointer item world
    | .trashHolder => trashHolderAddThing env world pointer item
    | .mailbox => env.mailbox pointer item world
    | _ => some world

/-- `Tile::getTeleportItem` -/
def getTeleportItem (tile : Tile) : Option Nat :=
  tile.topItems.find? fun other => (world.item other).itemClass = .teleport

/-- `Tile::getTrashHolder` -/
def getTrashHolder (tile : Tile) : Option Nat :=
  tile.things.find? fun other => (world.item other).itemClass = .trashHolder

/-- `Tile::getMailbox` -/
def getMailbox (tile : Tile) : Option Nat :=
  tile.things.find? fun other => (world.item other).itemClass = .mailbox

def actOnItem (position : Position) (item : Nat) : Option World :=
  match world.tile position with
  | none => some world
  | some tile =>
    match getTeleportItem world tile with
    | some teleport => env.teleport teleport item world
    | none =>
      match getTrashHolder world tile with
      | some trashHolder => trashHolderAddThing env world trashHolder item
      | none =>
        match getMailbox world tile with
        | some mailbox => env.mailbox mailbox item world
        | none => some world

/-- `Tile::postAddNotification` for an item. -/
def tilePostAdd (position : Position) (item : Nat) (link : Link) : Option World :=
  if link = .owner then
    (env.onAddTileItem position item world).bind fun told => actOnItem env told position item
  else some world

/-- `Player::postAddNotification` -/
def playerPostAdd (id item : Nat) (index : Int) (link : Link) : Option World :=
  let told :=
    if link = .owner then env.onPlayerEquip id item index world
    else some world
  told.map fun told =>
    if link = .owner ∨ link = .topParent then
      told.updateInventoryWeigth env.items id
    else told

/-- `postAddNotification` -/
def postAddNotification (world : World) (item : Nat) (index : Int) :
  Nat → Cylinder → Link → Option World
  | 0, _, _ => none
  | fuel + 1, cylinder, link =>
    let tell := postAddNotification world item index fuel
    match cylinder with
    | .tile position => tilePostAdd env world position item link
    | .player id => playerPostAdd env world id item index link
    | .item pointer =>
      if (world.item pointer).itemClass = .container then
        (world.getTopParent pointer).bind fun topParent =>
          match topParent with
          | some (.player id) => tell (.player id) .topParent
          | some other =>
            if other = .item pointer then
              match (world.item pointer).parent with
              | some parent => tell parent .near
              | none => some world
            else tell other .parent
          | none => some world
      else
        match (world.item pointer).parent with
        | some parent => tell parent .parent
        | none => some world

/-- The notification of an addition, with fuel for every parent. -/
def notifyAdded (cylinder : Cylinder) (item : Nat) (index : Int) : Option World :=
  postAddNotification env world item index (world.next + 3) cylinder .owner

end OTServ.Items
