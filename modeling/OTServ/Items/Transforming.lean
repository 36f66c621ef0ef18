import OTServ.Items.Moving

/-!
# Items that become others

`__replaceThing` and `Game::transformItem` without a new count.  An item whose
new type is of the same kind is changed where it lies; any other one makes room
for a new item.
-/

namespace OTServ.Items

open Map

variable (env : Env) (world : World)

/-- `Item::getSubType` -/
def Matter.getSubType (items : ItemTable) (matter : Matter) : Nat :=
  let it := items matter.id
  if it.group = .fluid ∨ it.group = .splash then matter.fluidType
  else if it.charges ≠ 0 then matter.charges
  else matter.count

/-- `Item::setDefaultSubtype` -/
def Matter.setDefaultSubtype (items : ItemTable) (matter : Matter) : Matter :=
  let it := items matter.id
  { matter with
    count := 1
    charges := if it.charges ≠ 0 then it.charges % 65536 else matter.charges }

/-- `Container::__replaceThing` -/
def containerReplaceThing (container : Nat) (index : Int) (item : Nat) : Option World :=
  let itemlist := (world.item container).itemlist
  match containerItem world container index with
  | none => some world
  | some oldItem =>
    (world.updateItemWeight container
      (world.getWeight env.items item - world.getWeight env.items oldItem)).map fun weighed =>
      weighed.withStock
        (((weighed.toStock.setParent item
          (some (.item container))).setParent oldItem none).setItemlist
            container (itemlist.set index.toNat item))

/-- `Player::__replaceThing` -/
def playerReplaceThing (id : Nat) (index : Int) (item : Nat) : World :=
  match inventoryItem world id index with
  | none => world
  | some _ =>
    world.withStock
      ((world.toStock.setParent item (some (.player id))).setInventory id index.toNat (some item))

/-- A tile on which an item has come in the place of another one. -/
def exchangeOnTile (position : Position) (tile : Tile) (oldItem item : Nat) : World :=
  let changed :=
    changeTile env
      (world.withStock (world.toStock.setParent item (some (.tile position))))
      position tile oldItem none true
  updateTileFlags env changed position item false

/-- `Tile::__replaceThing` -/
def tileReplaceThing (position : Position) (index : Int) (item : Nat) : World :=
  match world.tile position with
  | none => world
  | some tile =>
    let place := index - tile.ground.toList.length
    let below := place - tile.topItems.length - world.creatures position
    let put := exchangeOnTile env world position
    if place < 0 then
      match tile.ground with
      | some oldItem => put { tile with ground := some item } oldItem item
      | none => world
    else if place < tile.topItems.length then
      match tile.topItems[place.toNat]? with
      | some oldItem =>
        put { tile with topItems := tile.topItems.set place.toNat item } oldItem item
      | none => world
    else if 0 ≤ below then
      match tile.downItems[below.toNat]? with
      | some oldItem =>
        put { tile with downItems := tile.downItems.set below.toNat item } oldItem item
      | none => world
    -- there is a creature at the index
    else world

/-- `__replaceThing` -/
def replaceThing (cylinder : Cylinder) (index : Int) (item : Nat) : Option World :=
  match cylinder with
  | .tile position => some (tileReplaceThing env world position index item)
  | .player id => some (playerReplaceThing world id index item)
  | .item pointer =>
    if world.isContainer pointer then
      containerReplaceThing env world pointer index item
    else some world

/-- A new item comes and the old one goes; they differ in always-on-top. -/
def transformAnew (cylinder : Cylinder) (item newId : Nat) : Option (Option Nat × World) :=
  (internalRemoveItem env world item none Flags.none).bind
    fun (ret, removed) =>
      if ret ≠ .noError then some (some item, removed)
      else
        match removed.createItem env.items newId 0 with
        -- the source dereferences null
        | (none, _) => none
        | (some newItem, created) =>
          (internalAddItem env created cylinder newItem (-1)
            { Flags.none with noLimit := true }).map fun (ret, added) =>
              if ret ≠ .noError then (none, added) else (some newItem, added)

def transformInPlace (cylinder : Cylinder) (item newId : Nat) : Option World :=
  let itemIndex := getIndexOfThing world cylinder item
  (notifyRemoved env world cylinder item itemIndex false).bind fun told =>
    let matter := (told.item item).toMatter
    let count := matter.getSubType env.items
    let reset :=
      if (env.items newId).group ≠ (env.items matter.id).group then
        told.withStock (told.toStock.setMatter item (matter.setDefaultSubtype env.items))
      else told
    (updateThing env reset cylinder item newId count).bind fun changed =>
      notifyAdded env changed cylinder item itemIndex

def transformReplaced (cylinder : Cylinder) (item newId : Nat) : Option (Option Nat × World) :=
  let itemIndex := getIndexOfThing world cylinder item
  match world.createItem env.items newId 0 with
  | (none, _) => some (none, world)
  | (some newItem, created) =>
    (replaceThing env created cylinder itemIndex newItem).bind
      fun replaced =>
        (notifyAdded env replaced cylinder newItem itemIndex).bind
          fun told =>
            (notifyRemoved env
              (told.withStock (told.toStock.setParent item none)) cylinder
              item itemIndex true).map fun told => (some newItem, told)

/-- `Game::transformItem` without a new count -/
def transformItem (item newId : Nat) : Option (Option Nat × World) :=
  if (world.item item).id = newId then some (some item, world)
  else
    match (world.item item).parent with
    | none => some (none, world)
    | some cylinder =>
      if getIndexOfThing world cylinder item = -1 then
        some (some item, world)
      else
        let curType := world.itemType env.items item
        let newType := env.items newId
        if curType.alwaysOnTop ≠ newType.alwaysOnTop then
          transformAnew env world cylinder item newId
        else if curType.type = newType.type then
          (transformInPlace env world cylinder item newId).map fun changed => (some item, changed)
        else transformReplaced env world cylinder item newId

end OTServ.Items
