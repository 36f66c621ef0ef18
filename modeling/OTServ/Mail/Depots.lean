import OTServ.Items.ItemAttributes
import OTServ.Items.Transforming
import OTServ.Library.Numbering
import OTServ.Library.OrderedMap

/-!
# Depots

A player has depots by number.  For the players online they are containers in
memory; for the others they are rows in the database, each with a number `sid`
of its own and with the number `pid` of the container in which its item is, or
that of the depot.

`IOPlayer::loadPlayer` makes items of rows, `IOPlayer::savePlayer` rows of
items.  Only the part for the items in depots is here.
-/

namespace OTServ.Mail

open Attributes
open Items
open Library

abbrev DepotMap := OrderedMap Nat Nat

/--
A row of `player_depotitems`.  `item` is the object of which the row has been
written; no query asks for it.
-/
structure Row where
  pid : Nat
  sid : Nat
  itemtype : Nat
  count : Nat
  attributes : ItemAttributes
  item : Nat

/--
What the queries of `loadPlayer` answer.  The rows come in descending order, and
no container has a higher number than what is in it.
-/
structure Loaded where
  guid : Nat
  maxDepotLimit : Nat
  rows : List Row
  descending : rows.Pairwise fun left right => right.sid < left.sid
  nested : ∀ row ∈ rows, 100 ≤ row.pid → row.pid < row.sid

/--
The world with what the items in it say, the players online by their names, the
depots of these and the rows of all characters by `guid`.
-/
structure Office where
  world : World
  attributes : Nat → ItemAttributes
  listPlayer : List (Nat × String)
  maxDepotLimit : Nat → Nat
  depots : Nat → DepotMap
  saved : Nat → List Row

/-- `Item::getText` -/
def Office.getText (office : Office) (item : Nat) : String :=
  (office.attributes item).getStrAttr .text

/-- `Container::__internalAddThing` -/
def internalAddThing (items : ItemTable) (world : World) (container item : Nat) : Option World :=
  let stock :=
    (world.toStock.setParent item (some (.item container))).setItemlist
      container (item :: (world.item container).itemlist)
  (world.withStock stock).updateItemWeight container (world.getWeight items item)

/-- `Depot::setMaxDepotLimit` -/
def setMaxDepotLimit (world : World) (depot limit : Nat) : World :=
  world.withStock
    (world.toStock.setMatter depot { (world.item depot).toMatter with maxDepotLimit := limit })

structure Storage where
  world : World
  depots : DepotMap

/-- `Player::addDepot` -/
def addDepot (storage : Storage) (limit depot depotId : Nat) : Storage :=
  if storage.depots.contains depotId then storage
  else
    { world := setMaxDepotLimit storage.world depot limit
      depots := storage.depots.insert depotId depot }

/-- `Player::getDepot`, which makes the depot if there is none. -/
def getDepot (items : ItemTable) (storage : Storage) (limit depotId : Nat) :
  Option (Option Nat × Storage) :=
  match storage.depots.find? depotId with
  | some depot => some (some depot, storage)
  | none =>
    match storage.world.createItem items 2589 0 with
    -- the source dereferences null
    | (none, _) => none
    | (some tmpDepot, created) =>
      if (created.item tmpDepot).itemClass = .depot then
        match created.createItem items 2594 0 with
        | (none, _) => none
        | (some depotChest, furnished) =>
          (internalAddThing items furnished tmpDepot depotChest).map
            fun filled =>
              (some tmpDepot, addDepot { storage with world := filled } limit tmpDepot depotId)
      else some (none, { storage with world := created })

structure Block where
  sid : Nat
  pid : Nat
  item : Nat

structure Loading where
  world : World
  attributes : Nat → ItemAttributes
  itemMap : List Block

/-- `IOPlayer::loadItems` -/
def loadItems (items : ItemTable) : List Row → Loading → Loading
  | [], loading => loading
  | row :: rest, loading =>
    match loading.world.createItem items row.itemtype row.count with
    | (none, _) => loadItems items rest loading
    | (some item, created) =>
      loadItems items rest
        { world := created
          attributes := Function.update loading.attributes item row.attributes
          itemMap := loading.itemMap ++ [⟨row.sid, row.pid, item⟩] }

def placeItems (items : ItemTable) (limit : Nat) (itemMap : List Block) :
  List Block → Storage → Option Storage
  | [], storage => some storage
  | block :: rest, storage =>
    if block.pid < 100 then
      if (storage.world.item block.item).itemClass = .depot then
        placeItems items limit itemMap rest (addDepot storage limit block.item block.pid)
      else placeItems items limit itemMap rest storage
    else
      match itemMap.find? fun other => other.sid = block.pid with
      | none => placeItems items limit itemMap rest storage
      | some other =>
        if storage.world.isContainer other.item then
          (internalAddThing items storage.world other.item
            block.item).bind fun added =>
              placeItems items limit itemMap rest { storage with world := added }
        else placeItems items limit itemMap rest storage

/-- The depots of a character that is loaded, and what the new items say. -/
def loadDepots (items : ItemTable) (office : Office) (loaded : Loaded) :
  Option (Storage × (Nat → ItemAttributes)) :=
  let made :=
    loadItems items loaded.rows
      { world := office.world
        attributes := office.attributes
        itemMap := [] }
  (placeItems items loaded.maxDepotLimit made.itemMap made.itemMap
    { world := made.world, depots := OrderedMap.empty }).map
      fun storage => (storage, made.attributes)

def rowOf (items : ItemTable) (world : World) (attributes : Nat → ItemAttributes)
  (entry : Numbering.Entry Nat) : Row
  where
  pid := entry.parent
  sid := entry.id
  itemtype := (world.item entry.node).id
  count := (world.item entry.node).toMatter.getSubType items
  attributes := attributes entry.node
  item := entry.node

/-- `IOPlayer::saveItems` -/
def saveItems (items : ItemTable) (world : World) (attributes : Nat → ItemAttributes)
  (itemList : List (Nat × Nat)) : Option (List Row) :=
  (Numbering.forest (fun container => (world.item container).itemlist)
    world.isContainer world.next itemList 100).map (List.map (rowOf items world attributes))

/--
What becomes of a save.  A character whose column `save` is 0 keeps its rows,
and that is no failure.
-/
inductive SaveAnswer where
  | fails
  | keeps
  | writes
deriving DecidableEq

/-- `IOPlayer::savePlayer` -/
def savePlayer (items : ItemTable) (office : Office) (guid : Nat) (depots : DepotMap)
  (answer : SaveAnswer) : Option (Bool × Office) :=
  match answer with
  | .fails => some (false, office)
  | .keeps => some (true, office)
  | .writes =>
    (saveItems items office.world office.attributes depots.entries).map
      fun rows => (true, { office with saved := Function.update office.saved guid rows })

end OTServ.Mail
