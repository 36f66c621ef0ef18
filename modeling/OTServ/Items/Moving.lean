import OTServ.Items.Changes

/-!
# Moving items

`Game::internalMoveItem` and `Game::internalAddItem`.  The move is cut where the
source has its sections: the search for the destination, the question whether
the item can be added with the exchange that may follow it, and the removal and
addition themselves.
-/

namespace OTServ.Items

variable (env : Env) (world : World)

/--
What a move returns.  `moveItem` is what the last parameter of
`internalMoveItem` is set to; it is set at the end only, so there is none where
the function has returned before.
-/
structure Moved where
  ret : ReturnValue
  moveItem : Option Nat
  world : World

structure Settled where
  ret : ReturnValue
  toItem : Option Nat
  world : World

/-- The item which is in the way goes back to where the other one comes from. -/
def handOver (fromCylinder toCylinder : Cylinder) (toItem : Nat) : Option World :=
  let oldToItemIndex := getIndexOfThing world toCylinder toItem
  (removeThing env world toCylinder toItem (world.item toItem).count).bind
    fun removed =>
      (addThing env removed fromCylinder 0 toItem).bind fun added =>
        let told :=
          if oldToItemIndex ≠ -1 then
            notifyRemoved env added toCylinder toItem oldToItemIndex true
          else some added
        told.bind fun told =>
          let newToItemIndex := getIndexOfThing told fromCylinder toItem
          if newToItemIndex ≠ -1 then
            notifyAdded env told fromCylinder toItem newToItemIndex
          else some told

/-- The exchange of the item with the one that is in its way. -/
def exchange (fromCylinder : Cylinder) (item count : Nat) (found : Destination) (toItem : Nat) :
  Option Settled :=
  let fromIndex := getIndexOfThing world fromCylinder item
  let toCount := (world.item toItem).count
  (queryAdd env world fromCylinder fromIndex toItem toCount Flags.none).bind
    fun ret =>
      if ret ≠ .noError then some ⟨ret, toItem, world⟩
      else
        let max := queryMaxCount env world fromCylinder (-1) toItem toCount Flags.none
        if max.1 ≠ .noError ∧ max.2 = 0 then some ⟨max.1, toItem, world⟩
        else if queryRemove env world found.cylinder toItem toCount found.flags = .noError
        then
          (handOver env world fromCylinder found.cylinder toItem).bind
            fun changed =>
              (queryAdd env changed found.cylinder found.index item count
                found.flags).map fun ret => ⟨ret, none, changed⟩
        else some ⟨.noError, toItem, world⟩

/-- Whether the destination takes the item, if need be for another one. -/
def settle (fromCylinder : Cylinder) (item count : Nat) (found : Destination) : Option Settled :=
  (queryAdd env world found.cylinder found.index item count found.flags).bind
    fun ret =>
      if ret = .needExchange then
        -- without an item in the way the source dereferences null
        found.toItem.bind fun toItem => exchange env world fromCylinder item count found toItem
      else some ⟨ret, found.toItem, world⟩

/-- What is added to the destination and what is there already. -/
structure Split where
  moveItem : Option Nat
  updateItem : Option Nat
  world : World

structure Relocated extends Split where
  isCompleteRemoval : Bool

/-- A stack fills up the one in its way; the rest becomes a new stack. -/
def splitStack (toCylinder : Cylinder) (item m : Nat) (toItem : Option Nat) : Option Split :=
  let id := (world.item item).id
  let merged :=
    match toItem with
    | none => some (0, none, world)
    | some target =>
      if (world.item target).id = id then
        let n := min (room (world.item target).count) m
        (updateThing env world toCylinder target id
          ((world.item target).count + n)).map fun raised => (n, some target, raised)
      else some (0, none, world)
  merged.map fun (n, updateItem, raised) =>
    if 0 < m - n then
      let created := raised.createItem env.items id (m - n)
      ⟨created.1, updateItem, created.2⟩
    else ⟨none, updateItem, raised⟩

/-- The notification about an item that has been added, if it is there. -/
def notifyIfAdded (cylinder : Cylinder) (item : Option Nat) : Option World :=
  match item with
  | none => some world
  | some item =>
    let index := getIndexOfThing world cylinder item
    if index ≠ -1 then notifyAdded env world cylinder item index
    else some world

def relocate (fromCylinder : Cylinder) (found : Destination) (item m : Nat) (toItem : Option Nat) :
  Option Relocated :=
  (removeThing env world fromCylinder item m).bind fun removed =>
    (removed.isRemoved item).bind fun isCompleteRemoval =>
      let split :=
        if removed.isStackable env.items item then
          splitStack env removed found.cylinder item m toItem
        else some ⟨some item, none, removed⟩
      split.bind fun split =>
        match split.moveItem with
        | none => some ⟨split, isCompleteRemoval⟩
        | some moveItem =>
          (addThing env split.world found.cylinder found.index moveItem).map
            fun added => ⟨{ split with world := added }, isCompleteRemoval⟩

def announce (fromCylinder toCylinder : Cylinder) (item : Nat) (itemIndex : Int)
  (moved : Relocated) : Option World :=
  let told :=
    if itemIndex ≠ -1 then
      notifyRemoved env moved.world fromCylinder item itemIndex moved.isCompleteRemoval
    else some moved.world
  told.bind fun told =>
    (notifyIfAdded env told toCylinder moved.moveItem).bind fun told =>
      notifyIfAdded env told toCylinder moved.updateItem

/-- The units of the item that are taken from the source. -/
def unitsToMove (item count maxQueryCount : Nat) : Nat :=
  if world.isStackable env.items item then min count maxQueryCount
  else maxQueryCount

def carryOut (fromCylinder : Cylinder) (item count : Nat) (found : Destination)
  (toItem : Option Nat) (max : ReturnValue × Nat) : Option Moved :=
  let m := unitsToMove env world item count max.2
  let itemIndex := getIndexOfThing world fromCylinder item
  (relocate env world fromCylinder found item m toItem).bind fun moved =>
    (announce env fromCylinder found.cylinder item itemIndex moved).map
      fun told =>
        { ret :=
            if world.isStackable env.items item ∧ max.2 < count then max.1
            else .noError
          moveItem := some (moved.moveItem.getD item)
          world := told }

/-- The questions to both cylinders before anything is removed. -/
def finish
  (fromCylinder : Cylinder) (item count : Nat) (found : Destination)
  (toItem : Option Nat) : Option Moved :=
  let max := queryMaxCount env world found.cylinder found.index item count found.flags
  if max.1 ≠ .noError ∧ max.2 = 0 then some ⟨max.1, none, world⟩
  else
    let ret :=
      queryRemove env world fromCylinder item (unitsToMove env world item count max.2) found.flags
    if ret ≠ .noError then some ⟨ret, none, world⟩
    else carryOut env world fromCylinder item count found toItem max

/-- `Game::internalMoveItem` -/
def internalMoveItem (fromCylinder : Cylinder) (toCylinder : Option Cylinder) (index : Int)
  (item count : Nat) (flags : Flags) : Option Moved :=
  match toCylinder with
  | none => some ⟨.notPossible, none, world⟩
  | some toCylinder =>
    (findDestination env world item mapMaxLayers
      ⟨toCylinder, index, none, flags⟩).bind fun found =>
        -- destination is the same as the source
        if found.toItem = some item then some ⟨.noError, none, world⟩
        else
          (settle env world fromCylinder item count found).bind fun settled =>
            if settled.ret ≠ .noError then
              some ⟨settled.ret, none, settled.world⟩
            else
              finish env settled.world fromCylinder item count found settled.toItem

def placeNew (found : Destination) (item m : Nat) : Option World :=
  let split :=
    if world.isStackable env.items item then
      let merged :=
        match found.toItem with
        | none => some (0, world)
        | some target =>
          if (world.item target).id = (world.item item).id then
            let n := min (room (world.item target).count) m
            (updateThing env world found.cylinder target
              (world.item target).id
              ((world.item target).count + n)).map fun raised => (n, raised)
          else some (0, world)
      merged.map fun (n, raised) =>
        if 0 < m - n then
          if m - n ≠ (world.item item).count then
            raised.createItem env.items (world.item item).id (m - n)
          else (some item, raised)
        else (none, raised)
    else some (some item, world)
  split.bind fun (moveItem, split) =>
    match moveItem with
    | some moveItem =>
      (addThing env split found.cylinder found.index moveItem).bind
        fun added => notifyIfAdded env added found.cylinder (some moveItem)
    | none => notifyIfAdded env split found.cylinder (some item)

/-- `Game::internalAddItem` without `test`. -/
def internalAddItem (toCylinder : Cylinder) (item : Nat) (index : Int) (flags : Flags) :
  Option (ReturnValue × World) :=
  (queryDestination env world item ⟨toCylinder, index, none, flags⟩).bind
    fun found =>
      let count := (world.item item).count
      (queryAdd env world found.cylinder found.index item count
        found.flags).bind fun ret =>
          if ret ≠ .noError then some (ret, world)
          else
            let max := queryMaxCount env world found.cylinder found.index item count found.flags
            if max.1 ≠ .noError then some (max.1, world)
            else
              (placeNew env world found item
                (unitsToMove env world item count max.2)).map fun placed => (.noError, placed)

end OTServ.Items
