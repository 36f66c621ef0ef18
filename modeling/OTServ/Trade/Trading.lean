import OTServ.Game.ReturnValue
import OTServ.Library.OrderedMap
import OTServ.Map.Position
import Mathlib.Data.Nat.Pairing

/-!
# Trading between players

The trade of `game.cpp`: a player offers an item to another one, who may offer
an item in return; when both have accepted the items change hands.  A trade is
closed by a player, by logout, and by the notifications which a player gets when
things are moved.

A `Player*` is represented by the creature id and an `Item*` by an address.  The
only items whose class matters are the house transfer documents: their address
determines the house they were made for.  What the trade asks the map and the
items is an argument of each operation.
-/

namespace OTServ.Trade

open Library
open Map

/-- An `Item*`; a house's transfer documents are numbered as they are made. -/
inductive Item where
  | plain (number : Nat)
  | houseTransfer (house serial : Nat)
deriving DecidableEq

/-- The address by which `std::map<Item*, uint32_t>` is ordered. -/
def Item.address : Item → Nat
  | .plain number => 2 * number
  | .houseTransfer house serial => 2 * Nat.pair house serial + 1

lemma Item.address_injective : Function.Injective Item.address := by
  intro left right equal
  cases left with
  | plain number =>
    cases right with
    | plain other =>
      have same : number = other := by
        simp only [Item.address] at equal
        omega
      rw [same]
    | houseTransfer house serial =>
      simp only [Item.address] at equal
      omega
  | houseTransfer house serial =>
    cases right with
    | plain other =>
      simp only [Item.address] at equal
      omega
    | houseTransfer otherHouse otherSerial =>
      have same : Nat.pair house serial = Nat.pair otherHouse otherSerial := by
        simp only [Item.address] at equal
        omega
      rcases Nat.pair_eq_pair.mp same with ⟨rfl, rfl⟩
      rfl

instance : LinearOrder Item :=
  LinearOrder.lift' Item.address Item.address_injective

/-- `tradestate_t` -/
inductive TradeState where
  | none
  | initiated
  | accept
  | acknowledge
  | transfer
deriving DecidableEq

/--
The fields of a player which trades read and write.  The guid numbers the
characters of the database from 1; 0 stands for nobody as the owner of a house.
-/
structure Player where
  id : Nat
  guid : Nat
  name : String
  level : Nat
  tradeState : TradeState
  tradeItem : Option Item
  tradePartner : Option Nat
  guid_ne_zero : guid ≠ 0

structure House where
  houseOwner : Nat
  isLoaded : Bool
  transferItem : Option Item
deriving DecidableEq

/--
The players in the game by creature id, the items on offer with the id of the
player who offers them, and the houses.  `nextSerial` numbers the documents.
-/
structure Game where
  players : OrderedMap Nat Player
  tradeItems : OrderedMap Item Nat
  houses : OrderedMap Nat House
  nextSerial : Nat

inductive Delivery where
  | infoDescr (receiver : Nat) (text : String)
  | statusSmall (receiver : Nat) (text : String)
  | cancel (receiver : Nat) (text : String)
  | cancelMessage (receiver : Nat) (message : ReturnValue)
  | tradeItemRequest
      (receiver trader : Nat) (item : Option Item) (acknowledge : Bool)
  | tradeClose (receiver : Nat)
  | autoWalk (receiver : Nat)
deriving DecidableEq

/-- The state an operation leaves, what it has sent and the `bool` it returns. -/
structure Answer where
  game : Game
  sent : List Delivery
  result : Bool

def Game.setPlayer (game : Game) (player : Player) : Game :=
  { game with players := game.players.insert player.id player }

def Game.modifyHouse (game : Game) (houseId : Nat) (change : House → House) : Game :=
  match game.houses.find? houseId with
  | none => game
  | some house =>
    { game with houses := game.houses.insert houseId (change house) }

/-- `Game::getPlayerByID`; the id 0 is never in use. -/
def Game.getPlayerByID (game : Game) (id : Nat) : Option Player :=
  if id = 0 then none else game.players.find? id

/-- `Game::internalStartTrade`. -/
def Game.internalStartTrade
  (game : Game) (player tradePartner : Player) (tradeItem : Item) : Answer :=
  if player.tradeState ≠ .none ∧
      ¬(player.tradeState = .acknowledge ∧ player.tradePartner = some tradePartner.id) then
    ⟨game, [.cancelMessage player.id .youAreAlreadyTrading], false⟩
  else if tradePartner.tradeState ≠ .none ∧
      tradePartner.tradePartner ≠ some player.id then
    ⟨game, [.cancelMessage player.id .thisPlayerIsAlreadyTrading], false⟩
  else
    let started : Game :=
      { game.setPlayer
          { player with
            tradePartner := some tradePartner.id
            tradeItem := some tradeItem
            tradeState := .initiated } with
        tradeItems := game.tradeItems.insert tradeItem player.id }
    let request : Delivery := .tradeItemRequest player.id player.id (some tradeItem) true
    if tradePartner.tradeState = .none then
      ⟨started.setPlayer
          { tradePartner with
            tradeState := .acknowledge
            tradePartner := some player.id },
        [request, .infoDescr tradePartner.id (player.name ++ " wants to trade with you.")],
        true⟩
    else
      ⟨started,
        [request,
          .tradeItemRequest player.id tradePartner.id tradePartner.tradeItem false,
          .tradeItemRequest tradePartner.id player.id (some tradeItem) false],
        true⟩

/-- The thing which `internalGetThing` finds, when it is an item. -/
structure RequestedItem where
  number : Nat
  clientId : Nat
  isPickupable : Bool
  uniqueId : Nat
  position : Position
  /-- `getItemHoldingCount` of a container -/
  itemHoldingCount : Option Nat

/-- What `playerRequestTrade` asks the map and the items. -/
structure RequestScene where
  playerPosition : Position
  partnerPosition : Position
  thing : Option RequestedItem
  /-- `isHoldingItem`; an item which is not a container holds nothing -/
  isHoldingItem : Item → Item → Bool
  /-- `getPathToEx` -/
  hasPath : Bool

/-- `Game::playerRequestTrade`. -/
def Game.playerRequestTrade (game : Game) (playerId tradePlayerId spriteId : Nat)
  (scene : RequestScene) : Answer :=
  match game.getPlayerByID playerId with
  | none => ⟨game, [], false⟩
  | some player =>
    match game.getPlayerByID tradePlayerId with
    | none =>
      ⟨game, [.infoDescr player.id "Sorry, not possible."], false⟩
    | some tradePartner =>
      if tradePartner.id = player.id then
        ⟨game, [.infoDescr player.id "Sorry, not possible."], false⟩
      else if !areInRange 2 2 0 scene.partnerPosition
          scene.playerPosition then
        ⟨game,
          [.infoDescr player.id (tradePartner.name ++ " tells you to move closer.")],
          false⟩
      else
        match scene.thing with
        | none => ⟨game, [.cancelMessage player.id .notPossible], false⟩
        | some thing =>
          let tradeItem : Item := .plain thing.number
          if thing.clientId ≠ spriteId ∨ !thing.isPickupable ∨
              thing.uniqueId ≠ 0 then
            ⟨game, [.cancelMessage player.id .notPossible], false⟩
          else if thing.position.z < scene.playerPosition.z then
            ⟨game, [.cancelMessage player.id .firstGoUpStairs], false⟩
          else if scene.playerPosition.z < thing.position.z then
            ⟨game, [.cancelMessage player.id .firstGoDownStairs], false⟩
          else if !areInRange 1 1 0 thing.position
              scene.playerPosition then
            -- walk there; the request is scheduled to be made again
            if scene.hasPath then
              ⟨game, [.autoWalk player.id], true⟩
            else
              ⟨game, [.cancelMessage player.id .thereIsNoWay], false⟩
          else if game.tradeItems.entries.any fun entry =>
              decide (tradeItem = entry.1) ||
                scene.isHoldingItem tradeItem entry.1 || scene.isHoldingItem entry.1 tradeItem then
            ⟨game,
              [.infoDescr player.id "This item is already being traded."],
              false⟩
          else if (thing.itemHoldingCount.map
              fun count => decide (100 < count + 1)) = some true then
            ⟨game,
              [.infoDescr player.id "You can not trade more than 100 items."],
              false⟩
          else
            game.internalStartTrade player tradePartner tradeItem

/-- `House::resetTransferItem`. -/
def Game.resetTransferItem (game : Game) (houseId : Nat) : Game :=
  game.modifyHouse houseId fun house => { house with transferItem := none }

/-- `onTradeEvent(ON_TRADE_CANCEL)`. -/
def Game.onTradeCancel (game : Game) : Item → Game
  | .plain _ => game
  | .houseTransfer house _ => game.resetTransferItem house

/-- What `internalCloseTrade` does to the player and again to the partner. -/
def Game.cancelTradeOf (game : Game) (player : Player) : Game × List Delivery :=
  let cancelled : Game :=
    match player.tradeItem with
    | none => game
    | some tradeItem =>
      { game with
        tradeItems := game.tradeItems.erase tradeItem }.onTradeCancel tradeItem
  (cancelled.setPlayer
      { player with
        tradeItem := none
        tradeState := .none
        tradePartner := none },
    [.statusSmall player.id "Trade cancelled.", .tradeClose player.id])

/-- `Game::internalCloseTrade`. -/
def Game.internalCloseTrade (game : Game) (playerId : Nat) : Game × List Delivery :=
  match game.players.find? playerId with
  | none => (game, [])
  | some player =>
    let tradePartner := player.tradePartner.bind game.players.find?
    if (tradePartner.map (·.tradeState)) = some .transfer ∨
        player.tradeState = .transfer then
      -- a warning is printed
      (game, [])
    else
      let first := game.cancelTradeOf player
      match tradePartner with
      | none => first
      | some partner =>
        let second := first.1.cancelTradeOf partner
        (second.1, first.2 ++ second.2)

/-- `Game::playerCloseTrade`. -/
def Game.playerCloseTrade (game : Game) (playerId : Nat) : Game × List Delivery :=
  match game.getPlayerByID playerId with
  | none => (game, [])
  | some player => game.internalCloseTrade player.id

/-! ## The notifications of a player -/

structure MovedItem where
  item : Item
  /-- the containers around the item, from the inside -/
  containers : List Item
  /-- `isHoldingItem` of the item, when it is a container -/
  isHoldingItem : Item → Bool

structure NotifyingContainer where
  isHoldingItem : Item → Bool
  /-- the item's `getParent()` is this container -/
  isParentOf : Item → Bool

section Notifications

variable (game : Game) (playerId : Nat)

/-- The player's own fields, as far as a notification reads them. -/
def Game.offer : Option (TradeState × Option Item) :=
  (game.players.find? playerId).map fun player => (player.tradeState, player.tradeItem)

/-- `Player::checkTradeState`. -/
def Game.checkTradeState (moved : MovedItem) : Game × List Delivery :=
  match game.offer playerId with
  | some (tradeState, some tradeItem) =>
    if tradeState ≠ .transfer ∧
        (tradeItem = moved.item ∨ tradeItem ∈ moved.containers) then
      game.internalCloseTrade playerId
    else
      (game, [])
  | _ => (game, [])

/-- Close the trade when the item on offer satisfies a condition. -/
def Game.closeTradeWhen (condition : Item → Bool) : Game × List Delivery :=
  match game.offer playerId with
  | some (_, some tradeItem) =>
    if condition tradeItem then
      game.internalCloseTrade playerId
    else
      (game, [])
  | _ => (game, [])

/--
`Player::onRemoveTileItem`, `Player::onRemoveInventoryItem` and
`Player::onRemoveContainerItem`, which differ in the last condition.
-/
def Game.onRemoveItem (moved : MovedItem) (condition : Item → Bool) : Game × List Delivery :=
  match game.offer playerId with
  | none => (game, [])
  | some (tradeState, _) =>
    if tradeState ≠ .transfer then
      let checked := game.checkTradeState playerId moved
      let closed := checked.1.closeTradeWhen playerId condition
      (closed.1, checked.2 ++ closed.2)
    else
      (game, [])

/-- `Player::onRemoveTileItem`, the same as `Player::onRemoveInventoryItem`. -/
def Game.onRemoveTileItem (moved : MovedItem) : Game × List Delivery :=
  game.onRemoveItem playerId moved moved.isHoldingItem

/-- `Player::onRemoveContainerItem`. -/
def Game.onRemoveContainerItem
  (container : NotifyingContainer) (moved : MovedItem) : Game × List Delivery :=
  game.onRemoveItem playerId moved fun tradeItem =>
    !container.isParentOf tradeItem && container.isHoldingItem tradeItem

/-- `Player::onUpdateTileItem`. -/
def Game.onUpdateTileItem (old : MovedItem) (newItem : Item) : Game × List Delivery :=
  let removed :=
    if old.item ≠ newItem then
      game.onRemoveTileItem playerId old
    else
      (game, [])
  match removed.1.offer playerId with
  | some (tradeState, some tradeItem) =>
    if tradeState ≠ .transfer ∧ old.item = tradeItem then
      let closed := removed.1.internalCloseTrade playerId
      (closed.1, removed.2 ++ closed.2)
    else
      removed
  | _ => removed

/-- `Player::onUpdateInventoryItem`. -/
def Game.onUpdateInventoryItem (old : MovedItem) (newItem : Item) : Game × List Delivery :=
  let removed :=
    if old.item ≠ newItem then
      game.onRemoveTileItem playerId old
    else
      (game, [])
  let checked := removed.1.checkTradeState playerId old
  (checked.1, removed.2 ++ checked.2)

/-- `Player::onUpdateContainerItem`. -/
def Game.onUpdateContainerItem
  (container : NotifyingContainer) (old : MovedItem) (newItem : Item) :
  Game × List Delivery :=
  let removed :=
    if old.item ≠ newItem then
      game.onRemoveContainerItem playerId container old
    else
      (game, [])
  let checked := removed.1.checkTradeState playerId old
  (checked.1, removed.2 ++ checked.2)

/-- `Player::onAddContainerItem`. -/
def Game.onAddContainerItem (moved : MovedItem) : Game × List Delivery :=
  game.checkTradeState playerId moved

/-- `Player::onCreatureMove` of the player itself, with where the item and the partner are. -/
def Game.onCreatureMove (position : Position) (itemPosition : Item → Position)
  (partnerPosition : Nat → Position) : Game × List Delivery :=
  match game.offer playerId with
  | none => (game, [])
  | some (tradeState, _) =>
    if tradeState ≠ .transfer then
      let first :=
        game.closeTradeWhen playerId fun tradeItem =>
          !areInRange 1 1 0 (itemPosition tradeItem) position
      match (first.1.players.find? playerId).bind (·.tradePartner) with
      | none => first
      | some tradePartner =>
        if !areInRange 2 2 0 (partnerPosition tradePartner) position then
          let second := first.1.internalCloseTrade playerId
          (second.1, first.2 ++ second.2)
        else
          first
    else
      (game, [])

/--
`Game::removeCreature` of a player, who logs out or dies: `onCreatureDisappear`
closes the trade, then the player leaves the table.
-/
def Game.removePlayer : Game × List Delivery :=
  match game.players.find? playerId with
  | none => (game, [])
  | some player =>
    let closed :=
      if player.tradePartner.isSome then
        game.internalCloseTrade playerId
      else
        (game, [])
    ({ closed.1 with players := closed.1.players.erase playerId }, closed.2)

end Notifications

end OTServ.Trade
