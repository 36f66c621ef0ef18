import OTServ.Library.GuardedRuns
import OTServ.Trade.Trading

/-!
# Accepting trades and selling houses

`Game::playerAcceptTrade`, the sale of a house by trading its transfer document,
and the changes of a house's owner which happen beside the trade.

Moving the traded items, and the kicks and moves of a house which changes its
owner, notify players and may run scripts while the two traders are in
`TRADE_TRANSFER`; what they set off is given as a list of notices.
-/

namespace OTServ.Trade

open Library
open Library.GuardedRuns
open Map

/-- A notification of a player, or what a script does in between. -/
inductive Notice where
  | addContainerItem (playerId : Nat) (moved : MovedItem)
  | updateContainerItem
      (playerId : Nat) (container : NotifyingContainer)
      (old : MovedItem) (newItem : Item)
  | removeContainerItem
      (playerId : Nat) (container : NotifyingContainer) (moved : MovedItem)
  | updateInventoryItem (playerId : Nat) (old : MovedItem) (newItem : Item)
  | removeInventoryItem (playerId : Nat) (moved : MovedItem)
  | updateTileItem (playerId : Nat) (old : MovedItem) (newItem : Item)
  | removeTileItem (playerId : Nat) (moved : MovedItem)
  | creatureMove
      (playerId : Nat) (position : Position)
      (itemPosition : Item → Position) (partnerPosition : Nat → Position)
  | removePlayer (playerId : Nat)
  | setHouseOwner (houseId guid : Nat) (nameKnown : Bool)

/-- The fields which `House::setHouseOwner` sets, past its kicks and moves. -/
def House.setOwner (house : House) (guid : Nat) (nameKnown : Bool) : House :=
  if house.isLoaded ∧ house.houseOwner = guid then
    house
  else
    { house with
      isLoaded := true
      houseOwner := if guid ≠ 0 ∧ nameKnown then guid else 0 }

def Game.notify (game : Game) : Notice → Game × List Delivery
  | .addContainerItem playerId moved => game.onAddContainerItem playerId moved
  | .updateContainerItem playerId container old newItem =>
    game.onUpdateContainerItem playerId container old newItem
  | .removeContainerItem playerId container moved =>
    game.onRemoveContainerItem playerId container moved
  | .updateInventoryItem playerId old newItem =>
    game.onUpdateInventoryItem playerId old newItem
  | .removeInventoryItem playerId moved => game.onRemoveTileItem playerId moved
  | .updateTileItem playerId old newItem =>
    game.onUpdateTileItem playerId old newItem
  | .removeTileItem playerId moved => game.onRemoveTileItem playerId moved
  | .creatureMove playerId position itemPosition partnerPosition =>
    game.onCreatureMove playerId position itemPosition partnerPosition
  | .removePlayer playerId => game.removePlayer playerId
  | .setHouseOwner houseId guid nameKnown =>
    (game.modifyHouse houseId fun house => house.setOwner guid nameKnown, [])

def Game.notifyAll (game : Game) (notices : List Notice) : Game × List Delivery :=
  notices.foldl
    (fun done notice =>
      let next := done.1.notify notice
      (next.1, done.2 ++ next.2))
    (game, [])

/--
`House::setHouseOwner`.  The notices are those of `transferToDepot`, `kickPlayer`
and the beds; they come before the owner is set.
-/
def Game.setHouseOwner (game : Game) (houseId guid : Nat) (nameKnown : Bool)
  (notices : List Notice) : Game × List Delivery :=
  match game.houses.find? houseId with
  | none => (game, [])
  | some house =>
    if house.isLoaded ∧ house.houseOwner = guid then
      (game, [])
    else
      let emptied :=
        if house.houseOwner ≠ 0 then
          game.notifyAll notices
        else
          (game, [])
      (emptied.1.modifyHouse houseId fun house =>
          { house with
            isLoaded := true
            houseOwner := if guid ≠ 0 ∧ nameKnown then guid else 0 },
        emptied.2)

/-- `Houses::getHouseByPlayerId`, with the house's id. -/
def Game.getHouseByPlayerId (game : Game) (guid : Nat) : Option (Nat × House) :=
  game.houses.entries.find? fun entry => entry.2.houseOwner = guid

/-- `House::getTransferItem`: a new document, unless one is outstanding. -/
def Game.getTransferItem (game : Game) (houseId : Nat) (house : House) : Option (Game × Item) :=
  if house.transferItem.isSome then
    none
  else
    let document : Item := .houseTransfer houseId game.nextSerial
    some
      ({ game with
          houses := game.houses.insert houseId { house with transferItem := some document }
          nextSerial := game.nextSerial + 1 },
        document)

/-- What happens around the two effects of `onTradeEvent(ON_TRADE_TRANSFER)`. -/
structure TransferScene where
  /-- the kicks and moves of `setHouseOwner` -/
  emptying : List Notice
  /-- `IOPlayer::getNameByGuid` finds the new owner -/
  nameKnown : Bool
  /-- `internalRemoveItem` of the document -/
  removing : List Notice

/-- `House::executeTransfer`. -/
def Game.executeTransfer (game : Game) (houseId : Nat) (item : Item) (newOwner : Player)
  (scene : TransferScene) : Game × List Delivery :=
  match game.houses.find? houseId with
  | none => (game, [])
  | some house =>
    if house.transferItem ≠ some item then
      (game, [])
    else
      let sold := game.setHouseOwner houseId newOwner.guid scene.nameKnown scene.emptying
      (sold.1.modifyHouse houseId fun house =>
          { house with transferItem := none },
        sold.2)

/-- `onTradeEvent(ON_TRADE_TRANSFER)`. -/
def Game.onTradeTransfer (game : Game) (item : Item) (owner : Player) (scene : TransferScene) :
  Game × List Delivery :=
  match item with
  | .plain _ => (game, [])
  | .houseTransfer houseId _ =>
    let sold := game.executeTransfer houseId item owner scene
    let removed := sold.1.notifyAll scene.removing
    (removed.1, sold.2 ++ removed.2)

/-! ## Accepting a trade -/

structure ItemDescription where
  isStackable : Bool
  itemCount : Nat
  weightDescription : String

/-- What `playerAcceptTrade` asks of moving the items, and what that sets off. -/
structure AcceptScene where
  /-- the tests of `internalAddItem` of the player's and of the partner's item -/
  addResult1 : ReturnValue
  addResult2 : ReturnValue
  /-- the tests of `internalRemoveItem` -/
  removeResult1 : ReturnValue
  removeResult2 : ReturnValue
  describe : Item → ItemDescription
  /-- the two calls of `internalMoveItem` -/
  moving : List Notice
  transfer1 : TransferScene
  transfer2 : TransferScene

/-- A house document which took effect: `offeredBy` and `buyer` are guids. -/
structure Sale where
  document : Item
  house : Nat
  offeredBy : Nat
  buyer : Nat
  ownerBefore : Option Nat
  ownerAfter : Option Nat
  /-- the houses of the buyer just before -/
  buyerHouses : List Nat
deriving DecidableEq

/-- The owner of a house, if the house exists; 0 stands for nobody. -/
def Game.owner? (game : Game) (houseId : Nat) : Option Nat :=
  (game.houses.find? houseId).map (·.houseOwner)

def Game.transferItemOf (game : Game) (houseId : Nat) : Option Item :=
  (game.houses.find? houseId).bind (·.transferItem)

def Game.housesOf (game : Game) (guid : Nat) : List Nat :=
  (game.houses.entries.filter fun entry => entry.2.houseOwner = guid).map (·.1)

def saleOf (before after : Game) (item : Item) (seller buyer : Player) : List Sale :=
  match item with
  | .plain _ => []
  | .houseTransfer houseId _ =>
    if before.transferItemOf houseId = some item then
      [{  document := item
          house := houseId
          offeredBy := seller.guid
          buyer := buyer.guid
          ownerBefore := before.owner? houseId
          ownerAfter := after.owner? houseId
          buyerHouses := before.housesOf buyer.guid }]
    else
      []

/-- The text of `getTradeErrorDescription`; `none` when the null item is read. -/
def getTradeErrorDescription (describe : Item → ItemDescription) (ret : ReturnValue)
  (item : Option Item) : Option String :=
  let objects (description : ItemDescription) : String :=
    if description.isStackable ∧ 1 < description.itemCount then
      " these objects."
    else
      " this object."
  if ret = .notEnoughCapacity then
    item.map fun item =>
      "You do not have enough capacity to carry" ++ objects (describe item) ++
        "\n " ++ (describe item).weightDescription
  else if ret = .notEnoughRoom ∨ ret = .containerNotEnoughRoom then
    item.map fun item => "You do not have enough room to carry" ++ objects (describe item)
  else
    some "Trade could not be completed."

/-- The answer to accepting: `none` stands for reading through a null pointer. -/
structure Accepted where
  game : Game
  sent : List Delivery
  result : Bool
  sales : List Sale

/-- Take the entry of an item out of `tradeItems`; null has none. -/
def eraseOffer (tradeItems : OrderedMap Item Nat) (item : Option Item) : OrderedMap Item Nat :=
  match item with
  | none => tradeItems
  | some item => tradeItems.erase item

def Game.endTransfer (game : Game) (playerId : Nat) : Game :=
  match game.players.find? playerId with
  | none => game
  | some player =>
    game.setPlayer
      { player with
        tradeState := .none
        tradeItem := none
        tradePartner := none }

/-- `internalAddItem` of a null item is refused before anything is asked. -/
def addItemTest (item : Option Item) (result : ReturnValue) : ReturnValue :=
  if item.isSome then result else .notPossible

def Game.exchangeItems (game : Game) (player tradePartner : Player) (tradeItem1 tradeItem2 : Item)
  (scene : AcceptScene) : Accepted :=
  let moved := game.notifyAll scene.moving
  let first := moved.1.onTradeTransfer tradeItem1 tradePartner scene.transfer1
  let second := first.1.onTradeTransfer tradeItem2 player scene.transfer2
  { game := second.1
    sent := moved.2 ++ first.2 ++ second.2
    result := true
    sales :=
      saleOf moved.1 first.1 tradeItem1 player tradePartner ++
        saleOf first.1 second.1 tradeItem2 tradePartner player }

/-- The trade fails: both are told why and both items are cancelled. -/
def Game.failTrade (game : Game) (player tradePartner : Player) (ret1 ret2 : ReturnValue)
  (scene : AcceptScene) : Option Accepted := do
  let description1 ← getTradeErrorDescription scene.describe ret1 player.tradeItem
  let tradeItem2 ← tradePartner.tradeItem
  let first := game.onTradeCancel tradeItem2
  let description2 ← getTradeErrorDescription scene.describe ret2 tradePartner.tradeItem
  let tradeItem1 ← player.tradeItem
  let second := first.onTradeCancel tradeItem1
  some
    { game := second
      sent := [.infoDescr tradePartner.id description1, .infoDescr player.id description2]
      result := false
      sales := [] }

/-- Both traders go into `TRADE_TRANSFER` and their items leave `tradeItems`. -/
def Game.startTransfer (game : Game) (player tradePartner : Player) : Game :=
  { (game.setPlayer { player with tradeState := .transfer }).setPlayer
      { tradePartner with tradeState := .transfer } with
    tradeItems := eraseOffer (eraseOffer game.tradeItems player.tradeItem) tradePartner.tradeItem }

/-- The tests of the two additions and removals, and what follows from them. -/
def Game.testTransfer (game : Game) (player tradePartner : Player) (scene : AcceptScene) :
  Option Accepted :=
  let ret1 := addItemTest player.tradeItem scene.addResult1
  let ret2 := addItemTest tradePartner.tradeItem scene.addResult2
  if ret1 = .noError ∧ ret2 = .noError then
    if scene.removeResult1 = .noError ∧ scene.removeResult2 = .noError then
      player.tradeItem.bind fun tradeItem1 =>
        tradePartner.tradeItem.map fun tradeItem2 =>
          game.exchangeItems player tradePartner tradeItem1 tradeItem2 scene
    else
      game.failTrade player tradePartner scene.removeResult1 scene.removeResult2 scene
  else
    game.failTrade player tradePartner ret1 ret2 scene

/-- The branch of `playerAcceptTrade` in which both have accepted. -/
def Game.transferTrade (game : Game) (player tradePartner : Player) (scene : AcceptScene) :
  Option Accepted :=
  ((game.startTransfer player tradePartner).testTransfer player tradePartner
    scene).map fun done =>
      { done with
        game := (done.game.endTransfer player.id).endTransfer tradePartner.id
        sent := done.sent ++ [.tradeClose player.id, .tradeClose tradePartner.id] }

/--
The beginning of `playerAcceptTrade`: the state becomes `TRADE_ACCEPT`, and the
two traders are returned when the partner has accepted before.
-/
def Game.acceptTrade (game : Game) (playerId : Nat) : Game × Option (Player × Player) :=
  match game.getPlayerByID playerId with
  | none => (game, none)
  | some player =>
    if player.tradeState = .acknowledge ∨ player.tradeState = .initiated then
      let accepting := { player with tradeState := .accept }
      let accepted := game.setPlayer accepting
      match player.tradePartner.bind accepted.players.find? with
      | none => (accepted, none)
      | some tradePartner =>
        if tradePartner.tradeState = .accept then
          (accepted, some (accepting, tradePartner))
        else
          (accepted, none)
    else
      (game, none)

/-- `Game::playerAcceptTrade`. -/
def Game.playerAcceptTrade
  (game : Game) (playerId : Nat) (scene : AcceptScene) : Option Accepted :=
  let accepted := game.acceptTrade playerId
  match accepted.2 with
  | none => some ⟨accepted.1, [], false, []⟩
  | some traders =>
    accepted.1.transferTrade traders.1 traders.2 scene

structure SellScene where
  playerPosition : Position
  partnerPosition : Position

/-- `Commands::sellHouse`; the partner is the player found by name. -/
def Game.sellHouse (game : Game) (playerId partnerId : Nat) (scene : SellScene) : Answer :=
  match game.getPlayerByID playerId with
  | none => ⟨game, [], false⟩
  | some player =>
    match game.getHouseByPlayerId player.guid with
    | none => ⟨game, [.cancel player.id "You do not own any house."], false⟩
    | some (houseId, house) =>
      match game.getPlayerByID partnerId with
      | none =>
        ⟨game, [.cancel player.id "Trade player not found."], false⟩
      | some tradePartner =>
        if tradePartner.id = player.id then
          ⟨game, [.cancel player.id "Trade player not found."], false⟩
        else if tradePartner.level < 1 then
          ⟨game, [.cancel player.id "Trade player level is too low."], false⟩
        else if (game.getHouseByPlayerId tradePartner.guid).isSome then
          ⟨game,
            [.cancel player.id "Trade player already owns a house."],
            false⟩
        else if !areInRange 2 2 0 scene.partnerPosition
            scene.playerPosition then
          ⟨game, [.cancel player.id "Trade player is too far away."], false⟩
        else
          match game.getTransferItem houseId house with
          | none =>
            ⟨game,
              [.cancel player.id "You can not trade this house."],
              false⟩
          | some (offering, transferItem) =>
            let started := offering.internalStartTrade player tradePartner transferItem
            if started.result then
              started
            else
              { started with
                game := started.game.resetTransferItem houseId
                result := false }

inductive Event where
  | login (player : Player)
  | requestTrade
      (playerId tradePlayerId spriteId : Nat) (scene : RequestScene)
  | sellHouse (playerId partnerId : Nat) (scene : SellScene)
  | acceptTrade (playerId : Nat) (scene : AcceptScene)
  | closeTrade (playerId : Nat)
  | notice (notice : Notice)
  | setHouseOwner
      (houseId guid : Nat) (nameKnown : Bool) (notices : List Notice)

/-- A player enters the game without a trade, under an id which is not in use. -/
def Game.login (game : Game) (player : Player) : Game :=
  if player.id = 0 ∨ game.players.contains player.id then
    game
  else
    game.setPlayer
      { player with
        tradeState := .none
        tradeItem := none
        tradePartner := none }

/-- The effect of an event: the state, what is sent, and the sales made. -/
def Game.perform (game : Game) : Event → Option (Game × List Delivery × List Sale)
  | .login player => some (game.login player, [], [])
  | .requestTrade playerId tradePlayerId spriteId scene =>
    let answer := game.playerRequestTrade playerId tradePlayerId spriteId scene
    some (answer.game, answer.sent, [])
  | .sellHouse playerId partnerId scene =>
    let answer := game.sellHouse playerId partnerId scene
    some (answer.game, answer.sent, [])
  | .acceptTrade playerId scene =>
    (game.playerAcceptTrade playerId scene).map fun accepted =>
      (accepted.game, accepted.sent, accepted.sales)
  | .closeTrade playerId =>
    let closed := game.playerCloseTrade playerId
    some (closed.1, closed.2, [])
  | .notice notice =>
    let notified := game.notify notice
    some (notified.1, notified.2, [])
  | .setHouseOwner houseId guid nameKnown notices =>
    let set := game.setHouseOwner houseId guid nameKnown notices
    some (set.1, set.2, [])

structure Record where
  game : Game
  sales : List Sale

/-- The steps of the game; reading through a null pointer leads nowhere. -/
def Record.Step (record : Record) (event : Event) (next : Record) : Prop :=
  ∃ sent sales,
    record.game.perform event = some (next.game, sent, sales) ∧ next.sales = record.sales ++ sales

end OTServ.Trade
