import OTServ.Trade.Documents
import OTServ.Trade.Safety

/-!
# Ownership of sold houses

`sellHouse` checks that the seller owns the house and that the buyer owns none;
`executeTransfer` checks only that the document is the outstanding one.  In
every run a document takes effect at most once, and the outstanding documents
are those on offer.  That the seller still owns the house and the buyer still
owns none when the document takes effect rests on nobody else changing owners
while the trade is open.
-/

namespace OTServ.Trade

open Library
open Library.GuardedRuns
open List Option

structure OpenSale (game : Game) (seller : Player) (houseId serial : Nat) (buyer : Player) :
  Prop where
  seller_found : game.players.find? seller.id = some seller
  item : seller.tradeItem = some (.houseTransfer houseId serial)
  partner : seller.tradePartner = some buyer.id
  buyer_found : game.players.find? buyer.id = some buyer

/-- In every open sale the seller owns the house and the buyer owns none. -/
structure Owned (game : Game) : Prop where
  owner :
    ∀ seller houseId serial buyer,
      OpenSale game seller houseId serial buyer → game.owner? houseId = some seller.guid
  houseless :
    ∀ seller houseId serial buyer,
      OpenSale game seller houseId serial buyer → ∀ other, game.owner? other ≠ some buyer.guid

variable {before after game : Game} {seller buyer player : Player}
  {houseId serial guid playerId : Nat} {scene : AcceptScene} {item1 item2 : Item} {done : Accepted}
  {event : Event} {sent : List Delivery} {sales : List Sale}

lemma Wanes.openSale
  (wanes : Wanes before after) (sale : OpenSale after seller houseId serial buyer) :
  ∃ seller' buyer', OpenSale before seller' houseId serial buyer' ∧
    seller'.id = seller.id ∧ seller'.guid = seller.guid ∧ buyer'.guid = buyer.guid := by
  rcases wanes.players seller.id seller sale.seller_found with
    ⟨seller', sellerFound, sellerId, sellerGuid, sellerOffer⟩
  rcases wanes.players buyer.id buyer sale.buyer_found with
    ⟨buyer', buyerFound, buyerId, buyerGuid, -⟩
  rcases sellerOffer with empty | ⟨sameItem, samePartner⟩
  · rw [sale.item] at empty
    cases empty
  · refine ⟨seller', buyer', ?_, sellerId.symm, sellerGuid.symm, buyerGuid.symm⟩
    exact
      { seller_found := sellerId ▸ sellerFound
        item := sameItem.symm.trans sale.item
        partner := (samePartner.symm.trans sale.partner).trans (congrArg some buyerId)
        buyer_found := buyerId ▸ buyerFound }

lemma Owned.wanes (owned : Owned before) (wanes : Wanes before after)
  (owners : ∀ houseId, after.owner? houseId = before.owner? houseId) : Owned after where
  owner := by
    intro seller houseId serial buyer sale
    rcases wanes.openSale sale with ⟨seller', buyer', before, -, sellerGuid, -⟩
    rw [owners, ← sellerGuid]
    exact owned.owner seller' houseId serial buyer' before
  houseless := by
    intro seller houseId serial buyer sale other
    rcases wanes.openSale sale with ⟨seller', buyer', before, -, -, buyerGuid⟩
    rw [owners, ← buyerGuid]
    exact owned.houseless seller' houseId serial buyer' before other

/--
The call of `setHouseOwner` leaves the owner as it is, or the house has no
outstanding document and the new owner is not about to buy another house.
-/
def HarmlessChange (game : Game) (houseId guid : Nat) (nameKnown : Bool) : Prop :=
  ∀ house, game.houses.find? houseId = some house →
    (house.setOwner guid nameKnown).houseOwner = house.houseOwner ∨
      house.transferItem = none ∧
        ∀ seller other serial buyer,
          OpenSale game seller other serial buyer →
            (house.setOwner guid nameKnown).houseOwner ≠ buyer.guid

/-- No script changes the owner of a house while the items change hands. -/
structure AcceptScene.Quiet (scene : AcceptScene) : Prop where
  moving : ∀ notice ∈ scene.moving, ¬ notice.ChangesHouse
  emptying1 : ∀ notice ∈ scene.transfer1.emptying, ¬ notice.ChangesHouse
  removing1 : ∀ notice ∈ scene.transfer1.removing, ¬ notice.ChangesHouse
  emptying2 : ∀ notice ∈ scene.transfer2.emptying, ¬ notice.ChangesHouse
  removing2 : ∀ notice ∈ scene.transfer2.removing, ¬ notice.ChangesHouse

/-- No other login of the buyer's character is about to buy another house. -/
def OnlyBuyer (game : Game) (seller buyer : Player) : Prop :=
  ∀ seller' houseId serial buyer',
    OpenSale game seller' houseId serial buyer' → seller'.id ≠ seller.id → buyer'.guid ≠ buyer.guid

def SalesRespected (game : Game) : Event → Prop
  | .acceptTrade playerId scene =>
    ∀ player tradePartner,
      (game.acceptTrade playerId).2 = some (player, tradePartner) →
        scene.Quiet ∧
          ((∃ houseId serial,
              player.tradeItem = some (.houseTransfer houseId serial)) →
            OnlyBuyer game player tradePartner) ∧
            ((∃ houseId serial,
                tradePartner.tradeItem = some (.houseTransfer houseId serial)) →
              OnlyBuyer game tradePartner player)
  | .notice (.setHouseOwner houseId guid nameKnown) =>
    HarmlessChange game houseId guid nameKnown
  | .setHouseOwner houseId guid nameKnown notices =>
    (∀ notice ∈ notices, ¬ notice.ChangesHouse) ∧ HarmlessChange game houseId guid nameKnown
  | _ => True

/-! ## Starting a sale -/

section Starting

variable {game left : Game} {player tradePartner : Player} {tradeItem : Item}
  {outstanding : List Item}

section

variable (started : Started game player tradePartner tradeItem left)
include started

/-- The sales which are open after a trade has started: the new one and those from before. -/
lemma Started.openSale (consistent : Consistent False [] [] outstanding game)
  (playerFound : game.players.find? player.id = some player)
  (partnerFound : game.players.find? tradePartner.id = some tradePartner)
  (sale : OpenSale left seller houseId serial buyer) :
  (seller.guid = player.guid ∧ buyer.guid = tradePartner.guid ∧
      tradeItem = .houseTransfer houseId serial) ∨
    ∃ seller' buyer', OpenSale game seller' houseId serial buyer' ∧
      seller'.guid = seller.guid ∧ buyer'.guid = buyer.guid := by
  rcases started.partner_found with
    ⟨partner, partnerLeft, partnerId, partnerGuid, partnerItem, partnerPoints, how⟩
  -- every player after the start is one from before, with the same guid
  have origin :
      ∀ id stored, left.players.find? id = some stored →
        ∃ old, game.players.find? id = some old ∧ old.guid = stored.guid := by
    intro id stored there
    by_cases isPlayer : id = player.id
    · rw [isPlayer, started.player_found] at there
      cases there
      exact ⟨player, isPlayer ▸ playerFound, rfl⟩
    · by_cases isPartner : id = tradePartner.id
      · rw [isPartner, partnerLeft] at there
        cases there
        exact ⟨tradePartner, isPartner ▸ partnerFound, partnerGuid.symm⟩
      · rw [started.others id isPlayer isPartner] at there
        exact ⟨stored, there, rfl⟩
  rcases origin buyer.id buyer sale.buyer_found with ⟨oldBuyer, oldBuyerFound, buyerGuid⟩
  have oldBuyerId := consistent.ids buyer.id oldBuyer oldBuyerFound
  have rebuilt :
      ∀ old, game.players.find? seller.id = some old →
        old.tradeItem = seller.tradeItem →
          old.tradePartner = seller.tradePartner → OpenSale game old houseId serial oldBuyer := by
    intro old oldFound sameItem samePartner
    have oldId := consistent.ids seller.id old oldFound
    exact
      { seller_found := oldId.symm ▸ oldFound
        item := sameItem.trans sale.item
        partner := (samePartner.trans sale.partner).trans (congrArg some oldBuyerId.symm)
        buyer_found := oldBuyerId.symm ▸ oldBuyerFound }
  have sellerFound := sale.seller_found
  by_cases isPlayer : seller.id = player.id
  · apply Or.inl
    rw [isPlayer, started.player_found] at sellerFound
    cases sellerFound
    have toPartner : buyer.id = tradePartner.id := (some.inj sale.partner).symm
    have buyerFound := sale.buyer_found
    rw [toPartner, partnerLeft] at buyerFound
    cases buyerFound
    exact ⟨rfl, partnerGuid, some.inj sale.item⟩
  · apply Or.inr
    by_cases isPartner : seller.id = tradePartner.id
    · rw [isPartner, partnerLeft] at sellerFound
      cases sellerFound
      rcases how with ⟨state, -⟩ | ⟨-, rfl⟩
      · -- who is only asked to trade has offered nothing
        have shaped := consistent.shaped tradePartner.id tradePartner partnerFound not_mem_nil
        simp only [Player.Shaped, state] at shaped
        have holds := sale.item
        rw [partnerItem, shaped.1] at holds
        cases holds
      · exact ⟨_, oldBuyer, rebuilt _ partnerFound rfl rfl, rfl, buyerGuid⟩
    · rw [started.others seller.id isPlayer isPartner] at sellerFound
      exact ⟨seller, oldBuyer, rebuilt seller sellerFound rfl rfl, rfl, buyerGuid⟩

lemma Started.owner? (houseId : Nat) : left.owner? houseId = game.owner? houseId := by
  simp only [Game.owner?, started.houses]

end

lemma Owned.playerRequestTrade (owned : Owned game) (consistent : Consistent False [] [] [] game)
  (playerId tradePlayerId spriteId : Nat) (scene : RequestScene) :
  Owned (game.playerRequestTrade playerId tradePlayerId spriteId scene).game := by
  rcases playerRequestTrade_cases consistent playerId tradePlayerId spriteId
    scene with
    same | ⟨player, tradePartner, number, playerFound, partnerFound, -, -, started⟩
  · rw [same]
    exact owned
  · constructor
    · intro seller houseId serial buyer sale
      rcases started.openSale consistent playerFound partnerFound sale with
        ⟨-, -, impossible⟩ | ⟨seller', buyer', before, sellerGuid, -⟩
      · cases impossible
      · rw [started.owner?, ← sellerGuid]
        exact owned.owner seller' houseId serial buyer' before
    · intro seller houseId serial buyer sale other
      rcases started.openSale consistent playerFound partnerFound sale with
        ⟨-, -, impossible⟩ | ⟨seller', buyer', before, -, buyerGuid⟩
      · cases impossible
      · rw [started.owner?, ← buyerGuid]
        exact owned.houseless seller' houseId serial buyer' before other

lemma owner?_of_getHouseByPlayerId (without : game.getHouseByPlayerId guid = none)
  (houseId : Nat) : game.owner? houseId ≠ some guid := by
  intro owner
  rcases map_eq_some_iff.mp owner with ⟨house, found, owns⟩
  have absent :=
    List.find?_eq_none.mp without (houseId, house) ((OrderedMap.mem_entries_iff _ _ _).mpr found)
  exact absent (decide_eq_true owns)

lemma Owned.sellHouse (owned : Owned game) (consistent : Consistent False [] [] [] game)
  (playerId partnerId : Nat) (scene : SellScene) :
  Owned (game.sellHouse playerId partnerId scene).game := by
  rcases sellHouse_cases consistent playerId partnerId scene with
    same |
      ⟨player, tradePartner, houseId, house, offering, document, playerFound,
        partnerFound, ne, houseFound, owns, without, made, outcome⟩
  · rw [same]
    exact owned
  · rcases getTransferItem_spec consistent houseFound made with
      ⟨isDocument, players, -, -, -, owners, offered⟩
    -- until the trade has started, making the document opens no sale
    have offering_owned : Owned offering := by
      constructor
      · intro seller other serial buyer sale
        rw [owners]
        apply owned.owner seller other serial buyer
        exact ⟨players ▸ sale.seller_found, sale.item, sale.partner, players ▸ sale.buyer_found⟩
      · intro seller other serial buyer sale number
        rw [owners]
        apply owned.houseless seller other serial buyer
        exact ⟨players ▸ sale.seller_found, sale.item, sale.partner, players ▸ sale.buyer_found⟩
    rcases outcome with cancelled | started
    · rw [cancelled]
      apply offering_owned.wanes
      · exact Wanes.onTradeCancel (.houseTransfer houseId 0)
      · exact owner?_onTradeCancel offering (.houseTransfer houseId 0)
    · rw [← players] at playerFound partnerFound
      constructor
      · intro seller other serial buyer sale
        rw [started.owner?]
        rcases started.openSale offered playerFound partnerFound sale with
          ⟨sellerGuid, -, sameItem⟩ | ⟨seller', buyer', before, sellerGuid, -⟩
        · rw [isDocument] at sameItem
          cases sameItem
          rw [owners, sellerGuid]
          simp [Game.owner?, houseFound, owns]
        · rw [← sellerGuid]
          exact offering_owned.owner seller' other serial buyer' before
      · intro seller other serial buyer sale number
        rw [started.owner?]
        rcases started.openSale offered playerFound partnerFound sale with
          ⟨-, buyerGuid, -⟩ | ⟨seller', buyer', before, -, buyerGuid⟩
        · rw [owners, buyerGuid]
          exact owner?_of_getHouseByPlayerId without number
        · rw [← buyerGuid]
          exact offering_owned.houseless seller' other serial buyer' before number

end Starting

/-! ## Closing a sale -/

section Closing

variable {game : Game}

lemma House.setOwner_houseOwner (house : House) (guid : Nat) (nameKnown : Bool) :
  (house.setOwner guid nameKnown).houseOwner = guid ∨
    (house.setOwner guid nameKnown).houseOwner = 0 := by
  simp only [House.setOwner]
  split_ifs with early known
  · exact Or.inl early.2
  · exact Or.inl rfl
  · exact Or.inr rfl

variable {scene : TransferScene}

/-- The owners after `onTradeEvent(ON_TRADE_TRANSFER)`. -/
lemma owner?_onTradeTransfer (game : Game) (item : Item) (owner : Player)
  (emptying : ∀ notice ∈ scene.emptying, ¬ notice.ChangesHouse)
  (removing : ∀ notice ∈ scene.removing, ¬ notice.ChangesHouse) (other : Nat) :
  (game.onTradeTransfer item owner scene).1.owner? other =
      game.owner? other ∨
    item.IsDocumentOf other ∧
      ((game.onTradeTransfer item owner scene).1.owner? other =
          some owner.guid ∨
        (game.onTradeTransfer item owner scene).1.owner? other = some 0) := by
  cases item with
  | plain number => exact Or.inl rfl
  | houseTransfer houseId serial =>
    have removed :
        (game.onTradeTransfer (.houseTransfer houseId serial) owner
            scene).1.owner? other =
          (game.executeTransfer houseId (.houseTransfer houseId serial)
            owner scene).1.owner? other :=
      owner?_notifyAll _ removing other
    rw [removed]
    simp only [Game.executeTransfer]
    split
    · exact Or.inl rfl
    · next house found =>
      split
      · exact Or.inl rfl
      · have cleared :=
          owner?_onTradeCancel
            (game.setHouseOwner houseId owner.guid scene.nameKnown scene.emptying).1
            (.houseTransfer houseId serial) other
        have sold := owner?_setHouseOwner game houseId owner.guid scene.nameKnown emptying other
        by_cases same : other = houseId
        · rw [if_pos same, found, map_some] at sold
          refine Or.inr ⟨same.symm, ?_⟩
          rcases house.setOwner_houseOwner owner.guid scene.nameKnown with newOwner | nobody
          · rw [newOwner] at sold
            exact Or.inl (cleared.trans sold)
          · rw [nobody] at sold
            exact Or.inr (cleared.trans sold)
        · rw [if_neg same] at sold
          exact Or.inl (cleared.trans sold)

lemma saleOf_cases (before after : Game) (item : Item) (seller buyer : Player) :
  saleOf before after item seller buyer = [] ∨
    ∃ houseId, item.IsDocumentOf houseId ∧
      before.transferItemOf houseId = some item ∧
        saleOf before after item seller buyer =
          [{  document := item
              house := houseId
              offeredBy := seller.guid
              buyer := buyer.guid
              ownerBefore := before.owner? houseId
              ownerAfter := after.owner? houseId
              buyerHouses := before.housesOf buyer.guid }] := by
  cases item with
  | plain number => exact Or.inl rfl
  | houseTransfer houseId serial =>
    simp only [saleOf]
    split
    · next outstanding => exact Or.inr ⟨houseId, rfl, outstanding, rfl⟩
    · exact Or.inl rfl

lemma saleOf_documents (before after : Game) (item : Item) (seller buyer : Player) :
  (saleOf before after item seller buyer).map (·.document) = [] ∨
    (saleOf before after item seller buyer).map (·.document) = [item] := by
  rcases saleOf_cases before after item seller buyer with none | ⟨houseId, -, -, recorded⟩
  · rw [none]
    exact Or.inl rfl
  · rw [recorded]
    exact Or.inr rfl

lemma housesOf_eq_nil (houseless : ∀ houseId, game.owner? houseId ≠ some guid) :
  game.housesOf guid = [] := by
  simp only [Game.housesOf, map_eq_nil_iff, filter_eq_nil_iff]
  rintro ⟨houseId, house⟩ mem owns
  apply houseless houseId
  have found := (OrderedMap.mem_entries_iff _ _ _).mp mem
  simp only [Game.owner?, found, map_some]
  exact congrArg some (of_decide_eq_true owns)

def Sale.Proper (sale : Sale) : Prop :=
  sale.ownerBefore = some sale.offeredBy ∧ sale.buyerHouses = []

/-- The sale of one house, from the state in which both have accepted to the end. -/
lemma Owned.sale {moved last : Game} {item : Item} (owned : Owned game)
  (consistent : Consistent False [] [] [] game)
  (open_ : OpenSale game seller houseId serial buyer)
  (isDocument : item = .houseTransfer houseId serial) (alone : OnlyBuyer game seller buyer)
  (emptying : ∀ notice ∈ scene.emptying, ¬ notice.ChangesHouse)
  (removing : ∀ notice ∈ scene.removing, ¬ notice.ChangesHouse)
  (movedOwners : ∀ other, moved.owner? other = game.owner? other) (wanes : Wanes game last)
  (lastOwners :
    ∀ other, last.owner? other = (moved.onTradeTransfer item buyer scene).1.owner? other)
  (ended : ∀ stored, last.players.find? seller.id = some stored → stored.tradeItem = none) :
  Owned last ∧
    ∀ sale ∈ saleOf moved (moved.onTradeTransfer item buyer scene).1 item
      seller buyer, sale.Proper := by
  subst isDocument
  have others :
      ∀ seller' other number buyer',
        OpenSale last seller' other number buyer' →
          ∃ old oldBuyer, OpenSale game old other number oldBuyer ∧
            old.guid = seller'.guid ∧ oldBuyer.guid = buyer'.guid ∧
              other ≠ houseId ∧ oldBuyer.guid ≠ buyer.guid := by
    intro seller' other number buyer' sale
    rcases wanes.openSale sale with ⟨old, oldBuyer, before, sameId, sellerGuid, buyerGuid⟩
    have notSeller : old.id ≠ seller.id := by
      intro same
      have found := sale.seller_found
      rw [← sameId, same] at found
      have holds := sale.item
      rw [ended seller' found] at holds
      cases holds
    refine ⟨old, oldBuyer, before, sellerGuid, buyerGuid, ?_,
      alone old other number oldBuyer before notSeller⟩
    -- a house has one outstanding document, offered by one player
    rintro rfl
    have first := consistent.offered open_.seller_found open_.item not_mem_nil
    have second := consistent.offered before.seller_found before.item not_mem_nil
    have firstThere :=
      (consistent.documents other (.houseTransfer other serial)).mpr
        ⟨rfl, Or.inl ((OrderedMap.contains_iff _ _).mpr ⟨_, first⟩)⟩
    have secondThere :=
      (consistent.documents other (.houseTransfer other number)).mpr
        ⟨rfl, Or.inl ((OrderedMap.contains_iff _ _).mpr ⟨_, second⟩)⟩
    rw [firstThere] at secondThere
    rw [← some.inj secondThere, first] at second
    exact notSeller (some.inj second).symm
  have transferred :=
    owner?_onTradeTransfer moved (.houseTransfer houseId serial) buyer emptying removing
  refine ⟨⟨?_, ?_⟩, ?_⟩
  · intro seller' other number buyer' sale
    rcases others seller' other number buyer' sale with
      ⟨old, oldBuyer, before, sellerGuid, -, ne, -⟩
    rw [lastOwners]
    rcases transferred other with same | ⟨isSold, -⟩
    · rw [same, movedOwners, ← sellerGuid]
      exact owned.owner old other number oldBuyer before
    · exact (ne isSold.symm).elim
  · intro seller' other number buyer' sale owner
    rcases others seller' other number buyer' sale with
      ⟨old, oldBuyer, before, -, buyerGuid, -, notBuyer⟩
    intro owns
    rw [lastOwners] at owns
    rcases transferred owner with same | ⟨-, newOwner | nobody⟩
    · rw [same, movedOwners, ← buyerGuid] at owns
      exact owned.houseless old other number oldBuyer before owner owns
    · rw [newOwner] at owns
      exact notBuyer (buyerGuid.trans (some.inj owns).symm)
    · rw [nobody] at owns
      exact buyer'.guid_ne_zero (some.inj owns).symm
  · intro sale mem
    rcases saleOf_cases moved
        (moved.onTradeTransfer (.houseTransfer houseId serial) buyer scene).1
        (.houseTransfer houseId serial) seller buyer with
      none | ⟨house, document, -, recorded⟩
    · rw [none] at mem
      cases mem
    · rw [recorded, mem_singleton] at mem
      rw [mem]
      have sameHouse : houseId = house := document
      constructor
      · simp only [movedOwners, ← sameHouse]
        exact owned.owner seller houseId serial buyer open_
      · apply housesOf_eq_nil
        intro other
        rw [movedOwners]
        exact owned.houseless seller houseId serial buyer open_ other

end Closing

/-! ## Accepting a sale -/

section Accepting

variable {game : Game} {player tradePartner : Player}

lemma endTransfer_item (ids : ∀ id player, game.players.find? id = some player → player.id = id)
  (id : Nat) {stored : Player} (found : (game.endTransfer id).players.find? id = some stored) :
  stored.tradeItem = none := by
  cases there : game.players.find? id with
  | none =>
    simp only [Game.endTransfer, there] at found
    cases found
  | some player =>
    have sameId := ids id player there
    simp only [Game.endTransfer, there, setPlayer_players] at found
    rw [OrderedMap.find?_insert, if_pos sameId.symm] at found
    cases found
    rfl

/-- Offers and documents wane all through the exchange. -/
lemma exchangeItems_wanes (consistent : Consistent False [] [] [] game)
  (both : BothAccepted game player tradePartner) (holds1 : player.tradeItem = some item1)
  (holds2 : tradePartner.tradeItem = some item2) (scene : AcceptScene) :
  Wanes game
      ((game.startTransfer player tradePartner).notifyAll scene.moving).1 ∧
    Wanes game
      (((game.startTransfer player tradePartner).notifyAll
          scene.moving).1.onTradeTransfer item1 tradePartner
        scene.transfer1).1 ∧
      Wanes game
        ((game.startTransfer player tradePartner).exchangeItems player
          tradePartner item1 item2 scene).game := by
  have started := startTransfer_spec consistent both
  rcases moved_spec consistent both holds1 holds2 scene.moving with ⟨ne, moved⟩
  have settled := exchangeItems_settled consistent both holds1 holds2 scene
  have toMoved := (startTransfer_wanes both).trans (Wanes.notifyAll started scene.moving)
  have first := Wanes.onTradeTransfer moved (by simpa using ne) tradePartner scene.transfer1
  have second := Wanes.onTradeTransfer settled.1 not_mem_nil player scene.transfer2
  exact ⟨toMoved, toMoved.trans first, (toMoved.trans first).trans second⟩

lemma endTransfers_wanes {left : Game}
  (ids : ∀ id player, left.players.find? id = some player → player.id = id)
  (firstId secondId : Nat) : Wanes left ((left.endTransfer firstId).endTransfer secondId) := by
  have first := Wanes.endTransfer ids firstId
  apply first.trans
  apply Wanes.endTransfer
  intro id stored found
  rcases first.players id stored found with ⟨old, oldFound, sameId, -⟩
  exact sameId.trans (ids id old oldFound)

/-- The exchange of the items keeps open sales proper, and so is a sale it makes. -/
lemma Owned.exchangeItems (owned : Owned game) (consistent : Consistent False [] [] [] game)
  (both : BothAccepted game player tradePartner) (holds1 : player.tradeItem = some item1)
  (holds2 : tradePartner.tradeItem = some item2) (quiet : scene.Quiet)
  (alone1 :
    (∃ houseId serial,
        player.tradeItem = some (.houseTransfer houseId serial)) →
      OnlyBuyer game player tradePartner)
  (alone2 :
    (∃ houseId serial,
        tradePartner.tradeItem = some (.houseTransfer houseId serial)) →
      OnlyBuyer game tradePartner player) :
  Owned
      ((((game.startTransfer player tradePartner).exchangeItems player
        tradePartner item1 item2 scene).game.endTransfer
          player.id).endTransfer tradePartner.id) ∧
    ∀ sale ∈
        ((game.startTransfer player tradePartner).exchangeItems player
          tradePartner item1 item2 scene).sales,
      sale.Proper := by
  have settled := (exchangeItems_settled consistent both holds1 holds2 scene).2
  have ids := settled.consistent.ids
  have wanes :=
    (exchangeItems_wanes consistent both holds1 holds2 scene).2.2.trans
      (endTransfers_wanes ids player.id tradePartner.id)
  have movedOwners :
      ∀ other,
        ((game.startTransfer player tradePartner).notifyAll
          scene.moving).1.owner? other = game.owner? other :=
    owner?_notifyAll _ quiet.moving
  have lastOwners :
      ∀ other,
        ((((game.startTransfer player tradePartner).exchangeItems player
          tradePartner item1 item2 scene).game.endTransfer
            player.id).endTransfer tradePartner.id).owner? other =
          ((game.startTransfer player tradePartner).exchangeItems player
            tradePartner item1 item2 scene).game.owner? other :=
    fun other => (owner?_endTransfer _ _ other).trans (owner?_endTransfer _ _ other)
  have firstEnded := settled.endTransfer (by simpa using both.different.symm)
  have partnerEnded :
      ∀ stored,
        ((((game.startTransfer player tradePartner).exchangeItems player
          tradePartner item1 item2 scene).game.endTransfer
            player.id).endTransfer tradePartner.id).players.find? tradePartner.id = some stored →
          stored.tradeItem = none :=
    fun _ found => endTransfer_item firstEnded.consistent.ids tradePartner.id found
  have playerEnded :
      ∀ stored,
        ((((game.startTransfer player tradePartner).exchangeItems player
          tradePartner item1 item2 scene).game.endTransfer
            player.id).endTransfer tradePartner.id).players.find? player.id = some stored →
          stored.tradeItem = none := by
    intro stored found
    rcases (Wanes.endTransfer firstEnded.consistent.ids
        tradePartner.id).players player.id stored found with
      ⟨old, oldFound, -, -, empty | ⟨sameItem, -⟩⟩
    · exact empty
    · rw [sameItem]
      exact endTransfer_item ids player.id oldFound
  cases item1 with
  | plain number1 =>
    cases item2 with
    | plain number2 =>
      refine ⟨?_, fun sale mem => by cases mem⟩
      apply owned.wanes wanes
      intro other
      rw [lastOwners]
      exact movedOwners other
    | houseTransfer houseId serial =>
      have open_ : OpenSale game tradePartner houseId serial player :=
        ⟨both.partner_found, holds2, both.partner_partner, both.player_found⟩
      exact owned.sale consistent open_ rfl
        (alone2 ⟨houseId, serial, holds2⟩) quiet.emptying2 quiet.removing2
        movedOwners wanes lastOwners partnerEnded
  | houseTransfer houseId serial =>
    have open_ : OpenSale game player houseId serial tradePartner :=
      ⟨both.player_found, holds1, both.player_partner, both.partner_found⟩
    cases item2 with
    | plain number =>
      have sold :=
        owned.sale consistent open_ rfl (alone1 ⟨houseId, serial, holds1⟩)
          quiet.emptying1 quiet.removing1 movedOwners wanes lastOwners
          playerEnded
      refine ⟨sold.1, ?_⟩
      intro sale mem
      apply sold.2 sale
      simpa [Game.exchangeItems, saleOf] using mem
    | houseTransfer otherHouse otherSerial =>
      -- the buyer owns no house and cannot be selling one
      have reverse : OpenSale game tradePartner otherHouse otherSerial player :=
        ⟨both.partner_found, holds2, both.partner_partner, both.player_found⟩
      have owns := owned.owner _ _ _ _ reverse
      exact (owned.houseless _ _ _ _ open_ otherHouse owns).elim

end Accepting

/-! ## Steps -/

section Steps

variable {game next : Game}

/-- Changing an owner harmlessly keeps open sales proper. -/
lemma Owned.harmless (owned : Owned game) {nameKnown : Bool}
  (harmless : HarmlessChange game houseId guid nameKnown)
  (consistent : Consistent False [] [] [] game) (wanes : Wanes game next)
  (owners :
    ∀ other, next.owner? other =
      if other = houseId then
        (game.houses.find? houseId).map fun house => (house.setOwner guid nameKnown).houseOwner
      else
        game.owner? other) : Owned next := by
  cases found : game.houses.find? houseId with
  | none =>
    apply owned.wanes wanes
    intro other
    rw [owners]
    split_ifs with same
    · simp [same, Game.owner?, found]
    · rfl
  | some house =>
    rcases harmless house found with kept | ⟨settled, unpromised⟩
    · apply owned.wanes wanes
      intro other
      rw [owners]
      split_ifs with same
      · simp [same, Game.owner?, found, kept]
      · rfl
    · constructor
      · intro seller other serial buyer sale
        rcases wanes.openSale sale with ⟨old, oldBuyer, before, -, sellerGuid, -⟩
        have ne : other ≠ houseId := by
          rintro rfl
          have entry := consistent.offered before.seller_found before.item not_mem_nil
          have outstanding :=
            (consistent.documents other (.houseTransfer other serial)).mpr
              ⟨rfl, Or.inl ((OrderedMap.contains_iff _ _).mpr ⟨_, entry⟩)⟩
          simp only [Game.transferItemOf, found, bind_some, settled] at outstanding
          cases outstanding
        rw [owners, if_neg ne, ← sellerGuid]
        exact owned.owner old other serial oldBuyer before
      · intro seller other serial buyer sale number
        rcases wanes.openSale sale with ⟨old, oldBuyer, before, -, -, buyerGuid⟩
        rw [owners, ← buyerGuid]
        split_ifs with same
        · rw [found, map_some]
          intro owns
          exact unpromised old other serial oldBuyer before (some.inj owns)
        · exact owned.houseless old other serial oldBuyer before number

lemma Owned.login (owned : Owned game) (consistent : Consistent False [] [] [] game)
  (player : Player) : Owned (game.login player) := by
  have before :
      ∀ seller houseId serial buyer,
        OpenSale (game.login player) seller houseId serial buyer →
          OpenSale game seller houseId serial buyer := by
    intro seller houseId serial buyer sale
    simp only [Game.login] at sale
    split_ifs at sale with used
    · exact sale
    · have sellerFound := sale.seller_found
      rw [setPlayer_players, OrderedMap.find?_insert] at sellerFound
      split_ifs at sellerFound with isNew
      · cases sellerFound
        have holds := sale.item
        cases holds
      · have buyerFound := sale.buyer_found
        rcases consistent.partners seller.id seller buyer.id sellerFound
          not_mem_nil sale.partner with ⟨-, -, old, oldFound, -⟩
        rw [setPlayer_players, OrderedMap.find?_insert] at buyerFound
        split_ifs at buyerFound with isNewBuyer
        · rw [isNewBuyer] at oldFound
          exact (used (Or.inr ((OrderedMap.contains_iff _ _).mpr ⟨old, oldFound⟩))).elim
        · exact ⟨sellerFound, sale.item, sale.partner, buyerFound⟩
  have owners : ∀ houseId, (game.login player).owner? houseId = game.owner? houseId := by
    intro houseId
    simp only [Game.login]
    split_ifs
    · rfl
    · rfl
  constructor
  · intro seller houseId serial buyer sale
    rw [owners]
    exact owned.owner seller houseId serial buyer (before seller houseId serial buyer sale)
  · intro seller houseId serial buyer sale other
    rw [owners]
    exact owned.houseless seller houseId serial buyer
      (before seller houseId serial buyer sale) other

lemma Owned.stable :
  NoticeStable False (fun game => (Exchanging False [] [] [] game) ∧ Owned game) where
  close := fun game id holds =>
    ⟨holds.1.internalCloseTrade id,
      holds.2.wanes (Wanes.internalCloseTrade holds.1 id) (owner?_internalCloseTrade game id)⟩
  remove := fun game id holds =>
    ⟨holds.1.removePlayer id,
      holds.2.wanes (Wanes.removePlayer holds.1 id)
        ((sameOwners_stable game).remove game id fun _ => rfl)⟩
  setOwner := fun impossible => impossible.elim

lemma Owned.playerAcceptTrade (owned : Owned game) (consistent : Consistent False [] [] [] game)
  (respected : SalesRespected game (.acceptTrade playerId scene))
  (accepted : game.playerAcceptTrade playerId scene = some done) :
  Owned done.game ∧ ∀ sale ∈ done.sales, sale.Proper := by
  rcases acceptTrade_spec consistent playerId
    (fun impossible => impossible.elim) with ⟨before, returned⟩
  have accepting := acceptTrade_wanes consistent playerId
  have ownedBefore : Owned (game.acceptTrade playerId).1 :=
    owned.wanes accepting (owner?_acceptTrade game playerId)
  have onlyBefore :
      ∀ seller buyer, OnlyBuyer game seller buyer →
        OnlyBuyer (game.acceptTrade playerId).1 seller buyer := by
    intro seller buyer only seller' houseId serial buyer' sale ne
    rcases accepting.openSale sale with ⟨old, oldBuyer, open_, sameId, -, buyerGuid⟩
    rw [← buyerGuid]
    exact only old houseId serial oldBuyer open_ (sameId ▸ ne)
  simp only [Game.playerAcceptTrade] at accepted
  cases traders : (game.acceptTrade playerId).2 with
  | none =>
    rw [traders] at accepted
    cases accepted
    exact ⟨ownedBefore, fun sale mem => by cases mem⟩
  | some pair =>
    rcases pair with ⟨player, tradePartner⟩
    rw [traders] at accepted
    have both := returned player tradePartner traders
    rcases respected player tradePartner traders with ⟨quiet, alone1, alone2⟩
    rcases transferTrade_cases accepted with
      ⟨item1, item2, inner, holds1, holds2, left, sales, outcome⟩
    rw [left, sales]
    rcases outcome with rfl | ⟨cancelled, none⟩
    · exact ownedBefore.exchangeItems before both holds1 holds2 quiet
        (fun sells => onlyBefore _ _ (alone1 sells))
        (fun sells => onlyBefore _ _ (alone2 sells))
    · rw [cancelled, none]
      refine ⟨?_, fun sale mem => by cases mem⟩
      have failed := failTrade_settled before both holds1 holds2
      have wanes :=
        ((startTransfer_wanes both).trans
          (Wanes.onTradeCancel item2)).trans (Wanes.onTradeCancel item1)
      apply ownedBefore.wanes
        (wanes.trans (endTransfers_wanes failed.consistent.ids player.id tradePartner.id))
      intro other
      rw [owner?_endTransfer, owner?_endTransfer, owner?_onTradeCancel, owner?_onTradeCancel]
      rfl

lemma Owned.perform (owned : Owned game) (consistent : Consistent False [] [] [] game)
  (respected : SalesRespected game event)
  (performed : game.perform event = some (next, sent, sales)) :
  Owned next ∧ ∀ sale ∈ sales, sale.Proper := by
  have exchanging := Exchanging.of_consistent consistent
  have noSale : ∀ sale ∈ ([] : List Sale), sale.Proper := fun sale mem => by cases mem
  cases event with
  | login player =>
    cases performed
    exact ⟨owned.login consistent player, noSale⟩
  | requestTrade playerId tradePlayerId spriteId scene =>
    cases performed
    exact ⟨owned.playerRequestTrade consistent playerId tradePlayerId spriteId scene, noSale⟩
  | sellHouse playerId partnerId scene =>
    cases performed
    exact ⟨owned.sellHouse consistent playerId partnerId scene, noSale⟩
  | acceptTrade playerId scene =>
    rcases map_eq_some_iff.mp performed with ⟨done, accepted, same⟩
    cases same
    exact owned.playerAcceptTrade consistent respected accepted
  | closeTrade playerId =>
    cases performed
    refine ⟨?_, noSale⟩
    simp only [Game.playerCloseTrade]
    split
    · exact owned
    · exact (Owned.stable.close game _ ⟨exchanging, owned⟩).2
  | notice notice =>
    cases performed
    refine ⟨?_, noSale⟩
    by_cases changes : notice.ChangesHouse
    · cases notice with
      | setHouseOwner houseId guid nameKnown =>
        apply owned.harmless respected consistent
        · exact Wanes.modifyHouse houseId fun house item there =>
            (house.setOwner_transferItem guid nameKnown).symm.trans there
        · exact fun other => owner?_modifyHouse game houseId other _
      | _ => exact changes.elim
    · exact (Owned.stable.notify ⟨exchanging, owned⟩ notice fun asked => changes asked).2
  | setHouseOwner houseId guid nameKnown notices =>
    cases performed
    refine ⟨?_, noSale⟩
    apply owned.harmless respected.2 consistent
    · exact Wanes.setHouseOwner exchanging houseId guid nameKnown notices
    · exact owner?_setHouseOwner game houseId guid nameKnown respected.1

end Steps

/-! ## Documents take effect once -/

structure UsedUp (record : Record) : Prop where
  known :
    ∀ sale ∈ record.sales, ∃ serial,
      sale.document = .houseTransfer sale.house serial ∧ serial < record.game.nextSerial
  used : ∀ sale ∈ record.sales, record.game.transferItemOf sale.house ≠ some sale.document
  once : (record.sales.map (·.document)).Nodup

structure Ages (before after : Game) : Prop where
  nextSerial : before.nextSerial ≤ after.nextSerial
  documents :
    ∀ houseId item, after.transferItemOf houseId = some item →
      before.transferItemOf houseId = some item ∨
        ∃ serial, item = .houseTransfer houseId serial ∧ before.nextSerial ≤ serial

lemma Wanes.ages (wanes : Wanes before after) : Ages before after where
  nextSerial := le_of_eq wanes.nextSerial.symm
  documents := fun houseId item there => Or.inl (wanes.documents houseId item there)

section Ages

variable {game next : Game}

lemma Started.ages {tradePartner : Player} {tradeItem : Item}
  (started : Started game player tradePartner tradeItem next) : Ages game next where
  nextSerial := le_of_eq started.nextSerial.symm
  documents := by
    intro houseId item there
    simp only [Game.transferItemOf, started.houses] at there
    exact Or.inl there

lemma Ages.trans {middle : Game} (first : Ages before middle) (second : Ages middle after) :
  Ages before after where
  nextSerial := le_trans first.nextSerial second.nextSerial
  documents := by
    intro houseId item there
    rcases second.documents houseId item there with earlier | ⟨serial, fresh, large⟩
    · exact first.documents houseId item earlier
    · exact Or.inr ⟨serial, fresh, le_trans first.nextSerial large⟩

section

variable (consistent : Consistent False [] [] [] game)
include consistent

lemma sellHouse_ages (playerId partnerId : Nat) (scene : SellScene) :
  Ages game (game.sellHouse playerId partnerId scene).game := by
  rcases sellHouse_cases consistent playerId partnerId scene with
    same |
      ⟨player, tradePartner, houseId, house, offering, document, -, -, -,
        houseFound, -, -, made, outcome⟩
  · rw [same]
    exact (Wanes.refl game).ages
  · have offered : Ages game offering := by
      simp only [Game.getTransferItem] at made
      split_ifs at made
      cases made
      constructor
      · exact Nat.le_succ _
      · intro other item there
        simp only [Game.transferItemOf, OrderedMap.find?_insert] at there ⊢
        split_ifs at there with same
        · cases there
          exact Or.inr ⟨game.nextSerial, by rw [same], le_refl _⟩
        · exact Or.inl there
    rcases outcome with cancelled | started
    · rw [cancelled]
      have taken : Wanes offering (offering.resetTransferItem houseId) :=
        Wanes.onTradeCancel (.houseTransfer houseId 0)
      exact offered.trans taken.ages
    · exact offered.trans started.ages

/-- The documents of the sales of an exchange were outstanding, are distinct, and are used up. -/
lemma exchangeItems_sales {tradePartner : Player} (both : BothAccepted game player tradePartner)
  (holds1 : player.tradeItem = some item1) (holds2 : tradePartner.tradeItem = some item2)
  (scene : AcceptScene) (exchanged : Accepted)
  (isExchange :
    exchanged =
      (game.startTransfer player tradePartner).exchangeItems player
        tradePartner item1 item2 scene) :
  (∀ sale ∈ exchanged.sales,
      sale.document.IsDocumentOf sale.house ∧
        game.transferItemOf sale.house = some sale.document ∧
          exchanged.game.transferItemOf sale.house ≠ some sale.document) ∧
    (exchanged.sales.map (·.document)).Nodup := by
  subst isExchange
  rcases exchangeItems_wanes consistent both holds1 holds2 scene with ⟨toMoved, toFirst, -⟩
  have settled := (exchangeItems_settled consistent both holds1 holds2 scene).2
  have usedUp :
      ∀ houseId item, item ∈ [item2, item1] →
        ((game.startTransfer player tradePartner).exchangeItems player
            tradePartner item1 item2 scene).game.transferItemOf houseId ≠
          some item := by
    intro houseId item flying there
    rcases ((settled.consistent.documents houseId item).mp there).2 with listed | mem
    · exact settled.consistent.not_contains flying listed
    · exact not_mem_nil mem
  -- each of the two items makes at most one sale
  have first :=
    saleOf_cases
      ((game.startTransfer player tradePartner).notifyAll scene.moving).1
      (((game.startTransfer player tradePartner).notifyAll
          scene.moving).1.onTradeTransfer item1 tradePartner
        scene.transfer1).1
      item1 player tradePartner
  have second :=
    saleOf_cases
      (((game.startTransfer player tradePartner).notifyAll
          scene.moving).1.onTradeTransfer item1 tradePartner
        scene.transfer1).1
      ((game.startTransfer player tradePartner).exchangeItems player
        tradePartner item1 item2 scene).game
      item2 tradePartner player
  have both_sales :
      ∀ sale ∈
          ((game.startTransfer player tradePartner).exchangeItems player
            tradePartner item1 item2 scene).sales,
        sale.document.IsDocumentOf sale.house ∧
          game.transferItemOf sale.house = some sale.document ∧
            ((game.startTransfer player tradePartner).exchangeItems player
                tradePartner item1 item2 scene).game.transferItemOf sale.house ≠
              some sale.document := by
    intro sale mem
    rcases mem_append.mp mem with inFirst | inSecond
    · rcases first with none | ⟨houseId, document, outstanding, recorded⟩
      · rw [none] at inFirst
        cases inFirst
      · rw [recorded, mem_singleton] at inFirst
        rw [inFirst]
        exact ⟨document, toMoved.documents houseId item1 outstanding,
          usedUp houseId item1 (by simp)⟩
    · rcases second with none | ⟨houseId, document, outstanding, recorded⟩
      · have noSale : sale ∈ ([] : List Sale) := none ▸ inSecond
        cases noSale
      · have isSale := recorded ▸ inSecond
        rw [mem_singleton] at isSale
        rw [isSale]
        exact ⟨document, toFirst.documents houseId item2 outstanding,
          usedUp houseId item2 (by simp)⟩
  refine ⟨both_sales, ?_⟩
  have different := both.items_ne consistent holds1 holds2
  have pair : [item1, item2].Nodup := by simp [different]
  simp only [Game.exchangeItems, map_append]
  rcases saleOf_documents _ _ item1 player tradePartner with none | one
  · rw [none]
    rcases saleOf_documents _ _ item2 tradePartner player with none' | other
    · rw [none']
      exact nodup_nil
    · rw [other]
      exact nodup_singleton item2
  · rw [one]
    rcases saleOf_documents _ _ item2 tradePartner player with none' | other
    · rw [none']
      exact nodup_singleton item1
    · rw [other]
      exact pair

lemma playerAcceptTrade_sales (accepted : game.playerAcceptTrade playerId scene = some done) :
  Wanes game done.game ∧
    (∀ sale ∈ done.sales,
      sale.document.IsDocumentOf sale.house ∧
        game.transferItemOf sale.house = some sale.document ∧
          done.game.transferItemOf sale.house ≠ some sale.document) ∧
      (done.sales.map (·.document)).Nodup := by
  rcases acceptTrade_spec consistent playerId
    (fun impossible => impossible.elim) with ⟨before, returned⟩
  have accepting := acceptTrade_wanes consistent playerId
  simp only [Game.playerAcceptTrade] at accepted
  cases traders : (game.acceptTrade playerId).2 with
  | none =>
    rw [traders] at accepted
    cases accepted
    refine ⟨accepting, ?_, nodup_nil⟩
    intro sale mem
    cases mem
  | some pair =>
    rcases pair with ⟨player, tradePartner⟩
    rw [traders] at accepted
    have both := returned player tradePartner traders
    rcases transferTrade_cases accepted with
      ⟨item1, item2, inner, holds1, holds2, left, sales, outcome⟩
    rw [left, sales]
    rcases outcome with isExchange | ⟨cancelled, none⟩
    · have settled := (exchangeItems_settled before both holds1 holds2 scene).2
      have wanes := (exchangeItems_wanes before both holds1 holds2 scene).2.2
      rw [← isExchange] at settled wanes
      have ends := endTransfers_wanes settled.consistent.ids player.id tradePartner.id
      rcases exchangeItems_sales before both holds1 holds2 scene inner
        isExchange with ⟨proper, once⟩
      refine ⟨accepting.trans (wanes.trans ends), ?_, once⟩
      intro sale mem
      rcases proper sale mem with ⟨document, outstanding, used⟩
      exact ⟨document, accepting.documents _ _ outstanding,
        fun there => used (ends.documents _ _ there)⟩
    · rw [cancelled, none]
      have failed := failTrade_settled before both holds1 holds2
      have wanes :=
        ((startTransfer_wanes both).trans
          (Wanes.onTradeCancel item2)).trans (Wanes.onTradeCancel item1)
      have ends := endTransfers_wanes failed.consistent.ids player.id tradePartner.id
      refine ⟨accepting.trans (wanes.trans ends), ?_, nodup_nil⟩
      intro sale mem
      cases mem

lemma perform_sales (performed : game.perform event = some (next, sent, sales)) :
  Ages game next ∧
    (∀ sale ∈ sales,
      sale.document.IsDocumentOf sale.house ∧
        game.transferItemOf sale.house = some sale.document ∧
          next.transferItemOf sale.house ≠ some sale.document) ∧
      (sales.map (·.document)).Nodup := by
  have exchanging := Exchanging.of_consistent consistent
  have noSale :
      ∀ {left : Game}, Ages game left →
        Ages game left ∧
          (∀ sale ∈ ([] : List Sale),
            sale.document.IsDocumentOf sale.house ∧
              game.transferItemOf sale.house = some sale.document ∧
                left.transferItemOf sale.house ≠ some sale.document) ∧
            (([] : List Sale).map (·.document)).Nodup := by
    intro left ages
    refine ⟨ages, ?_, nodup_nil⟩
    intro sale mem
    cases mem
  cases event with
  | login player =>
    cases performed
    apply noSale
    simp only [Game.login]
    split_ifs
    · exact (Wanes.refl game).ages
    · exact ⟨le_refl _, fun _ _ there => Or.inl there⟩
  | requestTrade playerId tradePlayerId spriteId scene =>
    cases performed
    apply noSale
    rcases playerRequestTrade_cases consistent playerId tradePlayerId
      spriteId scene with same | ⟨_, _, _, -, -, -, -, started⟩
    · rw [same]
      exact (Wanes.refl game).ages
    · exact started.ages
  | sellHouse playerId partnerId scene =>
    cases performed
    exact noSale (sellHouse_ages consistent playerId partnerId scene)
  | acceptTrade playerId scene =>
    rcases map_eq_some_iff.mp performed with ⟨done, accepted, same⟩
    cases same
    rcases playerAcceptTrade_sales consistent accepted with ⟨wanes, proper, once⟩
    exact ⟨wanes.ages, proper, once⟩
  | closeTrade playerId =>
    cases performed
    apply noSale
    simp only [Game.playerCloseTrade]
    split
    · exact (Wanes.refl game).ages
    · exact (Wanes.internalCloseTrade exchanging _).ages
  | notice notice =>
    cases performed
    apply noSale
    exact
      ((Wanes.stable False [] [] [] game).notify
        ⟨exchanging, Wanes.refl game⟩ notice fun _ => trivial).2.ages
  | setHouseOwner houseId guid nameKnown notices =>
    cases performed
    apply noSale
    exact (Wanes.setHouseOwner exchanging houseId guid nameKnown notices).ages

end

lemma UsedUp.step {record next : Record} (usedUp : UsedUp record)
  (consistent : Consistent False [] [] [] record.game) (taken : record.Step event next) :
  UsedUp next := by
  rcases taken with ⟨sent, sales, performed, recorded⟩
  rcases perform_sales consistent performed with ⟨ages, proper, once⟩
  have numbered :
      ∀ sale ∈ sales, ∃ serial,
        sale.document = .houseTransfer sale.house serial ∧ serial < record.game.nextSerial := by
    intro sale mem
    rcases proper sale mem with ⟨document, outstanding, -⟩
    cases isDocument : sale.document with
    | plain number =>
      rw [isDocument] at document
      exact document.elim
    | houseTransfer house serial =>
      rw [isDocument] at document outstanding
      cases document
      exact ⟨serial, rfl, consistent.serials _ serial outstanding⟩
  constructor
  · intro sale mem
    rw [recorded] at mem
    rcases mem_append.mp mem with old | new
    · rcases usedUp.known sale old with ⟨serial, document, small⟩
      exact ⟨serial, document, lt_of_lt_of_le small ages.nextSerial⟩
    · rcases numbered sale new with ⟨serial, document, small⟩
      exact ⟨serial, document, lt_of_lt_of_le small ages.nextSerial⟩
  · intro sale mem there
    rw [recorded] at mem
    rcases mem_append.mp mem with old | new
    · rcases usedUp.known sale old with ⟨serial, document, small⟩
      rcases ages.documents sale.house sale.document there with before | ⟨fresh, isFresh, large⟩
      · exact usedUp.used sale old before
      · rw [document] at isFresh
        cases isFresh
        exact absurd large (Nat.not_le.mpr small)
    · exact (proper sale new).2.2 there
  · rw [recorded, map_append, nodup_append]
    refine ⟨usedUp.once, once, ?_⟩
    intro first inOld second inNew same
    rcases mem_map.mp inOld with ⟨old, oldMember, rfl⟩
    rcases mem_map.mp inNew with ⟨new, newMember, rfl⟩
    rcases usedUp.known old oldMember with ⟨serial, oldDocument, -⟩
    rcases numbered new newMember with ⟨newSerial, newDocument, -⟩
    have outstanding := (proper new newMember).2.1
    have sameHouse : new.house = old.house := by
      rw [oldDocument, newDocument] at same
      exact (Item.houseTransfer.inj same).1.symm
    rw [← same, sameHouse] at outstanding
    exact usedUp.used old oldMember outstanding

end Ages

/-- What is promised of the sales made and of the documents outstanding. -/
structure SalesProper (record : Record) : Prop where
  byOwner :
    ∀ sale ∈ record.sales, sale.ownerAfter ≠ sale.ownerBefore →
      sale.ownerBefore = some sale.offeredBy
  noSecondHouse : ∀ sale ∈ record.sales, sale.ownerAfter ≠ sale.ownerBefore → sale.buyerHouses = []
  once : (record.sales.map (·.document)).Nodup
  outstanding :
    ∀ houseId, record.game.transferItemOf houseId ≠ none ↔
      ∃ id player item, record.game.players.find? id = some player ∧
        player.tradeItem = some item ∧ item.IsDocumentOf houseId ∧ player.tradePartner ≠ none

lemma Consistent.outstanding_iff (consistent : Consistent False [] [] [] game) (houseId : Nat) :
  game.transferItemOf houseId ≠ none ↔
    ∃ id player item, game.players.find? id = some player ∧
      player.tradeItem = some item ∧ item.IsDocumentOf houseId ∧ player.tradePartner ≠ none := by
  constructor
  · intro there
    rcases ne_none_iff_exists'.mp there with ⟨item, outstanding⟩
    rcases (consistent.documents houseId item).mp outstanding with ⟨document, listed | mem⟩
    · rcases (OrderedMap.contains_iff _ _).mp listed with ⟨id, entry⟩
      rcases ((consistent.offers item id).mp entry).1 with ⟨player, found, holds⟩
      refine ⟨id, player, item, found, holds, document, ?_⟩
      have shaped := consistent.shaped id player found not_mem_nil
      simp only [Player.Shaped] at shaped
      split at shaped
      · rw [shaped.1] at holds
        cases holds
      · exact shaped.2
      · exact shaped.2
      · exact shaped.1
      · exact shaped.elim
    · exact (not_mem_nil mem).elim
  · rintro ⟨id, player, item, found, holds, document, -⟩ absent
    have entry := consistent.offered found holds not_mem_nil
    have outstanding :=
      (consistent.documents houseId item).mpr
        ⟨document, Or.inl ((OrderedMap.contains_iff _ _).mpr ⟨id, entry⟩)⟩
    rw [absent] at outstanding
    cases outstanding

structure Selling (record : Record) : Prop where
  consistent : Consistent False [] [] [] record.game
  owned : Owned record.game
  proper : ∀ sale ∈ record.sales, sale.Proper

lemma Selling.step {record next : Record} (selling : Selling record)
  (respected : SalesRespected record.game event) (taken : record.Step event next) :
  Selling next := by
  rcases taken with ⟨sent, sales, performed, recorded⟩
  have after := selling.owned.perform selling.consistent respected performed
  constructor
  · exact selling.consistent.perform (fun impossible => impossible.elim) performed
  · exact after.1
  · intro sale mem
    rw [recorded] at mem
    rcases mem_append.mp mem with old | new
    · exact selling.proper sale old
    · exact after.2 sale new

lemma Game.Idle.owned (idle : game.Idle) : Owned game := by
  have noSale : ∀ seller houseId serial buyer, ¬ OpenSale game seller houseId serial buyer := by
    intro seller houseId serial buyer sale
    have holds := sale.item
    rw [(idle.players seller.id seller sale.seller_found).2.2.1] at holds
    cases holds
  constructor
  · exact fun _ _ _ _ sale => (noSale _ _ _ _ sale).elim
  · exact fun _ _ _ _ sale => (noSale _ _ _ _ sale).elim

/--
In every run each document takes effect at most once and the outstanding
documents are those offered in open trades.  In a run which leaves open sales
alone, moreover, the houses are sold by their owners to players without a house.
-/
theorem sales_are_proper {start : Record} (idle : start.game.Idle) (unsold : start.sales = []) :
  (∀ record, Reaches Record.Step Always start record →
      (record.sales.map (·.document)).Nodup ∧
        ∀ houseId, record.game.transferItemOf houseId ≠ none ↔
          ∃ id player item, record.game.players.find? id = some player ∧
            player.tradeItem = some item ∧ item.IsDocumentOf houseId ∧
              player.tradePartner ≠ none) ∧
    ∀ record,
      Reaches Record.Step
          (fun record event => SalesRespected record.game event)
          start record →
        SalesProper record := by
  have usedUp :
      ∀ record, Reaches Record.Step Always start record →
        Consistent False [] [] [] record.game ∧ UsedUp record := by
    intro record run
    apply run.invariant
    · refine ⟨idle.consistent False, ?_⟩
      constructor
      · simp [unsold]
      · simp [unsold]
      · simp [unsold]
    · rintro state event next ⟨consistent, usedUp⟩ - taken
      refine ⟨?_, UsedUp.step usedUp consistent taken⟩
      rcases taken with ⟨sent, sales, performed, -⟩
      exact Consistent.perform consistent (fun impossible => impossible.elim) performed
  constructor
  · intro record run
    rcases usedUp record run with ⟨consistent, used⟩
    exact ⟨used.once, consistent.outstanding_iff⟩
  · intro record run
    rcases usedUp record run.always with ⟨consistent, used⟩
    have selling : Selling record := by
      apply run.invariant
      · exact ⟨idle.consistent False, idle.owned, by simp [unsold]⟩
      · exact fun _ _ _ selling respected taken => Selling.step selling respected taken
    constructor
    · exact fun sale member _ => (selling.proper sale member).1
    · exact fun sale member _ => (selling.proper sale member).2
    · exact used.once
    · exact consistent.outstanding_iff

/-- The first of the two players owns house 7. -/
def housedPlayers : Record :=
  ⟨{ twoPlayers with houses := OrderedMap.empty.insert 7 ⟨1, true, none⟩ }, []⟩

lemma housedPlayers_idle : housedPlayers.game.Idle where
  __ := twoPlayers_idle
  houses := by
    intro houseId
    simp only [housedPlayers, Game.transferItemOf, OrderedMap.find?_insert]
    split_ifs
    · rfl
    · rfl

def besideScene : SellScene :=
  ⟨⟨100, 100, 7⟩, ⟨101, 100, 7⟩⟩

theorem sales_are_proper_after_an_offer :
  SalesProper ⟨(housedPlayers.game.sellHouse 1 2 besideScene).game, []⟩ := by
  have taken :
      housedPlayers.Step (.sellHouse 1 2 besideScene)
        ⟨(housedPlayers.game.sellHouse 1 2 besideScene).game, []⟩ :=
    ⟨_, _, rfl, rfl⟩
  have respected : SalesRespected housedPlayers.game (.sellHouse 1 2 besideScene) := trivial
  exact (sales_are_proper housedPlayers_idle rfl).2 _ (.tail .refl respected taken)

/-- House 7 is offered, given to a third character, and sold all the same. -/
def evictedSale : List Event :=
  [.sellHouse 1 2 besideScene, .requestTrade 2 1 2400 nearbyScene,
    .setHouseOwner 7 3 true [], .acceptTrade 1 roomyScene,
    .acceptTrade 2 roomyScene]

theorem sale_by_evicted_owner :
  ¬ ∀ start record : Record, start.game.Idle → start.sales = [] →
    Reaches Record.Step Always start record → SalesProper record := by
  intro proper
  have sold :
      (housedPlayers.performAll evictedSale).map
          (fun record =>
            record.sales.map fun sale => (sale.offeredBy, sale.ownerBefore, sale.ownerAfter)) =
        some [(1, some 3, some 2)] := by
    decide +kernel
  rcases map_eq_some_iff.mp sold with ⟨record, performed, sales⟩
  have run : Reaches Record.Step Always housedPlayers record :=
    Record.reaches_performAll .refl performed
  have promised := proper housedPlayers record housedPlayers_idle rfl run
  rcases map_eq_singleton_iff.mp sales with ⟨sale, recorded, values⟩
  rcases Prod.mk.inj values with ⟨offeredBy, owners⟩
  rcases Prod.mk.inj owners with ⟨ownerBefore, ownerAfter⟩
  have byOwner := promised.byOwner sale (recorded ▸ mem_singleton_self sale)
  rw [ownerBefore, ownerAfter, offeredBy] at byOwner
  exact absurd (byOwner (by decide)) (by decide)

end OTServ.Trade
