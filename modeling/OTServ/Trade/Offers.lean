import OTServ.Trade.Exchange

/-!
# Offering items and houses

`internalStartTrade` and its two callers, `playerRequestTrade` and `sellHouse`,
keep the trade state consistent.
-/

namespace OTServ.Trade

open Library
open List Option

/-! ## Starting -/

section Starting

variable {strict : Prop} {outstanding : List Item} {game : Game} {player tradePartner : Player}
  {tradeItem : Item}

/-- What `internalStartTrade` leaves when it starts a trade. -/
structure Started (game : Game) (player tradePartner : Player) (tradeItem : Item) (left : Game) :
  Prop where
  player_found :
    left.players.find? player.id =
      some
        { player with
          tradePartner := some tradePartner.id
          tradeItem := some tradeItem
          tradeState := .initiated }
  partner_found :
    ∃ partner, left.players.find? tradePartner.id = some partner ∧
      partner.id = tradePartner.id ∧ partner.guid = tradePartner.guid ∧
        partner.tradeItem = tradePartner.tradeItem ∧
          partner.tradePartner = some player.id ∧
            (tradePartner.tradeState = .none ∧
                partner.tradeState = .acknowledge ∨
              tradePartner.tradePartner = some player.id ∧ partner = tradePartner)
  others :
    ∀ id, id ≠ player.id → id ≠ tradePartner.id → left.players.find? id = game.players.find? id
  tradeItems : left.tradeItems = game.tradeItems.insert tradeItem player.id
  houses : left.houses = game.houses
  nextSerial : left.nextSerial = game.nextSerial
  may_start :
    player.tradeState = .none ∨
      player.tradeState = .acknowledge ∧ player.tradePartner = some tradePartner.id

/-- `internalStartTrade` either leaves the game alone or starts the trade. -/
lemma internalStartTrade_spec (player : Player) (tradeItem : Item)
  (partnerFound : game.players.find? tradePartner.id = some tradePartner)
  (ne : tradePartner.id ≠ player.id) :
  ((game.internalStartTrade player tradePartner tradeItem).result = false ∧
      (game.internalStartTrade player tradePartner tradeItem).game = game) ∨
    (game.internalStartTrade player tradePartner tradeItem).result = true ∧
      Started game player tradePartner tradeItem
        (game.internalStartTrade player tradePartner tradeItem).game := by
  simp only [Game.internalStartTrade]
  split_ifs with busy partnerBusy fresh
  · exact Or.inl ⟨rfl, rfl⟩
  · exact Or.inl ⟨rfl, rfl⟩
  · have may : player.tradeState = .none ∨
        player.tradeState = .acknowledge ∧ player.tradePartner = some tradePartner.id := by
      by_cases idle : player.tradeState = .none
      · exact Or.inl idle
      · exact Or.inr (not_not.mp fun other => busy ⟨idle, other⟩)
    refine Or.inr ⟨rfl, ?_⟩
    exact
      { player_found :=
          (OrderedMap.find?_insert_ne _ _ ne.symm).trans
            (OrderedMap.find?_insert_self _ _ _)
        partner_found :=
          ⟨_, OrderedMap.find?_insert_self _ _ _, rfl, rfl, rfl, rfl, Or.inl ⟨fresh, rfl⟩⟩
        others := fun id notPlayer notPartner =>
          (OrderedMap.find?_insert_ne _ _ notPartner).trans
            (OrderedMap.find?_insert_ne _ _ notPlayer)
        tradeItems := rfl
        houses := rfl
        nextSerial := rfl
        may_start := may }
  · have may : player.tradeState = .none ∨
        player.tradeState = .acknowledge ∧ player.tradePartner = some tradePartner.id := by
      by_cases idle : player.tradeState = .none
      · exact Or.inl idle
      · exact Or.inr (not_not.mp fun other => busy ⟨idle, other⟩)
    have pointsBack : tradePartner.tradePartner = some player.id :=
      not_not.mp fun other => partnerBusy ⟨fresh, other⟩
    refine Or.inr ⟨rfl, ?_⟩
    exact
      { player_found := OrderedMap.find?_insert_self _ _ _
        partner_found :=
          ⟨tradePartner,
            (OrderedMap.find?_insert_ne _ _ ne).trans partnerFound,
            rfl, rfl, rfl, pointsBack, Or.inr ⟨pointsBack, rfl⟩⟩
        others := fun id notPlayer _ => OrderedMap.find?_insert_ne _ _ notPlayer
        tradeItems := rfl
        houses := rfl
        nextSerial := rfl
        may_start := may }

/-- Starting a trade with an item that is not on offer keeps the state consistent. -/
lemma Consistent.started {left : Game} (consistent : Consistent strict [] [] outstanding game)
  (playerFound : game.players.find? player.id = some player)
  (partnerFound : game.players.find? tradePartner.id = some tradePartner)
  (ne : tradePartner.id ≠ player.id) (unlisted : game.tradeItems.find? tradeItem = none)
  (documents :
    ∀ houseId other, other.IsDocumentOf houseId → (other ∈ outstanding ↔ other = tradeItem))
  (started : Started game player tradePartner tradeItem left) :
  Consistent strict [] [] [] left := by
  rcases started.partner_found with
    ⟨partner, partnerLeft, partnerId, -, partnerItem, partnerPoints, how⟩
  have playerShape := consistent.shaped player.id player playerFound not_mem_nil
  have partnerShape := consistent.shaped tradePartner.id tradePartner partnerFound not_mem_nil
  -- until now the player had nothing on offer, and at most this partner
  have offeredNothing : player.tradeItem = none := by
    rcases started.may_start with state | ⟨state, -⟩
    · simp only [Player.Shaped, state] at playerShape
      exact playerShape.1
    · simp only [Player.Shaped, state] at playerShape
      exact playerShape.1
  have pointedAt : ∀ id, player.tradePartner = some id → id = tradePartner.id := by
    intro id points
    rcases started.may_start with state | ⟨-, towards⟩
    · simp only [Player.Shaped, state] at playerShape
      rw [playerShape.2] at points
      cases points
    · exact some.inj (points.symm.trans towards)
  have partnerPointedAt : ∀ id, tradePartner.tradePartner = some id → id = player.id := by
    intro id points
    rcases how with ⟨state, -⟩ | ⟨towards, -⟩
    · simp only [Player.Shaped, state] at partnerShape
      rw [partnerShape.2] at points
      cases points
    · exact some.inj (points.symm.trans towards)
  constructor
  · intro id stored there
    by_cases isPlayer : id = player.id
    · rw [isPlayer, started.player_found] at there
      cases there
      exact isPlayer.symm
    · by_cases isPartner : id = tradePartner.id
      · rw [isPartner, partnerLeft] at there
        cases there
        exact partnerId.trans isPartner.symm
      · rw [started.others id isPlayer isPartner] at there
        exact consistent.ids id stored there
  · intro id stored there tied
    by_cases isPlayer : id = player.id
    · rw [isPlayer, started.player_found] at there
      cases there
      simp [Player.Shaped]
    · by_cases isPartner : id = tradePartner.id
      · rw [isPartner, partnerLeft] at there
        cases there
        rcases how with ⟨state, acknowledges⟩ | ⟨-, same⟩
        · simp only [Player.Shaped, state] at partnerShape
          simp [Player.Shaped, acknowledges, partnerItem, partnerShape.1, partnerPoints]
        · rw [same]
          exact partnerShape
      · rw [started.others id isPlayer isPartner] at there
        exact consistent.shaped id stored there tied
  · intro id stored partnerOf there tied points
    refine ⟨not_mem_nil, ?_⟩
    by_cases isPlayer : id = player.id
    · rw [isPlayer, started.player_found] at there
      cases there
      cases points
      rw [isPlayer]
      exact ⟨ne, partner, partnerLeft, partnerPoints⟩
    · by_cases isPartner : id = tradePartner.id
      · rw [isPartner, partnerLeft] at there
        cases there
        rw [partnerPoints] at points
        cases points
        rw [isPartner]
        exact ⟨ne.symm, _, started.player_found, rfl⟩
      · rw [started.others id isPlayer isPartner] at there
        rcases consistent.partners id stored partnerOf there tied points with
          ⟨-, apart, other, otherFound, pointsBack⟩
        have notPlayer : partnerOf ≠ player.id := by
          rintro rfl
          rw [playerFound] at otherFound
          cases otherFound
          exact isPartner (pointedAt id pointsBack)
        have notPartner : partnerOf ≠ tradePartner.id := by
          rintro rfl
          rw [partnerFound] at otherFound
          cases otherFound
          exact isPlayer (partnerPointedAt id pointsBack)
        exact ⟨apart, other,
          (started.others partnerOf notPlayer notPartner).trans otherFound,
          pointsBack⟩
  · exact fun _ _ _ _ _ _ => not_mem_nil
  · intro item id
    rw [started.tradeItems, OrderedMap.find?_insert]
    simp only [not_mem_nil, not_false_iff, and_true]
    have before := consistent.offers item id
    simp only [not_mem_nil, not_false_iff, and_true] at before
    by_cases isPlayer : id = player.id
    · rw [isPlayer, started.player_found]
      rw [isPlayer] at before
      constructor
      · intro entry
        split_ifs at entry with same
        · exact ⟨_, rfl, same ▸ rfl⟩
        · rcases before.mp entry with ⟨stored, there, holds⟩
          rw [playerFound] at there
          cases there
          rw [offeredNothing] at holds
          cases holds
      · rintro ⟨stored, there, holds⟩
        cases there
        cases holds
        exact if_pos rfl
    · have kept :
          (∃ stored, left.players.find? id = some stored ∧
              stored.tradeItem = some item) ↔
            ∃ stored, game.players.find? id = some stored ∧ stored.tradeItem = some item := by
        by_cases isPartner : id = tradePartner.id
        · rw [isPartner, partnerLeft, partnerFound]
          constructor
          · rintro ⟨stored, there, holds⟩
            cases there
            exact ⟨_, rfl, partnerItem ▸ holds⟩
          · rintro ⟨stored, there, holds⟩
            cases there
            exact ⟨_, rfl, partnerItem.trans holds⟩
        · rw [started.others id isPlayer isPartner]
      rw [kept, ← before]
      split_ifs with same
      · rw [same, unlisted]
        constructor
        · intro entry
          exact (isPlayer (some.inj entry).symm).elim
        · intro entry
          cases entry
      · exact Iff.rfl
  · intro houseId other
    have sameDocuments : left.transferItemOf houseId = game.transferItemOf houseId := by
      simp only [Game.transferItemOf, started.houses]
    rw [sameDocuments, consistent.documents houseId other, started.tradeItems]
    apply and_congr_right
    intro document
    rw [OrderedMap.contains_insert, documents houseId other document]
    simp only [not_mem_nil, or_false]
    exact or_comm
  · intro houseId serial
    simp only [Game.transferItemOf, started.houses, started.nextSerial]
    exact consistent.serials houseId serial

variable (consistent : Consistent strict [] [] [] game)
include consistent

/-- A request leaves the game alone or starts a trade with an item that is not on offer. -/
lemma playerRequestTrade_cases (playerId tradePlayerId spriteId : Nat) (scene : RequestScene) :
  (game.playerRequestTrade playerId tradePlayerId spriteId scene).game =
      game ∨
    ∃ player tradePartner number,
      game.players.find? player.id = some player ∧
        game.players.find? tradePartner.id = some tradePartner ∧
          tradePartner.id ≠ player.id ∧
            game.tradeItems.find? (.plain number) = none ∧
              Started game player tradePartner (.plain number)
                (game.playerRequestTrade playerId tradePlayerId spriteId scene).game := by
  simp only [Game.playerRequestTrade]
  split
  · exact Or.inl rfl
  · next player playerGot =>
    split
    · exact Or.inl rfl
    · next tradePartner partnerGot =>
      have playerFound := find?_of_getPlayerByID playerGot
      have partnerFound := find?_of_getPlayerByID partnerGot
      rw [← consistent.ids _ _ playerFound] at playerFound
      rw [← consistent.ids _ _ partnerFound] at partnerFound
      split
      · exact Or.inl rfl
      · next ne =>
        split
        · exact Or.inl rfl
        · split
          · exact Or.inl rfl
          · next thing _ =>
            split
            · exact Or.inl rfl
            · split
              · exact Or.inl rfl
              · split
                · exact Or.inl rfl
                · split
                  · split
                    · exact Or.inl rfl
                    · exact Or.inl rfl
                  · split
                    · exact Or.inl rfl
                    · next notTraded =>
                      split
                      · exact Or.inl rfl
                      · have unlisted : game.tradeItems.find? (.plain thing.number) = none := by
                          apply eq_none_iff_forall_ne_some.mpr
                          intro id entry
                          apply notTraded
                          apply any_eq_true.mpr
                          exact ⟨(.plain thing.number, id),
                            (OrderedMap.mem_entries_iff _ _ _).mpr entry,
                            by simp⟩
                        rcases internalStartTrade_spec player
                          (.plain thing.number) partnerFound ne with
                          ⟨-, same⟩ | ⟨-, started⟩
                        · exact Or.inl same
                        · exact Or.inr
                            ⟨player, tradePartner, thing.number, playerFound,
                              partnerFound, ne, unlisted, started⟩

lemma Consistent.playerRequestTrade
  (playerId tradePlayerId spriteId : Nat) (scene : RequestScene) :
  Consistent strict [] [] []
    (game.playerRequestTrade playerId tradePlayerId spriteId scene).game := by
  rcases playerRequestTrade_cases consistent playerId tradePlayerId spriteId
    scene with
    same | ⟨player, tradePartner, number, playerFound, partnerFound, ne, unlisted, started⟩
  · rw [same]
    exact consistent
  · apply consistent.started playerFound partnerFound ne unlisted _ started
    intro houseId other document
    constructor
    · exact fun mem => (not_mem_nil mem).elim
    · rintro rfl
      exact document.elim

end Starting

/-! ## Selling a house -/

section Selling

variable {strict : Prop} {game : Game}

lemma find?_of_getHouseByPlayerId {guid houseId : Nat} {house : House}
  (found : game.getHouseByPlayerId guid = some (houseId, house)) :
  game.houses.find? houseId = some house ∧ house.houseOwner = guid := by
  have member := mem_of_find?_eq_some found
  have owner := List.find?_some found
  exact ⟨(OrderedMap.mem_entries_iff _ _ _).mp member, of_decide_eq_true owner⟩

variable (consistent : Consistent strict [] [] [] game)
include consistent

/-- A new document is outstanding, has no entry and a fresh number. -/
lemma getTransferItem_spec {houseId : Nat} {house : House}
  (found : game.houses.find? houseId = some house) {offering : Game} {document : Item}
  (made : game.getTransferItem houseId house = some (offering, document)) :
  document = .houseTransfer houseId game.nextSerial ∧
    offering.players = game.players ∧
      offering.tradeItems = game.tradeItems ∧
        offering.tradeItems.find? document = none ∧
          offering.nextSerial = game.nextSerial + 1 ∧
            (∀ other, offering.owner? other = game.owner? other) ∧
              Consistent strict [] [] [document] offering := by
  simp only [Game.getTransferItem] at made
  split_ifs at made with outstanding
  cases made
  have without : game.transferItemOf houseId = none := by
    simp only [Game.transferItemOf, found, bind_some]
    exact not_isSome_iff_eq_none.mp outstanding
  have unlisted : ∀ item, item.IsDocumentOf houseId → game.tradeItems.contains item ≠ true := by
    intro item document contained
    have there : game.transferItemOf houseId = some item :=
      (consistent.documents houseId item).mpr ⟨document, Or.inl contained⟩
    rw [without] at there
    cases there
  have documentsLeft :
      ∀ other,
        ((game.houses.insert houseId
              { house with
                transferItem := some (.houseTransfer houseId game.nextSerial) }).find?
            other).bind (·.transferItem) =
          if other = houseId then
            some (.houseTransfer houseId game.nextSerial)
          else
            game.transferItemOf other := by
    intro other
    rw [OrderedMap.find?_insert]
    split_ifs with same
    · rfl
    · rfl
  refine ⟨rfl, rfl, rfl, ?_, rfl, ?_, ?_⟩
  · apply eq_none_iff_forall_ne_some.mpr
    intro id entry
    exact unlisted (.houseTransfer houseId game.nextSerial) rfl
      ((OrderedMap.contains_iff _ _).mpr ⟨id, entry⟩)
  · intro other
    simp only [Game.owner?, OrderedMap.find?_insert]
    split_ifs with same
    · rw [same, found]
      rfl
    · rfl
  · exact { consistent with
      documents := by
        intro other item
        simp only [Game.transferItemOf]
        rw [documentsLeft, mem_singleton]
        split_ifs with same
        · subst same
          constructor
          · intro there
            cases there
            exact ⟨rfl, Or.inr rfl⟩
          · rintro ⟨document, listed | rfl⟩
            · exact (unlisted item document listed).elim
            · rfl
        · rw [consistent.documents other item]
          apply and_congr_right
          intro document
          simp only [not_mem_nil, or_false]
          constructor
          · exact Or.inl
          · rintro (listed | rfl)
            · exact listed
            · exact (same document.symm).elim
      serials := by
        intro other serial
        simp only [Game.transferItemOf]
        rw [documentsLeft]
        split_ifs with same
        · intro there
          cases there
          exact Nat.lt_succ_self _
        · exact fun there => Nat.lt_succ_of_lt (consistent.serials other serial there) }

/--
`sellHouse` leaves the game alone, or makes a document for a house of the
player and a partner without a house, and starts a trade with it or takes it
back.
-/
lemma sellHouse_cases (playerId partnerId : Nat) (scene : SellScene) :
  (game.sellHouse playerId partnerId scene).game = game ∨
    ∃ player tradePartner houseId house offering document,
      game.players.find? player.id = some player ∧
        game.players.find? tradePartner.id = some tradePartner ∧
          tradePartner.id ≠ player.id ∧
            game.houses.find? houseId = some house ∧
              house.houseOwner = player.guid ∧
                game.getHouseByPlayerId tradePartner.guid = none ∧
                  game.getTransferItem houseId house =
                      some (offering, document) ∧
                    ((game.sellHouse playerId partnerId scene).game =
                        offering.resetTransferItem houseId ∨
                      Started offering player tradePartner document
                        (game.sellHouse playerId partnerId scene).game) := by
  simp only [Game.sellHouse]
  split
  · exact Or.inl rfl
  · next player playerGot =>
    split
    · exact Or.inl rfl
    · next houseId house owned =>
      split
      · exact Or.inl rfl
      · next tradePartner partnerGot =>
        have playerFound := find?_of_getPlayerByID playerGot
        have partnerFound := find?_of_getPlayerByID partnerGot
        rw [← consistent.ids _ _ playerFound] at playerFound
        rw [← consistent.ids _ _ partnerFound] at partnerFound
        split
        · exact Or.inl rfl
        · next ne =>
          split
          · exact Or.inl rfl
          · split
            · exact Or.inl rfl
            · next without =>
              split
              · exact Or.inl rfl
              · split
                · exact Or.inl rfl
                · next offering document made =>
                  rcases find?_of_getHouseByPlayerId owned with ⟨houseFound, owner⟩
                  rcases getTransferItem_spec consistent houseFound made with ⟨-, players, -⟩
                  have offered :=
                    internalStartTrade_spec player document (players.symm ▸ partnerFound) ne
                  refine Or.inr ⟨player, tradePartner, houseId, house,
                    offering, document, playerFound, partnerFound, ne,
                    houseFound, owner,
                    not_isSome_iff_eq_none.mp without, made, ?_⟩
                  rcases offered with ⟨refused, same⟩ | ⟨agreed, started⟩
                  · rw [refused]
                    simp only [Bool.false_eq_true, if_false]
                    rw [same]
                    exact Or.inl rfl
                  · rw [agreed]
                    simp only [if_true]
                    exact Or.inr started

lemma Consistent.sellHouse (playerId partnerId : Nat) (scene : SellScene) :
  Consistent strict [] [] [] (game.sellHouse playerId partnerId scene).game := by
  rcases sellHouse_cases consistent playerId partnerId scene with
    same |
      ⟨player, tradePartner, houseId, house, offering, document, playerFound,
        partnerFound, ne, houseFound, -, -, made, outcome⟩
  · rw [same]
    exact consistent
  · rcases getTransferItem_spec consistent houseFound made with
      ⟨isDocument, players, -, unlisted, -, -, offered⟩
    rw [← players] at playerFound partnerFound
    rcases outcome with cancelled | started
    · rw [cancelled]
      have taken := offered.onTradeCancel (by simp [OrderedMap.contains, unlisted]) not_mem_nil
      rw [isDocument] at taken
      exact taken
    · apply offered.started playerFound partnerFound ne unlisted _ started
      intro other item _
      exact mem_singleton

end Selling

end OTServ.Trade
