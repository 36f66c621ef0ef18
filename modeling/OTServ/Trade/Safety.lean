import OTServ.Trade.Offers

/-!
# Safety of trades

Every event keeps the trade state consistent, so that in every run partners
point at each other and `tradeItems` has exactly the items on offer.

A player in `TRADE_ACKNOWLEDGE` has offered nothing, yet may accept.  As long as
nobody does so, those who have accepted have an item and the branch of
`playerAcceptTrade` which exchanges the items never meets a null item.
-/

namespace OTServ.Trade

open Library
open Library.GuardedRuns
open List Option

/-! ## Whole runs -/

structure Game.Idle (game : Game) : Prop where
  players :
    ∀ id player, game.players.find? id = some player →
      player.id = id ∧ player.tradeState = .none ∧
        player.tradeItem = none ∧ player.tradePartner = none
  tradeItems : ∀ item, game.tradeItems.find? item = none
  houses : ∀ houseId, game.transferItemOf houseId = none

variable {game : Game} {strict : Prop} {event : Event}

lemma Game.Idle.consistent
  (idle : game.Idle) (strict : Prop) : Consistent strict [] [] [] game where
  ids := fun id player found => (idle.players id player found).1
  shaped := by
    intro id player found _
    rcases idle.players id player found with ⟨-, state, item, partner⟩
    simp [Player.Shaped, state, item, partner]
  partners := by
    intro id player partnerId found _ points
    rcases idle.players id player found with ⟨-, -, -, partner⟩
    rw [partner] at points
    cases points
  grounded := fun _ _ _ _ _ _ => not_mem_nil
  offers := by
    intro item id
    rw [idle.tradeItems item]
    constructor
    · intro entry
      cases entry
    · rintro ⟨⟨player, found, holds⟩, -⟩
      rcases idle.players id player found with ⟨-, -, empty, -⟩
      rw [empty] at holds
      cases holds
  documents := by
    intro houseId item
    rw [idle.houses houseId]
    constructor
    · intro there
      cases there
    · rintro ⟨-, listed | mem⟩
      · rcases (OrderedMap.contains_iff _ _).mp listed with ⟨id, entry⟩
        rw [idle.tradeItems item] at entry
        cases entry
      · exact (not_mem_nil mem).elim
  serials := by
    intro houseId serial there
    rw [idle.houses houseId] at there
    cases there

lemma Consistent.login (consistent : Consistent strict [] [] [] game) (player : Player) :
  Consistent strict [] [] [] (game.login player) := by
  simp only [Game.login]
  split_ifs with used
  · exact consistent
  · have absent : game.players.find? player.id = none := by
      apply eq_none_iff_forall_ne_some.mpr
      intro stored there
      exact used (Or.inr ((OrderedMap.contains_iff _ _).mpr ⟨stored, there⟩))
    constructor
    · intro id stored there
      rw [setPlayer_players, OrderedMap.find?_insert] at there
      split_ifs at there with same
      · cases there
        exact same.symm
      · exact consistent.ids id stored there
    · intro id stored there tied
      rw [setPlayer_players, OrderedMap.find?_insert] at there
      split_ifs at there with same
      · cases there
        exact ⟨rfl, rfl⟩
      · exact consistent.shaped id stored there tied
    · intro id stored partnerId there tied points
      rw [setPlayer_players, OrderedMap.find?_insert] at there
      split_ifs at there with same
      · cases there
        cases points
      · rcases consistent.partners id stored partnerId there tied points with
          ⟨partnerTied, ne, partner, partnerFound, pointsBack⟩
        refine ⟨partnerTied, ne, partner, ?_, pointsBack⟩
        rw [setPlayer_players, OrderedMap.find?_insert_ne]
        · exact partnerFound
        · rintro rfl
          rw [absent] at partnerFound
          cases partnerFound
    · exact fun _ _ _ _ _ _ => not_mem_nil
    · intro item id
      rw [setPlayer_tradeItems, consistent.offers item id, setPlayer_players,
        OrderedMap.find?_insert]
      apply and_congr_left
      intro _
      split_ifs with same
      · rw [same, absent]
        constructor
        · rintro ⟨stored, there, -⟩
          cases there
        · rintro ⟨stored, there, holds⟩
          cases there
          cases holds
      · exact Iff.rfl
    · exact consistent.documents
    · exact consistent.serials

def OfferBeforeAccept (game : Game) : Event → Prop
  | .acceptTrade playerId _ =>
    ∀ player, game.getPlayerByID playerId = some player → player.tradeState ≠ .acknowledge
  | _ => True

lemma Consistent.perform {next : Game} (consistent : Consistent strict [] [] [] game)
  {sent : List Delivery} {sales : List Sale} (offered : strict → OfferBeforeAccept game event)
  (performed : game.perform event = some (next, sent, sales)) :
  Consistent strict [] [] [] next := by
  have exchanging := Exchanging.of_consistent consistent
  cases event with
  | login player =>
    cases performed
    exact consistent.login player
  | requestTrade playerId tradePlayerId spriteId scene =>
    cases performed
    exact consistent.playerRequestTrade playerId tradePlayerId spriteId scene
  | sellHouse playerId partnerId scene =>
    cases performed
    exact consistent.sellHouse playerId partnerId scene
  | acceptTrade playerId scene =>
    rcases map_eq_some_iff.mp performed with ⟨done, accepted, same⟩
    cases same
    exact consistent.playerAcceptTrade offered accepted
  | closeTrade playerId =>
    cases performed
    simp only [Game.playerCloseTrade]
    split
    · exact consistent
    · exact (exchanging.internalCloseTrade _).consistent
  | notice notice =>
    cases performed
    exact
      ((Exchanging.stable strict [] [] []).notify exchanging notice fun _ => trivial).consistent
  | setHouseOwner houseId guid nameKnown notices =>
    cases performed
    exact (exchanging.setHouseOwner houseId guid nameKnown notices).consistent

lemma consistent_of_run {start finish : Record} {guard : Record → Event → Prop}
  (idle : start.game.Idle)
  (offered : strict → ∀ record event, guard record event → OfferBeforeAccept record.game event)
  (run : Reaches Record.Step guard start finish) : Consistent strict [] [] [] finish.game := by
  apply run.invariant
  · exact idle.consistent strict
  · rintro state event next consistent allowed ⟨sent, sales, performed, -⟩
    exact Consistent.perform consistent (fun asked => offered asked state event allowed) performed

/-- The first two promises: partners point at each other, and `tradeItems` has exactly the items on offer. -/
structure Game.TradesMatch (game : Game) : Prop where
  symmetric :
    ∀ id player partnerId, game.players.find? id = some player →
      player.tradePartner = some partnerId →
        ∃ partner, game.players.find? partnerId = some partner ∧ partner.tradePartner = some id
  tradeItems :
    ∀ item id, game.tradeItems.find? item = some id ↔
      ∃ player, game.players.find? id = some player ∧ player.tradeItem = some item

/-- The third promise: the branch which exchanges the items is reached with both items. -/
def Game.TransfersItems (game : Game) (event : Event) : Prop :=
  ∀ playerId scene player tradePartner,
    event = .acceptTrade playerId scene →
      (game.acceptTrade playerId).2 = some (player, tradePartner) →
        player.tradeItem ≠ none ∧ tradePartner.tradeItem ≠ none

lemma Consistent.tradesMatch
  (consistent : Consistent strict [] [] [] game) : game.TradesMatch where
  symmetric := by
    intro id player partnerId found points
    rcases consistent.partners id player partnerId found not_mem_nil
      points with ⟨-, -, partner, partnerFound, pointsBack⟩
    exact ⟨partner, partnerFound, pointsBack⟩
  tradeItems := by
    intro item id
    rw [consistent.offers item id]
    exact and_iff_left not_mem_nil

lemma Consistent.transfersItems (consistent : Consistent True [] [] [] game)
  (offered : OfferBeforeAccept game event) : game.TransfersItems event := by
  rintro playerId scene player tradePartner rfl traders
  rcases acceptTrade_spec consistent playerId fun _ => offered with ⟨after, returned⟩
  have both := returned player tradePartner traders
  have playerShape := after.shaped player.id player both.player_found not_mem_nil
  have partnerShape := after.shaped tradePartner.id tradePartner both.partner_found not_mem_nil
  simp only [Player.Shaped, both.player_state] at playerShape
  simp only [Player.Shaped, both.partner_state] at partnerShape
  exact ⟨playerShape.2 trivial, partnerShape.2 trivial⟩

/--
In every run partners point at each other and `tradeItems` has exactly the
items on offer; and in a run in which nobody accepts before offering an item,
no such event finds a null item in the branch which exchanges the items.
-/
theorem trades_are_safe {start : Record} (idle : start.game.Idle) :
  (∀ record, Reaches Record.Step Always start record →
      record.game.TradesMatch) ∧
    ∀ record,
      Reaches Record.Step
          (fun record event => OfferBeforeAccept record.game event)
          start record →
        ∀ event, OfferBeforeAccept record.game event → record.game.TransfersItems event := by
  constructor
  · intro record run
    have consistent : Consistent False [] [] [] record.game :=
      consistent_of_run idle (fun impossible => impossible.elim) run
    exact consistent.tradesMatch
  · intro record run event offered
    have consistent : Consistent True [] [] [] record.game :=
      consistent_of_run idle (fun _ _ _ allowed => allowed) run
    exact consistent.transfersItems offered

def twoPlayers : Game where
  players :=
    (OrderedMap.empty.insert 1 ⟨1, 1, "Seller", 8, .none, none, none, by decide⟩).insert
      2 ⟨2, 2, "Buyer", 8, .none, none, none, by decide⟩
  tradeItems := .empty
  houses := .empty
  nextSerial := 0

lemma twoPlayers_idle : twoPlayers.Idle where
  players := by
    intro id player found
    simp only [twoPlayers, OrderedMap.find?_insert] at found
    split_ifs at found with isBuyer isSeller
    · cases found
      exact ⟨isBuyer.symm, rfl, rfl, rfl⟩
    · cases found
      exact ⟨isSeller.symm, rfl, rfl, rfl⟩
    · cases found
  tradeItems := fun _ => rfl
  houses := fun _ => rfl

/-- The players stand side by side, with an item that may be traded between them. -/
def nearbyScene : RequestScene where
  playerPosition := ⟨100, 100, 7⟩
  partnerPosition := ⟨101, 100, 7⟩
  thing := some ⟨5, 2400, true, 0, ⟨100, 101, 7⟩, none⟩
  isHoldingItem _ _ := false
  hasPath := true

def roomyScene : AcceptScene where
  addResult1 := .noError
  addResult2 := .noError
  removeResult1 := .noError
  removeResult2 := .noError
  describe _ := ⟨false, 1, ""⟩
  moving := []
  transfer1 := ⟨[], true, []⟩
  transfer2 := ⟨[], true, []⟩

/-- Carry out a list of events, unless one of them reads through a null pointer. -/
def Record.performAll : Record → List Event → Option Record
  | record, [] => some record
  | record, event :: rest =>
    match record.game.perform event with
    | none => none
    | some (game, _, sales) =>
      Record.performAll ⟨game, record.sales ++ sales⟩ rest

lemma Record.reaches_performAll {start record finish : Record} {events : List Event}
  (run : Reaches Record.Step Always start record)
  (performed : record.performAll events = some finish) :
  Reaches Record.Step Always start finish := by
  induction events generalizing record with
  | nil =>
    cases performed
    exact run
  | cons event rest ih =>
    simp only [Record.performAll] at performed
    split at performed
    · cases performed
    · next game sent sales taken =>
      exact ih (run.tail trivial ⟨sent, sales, taken, rfl⟩) performed

def twoPlayersRecord : Record :=
  ⟨twoPlayers, []⟩

theorem trades_are_safe_after_a_request :
  (twoPlayers.playerRequestTrade 1 2 2400 nearbyScene).game.TradesMatch := by
  have run :
      Reaches Record.Step Always twoPlayersRecord
        ⟨(twoPlayers.playerRequestTrade 1 2 2400 nearbyScene).game, []⟩ :=
    .tail .refl trivial
      (show
        twoPlayersRecord.Step (.requestTrade 1 2 2400 nearbyScene)
          ⟨(twoPlayers.playerRequestTrade 1 2 2400 nearbyScene).game, []⟩
        from ⟨_, _, rfl, rfl⟩)
  have idle : twoPlayersRecord.game.Idle := twoPlayers_idle
  exact (trades_are_safe idle).1 _ run

def offerAndAccept : List Event :=
  [.requestTrade 1 2 2400 nearbyScene, .acceptTrade 1 roomyScene]

theorem accept_without_offer :
  ¬ ∀ start record : Record, start.game.Idle →
    Reaches Record.Step Always start record →
      record.game.TradesMatch ∧ ∀ event, record.game.TransfersItems event := by
  intro safe
  -- the second player then accepts without having offered an item
  have traders :
      (twoPlayersRecord.performAll offerAndAccept).map
          (fun record =>
            (record.game.acceptTrade 2).2.map fun pair => (pair.1.tradeItem, pair.2.tradeItem)) =
        some (some (none, some (.plain 5))) := by
    decide +kernel
  rcases map_eq_some_iff.mp traders with ⟨record, performed, pair⟩
  rcases map_eq_some_iff.mp pair with ⟨⟨player, tradePartner⟩, returned, items⟩
  have run : Reaches Record.Step Always twoPlayersRecord record :=
    Record.reaches_performAll .refl performed
  have transfers :=
    (safe twoPlayersRecord record twoPlayers_idle run).2
      (.acceptTrade 2 roomyScene) 2 roomyScene player tradePartner rfl
      returned
  exact transfers.1 (congrArg Prod.fst items)

end OTServ.Trade
