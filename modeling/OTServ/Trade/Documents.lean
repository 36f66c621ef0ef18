import OTServ.Trade.Offers

/-!
# Documents of houses

What the events of a trade do to the outstanding documents and to the players
who offer them.  Apart from `sellHouse`, everything only takes offers and
documents away; this is the relation `Wanes`.  The owner of a house changes by
`setHouseOwner` and by the document which takes effect, and by nothing else.
-/

namespace OTServ.Trade

open Library
open Option

/-! ## Waning -/

/-- Offers and outstanding documents are at most those from before. -/
structure Wanes (before after : Game) : Prop where
  players :
    ∀ id stored, after.players.find? id = some stored →
      ∃ old, before.players.find? id = some old ∧ stored.id = old.id ∧
        stored.guid = old.guid ∧
          (stored.tradeItem = none ∨
            stored.tradeItem = old.tradeItem ∧ stored.tradePartner = old.tradePartner)
  documents :
    ∀ houseId item, after.transferItemOf houseId = some item →
      before.transferItemOf houseId = some item
  nextSerial : after.nextSerial = before.nextSerial

namespace Wanes

variable {before middle after game : Game}

lemma refl (game : Game) : Wanes game game where
  players := fun _ stored found => ⟨stored, found, rfl, rfl, Or.inr ⟨rfl, rfl⟩⟩
  documents := fun _ _ there => there
  nextSerial := rfl

lemma trans (first : Wanes before middle) (second : Wanes middle after) :
  Wanes before after where
  players := by
    intro id stored found
    rcases second.players id stored found with ⟨between, foundBetween, ids, guids, item⟩
    rcases first.players id between foundBetween with ⟨old, foundOld, ids', guids', item'⟩
    refine ⟨old, foundOld, ids.trans ids', guids.trans guids', ?_⟩
    rcases item with empty | ⟨sameItem, samePartner⟩
    · exact Or.inl empty
    · rcases item' with empty | ⟨sameItem', samePartner'⟩
      · exact Or.inl (sameItem.trans empty)
      · exact Or.inr ⟨sameItem.trans sameItem', samePartner.trans samePartner'⟩
  documents := fun houseId item there =>
    first.documents houseId item (second.documents houseId item there)
  nextSerial := second.nextSerial.trans first.nextSerial

lemma setPlayer {player stored : Player} (found : game.players.find? player.id = some player)
  (sameId : stored.id = player.id) (sameGuid : stored.guid = player.guid)
  (offer :
    stored.tradeItem = none ∨
      stored.tradeItem = player.tradeItem ∧ stored.tradePartner = player.tradePartner) :
  Wanes game (game.setPlayer stored) where
  players := by
    intro id other there
    rw [setPlayer_players, OrderedMap.find?_insert] at there
    split_ifs at there with same
    · cases there
      refine ⟨player, ?_, sameId, sameGuid, offer⟩
      rw [same, sameId]
      exact found
    · exact ⟨other, there, rfl, rfl, Or.inr ⟨rfl, rfl⟩⟩
  documents := fun _ _ there => there
  nextSerial := rfl

lemma onTradeCancel (item : Item) : Wanes game (game.onTradeCancel item) := by
  rcases onTradeCancel_frame game item with ⟨players, -, serial⟩
  constructor
  · rw [players]
    exact (refl game).players
  · intro houseId other there
    exact ((transferItemOf_onTradeCancel game item houseId other).mp there).1
  · exact serial

lemma modifyHouse (houseId : Nat) {change : House → House}
  (fewer :
    ∀ house item, (change house).transferItem = some item → house.transferItem = some item) :
  Wanes game (game.modifyHouse houseId change) := by
  rcases modifyHouse_frame game houseId change with ⟨players, -, serial⟩
  constructor
  · rw [players]
    exact (refl game).players
  · intro other item there
    simp only [Game.transferItemOf, modifyHouse_find?] at there ⊢
    split_ifs at there with same
    · rw [same]
      rcases bind_eq_some_iff.mp there with ⟨left, changed, document⟩
      rcases map_eq_some_iff.mp changed with ⟨house, found, rfl⟩
      rw [found]
      exact fewer house item document
    · exact there
  · exact serial

lemma cancelTradeOf {player : Player} (found : game.players.find? player.id = some player) :
  Wanes game (game.cancelTradeOf player).1 := by
  have reset :
      ∀ left : Game, left.players = game.players →
        Wanes left
          (left.setPlayer
            { player with
              tradeItem := none
              tradeState := .none
              tradePartner := none }) := by
    intro left players
    have still : left.players.find? player.id = some player := players ▸ found
    exact setPlayer still rfl rfl (Or.inl rfl)
  cases holds : player.tradeItem with
  | none =>
    have result := reset game rfl
    simp only [Game.cancelTradeOf, holds]
    exact result
  | some item =>
    have cancelled :
        Wanes game
          (Game.onTradeCancel { game with tradeItems := game.tradeItems.erase item } item) := by
      have step :
          Wanes { game with tradeItems := game.tradeItems.erase item }
            (Game.onTradeCancel { game with tradeItems := game.tradeItems.erase item } item) :=
        onTradeCancel item
      exact ⟨step.players, step.documents, step.nextSerial⟩
    have frame := onTradeCancel_frame { game with tradeItems := game.tradeItems.erase item } item
    simp only [Game.cancelTradeOf, holds]
    exact cancelled.trans (reset _ frame.1)

section Steps

variable {strict : Prop} {loose : List Nat} {flight outstanding : List Item}

lemma internalCloseTrade (exchanging : Exchanging strict loose flight outstanding game)
  (id : Nat) : Wanes game (game.internalCloseTrade id).1 := by
  by_cases tied : id ∈ loose
  · rw [exchanging.close_loose tied]
    exact refl game
  · cases found : game.players.find? id with
    | none =>
      simp only [Game.internalCloseTrade, found]
      exact refl game
    | some player =>
      have sameId := exchanging.consistent.ids id player found
      rw [← sameId] at found
      rcases exchanging.close_tied (sameId ▸ found) tied with
        ⟨-, closed⟩ | ⟨partnerId, partner, -, -, ne, partnerFound, -, closed⟩
      · rw [closed]
        exact cancelTradeOf found
      · rw [closed]
        have partnerId_eq := exchanging.consistent.ids partnerId partner partnerFound
        apply (cancelTradeOf found).trans
        apply cancelTradeOf
        rw [cancelTradeOf_find?, if_neg, partnerId_eq]
        · exact partnerFound
        · intro same
          exact ne ((partnerId_eq.symm.trans same).trans sameId)

lemma erase (id : Nat) : Wanes game { game with players := game.players.erase id } where
  players := fun _ stored found =>
    ⟨stored, (OrderedMap.find?_of_erase found).2, rfl, rfl, Or.inr ⟨rfl, rfl⟩⟩
  documents := fun _ _ there => there
  nextSerial := rfl

lemma removePlayer (exchanging : Exchanging strict loose flight outstanding game) (id : Nat) :
  Wanes game (game.removePlayer id).1 := by
  cases found : game.players.find? id with
  | none =>
    simp only [Game.removePlayer, found]
    exact refl game
  | some player =>
    simp only [Game.removePlayer, found]
    split
    · exact (internalCloseTrade exchanging id).trans (erase id)
    · exact erase id

lemma stable (strict : Prop) (loose : List Nat) (flight outstanding : List Item) (start : Game) :
  NoticeStable True
    (fun game => Exchanging strict loose flight outstanding game ∧ Wanes start game) where
  close := fun _ id holds =>
    ⟨holds.1.internalCloseTrade id, holds.2.trans (internalCloseTrade holds.1 id)⟩
  remove := fun _ id holds => ⟨holds.1.removePlayer id, holds.2.trans (removePlayer holds.1 id)⟩
  setOwner := fun _ _ houseId guid nameKnown holds =>
    ⟨holds.1.modifyOwner houseId fun house =>
        house.setOwner_transferItem guid nameKnown,
      holds.2.trans
        (modifyHouse houseId fun house _ there =>
          (house.setOwner_transferItem guid nameKnown).symm.trans there)⟩

section

variable (exchanging : Exchanging strict loose flight outstanding game)
include exchanging

lemma notifyAll (notices : List Notice) : Wanes game (game.notifyAll notices).1 :=
  ((stable strict loose flight outstanding game).notifyAll
    ⟨exchanging, refl game⟩ notices fun _ _ _ => trivial).2

lemma setHouseOwner (houseId guid : Nat) (nameKnown : Bool) (notices : List Notice) :
  Wanes game (game.setHouseOwner houseId guid nameKnown notices).1 := by
  simp only [Game.setHouseOwner]
  split
  · exact refl game
  · split
    · exact refl game
    · have emptied :
          ∀ occupied : Prop, [Decidable occupied] →
            Wanes game (if occupied then game.notifyAll notices else (game, [])).1 := by
        intro occupied _
        split
        · exact notifyAll exchanging notices
        · exact refl game
      exact (emptied _).trans (modifyHouse houseId fun _ _ there => there)

end

lemma onTradeTransfer
  {item : Item} (exchanging : Exchanging strict loose flight (item :: outstanding) game)
  (once : item ∉ outstanding) (owner : Player) (scene : TransferScene) :
  Wanes game (game.onTradeTransfer item owner scene).1 := by
  cases item with
  | plain number => exact refl game
  | houseTransfer houseId serial =>
    have executed := exchanging.executeTransfer once owner scene
    have sold :
        Wanes game
          (game.executeTransfer houseId (.houseTransfer houseId serial) owner scene).1 := by
      simp only [Game.executeTransfer]
      split
      · exact refl game
      · split
        · exact refl game
        · apply (setHouseOwner exchanging houseId owner.guid scene.nameKnown scene.emptying).trans
          apply modifyHouse
          intro house item there
          cases there
    exact sold.trans (notifyAll executed scene.removing)

lemma endTransfer (ids : ∀ id player, game.players.find? id = some player → player.id = id)
  (id : Nat) : Wanes game (game.endTransfer id) := by
  cases found : game.players.find? id with
  | none =>
    simp only [Game.endTransfer, found]
    exact refl game
  | some player =>
    have sameId := ids id player found
    rw [← sameId] at found
    simp only [Game.endTransfer, sameId ▸ found]
    exact setPlayer found rfl rfl (Or.inl rfl)

end Steps

end Wanes

lemma acceptTrade_wanes
  {strict : Prop} {game : Game} (consistent : Consistent strict [] [] [] game) (playerId : Nat) :
  Wanes game (game.acceptTrade playerId).1 := by
  simp only [Game.acceptTrade]
  split
  · exact Wanes.refl game
  · next player got =>
    have found := find?_of_getPlayerByID got
    rw [← consistent.ids playerId player found] at found
    have accepted : Wanes game (game.setPlayer { player with tradeState := .accept }) :=
      Wanes.setPlayer found rfl rfl (Or.inr ⟨rfl, rfl⟩)
    split
    · split
      · exact accepted
      · split
        · exact accepted
        · exact accepted
    · exact Wanes.refl game

lemma startTransfer_wanes
  {game : Game} {player tradePartner : Player} (both : BothAccepted game player tradePartner) :
  Wanes game (game.startTransfer player tradePartner) := by
  have first : Wanes game (game.setPlayer { player with tradeState := .transfer }) :=
    Wanes.setPlayer both.player_found rfl rfl (Or.inr ⟨rfl, rfl⟩)
  have partnerStill :
      (game.setPlayer { player with tradeState := .transfer }).players.find?
          tradePartner.id = some tradePartner :=
    (OrderedMap.find?_insert_ne _ _ both.different).trans both.partner_found
  have second :
      Wanes (game.setPlayer { player with tradeState := .transfer })
        ((game.setPlayer { player with tradeState := .transfer }).setPlayer
          { tradePartner with tradeState := .transfer }) :=
    Wanes.setPlayer partnerStill rfl rfl (Or.inr ⟨rfl, rfl⟩)
  have both := first.trans second
  exact ⟨both.players, both.documents, both.nextSerial⟩

section Owners

variable (game : Game)

lemma owner?_modifyHouse (houseId other : Nat) (change : House → House) :
  (game.modifyHouse houseId change).owner? other =
    if other = houseId then
      (game.houses.find? houseId).map fun house => (change house).houseOwner
    else
      game.owner? other := by
  simp only [Game.owner?, modifyHouse_find?]
  split_ifs with same
  · rw [map_map]
    rfl
  · rfl

lemma owner?_onTradeCancel (item : Item) (other : Nat) :
  (game.onTradeCancel item).owner? other = game.owner? other := by
  cases item with
  | plain number => rfl
  | houseTransfer house serial =>
    have changed :
        (game.onTradeCancel (.houseTransfer house serial)).owner? other =
          _ :=
      owner?_modifyHouse game house other _
    rw [changed]
    split_ifs with same
    · rw [same]
      rfl
    · rfl

lemma owner?_cancelTradeOf (player : Player) (other : Nat) :
  (game.cancelTradeOf player).1.owner? other = game.owner? other := by
  cases holds : player.tradeItem with
  | none =>
    simp only [Game.cancelTradeOf, holds]
    rfl
  | some item =>
    simp only [Game.cancelTradeOf, holds]
    exact owner?_onTradeCancel { game with tradeItems := game.tradeItems.erase item } item other

lemma owner?_internalCloseTrade (id other : Nat) :
  (game.internalCloseTrade id).1.owner? other = game.owner? other := by
  simp only [Game.internalCloseTrade]
  split
  · rfl
  · split
    · rfl
    · split
      · exact owner?_cancelTradeOf game _ other
      · exact (owner?_cancelTradeOf _ _ other).trans (owner?_cancelTradeOf game _ other)

lemma sameOwners_stable (start : Game) :
  NoticeStable False (fun game => ∀ houseId, game.owner? houseId = start.owner? houseId) where
  close := fun game id same houseId =>
    (owner?_internalCloseTrade game id houseId).trans (same houseId)
  remove := by
    intro game id same houseId
    simp only [Game.removePlayer]
    split
    · exact same houseId
    · split
      · exact (owner?_internalCloseTrade game id houseId).trans (same houseId)
      · exact same houseId
  setOwner := fun impossible => impossible.elim

lemma owner?_notifyAll
  {notices : List Notice} (quiet : ∀ notice ∈ notices, ¬ notice.ChangesHouse) (houseId : Nat) :
  (game.notifyAll notices).1.owner? houseId = game.owner? houseId :=
  (sameOwners_stable game).notifyAll (fun _ => rfl) notices quiet houseId

lemma owner?_setHouseOwner (houseId guid : Nat) (nameKnown : Bool) {notices : List Notice}
  (quiet : ∀ notice ∈ notices, ¬ notice.ChangesHouse) (other : Nat) :
  (game.setHouseOwner houseId guid nameKnown notices).1.owner? other =
    if other = houseId then
      (game.houses.find? houseId).map fun house => (house.setOwner guid nameKnown).houseOwner
    else
      game.owner? other := by
  cases found : game.houses.find? houseId with
  | none =>
    simp only [Game.setHouseOwner, found]
    split_ifs with same
    · rw [same]
      simp [Game.owner?, found]
    · rfl
  | some house =>
    by_cases early : house.isLoaded ∧ house.houseOwner = guid
    · simp only [Game.setHouseOwner, found, early, and_self, if_true]
      split_ifs with same
      · rw [same]
        simp [Game.owner?, found, House.setOwner, early]
      · rfl
    · have emptied :
          ∀ occupied : Prop, [Decidable occupied] → ∀ number,
            (if occupied then game.notifyAll notices
              else (game, [])).1.owner? number = game.owner? number := by
        intro occupied _ number
        split
        · exact owner?_notifyAll game quiet number
        · rfl
      simp only [Game.setHouseOwner, found, early, if_false]
      rw [owner?_modifyHouse]
      by_cases same : other = houseId
      · -- the house is still there after the kicks
        have still := emptied (house.houseOwner ≠ 0) houseId
        simp only [Game.owner?, found, map_some] at still
        rcases map_eq_some_iff.mp still with ⟨left, leftFound, -⟩
        rw [if_pos same, if_pos same, leftFound]
        simp only [House.setOwner, early, if_false, map_some]
      · rw [if_neg same, if_neg same]
        exact emptied _ other

lemma owner?_endTransfer (id other : Nat) :
  (game.endTransfer id).owner? other = game.owner? other := by
  simp only [Game.endTransfer]
  split
  · rfl
  · rfl

lemma owner?_acceptTrade (id other : Nat) :
  (game.acceptTrade id).1.owner? other = game.owner? other := by
  simp only [Game.acceptTrade]
  split
  · rfl
  · split
    · split
      · rfl
      · split
        · rfl
        · rfl
    · rfl

end Owners

end OTServ.Trade
