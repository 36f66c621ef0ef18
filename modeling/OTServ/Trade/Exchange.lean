import OTServ.Trade.Consistency

/-!
# The exchange of the items

The notifications which moving things sets off, and `playerAcceptTrade`, keep
the trade state consistent.  What survives closing trades and removing players
survives all notices; `NoticeStable` states this once for any property.
-/

namespace OTServ.Trade

open Library
open Map
open List Option

/-! ## Notices -/

def Notice.ChangesHouse : Notice → Prop
  | .setHouseOwner _ _ _ => True
  | _ => False

/-- What survives closing trades and removing players, and house changes if they are allowed. -/
structure NoticeStable (houseChanges : Prop) (holds : Game → Prop) : Prop where
  close : ∀ game id, holds game → holds (game.internalCloseTrade id).1
  remove : ∀ game id, holds game → holds (game.removePlayer id).1
  setOwner :
    houseChanges → ∀ game houseId guid nameKnown, holds game →
      holds (game.modifyHouse houseId fun house => house.setOwner guid nameKnown)

namespace NoticeStable

variable {houseChanges : Prop} {holds : Game → Prop} {game : Game}

section

variable (stable : NoticeStable houseChanges holds)
include stable

variable (start : holds game)
include start

lemma checkTradeState
  (id : Nat) (moved : MovedItem) : holds (game.checkTradeState id moved).1 := by
  simp only [Game.checkTradeState]
  split
  · split
    · exact stable.close game id start
    · exact start
  · exact start

lemma closeTradeWhen (id : Nat) (condition : Item → Bool) :
  holds (game.closeTradeWhen id condition).1 := by
  simp only [Game.closeTradeWhen]
  split
  · split
    · exact stable.close game id start
    · exact start
  · exact start

lemma onRemoveItem (id : Nat) (moved : MovedItem) (condition : Item → Bool) :
  holds (game.onRemoveItem id moved condition).1 := by
  simp only [Game.onRemoveItem]
  split
  · exact start
  · split
    · exact stable.closeTradeWhen (stable.checkTradeState start id moved) id condition
    · exact start

end

lemma removedUnlessSame {old newItem : Item} {removed : Game × List Delivery}
  (start : holds game) (after : holds removed.1) :
  holds (if old ≠ newItem then removed else (game, [])).1 := by
  split
  · exact after
  · exact start

variable (stable : NoticeStable houseChanges holds)
include stable

lemma onCreatureMove (start : holds game) (id : Nat) (pos : Position)
  (itemPosition : Item → Position) (partnerPosition : Nat → Position) :
  holds (game.onCreatureMove id pos itemPosition partnerPosition).1 := by
  simp only [Game.onCreatureMove]
  split
  · exact start
  · split
    · have first :=
        stable.closeTradeWhen start id fun tradeItem =>
          !areInRange 1 1 0 (itemPosition tradeItem) pos
      split
      · exact first
      · split
        · exact stable.close _ id first
        · exact first
    · exact start

lemma onUpdateTileItem (start : holds game) (id : Nat) (old : MovedItem) (newItem : Item) :
  holds (game.onUpdateTileItem id old newItem).1 := by
  have removed :
      holds
        (if old.item ≠ newItem then
            game.onRemoveTileItem id old
          else
            (game, [])).1 :=
    removedUnlessSame start (stable.onRemoveItem start id old old.isHoldingItem)
  simp only [Game.onUpdateTileItem]
  split
  · split
    · exact stable.close _ id removed
    · exact removed
  · exact removed

lemma notify (start : holds game) (notice : Notice)
  (allowed : notice.ChangesHouse → houseChanges) : holds (game.notify notice).1 := by
  cases notice with
  | addContainerItem id moved => exact stable.checkTradeState start id moved
  | updateContainerItem id container old newItem =>
    exact stable.checkTradeState
      (removedUnlessSame start (stable.onRemoveItem start id old _)) id old
  | removeContainerItem id container moved =>
    exact stable.onRemoveItem start id moved _
  | updateInventoryItem id old newItem =>
    exact stable.checkTradeState
      (removedUnlessSame start (stable.onRemoveItem start id old _)) id old
  | removeInventoryItem id moved => exact stable.onRemoveItem start id moved _
  | updateTileItem id old newItem =>
    exact stable.onUpdateTileItem start id old newItem
  | removeTileItem id moved => exact stable.onRemoveItem start id moved _
  | creatureMove id pos itemPosition partnerPosition =>
    exact stable.onCreatureMove start id pos itemPosition partnerPosition
  | removePlayer id => exact stable.remove game id start
  | setHouseOwner houseId guid nameKnown =>
    exact stable.setOwner (allowed trivial) game houseId guid nameKnown start

lemma foldl
  (notices : List Notice) (allowed : ∀ notice ∈ notices, notice.ChangesHouse → houseChanges)
  (start : Game × List Delivery) (initially : holds start.1) :
  holds
    (notices.foldl
      (fun done notice =>
        let next := done.1.notify notice
        (next.1, done.2 ++ next.2))
      start).1 := by
  induction notices generalizing start with
  | nil => exact initially
  | cons notice rest ih =>
    apply ih
    · exact fun other mem => allowed other (mem_cons_of_mem _ mem)
    · exact stable.notify initially notice (allowed notice mem_cons_self)

lemma notifyAll (start : holds game) (notices : List Notice)
  (allowed : ∀ notice ∈ notices, notice.ChangesHouse → houseChanges) :
  holds (game.notifyAll notices).1 :=
  stable.foldl notices allowed (game, []) start

end NoticeStable

lemma House.setOwner_transferItem (house : House) (guid : Nat) (nameKnown : Bool) :
  (house.setOwner guid nameKnown).transferItem = house.transferItem := by
  simp only [House.setOwner]
  split
  · rfl
  · rfl

lemma Exchanging.stable (strict : Prop) (loose : List Nat) (flight outstanding : List Item) :
  NoticeStable True (Exchanging strict loose flight outstanding) where
  close := fun _ id exchanging => exchanging.internalCloseTrade id
  remove := fun _ id exchanging => exchanging.removePlayer id
  setOwner := fun _ _ houseId guid nameKnown exchanging =>
    exchanging.modifyOwner houseId fun house => house.setOwner_transferItem guid nameKnown

variable {item item1 item2 : Item} {id : Nat} {player tradePartner : Player} {loose : List Nat}
  {flight : List Item} {scene : AcceptScene} {done : Accepted}

namespace Exchanging

variable {strict : Prop} {loose : List Nat} {flight outstanding : List Item} {game : Game}

section

variable (exchanging : Exchanging strict loose flight outstanding game)
include exchanging

lemma notifyAll (notices : List Notice) :
  Exchanging strict loose flight outstanding (game.notifyAll notices).1 :=
  (stable strict loose flight outstanding).notifyAll exchanging notices fun _ _ _ => trivial

lemma setHouseOwner (houseId guid : Nat) (nameKnown : Bool) (notices : List Notice) :
  Exchanging strict loose flight outstanding
    (game.setHouseOwner houseId guid nameKnown notices).1 := by
  simp only [Game.setHouseOwner]
  split
  · exact exchanging
  · split
    · exact exchanging
    · apply modifyOwner
      · split
        · exact exchanging.notifyAll notices
        · exact exchanging
      · exact fun _ => rfl

end

/-! ## Exchanging the items -/

section

variable (exchanging : Exchanging strict loose flight (item :: outstanding) game)
include exchanging

/-- An item which is done with is no longer outstanding; it has no entry any more. -/
lemma settle {left : Game} (once : item ∉ outstanding) (players : left.players = game.players)
  (tradeItems : left.tradeItems = game.tradeItems) (serial : left.nextSerial = game.nextSerial)
  (transferItems :
    ∀ houseId other,
      left.transferItemOf houseId = some other ↔
        game.transferItemOf houseId = some other ∧ ¬ item.IsDocumentOf houseId) :
  Exchanging strict loose flight outstanding left := by
  have flying : item ∈ flight := exchanging.airborne item mem_cons_self
  have unlisted := exchanging.consistent.not_contains flying
  have cancelled := exchanging.consistent.onTradeCancel unlisted once
  rcases onTradeCancel_frame game item with ⟨cancelPlayers, cancelItems, cancelSerial⟩
  constructor
  · apply cancelled.congr_game (players.trans cancelPlayers.symm)
      (tradeItems.trans cancelItems.symm)
    · intro houseId
      apply Option.ext
      intro other
      rw [transferItems, transferItemOf_onTradeCancel]
    · exact serial.trans cancelSerial.symm
  · rw [players]
    exact exchanging.state
  · rw [players]
    exact exchanging.item
  · exact fun other mem => exchanging.airborne other (mem_cons_of_mem _ mem)

lemma onTradeCancel (once : item ∉ outstanding) :
  Exchanging strict loose flight outstanding (game.onTradeCancel item) := by
  rcases onTradeCancel_frame game item with ⟨players, tradeItems, serial⟩
  exact exchanging.settle once players tradeItems serial (transferItemOf_onTradeCancel game item)

end

lemma forget_plain {number : Nat}
  (exchanging : Exchanging strict loose flight (.plain number :: outstanding) game) :
  Exchanging strict loose flight outstanding game where
  consistent := by
    apply exchanging.consistent.congr_outstanding
    intro houseId item document
    constructor
    · intro mem
      rcases mem_cons.mp mem with rfl | later
      · exact document.elim
      · exact later
    · exact mem_cons_of_mem _
  state := exchanging.state
  item := exchanging.item
  airborne := fun item mem => exchanging.airborne item (mem_cons_of_mem _ mem)

lemma executeTransfer {houseId serial : Nat}
  (exchanging :
    Exchanging strict loose flight (.houseTransfer houseId serial :: outstanding) game)
  (once : .houseTransfer houseId serial ∉ outstanding) (newOwner : Player)
  (scene : TransferScene) :
  Exchanging strict loose flight outstanding
    (game.executeTransfer houseId (.houseTransfer houseId serial) newOwner scene).1 := by
  have there : game.transferItemOf houseId = some (.houseTransfer houseId serial) :=
    (exchanging.consistent.documents houseId _).mpr ⟨rfl, Or.inr mem_cons_self⟩
  rcases bind_eq_some_iff.mp there with ⟨house, found, document⟩
  have sold := exchanging.setHouseOwner houseId newOwner.guid scene.nameKnown scene.emptying
  simp only [Game.executeTransfer, found, document, ne_eq, not_true, if_false]
  rcases modifyHouse_frame
      (game.setHouseOwner houseId newOwner.guid scene.nameKnown scene.emptying).1
      houseId (fun house => { house with transferItem := none }) with
    ⟨players, tradeItems, serials⟩
  apply sold.settle once players tradeItems serials
  intro other item
  rw [transferItemOf_clear]
  simp only [Item.IsDocumentOf]
  split_ifs with same
  · simp [same]
  · simp [Ne.symm same]

lemma onTradeTransfer (exchanging : Exchanging strict loose flight (item :: outstanding) game)
  (once : item ∉ outstanding) (owner : Player) (scene : TransferScene) :
  Exchanging strict loose flight outstanding (game.onTradeTransfer item owner scene).1 := by
  cases item with
  | plain number => exact exchanging.forget_plain
  | houseTransfer houseId serial =>
    exact (exchanging.executeTransfer once owner scene).notifyAll scene.removing

end Exchanging

/-! ## Accepting -/

namespace Consistent

variable {strict : Prop} {loose : List Nat} {flight outstanding : List Item} {game : Game}

section

variable (consistent : Consistent strict loose flight outstanding game)
include consistent

variable (found : game.players.find? id = some player)
include found

lemma setState
  (tradeState : TradeState) (shaped : id ∉ loose → { player with tradeState }.Shaped strict) :
  Consistent strict loose flight outstanding (game.setPlayer { player with tradeState }) := by
  have sameId := consistent.ids id player found
  have origin :
      ∀ other stored,
        (game.players.insert player.id { player with tradeState }).find?
            other = some stored →
          ∃ before, game.players.find? other = some before ∧
            stored.id = before.id ∧ stored.tradeItem = before.tradeItem ∧
              stored.tradePartner = before.tradePartner ∧
                (other ∉ loose → before.Shaped strict → stored.Shaped strict) := by
    intro other stored there
    rw [OrderedMap.find?_insert] at there
    split_ifs at there with same
    · cases there
      have here : other = id := same.trans sameId
      subst here
      exact ⟨player, found, rfl, rfl, rfl, fun tied _ => shaped tied⟩
    · exact ⟨stored, there, rfl, rfl, rfl, fun _ shape => shape⟩
  have target :
      ∀ other before, game.players.find? other = some before →
        ∃ stored,
          (game.players.insert player.id { player with tradeState }).find?
              other = some stored ∧
            stored.tradeItem = before.tradeItem ∧ stored.tradePartner = before.tradePartner := by
    intro other before there
    rw [OrderedMap.find?_insert]
    split_ifs with same
    · have here : other = id := same.trans sameId
      subst here
      rw [found] at there
      cases there
      exact ⟨_, rfl, rfl, rfl⟩
    · exact ⟨before, there, rfl, rfl⟩
  constructor
  · intro other stored there
    rcases origin other stored there with ⟨before, found, ids, -⟩
    rw [ids]
    exact consistent.ids other before found
  · intro other stored there tied
    rcases origin other stored there with ⟨before, found, -, -, -, shape⟩
    exact shape tied (consistent.shaped other before found tied)
  · intro other stored partnerId there tied points
    rcases origin other stored there with ⟨before, found, -, -, samePartner, -⟩
    rcases consistent.partners other before partnerId found tied
      (samePartner ▸ points) with
      ⟨partnerTied, ne, partner, partnerFound, pointsBack⟩
    rcases target partnerId partner partnerFound with ⟨left, leftFound, -, leftPartner⟩
    exact ⟨partnerTied, ne, left, leftFound, leftPartner.trans pointsBack⟩
  · intro other stored item there tied holds
    rcases origin other stored there with ⟨before, found, -, sameItem, -⟩
    exact consistent.grounded other before item found tied (sameItem ▸ holds)
  · intro item other
    rw [setPlayer_tradeItems, consistent.offers item other]
    apply and_congr_left
    intro landed
    constructor
    · rintro ⟨before, there, holds⟩
      rcases target other before there with ⟨stored, found, sameItem, -⟩
      exact ⟨stored, found, sameItem.trans holds⟩
    · rintro ⟨stored, there, holds⟩
      rcases origin other stored there with ⟨before, found, -, sameItem, -⟩
      exact ⟨before, found, sameItem ▸ holds⟩
  · exact consistent.documents
  · exact consistent.serials

lemma launch
  (isLoose : id ∈ loose) (holds : player.tradeItem = some item) (landed : item ∉ flight) :
  Consistent strict loose (item :: flight) (item :: outstanding)
    { game with tradeItems := game.tradeItems.erase item } := by
  have entry := consistent.offered found holds landed
  constructor
  · exact consistent.ids
  · exact consistent.shaped
  · exact consistent.partners
  · intro other stored otherItem there tied otherHolds
    have otherLanded := consistent.grounded other stored otherItem there tied otherHolds
    intro mem
    rcases mem_cons.mp mem with rfl | later
    · have second := consistent.offered there otherHolds otherLanded
      have same : id = other := some.inj (entry.symm.trans second)
      exact tied (same ▸ isLoose)
    · exact otherLanded later
  · intro otherItem other
    have erased :
        (game.tradeItems.erase item).find? otherItem = some other ↔
          otherItem ≠ item ∧ game.tradeItems.find? otherItem = some other := by
      rw [OrderedMap.find?_erase]
      split_ifs with same
      · simp [same]
      · simp [same]
    rw [erased, consistent.offers otherItem other]
    simp only [mem_cons, not_or]
    constructor
    · rintro ⟨ne, there, grounded⟩
      exact ⟨there, ne, grounded⟩
    · rintro ⟨there, ne, grounded⟩
      exact ⟨ne, there, grounded⟩
  · intro houseId other
    change game.transferItemOf houseId = some other ↔ _
    rw [consistent.documents houseId other]
    apply and_congr_right
    intro document
    rw [OrderedMap.contains_erase, mem_cons]
    constructor
    · rintro (listed | mem)
      · by_cases same : other = item
        · exact Or.inr (Or.inl same)
        · exact Or.inl ⟨same, listed⟩
      · exact Or.inr (Or.inr mem)
    · rintro (⟨-, listed⟩ | rfl | mem)
      · exact Or.inl listed
      · exact Or.inl ((OrderedMap.contains_iff _ _).mpr ⟨id, entry⟩)
      · exact Or.inr mem
  · exact consistent.serials

end

lemma land (consistent : Consistent strict [] flight [] game) :
  Consistent strict [] [] [] game :=
  { consistent with
    grounded := fun _ _ _ _ _ _ => not_mem_nil
    offers := by
      intro item id
      rw [consistent.offers item id]
      constructor
      · exact fun there => ⟨there.1, not_mem_nil⟩
      · rintro ⟨⟨player, found, holds⟩, -⟩
        exact ⟨⟨player, found, holds⟩,
          consistent.grounded id player item found not_mem_nil holds⟩ }

end Consistent

lemma Exchanging.endTransfer {strict : Prop} {game : Game}
  (exchanging : Exchanging strict (id :: loose) flight [] game) (apart : id ∉ loose) :
  Exchanging strict loose flight [] (game.endTransfer id) := by
  have consistent := exchanging.consistent
  have looser : ∀ other, other ≠ id → other ∉ loose → other ∉ id :: loose := by
    intro other ne tied mem
    rcases mem_cons.mp mem with same | later
    · exact ne same
    · exact tied later
  cases found : game.players.find? id with
  | none =>
    have other_ne : ∀ other stored, game.players.find? other = some stored → other ≠ id := by
      rintro other stored there rfl
      rw [found] at there
      cases there
    simp only [Game.endTransfer, found]
    constructor
    · exact { consistent with
        shaped := fun other stored there tied =>
          consistent.shaped other stored there (looser other (other_ne other stored there) tied)
        grounded := fun other stored item there tied =>
          consistent.grounded other stored item there
            (looser other (other_ne other stored there) tied)
        partners := by
          intro other stored partnerId there tied points
          rcases consistent.partners other stored partnerId there
            (looser other (other_ne other stored there) tied) points with
            ⟨partnerTied, rest⟩
          exact ⟨fun mem => partnerTied (mem_cons_of_mem _ mem), rest⟩ }
    · exact fun other stored there mem =>
        exchanging.state other stored there (mem_cons_of_mem _ mem)
    · exact fun other stored item there mem =>
        exchanging.item other stored item there (mem_cons_of_mem _ mem)
    · exact exchanging.airborne
  | some player =>
    have sameId := consistent.ids id player found
    simp only [Game.endTransfer, found]
    constructor
    · constructor
      · intro other stored there
        rw [setPlayer_players, OrderedMap.find?_insert] at there
        split_ifs at there with same
        · cases there
          exact same.symm
        · exact consistent.ids other stored there
      · intro other stored there tied
        rw [setPlayer_players, OrderedMap.find?_insert] at there
        split_ifs at there with same
        · cases there
          exact ⟨rfl, rfl⟩
        · exact consistent.shaped other stored there
            (looser other (fun here => same (here.trans sameId.symm)) tied)
      · intro other stored partnerId there tied points
        rw [setPlayer_players, OrderedMap.find?_insert] at there
        split_ifs at there with same
        · cases there
          cases points
        · rcases consistent.partners other stored partnerId there
            (looser other (fun here => same (here.trans sameId.symm)) tied)
            points with
            ⟨partnerTied, ne, partner, partnerFound, pointsBack⟩
          refine ⟨fun mem =>
            partnerTied (mem_cons_of_mem _ mem), ne, partner,
            ?_, pointsBack⟩
          rw [setPlayer_players, OrderedMap.find?_insert_ne]
          · exact partnerFound
          · intro here
            apply partnerTied
            rw [here, sameId]
            exact mem_cons_self
      · intro other stored item there tied holds
        rw [setPlayer_players, OrderedMap.find?_insert] at there
        split_ifs at there with same
        · cases there
          cases holds
        · exact consistent.grounded other stored item there
            (looser other (fun here => same (here.trans sameId.symm)) tied)
            holds
      · intro item other
        rw [setPlayer_tradeItems, consistent.offers item other,
          setPlayer_players, OrderedMap.find?_insert]
        apply and_congr_left
        intro landed
        split_ifs with same
        · constructor
          · rintro ⟨stored, there, holds⟩
            rw [same, sameId] at there
            exact (landed (exchanging.item id stored item there mem_cons_self holds)).elim
          · rintro ⟨stored, there, holds⟩
            cases there
            cases holds
        · exact Iff.rfl
      · exact consistent.documents
      · exact consistent.serials
    · intro other stored there mem
      rw [setPlayer_players, OrderedMap.find?_insert] at there
      split_ifs at there with same
      · rw [same, sameId] at mem
        exact (apart mem).elim
      · exact exchanging.state other stored there (mem_cons_of_mem _ mem)
    · intro other stored item there mem holds
      rw [setPlayer_players, OrderedMap.find?_insert] at there
      split_ifs at there with same
      · cases there
        cases holds
      · exact exchanging.item other stored item there (mem_cons_of_mem _ mem) holds
    · exact exchanging.airborne

/-- Two players who have both accepted their trade with each other. -/
structure BothAccepted (game : Game) (player tradePartner : Player) : Prop where
  player_found : game.players.find? player.id = some player
  partner_found : game.players.find? tradePartner.id = some tradePartner
  player_state : player.tradeState = .accept
  partner_state : tradePartner.tradeState = .accept
  player_partner : player.tradePartner = some tradePartner.id
  partner_partner : tradePartner.tradePartner = some player.id
  different : tradePartner.id ≠ player.id

section Accepting

variable {strict : Prop} {game : Game}

lemma find?_of_getPlayerByID (found : game.getPlayerByID id = some player) :
  game.players.find? id = some player := by
  simp only [Game.getPlayerByID] at found
  split_ifs at found
  exact found

/-- Accepting leaves the state consistent; the traders it returns have both accepted. -/
lemma acceptTrade_spec (consistent : Consistent strict [] [] [] game) (playerId : Nat)
  (offered :
    strict → ∀ player, game.getPlayerByID playerId = some player →
      player.tradeState ≠ .acknowledge) :
  Consistent strict [] [] [] (game.acceptTrade playerId).1 ∧
    ∀ player tradePartner,
      (game.acceptTrade playerId).2 = some (player, tradePartner) →
        BothAccepted (game.acceptTrade playerId).1 player tradePartner := by
  cases got : game.getPlayerByID playerId with
  | none =>
    simp only [Game.acceptTrade, got]
    exact ⟨consistent, fun _ _ impossible => by cases impossible⟩
  | some player =>
    have found := find?_of_getPlayerByID got
    have shaped := consistent.shaped playerId player found not_mem_nil
    by_cases may : player.tradeState = .acknowledge ∨ player.tradeState = .initiated
    · have points : player.tradePartner ≠ none := by
        rcases may with state | state
        · simp only [Player.Shaped, state] at shaped
          exact shaped.2
        · simp only [Player.Shaped, state] at shaped
          exact shaped.2
      have holds : strict → player.tradeItem ≠ none := by
        intro asked
        rcases may with state | state
        · exact (offered asked player got state).elim
        · simp only [Player.Shaped, state] at shaped
          exact shaped.1
      have accepted := consistent.setState found .accept fun _ => ⟨points, holds⟩
      have self :
          (game.setPlayer { player with tradeState := .accept }).players.find?
              player.id =
            some { player with tradeState := .accept } :=
        OrderedMap.find?_insert_self _ _ _
      simp only [Game.acceptTrade, got, may, if_true]
      cases target :
          player.tradePartner.bind
            (game.setPlayer { player with tradeState := .accept }).players.find? with
      | none => exact ⟨accepted, fun _ _ impossible => by cases impossible⟩
      | some tradePartner =>
        by_cases both : tradePartner.tradeState = .accept
        · simp only [both, if_true]
          refine ⟨accepted, ?_⟩
          intro first second returned
          cases returned
          rcases bind_eq_some_iff.mp target with ⟨partnerId, pointsTo, partnerFound⟩
          have partnerId_eq := accepted.ids partnerId tradePartner partnerFound
          rcases accepted.partners player.id _ partnerId self
            not_mem_nil pointsTo with
            ⟨-, different, other, otherFound, pointsBack⟩
          rw [partnerFound] at otherFound
          cases otherFound
          exact
            { player_found := self
              partner_found := partnerId_eq.symm ▸ partnerFound
              player_state := rfl
              partner_state := both
              player_partner := partnerId_eq.symm ▸ pointsTo
              partner_partner := pointsBack
              different := partnerId_eq.symm ▸ different }
        · simp only [both, if_false]
          exact ⟨accepted, fun _ _ impossible => by cases impossible⟩
    · simp only [Game.acceptTrade, got, may, if_false]
      exact ⟨consistent, fun _ _ impossible => by cases impossible⟩

lemma Consistent.eraseOffer
  {outstanding : List Item} (consistent : Consistent strict loose flight outstanding game)
  (found : game.players.find? id = some player) (isLoose : id ∈ loose)
  (landed : ∀ item, player.tradeItem = some item → item ∉ flight) :
  Consistent strict loose (player.tradeItem.toList ++ flight)
    (player.tradeItem.toList ++ outstanding)
    { game with
      tradeItems := Trade.eraseOffer game.tradeItems player.tradeItem } := by
  cases holds : player.tradeItem with
  | none => exact consistent
  | some item =>
    exact consistent.launch found isLoose holds (landed item holds)

lemma startTransfer_spec
  (consistent : Consistent strict [] [] [] game) (both : BothAccepted game player tradePartner) :
  Exchanging strict [player.id, tradePartner.id]
    (tradePartner.tradeItem.toList ++ player.tradeItem.toList)
    (tradePartner.tradeItem.toList ++ player.tradeItem.toList)
    (game.startTransfer player tradePartner) := by
  have loosened :=
    consistent.loosen_pair both.player_found both.player_partner
      both.partner_found both.partner_partner
  have first := loosened.setState both.player_found .transfer fun tied => (tied mem_cons_self).elim
  have partnerStill :
      (game.setPlayer { player with tradeState := .transfer }).players.find?
          tradePartner.id = some tradePartner :=
    (OrderedMap.find?_insert_ne _ _ both.different).trans both.partner_found
  have second :=
    first.setState partnerStill .transfer fun tied => (tied (mem_cons_of_mem _ mem_cons_self)).elim
  have playerFinal :
      ((game.setPlayer { player with tradeState := .transfer }).setPlayer
          { tradePartner with tradeState := .transfer }).players.find? player.id =
        some { player with tradeState := .transfer } :=
    (OrderedMap.find?_insert_ne _ _ both.different.symm).trans (OrderedMap.find?_insert_self _ _ _)
  have partnerFinal :
      ((game.setPlayer { player with tradeState := .transfer }).setPlayer
          { tradePartner with tradeState := .transfer }).players.find? tradePartner.id =
        some { tradePartner with tradeState := .transfer } :=
    OrderedMap.find?_insert_self _ _ _
  have firstGone := second.eraseOffer playerFinal mem_cons_self fun _ _ => not_mem_nil
  have apart :
      ∀ item, tradePartner.tradeItem = some item → item ∉ player.tradeItem.toList ++ [] := by
    intro item holds mem
    rw [append_nil, mem_toList] at mem
    have own := consistent.offered both.player_found mem not_mem_nil
    have theirs := consistent.offered both.partner_found holds not_mem_nil
    exact both.different (some.inj (theirs.symm.trans own))
  have secondGone := firstGone.eraseOffer partnerFinal (mem_cons_of_mem _ mem_cons_self) apart
  rw [append_nil] at secondGone
  have records :
      ∀ id stored,
        (game.startTransfer player tradePartner).players.find? id =
            some stored →
          id ∈ [player.id, tradePartner.id] →
            stored = { player with tradeState := .transfer } ∨
              stored = { tradePartner with tradeState := .transfer } := by
    intro id stored there mem
    rcases mem_cons.mp mem with rfl | later
    · exact Or.inl (some.inj (there.symm.trans playerFinal))
    · rw [mem_singleton.mp later] at there
      exact Or.inr (some.inj (there.symm.trans partnerFinal))
  constructor
  · exact secondGone
  · intro id stored there mem
    rcases records id stored there mem with rfl | rfl
    · rfl
    · rfl
  · intro id stored item there mem holds
    rcases records id stored there mem with rfl | rfl
    · exact mem_append_right _ (mem_toList.mpr holds)
    · exact mem_append_left _ (mem_toList.mpr holds)
  · exact fun _ mem => mem

lemma BothAccepted.items_ne (consistent : Consistent strict [] [] [] game)
  (both : BothAccepted game player tradePartner) (holds1 : player.tradeItem = some item1)
  (holds2 : tradePartner.tradeItem = some item2) : item1 ≠ item2 := by
  rintro rfl
  have own := consistent.offered both.player_found holds1 not_mem_nil
  have theirs := consistent.offered both.partner_found holds2 not_mem_nil
  exact both.different (some.inj (theirs.symm.trans own))

/-- What `transferTrade` does, by the outcome of its tests. -/
lemma transferTrade_cases
  (transferred : game.transferTrade player tradePartner scene = some done) :
  ∃ item1 item2 inner,
    player.tradeItem = some item1 ∧ tradePartner.tradeItem = some item2 ∧
      done.game =
          (inner.game.endTransfer player.id).endTransfer tradePartner.id ∧
        done.sales = inner.sales ∧
        (inner =
            (game.startTransfer player tradePartner).exchangeItems player
              tradePartner item1 item2 scene ∨
          inner.game =
              ((game.startTransfer player tradePartner).onTradeCancel
                item2).onTradeCancel item1 ∧
            inner.sales = []) := by
  have failed :
      ∀ ret1 ret2 inner,
        (game.startTransfer player tradePartner).failTrade player tradePartner
            ret1 ret2 scene = some inner →
          ∃ item1 item2,
            player.tradeItem = some item1 ∧
              tradePartner.tradeItem = some item2 ∧
                inner.game =
                    ((game.startTransfer player tradePartner).onTradeCancel
                      item2).onTradeCancel item1 ∧
                  inner.sales = [] := by
    intro ret1 ret2 inner result
    simp only [Game.failTrade, bind_eq_bind, bind_eq_some_iff] at result
    rcases result with ⟨_, -, item2, holds2, _, -, item1, holds1, returned⟩
    cases returned
    exact ⟨item1, item2, holds1, holds2, rfl, rfl⟩
  rcases map_eq_some_iff.mp transferred with ⟨inner, outcome, returned⟩
  cases returned
  simp only [Game.testTransfer] at outcome
  split_ifs at outcome with added removed
  · rcases bind_eq_some_iff.mp outcome with ⟨item1, holds1, later⟩
    rcases map_eq_some_iff.mp later with ⟨item2, holds2, exchanged⟩
    cases exchanged
    exact ⟨item1, item2, _, holds1, holds2, rfl, rfl, Or.inl rfl⟩
  · rcases failed _ _ inner outcome with ⟨item1, item2, holds1, holds2, left, sales⟩
    exact ⟨item1, item2, inner, holds1, holds2, rfl, rfl, Or.inr ⟨left, sales⟩⟩
  · rcases failed _ _ inner outcome with ⟨item1, item2, holds1, holds2, left, sales⟩
    exact ⟨item1, item2, inner, holds1, holds2, rfl, rfl, Or.inr ⟨left, sales⟩⟩

variable (consistent : Consistent strict [] [] [] game)
include consistent

section

variable (both : BothAccepted game player tradePartner)
include both

lemma moved_spec (holds1 : player.tradeItem = some item1)
  (holds2 : tradePartner.tradeItem = some item2) (notices : List Notice) :
  item1 ≠ item2 ∧
    Exchanging strict [player.id, tradePartner.id] [item2, item1]
      [item1, item2]
      ((game.startTransfer player tradePartner).notifyAll notices).1 := by
  have started := startTransfer_spec consistent both
  rw [holds1, holds2] at started
  have moved := started.notifyAll notices
  refine ⟨both.items_ne consistent holds1 holds2, ?_⟩
  exact
    { consistent := by
        apply moved.consistent.congr_outstanding
        intro _ _ _
        simp [or_comm]
      state := moved.state
      item := moved.item
      airborne := fun item mem => by
        simpa [or_comm] using mem }

/-- After the exchange nothing is outstanding of the two items. -/
lemma exchangeItems_settled (holds1 : player.tradeItem = some item1)
  (holds2 : tradePartner.tradeItem = some item2) (scene : AcceptScene) :
  Exchanging strict [player.id, tradePartner.id] [item2, item1] [item2]
      (((game.startTransfer player tradePartner).notifyAll
          scene.moving).1.onTradeTransfer item1 tradePartner
        scene.transfer1).1 ∧
    Exchanging strict [player.id, tradePartner.id] [item2, item1] []
      ((game.startTransfer player tradePartner).exchangeItems player
        tradePartner item1 item2 scene).game := by
  rcases moved_spec consistent both holds1 holds2 scene.moving with ⟨ne, moved⟩
  have first := moved.onTradeTransfer (by simpa using ne) tradePartner scene.transfer1
  exact ⟨first, first.onTradeTransfer not_mem_nil player scene.transfer2⟩

lemma failTrade_settled
  (holds1 : player.tradeItem = some item1) (holds2 : tradePartner.tradeItem = some item2) :
  Exchanging strict [player.id, tradePartner.id] [item2, item1] []
    (((game.startTransfer player tradePartner).onTradeCancel item2).onTradeCancel item1) := by
  have started := startTransfer_spec consistent both
  rw [holds1, holds2] at started
  have different := both.items_ne consistent holds1 holds2
  have first := started.onTradeCancel (by simpa using different.symm)
  exact first.onTradeCancel not_mem_nil

lemma Consistent.transferTrade
  (transferred : game.transferTrade player tradePartner scene = some done) :
  Consistent strict [] [] [] done.game := by
  rcases transferTrade_cases transferred with
    ⟨item1, item2, inner, holds1, holds2, left, -, outcome⟩
  have settled :
      Exchanging strict [player.id, tradePartner.id] [item2, item1] []
        inner.game := by
    rcases outcome with rfl | ⟨cancelled, -⟩
    · exact (exchangeItems_settled consistent both holds1 holds2 scene).2
    · rw [cancelled]
      exact failTrade_settled consistent both holds1 holds2
  rw [left]
  have first := settled.endTransfer (by simpa using both.different.symm)
  exact (first.endTransfer not_mem_nil).consistent.land

end

lemma Consistent.playerAcceptTrade {playerId : Nat}
  (offered :
    strict → ∀ player, game.getPlayerByID playerId = some player →
      player.tradeState ≠ .acknowledge)
  (accepted : game.playerAcceptTrade playerId scene = some done) :
  Consistent strict [] [] [] done.game := by
  rcases acceptTrade_spec consistent playerId offered with ⟨before, returned⟩
  simp only [Game.playerAcceptTrade] at accepted
  cases traders : (game.acceptTrade playerId).2 with
  | none =>
    rw [traders] at accepted
    cases accepted
    exact before
  | some pair =>
    rw [traders] at accepted
    exact before.transferTrade (returned pair.1 pair.2 traders) accepted

end Accepting

end OTServ.Trade
