import OTServ.Trade.HouseSale

/-!
# Consistency of trades

The invariant of the trade state.  Between two events every player is in one of
the shapes that belong to a trade state, partners point at each other, the
entries of `tradeItems` are the items on offer, and the outstanding document of
a house is on offer.

While the items of a completed trade change hands the two traders are `loose`:
nothing is asked of their own fields.  Their items are then in `flight`, out of
`tradeItems` although the traders still point to them, and a document among
them stays outstanding until its `onTradeEvent`.
-/

namespace OTServ.Trade

open Library
open List Option

/-! ## What the operations change -/

def Item.IsDocumentOf : Item → Nat → Prop
  | .plain _, _ => False
  | .houseTransfer house _, houseId => house = houseId

variable {change : House → House} {id : Nat} {player : Player} {item : Item}

section Frames

variable (game : Game)

@[simp]
lemma setPlayer_players (player : Player) :
  (game.setPlayer player).players = game.players.insert player.id player :=
  rfl

@[simp]
lemma setPlayer_tradeItems (player : Player) :
  (game.setPlayer player).tradeItems = game.tradeItems :=
  rfl

@[simp]
lemma setPlayer_transferItemOf (player : Player) (houseId : Nat) :
  (game.setPlayer player).transferItemOf houseId = game.transferItemOf houseId :=
  rfl

@[simp]
lemma setPlayer_nextSerial (player : Player) :
  (game.setPlayer player).nextSerial = game.nextSerial :=
  rfl

variable (houseId other : Nat)

lemma modifyHouse_frame (change : House → House) :
  (game.modifyHouse houseId change).players = game.players ∧
    (game.modifyHouse houseId change).tradeItems = game.tradeItems ∧
      (game.modifyHouse houseId change).nextSerial = game.nextSerial := by
  simp only [Game.modifyHouse]
  split
  · exact ⟨rfl, rfl, rfl⟩
  · exact ⟨rfl, rfl, rfl⟩

lemma modifyHouse_find? (change : House → House) :
  (game.modifyHouse houseId change).houses.find? other =
    if other = houseId then
      (game.houses.find? houseId).map change
    else
      game.houses.find? other := by
  simp only [Game.modifyHouse]
  cases found : game.houses.find? houseId with
  | none =>
    split_ifs with same
    · rw [same, found]
      rfl
    · rfl
  | some house =>
    rw [OrderedMap.find?_insert]
    rfl

lemma transferItemOf_modifyHouse
  (kept : ∀ house, (change house).transferItem = house.transferItem) :
  (game.modifyHouse houseId change).transferItemOf other = game.transferItemOf other := by
  simp only [Game.transferItemOf, modifyHouse_find?]
  split_ifs with same
  · rw [same]
    cases game.houses.find? houseId with
    | none => rfl
    | some house => exact kept house
  · rfl

lemma transferItemOf_clear :
  (game.modifyHouse houseId fun house =>
      { house with transferItem := none }).transferItemOf other =
    if other = houseId then none else game.transferItemOf other := by
  simp only [Game.transferItemOf, modifyHouse_find?]
  split_ifs with same
  · cases game.houses.find? houseId with
    | none => rfl
    | some house => rfl
  · rfl

lemma onTradeCancel_frame (item : Item) :
  (game.onTradeCancel item).players = game.players ∧
    (game.onTradeCancel item).tradeItems = game.tradeItems ∧
      (game.onTradeCancel item).nextSerial = game.nextSerial := by
  cases item with
  | plain number => exact ⟨rfl, rfl, rfl⟩
  | houseTransfer house serial => exact modifyHouse_frame game house _

lemma transferItemOf_onTradeCancel (item : Item) (houseId : Nat) (other : Item) :
  (game.onTradeCancel item).transferItemOf houseId = some other ↔
    game.transferItemOf houseId = some other ∧ ¬ item.IsDocumentOf houseId := by
  cases item with
  | plain number =>
    simp [Game.onTradeCancel, Item.IsDocumentOf]
  | houseTransfer house serial =>
    simp only [Game.onTradeCancel, Game.resetTransferItem, transferItemOf_clear, Item.IsDocumentOf]
    split_ifs with same
    · simp [same]
    · simp [Ne.symm same]

end Frames

/-! ## The invariant -/

/-- The shapes of a player; `strict` asks for an item from those who have accepted. -/
def Player.Shaped (strict : Prop) (player : Player) : Prop :=
  match player.tradeState with
  | .none => player.tradeItem = none ∧ player.tradePartner = none
  | .acknowledge => player.tradeItem = none ∧ player.tradePartner ≠ none
  | .initiated => player.tradeItem ≠ none ∧ player.tradePartner ≠ none
  | .accept => player.tradePartner ≠ none ∧ (strict → player.tradeItem ≠ none)
  | .transfer => False

structure Consistent (strict : Prop) (loose : List Nat) (flight outstanding : List Item)
  (game : Game) : Prop where
  ids : ∀ id player, game.players.find? id = some player → player.id = id
  shaped : ∀ id player, game.players.find? id = some player → id ∉ loose → player.Shaped strict
  partners :
    ∀ id player partnerId, game.players.find? id = some player →
      id ∉ loose → player.tradePartner = some partnerId →
        partnerId ∉ loose ∧ partnerId ≠ id ∧
          ∃ partner, game.players.find? partnerId = some partner ∧ partner.tradePartner = some id
  grounded :
    ∀ id player item, game.players.find? id = some player →
      id ∉ loose → player.tradeItem = some item → item ∉ flight
  offers :
    ∀ item id, game.tradeItems.find? item = some id ↔
      (∃ player, game.players.find? id = some player ∧
        player.tradeItem = some item) ∧ item ∉ flight
  documents :
    ∀ houseId item, game.transferItemOf houseId = some item ↔
      item.IsDocumentOf houseId ∧ (game.tradeItems.contains item = true ∨ item ∈ outstanding)
  serials :
    ∀ houseId serial,
      game.transferItemOf houseId = some (.houseTransfer houseId serial) → serial < game.nextSerial

/-- The invariant while the items of the loose traders change hands. -/
structure Exchanging (strict : Prop) (loose : List Nat) (flight outstanding : List Item)
  (game : Game) : Prop where
  consistent : Consistent strict loose flight outstanding game
  state :
    ∀ id player, game.players.find? id = some player → id ∈ loose → player.tradeState = .transfer
  item :
    ∀ id player item, game.players.find? id = some player → id ∈ loose →
      player.tradeItem = some item → item ∈ flight
  airborne : ∀ item ∈ outstanding, item ∈ flight

namespace Consistent

variable {strict : Prop} {loose : List Nat} {flight outstanding : List Item} {game : Game}

section

variable (consistent : Consistent strict loose flight outstanding game)
include consistent

lemma offered (found : game.players.find? id = some player)
  (holds : player.tradeItem = some item) (notFlying : item ∉ flight) :
  game.tradeItems.find? item = some id :=
  (consistent.offers item id).mpr ⟨⟨player, found, holds⟩, notFlying⟩

lemma not_contains (flying : item ∈ flight) : game.tradeItems.contains item ≠ true := by
  intro contained
  rcases (OrderedMap.contains_iff _ _).mp contained with ⟨id, found⟩
  exact ((consistent.offers item id).mp found).2 flying

lemma congr_outstanding {others : List Item}
  (same : ∀ houseId item, item.IsDocumentOf houseId → (item ∈ outstanding ↔ item ∈ others)) :
  Consistent strict loose flight others game :=
  { consistent with
    documents := by
      intro houseId item
      rw [consistent.documents houseId item]
      constructor
      · rintro ⟨document, there⟩
        exact ⟨document, there.imp_right (same houseId item document).mp⟩
      · rintro ⟨document, there⟩
        exact ⟨document, there.imp_right (same houseId item document).mpr⟩ }

lemma congr_game {other : Game} (players : other.players = game.players)
  (tradeItems : other.tradeItems = game.tradeItems)
  (transferItems : ∀ houseId, other.transferItemOf houseId = game.transferItemOf houseId)
  (serial : other.nextSerial = game.nextSerial) :
  Consistent strict loose flight outstanding other where
  ids := by
    rw [players]
    exact consistent.ids
  shaped := by
    rw [players]
    exact consistent.shaped
  partners := by
    rw [players]
    exact consistent.partners
  grounded := by
    rw [players]
    exact consistent.grounded
  offers := by
    rw [players, tradeItems]
    exact consistent.offers
  documents := by
    intro houseId item
    rw [transferItems, tradeItems]
    exact consistent.documents houseId item
  serials := by
    intro houseId number
    rw [transferItems, serial]
    exact consistent.serials houseId number

end

lemma onTradeCancel (consistent : Consistent strict loose flight (item :: outstanding) game)
  (unlisted : game.tradeItems.contains item ≠ true) (once : item ∉ outstanding) :
  Consistent strict loose flight outstanding (game.onTradeCancel item) := by
  rcases onTradeCancel_frame game item with ⟨players, tradeItems, serial⟩
  constructor
  · rw [players]
    exact consistent.ids
  · rw [players]
    exact consistent.shaped
  · rw [players]
    exact consistent.partners
  · rw [players]
    exact consistent.grounded
  · rw [players, tradeItems]
    exact consistent.offers
  · intro houseId other
    rw [transferItemOf_onTradeCancel, tradeItems, consistent.documents houseId other]
    constructor
    · rintro ⟨⟨document, there⟩, notOwn⟩
      refine ⟨document, there.imp_right ?_⟩
      intro mem
      rcases mem_cons.mp mem with rfl | remaining
      · exact (notOwn document).elim
      · exact remaining
    · rintro ⟨document, there⟩
      refine ⟨⟨document, there.imp_right (mem_cons_of_mem _)⟩, ?_⟩
      -- the house would have two outstanding documents
      intro ofHouse
      have first : game.transferItemOf houseId = some item :=
        (consistent.documents houseId item).mpr ⟨ofHouse, Or.inr mem_cons_self⟩
      have second : game.transferItemOf houseId = some other :=
        (consistent.documents houseId other).mpr ⟨document, there.imp_right (mem_cons_of_mem _)⟩
      have same : item = other := some.inj (first.symm.trans second)
      subst same
      rcases there with listed | mem
      · exact unlisted listed
      · exact once mem
  · intro houseId number
    rw [transferItemOf_onTradeCancel, serial]
    exact fun there => consistent.serials houseId number there.1

lemma cancelTradeOf (consistent : Consistent strict (id :: loose) flight outstanding game)
  (found : game.players.find? id = some player)
  (notFlying : ∀ item, player.tradeItem = some item → item ∉ flight)
  (notOutstanding : ∀ item, player.tradeItem = some item → item ∉ outstanding) :
  Consistent strict loose flight outstanding (game.cancelTradeOf player).1 := by
  have sameId := consistent.ids id player found
  -- the entry goes, the document with it
  have cancelled :
      ∃ left : Game,
        (game.cancelTradeOf player).1 =
            left.setPlayer
              { player with
                tradeItem := none
                tradeState := .none
                tradePartner := none } ∧
          left.players = game.players ∧
            left.nextSerial = game.nextSerial ∧
              (∀ item other,
                left.tradeItems.find? item = some other ↔
                  game.tradeItems.find? item = some other ∧ player.tradeItem ≠ some item) ∧
                ∀ houseId item,
                  left.transferItemOf houseId = some item ↔
                    game.transferItemOf houseId = some item ∧ player.tradeItem ≠ some item := by
    cases holds : player.tradeItem with
    | none =>
      refine ⟨game, by simp [Game.cancelTradeOf, holds], rfl, rfl, ?_, ?_⟩
      · intro item other
        simp
      · intro houseId item
        simp
    | some own =>
      have erased := onTradeCancel_frame { game with tradeItems := game.tradeItems.erase own } own
      refine ⟨_, by simp only [Game.cancelTradeOf, holds], erased.1, erased.2.2, ?_, ?_⟩
      · intro item other
        rw [erased.2.1, OrderedMap.find?_erase]
        split_ifs with same
        · simp [same]
        · simp [Ne.symm same]
      · intro houseId item
        rw [transferItemOf_onTradeCancel]
        apply and_congr_right
        intro there
        have listed := (consistent.documents houseId item).mp there
        constructor
        · intro notOwn same
          cases same
          exact notOwn listed.1
        · intro ne ofHouse
          have ownEntry := consistent.offered found holds (notFlying own holds)
          have ownThere : game.transferItemOf houseId = some own :=
            (consistent.documents houseId own).mpr
              ⟨ofHouse, Or.inl ((OrderedMap.contains_iff _ _).mpr ⟨id, ownEntry⟩)⟩
          exact ne (ownThere.symm.trans there)
  rcases cancelled with ⟨left, result, players, serial, tradeItems, transfers⟩
  rw [result]
  constructor
  · intro other stored there
    rw [setPlayer_players, OrderedMap.find?_insert, players] at there
    split_ifs at there with same
    · cases there
      exact same.symm
    · exact consistent.ids other stored there
  · intro other stored there notLoose
    rw [setPlayer_players, OrderedMap.find?_insert, players] at there
    split_ifs at there with same
    · cases there
      exact ⟨rfl, rfl⟩
    · apply consistent.shaped other stored there
      intro mem
      rcases mem_cons.mp mem with isOwn | later
      · exact same (isOwn.trans sameId.symm)
      · exact notLoose later
  · intro other stored partnerId there notLoose points
    rw [setPlayer_players, OrderedMap.find?_insert, players] at there
    split_ifs at there with same
    · cases there
      cases points
    · have wasTied : other ∉ id :: loose := by
        intro mem
        rcases mem_cons.mp mem with isOwn | later
        · exact same (isOwn.trans sameId.symm)
        · exact notLoose later
      rcases consistent.partners other stored partnerId there wasTied points
        with ⟨partnerTied, ne, partner, partnerFound, pointsBack⟩
      refine ⟨fun mem => partnerTied (mem_cons_of_mem _ mem),
        ne, partner, ?_, pointsBack⟩
      rw [setPlayer_players, OrderedMap.find?_insert, players, if_neg]
      · exact partnerFound
      · intro isOwn
        apply partnerTied
        rw [isOwn, sameId]
        exact mem_cons_self
  · intro other stored item there notLoose holds
    rw [setPlayer_players, OrderedMap.find?_insert, players] at there
    split_ifs at there with same
    · cases there
      cases holds
    · apply consistent.grounded other stored item there _ holds
      intro mem
      rcases mem_cons.mp mem with isOwn | later
      · exact same (isOwn.trans sameId.symm)
      · exact notLoose later
  · intro item other
    rw [setPlayer_tradeItems, tradeItems, setPlayer_players,
      OrderedMap.find?_insert, players, consistent.offers item other]
    split_ifs with same
    · constructor
      · rintro ⟨⟨⟨stored, there, holds⟩, -⟩, notOwn⟩
        rw [same, sameId, found] at there
        cases there
        exact (notOwn holds).elim
      · rintro ⟨⟨stored, there, holds⟩, -⟩
        cases there
        cases holds
    · constructor
      · rintro ⟨there, -⟩
        exact there
      · rintro ⟨⟨stored, there, holds⟩, landed⟩
        refine ⟨⟨⟨stored, there, holds⟩, landed⟩, ?_⟩
        intro own
        -- one item would be on offer by two players
        have first := consistent.offered found own landed
        have second := consistent.offered there holds landed
        have sameOwner : id = other := some.inj (first.symm.trans second)
        exact same (sameOwner.symm.trans sameId.symm)
  · intro houseId item
    rw [setPlayer_transferItemOf, setPlayer_tradeItems, transfers,
      consistent.documents houseId item]
    constructor
    · rintro ⟨⟨document, there⟩, notOwn⟩
      refine ⟨document, there.imp_left ?_⟩
      intro contained
      rcases (OrderedMap.contains_iff _ _).mp contained with ⟨other, entry⟩
      exact (OrderedMap.contains_iff _ _).mpr ⟨other, (tradeItems item other).mpr ⟨entry, notOwn⟩⟩
    · rintro ⟨document, there⟩
      rcases there with contained | mem
      · rcases (OrderedMap.contains_iff _ _).mp contained with ⟨other, entry⟩
        rcases (tradeItems item other).mp entry with ⟨before, notOwn⟩
        exact ⟨⟨document,
          Or.inl ((OrderedMap.contains_iff _ _).mpr ⟨other, before⟩)⟩,
          notOwn⟩
      · exact ⟨⟨document, Or.inr mem⟩, fun own => notOutstanding item own mem⟩
  · intro houseId number
    rw [setPlayer_transferItemOf, setPlayer_nextSerial, serial, transfers]
    exact fun there => consistent.serials houseId number there.1

variable (consistent : Consistent strict loose flight outstanding game)
include consistent

variable (found : game.players.find? id = some player)
include found

lemma loosen_single (alone : player.tradePartner = none) :
  Consistent strict (id :: loose) flight outstanding game :=
  { consistent with
    shaped := fun other stored there tied =>
      consistent.shaped other stored there fun mem => tied (mem_cons_of_mem _ mem)
    grounded := fun other stored item there tied =>
      consistent.grounded other stored item there fun mem => tied (mem_cons_of_mem _ mem)
    partners := by
      intro other stored partnerId there tied points
      rcases consistent.partners other stored partnerId there
        (fun mem => tied (mem_cons_of_mem _ mem)) points with
        ⟨partnerTied, ne, partner, partnerFound, pointsBack⟩
      refine ⟨?_, ne, partner, partnerFound, pointsBack⟩
      intro mem
      rcases mem_cons.mp mem with isOwn | later
      · rw [isOwn, found] at partnerFound
        cases partnerFound
        rw [alone] at pointsBack
        cases pointsBack
      · exact partnerTied later }

lemma loosen_pair
  {partnerId : Nat} {partner : Player} (points : player.tradePartner = some partnerId)
  (partnerFound : game.players.find? partnerId = some partner)
  (pointsBack : partner.tradePartner = some id) :
  Consistent strict (id :: partnerId :: loose) flight outstanding game := by
  have tiedBefore : ∀ other, other ∉ id :: partnerId :: loose → other ∉ loose :=
    fun other tied mem => tied (mem_cons_of_mem _ (mem_cons_of_mem _ mem))
  exact { consistent with
    shaped := fun other stored there tied =>
      consistent.shaped other stored there (tiedBefore other tied)
    grounded := fun other stored item there tied =>
      consistent.grounded other stored item there (tiedBefore other tied)
    partners := by
      intro other stored otherPartner there tied otherPoints
      rcases consistent.partners other stored otherPartner there
        (tiedBefore other tied) otherPoints with
        ⟨partnerTied, ne, target, targetFound, targetBack⟩
      refine ⟨?_, ne, target, targetFound, targetBack⟩
      intro mem
      rcases mem_cons.mp mem with isOwn | later
      · rw [isOwn, found] at targetFound
        cases targetFound
        rw [points] at targetBack
        cases targetBack
        exact tied (mem_cons_of_mem _ mem_cons_self)
      · rcases mem_cons.mp later with isPartner | remaining
        · rw [isPartner, partnerFound] at targetFound
          cases targetFound
          rw [pointsBack] at targetBack
          cases targetBack
          exact tied mem_cons_self
        · exact partnerTied remaining }

end Consistent

/-! ## Closing -/

lemma cancelTradeOf_find? (game : Game) (player : Player) (id : Nat) :
  (game.cancelTradeOf player).1.players.find? id =
    if id = player.id then
      some
        { player with
          tradeItem := none
          tradeState := .none
          tradePartner := none }
    else
      game.players.find? id := by
  cases holds : player.tradeItem with
  | none => simp [Game.cancelTradeOf, holds, OrderedMap.find?_insert]
  | some item =>
    have erased := onTradeCancel_frame { game with tradeItems := game.tradeItems.erase item } item
    simp [Game.cancelTradeOf, holds, OrderedMap.find?_insert, erased.1]

namespace Exchanging

variable {strict : Prop} {loose : List Nat} {flight outstanding : List Item} {game : Game}

lemma of_consistent (consistent : Consistent strict [] [] [] game) :
  Exchanging strict [] [] [] game where
  consistent := consistent
  state := fun _ _ _ mem => (not_mem_nil mem).elim
  item := fun _ _ _ _ mem => (not_mem_nil mem).elim
  airborne := fun _ mem => (not_mem_nil mem).elim

variable (exchanging : Exchanging strict loose flight outstanding game)
include exchanging

lemma tied_item (found : game.players.find? id = some player) (tied : id ∉ loose)
  (holds : player.tradeItem = some item) : item ∉ flight ∧ item ∉ outstanding := by
  have landed := exchanging.consistent.grounded id player item found tied holds
  exact ⟨landed, fun mem => landed (exchanging.airborne item mem)⟩

lemma tied_state (found : game.players.find? id = some player) (tied : id ∉ loose) :
  player.tradeState ≠ .transfer := by
  intro transfer
  have shaped := exchanging.consistent.shaped id player found tied
  simp [Player.Shaped, transfer] at shaped

lemma close_loose (mem : id ∈ loose) : game.internalCloseTrade id = (game, []) := by
  cases found : game.players.find? id with
  | none => simp [Game.internalCloseTrade, found]
  | some player =>
    have transfer := exchanging.state id player found mem
    simp [Game.internalCloseTrade, found, transfer]

/-- What `internalCloseTrade` does to a player who is not loose. -/
lemma close_tied (found : game.players.find? id = some player) (tied : id ∉ loose) :
  (player.tradePartner = none ∧
      game.internalCloseTrade id = game.cancelTradeOf player) ∨
    ∃ partnerId partner,
      player.tradePartner = some partnerId ∧
        partnerId ∉ loose ∧ partnerId ≠ id ∧
          game.players.find? partnerId = some partner ∧
            partner.tradePartner = some id ∧
              (game.internalCloseTrade id).1 =
                ((game.cancelTradeOf player).1.cancelTradeOf partner).1 := by
  have notTransfer := exchanging.tied_state found tied
  cases points : player.tradePartner with
  | none =>
    apply Or.inl
    simp [Game.internalCloseTrade, found, points, notTransfer]
  | some partnerId =>
    apply Or.inr
    rcases exchanging.consistent.partners id player partnerId found tied
      points with
      ⟨partnerTied, ne, partner, partnerFound, pointsBack⟩
    have partnerNotTransfer := exchanging.tied_state partnerFound partnerTied
    refine ⟨partnerId, partner, rfl, partnerTied, ne, partnerFound, pointsBack, ?_⟩
    simp [Game.internalCloseTrade, found, points, partnerFound, notTransfer, partnerNotTransfer]

lemma internalCloseTrade (id : Nat) :
  Exchanging strict loose flight outstanding (game.internalCloseTrade id).1 := by
  by_cases tied : id ∈ loose
  · rw [exchanging.close_loose tied]
    exact exchanging
  · cases found : game.players.find? id with
    | none =>
      simp only [Game.internalCloseTrade, found]
      exact exchanging
    | some player =>
      have sameId := exchanging.consistent.ids id player found
      rcases exchanging.close_tied found tied with
        ⟨alone, closed⟩ |
          ⟨partnerId, partner, points, partnerTied, ne, partnerFound, pointsBack, closed⟩
      · rw [closed]
        have kept :
            ∀ other stored,
              (game.cancelTradeOf player).1.players.find? other =
                  some stored →
                other ∈ loose → game.players.find? other = some stored := by
          intro other stored there mem
          rw [cancelTradeOf_find?, if_neg] at there
          · exact there
          · intro same
            exact tied (sameId ▸ same ▸ mem)
        constructor
        · apply (exchanging.consistent.loosen_single found alone).cancelTradeOf found
          · exact fun item holds => (exchanging.tied_item found tied holds).1
          · exact fun item holds => (exchanging.tied_item found tied holds).2
        · exact fun other stored there mem =>
            exchanging.state other stored (kept other stored there mem) mem
        · exact fun other stored item there mem =>
            exchanging.item other stored item (kept other stored there mem) mem
        · exact exchanging.airborne
      · rw [closed]
        have partnerId_eq := exchanging.consistent.ids partnerId partner partnerFound
        have partnerStill :
            (game.cancelTradeOf player).1.players.find? partnerId = some partner := by
          rw [cancelTradeOf_find?, if_neg]
          · exact partnerFound
          · intro same
            exact ne (same.trans sameId)
        have kept :
            ∀ other stored,
              ((game.cancelTradeOf player).1.cancelTradeOf
                  partner).1.players.find? other = some stored →
                other ∈ loose → game.players.find? other = some stored := by
          intro other stored there mem
          rw [cancelTradeOf_find?, if_neg, cancelTradeOf_find?, if_neg] at there
          · exact there
          · intro same
            exact tied (sameId ▸ same ▸ mem)
          · intro same
            exact partnerTied (partnerId_eq ▸ same ▸ mem)
        have loosened := exchanging.consistent.loosen_pair found points partnerFound pointsBack
        have first :=
          loosened.cancelTradeOf found
            (fun item holds => (exchanging.tied_item found tied holds).1)
            (fun item holds => (exchanging.tied_item found tied holds).2)
        constructor
        · apply first.cancelTradeOf partnerStill
          · exact fun item holds => (exchanging.tied_item partnerFound partnerTied holds).1
          · exact fun item holds => (exchanging.tied_item partnerFound partnerTied holds).2
        · exact fun other stored there mem =>
            exchanging.state other stored (kept other stored there mem) mem
        · exact fun other stored item there mem =>
            exchanging.item other stored item (kept other stored there mem) mem
        · exact exchanging.airborne

lemma erase
  (free :
    ∀ player, game.players.find? id = some player →
      id ∈ loose ∨ player.tradePartner = none ∧ player.tradeItem = none) :
  Exchanging strict loose flight outstanding { game with players := game.players.erase id } := by
  have consistent := exchanging.consistent
  constructor
  · constructor
    · exact fun other stored there =>
        consistent.ids other stored (OrderedMap.find?_of_erase there).2
    · exact fun other stored there =>
        consistent.shaped other stored (OrderedMap.find?_of_erase there).2
    · intro other stored partnerId there tied points
      have before := (OrderedMap.find?_of_erase there).2
      rcases consistent.partners other stored partnerId before tied points with
        ⟨partnerTied, ne, partner, partnerFound, pointsBack⟩
      refine ⟨partnerTied, ne, partner, ?_, pointsBack⟩
      rw [OrderedMap.find?_erase_ne]
      · exact partnerFound
      · intro same
        subst same
        rcases free partner partnerFound with isLoose | ⟨alone, -⟩
        · exact partnerTied isLoose
        · rw [alone] at pointsBack
          cases pointsBack
    · exact fun other stored item there =>
        consistent.grounded other stored item (OrderedMap.find?_of_erase there).2
    · intro item other
      rw [consistent.offers item other]
      apply and_congr_left
      intro landed
      constructor
      · rintro ⟨stored, there, holds⟩
        refine ⟨stored, ?_, holds⟩
        rw [OrderedMap.find?_erase_ne]
        · exact there
        · intro same
          subst same
          rcases free stored there with isLoose | ⟨-, empty⟩
          · exact landed (exchanging.item other stored item there isLoose holds)
          · rw [empty] at holds
            cases holds
      · rintro ⟨stored, there, holds⟩
        exact ⟨stored, (OrderedMap.find?_of_erase there).2, holds⟩
    · exact consistent.documents
    · exact consistent.serials
  · exact fun other stored there =>
      exchanging.state other stored (OrderedMap.find?_of_erase there).2
  · exact fun other stored item there =>
      exchanging.item other stored item (OrderedMap.find?_of_erase there).2
  · exact exchanging.airborne

lemma removePlayer (id : Nat) :
  Exchanging strict loose flight outstanding (game.removePlayer id).1 := by
  cases found : game.players.find? id with
  | none =>
    simp only [Game.removePlayer, found]
    exact exchanging
  | some player =>
    by_cases tied : id ∈ loose
    · have left : (game.removePlayer id).1 =
          { game with players := game.players.erase id } := by
        simp only [Game.removePlayer, found, exchanging.close_loose tied, ite_self]
      rw [left]
      exact exchanging.erase fun _ _ => Or.inl tied
    · cases points : player.tradePartner with
      | none =>
        have left : (game.removePlayer id).1 =
            { game with players := game.players.erase id } := by
          simp [Game.removePlayer, found, points]
        rw [left]
        apply exchanging.erase
        intro stored there
        apply Or.inr
        rw [found] at there
        cases there
        have shaped := exchanging.consistent.shaped id player found tied
        simp only [Player.Shaped] at shaped
        split at shaped
        · exact ⟨shaped.2, shaped.1⟩
        · exact (shaped.2 points).elim
        · exact (shaped.2 points).elim
        · exact (shaped.1 points).elim
        · exact shaped.elim
      | some partnerId =>
        have closed := exchanging.internalCloseTrade id
        have left : (game.removePlayer id).1 =
            { (game.internalCloseTrade id).1 with
              players := (game.internalCloseTrade id).1.players.erase id } := by
          simp [Game.removePlayer, found, points]
        rw [left]
        apply closed.erase
        intro stored there
        apply Or.inr
        have sameId := exchanging.consistent.ids id player found
        rcases exchanging.close_tied found tied with
          ⟨alone, -⟩ | ⟨otherId, partner, -, -, ne, partnerFound, -, result⟩
        · rw [alone] at points
          cases points
        · rw [result, cancelTradeOf_find?, if_neg, cancelTradeOf_find?,
            if_pos sameId.symm] at there
          · cases there
            exact ⟨rfl, rfl⟩
          · intro same
            have partnerId_eq := exchanging.consistent.ids otherId partner partnerFound
            exact ne (partnerId_eq.symm.trans same.symm)

lemma modifyOwner
  (houseId : Nat) (kept : ∀ house, (change house).transferItem = house.transferItem) :
  Exchanging strict loose flight outstanding (game.modifyHouse houseId change) := by
  rcases modifyHouse_frame game houseId change with ⟨players, tradeItems, serial⟩
  constructor
  · exact exchanging.consistent.congr_game players tradeItems
      (fun other => transferItemOf_modifyHouse game houseId other kept) serial
  · rw [players]
    exact exchanging.state
  · rw [players]
    exact exchanging.item
  · exact exchanging.airborne

end Exchanging

end OTServ.Trade
