import OTServ.Items.Effects

/-!
# Changes of cylinders as changes of the stock

`__removeThing`, `__addThing` and `__updateThing` of each cylinder take the item
out, put it in or give it other matter, and nothing more.
-/

namespace OTServ.Items

open Library.Placements
open Map
open List Function

variable {env : Env} {world changed : World}

variable {itemlist : List Nat} {item id container count : Nat} {pos : Position} {tile : Tile}
  {removing : Bool} {cylinder : Cylinder} {index : Int}

lemma indexIn_nonneg (member : item ∈ itemlist) : 0 ≤ indexIn itemlist item := by
  rw [indexIn]
  split
  · exact Int.natCast_nonneg _
  · rename_i absent
    exact absurd member (List.idxOf?_eq_none_iff.mp absent)

lemma indexIn_of_not_mem (absent : item ∉ itemlist) : indexIn itemlist item = -1 := by
  rw [indexIn, List.idxOf?_eq_none_iff.mpr absent]

lemma getIndexOfThing_tile (here : world.tile pos = some tile) :
  getIndexOfThing world (.tile pos) item = -1 ↔ item ∉ tile.things := by
  simp only [getIndexOfThing, here, Tile.things]
  split
  · rename_i under
    have nonneg := indexIn_nonneg under
    constructor
    · intro gone
      omega
    · intro absent
      exact absurd (mem_append_left _ under) absent
  · rename_i under
    split
    · rename_i down
      have nonneg := indexIn_nonneg down
      constructor
      · intro gone
        omega
      · intro absent
        exact absurd (mem_append_right _ down) absent
    · rename_i down
      simp only [mem_append, under, down, or_self, not_false_eq_true]

lemma getIndexOfThing_player (member : item ∈ world.listing (.player id)) :
  ∃ slot,
    slot ∈ slots ∧ world.inventory id slot = some item ∧
      getIndexOfThing world (.player id) item = slot := by
  rcases mem_filterMap.mp member with ⟨slot, listed, held⟩
  simp only [getIndexOfThing]
  cases found : slots.find? fun slot => world.inventory id slot = some item with
  | none =>
    have nowhere := List.find?_eq_none.mp found slot listed
    simp [held] at nowhere
  | some other =>
    have holds := List.find?_some found
    exact ⟨other, mem_of_find?_eq_some found, by simpa using holds, rfl⟩

lemma getIndexOfThing_player_none (absent : item ∉ world.listing (.player id)) :
  getIndexOfThing world (.player id) item = -1 := by
  simp only [getIndexOfThing]
  cases found : slots.find? fun slot => world.inventory id slot = some item with
  | none => rfl
  | some other =>
    have holds := List.find?_some found
    have held : world.inventory id other = some item := by
      simpa using holds
    exact absurd
      (mem_filterMap.mpr ⟨other, mem_of_find?_eq_some found, held⟩)
      absent

lemma getIndexOfThing_eq_neg_one (sorted : Sorted env.items world.toStock) (cylinder : Cylinder)
  (item : Nat) : getIndexOfThing world cylinder item = -1 ↔ item ∉ world.listing cylinder := by
  cases cylinder with
  | tile pos =>
    cases here : world.tile pos with
    | none => simp [getIndexOfThing, Stock.listing, here]
    | some tile =>
      rw [getIndexOfThing_tile here]
      simp [Stock.listing, here, Tile.things]
  | player id =>
    constructor
    · intro gone member
      rcases getIndexOfThing_player member with ⟨slot, _, _, index⟩
      omega
    · exact getIndexOfThing_player_none
  | item pointer =>
    simp only [getIndexOfThing, Stock.listing]
    cases container : world.isContainer pointer with
    | false => simp [sorted.containers pointer container]
    | true =>
      simp only [if_true]
      constructor
      · intro gone member
        have nonneg := indexIn_nonneg member
        omega
      · exact indexIn_of_not_mem

/-! ## Removing -/

def IsWhole (env : Env) (world : World) (item count : Nat) : Prop :=
  ¬ (world.isStackable env.items item ∧ count ≠ (world.item item).count)

lemma containerRemoveThing_takes
  (member : item ∈ world.listing (.item container)) (whole : IsWhole env world item count)
  (done : containerRemoveThing env world container item count = some changed) :
  Takes world.toStock changed.toStock (.item container) item ∧ changed.next = world.next := by
  have listed : item ∈ (world.item container).itemlist := member
  simp only [containerRemoveThing, listed, if_true, if_neg whole] at done
  rcases Option.map_eq_some_iff.mp done with ⟨lighter, weighed, rfl⟩
  have stock := World.updateItemWeight_toStock weighed
  have next := World.updateItemWeight_next weighed
  simp only [World.withStock_toStock, stock]
  refine ⟨⟨⟨?_, ?_, ?_⟩, ?_, ?_, ?_⟩, next⟩
  · show ((world.item container).itemlist).Perm
      (item :: (Stock.setItemlist _ container _).listing (.item container))
    rw [Stock.setItemlist_listing_self]
    exact perm_cons_erase listed
  · intro other away
    show (Stock.setItemlist _ container _).listing other = _
    rw [Stock.setItemlist_listing_of_ne _ _ _ away, Stock.setParent_listing]
    rfl
  · rw [Stock.setItemlist_parent, Stock.setParent_parent]
  · intro other
    rw [Stock.setItemlist_matter, Stock.setParent_matter]
  · intro pos
    rfl
  · intro pos smaller larger here there
    have same : smaller = larger := Option.some.inj (here.symm.trans there)
    rw [same]
    exact ⟨fun _ lies => lies, fun _ lies => lies, fun _ lies => lies⟩

lemma containerRemoveThing_part
  (member : item ∈ world.listing (.item container)) (part : ¬ IsWhole env world item count)
  (done : containerRemoveThing env world container item count = some changed) :
  changed.toStock =
      world.toStock.setMatter item
        ((world.item item).toMatter.setItemCount (lowered (world.item item).count count)) ∧
    changed.next = world.next := by
  have listed : item ∈ (world.item container).itemlist := member
  simp only [containerRemoveThing, listed, if_true, if_pos (not_not.mp part)] at done
  have stock := World.updateItemWeight_toStock done
  have next := World.updateItemWeight_next done
  exact ⟨stock, next⟩

lemma playerRemoveThing_takes
  (member : item ∈ world.listing (.player id)) (whole : IsWhole env world item count) :
  Takes world.toStock (playerRemoveThing env world id item count).toStock
      (.player id) item ∧
    (playerRemoveThing env world id item count).next = world.next := by
  rcases getIndexOfThing_player member with ⟨slot, listed, held, index⟩
  have there : ((slot : Nat) : Int) ≠ -1 := by omega
  simp only [playerRemoveThing, index, there, if_false, if_neg whole,
    World.withStock_toStock, Int.toNat_natCast]
  refine ⟨⟨⟨?_, ?_, ?_⟩, ?_, ?_, ?_⟩, rfl⟩
  · show (world.listing (.player id)).Perm
      (item :: (Stock.setInventory _ id slot none).listing (.player id))
    rw [Stock.setInventory_listing_self, Stock.setParent_inventory]
    exact filterMap_empty (by decide) listed held
  · intro other away
    show (Stock.setInventory _ id slot none).listing other = _
    rw [Stock.setInventory_listing_of_ne _ _ _ _ away, Stock.setParent_listing]
    rfl
  · exact Stock.setParent_parent _ _ _
  · intro other
    rw [Stock.setInventory_item, Stock.setParent_matter]
  · intro pos
    rfl
  · intro pos smaller larger here there
    have same : smaller = larger := Option.some.inj (here.symm.trans there)
    rw [same]
    exact ⟨fun _ lies => lies, fun _ lies => lies, fun _ lies => lies⟩

lemma playerRemoveThing_part
  (member : item ∈ world.listing (.player id)) (part : ¬ IsWhole env world item count) :
  (playerRemoveThing env world id item count).toStock =
      world.toStock.setMatter item
        ((world.item item).toMatter.setItemCount (lowered (world.item item).count count)) ∧
    (playerRemoveThing env world id item count).next = world.next := by
  rcases getIndexOfThing_player member with ⟨slot, listed, held, index⟩
  have there : ((slot : Nat) : Int) ≠ -1 := by omega
  simp only [playerRemoveThing, index, there, if_false,
    if_pos (not_not.mp part), World.withStock_toStock]
  exact ⟨trivial, rfl⟩

@[simp]
lemma updateTileFlags_toStock (pos : Position) (item : Nat) (removing : Bool) :
  (updateTileFlags env world pos item removing).toStock = world.toStock :=
  rfl

@[simp]
lemma changeTile_toStock
  (pos : Position) (tile : Tile) (item : Nat) (parent : Option Cylinder) (removing : Bool) :
  (changeTile env world pos tile item parent removing).toStock =
    (world.toStock.setParent item parent).setTile pos tile :=
  rfl

lemma listing_tile (here : world.tile pos = some tile) :
  world.listing (.tile pos) = tile.things := by
  simp [Stock.listing, here, Tile.things]

lemma changeTile_takes {smaller : Tile} (here : world.tile pos = some tile)
  (listing : tile.things.Perm (item :: smaller.things)) (within : smaller.Within tile) :
  Takes world.toStock
    (changeTile env world pos smaller item none removing).toStock
    (.tile pos) item := by
  rw [changeTile_toStock]
  refine ⟨⟨?_, ?_, ?_⟩, ?_, ?_, ?_⟩
  · show (world.listing (.tile pos)).Perm
      (item :: (Stock.setTile _ pos smaller).listing (.tile pos))
    rw [Stock.setTile_listing_self, listing_tile here]
    exact listing
  · intro other away
    show (Stock.setTile _ pos smaller).listing other = _
    rw [Stock.setTile_listing_of_ne _ _ _ away, Stock.setParent_listing]
    rfl
  · exact Stock.setParent_parent _ _ _
  · intro other
    rw [Stock.setTile_item, Stock.setParent_matter]
  · intro other
    by_cases same : other = pos
    · subst same
      simp [Stock.setTile, here]
    · simp [Stock.setTile, same]
  · intro other after before now then'
    by_cases same : other = pos
    · subst same
      simp only [Stock.setTile, update_self, Option.some.injEq] at now
      rw [← now, Option.some.inj (then'.symm.trans here)]
      exact within
    · simp only [Stock.setTile, Stock.setParent_tile, update_of_ne same] at now
      rw [Option.some.inj (now.symm.trans then')]
      exact ⟨fun _ lies => lies, fun _ lies => lies, fun _ lies => lies⟩

section

variable (sorted : Sorted env.items world.toStock)
include sorted

lemma mem_things (here : world.tile pos = some tile) (member : item ∈ tile.things)
  (above : tile.ground ≠ some item) :
  if (world.itemType env.items item).alwaysOnTop then item ∈ tile.topItems
  else item ∈ tile.downItems := by
  rw [Tile.things, mem_append, mem_append, Option.mem_toList] at member
  rcases member with (ground | top) | down
  · exact absurd ground above
  · rw [(sorted.topItems pos tile item here top).1]
    exact top
  · rw [(sorted.downItems pos tile item here down).1]
    exact down

lemma tileRemoveThing_takes (member : item ∈ world.listing (.tile pos))
  (whole : IsWhole env world item count ∨ (world.itemType env.items item).alwaysOnTop) :
  Takes world.toStock
      (tileRemoveThing env world pos item count).toStock
      (.tile pos) item ∧
    (tileRemoveThing env world pos item count).next = world.next := by
  cases here : world.tile pos with
  | none => simp [Stock.listing, here] at member
  | some tile =>
    rw [listing_tile here] at member
    have index : getIndexOfThing world (.tile pos) item ≠ -1 := by
      rw [Ne, getIndexOfThing_tile here]
      exact not_not.mpr member
    simp only [tileRemoveThing, here, index, if_false, tileRemoveFrom]
    split
    · rename_i ground
      refine ⟨changeTile_takes here ?_ ⟨?_, ?_, ?_⟩, rfl⟩
      · simp [Tile.things, ground]
      · intro other impossible
        cases impossible
      · exact fun _ lies => lies
      · exact fun _ lies => lies
    · rename_i above
      have part := mem_things sorted here member above
      split
      · rename_i onTop
        rw [if_pos onTop] at part
        rw [if_pos part]
        refine ⟨changeTile_takes here ?_ ⟨?_, ?_, ?_⟩, rfl⟩
        · have perm := perm_cons_erase part
          calc
            tile.things.Perm
                (tile.ground.toList ++ (item :: tile.topItems.erase item) ++ tile.downItems) :=
              (perm.append_left _).append_right _
            List.Perm _ _ := by
              simp only [Tile.things, append_assoc, cons_append]
              exact perm_middle
        · exact fun _ lies => lies
        · exact erase_subset
        · exact fun _ lies => lies
      · rename_i onTop
        rw [if_neg onTop] at part
        have all :
            ¬ ((world.itemType env.items item).stackable ∧ count ≠ (world.item item).count) :=
          whole.resolve_right onTop
        rw [if_pos part, if_neg all]
        refine ⟨changeTile_takes here ?_ ⟨?_, ?_, ?_⟩, rfl⟩
        · have perm := perm_cons_erase part
          calc
            tile.things.Perm
                (tile.ground.toList ++ tile.topItems ++ (item :: tile.downItems.erase item)) :=
              perm.append_left _
            List.Perm _ _ := perm_middle
        · exact fun _ lies => lies
        · exact fun _ lies => lies
        · exact erase_subset

lemma tileRemoveThing_part
  (member : item ∈ world.listing (.tile pos)) (part : ¬ IsWhole env world item count)
  (onTop : (world.itemType env.items item).alwaysOnTop = false)
  (group : (world.itemType env.items item).group ≠ .ground) :
  (tileRemoveThing env world pos item count).toStock =
      world.toStock.setMatter item
        ((world.item item).toMatter.setItemCount (lowered (world.item item).count count)) ∧
    (tileRemoveThing env world pos item count).next = world.next := by
  cases here : world.tile pos with
  | none => simp [Stock.listing, here] at member
  | some tile =>
    rw [listing_tile here] at member
    have index : getIndexOfThing world (.tile pos) item ≠ -1 := by
      rw [Ne, getIndexOfThing_tile here]
      exact not_not.mpr member
    have above : tile.ground ≠ some item := by
      intro ground
      exact group (sorted.ground pos tile item here ground)
    have down := mem_things sorted here member above
    rw [onTop, if_neg Bool.false_ne_true] at down
    have some_left : (world.itemType env.items item).stackable ∧ count ≠ (world.item item).count :=
      not_not.mp part
    simp only [tileRemoveThing, here, index, if_false, tileRemoveFrom,
      above, onTop, Bool.false_eq_true, if_pos down, if_pos some_left,
      updateTileFlags_toStock, World.withStock_toStock]
    exact ⟨trivial, rfl⟩

lemma container_of_member {pointer : Nat} (member : item ∈ world.listing (.item pointer)) :
  world.isContainer pointer := by
  cases container : world.isContainer pointer with
  | true => rfl
  | false =>
    have listed : item ∈ (world.item pointer).itemlist := member
    rw [sorted.containers pointer container] at listed
    cases listed

variable (member : item ∈ world.listing cylinder)
include member

lemma removeThing_takes (whole : IsWhole env world item count)
  (done : removeThing env world cylinder item count = some changed) :
  Takes world.toStock changed.toStock cylinder item ∧ changed.next = world.next := by
  cases cylinder with
  | tile pos =>
    cases done
    exact tileRemoveThing_takes sorted member (.inl whole)
  | player id =>
    cases done
    exact playerRemoveThing_takes member whole
  | item pointer =>
    simp only [removeThing, container_of_member sorted member, if_true] at done
    exact containerRemoveThing_takes member whole done

/-- A part of a stack leaves its cylinder. -/
lemma removeThing_part (part : ¬ IsWhole env world item count)
  (onTop : (world.itemType env.items item).alwaysOnTop = false)
  (group : (world.itemType env.items item).group ≠ .ground)
  (done : removeThing env world cylinder item count = some changed) :
  changed.toStock =
      world.toStock.setMatter item
        ((world.item item).toMatter.setItemCount (lowered (world.item item).count count)) ∧
    changed.next = world.next := by
  cases cylinder with
  | tile pos =>
    cases done
    exact tileRemoveThing_part sorted member part onTop group
  | player id =>
    cases done
    exact playerRemoveThing_part member part
  | item pointer =>
    simp only [removeThing, container_of_member sorted member, if_true] at done
    exact containerRemoveThing_part member part done

lemma updateThing_matter
  {itemId : Nat} (done : updateThing env world cylinder item itemId count = some changed) :
  changed.toStock =
      world.toStock.setMatter item
        (((world.item item).toMatter.setID itemId).setSubType env.items count) ∧
    changed.next = world.next := by
  have index : getIndexOfThing world cylinder item ≠ -1 := by
    rw [Ne, getIndexOfThing_eq_neg_one sorted]
    exact not_not.mpr member
  cases cylinder with
  | tile pos =>
    cases done
    rw [tileUpdateThing, if_neg index]
    exact ⟨rfl, rfl⟩
  | player id =>
    cases done
    rw [playerUpdateThing, if_neg index]
    exact ⟨rfl, rfl⟩
  | item pointer =>
    have listed : item ∈ (world.item pointer).itemlist := member
    simp only [updateThing, container_of_member sorted member, if_true,
      containerUpdateThing, listed] at done
    have stock := World.updateItemWeight_toStock done
    have next := World.updateItemWeight_next done
    exact ⟨stock, next⟩

end

/-! ## Adding -/

/-- There is a place for the item, and nothing there is replaced by it. -/
def HasPlace (env : Env) (world : World) (cylinder : Cylinder) (index : Int) (item : Nat) : Prop :=
  match cylinder with
  | .tile position =>
    (world.tile position).isSome ∧
      (world.itemType env.items item).group ≠ .ground ∧
        (world.itemType env.items item).group ≠ .splash ∧
          (world.itemType env.items item).type ≠ .magicField
  | .player id => isSlot index ∧ world.inventory id index.toNat = none
  | .item pointer =>
    world.isContainer pointer ∧ index < (world.item pointer).maxSize

lemma containerAddThing_puts
  (isContainer : world.isContainer container) (fits : index < (world.item container).maxSize)
  (done : containerAddThing env world container index item = some changed) :
  Puts env.items world.toStock changed.toStock (.item container) item ∧
    changed.next = world.next := by
  rw [containerAddThing, if_neg (not_le.mpr fits)] at done
  have stock := World.updateItemWeight_toStock done
  have next := World.updateItemWeight_next done
  rw [World.withStock_toStock] at stock
  rw [stock]
  refine ⟨⟨⟨?_, ?_, ?_⟩, ?_, ?_, ?_, ?_⟩, next⟩
  · show ((Stock.setItemlist _ container _).listing (.item container)).Perm
      (item :: (world.item container).itemlist)
    rw [Stock.setItemlist_listing_self]
  · intro other away
    show (Stock.setItemlist _ container _).listing other = _
    rw [Stock.setItemlist_listing_of_ne _ _ _ away, Stock.setParent_listing]
    rfl
  · rw [Stock.setItemlist_parent, Stock.setParent_parent]
  · intro other
    rw [Stock.setItemlist_matter, Stock.setParent_matter]
  · intro pos
    rfl
  · intro pos smaller larger here there
    have same : smaller = larger := Option.some.inj (here.symm.trans there)
    rw [same]
    exact ⟨fun _ lies => lies, fun _ lies => .inl lies, fun _ lies => .inl lies⟩
  · rintro pointer ⟨⟩
    exact isContainer

lemma playerAddThing_puts (slot : isSlot index) (empty : world.inventory id index.toNat = none) :
  Puts env.items world.toStock (playerAddThing world id index item).toStock
      (.player id) item ∧
    (playerAddThing world id index item).next = world.next := by
  have bounds : 1 ≤ index ∧ index < 11 := by
    simpa [isSlot] using slot
  have inside : ¬ (index < 0 ∨ 11 < index ∨ index = 0) := by omega
  have listed : index.toNat ∈ slots := by
    rw [slots]
    simp only [mem_cons, not_mem_nil, or_false]
    omega
  rw [playerAddThing, if_neg inside, World.withStock_toStock]
  refine ⟨⟨⟨?_, ?_, ?_⟩, ?_, ?_, ?_, ?_⟩, rfl⟩
  · show ((Stock.setInventory _ id index.toNat (some item)).listing
      (.player id)).Perm (item :: world.listing (.player id))
    rw [Stock.setInventory_listing_self, Stock.setParent_inventory]
    exact filterMap_fill (by decide) listed empty item
  · intro other away
    show (Stock.setInventory _ id index.toNat (some item)).listing other = _
    rw [Stock.setInventory_listing_of_ne _ _ _ _ away, Stock.setParent_listing]
    rfl
  · exact Stock.setParent_parent _ _ _
  · intro other
    rw [Stock.setInventory_item, Stock.setParent_matter]
  · intro pos
    rfl
  · intro pos smaller larger here there
    have same : smaller = larger := Option.some.inj (here.symm.trans there)
    rw [same]
    exact ⟨fun _ lies => lies, fun _ lies => .inl lies, fun _ lies => .inl lies⟩
  · intro pointer impossible
    cases impossible

lemma changeTile_puts {larger : Tile} (here : world.tile pos = some tile)
  (listing : larger.things.Perm (item :: tile.things))
  (gains : tile.Gains env.items world.toStock larger item) :
  Puts env.items world.toStock
    (changeTile env world pos larger item (some (.tile pos)) removing).toStock
    (.tile pos) item := by
  rw [changeTile_toStock]
  refine ⟨⟨?_, ?_, ?_⟩, ?_, ?_, ?_, ?_⟩
  · show ((Stock.setTile _ pos larger).listing (.tile pos)).Perm
      (item :: world.listing (.tile pos))
    rw [Stock.setTile_listing_self, listing_tile here]
    exact listing
  · intro other away
    show (Stock.setTile _ pos larger).listing other = _
    rw [Stock.setTile_listing_of_ne _ _ _ away, Stock.setParent_listing]
    rfl
  · exact Stock.setParent_parent _ _ _
  · intro other
    rw [Stock.setTile_item, Stock.setParent_matter]
  · intro other
    by_cases same : other = pos
    · subst same
      simp [Stock.setTile, here]
    · simp [Stock.setTile, same]
  · intro other before after then' now
    by_cases same : other = pos
    · subst same
      simp only [Stock.setTile, update_self, Option.some.injEq] at now
      rw [← now, Option.some.inj (then'.symm.trans here)]
      exact gains
    · simp only [Stock.setTile, Stock.setParent_tile, update_of_ne same] at now
      rw [Option.some.inj (now.symm.trans then')]
      exact ⟨fun _ lies => lies, fun _ lies => .inl lies, fun _ lies => .inl lies⟩
  · intro pointer impossible
    cases impossible

lemma insertTop_perm (env : Env) (world : World) (item : Nat) (topItems : List Nat) :
  (insertTop env world item topItems).Perm (item :: topItems) := by
  induction topItems with
  | nil => exact List.Perm.refl _
  | cons other rest ih =>
    rw [insertTop]
    split
    · exact List.Perm.refl _
    · exact (ih.cons other).trans (List.Perm.swap item other rest)

lemma addDownItem_puts (here : world.tile pos = some tile)
  (onTop : (world.itemType env.items item).alwaysOnTop = false)
  (group : (world.itemType env.items item).group ≠ .ground) :
  Puts env.items world.toStock
      (addDownItem env world pos item).toStock (.tile pos) item ∧
    (addDownItem env world pos item).next = world.next := by
  simp only [addDownItem, here]
  refine ⟨changeTile_puts here ?_ ⟨?_, ?_, ?_⟩, rfl⟩
  · exact perm_middle
  · exact fun _ lies => lies
  · exact fun _ lies => .inl lies
  · intro other lies
    rcases mem_cons.mp lies with rfl | old
    · exact .inr ⟨rfl, onTop, group⟩
    · exact .inl old

lemma addTopItem_puts
  (here : world.tile pos = some tile) (onTop : (world.itemType env.items item).alwaysOnTop)
  (group : (world.itemType env.items item).group ≠ .ground) :
  Puts env.items world.toStock
      (addTopItem env world pos item).toStock (.tile pos) item ∧
    (addTopItem env world pos item).next = world.next := by
  simp only [addTopItem, here]
  have inserted := insertTop_perm env world item tile.topItems
  refine ⟨changeTile_puts here ?_ ⟨?_, ?_, ?_⟩, rfl⟩
  · calc
      Tile.things
            { tile with topItems := insertTop env world item tile.topItems }
          |>.Perm
            (tile.ground.toList ++ (item :: tile.topItems) ++ tile.downItems) :=
        (inserted.append_left _).append_right _
      List.Perm _ _ := by
        simp only [Tile.things, append_assoc, cons_append]
        exact perm_middle
  · exact fun _ lies => lies
  · intro other lies
    rcases mem_cons.mp (inserted.mem_iff.mp lies) with rfl | old
    · exact .inr ⟨rfl, onTop, group⟩
    · exact .inl old
  · exact fun _ lies => .inl lies

lemma addThing_puts (place : HasPlace env world cylinder index item)
  (done : addThing env world cylinder index item = some changed) :
  Puts env.items world.toStock changed.toStock cylinder item ∧ changed.next = world.next := by
  cases cylinder with
  | tile pos =>
    rcases place with ⟨present, group, splash, field⟩
    rcases Option.isSome_iff_exists.mp present with ⟨tile, here⟩
    cases done
    simp only [tileAddThing, here, group, splash, field, if_false]
    split
    · rename_i onTop
      exact addTopItem_puts here onTop group
    · rename_i onTop
      exact addDownItem_puts here (Bool.eq_false_iff.mpr onTop) group
  | player id =>
    cases done
    exact playerAddThing_puts place.1 place.2
  | item pointer =>
    rcases place with ⟨container, fits⟩
    rw [Stock.isContainer] at container
    cases itemClass : (world.item pointer).itemClass with
    | container =>
      simp only [addThing, itemClass] at done
      exact containerAddThing_puts (by rw [Stock.isContainer, itemClass]; rfl) fits done
    | depot =>
      simp only [addThing, itemClass] at done
      exact containerAddThing_puts (by rw [Stock.isContainer, itemClass]; rfl) fits done
    | _ =>
      rw [itemClass] at container
      cases container

end OTServ.Items
