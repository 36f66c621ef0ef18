import OTServ.Library.GuardedRuns
import OTServ.Tiles.Tile

/-!
# The stack of a tile

The things of a tile stand in one order: ground, items on top, creatures, other items.
This module says what each operation does to that order, and when the items on top stay in
the order of their types.
-/

namespace OTServ.Tiles

open Items
open List Option

variable {other : Tile} {slot : Slot} {item old : TileItem}

namespace Tile

variable (items : TileItemTable) (tile : Tile)

def things : List Thing :=
  tile.ground.toList.map .item ++ tile.topItems.map .item ++
    tile.creatures.map .creature ++ tile.downItems.map .item

def pointers : List ThingPointer :=
  tile.things.map Thing.pointer

lemma things_length :
  tile.things.length =
    (if tile.ground.isSome then 1 else 0) + tile.topItems.length +
      tile.creatures.length + tile.downItems.length := by
  cases ground : tile.ground <;> simp [things, ground] <;> omega

lemma getThing_eq (index : Nat) : tile.getThing index = tile.things[index]? := by
  have behind (index : Nat) :
      getThing.go tile index =
        (tile.topItems.map Thing.item ++ tile.creatures.map Thing.creature ++
          tile.downItems.map Thing.item)[index]? := by
    rw [getThing.go]
    by_cases top : index < tile.topItems.length
    · rw [if_pos top, append_assoc, List.getElem?_append_left (by simpa using top)]
    · rw [if_neg top, append_assoc, List.getElem?_append_right (by simpa using top)]
      simp only [length_map]
      by_cases middle : index - tile.topItems.length < tile.creatures.length
      · rw [if_pos middle, List.getElem?_append_left (by simpa using middle)]
      · rw [if_neg middle, List.getElem?_append_right (by simpa using middle), length_map]
  rw [getThing, things]
  cases tile.ground with
  | none =>
    simpa using behind index
  | some ground =>
    cases index with
    | zero => rfl
    | succ index =>
      simpa [append_assoc] using behind index

lemma indexIn_append (pointer : ThingPointer) (before after : List Thing) (n : Int) :
  indexIn pointer (before ++ after) n =
    match indexIn pointer before n with
    | some index => some index
    | none => indexIn pointer after (n + before.length) := by
  simp only [indexIn, List.findIdx?_append]
  cases before.findIdx? fun thing => thing.pointer = pointer with
  | some place => rfl
  | none =>
    cases after.findIdx? fun thing => thing.pointer = pointer with
    | none => rfl
    | some place =>
      simp only [map_some, map_none, none_or, some.injEq]
      push_cast
      omega

lemma getIndexOfThing_eq (pointer : ThingPointer) :
  tile.getIndexOfThing pointer =
    match tile.things.findIdx? fun thing => thing.pointer = pointer with
    | some place => (place : Int)
    | none => -1 := by
  have behind (n : Int) :
      getIndexOfThing.go tile pointer n =
        match
            indexIn pointer
              (tile.topItems.map Thing.item ++ tile.creatures.map Thing.creature ++
                tile.downItems.map Thing.item) n with
        | some index => index
        | none => -1 := by
    rw [getIndexOfThing.go, append_assoc, indexIn_append, indexIn_append]
    simp only [length_map]
    cases indexIn pointer (tile.topItems.map Thing.item) n with
    | some index => rfl
    | none =>
      cases indexIn pointer (tile.creatures.map Thing.creature) (n + tile.topItems.length) with
      | some index => rfl
      | none => rfl
  have start (things : List Thing) (n : Int) :
      (match indexIn pointer things n with
        | some index => index
        | none => -1) =
      match things.findIdx? fun thing => thing.pointer = pointer with
      | some place => n + 1 + (place : Int)
      | none => -1 := by
    rw [indexIn]
    cases things.findIdx? fun thing => thing.pointer = pointer <;> rfl
  rw [getIndexOfThing, things]
  cases tile.ground with
  | none =>
    dsimp only
    rw [behind, start]
    simp
  | some ground =>
    rw [behind, start]
    by_cases same : ThingPointer.item ground.number = pointer
    · simp [same, Thing.pointer, List.findIdx?_cons]
    · simp only [toList_some, map_cons, map_nil,
        cons_append, nil_append, List.findIdx?_cons, Thing.pointer, same,
        decide_false, Bool.false_eq_true, if_false]
      cases List.findIdx? _ _ with
      | none => rfl
      | some place =>
        change (-1 + 1 + 1 + place : Int) = ((place + 1 : Nat) : Int)
        omega

def SameStack (other : Tile) : Prop :=
  other = { tile with m_flags := other.m_flags }

namespace SameStack

variable {items tile}

lemma refl (tile : Tile) : SameStack tile tile :=
  rfl

lemma trans {middle : Tile} (first : SameStack tile middle) (second : SameStack middle other) :
  SameStack tile other := by
  rw [SameStack] at first second ⊢
  rw [second, first]

lemma when {change : Tile → Tile} {condition : Bool} (before : SameStack tile other)
  (changes : ∀ other, SameStack other (change other)) :
  SameStack tile (other.when condition change) := by
  cases condition with
  | false => exact before
  | true => exact before.trans (changes other)

lemma foldl {α : Type} {change : Tile → α → Tile} (members : List α)
  (before : SameStack tile other) (changes : ∀ other mem, SameStack other (change other mem)) :
  SameStack tile (members.foldl change other) := by
  induction members generalizing other with
  | nil => exact before
  | cons mem members ih => exact ih (before.trans (changes other mem))

lemma setFlag (tile : Tile) (flag : TileFlag) : SameStack tile (tile.setFlag flag) :=
  rfl

lemma resetFlag (tile : Tile) (flag : TileFlag) : SameStack tile (tile.resetFlag flag) :=
  rfl

end SameStack

lemma addTileFlags_stack (item : TileItem) : SameStack tile (tile.addTileFlags items item) := by
  have floors :
      SameStack tile
        (if tile.hasFlag .FLOORCHANGE then tile
        else
          directions.foldl
            (fun tile direction =>
              tile.when (item.floorChange items direction) fun tile =>
                (tile.setFlag .FLOORCHANGE).setFlag (.floor direction))
            tile) := by
    split
    · exact .refl tile
    · exact SameStack.foldl _ (.refl tile) fun other direction =>
        (SameStack.refl other).when fun other =>
          (SameStack.setFlag other _).trans (SameStack.setFlag _ _)
  exact SameStack.foldl _
    ((floors.when fun other => .setFlag other _).when fun other => .setFlag other _)
    fun other property => (SameStack.refl other).when fun other => .setFlag other _

lemma removeTileFlags_stack (item : TileItem) :
  SameStack tile (tile.removeTileFlags items item) := by
  have floors :
      SameStack tile
        (directions.foldl
          (fun tile direction =>
            tile.when (item.floorChange items direction) fun tile =>
              (tile.resetFlag .FLOORCHANGE).resetFlag (.floor direction))
          tile) :=
    SameStack.foldl _ (.refl tile) fun other direction =>
      (SameStack.refl other).when fun other =>
        (SameStack.resetFlag other _).trans (SameStack.resetFlag _ _)
  exact SameStack.foldl _
    ((floors.when fun other => .resetFlag other _).when fun other => .resetFlag other _)
    fun other property => (SameStack.refl other).when fun other => .resetFlag other _

lemma updateTileFlags_stack (item : TileItem) (removing : Bool) :
  SameStack tile (tile.updateTileFlags items item removing) := by
  cases removing with
  | false => exact tile.addTileFlags_stack items item
  | true => exact tile.removeTileFlags_stack items item

lemma onUpdateTileItem_stack (oldItem newItem : TileItem) :
  SameStack tile (tile.onUpdateTileItem items oldItem newItem) :=
  (tile.updateTileFlags_stack items oldItem true).trans
    (updateTileFlags_stack items _ newItem false)

/-! ## Slots -/

inductive Slot where
  | ground
  | top (place : Nat)
  | down (place : Nat)
deriving DecidableEq

def itemAt : Slot → Option TileItem
  | .ground => tile.ground
  | .top place => tile.topItems[place]?
  | .down place => tile.downItems[place]?

def setSlot (slot : Slot) (item : TileItem) : Tile :=
  match slot with
  | .ground => { tile with ground := some item }
  | .top place => { tile with topItems := tile.topItems.set place item }
  | .down place => { tile with downItems := tile.downItems.set place item }

def indexOf (slot : Slot) : Nat :=
  let first := if tile.ground.isSome then 1 else 0
  match slot with
  | .ground => 0
  | .top place => first + place
  | .down place => first + tile.topItems.length + tile.creatures.length + place

def slotAt (index : Nat) : Option Slot :=
  if tile.ground.isSome ∧ index = 0 then some .ground
  else
    let pos := if tile.ground.isSome then index - 1 else index
    if pos < tile.topItems.length then some (.top pos)
    else
      let pos := pos - tile.topItems.length
      if pos < tile.creatures.length then none
      else
        let pos := pos - tile.creatures.length
        if pos < tile.downItems.length then some (.down pos) else none

lemma slotAt_indexOf (present : tile.itemAt slot = some item) :
  tile.slotAt (tile.indexOf slot) = some slot := by
  rcases slot with _ | place | place
  · have ground : tile.ground = some item := present
    simp [slotAt, indexOf, ground]
  · have within : place < tile.topItems.length := (List.getElem?_eq_some_iff.mp present).1
    cases ground : tile.ground <;> simp [slotAt, indexOf, ground, within]
  · have within : place < tile.downItems.length := (List.getElem?_eq_some_iff.mp present).1
    cases ground : tile.ground with
    | none =>
      simp only [slotAt, indexOf, ground, isSome_none, Bool.false_eq_true, false_and, if_false]
      rw [if_neg (by omega), if_neg (by omega), if_pos (by omega)]
      congr 2
      omega
    | some oldGround =>
      simp only [slotAt, indexOf, ground, isSome_some, if_true]
      rw [if_neg (by omega), if_neg (by omega), if_neg (by omega), if_pos (by omega)]
      congr 2
      omega

def above : List Thing :=
  tile.ground.toList.map .item ++ tile.topItems.map .item ++ tile.creatures.map .creature

lemma things_split : tile.things = tile.above ++ tile.downItems.map .item :=
  rfl

lemma indexOf_down (place : Nat) : tile.indexOf (.down place) = tile.above.length + place := by
  cases ground : tile.ground <;> simp [above, indexOf, ground, Nat.add_comm 1]
  omega

lemma things_indexOf (present : tile.itemAt slot = some item) :
  tile.things[tile.indexOf slot]? = some (.item item) := by
  rcases slot with _ | place | place
  · have ground : tile.ground = some item := present
    simp [things, indexOf, ground]
  · rcases List.getElem?_eq_some_iff.mp present with ⟨within, found⟩
    cases ground : tile.ground <;>
      simp [things, indexOf, ground, List.getElem?_append, within, found, Nat.add_comm 1]
  · have found : tile.downItems[place]? = some item := present
    rw [indexOf_down, things_split, List.getElem?_append_right (by omega),
      Nat.add_sub_cancel_left, List.getElem?_map, found]
    rfl

lemma things_setSlot (present : tile.itemAt slot = some old) (item : TileItem) :
  (tile.setSlot slot item).things = tile.things.set (tile.indexOf slot) (.item item) := by
  rcases slot with _ | place | place
  · have ground : tile.ground = some old := present
    simp [things, setSlot, indexOf, ground]
  · have within : place < tile.topItems.length := (List.getElem?_eq_some_iff.mp present).1
    cases ground : tile.ground <;>
      simp [things, setSlot, indexOf, ground, within, map_set, Nat.add_comm 1]
  · have same : (tile.setSlot (.down place) item).above = tile.above := rfl
    rw [indexOf_down, things_split, things_split, same,
      set_append_right _ _ (by omega), Nat.add_sub_cancel_left, setSlot, map_set]

lemma slot_of_mem (mem : item ∈ tile.itemList) : ∃ slot, tile.itemAt slot = some item := by
  rcases mem_append.mp mem with above | down
  · rcases mem_append.mp above with ground | top
    · exact ⟨.ground, mem_toList.mp ground⟩
    · rcases mem_iff_getElem?.mp top with ⟨place, found⟩
      exact ⟨.top place, found⟩
  · rcases mem_iff_getElem?.mp down with ⟨place, found⟩
    exact ⟨.down place, found⟩

lemma replaceThing_eq (index : Nat) (item : TileItem) :
  tile.replaceThing items index item =
    match tile.slotAt index with
    | none => tile
    | some slot =>
      match tile.itemAt slot with
      | none => tile
      | some oldItem => (tile.setSlot slot item).onUpdateTileItem items oldItem item := by
  have behind (pos : Nat) :
      replaceThing.go items tile item pos =
        match
            (if pos < tile.topItems.length then some (Slot.top pos)
            else if pos - tile.topItems.length < tile.creatures.length then none
            else if pos - tile.topItems.length - tile.creatures.length <
                tile.downItems.length then
              some (.down (pos - tile.topItems.length - tile.creatures.length))
            else none) with
        | none => tile
        | some slot =>
          match tile.itemAt slot with
          | none => tile
          | some oldItem =>
            (tile.setSlot slot item).onUpdateTileItem items oldItem item := by
    rw [replaceThing.go]
    by_cases top : pos < tile.topItems.length
    · rw [if_pos top, List.getElem?_eq_getElem top]
      simp only [itemAt, List.getElem?_eq_getElem top, Tile.setSlot]
    · rw [if_neg top, List.getElem?_eq_none (by omega)]
      dsimp only
      by_cases middle : pos - tile.topItems.length < tile.creatures.length
      · rw [if_pos middle, if_pos middle]
      · rw [if_neg middle, if_neg middle]
        by_cases down : pos - tile.topItems.length - tile.creatures.length < tile.downItems.length
        · rw [if_pos down, List.getElem?_eq_getElem down]
          simp only [itemAt, List.getElem?_eq_getElem down, Tile.setSlot]
        · rw [if_neg down, List.getElem?_eq_none (by omega)]
  rw [replaceThing]
  cases ground : tile.ground with
  | none =>
    dsimp only
    rw [behind, slotAt]
    simp [ground]
  | some oldGround =>
    dsimp only
    by_cases first : index = 0
    · simp [slotAt, ground, first, itemAt, Tile.setSlot]
    · rw [if_neg first, behind, slotAt]
      simp [ground, first]

lemma modifyItem_absent {tile : Tile} {number : Nat} (absent : tile.findItem number = none)
  (change : TileItem → TileItem) : tile.modifyItem number change = tile := by
  have other : ∀ item ∈ tile.itemList, item.number ≠ number := by
    simpa using List.find?_eq_none.mp absent
  have each (items : List TileItem) (within : items ⊆ tile.itemList) :
      (items.map fun item => if item.number = number then change item else item) = items :=
    (map_congr_left fun item mem => if_neg (other item (within mem))).trans (map_id _)
  have ground :
      (tile.ground.map fun item =>
        if item.number = number then change item else item) = tile.ground := by
    cases present : tile.ground with
    | none => rfl
    | some item => rw [map_some, if_neg (other item (by simp [itemList, present]))]
  have top := each tile.topItems (by intro item mem; simp [itemList, mem])
  have down := each tile.downItems (by intro item mem; simp [itemList, mem])
  simp only [modifyItem, ground, top, down]

/-! ## Numbers -/

def Numbered : Prop :=
  (tile.itemList.map TileItem.number).Nodup

def itemIndex (slot : Slot) : Nat :=
  match slot with
  | .ground => 0
  | .top place => tile.ground.toList.length + place
  | .down place => tile.ground.toList.length + tile.topItems.length + place

lemma itemList_itemIndex (present : tile.itemAt slot = some item) :
  tile.itemList[tile.itemIndex slot]? = some item := by
  rcases slot with _ | place | place
  · have ground : tile.ground = some item := present
    simp [itemList, itemIndex, ground]
  · have found : tile.topItems[place]? = some item := present
    have within := (List.getElem?_eq_some_iff.mp found).1
    rw [itemList, itemIndex, append_assoc, List.getElem?_append_right (by omega),
      Nat.add_sub_cancel_left, List.getElem?_append_left within, found]
  · have found : tile.downItems[place]? = some item := present
    rw [itemList, itemIndex, ← length_append, List.getElem?_append_right (by omega),
      Nat.add_sub_cancel_left, found]

namespace Numbered

variable {tile}

lemma slot_eq (numbered : tile.Numbered) {first second : Slot} {other : TileItem}
  (present : tile.itemAt first = some item) (found : tile.itemAt second = some other)
  (same : item.number = other.number) : first = second := by
  have one : (tile.itemList.map TileItem.number)[tile.itemIndex first]? = some item.number := by
    rw [List.getElem?_map, tile.itemList_itemIndex present]
    rfl
  have two : (tile.itemList.map TileItem.number)[tile.itemIndex second]? = some item.number := by
    rw [List.getElem?_map, tile.itemList_itemIndex found, same]
    rfl
  have within := (List.getElem?_eq_some_iff.mp one).1
  have index : tile.itemIndex first = tile.itemIndex second :=
    (List.getElem?_inj within numbered).mp (one.trans two.symm)
  have ground {item : TileItem} (present : tile.itemAt .ground = some item) :
      tile.ground.toList.length = 1 := by
    rw [show tile.ground = some item from present]
    rfl
  have top {place : Nat} {item : TileItem} (present : tile.itemAt (.top place) = some item) :
      place < tile.topItems.length :=
    (List.getElem?_eq_some_iff.mp present).1
  rcases first with _ | place | place <;> rcases second with _ | other | other <;>
    simp only [itemIndex] at index
  · rfl
  · have := ground present
    omega
  · have := ground present
    omega
  · have := ground found
    omega
  · congr 1
    omega
  · have := top present
    omega
  · have := ground found
    omega
  · have := top found
    omega
  · congr 1
    omega

lemma modifyItem_eq (numbered : tile.Numbered) (present : tile.itemAt slot = some item)
  (change : TileItem → TileItem) :
  tile.modifyItem item.number change = tile.setSlot slot (change item) := by
  -- only the item in the slot has the number
  have elsewhere
      (other : Slot)
      {member : TileItem}
      (found : tile.itemAt other = some member)
      (differs : other ≠ slot) :
      (if member.number = item.number then change member else member) = member :=
    if_neg fun same => differs (numbered.slot_eq found present same)
  have ground (differs : Slot.ground ≠ slot) :
      (tile.ground.map fun member =>
        if member.number = item.number then change member else member) = tile.ground := by
    cases found : tile.ground with
    | none => rfl
    | some member => rw [map_some, elsewhere .ground found differs]
  have top (differs : ∀ place, Slot.top place ≠ slot) :
      (tile.topItems.map fun member =>
        if member.number = item.number then change member else member) = tile.topItems := by
    refine map_congr_left ?_ |>.trans (map_id _)
    intro member within
    rcases mem_iff_getElem?.mp within with ⟨place, found⟩
    exact elsewhere (.top place) found (differs place)
  have down (differs : ∀ place, Slot.down place ≠ slot) :
      (tile.downItems.map fun member =>
        if member.number = item.number then change member else member) = tile.downItems := by
    refine map_congr_left ?_ |>.trans (map_id _)
    intro member within
    rcases mem_iff_getElem?.mp within with ⟨place, found⟩
    exact elsewhere (.down place) found (differs place)
  have set
      {members : List TileItem}
      {place : Nat}
      (found : members[place]? = some item)
      (rest : ∀ other member, members[other]? = some member → other ≠ place →
        (if member.number = item.number then change member else member) = member) :
      (members.map fun member =>
        if member.number = item.number then change member else member) =
        members.set place (change item) := by
    refine ext_getElem? ?_
    intro other
    rw [List.getElem?_map, List.getElem?_set]
    by_cases here : place = other
    · rw [if_pos here, ← here, found, if_pos (List.getElem?_eq_some_iff.mp found).1]
      simp
    · rw [if_neg here]
      cases other_found : members[other]? with
      | none => rfl
      | some member =>
        rw [map_some, rest other member other_found (Ne.symm here)]
  rcases slot with _ | place | place
  · have found : tile.ground = some item := present
    simp only [modifyItem, top nofun, down nofun, Tile.setSlot, found, map_some, if_true]
  · have found : tile.topItems[place]? = some item := present
    simp only [modifyItem, ground nofun, down nofun, Tile.setSlot]
    rw [set found fun other member within differs =>
      elsewhere (.top other) within (by simpa using differs)]
  · have found : tile.downItems[place]? = some item := present
    simp only [modifyItem, ground nofun, top nofun, Tile.setSlot]
    rw [set found fun other member within differs =>
      elsewhere (.down other) within (by simpa using differs)]

end Numbered

lemma setSlot_split (present : tile.itemAt slot = some old) :
  ∃ rest : List TileItem,
    List.Perm tile.itemList (old :: rest) ∧
      ∀ item, List.Perm (tile.setSlot slot item).itemList (item :: rest) := by
  rcases slot with _ | place | place
  · have ground : tile.ground = some old := present
    refine ⟨tile.topItems ++ tile.downItems, ?_, ?_⟩
    · simp [itemList, ground]
    · intro item
      simp [itemList, setSlot]
  · rcases List.getElem?_eq_some_iff.mp present with ⟨within, found⟩
    have split := take_append_drop place tile.topItems
    rw [drop_eq_getElem_cons within, found] at split
    refine
      ⟨tile.ground.toList ++ (tile.topItems.take place ++ tile.topItems.drop (place + 1)) ++
        tile.downItems, ?_, ?_⟩
    · rw [itemList]
      nth_rewrite 1 [← split]
      exact (perm_middle.append_left _ |>.trans perm_middle).append_right _
    · intro item
      simp only [itemList, setSlot]
      rw [set_eq_take_append_cons_drop, if_pos within]
      exact (perm_middle.append_left _ |>.trans perm_middle).append_right _
  · rcases List.getElem?_eq_some_iff.mp present with ⟨within, found⟩
    have split := take_append_drop place tile.downItems
    rw [drop_eq_getElem_cons within, found] at split
    refine
      ⟨tile.ground.toList ++ tile.topItems ++
        (tile.downItems.take place ++ tile.downItems.drop (place + 1)), ?_, ?_⟩
    · rw [itemList]
      nth_rewrite 1 [← split]
      exact perm_middle.append_left _ |>.trans perm_middle
    · intro item
      simp only [itemList, setSlot]
      rw [set_eq_take_append_cons_drop, if_pos within]
      exact perm_middle.append_left _ |>.trans perm_middle

lemma Numbered.eraseP_split {tile : Tile} (numbered : tile.Numbered)
  (mem : item ∈ tile.itemList) {members : List TileItem} (within : members ⊆ tile.itemList)
  (found : members.any fun other => other.number = item.number) :
  List.Perm members (item :: members.eraseP fun other => other.number = item.number) := by
  rcases any_eq_true.mp found with ⟨other, has, same⟩
  rcases exists_of_eraseP (p := fun other => decide (other.number = item.number)) has
      same with
    ⟨first, before, after, _, numberedSame, split, erased⟩
  have equal : first = item := by
    refine inj_on_of_nodup_map numbered (within ?_) mem (by simpa using numberedSame)
    rw [split]
    simp
  rw [erased, split, equal]
  exact perm_middle

end Tile

end OTServ.Tiles
