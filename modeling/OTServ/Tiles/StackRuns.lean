import OTServ.Items.Atomicity
import OTServ.Tiles.Stack

/-!
# Runs of the stack

What comes onto a tile is sorted in by its type, but an item that is updated or replaced
keeps its slot.  As long as every item that is put into a slot fits there, the stack is in
order after any operations and transformations.
-/

namespace OTServ.Tiles

open Items
open Library.GuardedRuns
open List

variable {other : Tile} {thing : Thing} {creature number index : Nat} {item : TileItem}
  {slot : Slot} {change : TileItem → TileItem}

namespace Tile

variable (items : TileItemTable) (tile : Tile)

/-- The things are counted, differ, and lie where their types belong. -/
structure Stacked : Prop where
  counted : tile.thingCount = tile.things.length
  distinct : tile.pointers.Nodup
  top : ∀ item ∈ tile.topItems, (item.type items).alwaysOnTop
  others : ∀ item ∈ tile.ground.toList ++ tile.downItems, ¬ (item.type items).alwaysOnTop
  sorted : tile.topItems.Pairwise fun old later => topOrder items old ≤ topOrder items later

namespace Stacked

variable {items tile}

lemma empty : Stacked items Tile.empty where
  counted := rfl
  distinct := nodup_nil
  top := by simp [Tile.empty]
  others := by simp [Tile.empty]
  sorted := List.Pairwise.nil

variable (stacked : Stacked items tile)
include stacked

lemma same (stack : SameStack tile other) : Stacked items other := by
  rw [stack]
  exact
    { counted := stacked.counted
      distinct := stacked.distinct
      top := stacked.top
      others := stacked.others
      sorted := stacked.sorted }

lemma update (item : TileItem) (removing : Bool) :
  Stacked items (tile.updateTileFlags items item removing) :=
  stacked.same (tile.updateTileFlags_stack items item removing)

lemma onUpdate (oldItem newItem : TileItem) :
  Stacked items (tile.onUpdateTileItem items oldItem newItem) :=
  stacked.same (tile.onUpdateTileItem_stack items oldItem newItem)

end Stacked

/-! ## Adding -/

def Absent (thing : Thing) : Prop :=
  thing.pointer ∉ tile.pointers

namespace Stacked

variable {items tile}

section

variable (stacked : Stacked items tile)
include stacked

lemma grown
  (other : Tile) (absent : tile.Absent thing) (counted : other.thingCount = tile.thingCount + 1)
  (things : List.Perm other.things (thing :: tile.things)) :
  other.thingCount = other.things.length ∧ other.pointers.Nodup := by
  constructor
  · rw [counted, stacked.counted, things.length_eq, length_cons]
  · apply (things.map Thing.pointer).nodup_iff.mpr
    exact nodup_cons.mpr ⟨absent, stacked.distinct⟩

lemma addCreature (absent : tile.Absent (.creature creature)) :
  Stacked items
    { tile with
      creatures := creature :: tile.creatures
      thingCount := tile.thingCount + 1 } := by
  let other : Tile :=
    { tile with
      creatures := creature :: tile.creatures
      thingCount := tile.thingCount + 1 }
  have things : List.Perm other.things (.creature creature :: tile.things) := by
    simp only [other, Tile.things, map_cons, append_assoc, cons_append]
    rw [← append_assoc, ← append_assoc]
    exact perm_middle
  rcases stacked.grown other absent rfl things with ⟨counted, distinct⟩
  exact { stacked with counted := counted, distinct := distinct }

lemma addGround (none : tile.ground = none) (absent : tile.Absent (.item item))
  (fits : ¬ (item.type items).alwaysOnTop) :
  Stacked items { tile with ground := some item, thingCount := tile.thingCount + 1 } := by
  let other : Tile := { tile with ground := some item, thingCount := tile.thingCount + 1 }
  have things : List.Perm other.things (.item item :: tile.things) := by
    simp [other, Tile.things, none]
  rcases stacked.grown other absent rfl things with ⟨counted, distinct⟩
  refine { stacked with counted := counted, distinct := distinct, others := ?_ }
  intro mem within
  rcases mem_append.mp within with ground | down
  · have same : mem = item := by simpa using ground
    rwa [same]
  · exact stacked.others mem (mem_append_right _ down)

lemma addDown (absent : tile.Absent (.item item)) (fits : ¬ (item.type items).alwaysOnTop) :
  Stacked items
    { tile with
      downItems := item :: tile.downItems
      thingCount := tile.thingCount + 1 } := by
  let other : Tile :=
    { tile with
      downItems := item :: tile.downItems
      thingCount := tile.thingCount + 1 }
  have things : List.Perm other.things (.item item :: tile.things) := perm_middle
  rcases stacked.grown other absent rfl things with ⟨counted, distinct⟩
  refine { stacked with counted := counted, distinct := distinct, others := ?_ }
  intro mem within
  rcases mem_append.mp within with ground | down
  · exact stacked.others mem (mem_append_left _ ground)
  · rcases mem_cons.mp down with rfl | down
    · exact fits
    · exact stacked.others mem (mem_append_right _ down)

end

lemma orderedInsert_sorted {α : Type} {order : α → Int} {before : α → α → Prop}
  [DecidableRel before] (below : ∀ new old, before new old → order new ≤ order old)
  (above : ∀ new old, ¬ before new old → order old ≤ order new) (item : α) {members : List α}
  (sorted : members.Pairwise fun old later => order old ≤ order later) :
  (members.orderedInsert before item).Pairwise fun old later => order old ≤ order later := by
  induction members with
  | nil => exact pairwise_singleton _ _
  | cons first members ih =>
    rcases pairwise_cons.mp sorted with ⟨least, rest⟩
    rw [List.orderedInsert]
    split
    · rename_i fits
      refine pairwise_cons.mpr ⟨?_, sorted⟩
      intro mem within
      rcases mem_cons.mp within with rfl | within
      · exact below item mem fits
      · exact (below item first fits).trans (least mem within)
    · rename_i passes
      refine pairwise_cons.mpr ⟨?_, ih rest⟩
      intro mem within
      rcases mem_cons.mp ((perm_orderedInsert before item members).subset within) with rfl | within
      · exact above mem first passes
      · exact least mem within

variable (stacked : Stacked items tile)
include stacked

lemma addTop (absent : tile.Absent (.item item)) (fits : (item.type items).alwaysOnTop)
  {topItems : List TileItem} (inserted : List.Perm topItems (item :: tile.topItems))
  (sorted : topItems.Pairwise fun old later => topOrder items old ≤ topOrder items later) :
  Stacked items { tile with topItems := topItems, thingCount := tile.thingCount + 1 } := by
  let other : Tile := { tile with topItems := topItems, thingCount := tile.thingCount + 1 }
  have things : List.Perm other.things (.item item :: tile.things) := by
    simp only [other, Tile.things, append_assoc]
    refine List.Perm.trans ?_ perm_middle
    exact ((inserted.map Thing.item).append_right _).append_left _
  rcases stacked.grown other absent rfl things with ⟨counted, distinct⟩
  refine
    { counted := counted
      distinct := distinct
      top := ?_
      others := stacked.others
      sorted := sorted }
  intro mem within
  rcases mem_cons.mp (inserted.subset within) with rfl | within
  · exact fits
  · exact stacked.top mem within

lemma insertTop_sorted (item : TileItem) :
  (insertTop items item tile.topItems).Pairwise
    fun old later => topOrder items old ≤ topOrder items later :=
  orderedInsert_sorted (fun _ _ below => below) (fun _ _ passes => by omega) item stacked.sorted

lemma internalInsertTop_sorted (item : TileItem) :
  (internalInsertTop items item tile.topItems).Pairwise
    fun old later => topOrder items old ≤ topOrder items later :=
  orderedInsert_sorted (fun _ _ below => by omega) (fun _ _ passes => by omega) item stacked.sorted

end Stacked

namespace Stacked

variable {items tile}

variable (stacked : Stacked items tile)
include stacked

lemma shrunk (other : Tile) (counted : other.thingCount = tile.thingCount - 1)
  (things : other.things.Sublist tile.things)
  (length : other.things.length = tile.things.length - 1) :
  other.thingCount = other.things.length ∧ other.pointers.Nodup := by
  constructor
  · rw [counted, stacked.counted, length]
  · exact stacked.distinct.sublist (things.map Thing.pointer)

lemma removeCreature (present : creature ∈ tile.creatures) :
  Stacked items
    { tile with
      creatures := tile.creatures.erase creature
      thingCount := tile.thingCount - 1 } := by
  let other : Tile :=
    { tile with
      creatures := tile.creatures.erase creature
      thingCount := tile.thingCount - 1 }
  have things : other.things.Sublist tile.things :=
    ((List.Sublist.refl _).append (erase_sublist.map _)).append (List.Sublist.refl _)
  have length : other.things.length = tile.things.length - 1 := by
    have positive := length_pos_of_mem present
    rw [things_length, things_length, length_erase_of_mem present]
    dsimp only [other]
    omega
  rcases stacked.shrunk other rfl things length with ⟨counted, distinct⟩
  exact { stacked with counted := counted, distinct := distinct }

lemma removeGround (present : tile.ground = some item) :
  Stacked items { tile with ground := none, thingCount := tile.thingCount - 1 } := by
  let other : Tile := { tile with ground := none, thingCount := tile.thingCount - 1 }
  have things : other.things.Sublist tile.things := by
    simp [other, Tile.things, present]
  have length : other.things.length = tile.things.length - 1 := by
    rw [things_length, things_length, present]
    simp [other]
    omega
  rcases stacked.shrunk other rfl things length with ⟨counted, distinct⟩
  refine { stacked with counted := counted, distinct := distinct, others := ?_ }
  intro mem down
  exact stacked.others mem (mem_append_right _ down)

lemma removeTop (present : tile.topItems.any fun other => other.number = number) :
  Stacked items
    { tile with
      topItems := tile.topItems.eraseP fun other => other.number = number
      thingCount := tile.thingCount - 1 } := by
  let other : Tile :=
    { tile with
      topItems := tile.topItems.eraseP fun other => other.number = number
      thingCount := tile.thingCount - 1 }
  have rest : other.topItems.Sublist tile.topItems := eraseP_sublist
  have things : other.things.Sublist tile.things :=
    (((List.Sublist.refl _).append (rest.map _)).append (List.Sublist.refl _)).append
      (List.Sublist.refl _)
  have length : other.things.length = tile.things.length - 1 := by
    rcases any_eq_true.mp present with ⟨item, mem, _⟩
    have positive := length_pos_of_mem mem
    rw [things_length, things_length, length_eraseP, if_pos present]
    dsimp only [other]
    omega
  rcases stacked.shrunk other rfl things length with ⟨counted, distinct⟩
  exact
    { counted := counted
      distinct := distinct
      top := fun mem within => stacked.top mem (rest.subset within)
      others := stacked.others
      sorted := stacked.sorted.sublist rest }

lemma removeDown (present : tile.downItems.any fun other => other.number = number) :
  Stacked items
    { tile with
      downItems := tile.downItems.eraseP fun other => other.number = number
      thingCount := tile.thingCount - 1 } := by
  let other : Tile :=
    { tile with
      downItems := tile.downItems.eraseP fun other => other.number = number
      thingCount := tile.thingCount - 1 }
  have rest : other.downItems.Sublist tile.downItems := eraseP_sublist
  have things : other.things.Sublist tile.things := (List.Sublist.refl _).append (rest.map _)
  have length : other.things.length = tile.things.length - 1 := by
    rcases any_eq_true.mp present with ⟨item, mem, _⟩
    have positive := length_pos_of_mem mem
    rw [things_length, things_length, length_eraseP, if_pos present]
    dsimp only [other]
    omega
  rcases stacked.shrunk other rfl things length with ⟨counted, distinct⟩
  refine { stacked with counted := counted, distinct := distinct, others := ?_ }
  intro mem within
  rcases mem_append.mp within with ground | down
  · exact stacked.others mem (mem_append_left _ ground)
  · exact stacked.others mem (mem_append_right _ (rest.subset down))

end Stacked

/-! ## Putting into a slot -/

/-- The item belongs into the slot, between the items that are there. -/
def FitsSlot (item : TileItem) : Slot → Prop
  | .ground => ¬ (item.type items).alwaysOnTop
  | .top place =>
    (item.type items).alwaysOnTop ∧
      (∀ below ∈ tile.topItems.take place, topOrder items below ≤ topOrder items item) ∧
      ∀ above ∈ tile.topItems.drop (place + 1), topOrder items item ≤ topOrder items above
  | .down _ => ¬ (item.type items).alwaysOnTop

instance (item : TileItem) (slot : Slot) : Decidable (tile.FitsSlot items item slot) := by
  cases slot <;> unfold FitsSlot <;> infer_instance

namespace Stacked

variable {items tile}

variable (stacked : Stacked items tile)
include stacked

lemma fitsSlot (present : tile.itemAt slot = some item) : tile.FitsSlot items item slot := by
  rcases slot with _ | place | place
  · have ground : tile.ground = some item := present
    exact stacked.others item (mem_append_left _ (by simp [ground]))
  · rcases List.getElem?_eq_some_iff.mp present with ⟨within, found⟩
    have split : tile.topItems.take place ++ item :: tile.topItems.drop (place + 1) =
        tile.topItems := by
      rw [← found, ← drop_eq_getElem_cons within, take_append_drop]
    have sorted := stacked.sorted
    rw [← split] at sorted
    rcases pairwise_append.mp sorted with ⟨_, later, across⟩
    exact
      ⟨stacked.top item (mem_of_getElem? present),
        fun below mem => across below mem item mem_cons_self,
        (pairwise_cons.mp later).1⟩
  · exact stacked.others item (mem_append_right _ (mem_of_getElem? present))

lemma setSlot
  {old : TileItem} (present : tile.itemAt slot = some old) (fits : tile.FitsSlot items item slot)
  (distinct : item.number = old.number ∨ tile.Absent (.item item)) :
  Stacked items (tile.setSlot slot item) := by
  have things := tile.things_setSlot present item
  have pointers :
      (tile.setSlot slot item).pointers =
        tile.pointers.set (tile.indexOf slot) (.item item.number) := by
    rw [Tile.pointers, things, map_set]
    rfl
  have counted : (tile.setSlot slot item).thingCount = (tile.setSlot slot item).things.length := by
    rw [things, length_set, ← stacked.counted]
    cases slot <;> rfl
  have differ : (tile.setSlot slot item).pointers.Nodup := by
    rw [pointers]
    rcases distinct with same | absent
    · have unchanged : tile.pointers[tile.indexOf slot]? = some (.item item.number) := by
        rw [Tile.pointers, List.getElem?_map, tile.things_indexOf present, same]
        rfl
      rcases List.getElem?_eq_some_iff.mp unchanged with ⟨within, found⟩
      rw [← found, set_getElem_self]
      exact stacked.distinct
    · exact stacked.distinct.set absent
  rcases slot with _ | place | place
  · refine
      { counted := counted
        distinct := differ
        top := stacked.top
        others := ?_
        sorted := stacked.sorted }
    intro mem within
    rcases mem_append.mp within with ground | down
    · have same : mem = item := by simpa [Tile.setSlot] using ground
      rw [same]
      exact fits
    · exact stacked.others mem (mem_append_right _ down)
  · rcases List.getElem?_eq_some_iff.mp present with ⟨within, found⟩
    rcases fits with ⟨onTop, below, above⟩
    refine
      { counted := counted
        distinct := differ
        top := ?_
        others := stacked.others
        sorted := ?_ }
    · intro mem set
      rcases mem_or_eq_of_mem_set set with old | rfl
      · exact stacked.top mem old
      · exact onTop
    · change (tile.topItems.set place item).Pairwise _
      rw [set_eq_take_append_cons_drop, if_pos within]
      have sorted := stacked.sorted
      have split : tile.topItems.take place ++ tile.topItems.drop place = tile.topItems :=
        take_append_drop place tile.topItems
      rw [← split, drop_eq_getElem_cons within] at sorted
      rcases pairwise_append.mp sorted with ⟨first, later, across⟩
      refine pairwise_append.mpr ⟨first, ?_, ?_⟩
      · exact pairwise_cons.mpr ⟨above, (pairwise_cons.mp later).2⟩
      · intro lower before higher after
        rcases mem_cons.mp after with rfl | after
        · exact below lower before
        · exact across lower before higher (mem_cons_of_mem _ after)
  · refine
      { counted := counted
        distinct := differ
        top := stacked.top
        others := ?_
        sorted := stacked.sorted }
    intro mem within
    rcases mem_append.mp within with ground | down
    · exact stacked.others mem (mem_append_left _ ground)
    · rcases mem_or_eq_of_mem_set down with old | rfl
      · exact stacked.others mem (mem_append_right _ old)
      · exact fits

lemma numbered : tile.Numbered := by
  have items : (tile.itemList.map fun item => ThingPointer.item item.number).Sublist
      tile.pointers := by
    simp only [itemList, pointers, things, map_append, map_map]
    rw [append_assoc, append_assoc, append_assoc]
    exact (List.Sublist.refl _).append ((List.Sublist.refl _).append (sublist_append_right _ _))
  have distinct : ((tile.itemList.map TileItem.number).map ThingPointer.item).Nodup := by
    rw [map_map]
    exact stacked.distinct.sublist items
  exact distinct.of_map

end Stacked

/-! ## Operations -/

lemma findItem_slot (found : tile.findItem number = some item) :
  item.number = number ∧ ∃ slot, tile.itemAt slot = some item := by
  constructor
  · simpa using List.find?_some found
  · exact tile.slot_of_mem (mem_of_find?_eq_some found)

lemma Stacked.getIndexOfThing_things {items : TileItemTable} {tile : Tile}
  (stacked : Stacked items tile) (present : tile.things[index]? = some thing) :
  tile.getIndexOfThing thing.pointer = index := by
  rw [getIndexOfThing_eq]
  have here : tile.pointers[index]? = some thing.pointer := by
    rw [pointers, List.getElem?_map, present]
    rfl
  cases search : tile.things.findIdx? fun other => other.pointer = thing.pointer with
  | none =>
    have missing := List.findIdx?_eq_none_iff.mp search thing (mem_of_getElem? present)
    simp at missing
  | some place =>
    rcases List.findIdx?_eq_some_iff_getElem.mp search with ⟨within, same, _⟩
    have there : tile.pointers[place]? = some thing.pointer := by
      rw [pointers, List.getElem?_map, List.getElem?_eq_getElem within]
      simpa using same
    have bound := (List.getElem?_eq_some_iff.mp there).1
    rw [(List.getElem?_inj bound stacked.distinct).mp (there.trans here.symm)]

lemma Stacked.slotAt_getIndexOfThing {items : TileItemTable} {tile : Tile}
  (stacked : Stacked items tile) (present : tile.itemAt slot = some item) :
  tile.slotAt (tile.getIndexOfThing (.item item.number)).toNat = some slot := by
  have index := stacked.getIndexOfThing_things (tile.things_indexOf present)
  rw [Thing.pointer] at index
  rw [index]
  exact tile.slotAt_indexOf present

/-- The item fits where the thing with the index lies, unless that is a creature. -/
def FitsAt (index : Nat) (item : TileItem) : Prop :=
  match tile.slotAt index with
  | some slot => tile.FitsSlot items item slot
  | none => True

instance (index : Nat) (item : TileItem) : Decidable (tile.FitsAt items index item) := by
  unfold FitsAt
  split <;> infer_instance

/-- The type of a new item is not that of a ground and always on top at once. -/
def Sensible : Thing → Prop
  | .item item => item.isGroundTile items → ¬ (item.type items).alwaysOnTop
  | .creature _ => True

instance (thing : Thing) : Decidable (Sensible items thing) := by
  cases thing <;> unfold Sensible <;> infer_instance

/--
What is added is not on the tile yet, and an item that is updated or replaced fits into
the slot which it gets.
-/
def Fits : Operation → Prop
  | .addThing thing => tile.Absent thing ∧ Sensible items thing
  | .internalAddThing thing => tile.Absent thing ∧ Sensible items thing
  | .updateThing number itemId count =>
    ∀ item ∈ tile.findItem number,
      tile.FitsAt items (tile.getIndexOfThing (.item number)).toNat
        (updated items item itemId count)
  | .replaceThing index item => tile.Absent (.item item) ∧ tile.FitsAt items index item
  | .removeThing _ _ => True
  | .setDefaultSubtype _ => True

instance (thing : Thing) : Decidable (tile.Absent thing) := by
  unfold Absent
  infer_instance

instance : (operation : Operation) → Decidable (tile.Fits items operation)
  | .addThing _ | .internalAddThing _ | .replaceThing .. => inferInstanceAs (Decidable (_ ∧ _))
  | .updateThing number .. =>
    inferInstanceAs (Decidable (∀ item ∈ tile.findItem number, tile.FitsAt items _ _))
  | .removeThing .. | .setDefaultSubtype _ => inferInstanceAs (Decidable True)

namespace Stacked

variable {items tile}

lemma modifyItem (stacked : Stacked items tile) (present : tile.itemAt slot = some item)
  (same : (change item).number = item.number) (fits : tile.FitsSlot items (change item) slot) :
  Stacked items (tile.modifyItem item.number change) := by
  rw [stacked.numbered.modifyItem_eq present]
  exact stacked.setSlot present fits (.inl same)

lemma fitsSlot_type (stacked : Stacked items tile) {other : TileItem}
  (present : tile.itemAt slot = some item) (same : other.id = item.id) :
  tile.FitsSlot items other slot := by
  have fits := stacked.fitsSlot present
  have type : other.type items = item.type items := by
    rw [TileItem.type, same, TileItem.type]
  have order : topOrder items other = topOrder items item := by
    rw [topOrder, type, topOrder]
  cases slot <;> simpa only [FitsSlot, type, order] using fits

lemma pointers_modifyItem
  (number : Nat) (kept : ∀ item, item.number = number → (change item).number = number) :
  (tile.modifyItem number change).pointers = tile.pointers := by
  have each (item : TileItem) :
      (Thing.item (if item.number = number then change item else item)).pointer =
        (Thing.item item).pointer := by
    split
    · rename_i same
      exact congrArg ThingPointer.item ((kept item same).trans same.symm)
    · rfl
  simp only [Tile.pointers, Tile.things, Tile.modifyItem, map_append, map_map]
  congr 1
  · congr 1
    congr 1
    · cases tile.ground with
      | none => rfl
      | some ground => exact congrArg (fun pointer => [pointer]) (each ground)
    · exact map_congr_left fun item _ => each item
  · exact map_congr_left fun item _ => each item

lemma removeItem (stacked : Stacked items tile) (number count : Nat) :
  Stacked items (tile.removeItem items number count) := by
  rw [Tile.removeItem]
  cases found : tile.findItem number with
  | none => exact stacked
  | some item =>
    rcases tile.findItem_slot found with ⟨numbered, slot, present⟩
    dsimp only
    split
    · rename_i ground
      cases isGround : tile.ground with
      | none => simp [isGround] at ground
      | some oldGround => exact (stacked.removeGround isGround).update item true
    · split
      · split
        · rename_i top
          exact (stacked.removeTop top).update item true
        · exact stacked
      · split
        · rename_i down
          split
          · refine Stacked.onUpdate ?_ _ _
            rw [← numbered]
            exact stacked.modifyItem present rfl (stacked.fitsSlot_type present rfl)
          · exact (stacked.removeDown down).update item true
        · exact stacked

lemma pointers_same (stack : SameStack tile other) : other.pointers = tile.pointers := by
  rw [stack]
  rfl

lemma pointers_removeItem (number count : Nat) :
  (tile.removeItem items number count).pointers ⊆ tile.pointers := by
  have update (other : Tile) (item : TileItem) (smaller : other.things.Sublist tile.things) :
      (other.updateTileFlags items item true).pointers ⊆ tile.pointers := by
    rw [pointers_same (other.updateTileFlags_stack items item true)]
    exact (smaller.map Thing.pointer).subset
  rw [Tile.removeItem]
  cases found : tile.findItem number with
  | none => exact List.Subset.refl _
  | some item =>
    rcases tile.findItem_slot found with ⟨numbered, _⟩
    dsimp only
    split
    · exact update _ item (by simp [Tile.things])
    · split
      · split
        · exact update _ item
            ((((List.Sublist.refl _).append (eraseP_sublist.map _)).append
              (List.Sublist.refl _)).append (List.Sublist.refl _))
        · exact List.Subset.refl _
      · split
        · split
          · rw [pointers_same (onUpdateTileItem_stack items _ _ _), pointers_modifyItem]
            · exact List.Subset.refl _
            · exact fun _ _ => numbered
          · exact update _ item ((List.Sublist.refl _).append (eraseP_sublist.map _))
        · exact List.Subset.refl _

lemma absent_removeItem (absent : tile.Absent thing) (number count : Nat) :
  (tile.removeItem items number count).Absent thing :=
  fun present => absent (pointers_removeItem number count present)

variable (stacked : Stacked items tile)
include stacked

lemma addItem (absent : tile.Absent (.item item)) (sensible : Sensible items (.item item)) :
  Stacked items (tile.addItem items item) := by
  have place
      {tile : Tile}
      (stacked : Stacked items tile)
      (absent : tile.Absent (.item item))
      (fits : ¬ (item.type items).alwaysOnTop) :
      Stacked items
        ({ tile with
          downItems := item :: tile.downItems
          thingCount := tile.thingCount + 1 }.updateTileFlags items item false) :=
    (stacked.addDown absent fits).update item false
  have placeTop
      {tile : Tile}
      (stacked : Stacked items tile)
      (absent : tile.Absent (.item item))
      (fits : (item.type items).alwaysOnTop) :
      Stacked items
        ({ tile with
          topItems := insertTop items item tile.topItems
          thingCount := tile.thingCount + 1 }.updateTileFlags items item false) :=
    (stacked.addTop absent fits (perm_orderedInsert _ item tile.topItems)
      (stacked.insertTop_sorted item)).update item false
  rw [Tile.addItem]
  split
  · rename_i isGround
    cases ground : tile.ground with
    | none => exact (stacked.addGround ground absent (sensible isGround)).update item false
    | some oldGround =>
      exact (stacked.setSlot (show tile.itemAt .ground = _ from ground) (sensible isGround)
        (.inr absent)).onUpdate oldGround item
  · split
    · rename_i onTop
      split
      · split
        · rename_i oldSplash _
          exact placeTop (stacked.removeItem oldSplash.number 1)
            (absent_removeItem absent oldSplash.number 1) onTop
        · exact placeTop stacked absent onTop
      · exact placeTop stacked absent onTop
    · rename_i down
      dsimp only
      split
      · split
        · rename_i oldField _
          split
          · exact place (stacked.removeItem oldField.number 1)
              (absent_removeItem absent oldField.number 1) down
          · exact stacked
        · exact place stacked absent down
      · exact place stacked absent down

lemma internalAddItem
  (absent : tile.Absent (.item item)) (sensible : Sensible items (.item item)) :
  Stacked items (tile.internalAddThing items (.item item)) := by
  refine Stacked.update ?_ item false
  split
  · rename_i isGround
    cases ground : tile.ground with
    | none => exact stacked.addGround ground absent (sensible isGround)
    | some oldGround => exact stacked
  · split
    · rename_i onTop
      exact stacked.addTop absent onTop (perm_orderedInsert _ item tile.topItems)
        (stacked.internalInsertTop_sorted item)
    · rename_i down
      exact stacked.addDown absent down

lemma updateThing
  {itemId count : Nat} (fits : tile.Fits items (.updateThing number itemId count)) :
  Stacked items (tile.updateThing items number itemId count) := by
  rw [Tile.updateThing]
  cases found : tile.findItem number with
  | none => exact stacked
  | some item =>
    rcases tile.findItem_slot found with ⟨numbered, slot, present⟩
    have fits := fits item found
    rw [← numbered, FitsAt, stacked.slotAt_getIndexOfThing present] at fits
    refine Stacked.onUpdate ?_ _ _
    have stack := tile.updateTileFlags_stack items item true
    have before := stacked.same stack
    have still : (tile.updateTileFlags items item true).itemAt slot = some item := by
      rw [stack]
      exact present
    have fitting :
        (tile.updateTileFlags items item true).FitsSlot items
          (Tile.updated items item itemId count) slot := by
      rw [stack]
      exact fits
    rw [← numbered]
    exact before.modifyItem still rfl fitting

lemma replaceThing (fits : tile.Fits items (.replaceThing index item)) :
  Stacked items (tile.replaceThing items index item) := by
  rw [replaceThing_eq]
  rcases fits with ⟨absent, fits⟩
  rw [FitsAt] at fits
  cases slot_found : tile.slotAt index with
  | none => exact stacked
  | some slot =>
    rw [slot_found] at fits
    dsimp only at fits ⊢
    cases present : tile.itemAt slot with
    | none => exact stacked
    | some oldItem =>
      exact (stacked.setSlot present fits (.inr absent)).onUpdate oldItem item

lemma setDefaultSubtype
  (number : Nat) : Stacked items (tile.setDefaultSubtype items number) := by
  rw [Tile.setDefaultSubtype]
  cases found : tile.findItem number with
  | none =>
    rw [modifyItem_absent found]
    exact stacked
  | some item =>
    rcases tile.findItem_slot found with ⟨numbered, slot, present⟩
    rw [← numbered]
    exact stacked.modifyItem present rfl (stacked.fitsSlot_type present rfl)

lemma operate {operation : Operation} (fits : tile.Fits items operation) :
  Stacked items (tile.operate items operation) := by
  cases operation with
  | addThing thing =>
    cases thing with
    | item item => exact stacked.addItem fits.1 fits.2
    | creature creature => exact stacked.addCreature fits.1
  | internalAddThing thing =>
    cases thing with
    | item item => exact stacked.internalAddItem fits.1 fits.2
    | creature creature => exact stacked.addCreature fits.1
  | updateThing number itemId count => exact stacked.updateThing fits
  | replaceThing index item => exact stacked.replaceThing fits
  | removeThing pointer count =>
    cases pointer with
    | item number => exact stacked.removeItem number count
    | creature creature =>
      change Stacked items (if _ then _ else _)
      split
      · rename_i present
        exact stacked.removeCreature present
      · exact stacked
  | setDefaultSubtype number => exact stacked.setDefaultSubtype number

end Stacked

structure InOrder : Prop where
  counted :
    tile.thingCount =
      (if tile.ground.isSome then 1 else 0) + tile.topItems.length +
        tile.creatures.length + tile.downItems.length
  listed : ∀ index, tile.getThing index = tile.things[index]?
  indexed :
    ∀ index < tile.thingCount, ∃ thing,
      tile.getThing index = some thing ∧ tile.getIndexOfThing thing.pointer = index
  found :
    ∀ thing ∈ tile.things, ∃ index < tile.thingCount,
      tile.getIndexOfThing thing.pointer = index ∧ tile.getThing index = some thing
  onTop : ∀ item ∈ tile.itemList, item ∈ tile.topItems ↔ (item.type items).alwaysOnTop
  sorted : tile.topItems.Pairwise fun old later => topOrder items old ≤ topOrder items later

lemma Stacked.inOrder {items : TileItemTable} {tile : Tile} (stacked : Stacked items tile) :
  InOrder items tile where
  counted := by rw [stacked.counted, things_length]
  listed := tile.getThing_eq
  indexed := by
    intro index within
    rw [stacked.counted] at within
    refine ⟨tile.things[index], ?_, ?_⟩
    · rw [getThing_eq, List.getElem?_eq_getElem within]
    · exact stacked.getIndexOfThing_things (List.getElem?_eq_getElem within)
  found := by
    intro thing mem
    rcases mem_iff_getElem?.mp mem with ⟨index, present⟩
    refine ⟨index, ?_, stacked.getIndexOfThing_things present, ?_⟩
    · rw [stacked.counted]
      exact (List.getElem?_eq_some_iff.mp present).1
    · rw [getThing_eq, present]
  onTop := by
    intro item mem
    constructor
    · exact stacked.top item
    · intro alwaysOnTop
      rcases mem_append.mp mem with before | down
      · rcases mem_append.mp before with ground | top
        · exact absurd alwaysOnTop (stacked.others item (mem_append_left _ ground))
        · exact top
      · exact absurd alwaysOnTop (stacked.others item (mem_append_right _ down))
  sorted := stacked.sorted

def FitsEvent (event : Event) : Prop :=
  Allowed (operate items) (Fits items) tile (tile.operations items event)

instance (event : Event) : Decidable (tile.FitsEvent items event) := by
  unfold FitsEvent
  infer_instance

lemma Stacked.operations {items : TileItemTable} {tile : Tile} (stacked : Stacked items tile)
  {operations : List Operation}
  (allowed : Allowed (Tile.operate items) (Tile.Fits items) tile operations) :
  Stacked items (operations.foldl (Tile.operate items) tile) := by
  induction operations generalizing tile with
  | nil => exact stacked
  | cons operation operations ih =>
    exact ih (stacked.operate allowed.1) allowed.2

/-- As long as everything fits, the stack is in order. -/
theorem inOrder_of_fits {tile : Tile}
  (run :
    Reaches (fun tile event next => next = tile.step items event)
      (FitsEvent items) Tile.empty tile) : InOrder items tile := by
  have stacked : Stacked items tile := by
    refine run.invariant Stacked.empty ?_
    rintro tile event next stacked fits rfl
    exact stacked.operations fits
  exact stacked.inOrder

def borderTypes : TileItemTable := fun id =>
  { plainType with
    alwaysOnTop := true
    alwaysOnTopOrder := id
    blockPathFind := false
    decayTo := -1 }

def border (number id : Nat) : TileItem where
  toMatter := World.newMatter (itemTable borderTypes) id 0
  number := number
  uniqueId := 0

def openScene : Scene where
  canTransform := true
  removable := true
  newNumber := 8
  restNumber := 9
  accepted := true
  toItem := none

/-- A border of order one and one of order two, one of which becomes one of order three. -/
def bordered (number : Nat) : List Event :=
  [.operation (.addThing (.item (border 1 1))),
    .operation (.addThing (.item (border 2 2))),
    .transformItem openScene number 3 none]

theorem inOrder_bordered :
  InOrder borderTypes ((bordered 2).foldl (step borderTypes) Tile.empty) := by
  have allowed : Allowed (step borderTypes) (FitsEvent borderTypes) Tile.empty (bordered 2) := by
    decide +kernel
  exact inOrder_of_fits borderTypes (Reaches.refl.of_allowed (bordered 2) allowed)

/-- The lower border becomes the one of order three, and stays below. -/
theorem lowerBorder_unsorted :
  ∃ tile,
    Reaches (fun tile event next => next = tile.step borderTypes event)
      Always Tile.empty tile ∧
      ¬ InOrder borderTypes tile := by
  refine ⟨_, Reaches.of_list Tile.empty (bordered 1), ?_⟩
  intro inOrder
  have unsorted :
      ¬ ((bordered 1).foldl (step borderTypes) Tile.empty).topItems.Pairwise
        fun old later => topOrder borderTypes old ≤ topOrder borderTypes later := by
    decide +kernel
  exact unsorted inOrder.sorted

end Tile

end OTServ.Tiles
