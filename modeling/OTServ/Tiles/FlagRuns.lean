import OTServ.Items.Atomicity
import OTServ.Tiles.Flags

/-!
# Runs of the flags

The flags of a tile say what its items have, as long as no item takes a flag away that
another item needs, and no item brings what is never set.
-/

namespace OTServ.Tiles

open Items
open Library.GuardedRuns
open List

variable {item old new : TileItem} {other : Tile} {rest : List TileItem} {count : Nat}

section

variable (items : TileItemTable)

lemma present_cons (item : TileItem) (rest : List TileItem) :
  present items (item :: rest) = joined (present items rest) (item.carries items) := by
  funext flag
  rw [present, any_cons, Bool.or_comm, joined, present]

variable {items}

lemma present_perm {members others : List TileItem} (same : List.Perm members others) :
  present items members = present items others := by
  funext flag
  rw [present, present, Bool.eq_iff_iff, any_eq_true, any_eq_true]
  constructor
  · rintro ⟨item, mem, has⟩
    exact ⟨item, same.subset mem, has⟩
  · rintro ⟨item, mem, has⟩
    exact ⟨item, same.symm.subset mem, has⟩

lemma carries_same {other : TileItem} (id : other.id = item.id)
  (itemClass : other.itemClass = item.itemClass) (uniqueId : other.uniqueId = item.uniqueId) :
  other.carries items = item.carries items := by
  have type : other.type items = item.type items := by
    rw [TileItem.type, id, TileItem.type]
  have floors : other.floorChange items = item.floorChange items := by
    funext direction
    cases direction <;> simp only [TileItem.floorChange, type]
  have properties : other.hasProperty items = item.hasProperty items := by
    funext property
    cases property <;>
      simp only [TileItem.hasProperty, TileItem.isMagicField, TileItem.isImmovable, type, uniqueId]
  funext flag
  cases flag <;>
    simp only [TileItem.carries, floors, properties, TileItem.getTeleport,
      TileItem.getMagicField, itemClass]

lemma carries_coherent (item : TileItem) : Coherent (item.carries items) := by
  intro direction has
  exact any_eq_true.mpr ⟨direction, mem_directions direction, has⟩

end

namespace Tile

variable (items : TileItemTable) (tile : Tile)

def others (number : Nat) : List TileItem :=
  tile.itemList.filter fun item => item.number ≠ number

lemma hasProperty_others (exclude : Nat) (property : ItemProperty) :
  tile.hasProperty items exclude property =
    present items (tile.others exclude) (.property property) := by
  simp only [hasProperty, present, others, itemList, filter_append, any_append, any_filter]
  congr 1
  congr 1
  cases tile.ground with
  | none => rfl
  | some ground =>
    simp only [Option.any_some, Option.toList_some, any_cons, any_nil, Bool.or_false]
    congr 1
    exact decide_eq_decide.mpr ne_comm

def Fresh (item : TileItem) : Prop :=
  ∀ other ∈ tile.itemList, other.number ≠ item.number

instance (item : TileItem) : Decidable (tile.Fresh item) := by
  unfold Fresh
  infer_instance

section

variable {tile}

lemma others_split (numbered : tile.Numbered) (split : List.Perm tile.itemList (item :: rest)) :
  List.Perm (tile.others item.number) rest := by
  have differ : ((item :: rest).map TileItem.number).Nodup :=
    (split.map TileItem.number).nodup_iff.mp numbered
  have alone : ∀ other ∈ rest, other.number ≠ item.number := by
    intro other mem same
    refine (nodup_cons.mp differ).1 ?_
    rw [← same]
    exact mem_map_of_mem mem
  have kept := split.filter fun other => decide (other.number ≠ item.number)
  have all : (rest.filter fun other => decide (other.number ≠ item.number)) = rest :=
    filter_eq_self.mpr (by simpa using alone)
  rw [filter_cons_of_neg (by simp), all] at kept
  exact kept

lemma others_fresh (fresh : tile.Fresh item) : tile.others item.number = tile.itemList :=
  filter_eq_self.mpr (by simpa [Fresh] using fresh)

end

/-! ## The invariant -/

structure Flagged : Prop where
  numbered : tile.Numbered
  agrees : tile.m_flags = present items tile.itemList
  movable : Movable (present items tile.itemList)

namespace Flagged

variable {items tile}

lemma empty : Flagged items Tile.empty where
  numbered := nodup_nil
  agrees := rfl
  movable := Bool.false_ne_true

lemma changed (item : TileItem) (rest : List TileItem)
  (numbered : ((item :: rest).map TileItem.number).Nodup)
  (contents : List.Perm other.itemList (item :: rest))
  (flags : other.m_flags = joined (present items rest) (item.carries items))
  (movable : Movable (joined (present items rest) (item.carries items))) :
  Flagged items other := by
  have same : present items other.itemList = joined (present items rest) (item.carries items) := by
    rw [present_perm contents, present_cons]
  exact
    { numbered := (contents.map TileItem.number).nodup_iff.mpr numbered
      agrees := by rw [flags, same]
      movable := by rwa [same] }

lemma movable_joined {rest own : TileFlag → Bool} (before : Movable rest) (new : Movable own) :
  Movable (joined rest own) := by
  simp only [Movable, joined, Bool.or_eq_true] at before new ⊢
  exact fun either => either.elim before new

lemma movable_left {rest own : TileFlag → Bool} (both : Movable (joined rest own)) :
  Movable rest ∧ Movable own := by
  simp only [Movable, joined, Bool.or_eq_true, not_or] at both ⊢
  exact both

variable (flagged : Flagged items tile)
include flagged

lemma comes (fresh : tile.Fresh item)
  (sets : SetsFit (fun _ => false) (item.carries items) (present items tile.itemList))
  (movable : Movable (item.carries items)) (other : Tile)
  (contents : List.Perm other.itemList (item :: tile.itemList))
  (flags : other.m_flags = tile.m_flags) :
  Flagged items (other.updateTileFlags items item false) := by
  refine changed item tile.itemList ?_ ?_ ?_ (movable_joined flagged.movable movable)
  · refine nodup_cons.mpr ⟨?_, flagged.numbered⟩
    intro mem
    rcases mem_map.mp mem with ⟨old, within, same⟩
    exact fresh old within same
  · rw [other.updateTileFlags_stack items item false]
    exact contents
  · change (other.addTileFlags items item).m_flags = _
    rw [m_flags_addTileFlags, flags, flagged.agrees]
    exact addFlags_rest sets movable

lemma goes
  (resets :
    ResetsFit (item.carries items) (fun _ => false) (present items (tile.others item.number)))
  (other : Tile) (contents : List.Perm tile.itemList (item :: other.itemList))
  (flags : other.m_flags = tile.m_flags) :
  Flagged items (other.updateTileFlags items item true) := by
  have rest : present items (tile.others item.number) = present items other.itemList :=
    present_perm (others_split flagged.numbered contents)
  rw [rest] at resets
  have numbered := (contents.map TileItem.number).nodup_iff.mp flagged.numbered
  rcases nodup_cons.mp numbered with ⟨gone, numbered⟩
  have all : present items tile.itemList =
      joined (present items other.itemList) (item.carries items) := by
    rw [present_perm contents, present_cons]
  have stack := other.updateTileFlags_stack items item true
  have same : (other.updateTileFlags items item true).itemList = other.itemList := by
    rw [stack]
    rfl
  have fresh : other.Fresh item := by
    intro mem within equal
    refine gone ?_
    rw [← equal]
    exact mem_map_of_mem within
  have movable := flagged.movable
  rw [all] at movable
  refine ⟨?_, ?_, ?_⟩
  · rw [Numbered, same]
    exact numbered
  · rw [same]
    change (other.removeTileFlags items item).m_flags = _
    rw [m_flags_removeTileFlags items other item (present items other.itemList), flags,
      flagged.agrees, all]
    · exact removeFlags_rest resets
    · intro property
      rw [hasProperty_others, others_fresh fresh]
  · rw [same]
    exact (movable_left movable).1

lemma split_off (before : List.Perm tile.itemList (old :: rest)) :
  tile.m_flags = joined (present items rest) (old.carries items) ∧
    Movable (present items rest) ∧ Movable (old.carries items) ∧
      present items (tile.others old.number) = present items rest := by
  have all : present items tile.itemList =
      joined (present items rest) (old.carries items) := by
    rw [present_perm before, present_cons]
  have movable := flagged.movable
  rw [all] at movable
  exact
    ⟨flagged.agrees.trans all, (movable_left movable).1, (movable_left movable).2,
      present_perm (others_split flagged.numbered before)⟩

/-- A new object takes the place of an old one. -/
lemma replaced (fresh : tile.Fresh new)
  (resets :
    ResetsFit (old.carries items) (new.carries items) (present items (tile.others old.number)))
  (sets :
    SetsFit (old.carries items) (new.carries items) (present items (tile.others old.number)))
  (movable : Movable (new.carries items)) (other : Tile)
  (before : List.Perm tile.itemList (old :: rest))
  (contents : List.Perm other.itemList (new :: rest)) (flags : other.m_flags = tile.m_flags) :
  Flagged items (other.onUpdateTileItem items old new) := by
  rcases flagged.split_off before with ⟨agrees, restMovable, _, scanned⟩
  rw [scanned] at resets sets
  have numbered := (before.map TileItem.number).nodup_iff.mp flagged.numbered
  rcases nodup_cons.mp numbered with ⟨gone, alone⟩
  have differs : ∀ mem ∈ new :: rest, mem.number ≠ old.number := by
    intro mem within same
    rcases mem_cons.mp within with rfl | within
    · exact fresh old (before.symm.subset mem_cons_self) same.symm
    · refine gone ?_
      rw [← same]
      exact mem_map_of_mem within
  refine changed new rest ?_ ?_ ?_ (movable_joined restMovable movable)
  · refine nodup_cons.mpr ⟨?_, alone⟩
    intro mem
    rcases mem_map.mp mem with ⟨other, within, same⟩
    exact fresh other (before.symm.subset (mem_cons_of_mem _ within)) same
  · rw [other.onUpdateTileItem_stack items old new]
    exact contents
  · change ((other.removeTileFlags items old).addTileFlags items new).m_flags = _
    rw [m_flags_addTileFlags,
      m_flags_removeTileFlags items other old
        (joined (present items rest) (new.carries items)), flags, agrees]
    · exact replaceFlags_rest (carries_coherent old) resets sets movable
    · intro property
      rw [hasProperty_others, others_fresh, present_perm contents, present_cons]
      intro mem within
      exact differs mem (contents.subset within)

lemma kept (number : new.number = old.number) (same : new.carries items = old.carries items)
  (other : Tile) (before : List.Perm tile.itemList (old :: rest))
  (contents : List.Perm other.itemList (new :: rest)) (flags : other.m_flags = tile.m_flags) :
  Flagged items other ∧ Flagged items (other.onUpdateTileItem items new new) := by
  rcases flagged.split_off before with ⟨agrees, restMovable, ownMovable, _⟩
  have numbered : ((new :: rest).map TileItem.number).Nodup := by
    rw [map_cons, number]
    exact (before.map TileItem.number).nodup_iff.mp flagged.numbered
  have movable : Movable (joined (present items rest) (new.carries items)) := by
    rw [same]
    exact movable_joined restMovable ownMovable
  have unchanged : Flagged items other := by
    refine changed new rest numbered contents ?_ movable
    rw [flags, agrees, same]
  refine ⟨unchanged, changed new rest numbered ?_ ?_ movable⟩
  · rw [other.onUpdateTileItem_stack items new new]
    exact contents
  · change ((other.removeTileFlags items new).addTileFlags items new).m_flags = _
    rw [m_flags_addTileFlags,
      m_flags_removeTileFlags items other new (present items rest), flags, agrees, ← same]
    · refine sameFlags_rest (carries_coherent new) ?_
      rw [same]
      exact ownMovable
    · intro property
      rw [hasProperty_others, present_perm (others_split unchanged.numbered contents)]

/-- An object becomes another one, and is removed as both before it is added. -/
lemma updated (number : new.number = old.number)
  (resets :
    ResetsFit (old.carries items) (new.carries items) (present items (tile.others old.number)))
  (movable : Movable (new.carries items)) (other : Tile)
  (before : List.Perm tile.itemList (old :: rest))
  (contents : List.Perm other.itemList (new :: rest))
  (flags : other.m_flags = (tile.updateTileFlags items old true).m_flags) :
  Flagged items (other.onUpdateTileItem items new new) := by
  rcases flagged.split_off before with ⟨agrees, restMovable, _, scanned⟩
  rw [scanned] at resets
  have numbered : ((new :: rest).map TileItem.number).Nodup := by
    rw [map_cons, number]
    exact (before.map TileItem.number).nodup_iff.mp flagged.numbered
  have otherNumbered : other.Numbered := (contents.map TileItem.number).nodup_iff.mpr numbered
  have removed : other.m_flags =
      removeFlags (old.carries items) (present items rest)
        (joined (present items rest) (old.carries items)) := by
    rw [flags, ← agrees]
    refine m_flags_removeTileFlags items tile old (present items rest) ?_
    intro property
    rw [hasProperty_others, scanned]
  refine changed new rest numbered ?_ ?_ (movable_joined restMovable movable)
  · rw [other.onUpdateTileItem_stack items new new]
    exact contents
  · change ((other.removeTileFlags items new).addTileFlags items new).m_flags = _
    rw [m_flags_addTileFlags,
      m_flags_removeTileFlags items other new (present items rest), removed]
    · exact updateFlags_rest (carries_coherent new) resets movable
    · intro property
      rw [hasProperty_others, present_perm (others_split otherNumbered contents)]

end Flagged

/-! ## Removing -/

instance (old new rest : TileFlag → Bool) : Decidable (ResetsFit old new rest) := by
  unfold ResetsFit
  infer_instance

instance (old new rest : TileFlag → Bool) : Decidable (SetsFit old new rest) := by
  unfold SetsFit
  infer_instance

instance (new : TileFlag → Bool) : Decidable (Movable new) := by
  unfold Movable
  infer_instance

def takesOff (number count : Nat) : Bool :=
  match tile.findItem number with
  | none => false
  | some item =>
    if tile.ground.any fun ground => ground.number = number then true
    else if (item.type items).alwaysOnTop then
      tile.topItems.any fun other => other.number = number
    else
      (tile.downItems.any fun other => other.number = number) &&
        !((item.type items).stackable && decide (count ≠ item.count))

def staying (number count : Nat) : List TileItem :=
  if tile.takesOff items number count then tile.others number else tile.itemList

/-- An item that is taken off takes no flag of the others with it. -/
def RemoveFits (number count : Nat) : Prop :=
  ∀ item ∈ tile.findItem number, tile.takesOff items number count →
    ResetsFit (item.carries items) (fun _ => false) (present items (tile.others number))

namespace Flagged

variable {items tile}

lemma fresh_of_subset (fresh : tile.Fresh item)
  (numbers : other.itemList.map TileItem.number ⊆ tile.itemList.map TileItem.number) :
  other.Fresh item := by
  intro mem within same
  rcases mem_map.mp (numbers (mem_map_of_mem within)) with ⟨old, oldWithin, equal⟩
  exact fresh old oldWithin (equal.trans same)

lemma takenOff (flagged : Flagged items tile) (found : tile.findItem item.number = some item)
  (takes : tile.takesOff items item.number count)
  (fits : tile.RemoveFits items item.number count) (other : Tile)
  (contents : List.Perm tile.itemList (item :: other.itemList))
  (flags : other.m_flags = tile.m_flags) :
  Flagged items (other.updateTileFlags items item true) ∧
    present items (other.updateTileFlags items item true).itemList =
      present items (tile.staying items item.number count) ∧
      (other.updateTileFlags items item true).itemList.map TileItem.number ⊆
        tile.itemList.map TileItem.number := by
  have same : (other.updateTileFlags items item true).itemList = other.itemList := by
    rw [other.updateTileFlags_stack items item true]
    rfl
  refine ⟨flagged.goes (fits item found takes) other contents flags, ?_, ?_⟩
  · rw [same, staying, if_pos takes]
    exact (present_perm (others_split flagged.numbered contents)).symm
  · rw [same]
    exact map_subset _
      (List.Subset.trans (subset_cons_self item other.itemList) contents.symm.subset)

lemma removeItem
  (flagged : Flagged items tile) {number : Nat} (fits : tile.RemoveFits items number count) :
  Flagged items (tile.removeItem items number count) ∧
    present items (tile.removeItem items number count).itemList =
      present items (tile.staying items number count) ∧
      (tile.removeItem items number count).itemList.map TileItem.number ⊆
        tile.itemList.map TileItem.number := by
  have unchanged (takes : tile.takesOff items number count = false) :
      Flagged items tile ∧
        present items tile.itemList = present items (tile.staying items number count) ∧
          tile.itemList.map TileItem.number ⊆ tile.itemList.map TileItem.number := by
    rw [staying, takes]
    exact ⟨flagged, rfl, List.Subset.refl _⟩
  cases found : tile.findItem number with
  | none =>
    have takes : tile.takesOff items number count = false := by
      rw [takesOff, found]
    rw [Tile.removeItem, found]
    exact unchanged takes
  | some item =>
    have member := mem_of_find?_eq_some found
    have numbered : item.number = number := by simpa using List.find?_some found
    subst numbered
    rw [Tile.removeItem, found]
    dsimp only
    split
    · rename_i onGround
      cases isGround : tile.ground with
      | none => simp [isGround] at onGround
      | some ground =>
        have same : ground = item := by
          refine inj_on_of_nodup_map flagged.numbered ?_ member
            (by simpa [isGround] using onGround)
          simp [itemList, isGround]
        refine flagged.takenOff found ?_ fits _ ?_ rfl
        · rw [takesOff, found]
          simp [onGround]
        · simp [itemList, isGround, same]
    · rename_i offGround
      split
      · rename_i alwaysOnTop
        split
        · rename_i onTop
          refine flagged.takenOff found ?_ fits _ ?_ rfl
          · rw [takesOff, found]
            simp only [offGround, alwaysOnTop, onTop, if_true, if_false, Bool.false_eq_true]
          · have split := flagged.numbered.eraseP_split member
              (fun other within => by simp [itemList, within]) onTop
            exact (split.append_left _ |>.trans perm_middle).append_right _
        · rename_i notTop
          refine unchanged ?_
          rw [takesOff, found]
          simp only [offGround, alwaysOnTop, if_true, if_false, Bool.false_eq_true]
          exact Bool.eq_false_iff.mpr notTop
      · rename_i notOnTop
        split
        · rename_i down
          split
          · rename_i partly
            rcases tile.slot_of_mem member with ⟨slot, here⟩
            rcases tile.setSlot_split here with ⟨rest, before, after⟩
            let less : TileItem :=
              { item with
                toMatter := item.toMatter.setItemCount (lowered item.count count) }
            have same : less.carries items = item.carries items := carries_same rfl rfl rfl
            have modified := flagged.numbered.modifyItem_eq here fun _ => less
            have takes : tile.takesOff items item.number count = false := by
              rw [takesOff, found]
              simp only [offGround, notOnTop, partly, if_false, Bool.false_eq_true,
                Bool.not_true, Bool.and_false]
            have list :
                ((tile.modifyItem item.number fun _ => less).onUpdateTileItem items less
                  less).itemList = (tile.setSlot slot less).itemList := by
              rw [modified, onUpdateTileItem_stack items _ less less]
              rfl
            refine ⟨?_, ?_, ?_⟩
            · rw [modified]
              have number : less.number = item.number := rfl
              refine (flagged.kept number same _ before (after less) ?_).2
              cases slot <;> rfl
            · rw [list, staying, takes, present_perm (after less), present_cons, same,
                ← present_cons, ← present_perm before]
              rfl
            · rw [list]
              refine List.Subset.trans ((after less).map TileItem.number).subset ?_
              exact (before.map TileItem.number).symm.subset
          · rename_i wholly
            refine flagged.takenOff found ?_ fits _ ?_ rfl
            · rw [takesOff, found]
              simp only [offGround, notOnTop, down, if_false, Bool.false_eq_true,
                Bool.eq_false_iff.mpr wholly, Bool.not_false, Bool.and_true]
            · have split := flagged.numbered.eraseP_split member
                (fun other within => by simp [itemList, within]) down
              exact split.append_left _ |>.trans perm_middle
        · rename_i notDown
          refine unchanged ?_
          rw [takesOff, found]
          simp only [offGround, notOnTop, if_false, Bool.false_eq_true,
            Bool.eq_false_iff.mpr notDown, Bool.false_and]

end Flagged

def ComesFit (item : TileItem) (rest : List TileItem) : Prop :=
  SetsFit (fun _ => false) (item.carries items) (present items rest) ∧ Movable (item.carries items)

def ReplacesFit (old new : TileItem) : Prop :=
  ResetsFit (old.carries items) (new.carries items) (present items (tile.others old.number)) ∧
    SetsFit (old.carries items) (new.carries items) (present items (tile.others old.number)) ∧
      Movable (new.carries items)

/-- An item comes after another one that goes, if there is one. -/
def ComesAfterFit (old : Option TileItem) (item : TileItem) : Prop :=
  match old with
  | some old =>
    tile.RemoveFits items old.number 1 ∧ ComesFit items item (tile.staying items old.number 1)
  | none => ComesFit items item tile.itemList

def AddFits (item : TileItem) : Prop :=
  if item.isGroundTile items then
    match tile.ground with
    | some oldGround => tile.ReplacesFit items oldGround item
    | none => ComesFit items item tile.itemList
  else if (item.type items).alwaysOnTop then
    tile.ComesAfterFit items
      (if item.isSplash items then tile.topItems.find? (TileItem.isSplash items) else none) item
  else
    let oldField :=
      if item.isMagicField items then tile.downItems.find? TileItem.getMagicField else none
    -- nothing is added in the place of a field that stays
    (oldField.all fun oldField => (oldField.type items).replaceable) →
      tile.ComesAfterFit items oldField item

/-- A second ground is not kept, and has nothing that the tile has not. -/
def InternalAddFits (item : TileItem) : Prop :=
  if item.isGroundTile items ∧ tile.ground.isSome then
    ∀ flag ∈ setFlags, item.carries items flag → present items tile.itemList flag
  else ComesFit items item tile.itemList

/--
A flag that goes with an item is not needed by another item, a direction that comes with an
item is new only where there was no change of floor, and nothing is immovable in the way of
paths.
-/
def KeepsFlags : Operation → Prop
  | .addThing (.item item) => tile.Fresh item ∧ tile.AddFits items item
  | .internalAddThing (.item item) => tile.Fresh item ∧ tile.InternalAddFits items item
  | .updateThing number itemId count =>
    ∀ item ∈ tile.findItem number,
      ResetsFit (item.carries items) ((Tile.updated items item itemId count).carries items)
          (present items (tile.others number)) ∧
        Movable ((Tile.updated items item itemId count).carries items)
  | .replaceThing index item =>
    tile.Fresh item ∧
      ∀ slot ∈ tile.slotAt index, ∀ oldItem ∈ tile.itemAt slot, tile.ReplacesFit items oldItem item
  | .removeThing (.item number) count => tile.RemoveFits items number count
  | _ => True

section

instance (item : TileItem) (rest : List TileItem) : Decidable (ComesFit items item rest) := by
  unfold ComesFit
  infer_instance

instance (old new : TileItem) : Decidable (tile.ReplacesFit items old new) := by
  unfold ReplacesFit
  infer_instance

instance (number count : Nat) : Decidable (tile.RemoveFits items number count) := by
  unfold RemoveFits
  infer_instance

instance (old : Option TileItem) (item : TileItem) :
  Decidable (tile.ComesAfterFit items old item) := by
  cases old <;> unfold ComesAfterFit <;> infer_instance

instance (item : TileItem) : Decidable (tile.AddFits items item) := by
  unfold AddFits
  cases tile.ground <;> infer_instance

instance (item : TileItem) : Decidable (tile.InternalAddFits items item) := by
  unfold InternalAddFits
  infer_instance

instance (operation : Operation) : Decidable (tile.KeepsFlags items operation) := by
  unfold KeepsFlags
  split <;> infer_instance

end

/-! ## Operations -/

namespace Flagged

variable {items tile}

variable (flagged : Flagged items tile)
include flagged

lemma addItem (fresh : tile.Fresh item) (fits : tile.AddFits items item) :
  Flagged items (tile.addItem items item) := by
  rw [AddFits] at fits
  rw [Tile.addItem]
  -- what comes after the old splash or the old field
  have after
      {old : TileItem}
      (fits : tile.ComesAfterFit items (some old) item)
      (place : Tile → Tile)
      (contents : ∀ tile, List.Perm (place tile).itemList (item :: tile.itemList))
      (flags : ∀ tile, (place tile).m_flags = tile.m_flags) :
      Flagged items
        ((place (tile.removeItem items old.number 1)).updateTileFlags items item false) := by
    rcases fits with ⟨removes, sets, movable⟩
    rcases flagged.removeItem removes with ⟨removed, same, numbers⟩
    rw [← same] at sets
    exact removed.comes (fresh_of_subset fresh numbers) sets movable _ (contents _) (flags _)
  have alone
      (fits : ComesFit items item tile.itemList)
      (place : Tile → Tile)
      (contents : ∀ tile, List.Perm (place tile).itemList (item :: tile.itemList))
      (flags : ∀ tile, (place tile).m_flags = tile.m_flags) :
      Flagged items ((place tile).updateTileFlags items item false) :=
    flagged.comes fresh fits.1 fits.2 _ (contents _) (flags _)
  split
  · rename_i isGround
    rw [if_pos isGround] at fits
    cases ground : tile.ground with
    | none =>
      rw [ground] at fits
      refine flagged.comes fresh fits.1 fits.2 _ ?_ rfl
      simp [itemList, ground]
    | some oldGround =>
      rw [ground] at fits
      rcases tile.setSlot_split (show tile.itemAt .ground = _ from ground) with ⟨rest, before, contents⟩
      exact flagged.replaced fresh fits.1 fits.2.1 fits.2.2 _ before (contents item) rfl
  · rename_i notGround
    rw [if_neg notGround] at fits
    split
    · rename_i onTop
      rw [if_pos onTop] at fits
      let place (tile : Tile) : Tile :=
        { tile with
          topItems := insertTop items item tile.topItems
          thingCount := tile.thingCount + 1 }
      have contents (tile : Tile) : List.Perm (place tile).itemList (item :: tile.itemList) := by
        exact ((perm_orderedInsert _ item tile.topItems).append_left _ |>.trans
          perm_middle).append_right _
      split
      · rename_i splash
        rw [if_pos splash] at fits
        split
        · rename_i oldSplash found
          rw [found] at fits
          exact after fits place contents fun _ => rfl
        · rename_i found
          rw [found] at fits
          exact alone fits place contents fun _ => rfl
      · rename_i noSplash
        rw [if_neg noSplash] at fits
        exact alone fits place contents fun _ => rfl
    · rename_i notOnTop
      rw [if_neg notOnTop] at fits
      let place (tile : Tile) : Tile :=
        { tile with
          downItems := item :: tile.downItems
          thingCount := tile.thingCount + 1 }
      have contents (tile : Tile) : List.Perm (place tile).itemList (item :: tile.itemList) :=
        perm_middle
      split
      · rename_i field
        rw [if_pos field] at fits
        split
        · rename_i oldField found
          rw [found] at fits
          split
          · rename_i replaceable
            exact after (fits replaceable) place contents fun _ => rfl
          · exact flagged
        · rename_i found
          rw [found] at fits
          exact alone (fits rfl) place contents fun _ => rfl
      · rename_i noField
        rw [if_neg noField] at fits
        exact alone (fits rfl) place contents fun _ => rfl

lemma internalAddItem (fresh : tile.Fresh item) (fits : tile.InternalAddFits items item) :
  Flagged items (tile.internalAddThing items (.item item)) := by
  rw [InternalAddFits] at fits
  rw [Tile.internalAddThing]
  split
  · rename_i isGround
    cases ground : tile.ground with
    | none =>
      rw [if_neg (by simp [ground])] at fits
      refine flagged.comes fresh fits.1 fits.2 _ ?_ rfl
      simp [itemList, ground]
    | some oldGround =>
      rw [if_pos ⟨isGround, by simp [ground]⟩] at fits
      have unchanged : (tile.updateTileFlags items item false).m_flags = tile.m_flags := by
        change (tile.addTileFlags items item).m_flags = _
        rw [m_flags_addTileFlags, flagged.agrees]
        exact addFlags_known (carries_coherent item) fits
      have same : tile.updateTileFlags items item false = tile := by
        rw [tile.updateTileFlags_stack items item false, unchanged]
      rw [same]
      exact flagged
  · rename_i notGround
    rw [if_neg fun both => notGround both.1] at fits
    split
    · refine flagged.comes fresh fits.1 fits.2 _ ?_ rfl
      exact ((perm_orderedInsert _ item tile.topItems).append_left _ |>.trans
        perm_middle).append_right _
    · exact flagged.comes fresh fits.1 fits.2 _ perm_middle rfl

lemma updateThing
  {number itemId : Nat} (fits : tile.KeepsFlags items (.updateThing number itemId count)) :
  Flagged items (tile.updateThing items number itemId count) := by
  rw [Tile.updateThing]
  cases found : tile.findItem number with
  | none => exact flagged
  | some item =>
    have member := mem_of_find?_eq_some found
    have numbered : item.number = number := by simpa using List.find?_some found
    subst numbered
    rcases fits item found with ⟨resets, movable⟩
    rcases tile.slot_of_mem member with ⟨slot, here⟩
    rcases tile.setSlot_split here with ⟨rest, before, after⟩
    dsimp only
    have stack := tile.updateTileFlags_stack items item true
    have removedNumbered : (tile.updateTileFlags items item true).Numbered := by
      rw [stack]
      exact flagged.numbered
    have removedHere : (tile.updateTileFlags items item true).itemAt slot = some item := by
      rw [stack]
      exact here
    have number : (Tile.updated items item itemId count).number = item.number := rfl
    rw [removedNumbered.modifyItem_eq removedHere]
    refine flagged.updated number resets movable _ before ?_ ?_
    · rw [stack]
      have same := after (Tile.updated items item itemId count)
      cases slot <;> exact same
    · cases slot <;> rfl

lemma replaceThing {index : Nat} (fits : tile.KeepsFlags items (.replaceThing index item)) :
  Flagged items (tile.replaceThing items index item) := by
  rw [replaceThing_eq]
  rcases fits with ⟨fresh, fits⟩
  cases slot_found : tile.slotAt index with
  | none => exact flagged
  | some slot =>
    dsimp only
    cases here : tile.itemAt slot with
    | none => exact flagged
    | some oldItem =>
      rcases fits slot slot_found oldItem here with ⟨resets, sets, movable⟩
      rcases tile.setSlot_split here with ⟨rest, before, after⟩
      refine flagged.replaced fresh resets sets movable _ before (after item) ?_
      cases slot <;> rfl

lemma same_items (other : Tile) (contents : other.itemList = tile.itemList)
  (flags : other.m_flags = tile.m_flags) : Flagged items other where
  numbered := by
    rw [Numbered, contents]
    exact flagged.numbered
  agrees := by rw [flags, flagged.agrees, contents]
  movable := by
    rw [contents]
    exact flagged.movable

lemma setDefaultSubtype
  (number : Nat) : Flagged items (tile.setDefaultSubtype items number) := by
  rw [Tile.setDefaultSubtype]
  cases found : tile.findItem number with
  | none =>
    rw [modifyItem_absent found]
    exact flagged
  | some item =>
    have member := mem_of_find?_eq_some found
    have numbered : item.number = number := by simpa using List.find?_some found
    subst numbered
    rcases tile.slot_of_mem member with ⟨slot, here⟩
    rcases tile.setSlot_split here with ⟨rest, before, after⟩
    let subtyped : TileItem :=
      { item with toMatter := item.toMatter.setDefaultSubtype (itemTable items) }
    have number : subtyped.number = item.number := rfl
    have same : subtyped.carries items = item.carries items := carries_same rfl rfl rfl
    rw [flagged.numbered.modifyItem_eq here]
    refine (flagged.kept number same _ before (after subtyped) ?_).1
    cases slot <;> rfl

lemma operate {operation : Operation} (fits : tile.KeepsFlags items operation) :
  Flagged items (tile.operate items operation) := by
  cases operation with
  | addThing thing =>
    cases thing with
    | item item => exact flagged.addItem fits.1 fits.2
    | creature creature => exact flagged.same_items _ rfl rfl
  | internalAddThing thing =>
    cases thing with
    | item item => exact flagged.internalAddItem fits.1 fits.2
    | creature creature => exact flagged.same_items _ rfl rfl
  | updateThing number itemId count => exact flagged.updateThing fits
  | replaceThing index item => exact flagged.replaceThing fits
  | removeThing pointer count =>
    cases pointer with
    | item number => exact (flagged.removeItem fits).1
    | creature creature =>
      change Flagged items (if _ then _ else _)
      split
      · exact flagged.same_items _ rfl rfl
      · exact flagged
  | setDefaultSubtype number => exact flagged.setDefaultSubtype number

lemma operations {operations : List Operation}
  (allowed : Allowed (Tile.operate items) (Tile.KeepsFlags items) tile operations) :
  Flagged items (operations.foldl (Tile.operate items) tile) := by
  induction operations generalizing tile with
  | nil => exact flagged
  | cons operation operations ih =>
    exact ih (flagged.operate allowed.1) allowed.2

end Flagged

/-- Reading a flag gives the same answer as looking at the items. -/
def FlagsAgree : Prop :=
  ∀ flag, tile.hasFlag flag ↔ ∃ item ∈ tile.itemList, item.carries items flag

/-- Whatever an event does to the tile keeps the flags right. -/
def KeepsAllFlags (event : Event) : Prop :=
  Allowed (Tile.operate items) (KeepsFlags items) tile (tile.operations items event)

instance (event : Event) : Decidable (tile.KeepsAllFlags items event) := by
  unfold KeepsAllFlags
  infer_instance

theorem flagsAgree_of_keeps {tile : Tile}
  (run :
    Reaches (fun tile event next => next = tile.step items event)
      (KeepsAllFlags items) Tile.empty tile) : FlagsAgree items tile := by
  have flagged : Flagged items tile := by
    refine run.invariant Flagged.empty ?_
    rintro tile event next flagged fits rfl
    exact flagged.operations fits
  intro flag
  rw [hasFlag, flagged.agrees, present, any_eq_true]

def holeTypes : TileItemTable := fun id =>
  { plainType with
    floorChangeDown := id = 1
    blockPathFind := false
    decayTo := -1 }

def holeItem (number id : Nat) : TileItem where
  toMatter := World.newMatter (itemTable holeTypes) id 0
  number := number
  uniqueId := 0

def twoItems (id : Nat) : List Event :=
  [.operation (.addThing (.item (holeItem 1 id))),
    .operation (.addThing (.item (holeItem 2 1))),
    .operation (.removeThing (.item 2) 1)]

theorem flagsAgree_oneHole :
  FlagsAgree holeTypes ((twoItems 2).foldl (step holeTypes) Tile.empty) := by
  have allowed : Allowed (step holeTypes) (KeepsAllFlags holeTypes) Tile.empty (twoItems 2) := by
    decide +kernel
  exact flagsAgree_of_keeps holeTypes (Reaches.refl.of_allowed (twoItems 2) allowed)

/-- One hole is left, but the tile has no change of floor. -/
theorem twoHoles_disagree :
  ∃ tile,
    Reaches (fun tile event next => next = tile.step holeTypes event)
      Always Tile.empty tile ∧
      ¬ FlagsAgree holeTypes tile := by
  refine ⟨_, Reaches.of_list Tile.empty (twoItems 1), ?_⟩
  intro agree
  have unset : ((twoItems 1).foldl (step holeTypes) Tile.empty).hasFlag .FLOORCHANGE = false := by
    decide +kernel
  have left : holeItem 1 1 ∈ ((twoItems 1).foldl (step holeTypes) Tile.empty).itemList := by
    decide +kernel
  have set := (agree .FLOORCHANGE).mpr ⟨holeItem 1 1, left, by decide +kernel⟩
  exact Bool.false_ne_true set

end Tile

end OTServ.Tiles
