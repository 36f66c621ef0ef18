import OTServ.MapStore.Restoring

/-!
# Loading one item onto a tile

What has to hold for one item to be read back onto its tile: a moveable item has
to be put where it was, and one of the map file has to be found.
-/

namespace OTServ.MapStore

open Items
open Library.ByteStreams
open List Option

variable {item : Loaded} {front back : List Loaded} {thing : Placed} {holds : Loaded → Bool}
  {id : UInt16}

section Store

variable {types : UInt16 → ItemType}

/-! ## Moveable items -/

lemma insertTop_eq_iff (inFront : item ∉ front) (inBack : item ∉ back) :
  insertTop types item (front ++ back) = front ++ item :: back ↔
    (∀ top ∈ front, (types top.id).alwaysOnTopOrder ≤ (types item.id).alwaysOnTopOrder) ∧
    ∀ top ∈ back.head?, (types item.id).alwaysOnTopOrder < (types top.id).alwaysOnTopOrder := by
  induction front with
  | nil =>
    cases back with
    | nil => simp [insertTop]
    | cons top back =>
      rw [nil_append, insertTop]
      split
      · rename_i less
        simp [less]
      · rename_i notLess
        have other : top ≠ item := by
          rintro rfl
          exact inBack mem_cons_self
        simp [notLess, other]
  | cons top front ih =>
    have later : item ∉ front := fun mem => inFront (mem_cons_of_mem top mem)
    have other : item ≠ top := by
      rintro rfl
      exact inFront mem_cons_self
    rw [cons_append, insertTop]
    split
    · rename_i less
      constructor
      · intro same
        exact absurd (List.cons.inj same).1 other
      · intro ordered
        have le := ordered.1 top mem_cons_self
        omega
    · rename_i notLess
      rw [cons_append, List.cons.injEq, ih later]
      simp only [true_and, forall_mem_cons]
      constructor
      · rintro ⟨before, behind⟩
        exact ⟨⟨by omega, before⟩, behind⟩
      · rintro ⟨⟨_, before⟩, behind⟩
        exact ⟨before, behind⟩

lemma internalAddThing_ground_iff (top down : List Loaded) (item : Loaded) :
  Tile.internalAddThing types ⟨none, top, down⟩ item =
      ⟨some item, top, down⟩ ↔
    (types item.id).group = .ground := by
  rw [Tile.internalAddThing]
  split
  · rename_i ground
    simp [ground]
  · rename_i other
    split <;> simp [other]

lemma internalAddThing_top_iff
  (ground : Option Loaded) (down : List Loaded) (inFront : item ∉ front) (inBack : item ∉ back) :
  Tile.internalAddThing types ⟨ground, front ++ back, down⟩ item =
      ⟨ground, front ++ item :: back, down⟩ ↔
    (types item.id).group ≠ .ground ∧ (types item.id).alwaysOnTop ∧
      (∀ top ∈ front, (types top.id).alwaysOnTopOrder ≤ (types item.id).alwaysOnTopOrder) ∧
      ∀ top ∈ back.head?,
        (types item.id).alwaysOnTopOrder < (types top.id).alwaysOnTopOrder := by
  have longer : (front ++ back).length ≠ (front ++ item :: back).length := by
    rw [length_append, length_append, length_cons]
    omega
  rw [Tile.internalAddThing]
  split
  · rename_i isGround
    simp only [Tile.mk.injEq, isGround, ne_eq, not_true_eq_false, false_and, iff_false]
    exact fun same => longer (congrArg List.length same.2.1)
  · rename_i notGround
    split
    · rename_i onTop
      simp only [Tile.mk.injEq, true_and, and_true, onTop, ne_eq, notGround, not_false_eq_true]
      exact insertTop_eq_iff inFront inBack
    · rename_i below
      constructor
      · intro same
        exact absurd (congrArg List.length (Tile.mk.inj same).2.1) longer
      · intro placed
        exact absurd placed.2.1 below

lemma internalAddThing_down_iff
  (ground : Option Loaded) (top : List Loaded) (inFront : item ∉ front) :
  Tile.internalAddThing types ⟨ground, top, front ++ back⟩ item =
      ⟨ground, top, front ++ item :: back⟩ ↔
    (types item.id).group ≠ .ground ∧ (types item.id).alwaysOnTop = false ∧ front = [] := by
  have longer : (front ++ back).length ≠ (front ++ item :: back).length := by
    rw [length_append, length_append, length_cons]
    omega
  rw [Tile.internalAddThing]
  split
  · rename_i isGround
    simp only [Tile.mk.injEq, isGround, ne_eq, not_true_eq_false, false_and, iff_false]
    exact fun same => longer (congrArg List.length same.2.2)
  · rename_i notGround
    split
    · rename_i onTop
      simp only [Tile.mk.injEq, onTop, and_false, false_and, iff_false, Bool.true_eq_false]
      exact fun same => longer (congrArg List.length same.2.2)
    · rename_i below
      simp only [Tile.mk.injEq, true_and, ne_eq, notGround, not_false_eq_true,
        Bool.eq_false_iff.mpr below]
      cases front with
      | nil => simp
      | cons first front =>
        have other : item ≠ first := by
          rintro rfl
          exact inFront mem_cons_self
        simp [other]

lemma loadNew_eq_inside (number : Nat) (item : Item) (rest : Stream) :
  loadNew types number (loadInside types number) item.id
      (saveBody types item ++ rest) =
    loadInside types number (saveItem types item ++ rest) := by
  rw [loadInside_eq number (saveItem types item ++ rest), getId_saveItem]

/-- A moveable item is made anew and put on the tile. -/
lemma loadItem_moveable_iff
  (moves : thing.moveable types) (known : thing.item.Every (Item.Known types))
  (number : Nat) (before after : Tile) (rest : Stream) :
  loadItem types number
        ⟨before, saveItem types thing.item ++ rest, false⟩ =
      ⟨after, rest, false⟩ ↔
    thing.item.Every (Item.NoDepot types) ∧
      thing.item.startDecaying types = false ∧
        before.internalAddThing types (thing.item.restored types number) = after := by
  have moves : (types thing.item.id).moveable = true := moves
  simp only [loadItem, getId_saveItem, moves, if_true, loadNew_eq_inside]
  rcases readBack_or_breaksOff number known with ⟨noDepot, reads⟩ | ⟨depot, breaks⟩
  · rw [reads rest]
    simp only [LoadState.mk.injEq, true_and, noDepot, Bool.false_or, restored_startDecaying]
    exact and_comm
  · have longer := (breaks rest).2
    simp only [depot, false_and, iff_false]
    intro same
    split at same
    all_goals
      have short := congrArg LoadState.rest same
      simp only at short
      rw [short] at longer
      exact Nat.lt_irrefl _ longer

lemma replaceFirst_split (none : ∀ other ∈ front, holds other = false) (found : holds item)
  (new : Loaded) (back : List Loaded) :
  replaceFirst holds new (front ++ item :: back) = front ++ new :: back := by
  induction front with
  | nil => rw [nil_append, replaceFirst, if_pos found, nil_append]
  | cons first front ih =>
    have other := none first mem_cons_self
    rw [cons_append, replaceFirst, if_neg (Bool.eq_false_iff.mp other),
      ih fun other mem => none other (mem_cons_of_mem first mem)]
    rfl

lemma replaceFirst_append (holds : Loaded → Bool) (new : Loaded) (front back : List Loaded) :
  replaceFirst holds new (front ++ back) =
    if front.any holds then replaceFirst holds new front ++ back
    else front ++ replaceFirst holds new back := by
  induction front with
  | nil => rfl
  | cons first front ih =>
    rw [cons_append, replaceFirst, replaceFirst, any_cons]
    by_cases found : holds first
    · rw [if_pos found, if_pos found, found, Bool.true_or, if_pos rfl]
      rfl
    · rw [if_neg found, if_neg found, Bool.eq_false_iff.mpr found, Bool.false_or, ih]
      split <;> rfl

lemma things_replaceFirst (tile : Tile) (holds : Loaded → Bool) (new : Loaded) :
  (tile.replaceFirst holds new).things = replaceFirst holds new tile.things := by
  rw [Tile.replaceFirst, Tile.things, Tile.things, replaceFirst_append, replaceFirst_append]
  cases same : tile.ground with
  | none =>
    simp only [any_none, Bool.false_eq_true, if_false, toList_none, any_nil]
    split <;> rfl
  | some ground =>
    by_cases found : holds ground
    · simp [found, replaceFirst]
    · simp only [any_some, toList_some, any_cons,
        any_nil, Bool.or_false, found, Bool.false_eq_true, if_false]
      split <;> rfl

lemma replaceFirst_length (holds : Loaded → Bool) (new : Loaded) (items : List Loaded) :
  (replaceFirst holds new items).length = items.length := by
  induction items with
  | nil => rfl
  | cons first items ih =>
    rw [replaceFirst]
    split
    · rfl
    · rw [length_cons, length_cons, ih]

structure Tile.Alike (left right : Tile) : Prop where
  ground : left.ground.isSome = right.ground.isSome
  top : left.topItems.length = right.topItems.length

lemma Tile.Alike.eq_of_things {left right : Tile} (alike : left.Alike right)
  (same : left.things = right.things) : left = right := by
  obtain ⟨leftGround, leftTop, leftDown⟩ := left
  obtain ⟨rightGround, rightTop, rightDown⟩ := right
  obtain ⟨isSome, top⟩ := alike
  have ground : leftGround.toList.length = rightGround.toList.length := by
    cases leftGround <;> cases rightGround <;> first | rfl | cases isSome
  have first := append_inj same ground
  have later := append_inj first.2 top
  have grounds : leftGround = rightGround := by
    have lists := first.1
    cases leftGround <;> cases rightGround <;> first | rfl | cases lists
    rfl
  simp only [Tile.mk.injEq]
  exact ⟨grounds, later.1, later.2⟩

lemma Tile.Alike.trans {left middle right : Tile} (first : left.Alike middle)
  (second : middle.Alike right) : left.Alike right :=
  ⟨first.ground.trans second.ground, first.top.trans second.top⟩

lemma replaceFirst_alike (tile : Tile) (holds : Loaded → Bool) (new : Loaded) :
  (tile.replaceFirst holds new).Alike tile := by
  rw [Tile.replaceFirst]
  split
  · rename_i found
    refine ⟨?_, rfl⟩
    cases same : tile.ground with
    | none => rw [same] at found; cases found
    | some ground => rfl
  · split
    · exact ⟨rfl, replaceFirst_length holds new _⟩
    · exact ⟨rfl, rfl⟩

lemma type_of_door (door : classOf types id = .door) : (types id).type = .door := by
  simp only [classOf, ItemType.itemClass] at door
  split_ifs at door
  assumption

lemma type_of_bed (bed : classOf types id = .bed) : (types id).type = .bed := by
  simp only [classOf, ItemType.itemClass] at bed
  split_ifs at bed
  assumption

section

variable (same : thing.SameOnMap types)
include same

lemma Placed.SameOnMap.classOf : classOf types thing.mapId = classOf types thing.item.id := by
  rcases same with same | ⟨map, item⟩ | ⟨map, item⟩
  · rw [same]
  · rw [map, item]
  · rw [map, item]

lemma Placed.SameOnMap.isFor : isFor types thing.item.id (thing.onMap types) := by
  rcases same with same | ⟨map, item⟩ | ⟨map, item⟩
  · simp [MapStore.isFor, Placed.onMap, Loaded.id, same]
  · simp [MapStore.isFor, Placed.onMap, Loaded.itemClass, map, type_of_door item]
  · simp [MapStore.isFor, Placed.onMap, Loaded.itemClass, map, type_of_bed item]

variable (known : thing.item.Every (Item.Known types))
include known

lemma loadFound_reads
  (noDepot : thing.item.Every (Item.NoDepot types)) (number : Nat) (rest : Stream) :
  loadFound types number (thing.onMap types)
      (saveBody types thing.item ++ rest) =
    ⟨true,
      .mk thing.mapId (classOf types thing.item.id) 0
        [(number, (thing.item.attrs types).map Attr.stored)]
        (thing.item.items.map (Item.restored types number)),
      rest, startDecayingItems types thing.item.items⟩ := by
  cases known with
  | intro _ self below =>
  cases noDepot with
  | intro _ none deeper =>
    have inside : ∀ child ∈ thing.item.items,
        ReadBack types number child := fun child mem =>
      ((readBack_or_breaksOff number (below child mem)).resolve_right
        fun bad => bad.1 (deeper child mem)).2
    have mapClass : (thing.onMap types).itemClass = classOf types thing.item.id := same.classOf
    by_cases holds : (classOf types thing.item.id).isContainer
    · have container := container_of_noDepot holds none
      have count : (UInt32.ofNat thing.item.items.length).toNat = thing.item.items.length + 0 := by
        exact Nat.mod_eq_of_lt self.size
      simp only [loadFound, mapClass, saveBody_container holds]
      rw [container, unserializeAttr_container]
      simp only [ItemClass.isContainer, Bool.and_self, if_true, map_some, getD_some, count]
      have noItems : (thing.onMap types).items = [] := rfl
      rw [loadContainer_reads inside, loadContainer_ended, noItems]
      simp only [append_nil, ← restoredAll_eq_map, restored_startDecayingAll]
      rfl
    · have plain : (classOf types thing.item.id).isContainer = false := Bool.eq_false_iff.mpr holds
      simp only [loadFound, mapClass, unserializeAttr_plain plain, plain,
        Bool.and_false, Bool.false_eq_true, if_false, self.items plain]
      rfl

lemma loadFound_breaks
  (depot : ¬ thing.item.Every (Item.NoDepot types)) (number : Nat) (rest : Stream) :
  let found := loadFound types number (thing.onMap types) (saveBody types thing.item ++ rest)
  found.ok = false ∧ rest.length < found.rest.length := by
  cases known with
  | intro _ self below =>
    have children := fun child mem => readBack_or_breaksOff number (below child mem)
    have inside : ∀ child ∈ thing.item.items,
        ReadBack types number child ∨ BreaksOff types number child :=
      fun child mem => (children child mem).imp And.right And.right
    have broken := exists_broken children depot
    have mapClass : (thing.onMap types).itemClass = classOf types thing.item.id := same.classOf
    have longer : rest.length < (addUInt8 0 ++ rest).length := by
      rw [length_append, addUInt8, littleEndian_length]
      omega
    by_cases holds : (classOf types thing.item.id).isContainer
    · by_cases none : thing.item.NoDepot types
      · have container := container_of_noDepot holds none
        have count :
            (UInt32.ofNat thing.item.items.length).toNat = thing.item.items.length + 0 := by
          exact Nat.mod_eq_of_lt self.size
        have breaks := loadContainer_breaks inside (broken none) 0 [] (addUInt8 0 ++ rest)
        simp only [loadFound, mapClass, saveBody_container holds]
        rw [container, unserializeAttr_container]
        simp only [ItemClass.isContainer, Bool.and_self, if_true, map_some, getD_some, count]
        exact ⟨breaks.1, Nat.lt_trans longer breaks.2⟩
      · have other : classOf types thing.item.id ≠ .container := by
          intro container
          exact none (by rw [Item.NoDepot, container]; intro same; cases same)
        simp only [loadFound, mapClass, saveBody_container holds]
        rw [unserializeAttr_other other]
        simp only [Bool.false_and, Bool.false_eq_true, if_false, true_and]
        rw [length_append]
        omega
    · have plain : (classOf types thing.item.id).isContainer = false := Bool.eq_false_iff.mpr holds
      have none : thing.item.NoDepot types := by
        intro isDepot
        rw [isDepot] at plain
        cases plain
      rcases broken none with ⟨child, mem, _⟩
      rw [self.items plain] at mem
      cases mem

end

/-- A door or a bed gets back the number with which it was saved. -/
lemma transformItem_eq_iff {before after : Tile} {mapId : UInt16} {itemClass : ItemClass}
  {readings : List (Nat × List Attr)} {items : List Loaded}
  (changed : before.replaceFirst holds (.mk id itemClass 0 readings items) = after)
  (unchanged : mapId ≠ id →
    before.replaceFirst holds (.mk mapId itemClass 0 readings items) ≠ after) :
  before.transformItem types holds (.mk mapId itemClass 0 readings items)
        id =
      (after, false) ↔
    (mapId ≠ id →
      (types mapId).alwaysOnTop = (types id).alwaysOnTop ∧
        (itemClass ≠ .bed → after.trashes = false)) := by
  by_cases same : mapId = id
  · subst same
    simp only [Tile.transformItem, Loaded.id, if_true, changed, ne_eq,
      not_true_eq_false, false_imp_iff]
  · have kept := unchanged same
    simp only [Tile.transformItem, Loaded.id, Loaded.itemClass,
      Loaded.serializationCount, Loaded.readings, Loaded.items, changed, ne_eq, same, not_false_eq_true, true_imp_iff]
    by_cases list : (types mapId).alwaysOnTop = (types id).alwaysOnTop
    · rw [if_pos list]
      by_cases bed : itemClass = .bed
      · simp [bed, list]
      · cases trash : after.trashes <;> simp [bed, list]
    · rw [if_neg list]
      by_cases bed : itemClass = .bed
      · subst bed
        simp [list, kept]
      · simp [bed, list]

/-! ## Items of the map file on their tile -/

lemma loadItem_found {state : LoadState} {propStream : Stream}
  (next : getId state.rest = (id, propStream)) (stays : (types id).moveable = false)
  (found : state.tile.things.find? (isFor types id) = some item) (number : Nat) :
  (loadItem types number state).gone = true ∨
    ∃ new : Loaded, new.readings ≠ [] ∧
      (loadItem types number state).tile = state.tile.replaceFirst (isFor types id) new := by
  have handed : (loadFound types number item propStream).item.readings ≠ [] := by
    simp only [loadFound]
    split <;> simp [Loaded.readings]
  simp only [loadItem, next, stays, Bool.false_eq_true, if_false, found]
  split
  · simp only [Tile.transformItem]
    split
    · exact Or.inr ⟨_, handed, rfl⟩
    · split
      · split
        · exact Or.inl (Bool.or_true _)
        · refine Or.inr ⟨_, ?_, rfl⟩
          exact handed
      · split
        · exact Or.inr ⟨_, handed, rfl⟩
        · exact Or.inl (Bool.or_true _)
  · exact Or.inr ⟨_, handed, rfl⟩

/-- What has to hold for an item of the map file, with the things before it. -/
structure Restorable.Staying (types : UInt16 → ItemType)
  (tile : SavedTile) (pre : List Placed) (thing : Placed) : Prop where
  noDepot : thing.item.Every (Item.NoDepot types)
  noDecay : startDecayingItems types thing.item.items = false
  first : ∀ other ∈ pre, other.moveable types = false →
    isFor types thing.item.id (other.onMap types) = false
  renamed : thing.mapId ≠ thing.item.id →
    (types thing.mapId).alwaysOnTop = (types thing.item.id).alwaysOnTop ∧
      (classOf types thing.item.id ≠ .bed →
        (tile.readFrom types (saves types pre)).trashes = false)

section Staying

variable {tile : SavedTile} {pre post : List Placed} {thing : Placed}

lemma loadItem_wrong (split : tile.things = pre ++ thing :: post) (saved : isSaved types thing)
  (stays : thing.moveable types = false) {other : Placed} (before : other ∈ pre)
  (otherStays : other.moveable types = false)
  (taken : isFor types thing.item.id (other.onMap types)) (rest : Stream) :
  loadItem types (saves types pre)
      ⟨tile.readFrom types (saves types pre + 1), saveItem types thing.item ++ rest, false⟩ ≠
    ⟨tile.readFrom types (saves types pre), rest, false⟩ := by
  intro same
  have all := shown_before saved post (Nat.zero_add (saves types pre))
  have after := shown_after saved post (Nat.zero_add (saves types pre))
  rw [← split, ← readFrom_things] at all after
  -- the first item that is taken for the stored one
  have some : ∃ item, (unread types pre).find?
      (isFor types thing.item.id) = some item := by
    rw [← isSome_iff_exists, List.find?_isSome]
    exact ⟨_, mem_unread_of before otherStays, taken⟩
  rcases some with ⟨item, found⟩
  rcases List.find?_eq_some_iff_append.mp found with ⟨isItem, front, back, parts, none⟩
  have none : ∀ other ∈ front,
      isFor types thing.item.id other = false := fun other mem =>
    (Bool.not_eq_true' _).mp (none other mem)
  rw [parts, append_assoc, cons_append] at all after
  have foundThere :
      (tile.readFrom types (saves types pre + 1)).things.find?
        (isFor types thing.item.id) = some item := by
    rw [all]
    exact List.find?_eq_some_iff_append.mpr
      ⟨isItem, front, _, rfl, fun other mem => by
        rw [none other mem]
        rfl⟩
  let state : LoadState :=
    ⟨tile.readFrom types (saves types pre + 1), saveItem types thing.item ++ rest, false⟩
  have next : getId state.rest = (thing.item.id, saveBody types thing.item ++ rest) :=
    getId_saveItem thing.item rest
  have handing : (loadItem types (saves types pre) state).gone = true ∨ _ :=
    loadItem_found next stays foundThere (saves types pre)
  rcases handing with gone | ⟨new, handed, changed⟩
  · rw [same] at gone
    cases gone
  · rw [same] at changed
    have things := congrArg Tile.things changed
    rw [after, things_replaceFirst, all, replaceFirst_split none isItem] at things
    have equal := append_cancel_left things
    have mem : item ∈ unread types pre := by
      rw [parts]
      exact mem_append_right _ mem_cons_self
    rcases mem_unread mem with ⟨_, _, _, rfl⟩
    rw [← (List.cons.inj equal).1] at handed
    exact handed rfl

/-- The item of the map file is found, and another one is put in its place. -/
lemma staying_found (split : tile.things = pre ++ thing :: post) (saved : isSaved types thing)
  (stays : thing.moveable types = false) (same : thing.SameOnMap types)
  (first : ∀ other ∈ pre, other.moveable types = false →
    isFor types thing.item.id (other.onMap types) = false) :
  (tile.readFrom types (saves types pre + 1)).things.find?
      (isFor types thing.item.id) = some (thing.onMap types) ∧
    ∀ new : Loaded,
      ((tile.readFrom types (saves types pre + 1)).replaceFirst
          (isFor types thing.item.id) new).things =
        unread types pre ++ new :: shown types 0 (saves types pre + 1) post := by
  have none : ∀ other ∈ unread types pre,
      isFor types thing.item.id other = false := by
    intro other shown
    rcases mem_unread shown with ⟨placed, before, otherStays, rfl⟩
    exact first placed before otherStays
  have all := shown_before saved post (Nat.zero_add (saves types pre))
  rw [← split, ← readFrom_things, unread_stays stays, singleton_append] at all
  have here : isFor types thing.item.id (thing.onMap types) := same.isFor
  constructor
  · rw [all]
    exact List.find?_eq_some_iff_append.mpr
      ⟨here, _, _, rfl, fun other shown => by
        rw [none other shown]
        rfl⟩
  · intro new
    rw [things_replaceFirst, all, replaceFirst_split none here]

def Placed.read (types : UInt16 → ItemType) (thing : Placed)
  (number : Nat) (id : UInt16) : Loaded :=
  .mk id (classOf types thing.item.id) 0
    [(number, (thing.item.attrs types).map Attr.stored)]
    (thing.item.items.map (Item.restored types number))

/-- The item that was found is changed to what it was saved as. -/
lemma staying_transformed_iff
  (map : tile.MapUnchanged types) (split : tile.things = pre ++ thing :: post)
  (saved : isSaved types thing) (stays : thing.moveable types = false)
  (alike :
    (tile.readFrom types (saves types pre + 1)).Alike (tile.readFrom types (saves types pre)))
  (first : ∀ other ∈ pre, other.moveable types = false →
    isFor types thing.item.id (other.onMap types) = false) :
  (tile.readFrom types (saves types pre + 1)).transformItem types
        (isFor types thing.item.id)
        (thing.read types (saves types pre) thing.mapId) thing.item.id =
      (tile.readFrom types (saves types pre), false) ↔
    (thing.mapId ≠ thing.item.id →
      (types thing.mapId).alwaysOnTop =
          (types thing.item.id).alwaysOnTop ∧
        (classOf types thing.item.id ≠ .bed →
          (tile.readFrom types (saves types pre)).trashes = false)) := by
  have mem : thing ∈ tile.things := by
    rw [split]
    exact mem_append_right _ mem_cons_self
  have same := map.same thing mem stays
  have things := (staying_found split saved stays same first).2
  have after := shown_after saved post (Nat.zero_add (saves types pre))
  rw [← split, ← readFrom_things] at after
  have changed :
      (tile.readFrom types (saves types pre + 1)).replaceFirst
          (isFor types thing.item.id)
          (thing.read types (saves types pre) thing.item.id) =
        tile.readFrom types (saves types pre) := by
    refine ((replaceFirst_alike _ _ _).trans alike).eq_of_things ?_
    rw [things, after, restored_eq]
    rfl
  have unchanged : thing.mapId ≠ thing.item.id →
      (tile.readFrom types (saves types pre + 1)).replaceFirst
          (isFor types thing.item.id)
          (thing.read types (saves types pre) thing.mapId) ≠
        tile.readFrom types (saves types pre) := by
    intro other equal
    have lists := congrArg Tile.things equal
    rw [things, after, restored_eq] at lists
    have items := (List.cons.inj (append_cancel_left lists)).1
    exact other (Loaded.mk.inj items).1
  exact transformItem_eq_iff changed unchanged

/-- An item of the map file is read back. -/
lemma loadItem_staying_iff
  (map : tile.MapUnchanged types) (split : tile.things = pre ++ thing :: post)
  (saved : isSaved types thing) (stays : thing.moveable types = false)
  (alike :
    (tile.readFrom types (saves types pre + 1)).Alike (tile.readFrom types (saves types pre)))
  (rest : Stream) :
  loadItem types (saves types pre)
        ⟨tile.readFrom types (saves types pre + 1), saveItem types thing.item ++ rest, false⟩ =
      ⟨tile.readFrom types (saves types pre), rest, false⟩ ↔
    Restorable.Staying types tile pre thing := by
  have mem : thing ∈ tile.things := by
    rw [split]
    exact mem_append_right _ mem_cons_self
  have same := map.same thing mem stays
  have known := map.known thing mem
  by_cases wrong : ∃ other ∈ pre, other.moveable types = false ∧
      isFor types thing.item.id (other.onMap types)
  · rcases wrong with ⟨other, before, otherStays, taken⟩
    constructor
    · intro read
      exact absurd read (loadItem_wrong split saved stays before otherStays taken rest)
    · intro restored
      rw [restored.first other before otherStays] at taken
      cases taken
  · have first : ∀ other ∈ pre, other.moveable types = false →
        isFor types thing.item.id (other.onMap types) = false := by
      intro other before otherStays
      by_contra taken
      exact wrong ⟨other, before, otherStays, Bool.not_eq_false _ ▸ taken⟩
    have found := (staying_found split saved stays same first).1
    have transformed := staying_transformed_iff map split saved stays alike first
    have stays' : (types thing.item.id).moveable = false := stays
    simp only [loadItem, getId_saveItem, stays', Bool.false_eq_true, if_false, found]
    by_cases noDepot : thing.item.Every (Item.NoDepot types)
    · rw [loadFound_reads same known noDepot]
      simp only [if_true, LoadState.mk.injEq, true_and, Bool.false_or, Bool.or_eq_false_iff]
      constructor
      · rintro ⟨onTile, noDecay, kept⟩
        exact ⟨noDepot, noDecay, first, transformed.mp (Prod.ext onTile kept)⟩
      · intro restorable
        have both := transformed.mpr restorable.renamed
        exact ⟨congrArg Prod.fst both, restorable.noDecay, congrArg Prod.snd both⟩
    · have breaks := loadFound_breaks same known noDepot (saves types pre) rest
      constructor
      · intro read
        simp only [breaks.1, Bool.false_eq_true, if_false] at read
        have short := congrArg LoadState.rest read
        simp only at short
        have longer := breaks.2
        rw [short] at longer
        exact absurd longer (Nat.lt_irrefl _)
      · intro restorable
        exact absurd restorable.noDepot noDepot

end Staying

end Store

end OTServ.MapStore
