import OTServ.MapStore.Steps

/-!
# What was saved is loaded again

A tile is saved and loaded onto the tile of the map file.  Item by item exactly
the bytes written for it are taken, it is handed the attributes written for it,
and at the end the tile is as it was saved.

This fails for depots: `saveItem` writes a number of items for every container,
and `Depot::readAttr`, unlike that of other containers, takes the tag for an
error.  It also fails where the order in which items are put on the tile, or the
search for an item of the map file, does not lead to the item that was saved.
-/

namespace OTServ.MapStore

open Items
open Library.ByteStreams
open List Option

variable {pre post front back : List Placed} {thing : Placed} {number : Nat}

section Store

variable (types : UInt16 → ItemType)

/--
Saving and loading give back the tile.  After each item its bytes have been taken
and no others, and those behind it are as they were saved.
-/
structure RoundTrips (tile : SavedTile) : Prop where
  items : ∀ rest, ∀ rounds ≤ tile.itemCount types,
    afterRounds types (tile.itemCount types)
        ⟨tile.onMap types, saveItems types tile (tile.itemCount types) ++ rest, false⟩
        rounds =
      ⟨tile.readFrom types (tile.itemCount types - rounds),
        saveItems types tile (tile.itemCount types - rounds) ++ rest, false⟩
  tile : tile.itemCount types ≠ 0 → ∀ getTile rest,
    getTile tile.x tile.y tile.z = some (tile.onMap types) →
      loadTile types getTile (saveTile types tile ++ rest) =
        some ⟨tile.readFrom types 0, rest, false⟩

/--
The tile can be loaded: no depot is saved, nothing decays at once, the items of
the map file are found, and the moveable ones are put where they were.
-/
structure Restorable (tile : SavedTile) : Prop where
  staying : ∀ pre thing post, tile.things = pre ++ thing :: post →
    isSaved types thing → thing.moveable types = false → Restorable.Staying types tile pre thing
  moveable : ∀ thing ∈ tile.things, thing.moveable types →
    thing.item.Every (Item.NoDepot types) ∧ thing.item.startDecaying types = false
  ground : ∀ thing ∈ tile.ground, thing.moveable types → (types thing.item.id).group = .ground
  top : ∀ pre thing post, tile.topItems = pre ++ thing :: post →
    thing.moveable types →
      (types thing.item.id).group ≠ .ground ∧
        (types thing.item.id).alwaysOnTop ∧
        (∀ other ∈ pre, other.moveable types = false →
          (types other.mapId).alwaysOnTopOrder ≤ (types thing.item.id).alwaysOnTopOrder) ∧
        ∀ other ∈ post.head?,
          (types thing.item.id).alwaysOnTopOrder < (types other.item.id).alwaysOnTopOrder
  down : ∀ pre thing post, tile.downItems = pre ++ thing :: post →
    thing.moveable types →
      (types thing.item.id).group ≠ .ground ∧
        (types thing.item.id).alwaysOnTop = false ∧
        ∀ other ∈ pre, other.moveable types

variable {types} {tile : SavedTile}

lemma append_eq_append_cons
  {α : Type} {left right pre post : List α} {a : α} (same : left ++ right = pre ++ a :: post) :
  (∃ more, left = pre ++ a :: more ∧ post = more ++ right) ∨
    ∃ more, right = more ++ a :: post ∧ pre = left ++ more := by
  rcases append_eq_append_iff.mp same with ⟨more, front, back⟩ | ⟨more, front, back⟩
  · exact Or.inr ⟨more, back, front⟩
  · cases more with
    | nil => exact Or.inr ⟨[], back.symm, by simpa using front.symm⟩
    | cons first more =>
      cases back
      exact Or.inl ⟨more, front, rfl⟩

lemma place_cases (split : tile.things = pre ++ thing :: post) :
  (tile.ground = some thing ∧ pre = []) ∨
    (∃ front back, tile.topItems = front ++ thing :: back ∧ pre = tile.ground.toList ++ front) ∨
    ∃ front, tile.downItems = front ++ thing :: post ∧
      pre = tile.ground.toList ++ (tile.topItems ++ front) := by
  rcases append_eq_append_cons split with ⟨more, ground, _⟩ | ⟨more, others, front⟩
  · left
    cases isGround : tile.ground with
    | none =>
      rw [isGround] at ground
      cases pre <;> cases ground
    | some first =>
      rw [isGround] at ground
      cases pre with
      | nil =>
        cases ground
        exact ⟨rfl, rfl⟩
      | cons other pre =>
        have none := (List.cons.inj ground).2
        cases pre <;> cases none
  · right
    rcases append_eq_append_cons others with ⟨back, top, _⟩ | ⟨before, down, rfl⟩
    · exact Or.inl ⟨more, back, top, front⟩
    · exact Or.inr ⟨before, down, front⟩

lemma readFrom_ground (ground : tile.ground = some thing) (saved : isSaved types thing) :
  tile.readFrom types 1 =
      ⟨(unread types [thing]).head?, shown types 0 1 tile.topItems,
        shown types 0 (1 + saves types tile.topItems) tile.downItems⟩ ∧
    tile.readFrom types 0 =
      ⟨some (thing.item.restored types 0), shown types 0 1 tile.topItems,
        shown types 0 (1 + saves types tile.topItems) tile.downItems⟩ := by
  have one : saves types tile.ground.toList = 1 := by
    rw [ground, toList_some, saves_cons saved]
    rfl
  constructor
  · rw [SavedTile.readFrom, one, shown_read (Nat.le_refl 1),
      shown_read (Nat.le_add_right 1 _), ground, toList_some, shown,
      if_pos saved, if_neg (by omega), shown, append_nil]
  · rw [SavedTile.readFrom, one, ground, toList_some, shown,
      if_pos saved, if_pos (Nat.le_refl 0), shown, append_nil]
    rfl

lemma readFrom_top (top : tile.topItems = front ++ thing :: back) (saved : isSaved types thing)
  (counted : saves types tile.ground.toList + saves types front = number) :
  tile.readFrom types (number + 1) =
      ⟨(unread types tile.ground.toList).head?,
        unread types front ++ (unread types [thing] ++ shown types 0 (number + 1) back),
        shown types 0
          (saves types tile.ground.toList + saves types tile.topItems)
          tile.downItems⟩ ∧
    tile.readFrom types number =
      ⟨(unread types tile.ground.toList).head?,
        unread types front ++
          (thing.item.restored types number :: shown types 0 (number + 1) back),
        shown types 0
          (saves types tile.ground.toList + saves types tile.topItems)
          tile.downItems⟩ := by
  have later : number + 1 ≤ saves types tile.ground.toList + saves types tile.topItems := by
    rw [top, saves_append, saves_cons saved]
    omega
  constructor
  · rw [SavedTile.readFrom, shown_unread (by omega), shown_read later]
    simp only [Tile.mk.injEq, true_and, and_true]
    rw [top]
    exact shown_before saved back counted
  · rw [SavedTile.readFrom, shown_unread (by omega), shown_read (Nat.le_of_succ_le later)]
    simp only [Tile.mk.injEq, true_and, and_true]
    rw [top]
    exact shown_after saved back counted

lemma readFrom_down
  (down : tile.downItems = front ++ thing :: back) (saved : isSaved types thing)
  (counted :
    saves types tile.ground.toList + saves types tile.topItems + saves types front = number) :
  tile.readFrom types (number + 1) =
      ⟨(unread types tile.ground.toList).head?,
        unread types tile.topItems,
        unread types front ++ (unread types [thing] ++ shown types 0 (number + 1) back)⟩ ∧
    tile.readFrom types number =
      ⟨(unread types tile.ground.toList).head?,
        unread types tile.topItems,
        unread types front ++
          (thing.item.restored types number :: shown types 0 (number + 1) back)⟩ := by
  constructor
  · rw [SavedTile.readFrom, shown_unread (by omega), shown_unread (by omega)]
    simp only [Tile.mk.injEq, true_and]
    rw [down]
    exact shown_before saved back counted
  · rw [SavedTile.readFrom, shown_unread (by omega), shown_unread (by omega)]
    simp only [Tile.mk.injEq, true_and]
    rw [down]
    exact shown_after saved back counted

lemma readFrom_alike (split : tile.things = pre ++ thing :: post) (saved : isSaved types thing)
  (stays : thing.moveable types = false) :
  (tile.readFrom types (saves types pre + 1)).Alike (tile.readFrom types (saves types pre)) := by
  rcases place_cases split with ⟨ground, rfl⟩ | ⟨front, back, top, rfl⟩ | ⟨front, down, rfl⟩
  · have both := readFrom_ground ground saved
    have zero : saves types [] = 0 := rfl
    rw [zero, both.1, both.2, unread_stays stays]
    exact ⟨rfl, rfl⟩
  · have both := readFrom_top top saved (saves_append _ _).symm
    rw [both.1, both.2, unread_stays stays]
    refine ⟨rfl, ?_⟩
    simp only [length_append, length_cons, length_nil]
    omega
  · have counted :
        saves types tile.ground.toList + saves types tile.topItems +
            saves types front =
          saves types (tile.ground.toList ++ (tile.topItems ++ front)) := by
      rw [saves_append, saves_append, Nat.add_assoc]
    have both := readFrom_down down saved counted
    rw [both.1, both.2]
    exact ⟨rfl, rfl⟩

def ReadsItem (types : UInt16 → ItemType) (tile : SavedTile) (number : Nat) : Prop :=
  ∀ rest,
    loadItem types number
        ⟨tile.readFrom types (number + 1), saveItems types tile (number + 1) ++ rest, false⟩ =
      ⟨tile.readFrom types number, saveItems types tile number ++ rest, false⟩

lemma reads_staying_iff
  (map : tile.MapUnchanged types) (split : tile.things = pre ++ thing :: post)
  (saved : isSaved types thing) (stays : thing.moveable types = false) :
  ReadsItem types tile (saves types pre) ↔ Restorable.Staying types tile pre thing := by
  have alike := readFrom_alike split saved stays
  constructor
  · intro reads
    have read := reads []
    rw [saveItems_succ split saved] at read
    exact (loadItem_staying_iff map split saved stays alike _).mp read
  · intro staying rest
    rw [saveItems_succ split saved]
    exact (loadItem_staying_iff map split saved stays alike _).mpr staying

lemma reads_moveable_iff (map : tile.MapUnchanged types)
  (split : tile.things = pre ++ thing :: post) (moves : thing.moveable types) :
  ReadsItem types tile (saves types pre) ↔
    thing.item.Every (Item.NoDepot types) ∧
      thing.item.startDecaying types = false ∧
        (tile.readFrom types (saves types pre + 1)).internalAddThing types
            (thing.item.restored types (saves types pre)) =
          tile.readFrom types (saves types pre) := by
  have saved := isSaved_of_moveable moves
  have mem : thing ∈ tile.things := by
    rw [split]
    exact mem_append_right _ mem_cons_self
  have known := map.known thing mem
  constructor
  · intro reads
    have read := reads []
    rw [saveItems_succ split saved] at read
    exact (loadItem_moveable_iff moves known _ _ _ _).mp read
  · intro conditions rest
    rw [saveItems_succ split saved]
    exact (loadItem_moveable_iff moves known _ _ _ _).mpr conditions

lemma restored_not_mem_unread (item : Item) (number : Nat) (things : List Placed) :
  item.restored types number ∉ unread types things := by
  intro mem
  rcases mem_unread mem with ⟨_, _, _, same⟩
  have readings := congrArg Loaded.readings same
  rw [restored_readings] at readings
  cases readings

lemma restored_not_mem_shown (item : Item) (number : Nat) (things : List Placed) :
  item.restored types number ∉ shown types 0 (number + 1) things := by
  intro mem
  rcases mem_shown mem with none | ⟨later, attrs, less, readings⟩
  · rw [restored_readings] at none
    cases none
  · rw [restored_readings] at readings
    cases readings
    exact absurd less (Nat.not_succ_le_self number)

lemma unread_eq_nil_iff (things : List Placed) :
  unread types things = [] ↔ ∀ other ∈ things, other.moveable types := by
  rw [unread, map_eq_nil_iff, filter_eq_nil_iff]
  simp only [Bool.not_eq_true', Bool.not_eq_false]

lemma mapId_of_not_saved (same : thing.SameOnMap types) (notSaved : ¬ isSaved types thing) :
  thing.mapId = thing.item.id := by
  rcases same with same | ⟨_, door⟩ | ⟨_, bed⟩
  · exact same
  · exact absurd (by simp [isSaved, door]) notSaved
  · exact absurd (by simp [isSaved, bed]) notSaved

lemma shown_ids
  {things : List Placed}
  (same : ∀ thing ∈ things, thing.moveable types = false → thing.SameOnMap types)
  (number : Nat) :
  (shown types 0 number things).map Loaded.id = things.map (·.item.id) := by
  induction things generalizing number with
  | nil => rfl
  | cons thing things ih =>
    have later := ih fun other mem => same other (mem_cons_of_mem thing mem)
    rw [shown]
    split
    · rw [if_pos (Nat.zero_le number), map_append, later, map_singleton, restored_id]
      rfl
    · rename_i notSaved
      have stays : thing.moveable types = false := by
        by_contra moves
        exact notSaved (isSaved_of_moveable (Bool.not_eq_false _ ▸ moves))
      rw [map_cons, later, map_cons,
        ← mapId_of_not_saved (same thing mem_cons_self stays) notSaved]
      rfl

lemma placed_ground_iff (ground : tile.ground = some thing) (moves : thing.moveable types) :
  (tile.readFrom types 1).internalAddThing types
        (thing.item.restored types 0) =
      tile.readFrom types 0 ↔
    (types thing.item.id).group = .ground := by
  have both := readFrom_ground ground (isSaved_of_moveable moves)
  rw [both.1, both.2, unread_moves moves, List.head?_nil, internalAddThing_ground_iff, restored_id]

lemma placed_top_iff (map : tile.MapUnchanged types)
  (top : tile.topItems = front ++ thing :: back) (moves : thing.moveable types)
  (counted : saves types tile.ground.toList + saves types front = number) :
  (tile.readFrom types (number + 1)).internalAddThing types
        (thing.item.restored types number) =
      tile.readFrom types number ↔
    (types thing.item.id).group ≠ .ground ∧
      (types thing.item.id).alwaysOnTop ∧
      (∀ other ∈ front, other.moveable types = false →
        (types other.mapId).alwaysOnTopOrder ≤ (types thing.item.id).alwaysOnTopOrder) ∧
      ∀ other ∈ back.head?,
        (types thing.item.id).alwaysOnTopOrder < (types other.item.id).alwaysOnTopOrder := by
  have both := readFrom_top top (isSaved_of_moveable moves) counted
  rw [both.1, both.2, unread_moves moves, nil_append,
    internalAddThing_top_iff _ _ (restored_not_mem_unread _ _ _)
      (restored_not_mem_shown _ _ _), restored_id]
  have before :
      (∀ other ∈ unread types front,
        (types other.id).alwaysOnTopOrder ≤ (types thing.item.id).alwaysOnTopOrder) ↔
      ∀ other ∈ front, other.moveable types = false →
        (types other.mapId).alwaysOnTopOrder ≤ (types thing.item.id).alwaysOnTopOrder := by
    constructor
    · intro ordered other mem stays
      exact ordered _ (mem_unread_of mem stays)
    · intro ordered other mem
      rcases mem_unread mem with ⟨placed, isThere, stays, rfl⟩
      exact ordered placed isThere stays
  have inTile : ∀ other ∈ back, other ∈ tile.things := by
    intro other mem
    rw [SavedTile.things, top]
    simp [mem]
  have ids := shown_ids (fun other mem => map.same other (inTile other mem)) (number + 1)
  have heads := congrArg List.head? ids
  rw [List.head?_map, List.head?_map] at heads
  have behind :
      (∀ other ∈ (shown types 0 (number + 1) back).head?,
        (types thing.item.id).alwaysOnTopOrder < (types other.id).alwaysOnTopOrder) ↔
      ∀ other ∈ back.head?,
        (types thing.item.id).alwaysOnTopOrder < (types other.item.id).alwaysOnTopOrder := by
    cases shownHead : (shown types 0 (number + 1) back).head? with
    | none =>
      cases backHead : back.head? with
      | none => simp
      | some other => rw [shownHead, backHead] at heads; cases heads
    | some item =>
      cases backHead : back.head? with
      | none => rw [shownHead, backHead] at heads; cases heads
      | some other =>
        rw [shownHead, backHead] at heads
        have same : item.id = other.item.id := some.inj heads
        simp [same]
  rw [before, behind]

lemma placed_down_iff
  (down : tile.downItems = front ++ thing :: back) (moves : thing.moveable types)
  (counted :
    saves types tile.ground.toList + saves types tile.topItems + saves types front = number) :
  (tile.readFrom types (number + 1)).internalAddThing types
        (thing.item.restored types number) =
      tile.readFrom types number ↔
    (types thing.item.id).group ≠ .ground ∧
      (types thing.item.id).alwaysOnTop = false ∧
      ∀ other ∈ front, other.moveable types := by
  have both := readFrom_down down (isSaved_of_moveable moves) counted
  rw [both.1, both.2, unread_moves moves, nil_append,
    internalAddThing_down_iff _ _ (restored_not_mem_unread _ _ _),
    restored_id, unread_eq_nil_iff]

/-! ## The whole tile -/

lemma readFrom_itemCount (tile : SavedTile) :
  tile.readFrom types (tile.itemCount types) = tile.onMap types := by
  have counted : tile.itemCount types = _ := itemCount_eq tile
  rw [SavedTile.readFrom, SavedTile.onMap, shown_unread (by omega),
    shown_unread (by omega), shown_unread (by omega)]

lemma restorable_iff_reads (map : tile.MapUnchanged types) :
  Restorable types tile ↔ ∀ number < tile.itemCount types, ReadsItem types tile number := by
  have less {pre post : List Placed} {thing : Placed}
      (split : tile.things = pre ++ thing :: post)
      (saved : isSaved types thing) :
      saves types pre < tile.itemCount types := by
    have all : tile.itemCount types = saves types tile.things := rfl
    rw [all, split, saves_append, saves_cons saved]
    omega
  constructor
  · intro restorable number below
    rcases exists_numbered below with ⟨pre, thing, post, split, saved, rfl⟩
    by_cases moves : thing.moveable types
    · have mem : thing ∈ tile.things := by
        rw [split]
        exact mem_append_right _ mem_cons_self
      have ready := restorable.moveable thing mem moves
      refine (reads_moveable_iff map split moves).mpr ⟨ready.1, ready.2, ?_⟩
      rcases place_cases split with ⟨ground, rfl⟩ | ⟨front, back, top, rfl⟩ | ⟨front, down, rfl⟩
      · exact (placed_ground_iff ground moves).mpr (restorable.ground thing ground moves)
      · exact (placed_top_iff map top moves (saves_append _ _).symm).mpr
          (restorable.top front thing back top moves)
      · have counted :
            saves types tile.ground.toList + saves types tile.topItems +
                saves types front =
              saves types (tile.ground.toList ++ (tile.topItems ++ front)) := by
          rw [saves_append, saves_append, Nat.add_assoc]
        exact (placed_down_iff down moves counted).mpr
          (restorable.down front thing post down moves)
    · have stays := Bool.eq_false_iff.mpr moves
      exact (reads_staying_iff map split saved stays).mpr
        (restorable.staying pre thing post split saved stays)
  · intro reads
    have placed {pre post : List Placed} {thing : Placed}
        (split : tile.things = pre ++ thing :: post)
        (moves : thing.moveable types) :=
      (reads_moveable_iff map split moves).mp (reads _ (less split (isSaved_of_moveable moves)))
    constructor
    · intro pre thing post split saved stays
      exact (reads_staying_iff map split saved stays).mp (reads _ (less split saved))
    · intro thing mem moves
      rcases append_of_mem mem with ⟨pre, post, split⟩
      have ready := placed split moves
      exact ⟨ready.1, ready.2.1⟩
    · intro thing ground moves
      have split : tile.things =
          [] ++ thing :: (tile.topItems ++ tile.downItems) := by
        rw [SavedTile.things, mem_def.mp ground]
        rfl
      exact (placed_ground_iff ground moves).mp (placed split moves).2.2
    · intro front thing back top moves
      have split : tile.things =
          (tile.ground.toList ++ front) ++ thing :: (back ++ tile.downItems) := by
        rw [SavedTile.things, top]
        simp only [append_assoc, cons_append]
      have ready := (placed split moves).2.2
      exact (placed_top_iff map top moves (saves_append _ _).symm).mp ready
    · intro front thing back down moves
      have split : tile.things =
          (tile.ground.toList ++ (tile.topItems ++ front)) ++ thing :: back := by
        rw [SavedTile.things, down]
        simp only [append_assoc]
      have counted :
          saves types tile.ground.toList + saves types tile.topItems +
              saves types front =
            saves types (tile.ground.toList ++ (tile.topItems ++ front)) := by
        rw [saves_append, saves_append, Nat.add_assoc]
      have ready := (placed split moves).2.2
      exact (placed_down_iff down moves counted).mp ready

lemma afterRounds_eq (reads : ∀ number < tile.itemCount types, ReadsItem types tile number)
  (rest : Stream) {rounds : Nat} (le : rounds ≤ tile.itemCount types) :
  afterRounds types (tile.itemCount types)
      ⟨tile.onMap types, saveItems types tile (tile.itemCount types) ++ rest, false⟩
      rounds =
    ⟨tile.readFrom types (tile.itemCount types - rounds),
      saveItems types tile (tile.itemCount types - rounds) ++ rest,
      false⟩ := by
  induction rounds with
  | zero => rw [afterRounds, Nat.sub_zero, readFrom_itemCount]
  | succ rounds ih =>
    have next : tile.itemCount types - rounds = tile.itemCount types - (rounds + 1) + 1 := by
      omega
    rw [afterRounds, ih (Nat.le_of_succ_le le), next]
    exact reads _ (by omega) rest

lemma loadTile_saveTile (count : tile.itemCount types < 2 ^ 32) (some : tile.itemCount types ≠ 0)
  (getTile : UInt16 → UInt16 → UInt8 → Option Tile) (rest : Stream) {onMap : Tile}
  (there : getTile tile.x tile.y tile.z = onMap) :
  loadTile types getTile (saveTile types tile ++ rest) =
    Option.some (afterRounds types (tile.itemCount types)
      ⟨onMap, saveItems types tile (tile.itemCount types) ++ rest, false⟩
      (tile.itemCount types)) := by
  have exact : (UInt32.ofNat (tile.itemCount types)).toNat = tile.itemCount types := by
    exact Nat.mod_eq_of_lt count
  simp only [saveTile, if_neg some, append_assoc, loadTile, getId]
  rw [getUInt16_reads tile.x]
  simp only [getD_some]
  rw [getUInt16_reads tile.y]
  rw [getUInt8_reads tile.z]
  simp only [getD_some, there]
  rw [getUInt32_reads]
  simp only [getD_some, exact]

lemma roundTrips_iff_reads (map : tile.MapUnchanged types) :
  RoundTrips types tile ↔ ∀ number < tile.itemCount types, ReadsItem types tile number := by
  constructor
  · intro roundTrips number below rest
    have before := roundTrips.items rest (tile.itemCount types - (number + 1)) (Nat.sub_le _ _)
    have after := roundTrips.items rest (tile.itemCount types - (number + 1) + 1) (by omega)
    have now : tile.itemCount types - (tile.itemCount types - (number + 1)) = number + 1 := by
      omega
    have then_ :
        tile.itemCount types - (tile.itemCount types - (number + 1) + 1) =
          number := by
      omega
    rw [now] at before
    rw [afterRounds, before, then_] at after
    exact after
  · intro reads
    constructor
    · intro rest rounds le
      exact afterRounds_eq reads rest le
    · intro some getTile rest there
      rw [loadTile_saveTile map.count some getTile rest there,
        afterRounds_eq reads rest (Nat.le_refl _), Nat.sub_self]
      rfl

/--
What a tile was saved as is loaded again just when it can be: on a tile of the
map file from which nothing is missing.
-/
lemma roundTrips_iff_restorable (map : tile.MapUnchanged types) :
  RoundTrips types tile ↔ Restorable types tile :=
  (roundTrips_iff_reads map).trans (restorable_iff_reads map).symm

end Store

/-! ## Two tiles of a house -/

def plainType : ItemType where
  known := true
  group := .other
  type := .none
  stackable := false
  alwaysOnTop := false
  alwaysOnTopOrder := 0
  moveable := true
  pickupable := true
  isHangable := false
  isVertical := false
  isHorizontal := false
  blockSolid := false
  hasHeight := false
  allowPickupable := false
  replaceable := false
  floorChangeDown := false
  floorChangeNorth := false
  floorChangeSouth := false
  floorChangeEast := false
  floorChangeWest := false
  slotPosition := ⟨false, false, false, false, false, false, false, false, false, false, false⟩
  weaponType := .none
  maxItems := 0
  weight := 0
  charges := 0
  canWriteText := false
  decayTo := -1
  decayTime := 0

/-- A closed and an open door, a bag, a locker, and anything else. -/
def houseTypes (id : UInt16) : ItemType :=
  if id = 1209 then
    { plainType with
      type := .door, alwaysOnTop := true, alwaysOnTopOrder := 1
      moveable := false }
  else if id = 1211 then
    { plainType with
      type := .door, alwaysOnTop := true, alwaysOnTopOrder := 2
      moveable := false }
  else if id = 1987 then { plainType with group := .container }
  else if id = 2589 then
    { plainType with group := .container, type := .depot, moveable := false }
  else plainType

def plainItem (id : UInt16) (items : List Item) : Item :=
  .mk id ⟨1, 0, 0, 0, [], [], [], 0, 0, 0, 0, ⟨0, 0, 0⟩⟩ items

/-- A door that was opened after the map was loaded, and a bag with a coin. -/
def doorTile : SavedTile where
  x := 100
  y := 100
  z := 7
  ground := none
  topItems := [⟨plainItem 1211 [], 1209⟩]
  downItems := [⟨plainItem 1987 [plainItem 2148 []], 0⟩]

def lockerTile : SavedTile where
  x := 100
  y := 100
  z := 7
  ground := none
  topItems := []
  downItems := [⟨plainItem 2589 [plainItem 2148 []], 2589⟩]

lemma plainItem_known {id : UInt16} {items : List Item} (known : (houseTypes id).known)
  (inside : (classOf houseTypes id).isContainer = false → items = [])
  (size : items.length < 2 ^ 32) (all : ∀ child ∈ items, child.Every (Item.Known houseTypes)) :
  (plainItem id items).Every (Item.Known houseTypes) :=
  .intro _ ⟨known, inside, size⟩ all

lemma coin_known : (plainItem 2148 []).Every (Item.Known houseTypes) :=
  plainItem_known rfl (fun _ => rfl) (by decide) nofun

lemma doorTile_mapUnchanged : doorTile.MapUnchanged houseTypes := by
  have things : doorTile.things =
      [⟨plainItem 1211 [], 1209⟩, ⟨plainItem 1987 [plainItem 2148 []], 0⟩] := rfl
  constructor
  · rw [things]
    simp only [forall_mem_cons, not_mem_nil, false_imp_iff, implies_true, and_true]
    refine ⟨plainItem_known rfl (fun _ => rfl) (by decide) nofun,
      plainItem_known rfl nofun (by decide) ?_⟩
    simpa using coin_known
  · decide
  · rw [things]
    simp only [forall_mem_cons, not_mem_nil, false_imp_iff, implies_true, and_true]
    exact ⟨fun _ => Or.inr (Or.inl ⟨rfl, rfl⟩), nofun⟩

lemma lockerTile_mapUnchanged : lockerTile.MapUnchanged houseTypes := by
  have things : lockerTile.things = [⟨plainItem 2589 [plainItem 2148 []], 2589⟩] := rfl
  constructor
  · rw [things]
    simp only [forall_mem_cons, not_mem_nil, false_imp_iff, implies_true, and_true]
    refine plainItem_known rfl nofun (by decide) ?_
    simpa using coin_known
  · decide
  · rw [things]
    simp only [forall_mem_cons, not_mem_nil, false_imp_iff, implies_true, and_true]
    exact fun _ => Or.inl rfl

lemma doorTile_restorable : Restorable houseTypes doorTile := by
  have coin : (plainItem 2148 []).Every (Item.NoDepot houseTypes) := .intro _ (by decide) fun _ => (absurd · not_mem_nil)
  have bag : (plainItem 1987 [plainItem 2148 []]).Every (Item.NoDepot houseTypes) :=
    .intro _ (by decide) fun child mem => by
      cases mem_singleton.mp mem
      exact coin
  constructor
  · intro pre thing post split _ stays
    rcases pre with _ | ⟨first, _ | ⟨second, pre⟩⟩
    · cases split
      refine ⟨.intro _ (by decide) fun _ => (absurd · not_mem_nil), rfl, by simp, fun _ => ?_⟩
      exact ⟨rfl, fun _ => by decide⟩
    · cases split
      cases stays
    · have lengths := congrArg List.length split
      simp [SavedTile.things, doorTile] at lengths
  · intro thing mem moves
    rcases mem_cons.mp mem with rfl | mem
    · cases moves
    · cases mem_singleton.mp mem
      exact ⟨bag, rfl⟩
  · decide
  · intro pre thing post split moves
    rcases pre with _ | ⟨first, pre⟩
    · cases split
      cases moves
    · cases pre <;> cases split
  · intro pre thing post split moves
    rcases pre with _ | ⟨first, pre⟩
    · cases split
      exact ⟨by decide, rfl, by simp⟩
    · cases pre <;> cases split

lemma lockerTile_rest :
  (afterRounds houseTypes 1
    ⟨lockerTile.onMap houseTypes, saveItems houseTypes lockerTile 1, false⟩
    1).rest = [100, 8, 0, 0] := by
  decide

end OTServ.MapStore
