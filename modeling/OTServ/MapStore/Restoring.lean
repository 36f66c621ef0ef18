import OTServ.MapStore.Tiles

/-!
# What a stored tile is to become

The items of a tile are read from the last to the first.  While those in front
are still to be read, the tile is to hold the items of the map file and, each in
its place, the items read so far as they were saved.
-/

namespace OTServ.MapStore

open Items
open Library.ByteStreams
open List

variable {thing : Placed} {things pre : List Placed} {number count : Nat} {item : Loaded}

section Store

variable (types : UInt16 → ItemType)

def Placed.onMap (thing : Placed) : Loaded :=
  .mk thing.mapId (classOf types thing.mapId) 0 [] []

def Placed.moveable (thing : Placed) : Bool :=
  (types thing.item.id).moveable

mutual

def Item.startDecaying : Item → Bool
  | .mk id attributes items =>
    if (classOf types id).isContainer then startDecayingItems items
    else
      decaysAtOnce (types id) (((Item.mk id attributes items).attrs types).map Attr.stored)

def startDecayingItems : List Item → Bool
  | [] => false
  | item :: items => item.startDecaying || startDecayingItems items

end

def saves (things : List Placed) : Nat :=
  (things.filter (isSaved types)).length

def unread (things : List Placed) : List Loaded :=
  (things.filter fun thing => !thing.moveable types).map (Placed.onMap types)

/--
The things as they are shown once all items from this number on have been read;
the first of them that is saved has the given number.
-/
def shown (count : Nat) : Nat → List Placed → List Loaded
  | _, [] => []
  | number, thing :: things =>
    if isSaved types thing then
      (if count ≤ number then [thing.item.restored types number]
        else unread types [thing]) ++
        shown count (number + 1) things
    else thing.onMap types :: shown count number things

/-- The tile once all items from this number on have been read. -/
def SavedTile.readFrom (tile : SavedTile) (count : Nat) : Tile where
  ground := (shown types count 0 tile.ground.toList).head?
  topItems := shown types count (saves types tile.ground.toList) tile.topItems
  downItems :=
    shown types count
      (saves types tile.ground.toList + saves types tile.topItems)
      tile.downItems

/-- The number in the map file is that of the item, or both are doors or beds. -/
def Placed.SameOnMap (thing : Placed) : Prop :=
  thing.mapId = thing.item.id ∨
    (classOf types thing.mapId = .door ∧
      classOf types thing.item.id = .door) ∨
      (classOf types thing.mapId = .bed ∧ classOf types thing.item.id = .bed)

/-- The tile as it is in the map file, with just what cannot be moved. -/
def SavedTile.onMap (tile : SavedTile) : Tile where
  ground := (unread types tile.ground.toList).head?
  topItems := unread types tile.topItems
  downItems := unread types tile.downItems

/--
A tile whose items are known, and whose items that cannot be moved are those of
the map file.
-/
structure SavedTile.MapUnchanged (tile : SavedTile) : Prop where
  known : ∀ thing ∈ tile.things, thing.item.Every (Item.Known types)
  count : tile.itemCount types < 2 ^ 32
  same : ∀ thing ∈ tile.things, thing.moveable types = false → thing.SameOnMap types

variable {types}

@[simp]
lemma restored_id (item : Item) (number : Nat) : (item.restored types number).id = item.id := by
  rw [restored_eq]
  rfl

@[simp]
lemma restored_readings (item : Item) (number : Nat) :
  (item.restored types number).readings = [(number, (item.attrs types).map Attr.stored)] := by
  rw [restored_eq]
  rfl

mutual

lemma restored_startDecaying (number : Nat) (item : Item) :
  (item.restored types number).startDecaying types = item.startDecaying types := by
  cases item with
  | mk id attributes items =>
    rw [Item.restored, Loaded.startDecaying, Item.startDecaying,
      restored_startDecayingAll number items]
    simp only [flatMap_cons, flatMap_nil, append_nil]

lemma restored_startDecayingAll (number : Nat) (items : List Item) :
  startDecayingAll types (restoredAll types number items) = startDecayingItems types items := by
  cases items with
  | nil => rfl
  | cons item items =>
    rw [restoredAll, startDecayingAll, startDecayingItems,
      restored_startDecaying number item,
      restored_startDecayingAll number items]

end

lemma saves_append (left right : List Placed) :
  saves types (left ++ right) = saves types left + saves types right := by
  rw [saves, filter_append, length_append]
  rfl

lemma saves_cons (saved : isSaved types thing) (things : List Placed) :
  saves types (thing :: things) = saves types things + 1 := by
  rw [saves, filter_cons_of_pos saved, length_cons]
  rfl

lemma itemCount_eq (tile : SavedTile) :
  tile.itemCount types =
    saves types tile.ground.toList +
      (saves types tile.topItems + saves types tile.downItems) := by
  rw [← saves_append, ← saves_append]
  rfl

lemma exists_numbered (less : number < saves types things) :
  ∃ pre thing post, things = pre ++ thing :: post ∧
    isSaved types thing ∧ saves types pre = number := by
  induction things generalizing number with
  | nil => cases less
  | cons first things ih =>
    by_cases saved : isSaved types first
    · cases number with
      | zero => exact ⟨[], first, things, rfl, saved, rfl⟩
      | succ number =>
        rw [saves_cons saved] at less
        rcases ih (Nat.lt_of_succ_lt_succ less) with ⟨pre, thing, post, split, isOne, counted⟩
        refine ⟨first :: pre, thing, post, ?_, isOne, ?_⟩
        · rw [split]
          rfl
        · rw [saves_cons saved, counted]
    · have skipped (more : List Placed) : saves types (first :: more) = saves types more := by
        rw [saves, filter_cons_of_neg saved]
        rfl
      rw [skipped] at less
      rcases ih less with ⟨pre, thing, post, split, isOne, counted⟩
      refine ⟨first :: pre, thing, post, ?_, isOne, ?_⟩
      · rw [split]
        rfl
      · rw [skipped, counted]

lemma saveItems_succ {tile : SavedTile} {post : List Placed}
  (split : tile.things = pre ++ thing :: post) (saved : isSaved types thing) (rest : Stream) :
  saveItems types tile (saves types pre + 1) ++ rest =
    saveItem types thing.item ++ (saveItems types tile (saves types pre) ++ rest) := by
  have all :
      tile.things.filter (isSaved types) =
        pre.filter (isSaved types) ++ thing :: post.filter (isSaved types) := by
    rw [split, filter_append, filter_cons_of_pos saved]
  simp only [saveItems, all, saves]
  rw [take_left' rfl, ← singleton_append, ← append_assoc,
    take_left' (by rw [length_append]; rfl), reverse_append,
    reverse_singleton, singleton_append, flatMap_cons,
    append_assoc]

/-! ## What is shown -/

lemma unread_append (left right : List Placed) :
  unread types (left ++ right) = unread types left ++ unread types right := by
  simp only [unread, filter_append, map_append]

lemma unread_stays (stays : thing.moveable types = false) :
  unread types [thing] = [thing.onMap types] := by
  rw [unread, filter_cons_of_pos (by rw [stays]; rfl)]
  rfl

lemma unread_moves (moves : thing.moveable types) : unread types [thing] = [] := by
  rw [unread, filter_cons_of_neg (by rw [moves]; exact nofun)]
  rfl

lemma mem_unread (mem : item ∈ unread types things) :
  ∃ thing ∈ things, thing.moveable types = false ∧ thing.onMap types = item := by
  rcases mem_map.mp mem with ⟨thing, kept, rfl⟩
  have stays := (mem_filter.mp kept).2
  rw [Bool.not_eq_true'] at stays
  exact ⟨thing, (mem_filter.mp kept).1, stays, rfl⟩

lemma mem_unread_of (mem : thing ∈ things) (stays : thing.moveable types = false) :
  thing.onMap types ∈ unread types things := by
  refine mem_map.mpr ⟨thing, mem_filter.mpr ⟨mem, ?_⟩, rfl⟩
  rw [stays]
  rfl

lemma isSaved_of_moveable (moves : thing.moveable types) : isSaved types thing := by
  have moves : (types thing.item.id).moveable = true := moves
  simp only [isSaved, moves, Bool.true_or]

lemma shown_append (count number : Nat) (left right : List Placed) :
  shown types count number (left ++ right) =
    shown types count number left ++ shown types count (number + saves types left) right := by
  induction left generalizing number with
  | nil => rfl
  | cons thing left ih =>
    rw [cons_append, shown, shown]
    by_cases saved : isSaved types thing
    · have next : number + saves types (thing :: left) = number + 1 + saves types left := by
        rw [saves_cons saved]
        omega
      rw [if_pos saved, if_pos saved, ih, next, append_assoc]
    · have same : saves types (thing :: left) = saves types left := by
        rw [saves, filter_cons_of_neg saved]
        rfl
      rw [if_neg saved, if_neg saved, ih, same, cons_append]

lemma shown_unread (later : number + saves types things ≤ count) :
  shown types count number things = unread types things := by
  induction things generalizing number with
  | nil => rfl
  | cons thing things ih =>
    rw [← singleton_append, unread_append]
    rw [singleton_append, shown]
    by_cases saved : isSaved types thing
    · rw [saves_cons saved] at later
      rw [if_pos saved, if_neg (by omega), ih (by omega)]
    · have same : saves types (thing :: things) = saves types things := by
        rw [saves, filter_cons_of_neg saved]
        rfl
      have stays : thing.moveable types = false := by
        by_contra moves
        exact saved (isSaved_of_moveable (Bool.not_eq_false _ ▸ moves))
      rw [same] at later
      rw [if_neg saved, ih later, unread_stays stays]
      rfl

lemma shown_read (read : count ≤ number) (things : List Placed) :
  shown types count number things = shown types 0 number things := by
  induction things generalizing number with
  | nil => rfl
  | cons thing things ih =>
    rw [shown, shown, if_pos read, if_pos (Nat.zero_le number),
      ih (Nat.le_succ_of_le read), ih read]

lemma shown_before (saved : isSaved types thing) (post : List Placed)
  (counted : number + saves types pre = count) :
  shown types (count + 1) number (pre ++ thing :: post) =
    unread types pre ++ (unread types [thing] ++ shown types 0 (count + 1) post) := by
  rw [shown_append, counted, shown_unread (by omega), shown, if_pos saved,
    if_neg (by omega), shown_read (Nat.le_refl _)]

lemma shown_after (saved : isSaved types thing) (post : List Placed)
  (counted : number + saves types pre = count) :
  shown types count number (pre ++ thing :: post) =
    unread types pre ++ (thing.item.restored types count :: shown types 0 (count + 1) post) := by
  rw [shown_append, counted, shown_unread (by omega), shown, if_pos saved,
    if_pos (Nat.le_refl _), shown_read (Nat.le_succ _)]
  rfl

lemma mem_shown (mem : item ∈ shown types count number things) :
  item.readings = [] ∨ ∃ later attrs, number ≤ later ∧ item.readings = [(later, attrs)] := by
  induction things generalizing number with
  | nil => cases mem
  | cons thing things ih =>
    rw [shown] at mem
    split at mem
    · rcases mem_append.mp mem with mem | mem
      · split at mem
        · cases mem_singleton.mp mem
          exact Or.inr ⟨number, _, Nat.le_refl _, restored_readings _ _⟩
        · rcases mem_unread mem with ⟨_, _, _, rfl⟩
          exact Or.inl rfl
      · rcases ih mem with none | ⟨later, attrs, le, readings⟩
        · exact Or.inl none
        · exact Or.inr ⟨later, attrs, Nat.le_of_succ_le le, readings⟩
    · rcases mem_cons.mp mem with rfl | mem
      · exact Or.inl rfl
      · exact ih mem

lemma ground_toList (count : Nat) (ground : Option Placed) :
  (shown types count 0 ground.toList).head?.toList = shown types count 0 ground.toList := by
  cases ground with
  | none => rfl
  | some thing =>
    rw [Option.toList_some, shown]
    split
    · split
      · rfl
      · rw [shown, append_nil]
        by_cases moves : thing.moveable types
        · rw [unread_moves moves]
          rfl
        · rw [unread_stays (Bool.eq_false_iff.mpr moves)]
          rfl
    · rfl

lemma readFrom_things (tile : SavedTile) (count : Nat) :
  (tile.readFrom types count).things = shown types count 0 tile.things := by
  rw [Tile.things, SavedTile.readFrom, SavedTile.things, shown_append,
    shown_append, Nat.zero_add, ground_toList]

end Store

end OTServ.MapStore
