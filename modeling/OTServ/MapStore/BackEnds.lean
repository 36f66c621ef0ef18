import OTServ.MapStore.Linking
import OTServ.MapStore.Values

/-!
# Two back ends for one tile

A house tile is stored as bytes by `saveTile` or as rows by `saveItems`.  Loaded
from either, it is to have the items it had, each in its place and with all that
was in it, and each of them is to answer as the saved one did.

An object which was made anew answers what its constructor and the attributes
handed to it make of it.  From the bytes it is made without a count, from a row
with its sub type; and different items start to decay.
-/

namespace OTServ.MapStore

open Items
open Library
open OTServ.Library.LevelOrder (Numbered childrenIn)
open List

/-- The counts with which objects were made, and which of them start to decay. -/
structure Making where
  count : Nat → UInt16
  started : Loaded → Bool

/-- `loadItem` makes items without a count; all but containers start to decay. -/
def Making.binary : Making where
  count := fun _ => 0
  started := fun item => !item.itemClass.isContainer

/-- `loadItems` makes the items with the counts of their rows. -/
def Making.relational (rows : List Relational.Row) (result : Relational.Result) : Making where
  count := fun sid =>
    ((rows.find? fun row => row.sid = sid).map Relational.Row.count).getD 0
  started := fun item => result.started item.number

variable {property : Item → Prop} {item : Item} {items : List Item} {number : Nat}
  {object : Loaded} {numbered : Numbered Item} {result : Result} {contents : Nat → List Loaded}
  {thing : Placed} {tile : SavedTile} {id : UInt16}

section Store

variable (types : UInt16 → ItemType) (getNameByGuid : UInt32 → Option (List UInt8))

def Loaded.value (making : Making) (item : Loaded) : PlainItem :=
  (handed getNameByGuid (types item.id) item.itemClass
    (create types item.id (making.count item.number))
    (item.readings.flatMap Prod.snd)).startDecay (types item.id) (making.started item)

mutual

/-- The object is the saved item again, with all that was in it. -/
def Item.Equals (making : Making) : Item → Loaded → Prop
  | .mk id attributes items, loaded =>
    loaded.id = id ∧ loaded.itemClass = classOf types id ∧
      SameAttributes (types id) (loaded.value types getNameByGuid making) attributes.plain ∧
      EqualAll making items loaded.items

def EqualAll (making : Making) : List Item → List Loaded → Prop
  | [], [] => True
  | item :: items, loaded :: others =>
    item.Equals making loaded ∧ EqualAll making items others
  | _, _ => False

end

variable (ofMap : Placed → PlainItem)

/--
The thing on the tile is the saved one again.  One that cannot be moved is the
object of the map file, with what the map file has set.
-/
def Placed.Equals (making : Making) (thing : Placed) (loaded : Loaded) : Prop :=
  loaded.id = thing.item.id ∧
    loaded.itemClass = classOf types thing.item.id ∧
    SameAttributes (types thing.item.id)
      (if thing.moveable types then loaded.value types getNameByGuid making
        else
          handed getNameByGuid (types thing.item.id) loaded.itemClass
            (ofMap thing) (loaded.readings.flatMap Prod.snd))
      thing.item.attributes.plain ∧
    EqualAll types getNameByGuid making thing.item.items loaded.items

/-- The tile has the things it had, each in its part of the tile. -/
structure SavedTile.Equals (making : Making) (tile : SavedTile) (loaded : Tile) : Prop where
  ground : loaded.ground.isSome = tile.ground.isSome
  top : loaded.topItems.length = tile.topItems.length
  things : List.Forall₂ (Placed.Equals types getNameByGuid ofMap making) tile.things loaded.things

/--
A tile whose items were made by their constructors and setters.  What cannot be
moved is the same as in the map file, but for what is saved of it.
-/
structure SavedTile.Matches (tile : SavedTile) : Prop extends
  tile.MapUnchanged types where
  kept : ∀ thing ∈ tile.things, thing.item.Every fun item => item.attributes.plain.Kept
  unsaved : ∀ thing ∈ tile.things, isSaved types thing = false →
    SameAttributes (types thing.item.id) (ofMap thing) thing.item.attributes.plain

/--
Both back ends give back the tile: `loadTile` from the bytes of `saveTile`, item
by item, and `loadItems` from the rows of `saveItems`.
-/
structure BackEndsAgree (tile : SavedTile) : Prop where
  binary :
    RoundTrips types tile ∧ tile.Equals types getNameByGuid ofMap .binary (tile.readFrom types 0)
  relational :
    let rows := Relational.stored types tile
    let result := Relational.loadItems types (tile.onMap types) rows
    result.gone = false ∧
      tile.Equals types getNameByGuid ofMap (.relational rows result) result.tile

/-- The item is read back into one which is made with the count. -/
def Item.Stored (started : Bool) (count : UInt16) (item : Item) : Prop :=
  AttributesStorable getNameByGuid (types item.id) (classOf types item.id)
    started item.attributes.plain (create types item.id count)

def Item.isLeaf (item : Item) : Bool := !Relational.holdsItems types item

def Item.subType (item : Item) : UInt16 :=
  getSubType (types item.id) item.attributes

/-- The attributes of the item come back from the bytes and from the rows. -/
structure Item.InBoth (started : Bool) (item : Item) : Prop where
  binary : item.Stored types getNameByGuid (item.isLeaf types) 0
  relational : item.Stored types getNameByGuid started (item.subType types)

structure Preserved (tile : SavedTile) : Prop where
  restorable : Restorable types tile
  moveable : ∀ thing ∈ tile.things, thing.moveable types →
    thing.item.InBoth types getNameByGuid (thing.item.isLeaf types)
  onMap : ∀ thing ∈ tile.things, isSaved types thing →
    thing.moveable types = false →
      AttributesStorable getNameByGuid (types thing.item.id)
        (classOf types thing.item.id) false thing.item.attributes.plain
        (ofMap thing)
  -- what is in a container of the tile starts to decay when rows are loaded
  direct : ∀ thing ∈ tile.things, ∀ child ∈ thing.item.items,
    child.InBoth types getNameByGuid true ∧ ¬ Decays types child
  deep : ∀ thing ∈ tile.things, ∀ child ∈ thing.item.items,
    ∀ inner ∈ child.items, inner.Every (Item.InBoth types getNameByGuid false)

variable {types getNameByGuid ofMap} {making : Making}

lemma every_iff :
  item.Every property ↔ property item ∧ ∀ child ∈ item.items, child.Every property := by
  constructor
  · rintro ⟨_, self, inside⟩
    exact ⟨self, inside⟩
  · rintro ⟨self, inside⟩
    exact .intro item self inside

lemma equals_iff {loaded : Loaded} :
  item.Equals types getNameByGuid making loaded ↔
    loaded.id = item.id ∧ loaded.itemClass = classOf types item.id ∧
      SameAttributes (types item.id)
        (loaded.value types getNameByGuid making) item.attributes.plain ∧
      EqualAll types getNameByGuid making item.items loaded.items := by
  cases item
  rw [Item.Equals]
  rfl

lemma equalAll_iff {others : List Loaded} :
  EqualAll types getNameByGuid making items others ↔
    List.Forall₂ (Item.Equals types getNameByGuid making) items others := by
  induction items generalizing others with
  | nil => cases others <;> simp [EqualAll]
  | cons item items ih =>
    cases others with
    | nil => simp [EqualAll]
    | cons other others => rw [EqualAll, ih, forall₂_cons]

lemma forall₂_map_iff
  {α β γ : Type} {relation : β → γ → Prop} {f : α → β} {g : α → γ} {list : List α} :
  List.Forall₂ relation (list.map f) (list.map g) ↔ ∀ a ∈ list, relation (f a) (g a) := by
  rw [forall₂_map_left_iff, forall₂_map_right_iff, forall₂_same]

variable {items : List Loaded}

/-- What a saved item is when it was handed what was written for it. -/
lemma value_iff (kept : item.attributes.plain.Kept)
  (isObject :
    object =
      .mk item.id (classOf types item.id) 0
        [(number, (item.attrs types).map Attr.stored)] items) :
  SameAttributes (types item.id)
      (object.value types getNameByGuid making) item.attributes.plain ↔
    item.Stored types getNameByGuid (making.started object) (making.count number) := by
  have attrs : [(number, (item.attrs types).map Attr.stored)].flatMap Prod.snd =
      (item.attrs types).map Attr.stored := by
    rw [flatMap_cons, flatMap_nil, append_nil]
  have value :
      object.value types getNameByGuid making =
        (handed getNameByGuid (types item.id) (classOf types item.id)
          (create types item.id (making.count number))
          ((item.attrs types).map Attr.stored)).startDecay (types item.id)
            (making.started object) := by
    rw [Loaded.value]
    have id : object.id = item.id := by rw [isObject]; rfl
    have itemClass : object.itemClass = classOf types item.id := by
      rw [isObject]
      rfl
    have isNumber : object.number = number := by rw [isObject]; rfl
    have readings : object.readings.flatMap Prod.snd =
        (item.attrs types).map Attr.stored := by
      rw [isObject]
      exact attrs
    rw [id, itemClass, isNumber, readings]
  rw [value]
  exact sameAttributes_iff kept (classOf types item.id)

lemma binary_started :
  Making.binary.started (item.restored types number) = item.isLeaf types := by
  rw [restored_eq]
  rfl

lemma restored_equals_iff
  (kept : item.Every fun item => item.attributes.plain.Kept) (number : Nat) :
  item.Equals types getNameByGuid .binary (item.restored types number) ↔
    item.Every fun item => item.Stored types getNameByGuid (item.isLeaf types) 0 := by
  induction kept with
  | intro item self _ ih =>
    rw [equals_iff, every_iff, equalAll_iff,
      value_iff self (restored_eq types number item), binary_started]
    have inside :
        List.Forall₂ (Item.Equals types getNameByGuid .binary) item.items
            (item.restored types number).items ↔
          ∀ child ∈ item.items, child.Every fun item =>
            item.Stored types getNameByGuid (item.isLeaf types) 0 := by
      have items : (item.restored types number).items =
          item.items.map (Item.restored types number) := by
        rw [restored_eq]
        rfl
      rw [items, forall₂_map_right_iff, forall₂_same]
      exact forall₂_congr ih
    rw [inside, restored_eq]
    constructor
    · exact fun ⟨_, _, stored, below⟩ => ⟨stored, below⟩
    · exact fun ⟨stored, below⟩ => ⟨rfl, rfl, stored, below⟩

/-! ## From the rows -/

section Rows

open Relational

variable {tile : SavedTile}

lemma relational_count (mem : numbered ∈ numberedItems types tile) (result : Result) :
  (Making.relational (stored types tile) result).count numbered.number =
    numbered.thing.subType types := by
  have order := numberedItems_inLevelOrder types tile
  have isRow {other : Row} (isThere : other ∈ stored types tile) :
      ∃ found ∈ numberedItems types tile, row types found = other := by
    rw [stored, mem_reverse] at isThere
    exact mem_map.1 isThere
  have isThere : row types numbered ∈ stored types tile := by
    rw [stored, mem_reverse]
    exact mem_map.2 ⟨numbered, mem, rfl⟩
  rw [Making.relational]
  simp only
  cases found : (stored types tile).find? (fun row => row.sid = numbered.number) with
  | none =>
    have none := List.find?_eq_none.1 found _ isThere
    exact absurd (decide_eq_true rfl) none
  | some other =>
    rcases isRow (mem_of_find?_eq_some found) with ⟨same, isSame, rfl⟩
    have isSid := List.find?_some found
    have number : same.number = numbered.number := of_decide_eq_true isSid
    rw [LevelOrder.row_unique order.numbers isSame mem number]
    rfl

lemma childrenIn_things
  (known : ∀ numbered ∈ numberedItems types tile, numbered.thing.Every (Item.Known types))
  (mem : numbered ∈ numberedItems types tile) :
  (childrenIn (numberedItems types tile) numbered.number).map
      Numbered.thing = numbered.thing.items := by
  have order := numberedItems_inLevelOrder types tile
  rw [order.inside numbered mem]
  split
  · rfl
  · rename_i plain
    cases known numbered mem with
    | intro _ self _ => exact (self.items (Bool.eq_false_iff.mpr plain)).symm

def IsStarted (types : UInt16 → ItemType) (tile : SavedTile) (result : Result) : Prop :=
  ∀ sid, result.started sid ↔
    ∃ numbered ∈ numberedItems types tile, numbered.number = sid ∧
      (StartsOnTile types numbered ∨ IsDirect types tile numbered)

lemma started_iff
  (started : IsStarted types tile result) (mem : numbered ∈ numberedItems types tile) :
  result.started numbered.number = true ↔
    StartsOnTile types numbered ∨ IsDirect types tile numbered := by
  have order := numberedItems_inLevelOrder types tile
  rw [started]
  constructor
  · rintro ⟨other, isThere, same, either⟩
    rwa [LevelOrder.row_unique order.numbers isThere mem same] at either
  · exact fun either => ⟨numbered, mem, rfl, either⟩

lemma started_child (started : IsStarted types tile result) {child : Numbered Item}
  (mem : numbered ∈ numberedItems types tile)
  (isChild : child ∈ childrenIn (numberedItems types tile) numbered.number) :
  result.started child.number = decide (numbered.parent = 0) := by
  rcases mem_filter.1 isChild with ⟨isThere, isParent⟩
  have same := of_decide_eq_true isParent
  have notTop : ¬ StartsOnTile types child := fun top => number_pos mem (same.symm.trans top.1)
  have both := (started_iff started isThere).trans
    ((or_iff_right notTop).trans (isDirect_iff mem same.symm))
  exact Bool.eq_iff_iff.2 (both.trans (decide_eq_true_iff).symm)

/-- The item of a row comes back if all that is in it does. -/
lemma fullItem_equals_iff
  (kept : ∀ numbered ∈ numberedItems types tile, numbered.thing.attributes.plain.Kept)
  (mem : numbered ∈ numberedItems types tile) (items : List Loaded) :
  numbered.thing.Equals types getNameByGuid
      (.relational (stored types tile) result)
      (fullItem types numbered items) ↔
    numbered.thing.Stored types getNameByGuid
        (result.started numbered.number)
        (numbered.thing.subType types) ∧
      EqualAll types getNameByGuid
        (.relational (stored types tile) result) numbered.thing.items
        items := by
  have count := relational_count mem result
  have value :
      SameAttributes (types numbered.thing.id)
          ((fullItem types numbered items).value types getNameByGuid
            (.relational (stored types tile) result))
          numbered.thing.attributes.plain ↔
        numbered.thing.Stored types getNameByGuid
          (result.started numbered.number)
          ((Making.relational (stored types tile) result).count numbered.number) :=
    value_iff (kept numbered mem) rfl
  rw [count] at value
  rw [equals_iff]
  constructor
  · exact fun ⟨_, _, same, inside⟩ => ⟨value.1 same, inside⟩
  · exact fun ⟨same, inside⟩ => ⟨rfl, rfl, value.2 same, inside⟩

/-- What is in the container of a row comes back if each item does. -/
lemma equalAll_children_iff
  (known : ∀ numbered ∈ numberedItems types tile, numbered.thing.Every (Item.Known types))
  (mem : numbered ∈ numberedItems types tile)
  (inside :
    contents numbered.number =
      (childrenIn (numberedItems types tile) numbered.number).map
        fun child => fullItem types child (contents child.number)) :
  EqualAll types getNameByGuid making numbered.thing.items
      (contents numbered.number) ↔
    ∀ child ∈ childrenIn (numberedItems types tile) numbered.number,
      child.thing.Equals types getNameByGuid making
        (fullItem types child (contents child.number)) := by
  rw [equalAll_iff, inside, ← childrenIn_things known mem]
  exact forall₂_map_iff

lemma forall_items_iff
  (known : ∀ numbered ∈ numberedItems types tile, numbered.thing.Every (Item.Known types))
  (mem : numbered ∈ numberedItems types tile) :
  (∀ child ∈ numbered.thing.items, property child) ↔
    ∀ child ∈ childrenIn (numberedItems types tile) numbered.number, property child.thing := by
  rw [← childrenIn_things known mem, forall_mem_map]

/-- An item in a container in a container does not start to decay. -/
def NestedEquals (types : UInt16 → ItemType) (getNameByGuid : UInt32 → Option (List UInt8))
  (tile : SavedTile) (result : Result) (numbered : Numbered Item) (object : Loaded) : Prop :=
  numbered.parent ≠ 0 →
    (numbered.thing.Equals types getNameByGuid
        (.relational (stored types tile) result) object ↔
      numbered.thing.Stored types getNameByGuid
          (result.started numbered.number)
          (numbered.thing.subType types) ∧
        ∀ child ∈ numbered.thing.items, child.Every fun item =>
          item.Stored types getNameByGuid false (item.subType types))

lemma nested_equals (map : tile.Matches types ofMap) (started : IsStarted types tile result)
  (linked : LevelOrder.Linked (fullItem types) (numberedItems types tile) contents)
  (mem : numbered ∈ numberedItems types tile) :
  NestedEquals types getNameByGuid tile result numbered
    (fullItem types numbered (contents numbered.number)) := by
  have order := numberedItems_inLevelOrder types tile
  have known : ∀ numbered ∈ numberedItems types tile,
      numbered.thing.Every (Item.Known types) := fun _ isThere =>
    numberedItems_every map.known isThere
  have kept : ∀ numbered ∈ numberedItems types tile,
      numbered.thing.attributes.plain.Kept := by
    intro numbered isThere
    cases numberedItems_every map.kept isThere with
    | intro _ self _ => exact self
  refine linked.induction order.numbers
    (fun row isThere => (order.linked row isThere).1)
    (Nat.succ_ne_zero 0) ?_ mem
  intro row isThere ih isInside nested
  rw [fullItem_equals_iff kept isThere,
    equalAll_children_iff known isThere isInside,
    forall_items_iff known isThere]
  refine and_congr_right fun _ => forall₂_congr fun child isChild => ?_
  have isParent := of_decide_eq_true (mem_filter.1 isChild).2
  have childNested : child.parent ≠ 0 := by
    rw [isParent]
    exact number_pos isThere
  rw [ih child isChild childNested, every_iff,
    started_child started isThere isChild, decide_eq_false nested]

end Rows

/-! ## The things of the tile -/

def Placed.shown (types : UInt16 → ItemType) (thing : Placed) (number : Nat) : Loaded :=
  if isSaved types thing then thing.item.restored types number
  else thing.onMap types

lemma shown_cons (thing : Placed) (things : List Placed) (number : Nat) :
  shown types 0 number (thing :: things) =
    thing.shown types number :: shown types 0 (number + saves types [thing]) things := by
  rw [MapStore.shown, Placed.shown]
  by_cases saved : isSaved types thing
  · have one : saves types [thing] = 1 := saves_cons saved []
    rw [if_pos saved, if_pos saved, if_pos (Nat.zero_le number), one]
    rfl
  · have none : saves types [thing] = 0 := by
      rw [saves, filter_cons_of_neg saved]
      rfl
    rw [if_neg saved, if_neg saved, none]
    rfl

lemma forall₂_shown_iff {relation : Placed → Loaded → Prop} (f : Loaded → Loaded) (number : Nat)
  (things : List Placed) :
  List.Forall₂ relation things ((shown types 0 number things).map f) ↔
    ∀ pre thing post, things = pre ++ thing :: post →
      relation thing (f (thing.shown types (number + saves types pre))) := by
  induction things generalizing number with
  | nil =>
    refine iff_of_true .nil fun pre thing post none => ?_
    cases pre <;> cases none
  | cons first things ih =>
    rw [shown_cons, map_cons, forall₂_cons, ih]
    constructor
    · rintro ⟨here, later⟩ pre thing post split
      cases pre with
      | nil =>
        cases split
        exact here
      | cons other pre =>
        cases split
        have counted : saves types (first :: pre) =
            saves types [first] + saves types pre := saves_append [first] pre
        rw [counted, ← Nat.add_assoc]
        exact later pre thing post rfl
    · intro all
      refine ⟨all [] first things rfl, fun pre thing post split => ?_⟩
      have counted : saves types (first :: pre) =
          saves types [first] + saves types pre := saves_append [first] pre
      rw [Nat.add_assoc, ← counted]
      exact all (first :: pre) thing post (congrArg _ split)

lemma shown_length (number : Nat) (things : List Placed) :
  (shown types 0 number things).length = things.length := by
  induction things generalizing number with
  | nil => rfl
  | cons thing things ih =>
    rw [shown_cons, length_cons, ih, length_cons]

lemma tile_equals_iff (tile : SavedTile) (f : Loaded → Loaded) :
  tile.Equals types getNameByGuid ofMap making
      ((tile.readFrom types 0).map f) ↔
    ∀ pre thing post, tile.things = pre ++ thing :: post →
      thing.Equals types getNameByGuid ofMap making
        (f (thing.shown types (saves types pre))) := by
  have things : ((tile.readFrom types 0).map f).things = (shown types 0 0 tile.things).map f := by
    rw [map_things, readFrom_things]
  have all :
      List.Forall₂ (Placed.Equals types getNameByGuid ofMap making)
          tile.things ((tile.readFrom types 0).map f).things ↔
        ∀ pre thing post, tile.things = pre ++ thing :: post →
          thing.Equals types getNameByGuid ofMap making
            (f (thing.shown types (saves types pre))) := by
    rw [things, forall₂_shown_iff]
    simp only [Nat.zero_add]
  rw [← all]
  constructor
  · exact fun equals => equals.things
  · intro same
    refine ⟨?_, ?_, same⟩
    · simp only [Tile.map, SavedTile.readFrom, Option.isSome_map]
      cases tile.ground with
      | none => rfl
      | some thing =>
        rw [Option.toList_some, shown_cons]
        rfl
    · simp only [Tile.map, SavedTile.readFrom, length_map, shown_length]

/-- A thing that was read from its bytes or its row. -/
lemma placed_equals_iff (kept : thing.item.attributes.plain.Kept)
  (isObject :
    object =
      .mk thing.item.id (classOf types thing.item.id) 0
        [(number, (thing.item.attrs types).map Attr.stored)] items) :
  thing.Equals types getNameByGuid ofMap making object ↔
    ((thing.moveable types →
        thing.item.Stored types getNameByGuid (making.started object) (making.count number)) ∧
      (thing.moveable types = false →
        AttributesStorable getNameByGuid (types thing.item.id)
          (classOf types thing.item.id) false thing.item.attributes.plain
          (ofMap thing))) ∧
      EqualAll types getNameByGuid making thing.item.items items := by
  have itemClass : object.itemClass = classOf types thing.item.id := by
    rw [isObject]
    rfl
  have id : object.id = thing.item.id := by rw [isObject]; rfl
  have inside : object.items = items := by rw [isObject]; rfl
  have readings : object.readings.flatMap Prod.snd =
      (thing.item.attrs types).map Attr.stored := by
    rw [isObject, Loaded.readings, flatMap_cons, flatMap_nil, append_nil]
  have onMap :
      SameAttributes (types thing.item.id)
          (handed getNameByGuid (types thing.item.id)
            (classOf types thing.item.id) (ofMap thing)
            ((thing.item.attrs types).map Attr.stored))
          thing.item.attributes.plain ↔
        AttributesStorable getNameByGuid (types thing.item.id)
          (classOf types thing.item.id) false thing.item.attributes.plain
          (ofMap thing) := by
    have storable :
        SameAttributes (types thing.item.id)
            ((handed getNameByGuid (types thing.item.id)
              (classOf types thing.item.id) (ofMap thing)
              ((thing.item.attrs types).map Attr.stored)).startDecay (types thing.item.id) false)
            thing.item.attributes.plain ↔ _ :=
      sameAttributes_iff kept (classOf types thing.item.id)
    rwa [startDecay_not] at storable
  rw [Placed.Equals, id, itemClass, inside, readings]
  cases moves : thing.moveable types with
  | true =>
    have value :
        SameAttributes (types thing.item.id)
            (object.value types getNameByGuid making)
            thing.item.attributes.plain ↔ _ := value_iff kept isObject
    simp [value]
  | false => simp [onMap]

lemma unsaved_items (map : tile.MapUnchanged types) (mem : thing ∈ tile.things)
  (unsaved : isSaved types thing = false) : thing.item.items = [] := by
  cases holds : (classOf types thing.item.id).isContainer with
  | false =>
    cases map.known thing mem with
    | intro _ self _ => exact self.items holds
  | true =>
    simp only [isSaved, holds, Bool.true_and, Bool.or_eq_false_iff,
      Bool.not_eq_false', List.isEmpty_iff] at unsaved
    exact unsaved.1.1.2

lemma unsaved_equals (map : tile.Matches types ofMap) (mem : thing ∈ tile.things)
  (unsaved : isSaved types thing = false) :
  thing.Equals types getNameByGuid ofMap making (thing.onMap types) := by
  have stays : thing.moveable types = false := by
    by_contra moves
    rw [isSaved_of_moveable (Bool.not_eq_false _ ▸ moves)] at unsaved
    cases unsaved
  have none := unsaved_items map.toMapUnchanged mem unsaved
  have sameId := mapId_of_not_saved (map.same thing mem stays) (Bool.eq_false_iff.mp unsaved)
  refine ⟨sameId, ?_, ?_, ?_⟩
  · rw [← sameId]
    rfl
  · rw [if_neg (Bool.eq_false_iff.mp stays)]
    exact map.unsaved thing mem unsaved
  · rw [none]
    exact trivial

/-! ## Both back ends -/

lemma shown_saved (saved : isSaved types thing) (number : Nat) :
  thing.shown types number =
    .mk thing.item.id (classOf types thing.item.id) 0
      [(number, (thing.item.attrs types).map Attr.stored)]
      (thing.item.items.map (Item.restored types number)) := by
  rw [Placed.shown, if_pos saved, restored_eq]

lemma kept_of_mem (map : tile.Matches types ofMap) (mem : thing ∈ tile.things) :
  thing.item.attributes.plain.Kept := by
  cases map.kept thing mem with
  | intro _ self _ => exact self

/-- What the attributes of the things on the tile have to be. -/
def ThingsPreserved (types : UInt16 → ItemType)
  (getNameByGuid : UInt32 → Option (List UInt8)) (ofMap : Placed → PlainItem) (tile : SavedTile)
  (count : Item → UInt16) (inside : Item → Prop) : Prop :=
  ∀ thing ∈ tile.things,
    (thing.moveable types →
      thing.item.Stored types getNameByGuid (thing.item.isLeaf types) (count thing.item)) ∧
    (isSaved types thing → thing.moveable types = false →
      AttributesStorable getNameByGuid (types thing.item.id)
        (classOf types thing.item.id) false thing.item.attributes.plain
        (ofMap thing)) ∧
    ∀ child ∈ thing.item.items, inside child

/-- A tile is given back if each of its things is. -/
lemma tile_equals_preserved_iff (map : tile.Matches types ofMap) (f : Loaded → Loaded)
  {count : Item → UInt16} {inside : Item → Prop}
  (onMap : ∀ thing : Placed, f (thing.onMap types) = thing.onMap types)
  (saved : ∀ pre thing post, tile.things = pre ++ thing :: post →
    isSaved types thing → ∃ object number items,
      f (thing.shown types (saves types pre)) = object ∧
      object =
        .mk thing.item.id (classOf types thing.item.id) 0
          [(number, (thing.item.attrs types).map Attr.stored)] items ∧
      (thing.moveable types → making.started object = thing.item.isLeaf types) ∧
      making.count number = count thing.item ∧
      (EqualAll types getNameByGuid making thing.item.items items ↔
        ∀ child ∈ thing.item.items, inside child)) :
  tile.Equals types getNameByGuid ofMap making
      ((tile.readFrom types 0).map f) ↔
    ThingsPreserved types getNameByGuid ofMap tile count inside := by
  rw [tile_equals_iff]
  have one (pre : List Placed) (thing : Placed) (post : List Placed)
      (split : tile.things = pre ++ thing :: post) :
      thing.Equals types getNameByGuid ofMap making
          (f (thing.shown types (saves types pre))) ↔
        (thing.moveable types →
          thing.item.Stored types getNameByGuid (thing.item.isLeaf types) (count thing.item)) ∧
        (isSaved types thing → thing.moveable types = false →
          AttributesStorable getNameByGuid (types thing.item.id)
            (classOf types thing.item.id) false thing.item.attributes.plain
            (ofMap thing)) ∧
        ∀ child ∈ thing.item.items, inside child := by
    have mem : thing ∈ tile.things := by
      rw [split]
      exact mem_append_right _ mem_cons_self
    cases isSaved' : isSaved types thing with
    | true =>
      rcases saved pre thing post split isSaved' with
        ⟨object, number, items, same, isObject, started, counted, below⟩
      rw [same, placed_equals_iff (kept_of_mem map mem) isObject, below, counted, and_assoc]
      refine and_congr ?_ (and_congr_left fun _ => ?_)
      · exact forall_congr' fun moves => by rw [started moves]
      · exact ⟨fun all _ => all, fun all => all rfl⟩
    | false =>
      have shown' : thing.shown types (saves types pre) =
          thing.onMap types := if_neg (Bool.eq_false_iff.mp isSaved')
      rw [shown', onMap]
      refine iff_of_true (unsaved_equals map mem isSaved') ⟨fun moves => ?_, nofun, ?_⟩
      · rw [isSaved_of_moveable moves] at isSaved'
        cases isSaved'
      · rw [unsaved_items map.toMapUnchanged mem isSaved']
        exact nofun
  constructor
  · intro all thing mem
    rcases append_of_mem mem with ⟨pre, post, split⟩
    exact (one pre thing post split).1 (all pre thing post split)
  · intro all pre thing post split
    refine (one pre thing post split).2 (all thing ?_)
    rw [split]
    exact mem_append_right _ mem_cons_self

lemma binary_equals_iff (map : tile.Matches types ofMap) :
  tile.Equals types getNameByGuid ofMap .binary (tile.readFrom types 0) ↔
    ThingsPreserved types getNameByGuid ofMap tile (fun _ => 0)
      (Item.Every fun item => item.Stored types getNameByGuid (item.isLeaf types) 0) := by
  have same : (tile.readFrom types 0).map id = tile.readFrom types 0 := by
    simp only [Tile.map, Option.map_id, map_id, id_eq]
  rw [← same]
  refine tile_equals_preserved_iff map id (fun _ => rfl) ?_
  intro pre thing post split saved
  refine ⟨_, _, _, rfl, shown_saved saved _, fun _ => ?_, rfl, ?_⟩
  · rw [id, shown_saved saved]
    rfl
  · have mem : thing ∈ tile.things := by
      rw [split]
      exact mem_append_right _ mem_cons_self
    rw [equalAll_iff, forall₂_map_right_iff, forall₂_same]
    refine forall₂_congr fun child isChild => ?_
    cases map.kept thing mem with
    | intro _ _ below => exact restored_equals_iff (below child isChild) _

section Rows

open Relational

variable {tile : SavedTile}

lemma topRow_mem {pre post : List Placed} (split : tile.things = pre ++ thing :: post)
  (saved : isSaved types thing) : topRow types pre thing ∈ numberedItems types tile := by
  have rows : ∃ later, numberedItems types tile =
      LevelOrder.numberFrom 0 0 (savedItems types tile) ++ later ∧ _ :=
    numberedItems_eq tile
  rcases rows with ⟨later, rows, -⟩
  have dropped :
      topRow types pre thing ∈
        (LevelOrder.numberFrom 0 0 (savedItems types tile)).drop (saves types pre) := by
    rw [topRows_split split saved]
    exact mem_cons_self
  rw [rows]
  exact mem_append_left _ (mem_of_mem_drop dropped)

lemma relational_equals_iff
  (map : tile.Matches types ofMap) (started : IsStarted types tile result)
  (linked : LevelOrder.Linked (fullItem types) (numberedItems types tile) contents) :
  tile.Equals types getNameByGuid ofMap
      (.relational (stored types tile) result)
      ((tile.readFrom types 0).map (Loaded.fill contents ∘ Loaded.shell)) ↔
    ThingsPreserved types getNameByGuid ofMap tile (Item.subType types)
      fun child =>
        child.Stored types getNameByGuid true (child.subType types) ∧
          ∀ inner ∈ child.items, inner.Every fun item =>
            item.Stored types getNameByGuid false (item.subType types) := by
  refine tile_equals_preserved_iff map _ (fun _ => rfl) ?_
  intro pre thing post split saved
  have member := topRow_mem split saved
  have known : ∀ numbered ∈ numberedItems types tile,
      numbered.thing.Every (Item.Known types) := fun _ isThere =>
    numberedItems_every map.known isThere
  have object :
      (Loaded.fill contents ∘ Loaded.shell)
          (thing.shown types (saves types pre)) =
        fullItem types (topRow types pre thing) (contents (saves types pre + 1)) := by
    have restored : thing.shown types (saves types pre) =
        thing.item.restored types (saves types pre) := if_pos saved
    rw [restored, Function.comp_apply, ← newItem_top, newItem_fill]
    rfl
  refine ⟨_, saves types pre + 1, contents (saves types pre + 1), object, rfl,
    fun moves => ?_, relational_count member result, ?_⟩
  · have starts := started_iff started member
    have notDirect : ¬ IsDirect types tile (topRow types pre thing) := not_isDirect_top rfl
    refine Bool.eq_iff_iff.2 (starts.trans ?_)
    rw [or_iff_left notDirect, Item.isLeaf, Bool.not_eq_true']
    exact ⟨fun both => both.2.2, fun leaf => ⟨rfl, moves, leaf⟩⟩
  · have inside := linked (saves types pre + 1) (Nat.succ_ne_zero _)
    have children :
        (∀ child ∈ thing.item.items,
          child.Stored types getNameByGuid true (child.subType types) ∧
            ∀ inner ∈ child.items, inner.Every fun item =>
              item.Stored types getNameByGuid false (item.subType types)) ↔
          _ := forall_items_iff known member
    have equal :
        EqualAll types getNameByGuid
            (.relational (stored types tile) result) thing.item.items
            (contents (saves types pre + 1)) ↔ _ :=
      equalAll_children_iff known member inside
    rw [equal, children]
    refine forall₂_congr fun child isChild => ?_
    rcases mem_filter.1 isChild with ⟨isThere, isParent⟩
    have nested : child.parent ≠ 0 := by
      rw [of_decide_eq_true isParent]
      exact number_pos member
    have top : (topRow types pre thing).parent = 0 := rfl
    rw [nested_equals map started linked isThere nested,
      started_child started member isChild, decide_eq_true top]

lemma gone_iff (map : tile.MapUnchanged types) :
  (∃ numbered ∈ numberedItems types tile,
      IsDirect types tile numbered ∧ Decays types numbered.thing) ↔
    ∃ thing ∈ tile.things, ∃ child ∈ thing.item.items, Decays types child := by
  have order := numberedItems_inLevelOrder types tile
  have known : ∀ numbered ∈ numberedItems types tile,
      numbered.thing.Every (Item.Known types) := fun _ isThere =>
    numberedItems_every map.known isThere
  constructor
  · rintro ⟨numbered, mem, ⟨up, isUp, same, top⟩, decays⟩
    have saved : up.thing ∈ savedItems types tile := by
      have queued := order.queued (savedItems types tile) 0 mem_cons_self
      rw [← queued]
      exact mem_map.2 ⟨up, mem_filter.2 ⟨isUp, decide_eq_true top⟩, rfl⟩
    rcases mem_map.1 saved with ⟨thing, isThere, item⟩
    refine ⟨thing, (mem_filter.1 isThere).1, numbered.thing, ?_, decays⟩
    rw [item, ← childrenIn_things known isUp]
    exact mem_map.2 ⟨numbered, mem_filter.2 ⟨mem, decide_eq_true same.symm⟩, rfl⟩
  · rintro ⟨thing, mem, child, isChild, decays⟩
    cases isSaved' : isSaved types thing with
    | false =>
      rw [unsaved_items map mem isSaved'] at isChild
      cases isChild
    | true =>
      rcases append_of_mem mem with ⟨pre, post, split⟩
      have isUp := topRow_mem split isSaved'
      have items := childrenIn_things known isUp
      have isThere : child ∈ (topRow types pre thing).thing.items := isChild
      rw [← items] at isThere
      rcases mem_map.1 isThere with ⟨numbered, isRow, rfl⟩
      rcases mem_filter.1 isRow with ⟨isHere, isParent⟩
      exact ⟨numbered, isHere, ⟨_, isUp, (of_decide_eq_true isParent).symm, rfl⟩, decays⟩

end Rows

lemma every_and_iff {other : Item → Prop} :
  (item.Every fun item => property item ∧ other item) ↔
    item.Every property ∧ item.Every other := by
  constructor
  · intro both
    induction both with
    | intro item self _ ih =>
      exact ⟨.intro item self.1 fun child mem => (ih child mem).1,
        .intro item self.2 fun child mem => (ih child mem).2⟩
  · rintro ⟨first, second⟩
    induction first with
    | intro item self _ ih =>
      rcases every_iff.1 second with ⟨otherSelf, below⟩
      exact .intro item ⟨self, otherSelf⟩ fun child mem => ih child mem (below child mem)

lemma inBoth_iff {started : Bool} :
  item.InBoth types getNameByGuid started ↔
    item.Stored types getNameByGuid (item.isLeaf types) 0 ∧
      item.Stored types getNameByGuid started (item.subType types) :=
  ⟨fun both => ⟨both.1, both.2⟩, fun both => ⟨both.1, both.2⟩⟩

/-- What comes back from the bytes and from the rows comes back from both. -/
lemma preserved_iff :
  (ThingsPreserved types getNameByGuid ofMap tile (fun _ => 0)
      (Item.Every fun item => item.Stored types getNameByGuid (item.isLeaf types) 0) ∧
    ThingsPreserved types getNameByGuid ofMap tile (Item.subType types)
      (fun child =>
        child.Stored types getNameByGuid true (child.subType types) ∧
          ∀ inner ∈ child.items, inner.Every fun item =>
            item.Stored types getNameByGuid false (item.subType types))) ∧
    (¬ ∃ thing ∈ tile.things, ∃ child ∈ thing.item.items, Decays types child) ∧
    Restorable types tile ↔
  Preserved types getNameByGuid ofMap tile := by
  have inner (item : Item) :
      item.Every (Item.InBoth types getNameByGuid false) ↔
        (item.Every fun item =>
            item.Stored types getNameByGuid (item.isLeaf types) 0) ∧
          item.Every fun item => item.Stored types getNameByGuid false (item.subType types) := by
    rw [← every_and_iff]
    simp only [← inBoth_iff]
  constructor
  · rintro ⟨⟨binary, relational⟩, stays, restorable⟩
    refine ⟨restorable, ?_, ?_, ?_, ?_⟩
    · exact fun thing mem moves =>
        ⟨(binary thing mem).1 moves, (relational thing mem).1 moves⟩
    · exact fun thing mem => (binary thing mem).2.1
    · intro thing mem child isChild
      have fromBytes := (binary thing mem).2.2 child isChild
      have fromRows := (relational thing mem).2.2 child isChild
      exact ⟨⟨(every_iff.1 fromBytes).1, fromRows.1⟩, fun decays =>
        stays ⟨thing, mem, child, isChild, decays⟩⟩
    · intro thing mem child isChild other isOther
      have fromBytes := (binary thing mem).2.2 child isChild
      have fromRows := (relational thing mem).2.2 child isChild
      exact (inner other).2 ⟨(every_iff.1 fromBytes).2 other isOther, fromRows.2 other isOther⟩
  · rintro ⟨restorable, moveable, onMap, direct, deep⟩
    refine ⟨⟨?_, ?_⟩, ?_, restorable⟩
    · intro thing mem
      refine ⟨fun moves => (moveable thing mem moves).binary,
        onMap thing mem, fun child isChild => every_iff.2 ⟨?_, ?_⟩⟩
      · exact (direct thing mem child isChild).1.binary
      · exact fun other isOther =>
          ((inner other).1 (deep thing mem child isChild other isOther)).1
    · intro thing mem
      refine ⟨fun moves => (moveable thing mem moves).relational,
        onMap thing mem, fun child isChild => ⟨?_, ?_⟩⟩
      · exact (direct thing mem child isChild).1.relational
      · exact fun other isOther =>
          ((inner other).1 (deep thing mem child isChild other isOther)).2
    · rintro ⟨thing, mem, child, isChild, decays⟩
      exact (direct thing mem child isChild).2 decays

end Store

/-! ## A door with a bag, and a locker -/

def unchanged (thing : Placed) : PlainItem := thing.item.attributes.plain

lemma plainItem_kept
  (all : ∀ child ∈ items, child.Every fun item => item.attributes.plain.Kept) :
  (plainItem id items).Every fun item => item.attributes.plain.Kept :=
  .intro _ ⟨Or.inl rfl, Nat.two_pow_pos 16, Nat.two_pow_pos 16, Nat.two_pow_pos 16, Or.inl rfl⟩ all

lemma bag_kept (id : UInt16) :
  (plainItem id [plainItem 2148 []]).Every fun item =>
    item.attributes.plain.Kept := by
  refine plainItem_kept fun child mem => ?_
  cases mem_singleton.mp mem
  exact plainItem_kept nofun

lemma doorTile_matches : doorTile.Matches houseTypes unchanged := by
  refine { doorTile_mapUnchanged with kept := ?_, unsaved := ?_ }
  · intro thing mem
    rcases mem_cons.mp mem with rfl | mem
    · exact plainItem_kept nofun
    · cases mem_singleton.mp mem
      exact bag_kept 1987
  · intro thing mem unsaved
    rcases mem_cons.mp mem with rfl | mem
    · cases unsaved
    · cases mem_singleton.mp mem
      cases unsaved

lemma lockerTile_matches : lockerTile.Matches houseTypes unchanged := by
  refine { lockerTile_mapUnchanged with kept := ?_, unsaved := ?_ }
  · intro thing mem
    cases mem_singleton.mp mem
    exact bag_kept 2589
  · intro thing mem unsaved
    cases mem_singleton.mp mem
    cases unsaved

variable (started : Bool)

lemma plainItem_storable
  (plain : ¬ PlainItem.isFluid (houseTypes id) ∧
    (houseTypes id).charges = 0 ∧ (houseTypes id).decayTo = -1) :
  ItemStorable (houseTypes id) started
    (plainItem id items).attributes.plain
    (plainItem id items).attributes.plain := by
  refine ⟨⟨Or.inr rfl, ?_, fun fluid => absurd fluid plain.1, Or.inr rfl,
    Or.inr rfl, Or.inr rfl, Or.inr rfl, Or.inr ⟨rfl, rfl⟩,
    fun decays => decays⟩, rfl, rfl,
    fun _ decays => absurd plain.2.2 decays⟩
  rw [if_neg fun both => both.2 plain.2.1]

lemma plainItem_inBoth
  (itemClass : classOf houseTypes id = .item ∨ classOf houseTypes id = .container)
  (plain : ¬ PlainItem.isFluid (houseTypes id) ∧
    (houseTypes id).charges = 0 ∧ (houseTypes id).decayTo = -1)
  (fresh : ∀ count : UInt16, count = 0 ∨ count = 1 →
    create houseTypes id count = (plainItem id items).attributes.plain) :
  (plainItem id items).InBoth houseTypes (fun _ => none) started := by
  have stored (started : Bool) (count : UInt16) (small : count = 0 ∨ count = 1) :
      (plainItem id items).Stored houseTypes (fun _ => none) started count := by
    have isId : (plainItem id items).id = id := rfl
    rw [Item.Stored, isId, fresh count small]
    rcases itemClass with same | same <;> rw [same] <;>
      exact ⟨plainItem_storable started plain, rfl⟩
  refine ⟨stored _ 0 (Or.inl rfl), stored _ _ (Or.inr ?_)⟩
  have isId : (plainItem id items).id = id := rfl
  have noFluid : ¬ ((houseTypes id).group = .fluid ∨ (houseTypes id).group = .splash) := plain.1
  rw [Item.subType, isId, getSubType, if_neg noFluid, if_neg fun some => some plain.2.1]
  rfl

lemma coin_inBoth : (plainItem 2148 []).InBoth houseTypes (fun _ => none) started := by
  refine plainItem_inBoth started (Or.inl (by decide)) (by decide) ?_
  rintro count (rfl | rfl) <;> decide

lemma bag_inBoth :
  (plainItem 1987 [plainItem 2148 []]).InBoth houseTypes (fun _ => none)
    started := by
  refine plainItem_inBoth started (Or.inr (by decide)) (by decide) ?_
  rintro count (rfl | rfl) <;> decide

lemma doorTile_preserved : Preserved houseTypes (fun _ => none) unchanged doorTile := by
  refine ⟨doorTile_restorable, ?_, ?_, ?_, ?_⟩
  · intro thing mem moves
    rcases mem_cons.mp mem with rfl | mem
    · cases moves
    · cases mem_singleton.mp mem
      exact bag_inBoth _
  · intro thing mem _ stays
    rcases mem_cons.mp mem with rfl | mem
    · have isDoor : classOf houseTypes (plainItem 1211 []).id = .door := by
        decide
      refine ⟨?_, rfl, rfl, rfl⟩
      exact ⟨rfl, rfl, rfl, rfl, rfl, rfl, rfl, rfl, Iff.rfl⟩
    · cases mem_singleton.mp mem
      cases stays
  · intro thing mem child isChild
    rcases mem_cons.mp mem with rfl | mem
    · cases isChild
    · cases mem_singleton.mp mem
      cases mem_singleton.mp isChild
      exact ⟨coin_inBoth true, by rw [Decays]; decide⟩
  · intro thing mem child isChild inner isInner
    rcases mem_cons.mp mem with rfl | mem
    · cases isChild
    · cases mem_singleton.mp mem
      cases mem_singleton.mp isChild
      cases isInner

end OTServ.MapStore
