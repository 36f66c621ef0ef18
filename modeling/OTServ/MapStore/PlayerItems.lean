import Mathlib.Algebra.Order.BigOperators.Group.List
import Mathlib.Algebra.Order.Group.Nat
import OTServ.Library.OrderedMap
import OTServ.MapStore.Linking

/-!
# The rows of `player_items` and `player_depotitems`

`saveItems` writes a row for every item of a player and for all that is in them.
The numbers start behind one hundred; what is not in a container has the number of
its slot or depot in the place of a container's.

`loadItems` makes an item of every row.  `loadPlayer` then goes through them from
the highest number to the lowest: an item with a slot or with a depot below one
hundred is put there, any other one is put into the container of the number.

The slots are always rebuilt.  The depots are if all their numbers are below one
hundred: any other depot is searched among the containers and lost.
-/

namespace OTServ.MapStore.PlayerItems

open Items
open Library
open Library.LevelOrder
open Library.ByteStreams
open MapStore.Relational
open List Function

section Store

variable (types : UInt16 → ItemType)

/-- The slots which `savePlayer` goes through. -/
def isSlot (pid : Nat) : Bool := 1 ≤ pid && pid ≤ 10

/--
The inventory and the depots of a player.  All items are of the item table, and a
depot is a `Depot`.
-/
structure Player where
  inventory : Nat → Option Item
  depots : OrderedMap Nat Item
  worn_known : ∀ slot, ∀ item ∈ inventory slot, item.Every (Item.Known types)
  depots_known : ∀ entry ∈ depots.entries, entry.2.Every (Item.Known types)
  depots_class : ∀ entry ∈ depots.entries, classOf types entry.2.id = .depot

/--
The items with their `runningId` and the pid.  Those of the list come first, then
what is in the containers, in the order in which these were met.
-/
def numberedItems (itemList : List (Nat × Item)) : List (Numbered Item) :=
  let queue := itemList.map fun entry => ([entry.2], entry.1)
  LevelOrder.rows Item.items (holdsItems types) (LevelOrder.queueWeight itemWeight queue) 100 queue

/-- `IOPlayer::saveItems` -/
def saveItems (itemList : List (Nat × Item)) : List Row :=
  (numberedItems types itemList).map (row types)

/-- The tables `player_items` and `player_depotitems` for a player. -/
structure Tables where
  items : List Row
  depotItems : List Row

variable {types} in
def Player.worn (player : Player types) : List (Nat × Item) :=
  (List.range' 1 10).filterMap fun slotId =>
    (player.inventory slotId).map fun item => (slotId, item)

/-- The part of `IOPlayer::savePlayer` that saves the items. -/
def savePlayer (player : Player types) : Tables where
  items := saveItems types player.worn
  depotItems := saveItems types player.depots.entries

/-- What `itemMap` has for a number: an object, and the pid of its row. -/
structure Mapped where
  sid : Nat
  pid : Nat
  id : UInt16
  itemClass : ItemClass
  count : UInt16
  attributes : List Attr

/-- `IOPlayer::loadItems`; the rows come by descending number. -/
def loadItems (rows : List Row) : List Mapped :=
  rows.filterMap fun row =>
    if (types row.itemtype).known then
      let itemClass := classOf types row.itemtype
      let read := unserializeAttr itemClass row.attributes
      some ⟨row.sid, row.pid, row.itemtype, itemClass, row.count, read.attrs⟩
    else none

/--
Where the objects are: what is in each slot or depot and what is in each
container.  An object is found by the number of its row.
-/
structure Memory where
  top : Nat → Option Nat
  itemlist : Nat → List Nat

section Linking

variable (isTop : Nat → Bool) (fits : ItemClass → Bool)

/--
The loops of `loadPlayer`.  A slot or depot is only taken when it is free, and by
an object that can be put there.
-/
def linkRow (itemMap : List Mapped) (memory : Memory) (mapped : Mapped) : Memory :=
  if isTop mapped.pid then
    if fits mapped.itemClass ∧ memory.top mapped.pid = none then
      { memory with top := update memory.top mapped.pid (some mapped.sid) }
    else memory
  else
    match itemMap.find? (·.sid = mapped.pid) with
    | some up =>
      if up.itemClass.isContainer then
        { memory with
          itemlist := update memory.itemlist up.sid (mapped.sid :: memory.itemlist up.sid) }
      else memory
    | none => memory

structure Loaded where
  itemMap : List Mapped
  memory : Memory

/-- A table is read and its objects are put where they belong. -/
def load (rows : List Row) : Loaded :=
  let itemMap := loadItems types rows
  ⟨itemMap, itemMap.foldl (linkRow isTop fits itemMap) ⟨fun _ => none, fun _ => []⟩⟩

end Linking

structure LoadedPlayer where
  items : Loaded
  depotItems : Loaded

def isDepot (pid : Nat) : Bool := pid < 100

/-- The part of `IOPlayer::loadPlayer` that loads the items, `ORDER BY sid DESC`. -/
def loadPlayer (tables : Tables) : LoadedPlayer where
  items := load types isSlot (fun _ => true) tables.items.reverse
  depotItems := load types isDepot (fun itemClass => itemClass = .depot) tables.depotItems.reverse

/-- The object has the data of the item and the same things in it, in order. -/
inductive Shows (loaded : Loaded) : Nat → Item → Prop
  | intro (mapped : Mapped) (item : Item)
      (made : mapped ∈ loaded.itemMap)
      (id : mapped.id = item.id)
      (itemClass : mapped.itemClass = classOf types item.id)
      (count : mapped.count = getSubType (types item.id) item.attributes)
      (attributes : mapped.attributes = (item.attrs types).map Attr.stored)
      (inside : List.Forall₂ (Shows loaded) (loaded.memory.itemlist mapped.sid) item.items) :
      Shows loaded mapped.sid item

/-- Every slot and every depot has what it had, and nothing else. -/
structure Rebuilt (player : Player types) (loaded : LoadedPlayer) : Prop where
  inventory : ∀ slot, isSlot slot →
    Option.Rel (Shows types loaded.items) (loaded.items.memory.top slot) (player.inventory slot)
  depots : ∀ depotId,
    Option.Rel (Shows types loaded.depotItems)
      (loaded.depotItems.memory.top depotId) (player.depots.find? depotId)

end Store

variable {types : UInt16 → ItemType} {itemList : List (Nat × Item)} {isTop : Nat → Bool}
  {fits : ItemClass → Bool} {rows : List Row} {numbered later : List (Numbered Item)}
  {up : Numbered Item} {pid : Nat} {item : Item}

lemma linkRow_top
  {itemMap : List Mapped} {memory : Memory} {mapped : Mapped} (outside : isTop pid = false) :
  (linkRow isTop fits itemMap memory mapped).top pid = memory.top pid := by
  unfold linkRow
  split
  · rename_i isThere
    split
    · exact update_of_ne (fun same => by simp_all) _ _
    · rfl
  · split
    · split <;> rfl
    · rfl

lemma load_top (outside : isTop pid = false) :
  (load types isTop fits rows).memory.top pid = none := by
  unfold load
  suffices kept : ∀ (objects : List Mapped) (memory : Memory),
      (objects.foldl (linkRow isTop fits (loadItems types rows)) memory).top pid =
        memory.top pid from kept _ _
  intro objects
  induction objects with
  | nil => exact fun _ => rfl
  | cons mapped objects ih => exact fun memory => (ih _).trans (linkRow_top outside)

def newObject (types : UInt16 → ItemType) (numbered : Numbered Item) : Mapped where
  sid := numbered.number
  pid := numbered.parent
  id := numbered.thing.id
  itemClass := classOf types numbered.thing.id
  count := getSubType (types numbered.thing.id) numbered.thing.attributes
  attributes := (numbered.thing.attrs types).map Attr.stored

def objects (types : UInt16 → ItemType) (itemList : List (Nat × Item)) : List Mapped :=
  ((numberedItems types itemList).map (newObject types)).reverse

/--
The rows of items that can be saved: every slot or depot has at most one of them,
and no number of a row is that of a slot or depot.
-/
structure Savable (types : UInt16 → ItemType) (isTop : Nat → Bool)
  (fits : ItemClass → Bool) (itemList : List (Nat × Item)) : Prop where
  tops : ∀ entry ∈ itemList, isTop entry.1
  small : ∀ pid, isTop pid → pid ≤ 100
  distinct : (itemList.map Prod.fst).Nodup
  known : ∀ entry ∈ itemList, entry.2.Every (Item.Known types)
  fit : ∀ entry ∈ itemList, fits (classOf types entry.2.id)

section Saved

variable (savable : Savable types isTop fits itemList)
include savable

lemma Savable.order :
  InLevelOrder Item.items (holdsItems types) 100
    (itemList.map fun entry => ([entry.2], entry.1))
    (numberedItems types itemList) := by
  refine LevelOrder.rows_inLevelOrder itemWeight_lighter (Nat.le_refl _) ?_ ?_
  · intro entry mem
    rcases List.mem_map.1 mem with ⟨top, isThere, rfl⟩
    exact savable.small _ (savable.tops top isThere)
  · rw [List.map_map]
    exact savable.distinct

lemma Savable.every (mem : up ∈ numberedItems types itemList) :
  up.thing.Every (Item.Known types) := by
  refine savable.order.all ?_ ?_ mem
  · intro entry queued item isItem
    rcases List.mem_map.1 queued with ⟨top, isThere, rfl⟩
    rw [mem_singleton.1 isItem]
    exact savable.known top isThere
  · rintro item ⟨_, _, below⟩ child inside
    exact below child inside

lemma Savable.inside (mem : up ∈ numberedItems types itemList) :
  (childrenIn (numberedItems types itemList) up.number).map Numbered.thing =
    up.thing.items := by
  rw [savable.order.inside up mem]
  split
  · rfl
  · rename_i holdsNone
    rcases savable.every mem with ⟨_, self, _⟩
    exact (self.items (Bool.eq_false_iff.2 holdsNone)).symm

lemma Savable.large (mem : up ∈ numberedItems types itemList) : isTop up.number = false := by
  have bounds := (number_bounds savable.order.numbers mem).1
  refine Bool.eq_false_iff.2 fun isThere => ?_
  have small := savable.small _ isThere
  omega

lemma Savable.fits_top (mem : up ∈ numberedItems types itemList) (top : isTop up.parent) :
  fits (classOf types up.thing.id) := by
  rcases (savable.order.linked up mem).2 with queued | ⟨above, isThere, same, -⟩
  · rw [List.map_map] at queued
    rcases List.mem_map.1 queued with ⟨entry, isThere, same⟩
    have own := savable.order.queued [entry.2] entry.1 (List.mem_map.2 ⟨entry, isThere, rfl⟩)
    have isChild : up.thing ∈
        (childrenIn (numberedItems types itemList) entry.1).map Numbered.thing :=
      List.mem_map.2 ⟨up, mem_filter.2 ⟨mem, decide_eq_true same.symm⟩, rfl⟩
    rw [own] at isChild
    rw [mem_singleton.1 isChild]
    exact savable.fit entry isThere
  · rw [← same, savable.large isThere] at top
    cases top

lemma Savable.loadItems :
  loadItems types (saveItems types itemList).reverse = objects types itemList := by
  rw [saveItems, objects, ← map_reverse, ← map_reverse, PlayerItems.loadItems, filterMap_map]
  refine filterMap_eq_map_iff_forall_eq_some.2 fun up mem => ?_
  rcases savable.every (mem_reverse.1 mem) with ⟨_, self, _⟩
  have known : (types up.thing.id).known := self.known
  simp only [comp_apply, row, known, if_true, unserializeAttr_row, newObject]

omit savable in
lemma mem_objects (mem : up ∈ numberedItems types itemList) :
  newObject types up ∈ objects types itemList :=
  mem_reverse.2 (List.mem_map.2 ⟨up, mem, rfl⟩)

lemma Savable.found (mem : up ∈ numberedItems types itemList) :
  (objects types itemList).find? (·.sid = up.number) = some (newObject types up) := by
  rcases found : (objects types itemList).find? (·.sid = up.number) with _ | mapped
  · exact absurd (decide_eq_true rfl) (List.find?_eq_none.1 found _ (mem_objects mem))
  · have same : mapped.sid = up.number := by
      simpa using List.find?_some found
    rcases List.mem_map.1 (mem_reverse.1 (mem_of_find?_eq_some found)) with ⟨other, isOther, rfl⟩
    exact found.symm ▸ congrArg (fun one => some (newObject types one))
      (row_unique savable.order.numbers isOther mem same)

/-! ## Putting the objects where they belong -/

/-- What is in the slots or depots and in the containers after the later rows. -/
structure Holds (isTop : Nat → Bool) (later : List (Numbered Item)) (memory : Memory) : Prop where
  top : ∀ pid, isTop pid → memory.top pid = (childrenIn later pid).getLast?.map Numbered.number
  itemlist : ∀ pid, isTop pid = false →
    memory.itemlist pid = (childrenIn later pid).map Numbered.number

lemma Savable.linkRow {memory : Memory} (mem : up ∈ numberedItems types itemList)
  (holds : Holds isTop later memory) :
  Holds isTop (up :: later)
    (linkRow isTop fits (objects types itemList) memory (newObject types up)) := by
  unfold PlayerItems.linkRow
  by_cases top : isTop up.parent
  · have atTop : isTop (newObject types up).pid := top
    rw [if_pos atTop]
    -- the place is free unless a later row has it
    refine ⟨fun pid isThere => ?_, fun pid isOther => ?_⟩
    · by_cases same : up.parent = pid
      · subst same
        have own := holds.top up.parent top
        rw [childrenIn_cons_of rfl, List.getLast?_cons]
        rcases last : (childrenIn later up.parent).getLast? with _ | other
        · rw [last] at own
          rw [if_pos ⟨savable.fits_top mem top, own⟩]
          exact update_self _ _ _
        · rw [last] at own
          rw [if_neg fun free => nomatch free.2.symm.trans own]
          exact own
      · rw [childrenIn_cons_other same, ← holds.top pid isThere]
        split
        · exact update_of_ne (Ne.symm same) _ _
        · rfl
    · have ne : up.parent ≠ pid := by
        rintro rfl
        exact nomatch top.symm.trans isOther
      rw [childrenIn_cons_other ne, ← holds.itemlist pid isOther]
      split <;> rfl
  · have inside : ¬isTop (newObject types up).pid := top
    rcases (savable.order.linked up mem).2 with queued | above
    · rw [List.map_map] at queued
      rcases List.mem_map.1 queued with ⟨entry, isThere, same⟩
      exact absurd (same ▸ savable.tops entry isThere) top
    · rcases above with ⟨above, isThere, same, held⟩
      have found := savable.found isThere
      rw [same] at found
      have isContainer : (newObject types above).itemClass.isContainer := held
      rw [if_neg inside, show (newObject types up).pid = up.parent from rfl, found]
      dsimp only
      rw [if_pos isContainer]
      refine ⟨fun pid isOther => ?_, fun pid isThere => ?_⟩
      · have ne : up.parent ≠ pid := by
          rintro rfl
          exact top isOther
        rw [childrenIn_cons_other ne]
        exact holds.top pid isOther
      · change update memory.itemlist above.number _ pid = _
        rw [same]
        by_cases isParent : up.parent = pid
        · subst isParent
          have own := holds.itemlist up.parent isThere
          rw [update_self, childrenIn_cons_of rfl, map_cons, ← own, ← same]
          rfl
        · rw [update_of_ne (Ne.symm isParent), childrenIn_cons_other isParent]
          exact holds.itemlist pid isThere

def loaded (types : UInt16 → ItemType) (isTop : Nat → Bool)
  (fits : ItemClass → Bool) (itemList : List (Nat × Item)) : Loaded :=
  load types isTop fits (saveItems types itemList).reverse

lemma Savable.holds :
  Holds isTop (numberedItems types itemList) (loaded types isTop fits itemList).memory := by
  unfold loaded load
  rw [savable.loadItems]
  suffices all : ∀ later : List (Numbered Item),
      (∀ up ∈ later, up ∈ numberedItems types itemList) →
      Holds isTop later
        ((later.map (newObject types)).reverse.foldl
          (PlayerItems.linkRow isTop fits (objects types itemList))
          ⟨fun _ => none, fun _ => []⟩) from all _ fun _ mem => mem
  intro later
  induction later with
  | nil => exact fun _ => ⟨fun _ _ => rfl, fun _ _ => rfl⟩
  | cons up later ih =>
    intro members
    rw [map_cons, reverse_cons, foldl_append]
    exact savable.linkRow (members up mem_cons_self)
      (ih fun other mem => members other (mem_cons_of_mem _ mem))

lemma Savable.shows (mem : up ∈ numberedItems types itemList) :
  Shows types (loaded types isTop fits itemList) up.number up.thing := by
  induction weight : itemWeight up.thing using Nat.strongRecOn generalizing up with
  | ind weight ih =>
    subst weight
    refine .intro (newObject types up) up.thing ?_ rfl rfl rfl rfl ?_
    · rw [loaded, load, savable.loadItems]
      exact mem_objects mem
    have contents := savable.holds.itemlist up.number (savable.large mem)
    change List.Forall₂ _ (Memory.itemlist _ up.number) up.thing.items
    rw [contents, ← savable.inside mem, forall₂_map_left_iff,
      forall₂_map_right_iff, forall₂_same]
    intro child isChild
    refine ih _ ?_ (mem_filter.1 isChild).1 rfl
    have isInside : child.thing ∈ up.thing.items :=
      savable.inside mem ▸ List.mem_map.2 ⟨child, isChild, rfl⟩
    exact Nat.lt_of_le_of_lt
      (le_sum_of_mem (List.mem_map.2 ⟨_, isInside, rfl⟩))
      (itemWeight_lighter up.thing)

lemma Savable.rebuilt (mem : (pid, item) ∈ itemList) :
  Option.Rel (Shows types (loaded types isTop fits itemList))
    ((loaded types isTop fits itemList).memory.top pid) (some item) := by
  have own := savable.order.queued [item] pid (List.mem_map.2 ⟨_, mem, rfl⟩)
  rw [savable.holds.top pid (savable.tops _ mem)]
  rcases children : childrenIn (numberedItems types itemList) pid with _ | ⟨up, _ | _⟩
  · rw [children] at own
    cases own
  · rw [children] at own
    have isChild : up ∈ childrenIn (numberedItems types itemList) pid := by
      rw [children]
      exact mem_cons_self
    have same := head_eq_of_cons_eq own
    rw [← same]
    exact .some (savable.shows (mem_filter.1 isChild).1)
  · rw [children] at own
    cases own

lemma Savable.empty (top : isTop pid) (unused : pid ∉ itemList.map Prod.fst) :
  (loaded types isTop fits itemList).memory.top pid = none := by
  have others := savable.order.others pid (savable.small pid top) (by rwa [List.map_map])
  rw [savable.holds.top pid top, others]
  rfl

end Saved

/-! ## The player -/

section Players

variable (player : Player types)

lemma mem_worn : (pid, item) ∈ player.worn ↔ isSlot pid ∧ player.inventory pid = some item := by
  rw [Player.worn, mem_filterMap]
  constructor
  · rintro ⟨slotId, range, same⟩
    rcases Option.map_eq_some_iff.1 same with ⟨worn, isWorn, same⟩
    cases same
    rw [mem_range'_1] at range
    refine ⟨?_, isWorn⟩
    simp only [isSlot, Bool.and_eq_true, decide_eq_true_eq]
    omega
  · rintro ⟨slot, isWorn⟩
    simp only [isSlot, Bool.and_eq_true, decide_eq_true_eq] at slot
    exact ⟨pid, mem_range'_1.2 (by omega), by rw [isWorn]; rfl⟩

lemma worn_sublist : List.Sublist (player.worn.map Prod.fst) (List.range' 1 10) := by
  unfold Player.worn
  induction List.range' 1 10 with
  | nil => exact .refl _
  | cons slotId slots ih =>
    rcases worn : player.inventory slotId with _ | item
    · rw [filterMap_cons_none (by rw [worn]; rfl)]
      exact ih.cons slotId
    · rw [filterMap_cons_some (by rw [worn]; rfl)]
      exact ih.cons_cons slotId

lemma worn_savable : Savable types isSlot (fun _ => true) player.worn where
  tops _ member := ((mem_worn player).1 member).1
  small pid slot := by
    simp only [isSlot, Bool.and_eq_true, decide_eq_true_eq] at slot
    omega
  distinct := (worn_sublist player).nodup nodup_range'
  known _ member := player.worn_known _ _ ((mem_worn player).1 member).2
  fit _ _ := rfl

lemma depots_savable (below : ∀ depotId, player.depots.contains depotId → depotId < 100) :
  Savable types isDepot (fun itemClass => itemClass = .depot) player.depots.entries where
  tops entry member := by
    have found := (player.depots.mem_entries_iff entry.1 entry.2).1 member
    exact decide_eq_true (below entry.1 ((player.depots.contains_iff _).2 ⟨entry.2, found⟩))
  small pid depot := by
    have less : pid < 100 := of_decide_eq_true depot
    exact Nat.le_of_lt less
  distinct := (pairwise_map.2 player.depots.sorted).imp fun less => Nat.ne_of_lt less
  known := player.depots_known
  fit entry member := decide_eq_true (player.depots_class entry member)

lemma inventory_rebuilt {slot : Nat} (isThere : isSlot slot) :
  Option.Rel (Shows types (loadPlayer types (savePlayer types player)).items)
    ((loadPlayer types (savePlayer types player)).items.memory.top slot)
    (player.inventory slot) := by
  have savable := worn_savable player
  rcases worn : player.inventory slot with _ | item
  · have unused : slot ∉ player.worn.map Prod.fst := by
      intro mem
      rcases List.mem_map.1 mem with ⟨⟨_, item⟩, isWorn, rfl⟩
      exact nomatch worn.symm.trans ((mem_worn player).1 isWorn).2
    have free := savable.empty isThere unused
    exact free ▸ Option.Rel.none
  · exact savable.rebuilt ((mem_worn player).2 ⟨isThere, worn⟩)

/--
What is saved of a player is rebuilt exactly when every depot has a number below
one hundred.
-/
theorem rebuilt_iff :
  Rebuilt types player (loadPlayer types (savePlayer types player)) ↔
    ∀ depotId, player.depots.contains depotId → depotId < 100 := by
  constructor
  · rintro ⟨-, depots⟩ depotId contained
    rcases (player.depots.contains_iff depotId).1 contained with ⟨depot, found⟩
    by_contra large
    have same := depots depotId
    rw [found] at same
    have lost :
        (loadPlayer types (savePlayer types player)).depotItems.memory.top depotId =
          none :=
      load_top (decide_eq_false large)
    rw [lost] at same
    cases same
  · intro below
    refine ⟨fun slot isThere => inventory_rebuilt player isThere, fun depotId => ?_⟩
    have savable := depots_savable player below
    rcases found : player.depots.find? depotId with _ | depot
    · rcases isThere : isDepot depotId with _ | _
      · exact (load_top isThere : _ = none) ▸ Option.Rel.none
      · have unused : depotId ∉ player.depots.entries.map Prod.fst := by
          intro member
          rcases List.mem_map.1 member with ⟨entry, isEntry, rfl⟩
          exact nomatch found.symm.trans ((player.depots.mem_entries_iff _ _).1 isEntry)
        exact (savable.empty isThere unused : _ = none) ▸ Option.Rel.none
    · exact savable.rebuilt ((player.depots.mem_entries_iff depotId depot).2 found)

end Players

/-- A player with a coin in depot 101. -/
def distantPlayer : Player houseTypes where
  inventory _ := none
  depots := OrderedMap.empty.insert 101 (plainItem 2589 [plainItem 2148 []])
  worn_known := nofun
  depots_known entry member := by
    rw [mem_singleton.1 member]
    refine plainItem_known rfl nofun (by decide) fun child isChild => ?_
    rw [mem_singleton.1 isChild]
    exact coin_known
  depots_class entry member := by
    rw [mem_singleton.1 member]
    rfl

/-- The depot becomes the content of itself. -/
example :
  let loaded := loadPlayer houseTypes (savePlayer houseTypes distantPlayer)
  loaded.depotItems.memory.itemlist 101 = [101, 102] := by
  decide +kernel

/-- The depot is not there any more. -/
theorem distantPlayer_not_rebuilt :
  ¬Rebuilt houseTypes distantPlayer
    (loadPlayer houseTypes (savePlayer houseTypes distantPlayer)) := by
  rintro ⟨-, depots⟩
  have lost :
      (loadPlayer houseTypes (savePlayer houseTypes distantPlayer)).depotItems.memory.top
        101 = none := load_top rfl
  have same := depots 101
  cases same

end OTServ.MapStore.PlayerItems
