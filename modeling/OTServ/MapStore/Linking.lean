import OTServ.MapStore.Relational
import OTServ.MapStore.RoundTrip

/-!
# The rows are loaded

A tile that `loadTile` can restore is restored from its rows, too.  The first loop
does to the tile what `loadItem` does, with objects that have nothing in them yet,
and the second one puts everything into its container.
-/

namespace OTServ.MapStore

open Items
open Library
open Library.ByteStreams
open OTServ.Library.LevelOrder (Numbered InLevelOrder numberFrom childrenIn)
open List Function

/-! ## Objects with nothing in them -/

/-- The object without what is in it; the rows are numbered from 1 on. -/
def Loaded.shell : Loaded → Loaded
  | .mk id itemClass count readings _ =>
    .mk id itemClass count (readings.map fun reading => (reading.1 + 1, reading.2)) []

@[simp]
lemma Loaded.shell_id (item : Loaded) : item.shell.id = item.id := by
  cases item
  rfl

@[simp]
lemma Loaded.shell_itemClass (item : Loaded) : item.shell.itemClass = item.itemClass := by
  cases item
  rfl

variable {numbered : Numbered Item}

section Store

variable {types : UInt16 → ItemType}

lemma isFor_shell (id : UInt16) (item : Loaded) :
  isFor types id item.shell = isFor types id item := by
  rw [isFor, isFor, Loaded.shell_id, Loaded.shell_itemClass]

lemma map_things (f : Loaded → Loaded) (tile : Tile) :
  (tile.map f).things = tile.things.map f := by
  cases tile with
  | mk ground topItems downItems =>
    cases ground <;> simp [Tile.things, Tile.map]

lemma insertTop_shell (item : Loaded) (items : List Loaded) :
  insertTop types item.shell (items.map Loaded.shell) =
    (insertTop types item items).map Loaded.shell := by
  induction items with
  | nil => rfl
  | cons top items ih =>
    rw [map_cons, insertTop, insertTop, Loaded.shell_id, Loaded.shell_id, ih]
    split <;> rfl

lemma internalAddThing_shell (tile : Tile) (item : Loaded) :
  (tile.map Loaded.shell).internalAddThing types item.shell =
    (tile.internalAddThing types item).map Loaded.shell := by
  rw [Tile.internalAddThing, Tile.internalAddThing, Loaded.shell_id]
  split
  · cases tile with
    | mk ground topItems downItems => cases ground <;> rfl
  · split
    · simp only [Tile.map, insertTop_shell]
    · rfl

section First

variable {holds : Loaded → Bool}

section

variable (same : ∀ item : Loaded, holds item.shell = holds item)
include same

lemma replaceFirst_shell (new : Loaded) (items : List Loaded) :
  replaceFirst holds new.shell (items.map Loaded.shell) =
    (replaceFirst holds new items).map Loaded.shell := by
  induction items with
  | nil => rfl
  | cons first items ih =>
    rw [map_cons, replaceFirst, replaceFirst, same, ih]
    split <;> rfl

lemma any_shell
  (items : List Loaded) : (items.map Loaded.shell).any holds = items.any holds := by
  rw [any_map]
  exact congrArg items.any (funext same)

lemma eraseP_shell (items : List Loaded) :
  (items.map Loaded.shell).eraseP holds = (items.eraseP holds).map Loaded.shell := by
  rw [eraseP_map]
  exact congrArg (fun other => (items.eraseP other).map Loaded.shell) (funext same)

lemma Tile.any_ground_shell (tile : Tile) :
  (tile.map Loaded.shell).ground.any holds = tile.ground.any holds := by
  cases tile with
  | mk ground topItems downItems =>
    cases ground with
    | none => rfl
    | some item => exact same item

lemma Tile.replaceFirst_shell (new : Loaded) (tile : Tile) :
  (tile.map Loaded.shell).replaceFirst holds new.shell =
    (tile.replaceFirst holds new).map Loaded.shell := by
  have top : (tile.map Loaded.shell).topItems.any holds =
      tile.topItems.any holds := any_shell same _
  rw [Tile.replaceFirst, Tile.replaceFirst, Tile.any_ground_shell same, top]
  split
  · rfl
  · split <;> simp only [Tile.map, MapStore.replaceFirst_shell same]

lemma Tile.removeFirst_shell (tile : Tile) :
  (tile.map Loaded.shell).removeFirst holds = (tile.removeFirst holds).map Loaded.shell := by
  have top : (tile.map Loaded.shell).topItems.any holds =
      tile.topItems.any holds := any_shell same _
  rw [Tile.removeFirst, Tile.removeFirst, Tile.any_ground_shell same, top]
  split
  · rfl
  · split <;> simp only [Tile.map, eraseP_shell same]

end

lemma Tile.trashes_shell (tile : Tile) : (tile.map Loaded.shell).trashes = tile.trashes := by
  have top : (tile.map Loaded.shell).topItems.any
      (fun item => item.itemClass = .teleport) =
        tile.topItems.any fun item => item.itemClass = .teleport :=
    any_shell (fun item => by rw [Loaded.shell_itemClass]) _
  have all : (tile.things.map Loaded.shell).any
      (fun item => item.itemClass = .trashHolder) =
        tile.things.any fun item => item.itemClass = .trashHolder :=
    any_shell (fun item => by rw [Loaded.shell_itemClass]) _
  rw [Tile.trashes, Tile.trashes, map_things, top, all]

lemma Tile.transformItem_shell (same : ∀ item : Loaded, holds item.shell = holds item)
  (item : Loaded) (newId : UInt16) (tile : Tile) :
  (tile.map Loaded.shell).transformItem types holds item.shell newId =
    ((tile.transformItem types holds item newId).1.map Loaded.shell,
      (tile.transformItem types holds item newId).2) := by
  have renumbered :
      Loaded.mk newId item.itemClass item.shell.serializationCount
          item.shell.readings item.shell.items =
        (Loaded.mk newId item.itemClass item.serializationCount
          item.readings item.items).shell := by
    cases item
    rfl
  have anew :
      ((tile.map Loaded.shell).removeFirst holds).internalAddThing types
          (.mk newId (classOf types newId) 0 [] []) =
        ((tile.removeFirst holds).internalAddThing types
          (.mk newId (classOf types newId) 0 [] [])).map Loaded.shell := by
    rw [Tile.removeFirst_shell same]
    exact internalAddThing_shell _ (.mk newId (classOf types newId) 0 [] [])
  simp only [Tile.transformItem]
  rw [Loaded.shell_id, Loaded.shell_itemClass, renumbered,
    Tile.replaceFirst_shell same, Tile.replaceFirst_shell same,
    Tile.trashes_shell, Tile.removeFirst_shell same]
  rw [Tile.removeFirst_shell same] at anew
  rw [anew]
  split
  · rfl
  · split
    · split <;> rfl
    · split <;> rfl

end First

section Rows

open Relational

lemma unserializeAttr_row (itemClass : ItemClass) (attrs : List Attr) :
  unserializeAttr itemClass (attrs.flatMap Attr.bytes) =
    ⟨attrs.map Attr.stored, true, none, []⟩ := by
  have read := unserializeAttr_bytes itemClass attrs []
  rw [append_nil, Unserialized.foldr_after] at read
  have nothing : unserializeAttr itemClass [] = ⟨[], true, none, []⟩ := rfl
  rw [read, nothing, append_nil]

variable {tile : SavedTile}

lemma numberedItems_eq (tile : SavedTile) :
  ∃ later, numberedItems types tile =
      numberFrom 0 0 (savedItems types tile) ++ later ∧
    ∀ numbered ∈ later, numbered.parent ≠ 0 := by
  have order := numberedItems_inLevelOrder types tile
  have turns :
      LevelOrder.queueWeight itemWeight [(savedItems types tile, 0)] =
        ((savedItems types tile).map itemWeight).sum + 1 := by
    rw [LevelOrder.queueWeight_cons, Nat.add_comm 1]
    rfl
  rw [numberedItems, turns] at order ⊢
  rcases LevelOrder.rows_top Item.items (holdsItems types) _
    (savedItems types tile) with ⟨later, same⟩
  rw [same] at order
  exact ⟨later, same, fun numbered mem => order.later_parent mem⟩

def newItem (types : UInt16 → ItemType) (numbered : Numbered Item) : Loaded :=
  .mk numbered.thing.id (classOf types numbered.thing.id) 0
    [(numbered.number, (numbered.thing.attrs types).map Attr.stored)] []

lemma numberedItems_every {property : Item → Prop}
  (all : ∀ thing ∈ tile.things, thing.item.Every property)
  (mem : numbered ∈ numberedItems types tile) : numbered.thing.Every property := by
  refine (numberedItems_inLevelOrder types tile).all ?_ ?_ mem
  · intro entry queued item saved
    rw [mem_singleton.1 queued] at saved
    rcases mem_map.1 saved with ⟨thing, isThere, rfl⟩
    exact all thing (mem_filter.1 isThere).1
  · rintro item ⟨_, _, below⟩ child inside
    exact below child inside

lemma createItem_row (state : State) (numbered : Numbered Item) :
    createItem types state (row types numbered) =
      { state with
        tile :=
          if numbered.parent = 0 then
            state.tile.internalAddThing types (newItem types numbered)
          else state.tile
        started :=
          if numbered.parent = 0 ∧ holdsItems types numbered.thing = false then
            update state.started numbered.number true
          else state.started
        gone :=
          state.gone ||
            (decide (numbered.parent = 0) &&
              !holdsItems types numbered.thing &&
              decaysAtOnce (types numbered.thing.id)
                ((numbered.thing.attrs types).map Attr.stored))
        itemMap :=
          update state.itemMap numbered.number
            (some ⟨newItem types numbered, numbered.parent, decide (numbered.parent = 0)⟩) } := by
  have nothing (itemClass : ItemClass) : unserializeAttr itemClass [] = ⟨[], true, none, []⟩ := rfl
  simp only [createItem, row, unserializeAttr_row, nothing, append_nil,
    Bool.true_and, if_true, newItem, holdsItems]
  by_cases top : numbered.parent = 0
  · by_cases held : (classOf types numbered.thing.id).isContainer = true
    · simp [top, held]
    · simp [top, held]
  · simp [top]

/-! ## The first loop -/

/-- What `itemMap` has for a row. -/
structure IsMapped (types : UInt16 → ItemType)
  (numbered : Numbered Item) (mapped : Mapped) : Prop where
  pid : mapped.pid = numbered.parent
  onTile : mapped.onTile = decide (numbered.parent = 0)
  number : mapped.item.number = numbered.number
  itemClass : mapped.item.itemClass = classOf types numbered.thing.id
  inside : numbered.parent ≠ 0 → mapped.item = newItem types numbered

/-- The item of the row is put on the tile and could decay there. -/
def StartsOnTile (types : UInt16 → ItemType) (numbered : Numbered Item) : Prop :=
  numbered.parent = 0 ∧ (types numbered.thing.id).moveable ∧
    holdsItems types numbered.thing = false

structure RowsRead (types : UInt16 → ItemType)
  (done : List (Numbered Item)) (state : State) : Prop where
  mapped : ∀ numbered ∈ done, ∃ mapped,
    state.itemMap numbered.number = some mapped ∧ IsMapped types numbered mapped
  unmapped : ∀ sid, (∀ numbered ∈ done, numbered.number ≠ sid) → state.itemMap sid = none
  contents : state.contents = fun _ => []
  started : ∀ sid, state.started sid ↔
    ∃ numbered ∈ done, numbered.number = sid ∧ StartsOnTile types numbered
  gone : state.gone = false

lemma RowsRead.cons {done : List (Numbered Item)} {before after : State}
  (read : RowsRead types done before) {mapped : Mapped}
  (isMapped : IsMapped types numbered mapped)
  (unread : ∀ other ∈ done, other.number ≠ numbered.number)
  (itemMap : after.itemMap = update before.itemMap numbered.number (some mapped))
  (contents : after.contents = before.contents)
  (started : ∀ sid, after.started sid ↔
    before.started sid ∨ (numbered.number = sid ∧ StartsOnTile types numbered))
  (gone : after.gone = false) : RowsRead types (numbered :: done) after := by
  constructor
  · intro other mem
    rw [itemMap]
    rcases mem_cons.1 mem with rfl | mem
    · exact ⟨mapped, update_self _ _ _, isMapped⟩
    · rw [update_of_ne (unread other mem)]
      exact read.mapped other mem
  · intro sid none
    rw [itemMap, update_of_ne (none numbered mem_cons_self).symm]
    exact read.unmapped sid fun other mem => none other (mem_cons_of_mem _ mem)
  · exact contents.trans read.contents
  · intro sid
    rw [started, read.started, exists_mem_cons_iff]
    exact or_comm
  · exact gone

lemma load_later (start : Tile) {later : List (Numbered Item)}
  (known : ∀ numbered ∈ later, (types numbered.thing.id).known)
  (inside : ∀ numbered ∈ later, numbered.parent ≠ 0)
  (distinct : (later.map Numbered.number).Nodup) :
  let state := later.foldr
    (fun numbered state => loadRow types state (row types numbered))
    ⟨start, fun _ => none, fun _ => [], fun _ => false, false⟩
  RowsRead types later state ∧ state.tile = start := by
  induction later with
  | nil =>
    refine ⟨⟨nofun, fun _ _ => rfl, rfl, ?_, rfl⟩, rfl⟩
    exact fun _ => ⟨nofun, nofun⟩
  | cons numbered later ih =>
    rw [map_cons, nodup_cons] at distinct
    have below := ih
      (fun other mem => known other (mem_cons_of_mem _ mem))
      (fun other mem => inside other (mem_cons_of_mem _ mem))
      distinct.2
    have isInside := inside numbered mem_cons_self
    simp only [foldr_cons]
    generalize later.foldr
      (fun numbered state => loadRow types state (row types numbered))
      ⟨start, fun _ => none, fun _ => [], fun _ => false, false⟩ = state
      at below
    have loaded :
        loadRow types state (row types numbered) =
          createItem types state (row types numbered) := by
      have pid : (row types numbered).pid ≠ 0 := isInside
      have isKnown : (types (row types numbered).itemtype).known := known numbered mem_cons_self
      simp only [loadRow, decide_eq_true pid, Bool.or_true, if_true, isKnown]
    rw [loaded, createItem_row]
    simp only [isInside, if_false, false_and, decide_false, Bool.false_and, Bool.or_false]
    have isMapped : IsMapped types numbered
        ⟨newItem types numbered, numbered.parent, false⟩ :=
      ⟨rfl, (decide_eq_false isInside).symm, rfl, rfl, fun _ => rfl⟩
    refine ⟨.cons below.1 isMapped ?_ rfl rfl ?_ below.1.gone, below.2⟩
    · intro other mem same
      exact distinct.1 (same ▸ mem_map.2 ⟨other, mem, rfl⟩)
    · intro sid
      exact ⟨Or.inl, fun either => either.resolve_right fun both => isInside both.2.1⟩

def topRow (types : UInt16 → ItemType) (pre : List Placed) (thing : Placed) : Numbered Item :=
  ⟨saves types pre + 1, 0, thing.item⟩

lemma newItem_top (pre : List Placed) (thing : Placed) :
  newItem types (topRow types pre thing) =
    (thing.item.restored types (saves types pre)).shell := by
  rw [restored_eq]
  rfl

lemma startDecaying_leaf {item : Item} (leaf : holdsItems types item = false) :
  item.startDecaying types =
    decaysAtOnce (types item.id) ((item.attrs types).map Attr.stored) := by
  cases item with
  | mk id attributes items =>
    have plain : (classOf types id).isContainer = false := leaf
    rw [Item.startDecaying, plain]
    rfl

section Top

variable {pre post : List Placed} {thing : Placed} {done : List (Numbered Item)} {state : State}

lemma load_moveable (map : tile.MapUnchanged types) (restorable : Restorable types tile)
  (split : tile.things = pre ++ thing :: post) (moves : thing.moveable types)
  (read : RowsRead types done state)
  (unread : ∀ other ∈ done, other.number ≠ (topRow types pre thing).number)
  (onTile : state.tile = (tile.readFrom types (saves types pre + 1)).map Loaded.shell) :
  let after := loadRow types state (row types (topRow types pre thing))
  RowsRead types (topRow types pre thing :: done) after ∧
    after.tile = (tile.readFrom types (saves types pre)).map Loaded.shell := by
  have saved := isSaved_of_moveable moves
  have mem : thing ∈ tile.things := by
    rw [split]
    exact mem_append_right _ mem_cons_self
  have below : saves types pre < tile.itemCount types := by
    have all : tile.itemCount types = saves types tile.things := rfl
    rw [all, split, saves_append, saves_cons saved]
    omega
  rcases (reads_moveable_iff map split moves).mp
    ((restorable_iff_reads map).mp restorable _ below) with
    ⟨-, noDecay, placed⟩
  have isKnown : (types thing.item.id).known := by
    cases map.known thing mem with
    | intro _ self _ => exact self.known
  have loaded :
      loadRow types state (row types (topRow types pre thing)) =
        createItem types state (row types (topRow types pre thing)) := by
    have isMoveable :
        (types (row types (topRow types pre thing)).itemtype).moveable = true := moves
    have known : (types (row types (topRow types pre thing)).itemtype).known = true := isKnown
    simp only [loadRow, isMoveable, known, Bool.true_or, if_true]
  have stays :
      (!holdsItems types thing.item &&
        decaysAtOnce (types thing.item.id)
          ((thing.item.attrs types).map Attr.stored)) = false := by
    cases leaf : holdsItems types thing.item with
    | true => rfl
    | false => rw [← startDecaying_leaf leaf, noDecay]; rfl
  have isMapped : IsMapped types (topRow types pre thing)
      ⟨newItem types (topRow types pre thing), 0, true⟩ :=
    ⟨rfl, rfl, rfl, rfl, fun inside => absurd rfl inside⟩
  rw [loaded, createItem_row]
  refine ⟨.cons read isMapped unread rfl rfl ?_ ?_, ?_⟩
  · intro sid
    have starts :
        StartsOnTile types (topRow types pre thing) ↔ holdsItems types thing.item = false :=
      ⟨fun both => both.2.2, fun leaf => ⟨rfl, moves, leaf⟩⟩
    have top : (topRow types pre thing).parent = 0 := rfl
    have item : (topRow types pre thing).thing = thing.item := rfl
    rw [starts]
    simp only [top, item, true_and]
    by_cases leaf : holdsItems types thing.item = false
    · rw [if_pos leaf]
      by_cases same : (topRow types pre thing).number = sid
      · subst same
        simp [leaf]
      · rw [update_of_ne (Ne.symm same)]
        simp [same]
    · rw [if_neg leaf]
      simp [leaf]
  · have decays :
        (decide ((topRow types pre thing).parent = 0) &&
            !holdsItems types (topRow types pre thing).thing &&
          decaysAtOnce (types (topRow types pre thing).thing.id)
            (((topRow types pre thing).thing.attrs types).map Attr.stored)) = false := stays
    simp only [read.gone, decays, Bool.or_false]
  · have top : (topRow types pre thing).parent = 0 := rfl
    simp only [top, if_true]
    rw [onTile, newItem_top, internalAddThing_shell, placed]

lemma load_staying (map : tile.MapUnchanged types) (restorable : Restorable types tile)
  (split : tile.things = pre ++ thing :: post) (saved : isSaved types thing)
  (stays : thing.moveable types = false) (read : RowsRead types done state)
  (unread : ∀ other ∈ done, other.number ≠ (topRow types pre thing).number)
  (onTile : state.tile = (tile.readFrom types (saves types pre + 1)).map Loaded.shell) :
  let after := loadRow types state (row types (topRow types pre thing))
  RowsRead types (topRow types pre thing :: done) after ∧
    after.tile = (tile.readFrom types (saves types pre)).map Loaded.shell := by
  have mem : thing ∈ tile.things := by
    rw [split]
    exact mem_append_right _ mem_cons_self
  have same := map.same thing mem stays
  have staying := restorable.staying pre thing post split saved stays
  have alike := readFrom_alike split saved stays
  have found : state.tile.things.find? (isFor types thing.item.id) = some (thing.onMap types) := by
    have shells : (isFor types thing.item.id) ∘ Loaded.shell = isFor types thing.item.id :=
      funext (isFor_shell thing.item.id)
    rw [onTile, map_things, List.find?_map, shells,
      (staying_found split saved stays same staying.first).1]
    rfl
  have transformed :=
    (staying_transformed_iff map split saved stays alike staying.first).mpr staying.renamed
  -- what the item of the map file becomes
  have handed :
      (thing.read types (saves types pre) thing.mapId).shell =
        .mk thing.mapId (classOf types thing.item.id) 0
          [(saves types pre + 1, (thing.item.attrs types).map Attr.stored)]
          [] := rfl
  have changed :
      state.tile.transformItem types (isFor types thing.item.id)
          (.mk thing.mapId (classOf types thing.item.id) 0
            [(saves types pre + 1, (thing.item.attrs types).map Attr.stored)]
            []) thing.item.id =
        ((tile.readFrom types (saves types pre)).map Loaded.shell, false) := by
    rw [onTile, ← handed, Tile.transformItem_shell (isFor_shell thing.item.id), transformed]
  have isStaying : (types (row types (topRow types pre thing)).itemtype).moveable = false := stays
  have mapClass : (thing.onMap types).itemClass = classOf types thing.item.id := same.classOf
  have loaded :
      loadRow types state (row types (topRow types pre thing)) =
        { state with
          tile := (tile.readFrom types (saves types pre)).map Loaded.shell
          itemMap :=
            update state.itemMap (saves types pre + 1)
              (some ⟨.mk thing.mapId (classOf types thing.item.id) 0
                [(saves types pre + 1,
                  (thing.item.attrs types).map Attr.stored)] [], 0, true⟩) } := by
    have pid : decide ((row types (topRow types pre thing)).pid ≠ 0) = false := rfl
    have isFound :
        state.tile.things.find?
            (isFor types (row types (topRow types pre thing)).itemtype) =
          some (thing.onMap types) := found
    have attributes :
        unserializeAttr (thing.onMap types).itemClass
            (row types (topRow types pre thing)).attributes =
          ⟨(thing.item.attrs types).map Attr.stored, true, none, []⟩ :=
      unserializeAttr_row _ _
    have item :
        Loaded.mk (thing.onMap types).id (thing.onMap types).itemClass
            (thing.onMap types).serializationCount
            ((thing.onMap types).readings ++
              [((row types (topRow types pre thing)).sid,
                (thing.item.attrs types).map Attr.stored)])
            (thing.onMap types).items =
          .mk thing.mapId (classOf types thing.item.id) 0
            [(saves types pre + 1, (thing.item.attrs types).map Attr.stored)]
            [] := by
      rw [mapClass]
      rfl
    have becomes :
        state.tile.transformItem types
            (isFor types (row types (topRow types pre thing)).itemtype)
            (.mk thing.mapId (classOf types thing.item.id) 0
              [(saves types pre + 1, (thing.item.attrs types).map Attr.stored)] [])
            (row types (topRow types pre thing)).itemtype =
          ((tile.readFrom types (saves types pre)).map Loaded.shell, false) := changed
    simp only [loadRow, isStaying, pid, Bool.or_false, Bool.false_eq_true,
      if_false, findItem, isFound, attributes, if_true, item, becomes]
    rfl
  have isMapped : IsMapped types (topRow types pre thing)
      ⟨.mk thing.mapId (classOf types thing.item.id) 0
        [(saves types pre + 1, (thing.item.attrs types).map Attr.stored)] [],
        0, true⟩ :=
    ⟨rfl, rfl, rfl, rfl, fun inside => absurd rfl inside⟩
  rw [loaded]
  refine ⟨.cons read isMapped unread rfl rfl ?_ read.gone, rfl⟩
  intro sid
  refine ⟨Or.inl, fun either => either.resolve_right fun both => ?_⟩
  have moves : thing.moveable types = true := both.2.2.1
  rw [stays] at moves
  cases moves

end Top

lemma onMap_shell (tile : SavedTile) :
  (tile.onMap types).map Loaded.shell = tile.onMap types := by
  have unreadShell (things : List Placed) :
      (unread types things).map Loaded.shell = unread types things := by
    rw [unread, List.map_map]
    rfl
  rw [SavedTile.onMap, Tile.map]
  simp only [unreadShell, ← List.head?_map]

lemma topRows_split {pre post : List Placed} {thing : Placed}
  (split : tile.things = pre ++ thing :: post) (saved : isSaved types thing) :
  (numberFrom 0 0 (savedItems types tile)).drop (saves types pre) =
    topRow types pre thing ::
      (numberFrom 0 0 (savedItems types tile)).drop (saves types pre + 1) := by
  have length :
      ((pre.filter (isSaved types)).map Placed.item).length = saves types pre := length_map _
  have rows :
      numberFrom 0 0 (savedItems types tile) =
        numberFrom 0 0 ((pre.filter (isSaved types)).map Placed.item) ++
          topRow types pre thing ::
            numberFrom (saves types pre + 1) 0
              ((post.filter (isSaved types)).map Placed.item) := by
    rw [savedItems, split, filter_append, filter_cons_of_pos saved,
      map_append, map_cons, LevelOrder.numberFrom_append,
      length, Nat.zero_add]
    rfl
  have front :=
    (LevelOrder.numberFrom_length 0 0 ((pre.filter (isSaved types)).map Placed.item)).trans length
  rw [rows, ← front, drop_left, drop_length_add_append]
  rfl

def read (types : UInt16 → ItemType) (tile : SavedTile) : State :=
  (numberedItems types tile).foldr
    (fun numbered state => loadRow types state (row types numbered))
    ⟨tile.onMap types, fun _ => none, fun _ => [], fun _ => false, false⟩

lemma read_tile (map : tile.MapUnchanged types) (restorable : Restorable types tile) :
  RowsRead types (numberedItems types tile) (read types tile) ∧
    (read types tile).tile = (tile.readFrom types 0).map Loaded.shell := by
  have order := numberedItems_inLevelOrder types tile
  rcases numberedItems_eq tile with ⟨later, rows, inside⟩
  have distinct : ((numberedItems types tile).map Numbered.number).Nodup :=
    order.numbers ▸ nodup_range'
  have known : ∀ numbered ∈ numberedItems types tile,
      (types numbered.thing.id).known := by
    intro numbered mem
    cases numberedItems_every map.known mem with
    | intro _ self _ => exact self.known
  rw [read]
  rw [rows] at distinct known ⊢
  have parts := distinct
  rw [map_append, nodup_append'] at parts
  have below := load_later (tile.onMap types)
    (fun numbered mem => known numbered (mem_append_right _ mem))
    inside parts.2.1
  rw [foldr_append]
  generalize later.foldr
    (fun numbered state => loadRow types state (row types numbered))
    ⟨tile.onMap types, fun _ => none, fun _ => [], fun _ => false, false⟩ = start at below
  have length : (numberFrom 0 0 (savedItems types tile)).length =
      tile.itemCount types :=
    (LevelOrder.numberFrom_length 0 0 _).trans (length_map _)
  -- from the last row at the top to the first
  suffices all : ∀ left count, count + left = tile.itemCount types →
      let state :=
        ((numberFrom 0 0 (savedItems types tile)).drop count).foldr
          (fun numbered state => loadRow types state (row types numbered))
          start
      RowsRead types
          ((numberFrom 0 0 (savedItems types tile)).drop count ++ later)
          state ∧
        state.tile = (tile.readFrom types count).map Loaded.shell from
    all (tile.itemCount types) 0 (Nat.zero_add _)
  intro left
  induction left with
  | zero =>
    intro count all
    rw [Nat.add_zero] at all
    rw [drop_eq_nil_of_le (by rw [length, all]), all, readFrom_itemCount, onMap_shell]
    exact below
  | succ left ih =>
    intro count all
    have less : count < saves types tile.things := by
      have whole : tile.itemCount types = saves types tile.things := rfl
      omega
    rcases exists_numbered less with ⟨pre, thing, post, split, saved, rfl⟩
    have before := ih (saves types pre + 1) (by omega)
    have split' := topRows_split split saved
    have new : ∀ other ∈
        (numberFrom 0 0 (savedItems types tile)).drop (saves types pre + 1) ++ later,
        other.number ≠ (topRow types pre thing).number := by
      have fewer := ((drop_sublist (saves types pre)
        (numberFrom 0 0 (savedItems types tile))).append_right later).map Numbered.number
      have once := distinct.sublist fewer
      rw [split', cons_append, map_cons, nodup_cons] at once
      exact fun other mem same => once.1 (same ▸ mem_map.2 ⟨other, mem, rfl⟩)
    rw [split']
    by_cases moves : thing.moveable types
    · exact load_moveable map restorable split moves before.1 new before.2
    · exact load_staying map restorable split saved
        (Bool.eq_false_iff.mpr moves) before.1 new before.2

/-! ## The second loop -/

def fullItem (types : UInt16 → ItemType) (numbered : Numbered Item)
  (items : List Loaded) : Loaded :=
  .mk numbered.thing.id (classOf types numbered.thing.id) 0
    [(numbered.number, (numbered.thing.attrs types).map Attr.stored)] items

lemma newItem_fill (numbered : Numbered Item) (contents : Nat → List Loaded) :
  (newItem types numbered).fill contents =
    fullItem types numbered (contents numbered.number) := by
  rw [newItem, Loaded.fill, fullItem]
  simp only [List.head?_cons, append_nil]

def IsDirect (types : UInt16 → ItemType) (tile : SavedTile) (numbered : Numbered Item) : Prop :=
  ∃ up ∈ numberedItems types tile, up.number = numbered.parent ∧ up.parent = 0

def Decays (types : UInt16 → ItemType) (item : Item) : Prop :=
  decaysAtOnce (types item.id) ((item.attrs types).map Attr.stored)

/-- The rows whose items have been put into their containers. -/
structure RowsLinked (types : UInt16 → ItemType) (tile : SavedTile)
  (done : List (Numbered Item)) (state : State) : Prop where
  itemMap : state.itemMap = (read types tile).itemMap
  onTile : state.tile = (read types tile).tile
  contents : LevelOrder.Linked (fullItem types) done state.contents
  started : ∀ sid, state.started sid ↔
    (read types tile).started sid ∨
      ∃ numbered ∈ done, numbered.number = sid ∧ IsDirect types tile numbered
  gone : state.gone ↔ ∃ numbered ∈ done, IsDirect types tile numbered ∧ Decays types numbered.thing

lemma number_pos (mem : numbered ∈ numberedItems types tile) : numbered.number ≠ 0 := by
  have order := numberedItems_inLevelOrder types tile
  have bounds := LevelOrder.number_bounds order.numbers mem
  omega

lemma not_isDirect_top (top : numbered.parent = 0) : ¬ IsDirect types tile numbered := by
  rintro ⟨up, mem, same, -⟩
  exact number_pos mem (same.trans top)

lemma isDirect_iff {up : Numbered Item} (mem : up ∈ numberedItems types tile)
  (same : up.number = numbered.parent) : IsDirect types tile numbered ↔ up.parent = 0 := by
  constructor
  · rintro ⟨other, isThere, number, top⟩
    have order := numberedItems_inLevelOrder types tile
    have equal := LevelOrder.row_unique order.numbers isThere mem (number.trans same.symm)
    exact equal ▸ top
  · exact fun top => ⟨up, mem, same, top⟩

section Link

variable {done : List (Numbered Item)} {state : State} {numbered : Numbered Item}

variable (linked : RowsLinked types tile done state)
include linked

lemma RowsLinked.top (rowsRead : RowsRead types (numberedItems types tile) (read types tile))
  (mem : numbered ∈ numberedItems types tile) (top : numbered.parent = 0) :
  RowsLinked types tile (numbered :: done) (linkRow types state (row types numbered)) := by
  rcases rowsRead.mapped numbered mem with ⟨mapped, isThere, isMapped⟩
  have first : state.itemMap (row types numbered).sid = some mapped := by
    rw [linked.itemMap]
    exact isThere
  have second : state.itemMap mapped.pid = none := by
    rw [linked.itemMap, isMapped.pid, top]
    exact rowsRead.unmapped 0 fun other isThere => number_pos isThere
  have unchanged : linkRow types state (row types numbered) = state := by
    simp only [linkRow, first, second]
  have notDirect : ¬ IsDirect types tile numbered := not_isDirect_top top
  rw [unchanged]
  refine ⟨linked.itemMap, linked.onTile, linked.contents.top top, ?_, ?_⟩
  · intro sid
    rw [linked.started, exists_mem_cons_iff]
    simp [notDirect]
  · rw [linked.gone, exists_mem_cons_iff]
    simp [notDirect]

lemma RowsLinked.inside (rowsRead : RowsRead types (numberedItems types tile) (read types tile))
  (mem : numbered ∈ numberedItems types tile) (inside : numbered.parent ≠ 0)
  (before : ∀ other ∈ done, numbered.number < other.number) :
  RowsLinked types tile (numbered :: done) (linkRow types state (row types numbered)) := by
  have order := numberedItems_inLevelOrder types tile
  rcases order.linked numbered mem with ⟨above, top | ⟨up, isUp, same, held⟩⟩
  · rw [map_singleton, mem_singleton] at top
    exact absurd top inside
  · rcases rowsRead.mapped numbered mem with ⟨mapped, isThere, isMapped⟩
    rcases rowsRead.mapped up isUp with ⟨upMapped, upThere, isUpMapped⟩
    have first : state.itemMap (row types numbered).sid = some mapped := by
      rw [linked.itemMap]
      exact isThere
    have second : state.itemMap mapped.pid = some upMapped := by
      rw [linked.itemMap, isMapped.pid, ← same]
      exact upThere
    have container : upMapped.item.itemClass.isContainer = true := by
      rw [isUpMapped.itemClass]
      exact held
    have number : upMapped.item.number = numbered.parent := isUpMapped.number.trans same
    have direct := isDirect_iff isUp same
    have onTile : upMapped.onTile = true ↔ IsDirect types tile numbered := by
      rw [isUpMapped.onTile, decide_eq_true_iff, direct]
    have linkedRow :
        linkRow types state (row types numbered) =
          { state with
            contents :=
              update state.contents numbered.parent
                (fullItem types numbered (state.contents numbered.number) ::
                  state.contents numbered.parent)
            started :=
              if upMapped.onTile then
                update state.started numbered.number true
              else state.started
            gone :=
              state.gone ||
                (upMapped.onTile &&
                  decaysAtOnce (types numbered.thing.id)
                    ((numbered.thing.attrs types).map Attr.stored)) } := by
      simp only [linkRow, first, second, container, if_true,
        isMapped.inside inside, newItem_fill, number]
      rw [fullItem]
      simp only [Loaded.id, Loaded.number, Loaded.readings, List.head?_cons,
        Option.map_some, Option.getD_some, flatMap_cons,
        flatMap_nil, append_nil]
    rw [linkedRow]
    refine ⟨linked.itemMap, linked.onTile, linked.contents.cons above before, ?_, ?_⟩
    · intro sid
      have old := linked.started sid
      by_cases isOnTile : upMapped.onTile = true
      · have isDirect := onTile.1 isOnTile
        simp only [isOnTile, if_true]
        by_cases isThis : numbered.number = sid
        · subst isThis
          simp [isDirect]
        · rw [update_of_ne (Ne.symm isThis), old]
          simp [isThis]
      · have notDirect : ¬ IsDirect types tile numbered := fun direct => isOnTile (onTile.2 direct)
        rw [if_neg isOnTile, old]
        simp [notDirect]
    · rw [exists_mem_cons_iff, Bool.or_eq_true, linked.gone, Bool.and_eq_true, onTile]
      exact or_comm

end Link

def linked (types : UInt16 → ItemType) (tile : SavedTile) : State :=
  (numberedItems types tile).foldr
    (fun numbered state => linkRow types state (row types numbered))
    (read types tile)

lemma linked_rows (rowsRead : RowsRead types (numberedItems types tile) (read types tile)) :
  RowsLinked types tile (numberedItems types tile) (linked types tile) := by
  have order := numberedItems_inLevelOrder types tile
  suffices all : ∀ done, done <:+ numberedItems types tile →
      RowsLinked types tile done
        (done.foldr
          (fun numbered state => linkRow types state (row types numbered))
          (read types tile)) from
    all _ (suffix_refl _)
  intro done
  induction done with
  | nil =>
    intro _
    refine ⟨rfl, rfl, ?_, fun sid => by simp, by simp [rowsRead.gone]⟩
    rw [foldr_nil, rowsRead.contents]
    exact .nil
  | cons numbered done ih =>
    intro suffix'
    have member := suffix'.subset mem_cons_self
    have before := ih ((suffix_cons numbered done).trans suffix')
    have sorted := order.sorted.sublist suffix'.sublist
    by_cases top : numbered.parent = 0
    · exact before.top rowsRead member top
    · exact before.inside rowsRead member top (pairwise_cons.1 sorted).1

lemma loadItems_stored (tile : SavedTile) :
  loadItems types (tile.onMap types) (stored types tile) =
    ⟨(linked types tile).tile.map (Loaded.fill (linked types tile).contents),
      (linked types tile).started, (linked types tile).gone⟩ := by
  have rows {β : Type} (f : β → Row → β) (start : β) :
      (stored types tile).foldl f start =
        (numberedItems types tile).foldr
          (fun numbered state => f state (row types numbered)) start := by
    rw [stored, Relational.saveItems, foldl_reverse, foldr_map]
  rw [loadItems]
  simp only [rows]
  rfl

lemma map_map (f g : Loaded → Loaded) (tile : Tile) : (tile.map f).map g = tile.map (g ∘ f) := by
  simp only [Tile.map, Option.map_map, List.map_map]

/-- What is loaded from the rows of a tile which can be restored. -/
lemma loadItems_restored (map : tile.MapUnchanged types) (restorable : Restorable types tile) :
  ∃ result contents,
    loadItems types (tile.onMap types) (stored types tile) = result ∧
    result.tile = (tile.readFrom types 0).map (Loaded.fill contents ∘ Loaded.shell) ∧
    LevelOrder.Linked (fullItem types) (numberedItems types tile) contents ∧
    (∀ sid, result.started sid ↔
      ∃ numbered ∈ numberedItems types tile, numbered.number = sid ∧
        (StartsOnTile types numbered ∨ IsDirect types tile numbered)) ∧
    (result.gone ↔
      ∃ numbered ∈ numberedItems types tile,
        IsDirect types tile numbered ∧ Decays types numbered.thing) := by
  rcases read_tile map restorable with ⟨rowsRead, onTile⟩
  have rowsLinked := linked_rows rowsRead
  refine ⟨_, (linked types tile).contents, loadItems_stored tile, ?_,
    rowsLinked.contents, ?_, rowsLinked.gone⟩
  · simp only
    rw [rowsLinked.onTile, onTile, map_map]
  · intro sid
    simp only
    rw [rowsLinked.started, rowsRead.started, ← exists_or]
    refine exists_congr fun numbered => ?_
    rw [← and_or_left, ← and_or_left]

end Rows

end Store

end OTServ.MapStore
