import OTServ.MapStore.Attributes

/-!
# Items in the map store

`saveItem` writes an item with all that is in it: its number, its attributes and,
for a container, the items from the last to the first.  `loadItem` makes a new
item of the number, hands it its attributes and loads its items, each of which
goes to the front of the container.

An item without a depot in it is read back as it was, and exactly its bytes are
taken.  With a depot in it, reading breaks off before the end of its bytes.
-/

namespace OTServ.MapStore

open Items
open Library.ByteStreams
open List Option

/-- An item with the items in it, the first one at the front. -/
inductive Item where
  | mk (id : UInt16) (attributes : Attributes) (items : List Item)

namespace Item

def id : Item → UInt16
  | mk id _ _ => id

def attributes : Item → Attributes
  | mk _ attributes _ => attributes

def items : Item → List Item
  | mk _ _ items => items

inductive Every (property : Item → Prop) : Item → Prop
  | intro (item : Item)
      (self : property item)
      (inside : ∀ child ∈ item.items, Every property child) :
      Every property item

end Item

variable {load : Stream → Loading} {propStream : Stream} {item : Item} {number : Nat}
  {items : List Item}

section Store

variable (types : UInt16 → ItemType)

def classOf (id : UInt16) : ItemClass := (types id).itemClass

/--
An item of the item table: its class is that of its number, only a container
holds items, and their number is a `uint32_t`.
-/
structure Item.Known (item : Item) : Prop where
  known : (types item.id).known
  items : (classOf types item.id).isContainer = false → item.items = []
  size : item.items.length < 2 ^ 32

def Item.attrs (item : Item) : List Attr :=
  MapStore.serializeAttr (types item.id) item.attributes (classOf types item.id)

mutual

/-- `IOMapSerialize::saveItem` -/
def saveItem : Item → Stream
  | .mk id attributes items =>
    addUInt16 id ++
      ((serializeAttr (types id) attributes (classOf types id)).flatMap
          Attr.bytes ++
        ((if (classOf types id).isContainer then
            addUInt8 AttrTypes.containerItems.toByte ++
              (addUInt32 (UInt32.ofNat items.length) ++ saveReversed items)
          else []) ++
          addUInt8 0))

def saveReversed : List Item → Stream
  | [] => []
  | item :: items => saveReversed items ++ saveItem item

end

def saveBody (item : Item) : Stream :=
  (item.attrs types).flatMap Attr.bytes ++
    ((if (classOf types item.id).isContainer then
        addUInt8 AttrTypes.containerItems.toByte ++
          (addUInt32 (UInt32.ofNat item.items.length) ++ saveReversed types item.items)
      else []) ++
      addUInt8 0)

lemma saveItem_eq (item : Item) :
  saveItem types item = addUInt16 item.id ++ saveBody types item := by
  cases item
  rfl

/-! ## Loading -/

/--
An item which was loaded.  `readings` lists what `unserializeAttr` handed to it,
with the number of the record in the bytes of its tile.
-/
inductive Loaded where
  | mk (id : UInt16) (itemClass : ItemClass) (serializationCount : Nat)
      (readings : List (Nat × List Attr)) (items : List Loaded)

/-- What `loadItem` has done: its answer, the item, and the rest of the stream. -/
structure Loading where
  ok : Bool
  item : Option Loaded
  rest : Stream

/-- What `loadContainer` has done; `left` is the `serializationCount`. -/
structure ContainerLoading where
  ok : Bool
  items : List Loaded
  left : Nat
  rest : Stream

/-- `IOMapSerialize::loadContainer`, with so many items still to be loaded. -/
def loadContainer (load : Stream → Loading) : Nat → List Loaded → Stream → ContainerLoading
  | 0, items, propStream =>
    match getUInt8 propStream with
    | (some endAttr, rest) => ⟨endAttr = 0, items, 0, rest⟩
    | (none, rest) => ⟨true, items, 0, rest⟩
  | left + 1, items, propStream =>
    let loading := load propStream
    if loading.ok then
      loadContainer load left (loading.item.toList ++ items) loading.rest
    else ⟨false, items, left + 1, loading.rest⟩

/--
The part of `IOMapSerialize::loadItem` which creates an item, for the record of
this number.  An unknown item is not created, and nothing is read for it.
-/
def loadNew (number : Nat) (load : Stream → Loading)
  (id : UInt16) (propStream : Stream) : Loading :=
  if (types id).known then
    let read := unserializeAttr (classOf types id) propStream
    if read.ok then
      let reading := [(number, read.attrs)]
      if (classOf types id).isContainer then
        let count := (read.serializationCount.getD 0).toNat
        let loading := loadContainer load count [] read.rest
        if loading.ok then
          ⟨true, some (.mk id (classOf types id) 0 reading loading.items), loading.rest⟩
        else ⟨false, none, loading.rest⟩
      else ⟨true, some (.mk id (classOf types id) 0 reading []), read.rest⟩
    else ⟨false, none, read.rest⟩
  else ⟨true, none, propStream⟩

/-- The number of the next item, 0 if there is none. -/
def getId (propStream : Stream) : UInt16 × Stream :=
  ((getUInt16 propStream).1.getD 0, (getUInt16 propStream).2)

/-- `loadItem` for a container, with items nested at most so deep. -/
def loadNested (number : Nat) : Nat → Stream → Loading
  | 0, propStream =>
    loadNew types number (fun rest => ⟨false, none, rest⟩)
      (getId propStream).1 (getId propStream).2
  | depth + 1, propStream =>
    loadNew types number (loadNested number depth) (getId propStream).1 (getId propStream).2

/--
`IOMapSerialize::loadItem` for a container.  Items are not nested deeper than
there are bytes.
-/
def loadInside (number : Nat) (propStream : Stream) : Loading :=
  loadNested types number propStream.length propStream

lemma getId_shrinks (propStream : Stream) : (getId propStream).2.length ≤ propStream.length :=
  getUInt16_shrinks propStream

/-! ### The depth is enough -/

variable {types}

lemma loadContainer_shrinks (shrinks : ∀ stream, (load stream).rest.length ≤ stream.length)
  (left : Nat) (items : List Loaded) (propStream : Stream) :
  (loadContainer load left items propStream).rest.length ≤ propStream.length := by
  induction left generalizing items propStream with
  | zero =>
    have shorter := getUInt8_shrinks propStream
    rw [loadContainer]
    split <;> rename_i taken <;> rw [taken] at shorter <;> exact shorter
  | succ left ih =>
    rw [loadContainer]
    split
    · exact Nat.le_trans (ih _ _) (shrinks propStream)
    · exact shrinks propStream

lemma loadContainer_congr {other : Stream → Loading} {longest : Nat}
  (same : ∀ stream, stream.length ≤ longest → load stream = other stream)
  (shrinks : ∀ stream, (load stream).rest.length ≤ stream.length) (left : Nat)
  (items : List Loaded) (short : propStream.length ≤ longest) :
  loadContainer load left items propStream = loadContainer other left items propStream := by
  induction left generalizing items propStream with
  | zero => rfl
  | succ left ih =>
    have next := Nat.le_trans (shrinks propStream) short
    rw [loadContainer, loadContainer, ← same propStream short]
    rw [ih _ next]

lemma unserializeRounds_shrinks (itemClass : ItemClass) (rounds : Nat) (propStream : Stream) :
  let read := unserializeRounds itemClass rounds propStream
  read.rest.length ≤ propStream.length ∧
    (read.serializationCount ≠ none → read.rest.length < propStream.length) := by
  induction rounds generalizing propStream with
  | zero => exact ⟨Nat.le_refl _, fun counted => absurd rfl counted⟩
  | succ rounds ih =>
    simp only [unserializeRounds]
    split
    · rename_i rest taken
      have shorter := getUInt8_shrinks propStream
      rw [taken] at shorter
      exact ⟨shorter, fun counted => absurd rfl counted⟩
    · rename_i attrType rest taken
      have shorter := getUInt8_taken taken
      split
      · exact ⟨by simp only; omega, fun counted => absurd rfl counted⟩
      · split
        · exact ⟨by simp only; omega, fun counted => absurd rfl counted⟩
        · rename_i attr _
          have less := readAttr_shrinks itemClass attr rest
          split <;> rename_i left read <;> rw [read] at less <;> simp only at less
          · exact ⟨by simp only; omega, fun counted => absurd rfl counted⟩
          · exact ⟨by simp only; omega, fun _ => by simp only; omega⟩
          · have later := ih left
            simp only [Unserialized.after]
            exact ⟨by omega, fun counted => by
              omega⟩

lemma unserializeAttr_shrinks (itemClass : ItemClass) (propStream : Stream) :
  (unserializeAttr itemClass propStream).rest.length ≤ propStream.length :=
  (unserializeRounds_shrinks itemClass propStream.length propStream).1

lemma unserializeAttr_counted {itemClass : ItemClass}
  (counted : (unserializeAttr itemClass propStream).serializationCount ≠ none) :
  (unserializeAttr itemClass propStream).rest.length < propStream.length :=
  (unserializeRounds_shrinks itemClass propStream.length propStream).2 counted

lemma loadNew_shrinks (shrinks : ∀ stream, (load stream).rest.length ≤ stream.length)
  (number : Nat) (id : UInt16) (propStream : Stream) :
  (loadNew types number load id propStream).rest.length ≤ propStream.length := by
  have attrs := unserializeAttr_shrinks (classOf types id) propStream
  have items := loadContainer_shrinks shrinks
    ((unserializeAttr (classOf types id) propStream).serializationCount.getD 0).toNat []
    (unserializeAttr (classOf types id) propStream).rest
  simp only [loadNew]
  split
  · split
    · split
      · split
        · exact Nat.le_trans items attrs
        · exact Nat.le_trans items attrs
      · exact attrs
    · exact attrs
  · exact Nat.le_refl _

lemma loadNew_congr {other : Stream → Loading}
  (same : ∀ stream, stream.length < propStream.length → load stream = other stream)
  (shrinks : ∀ stream, (load stream).rest.length ≤ stream.length) (number : Nat) (id : UInt16) :
  loadNew types number load id propStream = loadNew types number other id propStream := by
  have items :
      let read := unserializeAttr (classOf types id) propStream
      let count := (read.serializationCount.getD 0).toNat
      loadContainer load count [] read.rest = loadContainer other count [] read.rest := by
    intro read count
    by_cases counted : read.serializationCount = none
    · have zero : count = 0 := by
        simp only [count, counted, getD_none]
        rfl
      rw [zero]
      rfl
    · have less := unserializeAttr_counted counted
      have upTo : ∀ stream, stream.length ≤ read.rest.length → load stream = other stream :=
        fun stream le => same stream (Nat.lt_of_le_of_lt le less)
      exact loadContainer_congr upTo shrinks count [] (Nat.le_refl _)
  simp only [loadNew, items]

lemma loadNested_shrinks (number depth : Nat) (propStream : Stream) :
  (loadNested types number depth propStream).rest.length ≤ propStream.length := by
  induction depth generalizing propStream with
  | zero =>
    exact Nat.le_trans (loadNew_shrinks (fun _ => Nat.le_refl _) _ _ _) (getId_shrinks propStream)
  | succ depth ih =>
    exact Nat.le_trans (loadNew_shrinks ih _ _ _) (getId_shrinks propStream)

lemma loadNested_enough (number : Nat) {depth : Nat} (enough : propStream.length ≤ depth) :
  loadNested types number depth propStream = loadInside types number propStream := by
  suffices all : ∀ more fewer stream, stream.length ≤ fewer → fewer ≤ more →
      loadNested types number more stream = loadNested types number fewer stream from
    all depth propStream.length propStream (Nat.le_refl _) enough
  intro more
  induction more with
  | zero =>
    intro fewer stream _ le
    rw [Nat.le_zero.mp le]
  | succ more ih =>
    intro fewer stream fits le
    have taken := getId_shrinks stream
    cases fewer with
    | zero =>
      refine loadNew_congr (fun shorter less => ?_) (loadNested_shrinks number more) number _
      omega
    | succ fewer =>
      refine loadNew_congr (fun shorter less => ?_) (loadNested_shrinks number more) number _
      exact ih fewer shorter (by omega) (by omega)

lemma loadInside_eq (number : Nat) (propStream : Stream) :
  loadInside types number propStream =
    loadNew types number (loadInside types number)
      (getId propStream).1 (getId propStream).2 := by
  rw [← loadNested_enough number (Nat.le_succ propStream.length)]
  refine loadNew_congr (fun shorter less => ?_)
    (loadNested_shrinks number propStream.length) number _
  have taken := getId_shrinks propStream
  exact loadNested_enough number (by omega)

/-! ## Reading back -/

variable (types)

mutual

/-- The item as it is loaded: it was handed the attributes written for it. -/
def Item.restored (number : Nat) : Item → Loaded
  | .mk id attributes items =>
    .mk id (classOf types id) 0
      [(number, ((Item.mk id attributes items).attrs types).map Attr.stored)]
      (restoredAll number items)

def restoredAll (number : Nat) : List Item → List Loaded
  | [] => []
  | item :: items => item.restored number :: restoredAll number items

end

lemma restoredAll_eq_map (number : Nat) (items : List Item) :
  restoredAll types number items = items.map (Item.restored types number) := by
  induction items with
  | nil => rfl
  | cons item items ih => rw [restoredAll, ih, map_cons]

lemma restored_eq (number : Nat) (item : Item) :
  item.restored types number =
    .mk item.id (classOf types item.id) 0
      [(number, (item.attrs types).map Attr.stored)]
      (item.items.map (Item.restored types number)) := by
  cases item
  rw [Item.restored, restoredAll_eq_map]
  rfl

def Item.NoDepot (item : Item) : Prop :=
  classOf types item.id ≠ .depot

instance (item : Item) : Decidable (item.NoDepot types) :=
  inferInstanceAs (Decidable (_ ≠ _))

def ReadBack (number : Nat) (item : Item) : Prop :=
  ∀ rest, loadInside types number (saveItem types item ++ rest) =
    ⟨true, some (item.restored types number), rest⟩

/-- Reading breaks off before the end of the bytes of the item. -/
def BreaksOff (number : Nat) (item : Item) : Prop :=
  ∀ rest,
    let loading := loadInside types number (saveItem types item ++ rest)
    loading.ok = false ∧ rest.length < loading.rest.length

variable {types}

lemma getId_saveItem (item : Item) (rest : Stream) :
  getId (saveItem types item ++ rest) = (item.id, saveBody types item ++ rest) := by
  have read := getUInt16_reads item.id (saveBody types item ++ rest)
  rw [saveItem_eq, append_assoc, getId, read]
  rfl

lemma unserializeAttr_plain
  (plain : (classOf types item.id).isContainer = false) (itemClass : ItemClass) (rest : Stream) :
  unserializeAttr itemClass (saveBody types item ++ rest) =
    ⟨(item.attrs types).map Attr.stored, true, none, rest⟩ := by
  rw [saveBody, plain, if_neg Bool.false_ne_true, nil_append, append_assoc]
  exact unserializeAttr_ended itemClass _ rest

lemma saveBody_container (holds : (classOf types item.id).isContainer) (rest : Stream) :
  saveBody types item ++ rest =
    (item.attrs types).flatMap Attr.bytes ++
      (addUInt8 AttrTypes.containerItems.toByte ++
        (addUInt32 (UInt32.ofNat item.items.length) ++
          (saveReversed types item.items ++ (addUInt8 0 ++ rest)))) := by
  rw [saveBody, if_pos holds]
  simp only [append_assoc]

/-! ### The items of a container -/

lemma loadContainer_reads (inside : ∀ child ∈ items, ReadBack types number child) (left : Nat)
  (front : List Loaded) (rest : Stream) :
  loadContainer (loadInside types number) (items.length + left) front
      (saveReversed types items ++ rest) =
    loadContainer (loadInside types number) left
      (items.map (Item.restored types number) ++ front) rest := by
  induction items generalizing left front rest with
  | nil =>
    rw [length_nil, Nat.zero_add]
    rfl
  | cons item items ih =>
    have later := fun child mem => inside child (mem_cons_of_mem item mem)
    have first := inside item mem_cons_self rest
    have counted : (item :: items).length + left = items.length + (left + 1) := by
      rw [length_cons]
      omega
    rw [counted, saveReversed, append_assoc, ih later, loadContainer, first]
    rfl

lemma loadContainer_ended (load : Stream → Loading) (items : List Loaded) (rest : Stream) :
  loadContainer load 0 items (addUInt8 0 ++ rest) = ⟨true, items, 0, rest⟩ := by
  rfl

lemma loadContainer_breaks
  (inside : ∀ child ∈ items, ReadBack types number child ∨ BreaksOff types number child)
  (broken : ∃ child ∈ items, ¬ ReadBack types number child)
  (left : Nat) (front : List Loaded) (rest : Stream) :
  let loading := loadContainer (loadInside types number)
    (items.length + left) front (saveReversed types items ++ rest)
  loading.ok = false ∧ rest.length < loading.rest.length := by
  induction items generalizing left front rest with
  | nil =>
    rcases broken with ⟨child, mem, _⟩
    cases mem
  | cons item items ih =>
    have later := fun child mem => inside child (mem_cons_of_mem item mem)
    have counted : (item :: items).length + left = items.length + (left + 1) := by
      rw [length_cons]
      omega
    rw [counted, saveReversed, append_assoc]
    by_cases before : ∃ child ∈ items, ¬ ReadBack types number child
    · have breaks := ih later before (left + 1) front (saveItem types item ++ rest)
      refine ⟨breaks.1, Nat.lt_of_le_of_lt ?_ breaks.2⟩
      rw [length_append]
      exact Nat.le_add_left _ _
    · have reads : ∀ child ∈ items,
          ReadBack types number child := by
        intro child mem
        by_contra bad
        exact before ⟨child, mem, bad⟩
      have bad : ¬ ReadBack types number item := by
        intro good
        rcases broken with ⟨child, mem, bad⟩
        rcases mem_cons.mp mem with rfl | mem
        · exact bad good
        · exact bad (reads child mem)
      have breaks := (inside item mem_cons_self).resolve_left bad rest
      rw [loadContainer_reads reads, loadContainer]
      simp only [breaks.1, Bool.false_eq_true, if_false, true_and]
      exact breaks.2

/-! ### Items -/

lemma container_of_noDepot (holds : (classOf types item.id).isContainer)
  (noDepot : item.NoDepot types) : classOf types item.id = .container := by
  cases same : classOf types item.id <;> rw [same] at holds
  case depot => exact absurd same noDepot
  all_goals cases holds

lemma loadNew_reads (known : item.Known types) (noDepot : item.NoDepot types)
  (inside : ∀ child ∈ item.items, ReadBack types number child) (rest : Stream) :
  loadNew types number (loadInside types number) item.id
      (saveBody types item ++ rest) =
    ⟨true, some (item.restored types number), rest⟩ := by
  by_cases holds : (classOf types item.id).isContainer
  · have container := container_of_noDepot holds noDepot
    have count : (UInt32.ofNat item.items.length).toNat = item.items.length + 0 := by
      exact Nat.mod_eq_of_lt known.size
    simp only [loadNew, known.known, if_true, saveBody_container holds]
    rw [restored_eq, container, unserializeAttr_container]
    simp only [if_true, getD_some, count]
    rw [loadContainer_reads inside, loadContainer_ended, append_nil]
    rfl
  · have plain : (classOf types item.id).isContainer = false := Bool.eq_false_iff.mpr holds
    simp only [loadNew, known.known, if_true, unserializeAttr_plain plain,
      plain, Bool.false_eq_true, if_false, restored_eq, known.items plain,
      map_nil]

lemma loadNew_breaks (known : item.Known types)
  (inside : ∀ child ∈ item.items, ReadBack types number child ∨ BreaksOff types number child)
  (broken : item.NoDepot types → ∃ child ∈ item.items, ¬ ReadBack types number child)
  (rest : Stream) :
  let loading := loadNew types number (loadInside types number) item.id
    (saveBody types item ++ rest)
  loading.ok = false ∧ rest.length < loading.rest.length := by
  have longer : rest.length < (addUInt8 0 ++ rest).length := by
    rw [length_append, addUInt8, littleEndian_length]
    omega
  by_cases holds : (classOf types item.id).isContainer
  · by_cases noDepot : item.NoDepot types
    · have container := container_of_noDepot holds noDepot
      have count : (UInt32.ofNat item.items.length).toNat = item.items.length + 0 := by
        exact Nat.mod_eq_of_lt known.size
      have breaks := loadContainer_breaks inside (broken noDepot) 0 [] (addUInt8 0 ++ rest)
      simp only [loadNew, known.known, if_true, saveBody_container holds]
      rw [container, unserializeAttr_container]
      simp only [if_true, getD_some, count, breaks.1,
        Bool.false_eq_true, if_false, true_and, ItemClass.isContainer]
      exact Nat.lt_trans longer breaks.2
    · have other : classOf types item.id ≠ .container := by
        intro container
        exact noDepot (by rw [Item.NoDepot, container]; intro same; cases same)
      simp only [loadNew, known.known, if_true, saveBody_container holds]
      rw [unserializeAttr_other other]
      simp only [Bool.false_eq_true, if_false, true_and]
      rw [length_append]
      omega
  · have plain : (classOf types item.id).isContainer = false := Bool.eq_false_iff.mpr holds
    have noDepot : item.NoDepot types := by
      intro depot
      rw [depot] at plain
      cases plain
    rcases broken noDepot with ⟨child, mem, _⟩
    rw [known.items plain] at mem
    cases mem

lemma exists_broken
  (inside : ∀ child ∈ item.items,
    (child.Every (Item.NoDepot types) ∧ ReadBack types number child) ∨
      (¬ child.Every (Item.NoDepot types) ∧ BreaksOff types number child))
  (depot : ¬ item.Every (Item.NoDepot types)) (noDepot : item.NoDepot types) :
  ∃ child ∈ item.items, ¬ ReadBack types number child := by
  by_contra none
  refine depot (.intro item noDepot fun child mem => ?_)
  by_contra bad
  have breaks := ((inside child mem).resolve_left fun good => bad good.1).2 []
  refine none ⟨child, mem, fun reads => ?_⟩
  rw [reads []] at breaks
  cases breaks.1

lemma readBack_or_breaksOff (number : Nat) (known : item.Every (Item.Known types)) :
  (item.Every (Item.NoDepot types) ∧ ReadBack types number item) ∨
    (¬ item.Every (Item.NoDepot types) ∧ BreaksOff types number item) := by
  induction known with
  | intro item self _ ih =>
    have inside : ∀ child ∈ item.items,
        ReadBack types number child ∨ BreaksOff types number child :=
      fun child mem => (ih child mem).imp And.right And.right
    by_cases all : item.Every (Item.NoDepot types)
    · left
      refine ⟨all, fun rest => ?_⟩
      cases all with
      | intro _ noDepot below =>
        have reads : ∀ child ∈ item.items,
            ReadBack types number child := fun child mem =>
          ((ih child mem).resolve_right fun bad => bad.1 (below child mem)).2
        rw [loadInside_eq, getId_saveItem]
        exact loadNew_reads self noDepot reads rest
    · right
      refine ⟨all, fun rest => ?_⟩
      rw [loadInside_eq, getId_saveItem]
      exact loadNew_breaks self inside (exists_broken ih all) rest

end Store

end OTServ.MapStore
