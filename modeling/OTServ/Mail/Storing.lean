import OTServ.Items.Units
import OTServ.Mail.Depots

/-!
# Loading and saving depots

What has been loaded lies beyond everything that was there before, and what is
saved is written out completely: every row is above the rows of just what is in
its item.
-/

namespace OTServ.Mail

open Attributes
open Items
open Library
open Library.Placements
open List Function Option

/-! ## Tidy worlds -/

/--
What is listed is listed once, by its parent.  Something with a parent need not
be listed: the depot of a player who has opened it has the tile of the locker
for its parent.
-/
structure Tidy (items : ItemTable) (world : World) : Prop
  extends Sorted items world.toStock where
  nodup : ∀ cylinder, (world.listing cylinder).Nodup
  parent :
    ∀ cylinder item, item ∈ world.listing cylinder → (world.item item).parent = some cylinder
  fresh :
    ∀ item, world.next ≤ item → (world.item item).parent = none ∧ (world.item item).itemlist = []

section

variable {items : ItemTable} {before after : World} {cylinder : Cylinder} {item : Nat}
  {matter : Matter}

variable (tidy : Tidy items before)
include tidy

lemma Tidy.unique {place other : Cylinder} (here : item ∈ before.listing place)
  (there : item ∈ before.listing other) : other = place := by
  have first := tidy.parent place item here
  have second := tidy.parent other item there
  rw [first] at second
  exact (some.inj second).symm

lemma Tidy.unlisted (free : (before.item item).parent = none) (cylinder : Cylinder) :
  item ∉ before.listing cylinder := by
  intro mem
  rw [tidy.parent cylinder item mem] at free
  cases free

lemma Tidy.given (mem : item ∈ before.listing cylinder) : item < before.next := by
  by_contra later
  have parent := tidy.parent cylinder item mem
  rw [(tidy.fresh item (not_lt.mp later)).1] at parent
  cases parent

lemma Tidy.congr (same : SameStock before after) : Tidy items after where
  toSorted := by
    rw [same.stock]
    exact tidy.toSorted
  nodup := by
    rw [same.stock]
    exact tidy.nodup
  parent := by
    rw [same.stock]
    exact tidy.parent
  fresh other later := by
    rw [same.stock]
    exact tidy.fresh other (same.next.trans later)

lemma Tidy.creates (creates : Creates before after item matter) : Tidy items after where
  toSorted := by
    have fresh := tidy.fresh before.next (le_refl _)
    rw [creates.stock, creates.pointer]
    exact tidy.toSorted.setMatter_off (fun pos => tidy.unlisted fresh.1 _) (fun _ => fresh.2)
  nodup cylinder := by
    rw [creates.listing]
    exact tidy.nodup cylinder
  parent cylinder other member := by
    rw [creates.listing] at member
    rw [creates.parent]
    exact tidy.parent cylinder other member
  fresh other later := by
    rw [creates.next] at later
    rw [creates.stock, Stock.setMatter_parent, Stock.setMatter_itemlist]
    exact tidy.fresh other (by omega)

lemma Tidy.takes (takes : Takes before.toStock after.toStock cylinder item)
  (next : after.next = before.next) : Tidy items after where
  toSorted := takes.sorted tidy.toSorted
  nodup place := by
    by_cases here : place = cylinder
    · subst here
      exact (nodup_cons.mp ((takes.listing).nodup_iff.mp (tidy.nodup place))).2
    · rw [takes.listing_other here]
      exact tidy.nodup place
  parent place other member := by
    have listed : other ∈ before.listing place := by
      by_cases here : place = cylinder
      · subst here
        exact takes.listing.mem_iff.mpr (mem_cons_of_mem _ member)
      · rw [takes.listing_other here] at member
        exact member
    have ne : other ≠ item := by
      rintro rfl
      have here := tidy.unique takes.placement.member listed
      subst here
      exact (nodup_cons.mp (takes.listing.nodup_iff.mp (tidy.nodup place))).1 member
    have parent := congrFun takes.placement.parent other
    rw [update_of_ne ne] at parent
    exact parent.trans (tidy.parent place other listed)
  fresh other later := by
    rw [next] at later
    have old := tidy.fresh other later
    constructor
    · have parent := congrFun takes.placement.parent other
      by_cases same : other = item
      · subst same
        rw [update_self] at parent
        exact parent
      · rw [update_of_ne same] at parent
        exact parent.trans old.1
    · by_cases here : (.item other : Cylinder) = cylinder
      · have member := takes.placement.member
        rw [← here] at member
        have listed : item ∈ (before.item other).itemlist := member
        rw [old.2] at listed
        cases listed
      · exact (takes.listing_other here).trans old.2

lemma Tidy.puts (puts : Puts items before.toStock after.toStock cylinder item)
  (next : after.next = before.next) (free : (before.item item).parent = none)
  (given : item < before.next)
  (place : ∀ pointer, cylinder = .item pointer → pointer < before.next) : Tidy items after where
  toSorted := puts.sorted tidy.toSorted
  nodup other := by
    by_cases here : other = cylinder
    · subst here
      refine puts.listing.nodup_iff.mpr (nodup_cons.mpr ⟨?_, tidy.nodup other⟩)
      exact tidy.unlisted free other
    · rw [puts.listing_other here]
      exact tidy.nodup other
  parent other thing member := by
    have parent := congrFun puts.placement.parent thing
    by_cases here : other = cylinder
    · subst here
      rcases mem_cons.mp (puts.listing.mem_iff.mp member) with rfl | old
      · rw [update_self] at parent
        exact parent
      · have ne : thing ≠ item := by
          rintro rfl
          exact tidy.unlisted free other old
        rw [update_of_ne ne] at parent
        exact parent.trans (tidy.parent other thing old)
    · rw [puts.listing_other here] at member
      have ne : thing ≠ item := by
        rintro rfl
        exact tidy.unlisted free other member
      rw [update_of_ne ne] at parent
      exact parent.trans (tidy.parent other thing member)
  fresh other later := by
    rw [next] at later
    have old := tidy.fresh other later
    constructor
    · have parent := congrFun puts.placement.parent other
      have ne : other ≠ item := by omega
      rw [update_of_ne ne] at parent
      exact parent.trans old.1
    · have away : (.item other : Cylinder) ≠ cylinder := by
        intro here
        have early := place other here.symm
        omega
      exact (puts.listing_other away).trans old.2

lemma Tidy.setMatter_off (off : ∀ pos, item ∉ before.listing (.tile pos))
  (holds : matter.itemClass.isContainer = false → (before.item item).itemlist = [])
  (stock : after.toStock = before.toStock.setMatter item matter)
  (next : before.next ≤ after.next) : Tidy items after where
  toSorted := by
    rw [stock]
    exact tidy.toSorted.setMatter_off off holds
  nodup cylinder := by
    have same := Stock.setMatter_placement before.toStock item matter
    rw [← stock] at same
    have listing : after.listing cylinder = before.listing cylinder :=
      congrArg (fun placement => placement.listing cylinder) same
    rw [listing]
    exact tidy.nodup cylinder
  parent cylinder other member := by
    have same := Stock.setMatter_placement before.toStock item matter
    rw [← stock] at same
    have listing : after.listing cylinder = before.listing cylinder :=
      congrArg (fun placement => placement.listing cylinder) same
    rw [listing] at member
    rw [stock, Stock.setMatter_parent]
    exact tidy.parent cylinder other member
  fresh other later := by
    rw [stock, Stock.setMatter_parent, Stock.setMatter_itemlist]
    exact tidy.fresh other (next.trans later)

end

/-! ## Enlarged worlds -/

/-- Everything in the old world is as it was; there may be new items. -/
structure Enlarges (base world : World) : Prop where
  next : base.next ≤ world.next
  item : ∀ pointer, pointer < base.next → world.item pointer = base.item pointer
  tile : world.tile = base.tile
  inventory : world.inventory = base.inventory

lemma Enlarges.refl (world : World) : Enlarges world world :=
  ⟨le_refl _, fun _ _ => rfl, rfl, rfl⟩

section

variable {base before after : World} {pointer : Nat} {matter : Matter}

lemma Enlarges.setMatter (enlarges : Enlarges base before) (new : base.next ≤ pointer)
  (stock : after.toStock = before.toStock.setMatter pointer matter)
  (next : before.next ≤ after.next) : Enlarges base after where
  next := enlarges.next.trans next
  item other old := by
    have ne : other ≠ pointer := by omega
    rw [stock, ← enlarges.item other old]
    simp [Stock.setMatter, ne]
  tile := by
    rw [stock]
    exact enlarges.tile
  inventory := by
    rw [stock]
    exact enlarges.inventory

end

def Outermost (world : World) (container : Nat) : Prop :=
  (world.item container).parent = none ∨
    ∃ position, (world.item container).parent = some (.tile position)

structure IsDepot (world : World) (depot : Nat) : Prop where
  itemClass : (world.item depot).itemClass = .depot
  outermost : Outermost world depot
  unlisted : ∀ cylinder, depot ∉ world.listing cylinder
  given : depot < world.next

section

variable {env : Env} {base world before after : World} {container depot item : Nat}

lemma Outermost.parents (outermost : Outermost world container) :
  (world.parents (world.item container).parent = some [] ∧
    world.parents (some (.item container)) = some [.item container]) ∨
  ∃ pos,
    world.parents (world.item container).parent = some [.tile pos] ∧
      world.parents (some (.item container)) = some [.item container, .tile pos] := by
  rcases outermost with parent | ⟨pos, parent⟩
  · refine .inl ⟨by rw [parent]; rfl, ?_⟩
    simp [World.parents, World.around, World.getParent, parent]
  · refine .inr ⟨pos, ?_, ?_⟩
    · simp [World.parents, World.around, World.getParent, parent]
    · simp [World.parents, World.around, World.getParent, parent]

lemma Outermost.weighs (outermost : Outermost world container) (diff : Int) :
  ∃ changed, world.updateItemWeight container diff = some changed := by
  rcases outermost.parents with ⟨_, ends⟩ | ⟨pos, _, ends⟩ <;>
    exact ⟨_, by rw [World.updateItemWeight, ends]; rfl⟩

lemma internalAddThing_eq (world : World) (container item : Nat) :
  internalAddThing env.items world container item =
    containerAddThing env world container (-1) item := by
  have room : ¬ (((world.item container).maxSize : Int) ≤ -1) := by omega
  rw [containerAddThing, if_neg room]
  rfl

lemma containerAddThing_ends
  {index : Int} (outermost : Outermost world container) (ne : container ≠ item) :
  ∃ changed, containerAddThing env world container index item = some changed := by
  rw [containerAddThing]
  split
  · exact ⟨world, rfl⟩
  · refine Outermost.weighs ?_ _
    have parent :
        ((((world.toStock.setParent item
          (some (.item container))).setItemlist container
            (item :: (world.item container).itemlist)).item
              container).parent) = (world.item container).parent := by
      simp [Stock.setItemlist, Stock.setParent, ne]
    rw [Outermost, World.withStock_toStock, parent]
    exact outermost

lemma Enlarges.puts (enlarges : Enlarges base before) (newContainer : base.next ≤ container)
  (newItem : base.next ≤ item)
  (done : internalAddThing env.items before container item = some after) :
  Enlarges base after := by
  have stock := World.updateItemWeight_toStock done
  have next := World.updateItemWeight_next done
  refine ⟨enlarges.next.trans next.ge, ?_, ?_, ?_⟩
  · intro pointer old
    have other : pointer ≠ container := by omega
    have ne : pointer ≠ item := by omega
    rw [stock, ← enlarges.item pointer old]
    simp [Stock.setItemlist, Stock.setParent, other, ne]
  · rw [stock]
    exact enlarges.tile
  · rw [stock]
    exact enlarges.inventory

lemma IsDepot.congr (isDepot : IsDepot before depot)
  (matter : (after.item depot).toMatter = (before.item depot).toMatter)
  (parent : (after.item depot).parent = (before.item depot).parent)
  (unlisted : ∀ cylinder, depot ∉ after.listing cylinder) (next : before.next ≤ after.next) :
  IsDepot after depot where
  itemClass := by
    rw [matter]
    exact isDepot.itemClass
  outermost := by
    rw [Outermost, parent]
    exact isDepot.outermost
  unlisted := unlisted
  given := isDepot.given.trans_le next

end

structure Made (items : ItemTable) (base : World) (known : Nat → ItemAttributes)
  (loading : Loading) : Prop where
  tidy : Tidy items loading.world
  enlarges : Enlarges base loading.world
  attributes : ∀ pointer, pointer < base.next → loading.attributes pointer = known pointer
  new : ∀ block ∈ loading.itemMap, base.next ≤ block.item
  given : ∀ block ∈ loading.itemMap, block.item < loading.world.next
  free : ∀ block ∈ loading.itemMap, (loading.world.item block.item).parent = none
  nodup : (loading.itemMap.map (·.item)).Nodup
  nested : ∀ block ∈ loading.itemMap, 100 ≤ block.pid → block.pid < block.sid

variable {items : ItemTable} {world base created : World} {known : Nat → ItemAttributes}
  {loading : Loading} {matter : Matter} {office : Office} {loaded : Loaded}

lemma Made.begin (tidy : Tidy items world) :
  Made items world known { world := world, attributes := known, itemMap := [] } where
  tidy := tidy
  enlarges := .refl world
  attributes _ _ := rfl
  new _ member := by cases member
  given _ member := by cases member
  free _ member := by cases member
  nodup := nodup_nil
  nested _ member := by cases member

lemma Made.next (made : Made items base known loading)
  (creates : Creates loading.world created loading.world.next matter) {row : Row}
  (nested : 100 ≤ row.pid → row.pid < row.sid) :
  Made items base known
    { world := created
      attributes := update loading.attributes loading.world.next row.attributes
      itemMap := loading.itemMap ++ [⟨row.sid, row.pid, loading.world.next⟩] } where
  tidy := made.tidy.creates creates
  enlarges :=
    made.enlarges.setMatter made.enlarges.next creates.stock (by rw [creates.next]; omega)
  attributes pointer old := by
    have ne : pointer ≠ loading.world.next := by
      have grown := made.enlarges.next
      omega
    show update _ _ _ pointer = _
    rw [update_of_ne ne]
    exact made.attributes pointer old
  new block member := by
    rcases mem_append.mp member with old | new
    · exact made.new block old
    · rw [mem_singleton.mp new]
      exact made.enlarges.next
  given block member := by
    rw [creates.next]
    rcases mem_append.mp member with old | new
    · exact (made.given block old).trans (Nat.lt_succ_self _)
    · rw [mem_singleton.mp new]
      exact Nat.lt_succ_self _
  free block member := by
    rw [creates.parent]
    rcases mem_append.mp member with old | new
    · exact made.free block old
    · rw [mem_singleton.mp new]
      exact (made.tidy.fresh _ (le_refl _)).1
  nodup := by
    rw [map_append, nodup_append]
    refine ⟨made.nodup, nodup_singleton _, ?_⟩
    intro item old other new same
    rcases mem_map.mp old with ⟨block, member, rfl⟩
    have early := made.given block member
    have late : other = loading.world.next := by simpa using new
    omega
  nested block member := by
    rcases mem_append.mp member with old | new
    · exact made.nested block old
    · rw [mem_singleton.mp new]
      exact nested

lemma loadItems_made {rows : List Row} (made : Made items base known loading)
  (nested : ∀ row ∈ rows, 100 ≤ row.pid → row.pid < row.sid)
  (descending :
    (loading.itemMap.map (·.sid) ++ rows.map (·.sid)).Pairwise fun left right => right < left) :
  Made items base known (loadItems items rows loading) ∧
    ((loadItems items rows loading).itemMap.map (·.sid)).Pairwise
      fun left right => right < left := by
  induction rows generalizing loading with
  | nil =>
    rw [map_nil, append_nil] at descending
    exact ⟨made, descending⟩
  | cons row rest ih =>
    have nestedRest : ∀ other ∈ rest,
        100 ≤ other.pid → other.pid < other.sid :=
      fun other mem => nested other (mem_cons_of_mem _ mem)
    by_cases known : (items row.itemtype).known
    · have fresh := made.tidy.fresh loading.world.next (le_refl _)
      have pair :
          loading.world.createItem items row.itemtype row.count =
            (some loading.world.next, (loading.world.createItem items row.itemtype row.count).2) :=
        Prod.ext (createItem_creates fresh known).1 rfl
      have creates :
          Creates loading.world
            (loading.world.createItem items row.itemtype row.count).2
            loading.world.next
            (World.newMatter items row.itemtype row.count) :=
        (createItem_creates fresh known).2
      rw [loadItems, pair]
      refine ih (made.next creates (nested row mem_cons_self)) nestedRest ?_
      simpa using descending
    · have none :
          loading.world.createItem items row.itemtype row.count = (none, loading.world) := by
        rw [World.createItem, if_neg known]
      rw [loadItems, none]
      refine ih made nestedRest (descending.sublist ?_)
      rw [map_cons]
      exact (sublist_cons_self _ _).append_left _

/-! ## Depots in memory -/

/--
The depots of a player in a world which has grown out of another one; none of
them is older than the given pointer.
-/
structure Stores (items : ItemTable) (base : World) (least : Nat) (storage : Storage) : Prop where
  tidy : Tidy items storage.world
  enlarges : Enlarges base storage.world
  isDepot : ∀ dp depot, storage.depots.find? dp = some depot → IsDepot storage.world depot
  least : ∀ dp depot, storage.depots.find? dp = some depot → least ≤ depot
  injective :
    ∀ dp other depot,
      storage.depots.find? dp = some depot → storage.depots.find? other = some depot → dp = other

section

variable {env : Env} {base : World} {least limit depot depotId : Nat} {storage : Storage}

lemma Stores.addDepot (stores : Stores env.items base least storage)
  (isDepot : IsDepot storage.world depot) (old : least ≤ depot) (new : base.next ≤ depot)
  (absent : ∀ dp, storage.depots.find? dp ≠ some depot) :
  Stores env.items base least (addDepot storage limit depot depotId) := by
  rw [Mail.addDepot]
  split
  · exact stores
  · have stock :
        (setMaxDepotLimit storage.world depot limit).toStock =
          storage.world.toStock.setMatter depot
            { (storage.world.item depot).toMatter with maxDepotLimit := limit } :=
      rfl
    have holds : ({ (storage.world.item depot).toMatter with
          maxDepotLimit := limit } : Matter).itemClass.isContainer = false →
            (storage.world.item depot).itemlist = [] := by
      intro plain
      have isContainer : (storage.world.item depot).itemClass.isContainer =
          false := plain
      rw [isDepot.itemClass] at isContainer
      cases isContainer
    have kept : ∀ other,
        IsDepot storage.world other →
          IsDepot (setMaxDepotLimit storage.world depot limit) other := by
      intro other was
      refine ⟨?_, ?_, ?_, was.given⟩
      · rw [stock]
        by_cases same : other = depot
        · subst same
          simpa [Stock.setMatter] using was.itemClass
        · simpa [Stock.setMatter, same] using was.itemClass
      · rw [Outermost, stock, Stock.setMatter_parent]
        exact was.outermost
      · intro cylinder
        have same := Stock.setMatter_placement storage.world.toStock depot
          { (storage.world.item depot).toMatter with maxDepotLimit := limit }
        have listing :
            (setMaxDepotLimit storage.world depot limit).listing cylinder =
              storage.world.listing cylinder :=
          congrArg (fun placement => placement.listing cylinder) same
        rw [listing]
        exact was.unlisted cylinder
    refine ⟨?_, ?_, ?_, ?_, ?_⟩
    · exact stores.tidy.setMatter_off (fun pos => isDepot.unlisted _) holds stock (le_refl _)
    · exact stores.enlarges.setMatter new stock (le_refl _)
    · intro dp other found
      rw [OrderedMap.find?_insert] at found
      split at found
      · cases found
        exact kept depot isDepot
      · exact kept other (stores.isDepot dp other found)
    · intro dp other found
      rw [OrderedMap.find?_insert] at found
      split at found
      · cases found
        exact old
      · exact stores.least dp other found
    · intro dp other pointer found there
      rw [OrderedMap.find?_insert] at found there
      split at found <;> split at there
      · rename_i here same
        exact here.trans same.symm
      · cases found
        exact absurd there (absent other)
      · cases there
        exact absurd found (absent dp)
      · exact stores.injective dp other pointer found there

@[simp]
lemma addDepot_next :
  (addDepot storage limit depot depotId).world.next = storage.world.next := by
  rw [Mail.addDepot]
  split <;> rfl

@[simp]
lemma addDepot_parent (pointer : Nat) :
  ((addDepot storage limit depot depotId).world.item pointer).parent =
    (storage.world.item pointer).parent := by
  rw [Mail.addDepot]
  split
  · rfl
  · exact Stock.setMatter_parent _ _ _ _

lemma addDepot_find {dp other : Nat}
  (found : (addDepot storage limit depot depotId).depots.find? dp = some other) :
  other = depot ∨ storage.depots.find? dp = some other := by
  rw [Mail.addDepot] at found
  split at found
  · exact .inr found
  · rw [OrderedMap.find?_insert] at found
    split at found
    · exact .inl (some.inj found).symm
    · exact .inr found

/-- A new item comes into a new container that lies in no other one. -/
lemma Stores.puts (stores : Stores env.items base least storage) {container item : Nat}
  (isContainer : storage.world.isContainer container) (newContainer : base.next ≤ container)
  (newItem : base.next ≤ item) (givenContainer : container < storage.world.next)
  (givenItem : item < storage.world.next) (outermost : Outermost storage.world container)
  (free : (storage.world.item item).parent = none) (ne : container ≠ item)
  (absent : ∀ dp, storage.depots.find? dp ≠ some item) :
  ∃ added,
    internalAddThing env.items storage.world container item =
        some added ∧
      Puts env.items storage.world.toStock added.toStock (.item container) item ∧
      added.next = storage.world.next ∧
      Stores env.items base least { storage with world := added } := by
  have some_added :
      ∃ added, containerAddThing env storage.world container (-1) item = some added :=
    containerAddThing_ends outermost ne
  rcases some_added with ⟨added, ends⟩
  have done := (internalAddThing_eq storage.world container item).trans ends
  have room : (-1 : Int) < (storage.world.item container).maxSize := by omega
  rcases containerAddThing_puts isContainer room ends with ⟨puts, next⟩
  refine ⟨added, done, puts, next, ?_⟩
  refine ⟨?_, stores.enlarges.puts newContainer newItem done, ?_, stores.least, stores.injective⟩
  · refine stores.tidy.puts puts next free givenItem ?_
    rintro pointer ⟨⟩
    exact givenContainer
  · intro dp depot found
    have isDepot := stores.isDepot dp depot found
    have other : depot ≠ item := by
      rintro rfl
      exact absent dp found
    refine isDepot.congr (puts.matter depot) ?_ ?_ next.ge
    · have parent := congrFun puts.placement.parent depot
      rw [update_of_ne other] at parent
      exact parent
    · intro cylinder mem
      by_cases here : cylinder = .item container
      · subst here
        rcases mem_cons.mp (puts.listing.mem_iff.mp mem) with same | old
        · exact other same
        · exact isDepot.unlisted _ old
      · rw [puts.listing_other here] at mem
        exact isDepot.unlisted cylinder mem

/-- All the items come into their containers, and the depots are found. -/
lemma placeItems_stores {passed rest : List Block}
  (descending : ((passed ++ rest).map (·.sid)).Pairwise fun left right => right < left)
  (nodup : ((passed ++ rest).map (·.item)).Nodup)
  (nested : ∀ block ∈ passed ++ rest, 100 ≤ block.pid → block.pid < block.sid)
  (new : ∀ block ∈ passed ++ rest, base.next ≤ block.item)
  (least_le : ∀ block ∈ passed ++ rest, least ≤ block.item)
  (given : ∀ block ∈ passed ++ rest, block.item < storage.world.next)
  (free : ∀ block ∈ rest, (storage.world.item block.item).parent = none)
  (absent : ∀ block ∈ rest, ∀ dp, storage.depots.find? dp ≠ some block.item)
  (stores : Stores env.items base least storage) :
  ∃ placed,
    placeItems env.items limit (passed ++ rest) rest storage =
        some placed ∧
      Stores env.items base least placed := by
  induction rest generalizing passed storage with
  | nil => exact ⟨storage, rfl, stores⟩
  | cons block rest ih =>
    have regroup : passed ++ block :: rest = (passed ++ [block]) ++ rest := by
      simp
    have here : block ∈ passed ++ block :: rest := by simp
    have alone : ∀ other ∈ rest, other.item ≠ block.item := by
      intro other mem same
      rw [map_append, nodup_append, map_cons, nodup_cons] at nodup
      exact nodup.2.1.1 (mem_map.mpr ⟨other, mem, same⟩)
    have lower : ∀ other ∈ passed ++ block :: rest,
        other.sid < block.sid → other ∈ rest := by
      intro other mem less
      rcases mem_append.mp mem with before | after
      · rw [map_append, pairwise_append] at descending
        have above := descending.2.2 other.sid
          (mem_map.mpr ⟨other, before, rfl⟩) block.sid (by simp)
        omega
      · rcases mem_cons.mp after with rfl | later
        · omega
        · exact later
    have freeBlock := free block mem_cons_self
    have absentBlock := absent block mem_cons_self
    have freeRest : ∀ other ∈ rest,
        (storage.world.item other.item).parent = none :=
      fun other mem => free other (mem_cons_of_mem _ mem)
    have absentRest : ∀ other ∈ rest, ∀ dp,
        storage.depots.find? dp ≠ some other.item :=
      fun other mem => absent other (mem_cons_of_mem _ mem)
    have newBlock := new block here
    have oldBlock := least_le block here
    have givenBlock := given block here
    have nestedBlock := nested block here
    have newAll := new
    have givenAll := given
    rw [regroup] at descending nodup nested new least_le given
    have skip :
        ∃ placed,
          placeItems env.items limit (passed ++ block :: rest) rest
              storage = some placed ∧
            Stores env.items base least placed := by
      rw [regroup]
      exact ih descending nodup nested new least_le given freeRest absentRest stores
    rw [placeItems]
    split
    · split
      · rename_i itemClass
        have isDepot : IsDepot storage.world block.item :=
          ⟨itemClass, .inl freeBlock, stores.tidy.unlisted freeBlock, givenBlock⟩
        rw [regroup]
        refine ih descending nodup nested new least_le ?_ ?_ ?_
          (stores.addDepot isDepot oldBlock newBlock absentBlock)
        · intro other mem
          rw [addDepot_next]
          exact given other mem
        · intro other mem
          rw [addDepot_parent]
          exact freeRest other mem
        · intro other mem dp found
          rcases addDepot_find found with same | old
          · exact alone other mem same
          · exact absentRest other mem dp old
      · exact skip
    · rename_i inside
      split
      · exact skip
      · rename_i other found
        have otherMember := mem_of_find?_eq_some found
        have sid : other.sid = block.pid := by
          simpa using List.find?_some found
        have later : other ∈ rest := by
          refine lower other otherMember ?_
          rw [sid]
          exact nestedBlock (not_lt.mp inside)
        split
        · rename_i isContainer
          rcases stores.puts isContainer (newAll other otherMember)
              newBlock (givenAll other otherMember) givenBlock
              (.inl (freeRest other later)) freeBlock (alone other later)
              absentBlock
            with ⟨added, done, puts, next, further⟩
          rw [done, bind_some, regroup]
          refine ih descending nodup nested new least_le ?_ ?_ absentRest further
          · intro there mem
            rw [next]
            exact given there mem
          · intro there mem
            have parent := congrFun puts.placement.parent there.item
            rw [update_of_ne (alone there mem)] at parent
            exact parent.trans (freeRest there mem)
        · exact skip

lemma loadDepots_stores (tidy : Tidy env.items office.world) :
  ∃ storage attributes,
    loadDepots env.items office loaded = some (storage, attributes) ∧
      Stores env.items office.world office.world.next storage ∧
      ∀ pointer, pointer < office.world.next →
        attributes pointer = office.attributes pointer := by
  have descending :
      (([] : List Nat) ++ loaded.rows.map (·.sid)).Pairwise fun left right => right < left := by
    rw [nil_append, pairwise_map]
    exact loaded.descending
  rcases loadItems_made (Made.begin tidy) loaded.nested descending with ⟨made, ordered⟩
  have begun :
      Stores env.items office.world office.world.next
        { world :=
            (loadItems env.items loaded.rows ⟨office.world, office.attributes, []⟩).world
          depots := OrderedMap.empty } := by
    refine ⟨made.tidy, made.enlarges, ?_, ?_, ?_⟩
    · intro dp depot found
      cases found
    · intro dp depot found
      cases found
    · intro dp other depot found
      cases found
  have absent :
      ∀ block ∈
        (loadItems env.items loaded.rows ⟨office.world, office.attributes, []⟩).itemMap,
        ∀ dp, (OrderedMap.empty : DepotMap).find? dp ≠ some block.item := by
    intro block mem dp found
    cases found
  have all :
      ∃ placed,
        placeItems env.items loaded.maxDepotLimit
              ([] ++
                (loadItems env.items loaded.rows ⟨office.world, office.attributes, []⟩).itemMap)
              (loadItems env.items loaded.rows ⟨office.world, office.attributes, []⟩).itemMap
              ⟨(loadItems env.items loaded.rows
                ⟨office.world, office.attributes, []⟩).world,
                OrderedMap.empty⟩ = some placed ∧
          Stores env.items office.world office.world.next placed :=
    placeItems_stores ordered made.nodup made.nested made.new made.new
      made.given made.free absent begun
  rcases all with ⟨placed, done, stores⟩
  rw [nil_append] at done
  refine ⟨placed, _, ?_, stores, made.attributes⟩
  simp only [loadDepots, done, map_some]

/-! ## Opening -/

lemma Stores.creates (stores : Stores env.items base least storage)
  (creates : Creates storage.world created storage.world.next matter) :
  Stores env.items base least { storage with world := created } := by
  have grown : storage.world.next ≤ created.next := by
    rw [creates.next]
    omega
  refine ⟨stores.tidy.creates creates,
    stores.enlarges.setMatter stores.enlarges.next creates.stock grown, ?_,
    stores.least, stores.injective⟩
  intro dp depot found
  have isDepot := stores.isDepot dp depot found
  have old := isDepot.given
  have ne : depot ≠ storage.world.next := by omega
  refine isDepot.congr (creates.matter_other ne) (creates.parent depot) ?_ grown
  intro cylinder
  rw [creates.listing]
  exact isDepot.unlisted cylinder

/-- The types of which a new depot is made, as the item table has them. -/
structure LockerTypes (items : ItemTable) : Prop where
  locker : (items 2589).known
  isDepot : (items 2589).itemClass = .depot
  chest : (items 2594).known

lemma createItem_of_known {id count : Nat} (tidy : Tidy items world) (known : (items id).known) :
  ∃ created,
    world.createItem items id count = (some world.next, created) ∧
      Creates world created world.next (World.newMatter items id count) := by
  have fresh := tidy.fresh world.next (le_refl _)
  exact ⟨(world.createItem items id count).2,
    Prod.ext (createItem_creates fresh known).1 rfl,
    (createItem_creates fresh known).2⟩

lemma getDepot_stores (types : LockerTypes env.items) (least_le : least ≤ base.next)
  (stores : Stores env.items base least storage) :
  ∃ depot opened,
    getDepot env.items storage limit depotId = some (some depot, opened) ∧
      Stores env.items base least opened ∧
      opened.depots.find? depotId = some depot := by
  rw [getDepot]
  split
  · rename_i depot found
    exact ⟨depot, storage, rfl, stores, found⟩
  · rename_i missing
    have made :
        ∃ created,
          storage.world.createItem env.items 2589 0 =
              (some storage.world.next, created) ∧
            Creates storage.world created storage.world.next (World.newMatter env.items 2589 0) :=
      createItem_of_known stores.tidy types.locker
    rcases made with ⟨created, done, creates⟩
    have early := stores.creates creates
    have more :
        ∃ furnished,
          created.createItem env.items 2594 0 =
              (some created.next, furnished) ∧
            Creates created furnished created.next (World.newMatter env.items 2594 0) :=
      createItem_of_known early.tidy types.chest
    rcases more with ⟨furnished, doneChest, createsChest⟩
    have late := early.creates createsChest
    have itemClass : (created.item storage.world.next).itemClass = .depot := by
      rw [creates.matter_self]
      exact types.isDepot
    have ne : storage.world.next ≠ created.next := by
      rw [creates.next]
      omega
    have stillDepot : (furnished.item storage.world.next).itemClass = .depot := by
      rw [createsChest.matter_other ne]
      exact itemClass
    have freeDepot : (furnished.item storage.world.next).parent = none := by
      rw [createsChest.parent, creates.parent]
      exact (stores.tidy.fresh _ (le_refl _)).1
    have freeChest : (furnished.item created.next).parent = none := by
      rw [createsChest.parent]
      exact (early.tidy.fresh _ (le_refl _)).1
    have grown := stores.enlarges.next
    have nextCreated := creates.next
    have nextFurnished := createsChest.next
    have absent : ∀ dp pointer,
        storage.world.next ≤ pointer → storage.depots.find? dp ≠ some pointer := by
      intro dp pointer new found
      have given := (stores.isDepot dp pointer found).given
      omega
    have isContainer : furnished.isContainer storage.world.next := by
      rw [Stock.isContainer, stillDepot]
      rfl
    have newChest : base.next ≤ created.next := by omega
    have givenDepot : storage.world.next < furnished.next := by omega
    have givenChest : created.next < furnished.next := by omega
    have absentChest : ∀ dp, storage.depots.find? dp ≠ some created.next :=
      fun dp => absent dp created.next (by omega)
    rcases late.puts isContainer grown newChest givenDepot givenChest
        (.inl freeDepot) freeChest ne absentChest
      with ⟨filled, doneFill, puts, next, stored⟩
    have isDepot : IsDepot filled storage.world.next := by
      have parent := congrFun puts.placement.parent storage.world.next
      rw [update_of_ne ne] at parent
      have free : (filled.item storage.world.next).parent = none := parent.trans freeDepot
      refine ⟨?_, .inl free, stored.tidy.unlisted free, ?_⟩
      · rw [puts.matter]
        exact stillDepot
      · rw [next]
        exact givenDepot
    refine ⟨storage.world.next,
      addDepot ⟨filled, storage.depots⟩ limit storage.world.next depotId, ?_,
      stored.addDepot isDepot (by omega) grown (fun dp => absent dp _ (le_refl _)), ?_⟩
    · simp only [done, itemClass, if_true, doneChest, doneFill, map_some]
    · have vacant : storage.depots.contains depotId = false := by
        rw [OrderedMap.contains, missing]
        rfl
      rw [Mail.addDepot]
      simp [vacant]

lemma placeItems_numbers {itemMap rest : List Block} {placed : Storage}
  (done : placeItems items limit itemMap rest storage = some placed)
  (small : ∀ dp depot, storage.depots.find? dp = some depot → dp < 100) :
  ∀ dp depot, placed.depots.find? dp = some depot → dp < 100 := by
  induction rest generalizing storage with
  | nil =>
    cases done
    exact small
  | cons block rest ih =>
    simp only [placeItems] at done
    split at done
    · rename_i number
      split at done
      · refine ih done ?_
        intro dp depot found
        rw [Mail.addDepot] at found
        split at found
        · exact small dp depot found
        · rw [OrderedMap.find?_insert] at found
          split at found
          · rename_i same
            rw [same]
            exact number
          · exact small dp depot found
      · exact ih done small
    · split at done
      · exact ih done small
      · split at done
        · rcases bind_eq_some_iff.mp done with ⟨added, _, further⟩
          exact ih further small
        · exact ih done small

lemma loadDepots_numbers {attributes : Nat → ItemAttributes}
  (done : loadDepots env.items office loaded = some (storage, attributes)) :
  ∀ dp depot, storage.depots.find? dp = some depot → dp < 100 := by
  rcases map_eq_some_iff.mp done with ⟨placed, place, same⟩
  cases same
  refine placeItems_numbers place ?_
  intro dp depot found
  cases found

lemma getDepot_numbers
  {opened : Storage} {found : Option Nat}
  (done : getDepot env.items storage limit depotId = some (found, opened))
  (number : depotId < 100)
  (small : ∀ dp depot, storage.depots.find? dp = some depot → dp < 100) :
  ∀ dp depot, opened.depots.find? dp = some depot → dp < 100 := by
  rw [getDepot] at done
  split at done
  · cases done
    exact small
  · split at done
    · cases done
    · split at done
      · split at done
        · cases done
        · rcases map_eq_some_iff.mp done with ⟨filled, _, same⟩
          cases same
          intro dp depot there
          rw [Mail.addDepot] at there
          split at there
          · exact small dp depot there
          · rw [OrderedMap.find?_insert] at there
            split at there
            · rename_i here
              rw [here]
              exact number
            · exact small dp depot there
      · cases done
        exact small

end

/-- The depots of a player, all different and each a container of its own. -/
structure DepotMap.Sound (world : World) (depots : DepotMap) : Prop where
  isDepot : ∀ dp depot, depots.find? dp = some depot → IsDepot world depot
  injective :
    ∀ dp other depot, depots.find? dp = some depot → depots.find? other = some depot → dp = other

section

variable {items : ItemTable} {world : World} {attributes : Nat → ItemAttributes}
  {depots : DepotMap} {rows : List Row}

lemma Tidy.isForest (tidy : Tidy items world) :
  Numbering.IsForest fun container => (world.item container).itemlist where
  nodup container := tidy.nodup (.item container)
  unique left right item here there := by
    have listedHere : item ∈ world.listing (.item left) := here
    have listedThere : item ∈ world.listing (.item right) := there
    have same := tidy.unique listedThere listedHere
    cases same
    rfl

lemma DepotMap.Sound.nodup (sound : depots.Sound world) : (depots.entries.map (·.2)).Nodup := by
  have entries : depots.entries.Nodup :=
    depots.sorted.imp fun less same => absurd (congrArg Prod.fst same) (Nat.ne_of_lt less)
  refine List.Nodup.map_on ?_ entries
  rintro ⟨dp, depot⟩ mem ⟨other, _⟩ otherMember rfl
  have found := (OrderedMap.mem_entries_iff depots dp depot).mp mem
  have there := (OrderedMap.mem_entries_iff depots other depot).mp otherMember
  rw [sound.injective dp other depot found there]

lemma DepotMap.Sound.top (sound : depots.Sound world) :
  ∀ root ∈ depots.entries, ∀ container, root.2 ∉ (world.item container).itemlist := by
  rintro ⟨dp, depot⟩ mem container
  have found := (OrderedMap.mem_entries_iff depots dp depot).mp mem
  exact (sound.isDepot dp depot found).unlisted (.item container)

lemma saveItems_ends (tidy : Tidy items world) (sound : depots.Sound world) :
  ∃ rows, saveItems items world attributes depots.entries = some rows := by
  have closed : ∀ node ∈ List.range world.next,
      (world.item node).itemlist ⊆ List.range world.next := by
    intro node _ item mem
    have listed : item ∈ world.listing (.item node) := mem
    exact mem_range.mpr (tidy.given listed)
  have within : ∀ root ∈ depots.entries, root.2 ∈ List.range world.next := by
    rintro ⟨dp, depot⟩ mem
    have found := (OrderedMap.mem_entries_iff depots dp depot).mp mem
    exact mem_range.mpr (sound.isDepot dp depot found).given
  have ends :
      ∃ later,
        Numbering.number (fun container => (world.item container).itemlist)
            world.isContainer world.next
            ((Numbering.enumerate 100 depots.entries).filter (world.isContainer ·.node))
            (100 + (Numbering.enumerate 100 depots.entries).length) =
          some later :=
    Numbering.forest_ends tidy.isForest closed within sound.nodup sound.top (by rw [length_range])
  rcases ends with ⟨later, done⟩
  refine ⟨(Numbering.enumerate 100 depots.entries ++ later).map (rowOf items world attributes), ?_⟩
  simp only [saveItems, Numbering.forest, done, map_some]

lemma saveItems_written (tidy : Tidy items world) (sound : depots.Sound world)
  (small : ∀ dp depot, depots.find? dp = some depot → dp < 100)
  (saved : saveItems items world attributes depots.entries = some rows) :
  ∃ entries,
    rows = entries.map (rowOf items world attributes) ∧
      Numbering.Written (fun container => (world.item container).itemlist)
        depots.entries 100 entries := by
  rcases map_eq_some_iff.mp saved with ⟨entries, done, rfl⟩
  refine ⟨entries, rfl, ?_⟩
  refine Numbering.forest_written tidy.isForest ?_ sound.nodup sound.top ?_ done
  · exact fun node plain => tidy.containers node plain
  · rintro ⟨dp, depot⟩ mem
    have found := (OrderedMap.mem_entries_iff depots dp depot).mp mem
    exact (small dp depot found).le

end

end OTServ.Mail
