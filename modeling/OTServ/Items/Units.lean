import OTServ.Items.Notices

/-!
# Units of item types

The units of a type in a cylinder are counted stack by stack.  Taking an item
out, putting one in and giving one another count change the units of its type in
its cylinder, and no others.
-/

namespace OTServ.Items

open Library.Placements
open Map
open Function

/--
Items are listed by their parents, stacks have between 1 and 100 units, and
pointers that have not been given out are not in use.
-/
structure WellFormed (items : ItemTable) (world : World) : Prop
  extends Orderly items world.toStock where
  counts :
    ∀ item,
      (world.item item).parent ≠ none → 1 ≤ (world.item item).count ∧ (world.item item).count ≤ 100
  fresh :
    ∀ item, world.next ≤ item → (world.item item).parent = none ∧ (world.item item).itemlist = []

lemma WellFormed.congr
  {items : ItemTable} {before after : World} (wellFormed : WellFormed items before)
  (same : SameStock before after) : WellFormed items after where
  toOrderly := by
    rw [same.stock]
    exact wellFormed.toOrderly
  counts := by
    rw [same.stock]
    exact wellFormed.counts
  fresh item later := by
    rw [same.stock]
    exact wellFormed.fresh item (same.next.trans later)

structure PlainStacks (items : ItemTable) : Prop where
  known : ∀ id, (items id).stackable → (items id).known
  itemClass : ∀ id, (items id).stackable → (items id).itemClass = .item
  group :
    ∀ id,
      (items id).stackable →
        (items id).group ≠ .ground ∧ (items id).group ≠ .fluid ∧ (items id).group ≠ .splash
  charges : ∀ id, (items id).stackable → (items id).charges = 0
  alwaysOnTop : ∀ id, (items id).stackable → (items id).alwaysOnTop = false
  isHangable : ∀ id, (items id).stackable → (items id).isHangable = false

def amount (stock : Stock) (id item : Nat) : Nat :=
  if (stock.item item).id = id then (stock.item item).count else 0

def units (stock : Stock) (cylinder : Cylinder) (id : Nat) : Nat :=
  total stock.placement (amount stock id) cylinder

variable {matter : Matter}

section

variable {items : ItemTable} {before after : Stock} {cylinder : Cylinder} {item : Nat}

lemma amount_congr (matter : ∀ other, (after.item other).toMatter = (before.item other).toMatter)
  (id : Nat) : amount after id = amount before id := by
  ext other
  rw [amount, amount, matter other]

lemma Takes.units_self (takes : Takes before after cylinder item) (id : Nat) :
  units before cylinder id = amount before id item + units after cylinder id := by
  rw [units, units, amount_congr takes.matter]
  exact takes.placement.total_eq _

lemma Puts.units_self (puts : Puts items before after cylinder item) (id : Nat) :
  units after cylinder id = amount before id item + units before cylinder id := by
  rw [units, units, amount_congr puts.matter]
  exact puts.placement.total_eq _

lemma amount_setMatter (same : matter.id = (before.item item).id) (id : Nat) :
  amount (before.setMatter item matter) id =
    update (amount before id) item (if (before.item item).id = id then matter.count else 0) := by
  ext other
  by_cases here : other = item
  · subst here
    simp [amount, Stock.setMatter, same]
  · simp [amount, Stock.setMatter, here]

lemma setMatter_units_self (consistent : Consistent before.placement)
  (mem : item ∈ before.listing cylinder) (same : matter.id = (before.item item).id) (id : Nat) :
  units (before.setMatter item matter) cylinder id + amount before id item =
    units before cylinder id + (if (before.item item).id = id then matter.count else 0) := by
  rw [units, units, Stock.setMatter_placement, amount_setMatter same]
  exact total_update consistent mem _ _

end

section

variable {items : ItemTable} {before after : World} {cylinder : Cylinder} {item : Nat}

lemma Takes.parent
  {before after : Stock} (takes : Takes before after cylinder item) (other : Nat) :
  (after.item other).parent = if other = item then none else (before.item other).parent := by
  have parents := congrFun takes.placement.parent other
  by_cases same : other = item
  · subst same
    rw [update_self] at parents
    rw [if_pos rfl]
    exact parents
  · rw [update_of_ne same] at parents
    rw [if_neg same]
    exact parents

lemma Puts.parent
  {before after : Stock} (puts : Puts items before after cylinder item) (other : Nat) :
  (after.item other).parent =
    if other = item then some cylinder
    else (before.item other).parent := by
  have parents := congrFun puts.placement.parent other
  by_cases same : other = item
  · subst same
    rw [update_self] at parents
    rw [if_pos rfl]
    exact parents
  · rw [update_of_ne same] at parents
    rw [if_neg same]
    exact parents

lemma itemlist_of_listing {before after : Stock} {pointer : Nat}
  (same : after.listing (.item pointer) = before.listing (.item pointer)) :
  (after.item pointer).itemlist = (before.item pointer).itemlist :=
  same

lemma Takes.wellFormed (takes : Takes before.toStock after.toStock cylinder item)
  (next : after.next = before.next) (wellFormed : WellFormed items before) :
  WellFormed items after where
  toOrderly := takes.orderly wellFormed.toOrderly
  counts other placed := by
    rw [takes.matter other]
    apply wellFormed.counts
    rw [takes.parent] at placed
    split at placed
    · exact absurd rfl placed
    · exact placed
  fresh other later := by
    rw [next] at later
    have fresh := wellFormed.fresh other later
    refine ⟨?_, ?_⟩
    · rw [takes.parent, fresh.1]
      split <;> rfl
    · by_cases here : (.item other : Cylinder) = cylinder
      · have member := takes.placement.member
        rw [← here] at member
        have listed : item ∈ (before.item other).itemlist := member
        rw [fresh.2] at listed
        cases listed
      · exact (itemlist_of_listing (takes.placement.others _ here)).trans fresh.2

lemma Puts.wellFormed (puts : Puts items before.toStock after.toStock cylinder item)
  (next : after.next = before.next) (free : (before.item item).parent = none)
  (given : item < before.next)
  (place : ∀ pointer, cylinder = .item pointer → pointer < before.next)
  (count : 1 ≤ (before.item item).count ∧ (before.item item).count ≤ 100)
  (wellFormed : WellFormed items before) : WellFormed items after where
  toOrderly := puts.orderly wellFormed.toOrderly free
  counts other placed := by
    rw [puts.matter other]
    by_cases same : other = item
    · subst same
      exact count
    · apply wellFormed.counts
      rw [puts.parent, if_neg same] at placed
      exact placed
  fresh other later := by
    rw [next] at later
    have fresh := wellFormed.fresh other later
    have ne : other ≠ item := by
      rintro rfl
      omega
    refine ⟨?_, ?_⟩
    · rw [puts.parent, if_neg ne]
      exact fresh.1
    · have here : (.item other : Cylinder) ≠ cylinder := by
        intro same
        have early := place other same.symm
        omega
      exact (itemlist_of_listing (puts.placement.others _ here)).trans fresh.2

lemma WellFormed.setMatter (wellFormed : WellFormed items before)
  (stock : after.toStock = before.toStock.setMatter item matter)
  (next : after.next = before.next) (id : matter.id = (before.item item).id)
  (itemClass : matter.itemClass = (before.item item).itemClass)
  (count : 1 ≤ matter.count ∧ matter.count ≤ 100) : WellFormed items after where
  toOrderly := by
    rw [stock]
    exact wellFormed.toOrderly.setMatter id itemClass
  counts other placed := by
    rw [stock] at placed ⊢
    by_cases same : other = item
    · subst same
      simpa [Stock.setMatter] using count
    · rw [Stock.setMatter_parent] at placed
      simpa [Stock.setMatter, same] using wellFormed.counts other placed
  fresh other later := by
    rw [next] at later
    rw [stock, Stock.setMatter_parent, Stock.setMatter_itemlist]
    exact wellFormed.fresh other later

/-! ## New items -/

lemma WellFormed.given
  (wellFormed : WellFormed items before) (mem : item ∈ before.listing cylinder) :
  (before.item item).parent = some cylinder ∧ item < before.next := by
  have parent : (before.item item).parent = some cylinder :=
    (wellFormed.consistent.lies cylinder item).mp mem
  refine ⟨parent, ?_⟩
  by_contra later
  rw [(wellFormed.fresh item (not_lt.mp later)).1] at parent
  cases parent

lemma WellFormed.unlisted (wellFormed : WellFormed items before) (cylinder : Cylinder) :
  before.next ∉ before.listing cylinder := by
  intro mem
  exact absurd (wellFormed.given mem).2 (lt_irrefl _)

lemma Sorted.setMatter_off {before : Stock} (sorted : Sorted items before)
  (off : ∀ pos, item ∉ before.listing (.tile pos))
  (holds : matter.itemClass.isContainer = false → (before.item item).itemlist = []) :
  Sorted items (before.setMatter item matter) := by
  have types : ∀ {pos : Position} {other : Nat},
      other ∈ before.listing (.tile pos) →
        (before.setMatter item matter).itemType items other = before.itemType items other := by
    intro pos other mem
    have ne : other ≠ item := by
      rintro rfl
      exact off pos mem
    simp [Stock.itemType, Stock.setMatter, ne]
  have things : ∀ {pos : Position} {tile : Tile} {other : Nat},
      before.tile pos = some tile →
        other ∈ tile.things → other ∈ before.listing (.tile pos) := by
    intro pos tile other here mem
    simpa [Stock.listing, here, Tile.things] using mem
  refine ⟨?_, ?_, ?_, ?_⟩
  · intro pos tile other here ground
    have mem : other ∈ tile.things := by simp [Tile.things, ground]
    rw [types (things here mem)]
    exact sorted.ground pos tile other here ground
  · intro pos tile other here top
    have mem : other ∈ tile.things := by simp [Tile.things, top]
    rw [types (things here mem)]
    exact sorted.topItems pos tile other here top
  · intro pos tile other here down
    have mem : other ∈ tile.things := by simp [Tile.things, down]
    rw [types (things here mem)]
    exact sorted.downItems pos tile other here down
  · intro pointer plain
    rw [Stock.setMatter_itemlist]
    by_cases same : pointer = item
    · subst same
      apply holds
      simpa [Stock.isContainer, Stock.setMatter] using plain
    · apply sorted.containers pointer
      simpa [Stock.isContainer, Stock.setMatter, same] using plain

lemma Orderly.setMatter_unlisted {before : Stock} (orderly : Orderly items before)
  (unlisted : ∀ cylinder, item ∉ before.listing cylinder)
  (empty : (before.item item).itemlist = []) (matter : Matter) :
  Orderly items (before.setMatter item matter) := by
  have sorted : Sorted items (before.setMatter item matter) :=
    orderly.sorted.setMatter_off (fun pos => unlisted _) (fun _ => empty)
  refine sorted.orderly ?_
  rw [Stock.setMatter_placement]
  exact orderly.consistent

/-- A new item lies nowhere yet, and everything else is as before. -/
structure Creates (before after : World) (item : Nat) (matter : Matter) : Prop where
  stock : after.toStock = before.toStock.setMatter item matter
  pointer : item = before.next
  next : after.next = before.next + 1

lemma createItem_creates
  (fresh : (before.item before.next).parent = none ∧ (before.item before.next).itemlist = [])
  {id count : Nat} (known : (items id).known) :
  (before.createItem items id count).1 = some before.next ∧
    Creates before (before.createItem items id count).2 before.next
      (World.newMatter items id count) := by
  rw [World.createItem, if_pos known]
  refine ⟨rfl, ?_, rfl, rfl⟩
  simp only [Stock.setMatter]
  congr 1
  congr 1
  rw [fresh.1.symm, fresh.2.symm]

variable (creates : Creates before after item matter)
include creates

lemma Creates.wellFormed (wellFormed : WellFormed items before) : WellFormed items after where
  toOrderly := by
    have fresh := wellFormed.fresh before.next (le_refl _)
    rw [creates.stock, creates.pointer]
    exact wellFormed.toOrderly.setMatter_unlisted wellFormed.unlisted fresh.2 matter
  counts other placed := by
    rw [creates.stock, Stock.setMatter_parent] at placed
    have ne : other ≠ item := by
      rintro rfl
      rw [creates.pointer] at placed
      exact placed (wellFormed.fresh before.next (le_refl _)).1
    rw [creates.stock]
    simpa [Stock.setMatter, ne] using wellFormed.counts other placed
  fresh other later := by
    rw [creates.next] at later
    rw [creates.stock, Stock.setMatter_parent, Stock.setMatter_itemlist]
    exact wellFormed.fresh other (by omega)

lemma Creates.listing
  (cylinder : Cylinder) : after.listing cylinder = before.listing cylinder := by
  have same := Stock.setMatter_placement before.toStock item matter
  rw [← creates.stock] at same
  exact congrArg (fun placement => placement.listing cylinder) same

lemma Creates.parent (other : Nat) : (after.item other).parent = (before.item other).parent := by
  rw [creates.stock, Stock.setMatter_parent]

lemma Creates.matter_self : (after.item item).toMatter = matter := by
  rw [creates.stock]
  simp [Stock.setMatter]

lemma Creates.matter_other {other : Nat} (ne : other ≠ item) :
  (after.item other).toMatter = (before.item other).toMatter := by
  rw [creates.stock]
  simp [Stock.setMatter, ne]

lemma Creates.units (wellFormed : WellFormed items before) (cylinder : Cylinder) (id : Nat) :
  units after.toStock cylinder id = units before.toStock cylinder id := by
  have absent := wellFormed.unlisted cylinder
  rw [← creates.pointer] at absent
  rw [OTServ.Items.units, OTServ.Items.units]
  have listing :
      total after.placement (amount after.toStock id) cylinder =
        total before.placement (amount after.toStock id) cylinder :=
    total_of_listing (creates.listing cylinder)
  rw [listing]
  apply total_congr
  intro other mem
  have ne : other ≠ item := by
    rintro rfl
    exact absent mem
  rw [amount, amount, creates.matter_other ne]

end

end OTServ.Items
