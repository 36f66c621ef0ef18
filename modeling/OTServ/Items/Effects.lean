import OTServ.Items.Moving

/-!
# What changes do to the stock

Each change of a cylinder takes an item out of it, puts one into it, or gives an
item other matter.  The world is well formed when each item is listed by its
parent only, tiles are sorted, and stacks have between 1 and 100 units; the
changes keep it so.
-/

namespace OTServ.Items

open Library.Placements
open Map

namespace Stock

variable (stock : Stock)

@[simp]
lemma setParent_matter (item other : Nat) (parent : Option Cylinder) :
  ((stock.setParent item parent).item other).toMatter = (stock.item other).toMatter := by
  by_cases same : other = item
  · subst same
    simp [setParent]
  · simp [setParent, same]

@[simp]
lemma setParent_itemlist (item other : Nat) (parent : Option Cylinder) :
  ((stock.setParent item parent).item other).itemlist = (stock.item other).itemlist := by
  by_cases same : other = item
  · subst same
    simp [setParent]
  · simp [setParent, same]

lemma setParent_parent (item : Nat) (parent : Option Cylinder) :
  (stock.setParent item parent).placement.parent =
    Function.update stock.placement.parent item parent := by
  ext other : 1
  by_cases same : other = item
  · subst same
    simp [setParent, placement]
  · simp [setParent, placement, same]

@[simp]
lemma setParent_tile (item : Nat) (parent : Option Cylinder) :
  (stock.setParent item parent).tile = stock.tile :=
  rfl

@[simp]
lemma setParent_inventory (item : Nat) (parent : Option Cylinder) :
  (stock.setParent item parent).inventory = stock.inventory :=
  rfl

@[simp]
lemma setParent_listing (item : Nat) (parent : Option Cylinder) (cylinder : Cylinder) :
  (stock.setParent item parent).listing cylinder = stock.listing cylinder := by
  cases cylinder with
  | tile | player => rfl
  | item => simp [listing]

variable (container : Nat) (itemlist : List Nat) (player slot : Nat)

@[simp]
lemma setItemlist_matter (other : Nat) (itemlist : List Nat) :
  ((stock.setItemlist container itemlist).item other).toMatter =
    (stock.item other).toMatter := by
  by_cases same : other = container
  · subst same
    simp [setItemlist]
  · simp [setItemlist, same]

@[simp]
lemma setItemlist_parent :
  (stock.setItemlist container itemlist).placement.parent =
    stock.placement.parent := by
  ext other : 1
  by_cases same : other = container
  · subst same
    simp [setItemlist, placement]
  · simp [setItemlist, placement, same]

lemma setItemlist_listing_self :
  (stock.setItemlist container itemlist).listing (.item container) = itemlist := by
  simp [listing, setItemlist]

lemma setItemlist_listing_of_ne {cylinder : Cylinder} (other : cylinder ≠ .item container) :
  (stock.setItemlist container itemlist).listing cylinder = stock.listing cylinder := by
  cases cylinder with
  | tile => rfl
  | player => rfl
  | item pointer =>
    have away : pointer ≠ container := fun same => other (same ▸ rfl)
    simp [listing, setItemlist, away]

@[simp]
lemma setMatter_itemlist (item other : Nat) (matter : Matter) :
  ((stock.setMatter item matter).item other).itemlist = (stock.item other).itemlist := by
  by_cases same : other = item
  · subst same
    simp [setMatter]
  · simp [setMatter, same]

@[simp]
lemma setMatter_parent (item other : Nat) (matter : Matter) :
  ((stock.setMatter item matter).item other).parent = (stock.item other).parent := by
  by_cases same : other = item
  · subst same
    simp [setMatter]
  · simp [setMatter, same]

@[simp]
lemma setMatter_placement (item : Nat) (matter : Matter) :
  (stock.setMatter item matter).placement = stock.placement := by
  have listings : (stock.setMatter item matter).listing = stock.listing := by
    ext cylinder : 1
    cases cylinder with
    | tile | player => rfl
    | item => simp [listing]
  rw [placement, placement, listings]
  simp

@[simp]
lemma setTile_item (pos : Position) (tile : Tile) : (stock.setTile pos tile).item = stock.item :=
  rfl

lemma setTile_listing_self (pos : Position) (tile : Tile) :
  (stock.setTile pos tile).listing (.tile pos) = tile.things := by
  simp [listing, setTile, Tile.things]

lemma setTile_listing_of_ne
  (position : Position) (tile : Tile) {cylinder : Cylinder} (other : cylinder ≠ .tile position) :
  (stock.setTile position tile).listing cylinder = stock.listing cylinder := by
  cases cylinder with
  | tile here =>
    have away : here ≠ position := fun same => other (same ▸ rfl)
    simp [listing, setTile, away]
  | player => rfl
  | item => rfl

@[simp]
lemma setInventory_item (item : Option Nat) :
  (stock.setInventory player slot item).item = stock.item :=
  rfl

lemma setInventory_listing_self (item : Option Nat) :
  (stock.setInventory player slot item).listing (.player player) =
    slots.filterMap (Function.update (stock.inventory player) slot item) := by
  simp [listing, setInventory]

lemma setInventory_listing_of_ne (item : Option Nat) {cylinder : Cylinder}
  (other : cylinder ≠ .player player) :
  (stock.setInventory player slot item).listing cylinder = stock.listing cylinder := by
  cases cylinder with
  | tile => rfl
  | player id =>
    have away : id ≠ player := fun same => other (same ▸ rfl)
    simp [listing, setInventory, away]
  | item => rfl

end Stock

/-! ## Taking and putting -/

/-- All that is on the one tile is in the same part of the other. -/
structure Tile.Within (smaller larger : Tile) : Prop where
  ground : ∀ item, smaller.ground = some item → larger.ground = some item
  topItems : smaller.topItems ⊆ larger.topItems
  downItems : smaller.downItems ⊆ larger.downItems

structure Takes (before after : Stock) (cylinder : Cylinder) (item : Nat) : Prop where
  placement : TakenOut before.placement after.placement cylinder item
  matter : ∀ other, (after.item other).toMatter = (before.item other).toMatter
  tiles : ∀ position, (after.tile position).isSome = (before.tile position).isSome
  within :
    ∀ position smaller larger,
      after.tile position = some smaller →
        before.tile position = some larger → smaller.Within larger

/-- The part of a tile, other than the ground, into which items of a type go. -/
structure Tile.Gains (items : ItemTable) (stock : Stock) (smaller larger : Tile) (item : Nat) :
  Prop where
  ground : ∀ other, larger.ground = some other → smaller.ground = some other
  topItems :
    ∀ other,
      other ∈ larger.topItems →
        other ∈ smaller.topItems ∨
          other = item ∧ (stock.itemType items item).alwaysOnTop ∧
            (stock.itemType items item).group ≠ .ground
  downItems :
    ∀ other,
      other ∈ larger.downItems →
        other ∈ smaller.downItems ∨
          other = item ∧ (stock.itemType items item).alwaysOnTop = false ∧
            (stock.itemType items item).group ≠ .ground

structure Puts (items : ItemTable) (before after : Stock) (cylinder : Cylinder) (item : Nat) :
  Prop where
  placement : PutIn before.placement after.placement cylinder item
  matter : ∀ other, (after.item other).toMatter = (before.item other).toMatter
  tiles : ∀ position, (after.tile position).isSome = (before.tile position).isSome
  gains :
    ∀ position smaller larger,
      before.tile position = some smaller →
        after.tile position = some larger → smaller.Gains items before larger item
  container : ∀ pointer, cylinder = .item pointer → before.isContainer pointer

/-- The parts of tiles hold what belongs there, and only containers hold. -/
structure Sorted (items : ItemTable) (stock : Stock) : Prop where
  ground :
    ∀ position tile item,
      stock.tile position = some tile →
        tile.ground = some item → (stock.itemType items item).group = .ground
  topItems :
    ∀ position tile item,
      stock.tile position = some tile →
        item ∈ tile.topItems →
          (stock.itemType items item).alwaysOnTop ∧ (stock.itemType items item).group ≠ .ground
  downItems :
    ∀ position tile item,
      stock.tile position = some tile →
        item ∈ tile.downItems →
          (stock.itemType items item).alwaysOnTop = false ∧
            (stock.itemType items item).group ≠ .ground
  containers : ∀ pointer, stock.isContainer pointer = false → (stock.item pointer).itemlist = []

structure Orderly (items : ItemTable) (stock : Stock) : Prop where
  consistent : Consistent stock.placement
  ground :
    ∀ position tile item,
      stock.tile position = some tile →
        tile.ground = some item → (stock.itemType items item).group = .ground
  topItems :
    ∀ position tile item,
      stock.tile position = some tile →
        item ∈ tile.topItems →
          (stock.itemType items item).alwaysOnTop ∧ (stock.itemType items item).group ≠ .ground
  downItems :
    ∀ position tile item,
      stock.tile position = some tile →
        item ∈ tile.downItems →
          (stock.itemType items item).alwaysOnTop = false ∧
            (stock.itemType items item).group ≠ .ground
  containers : ∀ pointer, stock.isContainer pointer = false → (stock.item pointer).itemlist = []

section

variable {items : ItemTable} {before after : Stock} {cylinder : Cylinder} {item : Nat}

lemma itemType_congr
  {other : Nat} (matter : (after.item other).toMatter = (before.item other).toMatter) :
  after.itemType items other = before.itemType items other := by
  rw [Stock.itemType, Stock.itemType, matter]

lemma isContainer_congr
  {other : Nat} (matter : (after.item other).toMatter = (before.item other).toMatter) :
  after.isContainer other = before.isContainer other := by
  rw [Stock.isContainer, Stock.isContainer, matter]

lemma tile_of_isSome {pos : Position} {tile : Tile}
  (tiles : (after.tile pos).isSome = (before.tile pos).isSome)
  (here : after.tile pos = some tile) : ∃ other, before.tile pos = some other := by
  rw [here] at tiles
  exact Option.isSome_iff_exists.mp tiles.symm

lemma Takes.listing (takes : Takes before after cylinder item) :
  (before.listing cylinder).Perm (item :: after.listing cylinder) :=
  takes.placement.listing

lemma Takes.listing_other (takes : Takes before after cylinder item) {other : Cylinder}
  (away : other ≠ cylinder) : after.listing other = before.listing other :=
  takes.placement.others other away

lemma Puts.listing (puts : Puts items before after cylinder item) :
  (after.listing cylinder).Perm (item :: before.listing cylinder) :=
  puts.placement.listing

lemma Puts.listing_other (puts : Puts items before after cylinder item) {other : Cylinder}
  (away : other ≠ cylinder) : after.listing other = before.listing other :=
  puts.placement.others other away

lemma Orderly.sorted (orderly : Orderly items before) : Sorted items before :=
  ⟨orderly.ground, orderly.topItems, orderly.downItems, orderly.containers⟩

lemma Sorted.orderly (sorted : Sorted items before) (consistent : Consistent before.placement) :
  Orderly items before :=
  ⟨consistent, sorted.ground, sorted.topItems, sorted.downItems, sorted.containers⟩

lemma Takes.sorted (takes : Takes before after cylinder item) (sorted : Sorted items before) :
  Sorted items after where
  ground pos tile other here lies := by
    rcases tile_of_isSome (takes.tiles pos) here with ⟨larger, there⟩
    rw [itemType_congr (takes.matter other)]
    exact sorted.ground pos larger other there
      ((takes.within pos tile larger here there).ground other lies)
  topItems pos tile other here lies := by
    rcases tile_of_isSome (takes.tiles pos) here with ⟨larger, there⟩
    rw [itemType_congr (takes.matter other)]
    exact sorted.topItems pos larger other there
      ((takes.within pos tile larger here there).topItems lies)
  downItems pos tile other here lies := by
    rcases tile_of_isSome (takes.tiles pos) here with ⟨larger, there⟩
    rw [itemType_congr (takes.matter other)]
    exact sorted.downItems pos larger other there
      ((takes.within pos tile larger here there).downItems lies)
  containers pointer plain := by
    rw [isContainer_congr (takes.matter pointer)] at plain
    have empty := sorted.containers pointer plain
    by_cases here : (.item pointer : Cylinder) = cylinder
    · have member := takes.placement.member
      rw [← here] at member
      have listed : item ∈ (before.item pointer).itemlist := member
      rw [empty] at listed
      cases listed
    · have same := takes.placement.others (.item pointer) here
      exact same.trans empty

lemma Takes.orderly (takes : Takes before after cylinder item) (orderly : Orderly items before) :
  Orderly items after :=
  (takes.sorted orderly.sorted).orderly (takes.placement.consistent orderly.consistent)

lemma Puts.sorted (puts : Puts items before after cylinder item) (sorted : Sorted items before) :
  Sorted items after where
  ground pos tile other here lies := by
    rcases tile_of_isSome (puts.tiles pos) here with ⟨smaller, there⟩
    rw [itemType_congr (puts.matter other)]
    exact sorted.ground pos smaller other there
      ((puts.gains pos smaller tile there here).ground other lies)
  topItems pos tile other here lies := by
    rcases tile_of_isSome (puts.tiles pos) here with ⟨smaller, there⟩
    rw [itemType_congr (puts.matter other)]
    rcases (puts.gains pos smaller tile there here).topItems other lies
      with old | ⟨rfl, belongs⟩
    · exact sorted.topItems pos smaller other there old
    · exact belongs
  downItems pos tile other here lies := by
    rcases tile_of_isSome (puts.tiles pos) here with ⟨smaller, there⟩
    rw [itemType_congr (puts.matter other)]
    rcases (puts.gains pos smaller tile there here).downItems other lies
      with old | ⟨rfl, belongs⟩
    · exact sorted.downItems pos smaller other there old
    · exact belongs
  containers pointer plain := by
    rw [isContainer_congr (puts.matter pointer)] at plain
    by_cases here : (.item pointer : Cylinder) = cylinder
    · rw [puts.container pointer here.symm] at plain
      cases plain
    · have same := puts.placement.others (.item pointer) here
      exact same.trans (sorted.containers pointer plain)

lemma Puts.orderly
  (puts : Puts items before after cylinder item) (orderly : Orderly items before)
  (free : (before.item item).parent = none) : Orderly items after :=
  (puts.sorted orderly.sorted).orderly (puts.placement.consistent orderly.consistent free)

lemma Orderly.setMatter
  (orderly : Orderly items before) {matter : Matter} (id : matter.id = (before.item item).id)
  (itemClass : matter.itemClass = (before.item item).itemClass) :
  Orderly items (before.setMatter item matter) := by
  have types : ∀ other,
      (before.setMatter item matter).itemType items other = before.itemType items other := by
    intro other
    by_cases same : other = item
    · subst same
      simp [Stock.itemType, Stock.setMatter, id]
    · simp [Stock.itemType, Stock.setMatter, same]
  have classes : ∀ other,
      (before.setMatter item matter).isContainer other = before.isContainer other := by
    intro other
    by_cases same : other = item
    · subst same
      simp [Stock.isContainer, Stock.setMatter, itemClass]
    · simp [Stock.isContainer, Stock.setMatter, same]
  constructor
  · rw [Stock.setMatter_placement]
    exact orderly.consistent
  · intro pos tile other here lies
    rw [types]
    exact orderly.ground pos tile other here lies
  · intro pos tile other here lies
    rw [types]
    exact orderly.topItems pos tile other here lies
  · intro pos tile other here lies
    rw [types]
    exact orderly.downItems pos tile other here lies
  · intro pointer plain
    rw [classes] at plain
    rw [Stock.setMatter_itemlist]
    exact orderly.containers pointer plain

end

end OTServ.Items
