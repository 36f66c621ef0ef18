import OTServ.Tiles.Stack

/-!
# The flags of a tile

Flags are kept step by step: an item that comes sets the flags of what it has, and an item
that goes resets them.  The first part of this module is about flags alone, with what the
changing item has and what the rest of the tile has.
-/

namespace OTServ.Tiles

open Items
open List

/-! ## Flags of an item and of a tile -/

def TileItem.carries (items : TileItemTable) (item : TileItem) : TileFlag → Bool
  | .FLOORCHANGE => Tile.directions.any (item.floorChange items)
  | .floor direction => item.floorChange items direction
  | .POSITIONCHANGE => item.getTeleport
  | .MAGICFIELD => item.getMagicField
  | .property property => item.hasProperty items property

def present (items : TileItemTable) (members : List TileItem) (flag : TileFlag) : Bool :=
  members.any fun item => item.carries items flag

def addFlags (own flags : TileFlag → Bool) : TileFlag → Bool
  | .floor direction =>
    flags (.floor direction) || !flags .FLOORCHANGE && own (.floor direction)
  | .property .IMMOVABLEBLOCKPATH => flags (.property .IMMOVABLEBLOCKPATH)
  | flag => flags flag || own flag

/-- Flags after an item has gone; only properties are looked up on the tile. -/
def removeFlags (own scanned flags : TileFlag → Bool) : TileFlag → Bool
  | .property property =>
    flags (.property property) && !(own (.property property) && !scanned (.property property))
  | flag => flags flag && !own flag

/-- The flags that go with an item without a look at the others. -/
def resetFlags : List TileFlag :=
  [.FLOORCHANGE, .floor .down, .floor .north, .floor .south, .floor .east, .floor .west,
    .POSITIONCHANGE, .MAGICFIELD]

/-- No other item has what goes with the old one and does not come with the new one. -/
def ResetsFit (old new rest : TileFlag → Bool) : Prop :=
  ∀ flag ∈ resetFlags, old flag → ¬ new flag → ¬ rest flag

/-- The new item has no direction besides those of the tile that stay. -/
def SetsFit (old new rest : TileFlag → Bool) : Prop :=
  ¬ old .FLOORCHANGE → rest .FLOORCHANGE → ∀ direction ∈ Tile.directions,
    new (.floor direction) → rest (.floor direction)

def Movable (new : TileFlag → Bool) : Prop :=
  ¬ new (.property .IMMOVABLEBLOCKPATH)

def Coherent (own : TileFlag → Bool) : Prop :=
  ∀ direction, own (.floor direction) → own .FLOORCHANGE

def joined (rest own : TileFlag → Bool) (flag : TileFlag) : Bool :=
  rest flag || own flag

section

variable {old new rest : TileFlag → Bool}

lemma mem_directions (direction : FloorDirection) : direction ∈ Tile.directions := by
  cases direction <;> decide

lemma floor_mem_resetFlags (direction : FloorDirection) :
  TileFlag.floor direction ∈ resetFlags := by
  cases direction <;> decide

lemma addFlags_property
  (movable : Movable new) (flags : TileFlag → Bool) (property : ItemProperty) :
  addFlags new flags (.property property) =
    (flags (.property property) || new (.property property)) := by
  have never : new (.property .IMMOVABLEBLOCKPATH) = false := Bool.eq_false_iff.mpr movable
  cases property <;> simp [addFlags, never]

lemma removeFlags_property (flags : TileFlag → Bool) (property : ItemProperty)
  (held : flags (.property property) = joined rest old (.property property)) :
  removeFlags old rest flags (.property property) = rest (.property property) := by
  simp only [removeFlags, held, joined]
  cases old (.property property) <;> cases rest (.property property) <;> rfl

lemma addFlags_rest (sets : SetsFit (fun _ => false) new rest) (movable : Movable new) :
  addFlags new rest = joined rest new := by
  funext flag
  cases flag with
  | FLOORCHANGE => rfl
  | POSITIONCHANGE => rfl
  | MAGICFIELD => rfl
  | floor direction =>
    have fits := sets Bool.false_ne_true
    simp only [addFlags, joined]
    cases any : rest .FLOORCHANGE with
    | false => rfl
    | true =>
      have known := fits any direction (mem_directions direction)
      revert known
      cases new (.floor direction) <;> cases rest (.floor direction) <;> simp
  | property property => exact addFlags_property movable rest property

def setFlags : List TileFlag :=
  [.FLOORCHANGE, .POSITIONCHANGE, .MAGICFIELD, .property .BLOCKSOLID,
    .property .IMMOVABLEBLOCKSOLID, .property .BLOCKPATH, .property .NOFIELDBLOCKPATH,
    .property .IMMOVABLENOFIELDBLOCKPATH]

lemma addFlags_known
  (coherent : Coherent new) (known : ∀ flag ∈ setFlags, new flag → rest flag) :
  addFlags new rest = rest := by
  funext flag
  have nothing (mem : flag ∈ setFlags) : (rest flag || new flag) = rest flag := by
    have fits := known flag mem
    revert fits
    cases new flag <;> cases rest flag <;> simp
  cases flag with
  | FLOORCHANGE | POSITIONCHANGE | MAGICFIELD => exact nothing (by decide)
  | floor direction =>
    simp only [addFlags]
    cases any : rest .FLOORCHANGE with
    | true => simp
    | false =>
      have still : new (.floor direction) = false :=
        Bool.eq_false_iff.mpr fun has => by
          simpa [any] using known .FLOORCHANGE (by decide) (coherent direction has)
      simp [still]
  | property property =>
    cases property <;>
      first
      | exact nothing (by decide)
      | rfl

lemma removeFlags_rest (resets : ResetsFit old (fun _ => false) rest) :
  removeFlags old rest (joined rest old) = rest := by
  funext flag
  have outright (mem : flag ∈ resetFlags) : (joined rest old flag && !old flag) = rest flag := by
    have fits := resets flag mem
    revert fits
    simp only [joined]
    cases old flag <;> cases rest flag <;> simp
  cases flag with
  | FLOORCHANGE | POSITIONCHANGE | MAGICFIELD => exact outright (by decide)
  | floor direction => exact outright (floor_mem_resetFlags direction)
  | property property => exact removeFlags_property _ property rfl

lemma replaceFlags_rest (coherent : Coherent old) (resets : ResetsFit old new rest)
  (sets : SetsFit old new rest) (movable : Movable new) :
  addFlags new (removeFlags old (joined rest new) (joined rest old)) = joined rest new := by
  funext flag
  have outright (mem : flag ∈ resetFlags) :
      (joined rest old flag && !old flag || new flag) = joined rest new flag := by
    have fits := resets flag mem
    revert fits
    simp only [joined]
    cases old flag <;> cases new flag <;> cases rest flag <;> simp
  cases flag with
  | FLOORCHANGE | POSITIONCHANGE | MAGICFIELD => exact outright (by decide)
  | floor direction =>
    have change := outright (floor_mem_resetFlags direction)
    simp only [addFlags, removeFlags]
    cases goes : old .FLOORCHANGE with
    | true => simpa [joined] using change
    | false =>
      have still : old (.floor direction) = false :=
        Bool.eq_false_iff.mpr fun has => by simpa [goes] using coherent direction has
      cases any : rest .FLOORCHANGE with
      | false => simp [joined, goes, any, still]
      | true =>
        have known := sets (by simp [goes]) any direction (mem_directions direction)
        revert known
        simp only [joined, goes, any, still]
        cases new (.floor direction) <;> cases rest (.floor direction) <;> simp
  | property property =>
    rw [addFlags_property movable]
    simp only [removeFlags, joined]
    cases old (.property property) <;> cases new (.property property) <;>
      cases rest (.property property) <;> rfl

lemma updateFlags_rest
  (coherent : Coherent new) (resets : ResetsFit old new rest) (movable : Movable new) :
  addFlags new (removeFlags new rest (removeFlags old rest (joined rest old))) =
    joined rest new := by
  funext flag
  have outright (mem : flag ∈ resetFlags) :
      (joined rest old flag && !old flag && !new flag || new flag) = joined rest new flag := by
    have fits := resets flag mem
    revert fits
    simp only [joined]
    cases old flag <;> cases new flag <;> cases rest flag <;> simp
  cases flag with
  | FLOORCHANGE | POSITIONCHANGE | MAGICFIELD => exact outright (by decide)
  | floor direction =>
    have change := outright (floor_mem_resetFlags direction)
    simp only [addFlags, removeFlags]
    cases comes : new .FLOORCHANGE with
    | true => simpa [joined] using change
    | false =>
      have still : new (.floor direction) = false :=
        Bool.eq_false_iff.mpr fun has => by simpa [comes] using coherent direction has
      simpa [still] using change
  | property property =>
    rw [addFlags_property movable, removeFlags]
    have first := removeFlags_property (joined rest old) property rfl
    rw [first]
    simp only [joined]
    cases new (.property property) <;> cases rest (.property property) <;> rfl

lemma sameFlags_rest (coherent : Coherent old) (movable : Movable old) :
  addFlags old (removeFlags old rest (joined rest old)) = joined rest old := by
  funext flag
  have outright : (joined rest old flag && !old flag || old flag) = joined rest old flag := by
    simp only [joined]
    cases old flag <;> cases rest flag <;> rfl
  cases flag with
  | FLOORCHANGE => exact outright
  | POSITIONCHANGE => exact outright
  | MAGICFIELD => exact outright
  | floor direction =>
    simp only [addFlags, removeFlags]
    cases goes : old .FLOORCHANGE with
    | true => simpa using outright
    | false =>
      have still : old (.floor direction) = false :=
        Bool.eq_false_iff.mpr fun has => by simpa [goes] using coherent direction has
      simp [still]
  | property property =>
    rw [addFlags_property movable, removeFlags_property _ property rfl, joined]

end

namespace Tile

variable (items : TileItemTable) (tile : Tile)

@[simp] lemma m_flags_setFlag (flag other : TileFlag) :
  (tile.setFlag flag).m_flags other = (tile.m_flags other || decide (other = flag)) := by
  by_cases same : other = flag
  · simp [setFlag, same]
  · simp [setFlag, same]

@[simp] lemma m_flags_resetFlag (flag other : TileFlag) :
  (tile.resetFlag flag).m_flags other = (tile.m_flags other && !decide (other = flag)) := by
  by_cases same : other = flag
  · simp [Tile.resetFlag, same]
  · simp [Tile.resetFlag, same]

lemma m_flags_when (condition : Bool) (change : Tile → Tile) (flag : TileFlag) :
  (tile.when condition change).m_flags flag =
    if condition then (change tile).m_flags flag else tile.m_flags flag := by
  cases condition <;> rfl

/-- A loop that gives a flag the value `on` wherever a member that is on the tile marks it. -/
lemma m_flags_loop {Member : Type} {on : Bool} {change : Tile → Member → Tile}
  {condition : Tile → Member → Bool} {marks : Member → TileFlag → Bool}
  (changes : ∀ tile member flag,
    (change tile member).m_flags flag = if marks member flag then on else tile.m_flags flag)
  (stable : ∀ tile first member, condition (change tile first) member = condition tile member)
  (members : List Member) (flag : TileFlag) :
  (members.foldl (fun tile member => tile.when (condition tile member) (change · member))
      tile).m_flags flag =
    if members.any fun member => condition tile member && marks member flag then on
    else tile.m_flags flag := by
  induction members generalizing tile with
  | nil => rfl
  | cons first members ih =>
    rw [foldl_cons, ih]
    cases has : condition tile first with
    | false => simp [has, Tile.when]
    | true => cases marked : marks first flag <;> simp [has, marked, Tile.when, changes, stable]

lemma m_flags_addTileFlags (item : TileItem) :
  (tile.addTileFlags items item).m_flags = addFlags (item.carries items) tile.m_flags := by
  funext flag
  have floors :=
    @m_flags_loop tile FloorDirection true
      (fun tile direction => (tile.setFlag .FLOORCHANGE).setFlag (.floor direction))
      (fun _ => item.floorChange items)
      (fun direction flag => flag = .FLOORCHANGE || flag = .floor direction)
      (fun _ _ _ => by simp [Bool.or_comm, Bool.or_assoc, Bool.or_left_comm]) (fun _ _ _ => rfl) directions
  have properties (tile : Tile) :=
    @m_flags_loop tile ItemProperty true (fun tile property => tile.setFlag (.property property))
      (fun _ => item.hasProperty items) (fun property flag => flag = .property property)
      (fun _ _ _ => by simp [Bool.or_comm]) fun _ _ _ => rfl
  have found (flag : TileFlag) :
      (if tile.hasFlag .FLOORCHANGE then tile
        else
          directions.foldl
            (fun tile direction =>
              tile.when (item.floorChange items direction) fun tile =>
                (tile.setFlag .FLOORCHANGE).setFlag (.floor direction))
            tile).m_flags flag =
        match flag with
        | .FLOORCHANGE => tile.m_flags .FLOORCHANGE || item.carries items .FLOORCHANGE
        | .floor direction =>
          tile.m_flags (.floor direction) ||
            !tile.m_flags .FLOORCHANGE && item.carries items (.floor direction)
        | flag => tile.m_flags flag := by
    rw [hasFlag]
    cases set : tile.m_flags .FLOORCHANGE with
    | true => cases flag <;> simp [set]
    | false =>
      rw [if_neg Bool.false_ne_true, floors]
      cases flag with
      | floor direction =>
        cases direction <;> simp [TileItem.carries, directions, Bool.or_comm]
      | _ => simp [set, TileItem.carries, directions]
  rw [addTileFlags, properties]
  cases flag with
  | FLOORCHANGE | floor direction =>
    cases teleport : item.getTeleport <;> cases field : item.getMagicField <;>
      simp [m_flags_when, found, addFlags]
  | POSITIONCHANGE =>
    cases teleport : item.getTeleport <;> cases field : item.getMagicField <;>
      simp [m_flags_when, found, addFlags, TileItem.carries, teleport]
  | MAGICFIELD =>
    cases teleport : item.getTeleport <;> cases field : item.getMagicField <;>
      simp [m_flags_when, found, addFlags, TileItem.carries, field]
  | property property =>
    cases property <;>
      cases teleport : item.getTeleport <;> cases field : item.getMagicField <;>
        simp [m_flags_when, found, addFlags, TileItem.carries, Bool.or_comm]

lemma SameStack.hasProperty {items : TileItemTable} {tile other : Tile}
  (stack : SameStack tile other) (exclude : Nat) (property : ItemProperty) :
  other.hasProperty items exclude property = tile.hasProperty items exclude property := by
  rw [stack]
  rfl

lemma m_flags_removeTileFlags (item : TileItem) (scanned : TileFlag → Bool)
  (scan :
    ∀ property, tile.hasProperty items item.number property = scanned (.property property)) :
  (tile.removeTileFlags items item).m_flags =
    removeFlags (item.carries items) scanned tile.m_flags := by
  funext flag
  have floors :=
    @m_flags_loop tile FloorDirection false
      (fun tile direction => (tile.resetFlag .FLOORCHANGE).resetFlag (.floor direction))
      (fun _ => item.floorChange items)
      (fun direction flag => flag = .FLOORCHANGE || flag = .floor direction)
      (fun _ _ _ => by simp [Bool.and_comm, Bool.and_assoc, Bool.and_left_comm])
      (fun _ _ _ => rfl) directions
  have properties (tile : Tile) :=
    @m_flags_loop tile ItemProperty false (fun tile property => tile.resetFlag (.property property))
      (fun tile property =>
        item.hasProperty items property && !tile.hasProperty items item.number property)
      (fun property flag => flag = .property property) (fun _ _ _ => by simp [Bool.and_comm])
      fun _ _ _ => rfl
  rw [removeTileFlags, properties]
  have lookup (property : ItemProperty) :
      (((directions.foldl
          (fun tile direction =>
            tile.when (item.floorChange items direction) fun tile =>
              (tile.resetFlag .FLOORCHANGE).resetFlag (.floor direction))
          tile).when item.getTeleport fun tile => tile.resetFlag .POSITIONCHANGE).when
            item.getMagicField fun tile => tile.resetFlag .MAGICFIELD).hasProperty items
              item.number property =
        scanned (.property property) := by
    rw [← scan]
    refine SameStack.hasProperty ?_ item.number property
    exact
      ((SameStack.foldl _ (.refl tile) fun other direction =>
        (SameStack.refl other).when fun other =>
          (SameStack.resetFlag other _).trans (SameStack.resetFlag _ _)).when
            fun other => .resetFlag other _).when fun other => .resetFlag other _
  cases flag with
  | FLOORCHANGE | floor direction =>
    cases teleport : item.getTeleport <;> cases field : item.getMagicField <;>
      simp [m_flags_when, floors, removeFlags, TileItem.carries, mem_directions, Bool.and_comm,
        -any_eq]
  | POSITIONCHANGE =>
    cases teleport : item.getTeleport <;> cases field : item.getMagicField <;>
      simp [m_flags_when, floors, removeFlags, TileItem.carries, teleport]
  | MAGICFIELD =>
    cases teleport : item.getTeleport <;> cases field : item.getMagicField <;>
      simp [m_flags_when, floors, removeFlags, TileItem.carries, field]
  | property property =>
    rw [funext lookup]
    cases property <;>
      cases teleport : item.getTeleport <;> cases field : item.getMagicField <;>
        simp [m_flags_when, floors, removeFlags, TileItem.carries, Bool.and_comm]

end Tile

end OTServ.Tiles
