import OTServ.Protocol.KnownCreatures
import Mathlib.Data.List.Range

/-!
# The places of a map description

`GetMapDescription` goes through the floors of a view and `GetFloorDescription`
through the columns of a floor.  Here are the places which they come by, in this
order.
-/

namespace OTServ.View

open OTServ.Map
open Protocol.KnownCreatures
open List

@[ext]
structure Place where
  x : Int
  y : Int
  z : Int
deriving DecidableEq

def Place.of (pos : Position) : Place where
  x := pos.x.toNat
  y := pos.y.toNat
  z := pos.z.toNat

/-- A number passed as `uint16_t`. -/
def uint16 (value : Int) : Int := value % 65536

lemma uint16_of_lt {value : Int} (nonnegative : 0 ≤ value) (small : value < 65536) :
  uint16 value = value :=
  Int.emod_eq_of_lt nonnegative small

/-- The places of `GetFloorDescription`, column by column. -/
def floorPlaces (x y z : Int) (width height : Nat) (offset : Int) : List Place :=
  (List.range width).flatMap fun nx : Nat =>
    (List.range height).map fun ny : Nat => ⟨x + nx + offset, y + ny + offset, z⟩

/-- The floors of `GetMapDescription`. -/
def descriptionFloors (z : Nat) : List Nat :=
  if 7 < z then
    List.range' (z - 2) (min 15 (z + 2) + 1 - (z - 2))
  else
    (List.range 8).reverse

/-- The places of `GetMapDescription`. -/
def mapPlaces (x y : Int) (z : Nat) (width height : Nat) : List Place :=
  (descriptionFloors z).flatMap fun nz : Nat =>
    floorPlaces (uint16 x) (uint16 y) nz width height (z - nz)

variable {place : Place} {myPos : Position}

lemma mem_floorPlaces {x y z offset : Int} {width height : Nat} :
  place ∈ floorPlaces x y z width height offset ↔
    place.z = z ∧
      (x + offset ≤ place.x ∧ place.x < x + offset + width) ∧
        y + offset ≤ place.y ∧ place.y < y + offset + height := by
  simp only [floorPlaces, mem_flatMap, mem_map, mem_range]
  constructor
  · rintro ⟨nx, inWidth, ny, inHeight, rfl⟩
    simp only
    exact ⟨trivial, ⟨by omega, by omega⟩, by omega, by omega⟩
  · rintro ⟨level, ⟨west, east⟩, north, south⟩
    refine ⟨(place.x - x - offset).toNat, by omega, (place.y - y - offset).toNat, by omega, ?_⟩
    ext
    · simp only
      omega
    · simp only
      omega
    · exact level.symm

lemma mem_descriptionFloors {z nz : Nat} (floor : z < 16) :
  nz ∈ descriptionFloors z ↔ (z ≤ 7 → nz ≤ 7) ∧ (8 ≤ z → z ≤ nz + 2 ∧ nz ≤ z + 2 ∧ nz < 16) := by
  rw [descriptionFloors]
  split
  · rw [mem_range'_1]
    omega
  · rw [mem_reverse, mem_range]
    omega

lemma mem_mapPlaces {x y : Int} {z width height : Nat} (floor : z < 16) :
  place ∈ mapPlaces x y z width height ↔
    (0 ≤ place.z ∧ (z ≤ 7 → place.z ≤ 7) ∧
        (8 ≤ z → z ≤ place.z + 2 ∧ place.z ≤ z + 2 ∧ place.z < 16)) ∧
      (uint16 x + (z - place.z) ≤ place.x ∧
          place.x < uint16 x + (z - place.z) + width) ∧
        uint16 y + (z - place.z) ≤ place.y ∧ place.y < uint16 y + (z - place.z) + height := by
  simp only [mapPlaces, mem_flatMap, mem_floorPlaces, mem_descriptionFloors floor]
  constructor
  · rintro ⟨nz, ⟨above, below⟩, level, columns, rows⟩
    rw [level]
    exact ⟨⟨by omega, by omega, by omega⟩, columns, rows⟩
  · rintro ⟨⟨low, above, below⟩, columns, rows⟩
    have level : ((place.z.toNat : Nat) : Int) = place.z := Int.toNat_of_nonneg low
    refine ⟨place.z.toNat, ⟨by omega, by omega⟩, level.symm, ?_, ?_⟩
    · rw [level]
      exact columns
    · rw [level]
      exact rows

/-- `ProtocolGame::canSee` from a position. -/
def canSeePlace (myPos : Position) (place : Place) : Bool :=
  canSeeAt myPos place.x place.y place.z

/-- The floors `ProtocolGame::canSee` admits. -/
def FloorSeen (myZ : Nat) (z : Int) : Prop :=
  (myZ ≤ 7 → z ≤ 7) ∧ (8 ≤ myZ → (myZ - z).natAbs ≤ 2)

lemma canSeePlace_iff (myPos : Position) (place : Place) :
  canSeePlace myPos place = true ↔
    FloorSeen myPos.z.toNat place.z ∧
      (myPos.x.toNat - 8 + (myPos.z.toNat - place.z) ≤ place.x ∧
          place.x ≤ myPos.x.toNat + 9 + (myPos.z.toNat - place.z)) ∧
        myPos.y.toNat - 6 + (myPos.z.toNat - place.z) ≤ place.y ∧
          place.y ≤ myPos.y.toNat + 7 + (myPos.z.toNat - place.z) := by
  rw [canSeePlace, canSeeAt]
  unfold FloorSeen
  simp only
  split
  · rename_i hidden
    constructor
    · intro impossible
      cases impossible
    · rintro ⟨⟨surface, _⟩, _⟩
      omega
  · split
    · rename_i hidden
      constructor
      · intro impossible
        cases impossible
      · rintro ⟨⟨_, underground⟩, _⟩
        omega
    · rw [decide_eq_true_iff]
      constructor
      · rintro ⟨west, east, north, south⟩
        exact ⟨⟨by omega, by omega⟩, ⟨west, east⟩, north, south⟩
      · rintro ⟨_, ⟨west, east⟩, north, south⟩
        exact ⟨west, east, north, south⟩

/-- The view from a position stays inside the coordinate range. -/
def ViewInside (myPos : Position) : Prop :=
  ∀ place : Place,
    0 ≤ place.z → place.z < 16 → canSeePlace myPos place = true →
      (0 ≤ place.x ∧ place.x < 65536) ∧ 0 ≤ place.y ∧ place.y < 65536

lemma ViewInside.corners {z : Int} (inside : ViewInside myPos) (low : 0 ≤ z) (high : z < 16)
  (seen : FloorSeen myPos.z.toNat z) :
  (0 ≤ myPos.x.toNat - 8 + (myPos.z.toNat - z) ∧
      myPos.x.toNat + 9 + (myPos.z.toNat - z) < 65536) ∧
    0 ≤ myPos.y.toNat - 6 + (myPos.z.toNat - z) ∧
      myPos.y.toNat + 7 + (myPos.z.toNat - z) < 65536 := by
  have northwest :=
    inside
      ⟨myPos.x.toNat - 8 + (myPos.z.toNat - z), myPos.y.toNat - 6 + (myPos.z.toNat - z), z⟩
      low high
      ((canSeePlace_iff _ _).mpr
        ⟨seen, ⟨by simp only; omega, by simp only; omega⟩,
          by simp only; omega, by simp only; omega⟩)
  have southeast :=
    inside
      ⟨myPos.x.toNat + 9 + (myPos.z.toNat - z), myPos.y.toNat + 7 + (myPos.z.toNat - z), z⟩
      low high
      ((canSeePlace_iff _ _).mpr
        ⟨seen, ⟨by simp only; omega, by simp only; omega⟩,
          by simp only; omega, by simp only; omega⟩)
  simp only at northwest southeast
  omega

lemma ViewInside.here (inside : ViewInside myPos) (floor : myPos.z.toNat < 16) :
  (8 ≤ myPos.x.toNat ∧ myPos.x.toNat + 9 < 65536) ∧
    6 ≤ myPos.y.toNat ∧ myPos.y.toNat + 7 < 65536 := by
  have seen : FloorSeen myPos.z.toNat myPos.z.toNat := ⟨by omega, by omega⟩
  have corners := inside.corners (by omega) (by omega) seen
  omega

lemma viewInside_of_inland (column : 17 ≤ myPos.x.toNat ∧ myPos.x.toNat < 65519)
  (row : 17 ≤ myPos.y.toNat ∧ myPos.y.toNat < 65519) : ViewInside myPos := by
  intro place low high seen
  rw [canSeePlace_iff] at seen
  rcases seen with ⟨floors, ⟨west, east⟩, north, south⟩
  unfold FloorSeen at floors
  omega

lemma mem_mapPlaces_full (floor : myPos.z.toNat < 16) (inside : ViewInside myPos) :
  place ∈
      mapPlaces (myPos.x.toNat - 8) (myPos.y.toNat - 6) myPos.z.toNat 18 14 ↔
    canSeePlace myPos place = true ∧ 0 ≤ place.z ∧ place.z < 16 := by
  have here := inside.here floor
  have columns : uint16 ((myPos.x.toNat : Int) - 8) = (myPos.x.toNat : Int) - 8 :=
    uint16_of_lt (by omega) (by omega)
  have rows : uint16 ((myPos.y.toNat : Int) - 6) = (myPos.y.toNat : Int) - 6 :=
    uint16_of_lt (by omega) (by omega)
  rw [mem_mapPlaces floor, canSeePlace_iff, columns, rows]
  constructor
  · rintro ⟨⟨low, above, below⟩, ⟨west, east⟩, north, south⟩
    exact ⟨⟨⟨by omega, by omega⟩, ⟨west, by omega⟩, north, by omega⟩, low, by omega⟩
  · rintro ⟨⟨⟨above, below⟩, ⟨west, east⟩, north, south⟩, low, high⟩
    exact ⟨⟨low, by omega, by omega⟩, ⟨west, by omega⟩, north, by omega⟩

end OTServ.View
