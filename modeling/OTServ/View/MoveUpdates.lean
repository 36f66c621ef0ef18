import OTServ.View.Places

/-!
# What a step of the player shows

When the player moves, `sendMoveCreature` describes the slices and floors that
have come into view.  A change of floor is described as if the player had gone
straight up or down; the row and the column of the step itself follow.
-/

namespace OTServ.View

open OTServ.Map
open List

/-- A part of the message: the places are those which a description goes by. -/
inductive Part where
  | byte (value : Nat)
  | position (pos : Position)
  | description (places : List Place)

def Part.places : Part → List Place
  | .byte _ => []
  | .position _ => []
  | .description places => places

def described (parts : List Part) : List Place :=
  parts.flatMap Part.places

/-- `GetFloorDescription` with the viewport's size. -/
def floorDescription (oldPos : Position) (z offset : Int) : Part :=
  .description (floorPlaces (oldPos.x.toNat - 8) (oldPos.y.toNat - 6) z 18 14 offset)

/-- `GetMapDescription` -/
def mapDescription (x y : Int) (z : Nat) (width height : Nat) : Part :=
  .description (mapPlaces x y z width height)

/-- `RemoveTileItem` -/
def removeTileItem (pos : Position) (stackpos : Nat) : List Part :=
  if stackpos < 10 then
    [.byte 0x6C, .position pos, .byte stackpos]
  else
    []

/-- `AddMapDescription`; the player is at the new position already. -/
def addMapDescription (pos : Position) : List Part :=
  [.byte 0x64, .position pos, mapDescription (pos.x.toNat - 8) (pos.y.toNat - 6) pos.z.toNat 18 14]

/-- The floors `MoveUpCreature` describes. -/
def floorsUp (newPos oldPos : Position) : List Part :=
  if newPos.z.toNat = 7 then
    -- floors 7 and 6 are there already
    [floorDescription oldPos 5 3, floorDescription oldPos 4 4,
      floorDescription oldPos 3 5, floorDescription oldPos 2 6,
      floorDescription oldPos 1 7, floorDescription oldPos 0 8]
  else if 7 < newPos.z.toNat then
    [floorDescription oldPos (oldPos.z.toNat - 3) 3]
  else
    []

/-- `MoveUpCreature` -/
def moveUpCreature (newPos oldPos : Position) : List Part :=
  .byte 0xBE :: floorsUp newPos oldPos ++
    [.byte 0x68,
      mapDescription (oldPos.x.toNat - 8) (oldPos.y.toNat + 1 - 6) newPos.z.toNat 1 14,
      .byte 0x65,
      mapDescription (oldPos.x.toNat - 8) (oldPos.y.toNat - 6) newPos.z.toNat 18 1]

/-- The floors `MoveDownCreature` describes. -/
def floorsDown (newPos oldPos : Position) : List Part :=
  if newPos.z.toNat = 8 then
    [floorDescription oldPos newPos.z.toNat (-1),
      floorDescription oldPos (newPos.z.toNat + 1) (-2),
      floorDescription oldPos (newPos.z.toNat + 2) (-3)]
  else if oldPos.z < newPos.z ∧ 8 < newPos.z.toNat ∧ newPos.z.toNat < 14 then
    [floorDescription oldPos (newPos.z.toNat + 2) (-3)]
  else
    []

/-- `MoveDownCreature` -/
def moveDownCreature (newPos oldPos : Position) : List Part :=
  .byte 0xBF :: floorsDown newPos oldPos ++
    [.byte 0x66,
      mapDescription (oldPos.x.toNat + 9) (oldPos.y.toNat - 1 - 6) newPos.z.toNat 1 14,
      .byte 0x67,
      mapDescription (oldPos.x.toNat - 8) (oldPos.y.toNat + 7) newPos.z.toNat 18 1]

def stepAway (newPos oldPos : Position) (oldStackPos : Nat) : List Part :=
  if oldPos.z.toNat = 7 ∧ 8 ≤ newPos.z.toNat then
    removeTileItem oldPos oldStackPos
  else
    [.byte 0x6D, .position oldPos, .byte oldStackPos, .position newPos]

def floorChange (newPos oldPos : Position) : List Part :=
  if oldPos.z < newPos.z then moveDownCreature newPos oldPos
  else if newPos.z < oldPos.z then moveUpCreature newPos oldPos
  else []

def newRow (newPos oldPos : Position) : List Part :=
  if newPos.y < oldPos.y then
    [.byte 0x65, mapDescription (oldPos.x.toNat - 8) (newPos.y.toNat - 6) newPos.z.toNat 18 1]
  else if oldPos.y < newPos.y then
    [.byte 0x67, mapDescription (oldPos.x.toNat - 8) (newPos.y.toNat + 7) newPos.z.toNat 18 1]
  else
    []

def newColumn (newPos oldPos : Position) : List Part :=
  if oldPos.x < newPos.x then
    [.byte 0x66, mapDescription (newPos.x.toNat + 9) (newPos.y.toNat - 6) newPos.z.toNat 1 14]
  else if newPos.x < oldPos.x then
    [.byte 0x68, mapDescription (newPos.x.toNat - 8) (newPos.y.toNat - 6) newPos.z.toNat 1 14]
  else
    []

/-- `ProtocolGame::sendMoveCreature` for the player of the connection. -/
def sendMoveCreature
  (newPos oldPos : Position) (oldStackPos : Nat) (teleport : Bool) : List Part :=
  if teleport ∨ 10 ≤ oldStackPos then
    removeTileItem oldPos oldStackPos ++ addMapDescription newPos
  else
    stepAway newPos oldPos oldStackPos ++ floorChange newPos oldPos ++
      newRow newPos oldPos ++ newColumn newPos oldPos

variable {newPos oldPos : Position} {place : Place}

/-- A step to one of the places around, on the same floor or a next one. -/
structure Step (newPos oldPos : Position) : Prop where
  x : ((newPos.x.toNat : Int) - oldPos.x.toNat).natAbs ≤ 1
  y : ((newPos.y.toNat : Int) - oldPos.y.toNat).natAbs ≤ 1
  z : ((newPos.z.toNat : Int) - oldPos.z.toNat).natAbs ≤ 1
  newFloor : newPos.z.toNat < 16
  oldFloor : oldPos.z.toNat < 16
  newInside : ViewInside newPos
  oldInside : ViewInside oldPos

/-- Straight up or down: the old column and row on the new floor. -/
def straight (newPos oldPos : Position) : Position where
  x := oldPos.x
  y := oldPos.y
  z := newPos.z

lemma mem_described {parts : List Part} (part : Part) (mem : part ∈ parts)
  (there : place ∈ part.places) : place ∈ described parts :=
  mem_flatMap.mpr ⟨part, mem, there⟩

/-- The floors shown around a floor, as conditions on the place. -/
def FloorDescribed (z : Nat) (place : Place) : Prop :=
  0 ≤ place.z ∧ (z ≤ 7 → place.z ≤ 7) ∧ (8 ≤ z → z ≤ place.z + 2 ∧ place.z ≤ z + 2 ∧ place.z < 16)

lemma FloorDescribed.of_seen {z : Nat} (seen : FloorSeen z place.z) (low : 0 ≤ place.z)
  (high : place.z < 16) : FloorDescribed z place := by
  unfold FloorSeen at seen
  exact ⟨low, seen.1, by omega⟩

lemma mem_mapDescription {x y : Int} {z width height : Nat} (floor : z < 16)
  (shown : FloorDescribed z place)
  (corner : (0 ≤ x ∧ x < 65536) ∧ 0 ≤ y ∧ y < 65536)
  (inside :
    (x + (z - place.z) ≤ place.x ∧ place.x < x + (z - place.z) + width) ∧
      y + (z - place.z) ≤ place.y ∧ place.y < y + (z - place.z) + height) :
  place ∈ (mapDescription x y z width height).places := by
  rw [mapDescription, Part.places, mem_mapPlaces floor,
    uint16_of_lt corner.1.1 corner.1.2, uint16_of_lt corner.2.1 corner.2.2]
  exact ⟨shown, inside⟩

/--
What is seen from the new position but not from the same floor of the old one
lies in the new row or in the new column.
-/
lemma step_described (step : Step newPos oldPos) (low : 0 ≤ place.z) (high : place.z < 16)
  (seen : canSeePlace newPos place = true)
  (unseen : canSeePlace (straight newPos oldPos) place = false) :
  place ∈ described (newRow newPos oldPos ++ newColumn newPos oldPos) := by
  have hidden : ¬ canSeePlace (straight newPos oldPos) place = true := by
    rw [unseen]
    exact Bool.false_ne_true
  rw [canSeePlace_iff] at seen hidden
  rcases seen with ⟨floors, ⟨west, east⟩, north, south⟩
  have shown := FloorDescribed.of_seen floors low high
  have here := step.newInside.here step.newFloor
  have oldHere := step.oldInside.here step.oldFloor
  have stepX := step.x
  have stepY := step.y
  -- a place outside the old columns is in the new column, whatever its row
  by_cases oldColumns :
      oldPos.x.toNat - 8 + (newPos.z.toNat - place.z) ≤ place.x ∧
        place.x ≤ oldPos.x.toNat + 9 + (newPos.z.toNat - place.z)
  · have outside :
        ¬ (oldPos.y.toNat - 6 + (newPos.z.toNat - place.z) ≤ place.y ∧
          place.y ≤ oldPos.y.toNat + 7 + (newPos.z.toNat - place.z)) :=
      fun rows => hidden ⟨floors, oldColumns, rows⟩
    rw [described, flatMap_append, mem_append]
    apply Or.inl
    by_cases northward : newPos.y < oldPos.y
    · have less := UInt16.lt_iff_toNat_lt.mp northward
      rw [newRow, if_pos northward]
      apply mem_described _ (mem_cons_of_mem _ mem_cons_self)
      exact mem_mapDescription step.newFloor shown (by omega) (by omega)
    · have atLeast : ¬ newPos.y.toNat < oldPos.y.toNat :=
        fun less => northward (UInt16.lt_iff_toNat_lt.mpr less)
      have southward : oldPos.y < newPos.y := by
        apply UInt16.lt_iff_toNat_lt.mpr
        omega
      rw [newRow, if_neg northward, if_pos southward]
      apply mem_described _ (mem_cons_of_mem _ mem_cons_self)
      exact mem_mapDescription step.newFloor shown (by omega) (by omega)
  · rw [described, flatMap_append, mem_append]
    apply Or.inr
    by_cases eastward : oldPos.x < newPos.x
    · have less := UInt16.lt_iff_toNat_lt.mp eastward
      rw [newColumn, if_pos eastward]
      apply mem_described _ (mem_cons_of_mem _ mem_cons_self)
      exact mem_mapDescription step.newFloor shown (by omega) (by omega)
    · have atLeast : ¬ oldPos.x.toNat < newPos.x.toNat :=
        fun less => eastward (UInt16.lt_iff_toNat_lt.mpr less)
      have westward : newPos.x < oldPos.x := by
        apply UInt16.lt_iff_toNat_lt.mpr
        omega
      rw [newColumn, if_neg eastward, if_pos westward]
      apply mem_described _ (mem_cons_of_mem _ mem_cons_self)
      exact mem_mapDescription step.newFloor shown (by omega) (by omega)

/-! ## The change of floor -/

lemma mem_floorDescription
  {z offset : Int} (level : place.z = z)
  (inside :
    (oldPos.x.toNat - 8 + offset ≤ place.x ∧ place.x ≤ oldPos.x.toNat + 9 + offset) ∧
      oldPos.y.toNat - 6 + offset ≤ place.y ∧ place.y ≤ oldPos.y.toNat + 7 + offset) :
  place ∈ (floorDescription oldPos z offset).places := by
  rw [floorDescription, Part.places, mem_floorPlaces]
  omega

def InOldFrame (oldPos : Position) (place : Place) : Prop :=
  (oldPos.x.toNat - 8 + (oldPos.z.toNat - place.z) ≤ place.x ∧
      place.x ≤ oldPos.x.toNat + 9 + (oldPos.z.toNat - place.z)) ∧
    oldPos.y.toNat - 6 + (oldPos.z.toNat - place.z) ≤ place.y ∧
      place.y ≤ oldPos.y.toNat + 7 + (oldPos.z.toNat - place.z)

lemma mem_floorsUp (up : oldPos.z.toNat = newPos.z.toNat + 1) (low : 0 ≤ place.z)
  (seen : FloorSeen newPos.z.toNat place.z) (unseen : ¬ FloorSeen oldPos.z.toNat place.z)
  (frame : InOldFrame oldPos place) : place ∈ described (floorsUp newPos oldPos) := by
  rcases frame with ⟨⟨west, east⟩, north, south⟩
  unfold FloorSeen at seen unseen
  rw [floorsUp]
  split
  · rename_i surface
    have levels :
        place.z = 5 ∨ place.z = 4 ∨ place.z = 3 ∨ place.z = 2 ∨ place.z = 1 ∨ place.z = 0 := by
      omega
    rcases levels with level | level | level | level | level | level
    · exact mem_described (floorDescription oldPos 5 3) (by simp)
        (mem_floorDescription level (by omega))
    · exact mem_described (floorDescription oldPos 4 4) (by simp)
        (mem_floorDescription level (by omega))
    · exact mem_described (floorDescription oldPos 3 5) (by simp)
        (mem_floorDescription level (by omega))
    · exact mem_described (floorDescription oldPos 2 6) (by simp)
        (mem_floorDescription level (by omega))
    · exact mem_described (floorDescription oldPos 1 7) (by simp)
        (mem_floorDescription level (by omega))
    · exact mem_described (floorDescription oldPos 0 8) (by simp)
        (mem_floorDescription level (by omega))
  · split
    · apply mem_described _ mem_cons_self
      exact mem_floorDescription (by omega) (by omega)
    · omega

lemma mem_floorsDown (down : newPos.z.toNat = oldPos.z.toNat + 1) (high : place.z < 16)
  (seen : FloorSeen newPos.z.toNat place.z) (unseen : ¬ FloorSeen oldPos.z.toNat place.z)
  (frame : InOldFrame oldPos place) : place ∈ described (floorsDown newPos oldPos) := by
  rcases frame with ⟨⟨west, east⟩, north, south⟩
  unfold FloorSeen at seen unseen
  have deeper : oldPos.z < newPos.z := by
    apply UInt16.lt_iff_toNat_lt.mpr
    omega
  rw [floorsDown]
  split
  · rename_i underground
    have levels : place.z = 8 ∨ place.z = 9 ∨ place.z = 10 := by
      omega
    rcases levels with level | level | level
    · apply mem_described _ mem_cons_self
      exact mem_floorDescription (by omega) (by omega)
    · apply mem_described _ (mem_cons_of_mem _ mem_cons_self)
      exact mem_floorDescription (by omega) (by omega)
    · apply mem_described _ (mem_cons_of_mem _ (mem_cons_of_mem _ mem_cons_self))
      exact mem_floorDescription (by omega) (by omega)
  · split
    · apply mem_described _ mem_cons_self
      exact mem_floorDescription (by omega) (by omega)
    · rename_i shallow
      exact absurd ⟨deeper, by omega, by omega⟩ shallow

lemma described_within {parts later : List Part} {first : Part}
  (there : place ∈ described parts) : place ∈ described (first :: parts ++ later) := by
  rw [described, flatMap_append, flatMap_cons]
  exact mem_append_left _ (mem_append_right _ there)

section

variable (step : Step newPos oldPos)
include step

lemma straight_up_described (up : oldPos.z.toNat = newPos.z.toNat + 1) (low : 0 ≤ place.z)
  (high : place.z < 16) (seen : canSeePlace (straight newPos oldPos) place = true)
  (unseen : canSeePlace oldPos place = false) :
  place ∈ described (moveUpCreature newPos oldPos) := by
  have hidden : ¬ canSeePlace oldPos place = true := by
    rw [unseen]
    exact Bool.false_ne_true
  rw [canSeePlace_iff] at seen hidden
  simp only [straight] at seen
  rcases seen with ⟨floors, ⟨west, east⟩, north, south⟩
  have shown := FloorDescribed.of_seen floors low high
  have here := step.oldInside.here step.oldFloor
  rw [moveUpCreature]
  by_cases column :
      place.x = oldPos.x.toNat - 8 + (newPos.z.toNat - place.z) ∧
        oldPos.y.toNat - 5 + (newPos.z.toNat - place.z) ≤ place.y
  · apply mem_described
      (mapDescription (oldPos.x.toNat - 8) (oldPos.y.toNat + 1 - 6) newPos.z.toNat 1 14)
      (by simp)
    exact mem_mapDescription step.newFloor shown (by omega) (by omega)
  · by_cases row : place.y = oldPos.y.toNat - 6 + (newPos.z.toNat - place.z)
    · apply mem_described
        (mapDescription (oldPos.x.toNat - 8) (oldPos.y.toNat - 6) newPos.z.toNat 18 1)
        (by simp)
      exact mem_mapDescription step.newFloor shown (by omega) (by omega)
    · have frame : InOldFrame oldPos place := ⟨⟨by omega, by omega⟩, by omega, by omega⟩
      have floorUnseen : ¬ FloorSeen oldPos.z.toNat place.z :=
        fun floorSeen => hidden ⟨floorSeen, frame⟩
      have there := mem_floorsUp up low floors floorUnseen frame
      exact described_within there

lemma straight_down_described (down : newPos.z.toNat = oldPos.z.toNat + 1) (low : 0 ≤ place.z)
  (high : place.z < 16) (seen : canSeePlace (straight newPos oldPos) place = true)
  (unseen : canSeePlace oldPos place = false) :
  place ∈ described (moveDownCreature newPos oldPos) := by
  have hidden : ¬ canSeePlace oldPos place = true := by
    rw [unseen]
    exact Bool.false_ne_true
  rw [canSeePlace_iff] at seen hidden
  simp only [straight] at seen
  rcases seen with ⟨floors, ⟨west, east⟩, north, south⟩
  have shown := FloorDescribed.of_seen floors low high
  have here := step.oldInside.here step.oldFloor
  -- a floor further down lies further up and left in the view
  have lower : 7 ≤ oldPos.y.toNat := by
    have stepY := step.y
    by_cases surface : oldPos.z.toNat = 7
    · have floorSeen : FloorSeen newPos.z.toNat 10 := ⟨by omega, by omega⟩
      have corners := step.newInside.corners (by decide) (by decide) floorSeen
      omega
    · have floorSeen : FloorSeen oldPos.z.toNat (oldPos.z.toNat + 1) := ⟨by omega, by omega⟩
      have newFloor := step.newFloor
      have corners := step.oldInside.corners (by omega) (by omega) floorSeen
      omega
  rw [moveDownCreature]
  by_cases column :
      place.x = oldPos.x.toNat + 9 + (newPos.z.toNat - place.z) ∧
        place.y ≤ oldPos.y.toNat + 6 + (newPos.z.toNat - place.z)
  · apply mem_described
      (mapDescription (oldPos.x.toNat + 9) (oldPos.y.toNat - 1 - 6) newPos.z.toNat 1 14)
      (by simp)
    exact mem_mapDescription step.newFloor shown (by omega) (by omega)
  · by_cases row : place.y = oldPos.y.toNat + 7 + (newPos.z.toNat - place.z)
    · apply mem_described
        (mapDescription (oldPos.x.toNat - 8) (oldPos.y.toNat + 7) newPos.z.toNat 18 1)
        (by simp)
      exact mem_mapDescription step.newFloor shown (by omega) (by omega)
    · have frame : InOldFrame oldPos place := ⟨⟨by omega, by omega⟩, by omega, by omega⟩
      have floorUnseen : ¬ FloorSeen oldPos.z.toNat place.z :=
        fun floorSeen => hidden ⟨floorSeen, frame⟩
      have there := mem_floorsDown down high floors floorUnseen frame
      exact described_within there

lemma floorChange_described (low : 0 ≤ place.z) (high : place.z < 16)
  (seen : canSeePlace (straight newPos oldPos) place = true)
  (unseen : canSeePlace oldPos place = false) :
  place ∈ described (floorChange newPos oldPos) := by
  have stepZ := step.z
  rw [floorChange]
  split
  · rename_i deeper
    have less := UInt16.lt_iff_toNat_lt.mp deeper
    exact straight_down_described step (by omega) low high seen unseen
  · rename_i notDeeper
    have notLess : ¬ oldPos.z.toNat < newPos.z.toNat :=
      fun less => notDeeper (UInt16.lt_iff_toNat_lt.mpr less)
    split
    · rename_i higher
      have less := UInt16.lt_iff_toNat_lt.mp higher
      exact straight_up_described step (by omega) low high seen unseen
    · rename_i notHigher
      have notMore : ¬ newPos.z.toNat < oldPos.z.toNat :=
        fun less => notHigher (UInt16.lt_iff_toNat_lt.mpr less)
      have level : newPos.z = oldPos.z := by
        apply UInt16.toNat_inj.mp
        omega
      have same : straight newPos oldPos = oldPos := by
        rw [straight, level]
      rw [same, unseen] at seen
      cases seen

end

/--
A place that is seen after a step and was not seen before it is described in
the message about the step.
-/
theorem sendMoveCreature_leaves_no_hole (newPos oldPos : Position) (oldStackPos : Nat)
  (place : Place) (step : Step newPos oldPos) (shallow : oldStackPos < 10) (low : 0 ≤ place.z)
  (high : place.z < 16) (seen : canSeePlace newPos place = true)
  (unseen : canSeePlace oldPos place = false) :
  place ∈ described (sendMoveCreature newPos oldPos oldStackPos false) := by
  have stays : ¬ (false = true ∨ 10 ≤ oldStackPos) := by
    rintro (impossible | deep)
    · cases impossible
    · omega
  rw [sendMoveCreature, if_neg stays, append_assoc, described,
    flatMap_append, flatMap_append, mem_append,
    mem_append]
  cases middle : canSeePlace (straight newPos oldPos) place with
  | true =>
    exact Or.inl (Or.inr (floorChange_described step low high middle unseen))
  | false => exact Or.inr (step_described step low high seen middle)

/-- Down the stairs to the east, the new eastern column is described. -/
theorem sendMoveCreature_leaves_no_hole_stairs :
  (⟨108, 100, 8⟩ : Place) ∈ described (sendMoveCreature ⟨101, 100, 8⟩ ⟨100, 100, 7⟩ 1 false) :=
  sendMoveCreature_leaves_no_hole ⟨101, 100, 8⟩ ⟨100, 100, 7⟩ 1 ⟨108, 100, 8⟩
    { x := by decide
      y := by decide
      z := by decide
      newFloor := by decide
      oldFloor := by decide
      newInside := viewInside_of_inland (by decide) (by decide)
      oldInside := viewInside_of_inland (by decide) (by decide) }
    (by decide) (by decide) (by decide) (by decide) (by decide)

end OTServ.View
