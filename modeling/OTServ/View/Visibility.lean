import OTServ.Map.Spectators
import OTServ.Protocol.KnownCreatures

/-!
# Who sees what

Three functions tell whether a creature sees a position: `Creature::canSee`,
`ProtocolGame::canSee` and the range which `Map::getSpectators` scans around the
position.  They agree but for one thing: `Creature::canSee` subtracts an unsigned
range, so that a viewport that begins before the coordinate 0 shows nothing.
-/

namespace OTServ.View

open OTServ.Map
open Protocol.KnownCreatures
open Spectators
open Spectators.Map

/-- A sum in which one of the numbers is a `uint32_t`. -/
def uint32 (value : Int) : Int := value % 4294967296

/-- The static `Creature::canSee`. -/
def creatureCanSee (myPos pos : Position) (viewRangeX viewRangeY : UInt32) : Bool :=
  let myX : Int := myPos.x.toNat
  let myY : Int := myPos.y.toNat
  let myZ : Int := myPos.z.toNat
  let x : Int := pos.x.toNat
  let y : Int := pos.y.toNat
  let z : Int := pos.z.toNat
  let rangeX : Int := viewRangeX.toNat
  let rangeY : Int := viewRangeY.toNat
  if myZ ≤ 7 ∧ 7 < z then
    false
  else if 8 ≤ myZ ∧ 2 < (myZ - z).natAbs then
    false
  else
    let offsetz := myZ - z
    decide
      (uint32 (myX - rangeX + offsetz) ≤ x ∧
        x ≤ uint32 (myX + rangeX + offsetz) ∧
          uint32 (myY - rangeY + offsetz) ≤ y ∧ y ≤ uint32 (myY + rangeY + offsetz))

/-- `Creature::canSee` for a creature at a position. -/
def Creature.canSee (myPos pos : Position) : Bool :=
  creatureCanSee myPos pos 11 11

/-- `ProtocolGame::canSee` for a player at a position. -/
def ProtocolGame.canSee (myPos pos : Position) : Bool :=
  canSeeAt myPos pos.x.toNat pos.y.toNat pos.z.toNat

/-- `Map::getSpectators` at `pos` takes a creature at `myPos`. -/
def spectates (myPos pos : Position) : Bool :=
  inRange pos myPos (cachedRange pos)

def offsetZ (myPos pos : Position) : Int :=
  myPos.z.toNat - pos.z.toNat

/-- From the surface all floors above the ground, underground two both ways. -/
def FloorShown (myPos pos : Position) : Prop :=
  (myPos.z.toNat ≤ 7 → pos.z.toNat ≤ 7) ∧ (8 ≤ myPos.z.toNat → (offsetZ myPos pos).natAbs ≤ 2)

/-- The position is within a distance of the shifted place of the viewer. -/
def Within (distance : Nat) (myPos pos : Position) : Prop :=
  ((pos.x.toNat : Int) - (myPos.x.toNat + offsetZ myPos pos)).natAbs ≤ distance ∧
    ((pos.y.toNat : Int) - (myPos.y.toNat + offsetZ myPos pos)).natAbs ≤ distance

def ViewFits (myPos pos : Position) : Prop :=
  11 ≤ myPos.x.toNat + offsetZ myPos pos ∧ 11 ≤ myPos.y.toNat + offsetZ myPos pos

variable (myPos pos : Position)

lemma Creature.canSee_iff :
  Creature.canSee myPos pos = true ↔
    FloorShown myPos pos ∧ Within 11 myPos pos ∧ ViewFits myPos pos := by
  have myXs := myPos.x.toNat_lt
  have myYs := myPos.y.toNat_lt
  have range : (11 : UInt32).toNat = 11 := rfl
  simp only [Creature.canSee, creatureCanSee, uint32, range]
  unfold FloorShown Within ViewFits offsetZ
  split
  · rename_i hidden
    constructor
    · intro impossible
      cases impossible
    · rintro ⟨⟨surface, _⟩, _⟩
      omega
  · split
    · rename_i hidden
      constructor
      · intro impossible
        cases impossible
      · rintro ⟨⟨_, underground⟩, _⟩
        omega
    · rw [decide_eq_true_iff]
      constructor
      · rintro ⟨west, east, north, south⟩
        exact ⟨by omega, by omega, by omega⟩
      · rintro ⟨floors, near, fits⟩
        omega

lemma within_eleven_of_protocol (seen : ProtocolGame.canSee myPos pos = true) :
  FloorShown myPos pos ∧ Within 11 myPos pos := by
  rw [ProtocolGame.canSee, canSeeAt] at seen
  unfold FloorShown Within offsetZ
  split at seen
  · cases seen
  · split at seen
    · cases seen
    · rw [decide_eq_true_iff] at seen
      omega

/-- The floors of creatures that are told of an event on a floor. -/
def FloorTold (myPos pos : Position) : Prop :=
  (floors pos true).1 ≤ myPos.z.toNat ∧ myPos.z.toNat ≤ (floors pos true).2

lemma spectates_iff :
  spectates myPos pos = true ↔ FloorTold myPos pos ∧ Within 11 myPos pos := by
  rw [spectates, inRange, cachedRange, queryRange]
  unfold FloorTold Within offsetZ
  simp only [maxViewport, Bool.and_eq_true, Bool.not_eq_true',
    Bool.or_eq_false_iff, decide_eq_false_iff_not, if_true]
  omega

lemma FloorShown.told {myPos pos : Position} (shown : FloorShown myPos pos)
  (floor : myPos.z.toNat < 16) : FloorTold myPos pos := by
  unfold FloorShown offsetZ at shown
  unfold FloorTold floors
  simp only [if_true]
  split
  · omega
  · split
    · omega
    · split
      · omega
      · omega

lemma FloorTold.shown {myPos pos : Position} (told : FloorTold myPos pos)
  (level : (myPos.z.toNat ≤ 7 ∧ pos.z.toNat ≤ 7) ∨ 8 ≤ myPos.z.toNat) :
  FloorShown myPos pos := by
  unfold FloorTold floors at told
  simp only [if_true] at told
  unfold FloorShown offsetZ
  split at told
  · omega
  · split at told
    · omega
    · split at told
      · omega
      · omega

/--
No event is missed by a creature that sees its position, and no creature above
ground or below it is told of events which it does not see.
-/
def ViewsAgree (myPos pos : Position) : Prop :=
  (Creature.canSee myPos pos = true ∨ ProtocolGame.canSee myPos pos = true →
    spectates myPos pos = true) ∧
  (spectates myPos pos = true →
    (myPos.z.toNat ≤ 7 ∧ pos.z.toNat ≤ 7) ∨ 8 ≤ myPos.z.toNat → Creature.canSee myPos pos = true)

/--
The three functions agree unless the position is within the viewport and the
viewport begins before the coordinate 0.
-/
theorem views_agree_iff (myPos pos : Position) (floor : myPos.z.toNat < 16) :
  ViewsAgree myPos pos ↔ (FloorShown myPos pos → Within 11 myPos pos → ViewFits myPos pos) := by
  constructor
  · rintro ⟨_, shows⟩ shown near
    have told : spectates myPos pos = true :=
      (spectates_iff myPos pos).mpr ⟨shown.told floor, near⟩
    have level : (myPos.z.toNat ≤ 7 ∧ pos.z.toNat ≤ 7) ∨ 8 ≤ myPos.z.toNat := by
      rcases Nat.lt_or_ge 7 myPos.z.toNat with below | above
      · exact Or.inr below
      · exact Or.inl ⟨above, shown.1 above⟩
    exact ((Creature.canSee_iff myPos pos).mp (shows told level)).2.2
  · intro fits
    constructor
    · rintro (seen | seen)
      · have ⟨shown, near, _⟩ := (Creature.canSee_iff myPos pos).mp seen
        exact (spectates_iff myPos pos).mpr ⟨shown.told floor, near⟩
      · have ⟨shown, near⟩ := within_eleven_of_protocol myPos pos seen
        exact (spectates_iff myPos pos).mpr ⟨shown.told floor, near⟩
    · intro spectator level
      have ⟨told, near⟩ := (spectates_iff myPos pos).mp spectator
      have shown := told.shown level
      exact (Creature.canSee_iff myPos pos).mpr ⟨shown, near, fits shown near⟩

/-- In the middle of the map a creature sees what happens where it stands. -/
theorem views_agree_inland :
  ViewsAgree ⟨100, 100, 7⟩ ⟨100, 100, 7⟩ ↔
    (FloorShown ⟨100, 100, 7⟩ ⟨100, 100, 7⟩ →
      Within 11 ⟨100, 100, 7⟩ ⟨100, 100, 7⟩ → ViewFits ⟨100, 100, 7⟩ ⟨100, 100, 7⟩) :=
  views_agree_iff ⟨100, 100, 7⟩ ⟨100, 100, 7⟩ (by decide)

/-- At the western border a creature does not even see its own place. -/
theorem border_is_blind :
  ¬ ∀ myPos pos : Position, myPos.z.toNat < 16 → pos.z.toNat < 16 → ViewsAgree myPos pos := by
  intro agree
  have ⟨_, shows⟩ := agree ⟨5, 100, 7⟩ ⟨5, 100, 7⟩ (by decide) (by decide)
  have seen := shows (by decide) (by decide)
  exact absurd seen (by decide)

end OTServ.View
