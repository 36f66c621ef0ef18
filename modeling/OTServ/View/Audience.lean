import OTServ.Map.QuadTreeRuns
import OTServ.View.Visibility

/-!
# Who is told

The server tells the spectators of a position what happens there, and each client decides
by `canSee` what it shows.  Whoever sees the position is among the spectators, through all
moves on the map and whatever the cache remembers.
-/

namespace OTServ.View

open Library.GuardedRuns
open OTServ.Map
open Spectators
open Spectators.QuadMap
open Option

lemma spectates_of_seen {myPos pos : Position} (floor : myPos.z.toNat < 16)
  (seen : Creature.canSee myPos pos = true ∨ ProtocolGame.canSee myPos pos = true) :
  spectates myPos pos = true := by
  rw [spectates_iff]
  rcases seen with seen | seen
  · have ⟨shown, near, _⟩ := (Creature.canSee_iff myPos pos).mp seen
    exact ⟨shown.told floor, near⟩
  · have ⟨shown, near⟩ := within_eleven_of_protocol myPos pos seen
    exact ⟨shown.told floor, near⟩

/-- Both functions list every creature that sees the position. -/
theorem whoever_sees_is_told
    (map : QuadMap) (run : Reaches QuadMap.Step FromItsTile empty map) (creature : Nat)
    (myPos pos : Position) (here : map.At creature myPos) (floor : myPos.z.toNat < 16)
    (seen : Creature.canSee myPos pos = true ∨ ProtocolGame.canSee myPos pos = true) :
    creature ∈ (map.getCachedSpectators pos).1 ∧
      creature ∈ (map.getSpectators (Map.Query.around pos)).1 := by
  have kept := run_kept run
  have near : Map.InRange pos myPos (Map.cachedRange pos) :=
    (Map.inRange_iff _ _ _).mp (spectates_of_seen floor seen)
  exact ⟨(kept.mem_getCachedSpectators pos creature).mpr ⟨myPos, here, near⟩,
    (kept.mem_getSpectators (.around pos) creature).mpr (.inr ⟨myPos, here, near⟩)⟩

/-- A creature is told of what happens where it stands. -/
theorem whoever_sees_is_told_placed :
    ∃ map,
      (empty.setTile ⟨100, 100, 7⟩).placeCreature 1 ⟨100, 100, 7⟩ = some map ∧
        1 ∈ (map.getCachedSpectators ⟨100, 100, 7⟩).1 ∧
          1 ∈ (map.getSpectators (Map.Query.around ⟨100, 100, 7⟩)).1 := by
  have there :
      ((empty.setTile ⟨100, 100, 7⟩).placeCreature 1 ⟨100, 100, 7⟩).map (fun map =>
        (map.getTile ⟨100, 100, 7⟩, (map.tile ⟨100, 100, 7⟩).creatures, map.position 1)) =
          some (some ⟨100, 100, 7⟩, [1], some ⟨100, 100, 7⟩) := by
    decide +kernel
  rcases map_eq_some_iff.mp there with ⟨map, placed, stands⟩
  rw [Prod.mk.injEq, Prod.mk.injEq] at stands
  rcases stands with ⟨tile, creatures, position⟩
  have here : map.At 1 ⟨100, 100, 7⟩ :=
    ⟨⟨_, _, tile, by rw [creatures]; exact List.mem_cons_self⟩, position⟩
  exact ⟨map, placed, whoever_sees_is_told map (placed_reaches placed) 1 ⟨100, 100, 7⟩
    ⟨100, 100, 7⟩ here (by decide) (.inl (by decide))⟩

end OTServ.View
