import OTServ.Housing.Grounds

/-!
# Where a move ends

A player who is moved onto a tile is carried on by the Teleport item there, and
by the next one, until a tile holds none.  This module describes what a move
does to the state, for a single `moveCreature`, for a step with its
redirections and for a teleport.
-/

namespace OTServ.Housing

open Map
open Function Option

variable {realm : Realm}

/-- The Teleport items on the tiles carry a thing from one tile to another. -/
inductive Leads (realm : Realm) (furniture : Position → Furniture) :
  Position → Position → Prop where
  | stay (position : Position)
      (free : teleportTile realm furniture position = none) :
      Leads realm furniture position position
  | hop (position next last : Position)
      (carried : teleportTile realm furniture position = some next)
      (rest : Leads realm furniture next last) :
      Leads realm furniture position last

variable {furniture : Position → Furniture} {position last origin target : Position}
  {state other : State} {player fuel : Nat} {answer : ReturnValue}

lemma Leads.eq_of_free (leads : Leads realm furniture position last)
  (free : teleportTile realm furniture position = none) : last = position := by
  cases leads with
  | stay => rfl
  | hop _ _ _ carried _ =>
    rw [free] at carried
    cases carried

lemma Leads.free (leads : Leads realm furniture position last) :
  teleportTile realm furniture last = none := by
  induction leads with
  | stay _ free => exact free
  | hop _ _ _ _ _ ih => exact ih

/-! ## The players on the tiles -/

/-- Each player is once among the creatures of its own tile, and of no other. -/
structure Listed (state : State) : Prop where
  mem : ∀ player position, player ∈ state.creatures position ↔ state.parent player = some position
  nodup : ∀ position, (state.creatures position).Nodup

structure Moved (state : State) (player : Nat) (last : Position) (moved : State) : Prop where
  parent : moved.parent = update state.parent player (some last)
  furniture : moved.furniture = state.furniture
  houses : moved.houses = state.houses
  listed : Listed moved

lemma Moved.parent_self {moved : State} (move : Moved state player last moved) :
  moved.parent player = some last := by
  rw [move.parent, update_self]

lemma Moved.parent_of_ne {moved : State} {other : Nat} (move : Moved state player last moved)
  (ne : other ≠ player) : moved.parent other = state.parent other := by
  rw [move.parent, update_of_ne ne]

lemma Moved.trans
  {middle moved : State} {first : Position} (move : Moved state player first middle)
  (further : Moved middle player last moved) : Moved state player last moved where
  parent := by
    rw [further.parent, move.parent, update_idem]
  furniture := further.furniture.trans move.furniture
  houses := further.houses.trans move.houses
  listed := further.listed

@[simp]
lemma State.relocate_furniture (state : State) (player : Nat) (origin target : Position) :
  (state.relocate player origin target).furniture = state.furniture :=
  rfl

@[simp]
lemma State.relocate_houses (state : State) (player : Nat) (origin target : Position) :
  (state.relocate player origin target).houses = state.houses :=
  rfl

@[simp]
lemma State.relocate_parent (state : State) (player : Nat) (origin target : Position) :
  (state.relocate player origin target).parent = update state.parent player (some target) :=
  rfl

section

variable (listed : Listed state)
include listed

variable (stands : state.parent player = some origin)
include stands

lemma Listed.mem_taken (other : Nat) (position : Position) :
  other ∈
      update state.creatures origin ((state.creatures origin).erase player) position ↔
    other ≠ player ∧ state.parent other = some position := by
  by_cases here : position = origin
  · subst here
    rw [update_self, (listed.nodup position).mem_erase_iff, listed.mem]
  · rw [update_of_ne here, listed.mem]
    constructor
    · intro found
      refine ⟨?_, found⟩
      intro same
      rw [same, stands] at found
      exact here (some.inj found).symm
    · exact And.right

lemma Listed.relocate (target : Position) : Listed (state.relocate player origin target) where
  mem other position := by
    have taken := listed.mem_taken stands other
    by_cases here : position = target
    · subst here
      simp only [State.relocate, update_self, List.mem_cons, taken position]
      by_cases same : other = player
      · simp [same]
      · simp [same]
    · simp only [State.relocate, update_of_ne here, taken position]
      by_cases same : other = player
      · subst same
        simp only [update_self, some.injEq]
        constructor
        · intro found
          exact absurd rfl found.1
        · intro found
          exact absurd found.symm here
      · simp [same]
  nodup position := by
    have taken :
        ∀ tile,
          (update state.creatures origin ((state.creatures origin).erase player) tile).Nodup := by
      intro tile
      by_cases here : tile = origin
      · rw [here, update_self]
        exact (listed.nodup origin).erase player
      · rw [update_of_ne here]
        exact listed.nodup tile
    by_cases here : position = target
    · subst here
      simp only [State.relocate, update_self, List.nodup_cons]
      refine ⟨?_, taken position⟩
      rw [listed.mem_taken stands]
      intro found
      exact found.1 rfl
    · simp only [State.relocate, update_of_ne here]
      exact taken position

lemma Listed.moved (target : Position) :
  Moved state player target (state.relocate player origin target) where
  parent := State.relocate_parent state player origin target
  furniture := State.relocate_furniture state player origin target
  houses := State.relocate_houses state player origin target
  listed := listed.relocate stands target

lemma moveCreature_moved
  {moved : State} (done : moveCreature realm fuel state player origin target = some moved) :
  ∃ last, Leads realm state.furniture target last ∧ Moved state player last moved := by
  induction fuel generalizing state origin target with
  | zero => cases done
  | succ fuel ih =>
    have first := listed.moved stands target
    rw [moveCreature] at done
    cases carried : teleportTile realm state.furniture target with
    | none =>
      simp only [carried, some.injEq] at done
      subst done
      exact ⟨target, .stay target carried, first⟩
    | some next =>
      simp only [carried] at done
      rcases ih first.listed first.parent_self done with ⟨last, leads, further⟩
      exact ⟨last, .hop target next last carried leads, first.trans further⟩

end

lemma queryDestination_congr (furniture : other.furniture = state.furniture)
  (houses : other.houses = state.houses) (player : Nat) (position : Position) :
  queryDestination realm other player position =
    queryDestination realm state player position := by
  simp only [queryDestination, tileQueryDestination, belowHole, aboveStairs, furniture, houses]

lemma Welcome.congr (houses : other.houses = state.houses) :
  Welcome realm other player position ↔ Welcome realm state player position := by
  simp only [Welcome, houses]

lemma welcome_of_settled (settled : queryDestination realm state player position = position) :
  Welcome realm state player position := by
  intro house inside
  by_contra uninvited
  rw [queryDestination, inside] at settled
  simp only [uninvited, Bool.false_eq_true, if_false] at settled
  apply realm.posEntry_outside house
  rw [settled, inside]

/-- The Teleport items lead the player only to where it may stay. -/
def EndsWell (realm : Realm) (state : State) (player : Nat) (position : Position) : Prop :=
  ∀ last, Leads realm state.furniture position last → Welcome realm state player last

/--
The redirections from a tile come to an end within the rounds, past no Teleport
item but one at their very end, which leads to where the player may stay.
-/
def RouteIsSafe (realm : Realm) (state : State) (player : Nat) : Nat → Position → Prop
  | 0, position => queryDestination realm state player position = position
  | rounds + 1, position =>
    let next := queryDestination realm state player position
    next = position ∨
      teleportTile realm state.furniture next = none ∧ RouteIsSafe realm state player rounds next ∨
      (teleportTile realm state.furniture next).isSome ∧
        queryDestination realm state player next = next ∧ EndsWell realm state player next

lemma RouteIsSafe.congr (furniture : other.furniture = state.furniture)
  (houses : other.houses = state.houses) :
  ∀ {rounds : Nat} {position : Position},
    RouteIsSafe realm state player rounds position →
      RouteIsSafe realm other player rounds position
  | 0, position, safe => by
      rw [RouteIsSafe] at safe ⊢
      rwa [queryDestination_congr furniture houses]
  | rounds + 1, position, safe => by
      simp only [RouteIsSafe, queryDestination_congr furniture houses,
        furniture, EndsWell, Welcome.congr houses] at safe ⊢
      rcases safe with settled | ⟨free, rest⟩ | last
      · exact .inl settled
      · exact .inr (.inl ⟨free, rest.congr furniture houses⟩)
      · exact .inr (.inr last)

lemma followRedirections_settled
  {rounds : Nat} (settled : queryDestination realm state player position = position) :
  followRedirections realm fuel rounds state player position = some state := by
  cases rounds with
  | zero => rfl
  | succ rounds => simp [followRedirections, settled]

lemma followRedirections_moved {rounds : Nat} {finished : State} (listed : Listed state)
  (stands : state.parent player = some position)
  (safe : RouteIsSafe realm state player rounds position)
  (done : followRedirections realm fuel rounds state player position = some finished) :
  ∃ last, Welcome realm state player last ∧ Moved state player last finished := by
  induction rounds generalizing state position with
  | zero =>
    cases done
    refine ⟨position, welcome_of_settled safe, ?_, rfl, rfl, listed⟩
    rw [← stands, update_eq_self]
  | succ rounds ih =>
    by_cases settled : queryDestination realm state player position = position
    · rw [followRedirections_settled settled] at done
      cases done
      refine ⟨position, welcome_of_settled settled, ?_, rfl, rfl, listed⟩
      rw [← stands, update_eq_self]
    · simp only [followRedirections, settled, if_false] at done
      rcases bind_eq_some_iff.mp done with ⟨middle, hop, rest⟩
      rcases moveCreature_moved listed stands hop with ⟨first, leads, move⟩
      rcases safe with same | ⟨free, further⟩ | ⟨_, last, well⟩
      · exact absurd same settled
      · rw [leads.eq_of_free free] at move
        rcases ih move.listed move.parent_self
            (further.congr move.furniture move.houses) rest with
          ⟨last, welcome, moved⟩
        exact ⟨last, (Welcome.congr move.houses).mp welcome, move.trans moved⟩
      · have still :
            queryDestination realm middle player
                (queryDestination realm state player position) =
              queryDestination realm state player position := by
          rw [queryDestination_congr move.furniture move.houses, last]
        rw [followRedirections_settled still] at rest
        cases rest
        exact ⟨first, well first leads, move⟩

/-- What an accepted step onto a tile needs in order to end well. -/
def StepIsSafe (realm : Realm) (state : State) (player : Nat) (target : Position) : Prop :=
  if (teleportTile realm state.furniture target).isSome then
    EndsWell realm state player target
  else RouteIsSafe realm state player mapMaxLayers target

/-- The state is as before, or the player stands where it may stay. -/
def StaysOrMoves (realm : Realm) (state : State) (player : Nat) (next : State) : Prop :=
  next = state ∨ ∃ last, Welcome realm state player last ∧ Moved state player last next

lemma Leads.ne_of_carried (leads : Leads realm furniture position last)
  (carried : (teleportTile realm furniture position).isSome) : last ≠ position := by
  intro same
  have free := leads.free
  rw [same] at free
  rw [free] at carried
  cases carried

lemma internalMoveCreature_cases {next : State} {flags : Flags} (listed : Listed state)
  (safe :
    queryAdd realm state player target flags = .noError → StepIsSafe realm state player target)
  (done : internalMoveCreature realm fuel state player target flags = some (answer, next)) :
  StaysOrMoves realm state player next := by
  rcases bind_eq_some_iff.mp done with ⟨origin, stands, step⟩
  by_cases accepted : queryAdd realm state player target flags = .noError
  · have clear := safe accepted
    simp only [accepted] at step
    rcases bind_eq_some_iff.mp step with ⟨moved, move, finish⟩
    rcases moveCreature_moved listed stands move with ⟨first, leads, carried⟩
    right
    by_cases teleport : (teleportTile realm state.furniture target).isSome
    · rw [StepIsSafe, if_pos teleport] at clear
      have away : moved.parent player ≠ some target := by
        rw [carried.parent_self]
        intro same
        exact leads.ne_of_carried teleport (some.inj same)
      rw [if_neg away] at finish
      cases finish
      exact ⟨first, clear first leads, carried⟩
    · rw [StepIsSafe, if_neg teleport] at clear
      have free : teleportTile realm state.furniture target = none := by
        simpa using teleport
      rw [leads.eq_of_free free] at carried
      rw [if_pos carried.parent_self] at finish
      rcases map_eq_some_iff.mp finish with ⟨result, follow, same⟩
      cases same
      rcases followRedirections_moved carried.listed carried.parent_self
          (clear.congr carried.furniture carried.houses) follow with
        ⟨last, welcome, further⟩
      exact ⟨last, (Welcome.congr carried.houses).mp welcome, carried.trans further⟩
  · left
    split at step
    · contradiction
    · cases step
      rfl

lemma internalTeleport_cases {next : State} {newPos : Position} (listed : Listed state)
  (safe : state.parent player ≠ some newPos → EndsWell realm state player newPos)
  (done : internalTeleport realm fuel state player newPos = some (answer, next)) :
  StaysOrMoves realm state player next := by
  rcases bind_eq_some_iff.mp done with ⟨position, stands, teleport⟩
  have carries :
      newPos ≠ position →
        (moveCreature realm fuel state player position newPos).map
            (fun moved => (ReturnValue.noError, moved)) =
          some (answer, next) →
          StaysOrMoves realm state player next := by
    intro away carried
    rcases map_eq_some_iff.mp carried with ⟨moved, move, same⟩
    cases same
    rcases moveCreature_moved listed stands move with ⟨last, leads, result⟩
    have elsewhere : state.parent player ≠ some newPos := by
      rw [stands]
      intro here
      exact away (some.inj here).symm
    exact .inr ⟨last, safe elsewhere last leads, result⟩
  by_cases here : newPos = position
  · rw [if_pos here] at teleport
    cases teleport
    exact .inl rfl
  · rw [if_neg here] at teleport
    by_cases tile : realm.isTile newPos
    · rw [if_pos tile] at teleport
      split at teleport
      · split at teleport
        · exact carries here teleport
        · cases teleport
          exact .inl rfl
      · exact carries here teleport
    · rw [if_neg tile] at teleport
      cases teleport
      exact .inl rfl

end OTServ.Housing
