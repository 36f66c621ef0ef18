import OTServ.Housing.Moves

/-!
# Steps of a player who is locked

A player steps in a direction, onto the next tile or, by climbing, onto one a
floor above or below.  Whether a locked player may enter is asked of this tile
only; Teleport items, holes, stairs and houses then send the player on.
-/

namespace OTServ.Housing

open Map
open Option

/-- `Direction` -/
inductive Direction where
  | north
  | south
  | west
  | east
  | southwest
  | northwest
  | northeast
  | southeast
deriving DecidableEq

def Direction.next (position : Position) : Direction → Position
  | .north => { position with y := position.y - 1 }
  | .south => { position with y := position.y + 1 }
  | .west => { position with x := position.x - 1 }
  | .east => { position with x := position.x + 1 }
  | .southwest =>
    { position with x := position.x - 1, y := position.y + 1 }
  | .northwest =>
    { position with x := position.x - 1, y := position.y - 1 }
  | .northeast =>
    { position with x := position.x + 1, y := position.y - 1 }
  | .southeast =>
    { position with x := position.x + 1, y := position.y + 1 }

/-- `canChangeFloor` -/
def Direction.canChangeFloor : Direction → Bool
  | .north | .south | .west | .east => true
  | .southwest | .northwest | .northeast | .southeast => false

/-- `Tile::hasProperty(BLOCKSOLID)` -/
def Furniture.blockSolid (tile : Furniture) : Bool :=
  (tile.ground.toList ++ tile.topItems ++ tile.downItems).any TileItem.blockSolid

/-- There is no tile, or one without ground and without a blocking item. -/
def isOpen (realm : Realm) (state : State) (position : Position) : Bool :=
  !realm.isTile position ||
    (state.furniture position).ground.isNone && !(state.furniture position).blockSolid

def isFirm (realm : Realm) (state : State) (position : Position) : Bool :=
  realm.isTile position &&
    (state.furniture position).ground.isSome && !(state.furniture position).blockSolid

/-- `FLAG_IGNOREBLOCKITEM` and `FLAG_IGNOREBLOCKCREATURE` are set besides. -/
def Flags.climbing (flags : Flags) : Flags :=
  { flags with ignoreBlockItem := true, ignoreBlockCreature := true }

variable (realm : Realm) (height : Position → Nat)

/-- Where a step leads to, and with which flags; heights are `getHeight()`. -/
def destination (state : State) (currentPos : Position) (direction : Direction) (flags : Flags) :
  Position × Flags :=
  let destPos := direction.next currentPos
  let above := { destPos with z := destPos.z - 1 }
  let under := { destPos with z := destPos.z + 1 }
  if direction.canChangeFloor then
    if currentPos.z ≠ 8 && 3 ≤ height currentPos then
      -- try go up
      if isOpen realm state { currentPos with z := currentPos.z - 1 } &&
          isFirm realm state above then
        (above, flags.climbing)
      else (destPos, flags)
    else
      -- try go down
      if currentPos.z ≠ 7 && isOpen realm state destPos &&
          realm.isTile under && 3 ≤ height under then
        (under, flags.climbing)
      else (destPos, flags)
  else (destPos, flags)

def heightsAllow (currentPos destPos : Position) : Bool :=
  !(destPos.z < currentPos.z && 1 < height destPos) &&
    ((height destPos - height currentPos : Int) < 2 ||
      3 ≤ height currentPos && currentPos.z = destPos.z ||
      currentPos.z < destPos.z && 3 ≤ height destPos && height currentPos < 2)

/-- `Game::internalMoveCreature` of a player in a direction. -/
def internalMoveCreatureTo (fuel : Nat) (state : State) (player : Nat) (direction : Direction)
  (flags : Flags) : Option (ReturnValue × State) :=
  (state.parent player).bind fun currentPos =>
    let (destPos, flags) := destination realm height state currentPos direction flags
    if realm.isTile destPos && heightsAllow height currentPos destPos then
      internalMoveCreature realm fuel state player destPos flags
    else some (.notPossible, state)

/-! ## Routes -/

variable {realm : Realm} {height : Position → Nat} {state moved : State} {player : Nat}

variable {position first second place target : Position} {rounds fuel : Nat} {flags : Flags}
  {answer : ReturnValue}

lemma Leads.unique
  {furniture : Position → Furniture} (leads : Leads realm furniture position first)
  (also : Leads realm furniture position second) : first = second := by
  induction leads with
  | stay position free => exact (also.eq_of_free free).symm
  | hop position next last carried _ ih =>
    cases also with
    | stay _ free =>
      rw [free] at carried
      cases carried
    | hop _ next' _ carried' rest' =>
      rw [carried] at carried'
      cases carried'
      exact ih rest'

/--
The redirections which are followed from a tile, at most so many, take a player
from where it is to a last tile.  Each starts from the tile to which the one
before has pointed, wherever Teleport items have brought the player meanwhile.
-/
inductive Redirected (realm : Realm) (state : State) (player : Nat) :
  Nat → Position → Position → Position → Prop where
  | spent (position place : Position) :
      Redirected realm state player 0 position place place
  | settled (rounds : Nat) (position place : Position)
      (same : queryDestination realm state player position = position) :
      Redirected realm state player (rounds + 1) position place place
  | follow (rounds : Nat) (position place arrival last : Position)
      (away : queryDestination realm state player position ≠ position)
      (leads : Leads realm state.furniture (queryDestination realm state player position) arrival)
      (rest :
        Redirected realm state player rounds
          (queryDestination realm state player position) arrival last) :
      Redirected realm state player (rounds + 1) position place last

lemma Redirected.unique (route : Redirected realm state player rounds position place first)
  (also : Redirected realm state player rounds position place second) : first = second := by
  induction route with
  | spent => cases also; rfl
  | settled rounds position place same =>
    cases also with
    | settled => rfl
    | follow _ _ _ _ _ away => exact absurd same away
  | follow rounds position place arrival last away leads rest ih =>
    cases also with
    | settled _ _ _ same => exact absurd same away
    | follow _ _ _ arrival' _ _ leads' rest' =>
      cases leads.unique leads'
      exact ih rest'

def Route (realm : Realm) (state : State) (player : Nat) (target last : Position) : Prop :=
  if (teleportTile realm state.furniture target).isSome then
    Leads realm state.furniture target last
  else Redirected realm state player mapMaxLayers target target last

lemma Route.unique (route : Route realm state player target first)
  (also : Route realm state player target second) : first = second := by
  rw [Route] at route also
  split at route
  · rename_i carried
    rw [if_pos carried] at also
    exact route.unique also
  · rename_i free
    rw [if_neg free] at also
    exact route.unique also

structure SameMap (before after : State) : Prop where
  furniture : after.furniture = before.furniture
  houses : after.houses = before.houses

lemma Redirected.congr {other : State} {last : Position} (same : SameMap state other)
  (route : Redirected realm other player rounds position place last) :
  Redirected realm state player rounds position place last := by
  have query : ∀ position,
      queryDestination realm other player position =
        queryDestination realm state player position :=
    queryDestination_congr same.furniture same.houses player
  induction route with
  | spent position place => exact .spent position place
  | settled rounds position place settled =>
    rw [query] at settled
    exact .settled rounds position place settled
  | follow rounds position place arrival last away leads _ ih =>
    rw [query] at away leads ih
    rw [same.furniture] at leads
    exact .follow rounds position place arrival last away leads ih

lemma moveCreature_leads
  {origin : Position} (done : moveCreature realm fuel state player origin target = some moved) :
  SameMap state moved ∧
    ∃ last, Leads realm state.furniture target last ∧ moved.parent player = some last := by
  induction fuel generalizing state origin target with
  | zero => cases done
  | succ fuel ih =>
    rw [moveCreature] at done
    cases carried : teleportTile realm state.furniture target with
    | none =>
      simp only [carried, some.injEq] at done
      subst done
      refine ⟨⟨rfl, rfl⟩, target, .stay target carried, ?_⟩
      rw [State.relocate_parent, Function.update_self]
    | some next =>
      simp only [carried] at done
      rcases ih done with ⟨same, last, leads, stands⟩
      exact ⟨⟨same.furniture, same.houses⟩, last, .hop target next last carried leads, stands⟩

lemma followRedirections_redirected (stands : state.parent player = some place)
  (done : followRedirections realm fuel rounds state player position = some moved) :
  SameMap state moved ∧
    ∃ last,
      Redirected realm state player rounds position place last ∧
        moved.parent player = some last := by
  induction rounds generalizing state position place with
  | zero =>
    cases done
    exact ⟨⟨rfl, rfl⟩, place, .spent position place, stands⟩
  | succ rounds ih =>
    by_cases settled : queryDestination realm state player position = position
    · rw [followRedirections_settled settled] at done
      cases done
      exact ⟨⟨rfl, rfl⟩, place, .settled rounds position place settled, stands⟩
    · simp only [followRedirections, settled, if_false] at done
      rcases bind_eq_some_iff.mp done with ⟨middle, hop, rest⟩
      rcases moveCreature_leads hop with ⟨same, arrival, leads, there⟩
      rcases ih there rest with ⟨same', last, route, finally'⟩
      refine ⟨⟨same'.furniture.trans same.furniture,
        same'.houses.trans same.houses⟩, last, ?_, finally'⟩
      exact .follow rounds position place arrival last settled leads (route.congr same)

lemma internalMoveCreature_route (accepted : queryAdd realm state player target flags = .noError)
  (done : internalMoveCreature realm fuel state player target flags = some (answer, moved)) :
  SameMap state moved ∧
    ∃ last, Route realm state player target last ∧ moved.parent player = some last := by
  rcases bind_eq_some_iff.mp done with ⟨origin, _, step⟩
  simp only [accepted] at step
  rcases bind_eq_some_iff.mp step with ⟨middle, move, finish⟩
  rcases moveCreature_leads move with ⟨same, first, leads, stands⟩
  by_cases carried : (teleportTile realm state.furniture target).isSome
  · have away : middle.parent player ≠ some target := by
      rw [stands]
      intro here
      exact leads.ne_of_carried carried (some.inj here)
    rw [if_neg away] at finish
    cases finish
    refine ⟨same, first, ?_, stands⟩
    rw [Route, if_pos carried]
    exact leads
  · have free : teleportTile realm state.furniture target = none := by
      rwa [not_isSome_iff_eq_none] at carried
    rw [leads.eq_of_free free] at stands
    rw [if_pos stands] at finish
    rcases map_eq_some_iff.mp finish with ⟨result, follow, equal⟩
    cases equal
    rcases followRedirections_redirected stands follow with ⟨same', last, route, there⟩
    refine ⟨⟨same'.furniture.trans same.furniture,
      same'.houses.trans same.houses⟩, last, ?_, there⟩
    rw [Route, if_neg carried]
    exact route.congr same

lemma internalMoveCreature_refused
  (refused : queryAdd realm state player target flags ≠ .noError)
  (done : internalMoveCreature realm fuel state player target flags = some (answer, moved)) :
  moved = state := by
  rcases bind_eq_some_iff.mp done with ⟨origin, _, step⟩
  split at step
  · rename_i accepted
    exact absurd accepted refused
  · cases step
    rfl

/-! ## Zones -/

/--
The second tile is in no zone that is closed to a locked player on the first
one.
-/
structure SameZones (state : State) (origin last : Position) : Prop where
  protection :
    (state.furniture origin).protectionZone = false →
      (state.furniture origin).noPvpZone = false →
        (state.furniture last).protectionZone = false ∧ (state.furniture last).noPvpZone = false
  pvp : (state.furniture last).pvpZone = (state.furniture origin).pvpZone

lemma SameZones.refl (state : State) (position : Position) : SameZones state position position :=
  ⟨fun protection noPvp => ⟨protection, noPvp⟩, rfl⟩

def Airtight (state : State) (player : Nat) (moved : State) : Prop :=
  ∀ origin last,
    state.parent player = some origin →
      moved.parent player = some last → SameZones state origin last

lemma sameZones_of_accepted {origin : Position} (locked : state.pzLocked player = true)
  (stands : state.parent player = some origin) (limited : flags.noLimit = false)
  (accepted : queryAdd realm state player target flags = .noError) :
  SameZones state origin target := by
  have asked : tileQueryAdd state player target flags = .noError := by
    rw [queryAdd] at accepted
    split at accepted
    · split at accepted
      · cases accepted
      · exact accepted
    · exact accepted
  have zone : state.inPvpZone player = (state.furniture origin).pvpZone := by
    rw [State.inPvpZone, stands, any_some]
  simp only [tileQueryAdd, limited, locked, zone, Bool.true_and,
    Bool.and_true, Bool.false_eq_true, if_false] at asked
  repeat' split at asked
  all_goals try cases asked
  rename_i enter leave noPvp protection
  refine ⟨fun _ _ => ⟨?_, ?_⟩, ?_⟩
  · exact Bool.eq_false_iff.mpr protection
  · exact Bool.eq_false_iff.mpr noPvp
  · cases here : (state.furniture origin).pvpZone <;>
      cases there : (state.furniture target).pvpZone <;> simp_all

/--
A step in the direction is accepted by a tile which sends the player on, to a
last tile other than itself.
-/
def SendsOn (realm : Realm) (height : Position → Nat) (state : State) (player : Nat)
  (direction : Direction) (origin last : Position) : Prop :=
  ∃ target flags,
    destination realm height state origin direction Flags.none =
        (target, flags) ∧
      realm.isTile target = true ∧
        heightsAllow height origin target = true ∧
          queryAdd realm state player target flags = .noError ∧
            Route realm state player target last ∧ last ≠ target

lemma destination_limited (realm : Realm) (height : Position → Nat) (state : State)
  (origin : Position) (direction : Direction) :
  (destination realm height state origin direction Flags.none).2.noLimit = false := by
  simp only [destination]
  split
  · split
    · split <;> rfl
    · split <;> rfl
  · rfl

/--
The step of a locked player leaves it in no zone that was closed to it before if
and only if this is so of the last tile to which it is sent on, when it is.
-/
theorem airtight_iff (realm : Realm) (height : Position → Nat) (fuel : Nat) (state moved : State)
  (player : Nat) (direction : Direction) (answer : ReturnValue)
  (locked : state.pzLocked player = true)
  (done :
    internalMoveCreatureTo realm height fuel state player direction
        Flags.none =
      some (answer, moved)) :
  Airtight state player moved ↔
    ∀ origin last,
      state.parent player = some origin →
        SendsOn realm height state player direction origin last →
          SameZones state origin last := by
  rcases bind_eq_some_iff.mp done with ⟨origin, stands, step⟩
  -- a step that is refused leaves the player where it is
  have stays :
      moved = state →
        (∀ last,
          ¬ SendsOn realm height state player direction origin last) →
          (Airtight state player moved ↔
            ∀ origin last,
              state.parent player = some origin →
                SendsOn realm height state player direction origin last →
                  SameZones state origin last) := by
    rintro rfl never
    constructor
    · intro _ other last here sent
      rw [stands] at here
      cases here
      exact absurd sent (never last)
    · intro _ other last here there
      rw [here] at there
      cases there
      exact .refl moved other
  have limited := destination_limited realm height state origin direction
  cases goal : destination realm height state origin direction Flags.none with
  | mk target flags =>
    rw [goal] at limited step
    dsimp only at limited step
    split at step
    · rename_i possible
      rw [Bool.and_eq_true] at possible
      rcases possible with ⟨tile, allowed⟩
      by_cases accepted : queryAdd realm state player target flags = .noError
      · rcases internalMoveCreature_route accepted step with ⟨_, last, route, there⟩
        constructor
        · intro airtight other final here sent
          rw [stands] at here
          cases here
          rcases sent with ⟨target', flags', goal', _, _, _, route', _⟩
          rw [goal] at goal'
          cases goal'
          cases route.unique route'
          exact airtight origin last stands there
        · intro sends other final here finish
          rw [stands] at here
          cases here
          rw [there] at finish
          cases finish
          by_cases same : last = target
          · rw [same]
            exact sameZones_of_accepted locked stands limited accepted
          · exact sends origin last stands
              ⟨target, flags, goal, tile, allowed, accepted, route, same⟩
      · apply stays (internalMoveCreature_refused accepted step)
        rintro last ⟨target', flags', goal', _, _, accepted', _⟩
        rw [goal] at goal'
        cases goal'
        exact accepted accepted'
    · rename_i impossible
      cases step
      apply stays rfl
      rintro last ⟨target', flags', goal', tile, allowed, _⟩
      rw [goal] at goal'
      cases goal'
      rw [tile, allowed] at impossible
      exact impossible rfl

def foot : Position := ⟨100, 100, 7⟩

def stairs : Position := ⟨100, 99, 7⟩

def top : Position := ⟨100, 98, 6⟩

def hill : Realm where
  isTile _ := true
  house? _ := none
  houseTiles _ := []
  posEntry _ := foot
  player number :=
    { guid := number + 1, name := "hiker", guildId := 0, guildRank := "",
      canEditHouses := false, guid_ne_zero := Nat.succ_ne_zero number }
  listPlayer := [0]
  parseList _ := ⟨[], [], []⟩
  getNameByGuid _ := none
  mem_houseTiles _ _ := by simp
  isTile_posEntry _ := rfl
  posEntry_outside _ := by simp

/-- A tile with the flags of a stair to the north, or of a protection zone. -/
def trail (stair temple : Bool) : Furniture :=
  ⟨some ⟨false, false, 0, none⟩, [], [], stair, false, stair, false, false,
    false, false, false, false, false, temple⟩

/-- A locked player stands at the foot of the stairs to a temple. -/
def hike : State where
  furniture position := trail (position = stairs) (position = top)
  creatures position := if position = foot then [0] else []
  others _ := 0
  parent _ := some foot
  pzLocked _ := true
  houses _ := ⟨0, true, ⟨[], [], []⟩, ⟨[], [], []⟩⟩

lemma hike_north :
  ∃ moved,
    internalMoveCreatureTo hill (fun _ => 0) 2 hike 0 .north Flags.none =
        some (.noError, moved) ∧
      moved.parent 0 = some top :=
  ⟨_, rfl, rfl⟩

/-- On the stairs everything depends on the zone at the top. -/
theorem airtight_iff_stairs :
  ∃ moved,
    internalMoveCreatureTo hill (fun _ => 0) 2 hike 0 .north Flags.none =
        some (.noError, moved) ∧
      (Airtight hike 0 moved ↔
        ∀ origin last,
          hike.parent 0 = some origin →
            SendsOn hill (fun _ => 0) hike 0 .north origin last →
              SameZones hike origin last) := by
  rcases hike_north with ⟨moved, done, _⟩
  exact ⟨moved, done, airtight_iff hill (fun _ => 0) 2 hike moved 0 .north .noError rfl done⟩

/-- A locked player gets into the temple by the stairs. -/
theorem stairs_into_temple :
  ¬ ∀ (realm : Realm) (height : Position → Nat) (fuel : Nat)
      (state moved : State) (player : Nat) (direction : Direction)
      (answer : ReturnValue),
      state.pzLocked player = true →
        internalMoveCreatureTo realm height fuel state player direction
            Flags.none =
          some (answer, moved) →
          Airtight state player moved := by
  intro all
  rcases hike_north with ⟨moved, done, there⟩
  have airtight := all hill (fun _ => 0) 2 hike moved 0 .north _ rfl done
  have zone := (airtight foot top rfl there).protection rfl rfl
  have temple : (hike.furniture top).protectionZone = true := rfl
  rw [temple] at zone
  cases zone.1

end OTServ.Housing
