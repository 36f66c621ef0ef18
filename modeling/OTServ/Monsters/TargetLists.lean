import OTServ.Map.Spectators

/-!
# The lists of a monster

A monster keeps lists of friends and of targets, with a reference to each
creature in them.  What it is told about the creatures around changes the lists:
a creature that comes into view is put into those lists whose test it passes
then, and one that leaves is taken out of those whose test it passes by that
time.
-/

namespace OTServ.Monsters

open Map
open Spectators
open Function

/--
`friendList` and `targetList`, and for each creature how often the lists have
called `useThing2` more often than `releaseThing2`.
-/
structure Lists where
  friendList : List Nat
  targetList : List Nat
  references : Nat → Int

namespace Lists

variable (lists : Lists)

/-- `useThing2` -/
def use (creature : Nat) : Lists :=
  { lists with
    references := update lists.references creature (lists.references creature + 1) }

/-- `releaseThing2` -/
def release (creature : Nat) : Lists :=
  { lists with
    references := update lists.references creature (lists.references creature - 1) }

/-- The part of `Monster::onCreatureFound` for a friend. -/
def findFriend (creature : Nat) : Lists :=
  if creature ∈ lists.friendList then lists
  else
    { lists.use creature with friendList := lists.friendList ++ [creature] }

/-- The part of `Monster::onCreatureFound` for an opponent. -/
def findTarget (creature : Nat) (pushFront : Bool) : Lists :=
  if creature ∈ lists.targetList then lists
  else
    { lists.use creature with
      targetList :=
        if pushFront then creature :: lists.targetList
        else lists.targetList ++ [creature] }

/-- The part of `Monster::onCreatureLeave` for a friend. -/
def dropFriend (creature : Nat) : Lists :=
  if creature ∈ lists.friendList then
    { lists.release creature with friendList := lists.friendList.erase creature }
  else lists

/-- The part of `Monster::onCreatureLeave` for an opponent. -/
def dropTarget (creature : Nat) : Lists :=
  if creature ∈ lists.targetList then
    { lists.release creature with targetList := lists.targetList.erase creature }
  else lists

/-- `Monster::onFollowCreatureComplete` for a creature. -/
def followComplete (creature : Nat) (hasFollowPath isSummon : Bool) : Lists :=
  if creature ∈ lists.targetList then
    let rest := lists.targetList.erase creature
    if hasFollowPath then { lists with targetList := creature :: rest }
    else if !isSummon then { lists with targetList := rest ++ [creature] }
    else { lists.release creature with targetList := rest }
  else lists

def releaseAll (creatures : List Nat) : Lists :=
  creatures.foldl release lists

/-- The loops of `Monster::updateTargetList` over the lists. -/
def sweep (keeps : Nat → Bool) : Lists :=
  let friends :=
    { lists.releaseAll (lists.friendList.filter (!keeps ·)) with
      friendList := lists.friendList.filter keeps }
  { friends.releaseAll (lists.targetList.filter (!keeps ·)) with
    targetList := lists.targetList.filter keeps }

/-- `Monster::clearTargetList` and `Monster::clearFriendList` -/
def clear : Lists :=
  let targets := { lists.releaseAll lists.targetList with targetList := [] }
  { targets.releaseAll lists.friendList with friendList := [] }

def Has (creature : Nat) : Prop :=
  creature ∈ lists.friendList ∨ creature ∈ lists.targetList

end Lists

/-! ## Creatures -/

/-- `getPlayer()`, `getMonster()` or neither. -/
inductive Kind where
  | player (ignoredByMonsters : Bool)
  | monster
  | npc
deriving DecidableEq

/--
A creature.  Its position is that of the tile it is or was last on; it has been
placed once it has had a parent.
-/
structure Creature where
  kind : Kind
  position : Position
  placed : Bool
  health : Int
  master : Option Nat
deriving DecidableEq

/--
All creatures, those in the game in the order in which the map finds them, the
players that are partners, and the lists of the monster.
-/
structure State extends Lists where
  creature : Nat → Creature
  present : List Nat
  isPartner : Nat → Nat → Bool

/-- `Creature::canSee` for the viewport, in numbers of 32 bits without sign. -/
def creatureCanSee (myPos pos : Position) : Bool :=
  let offsetz := myPos.z.toUInt32 - pos.z.toUInt32
  let seesFloor :=
    if myPos.z ≤ 7 then pos.z ≤ 7
    else (myPos.z.toNat - pos.z.toNat : Int).natAbs ≤ 2
  seesFloor &&
    myPos.x.toUInt32 - 11 + offsetz ≤ pos.x.toUInt32 &&
      pos.x.toUInt32 ≤ myPos.x.toUInt32 + 11 + offsetz &&
        myPos.y.toUInt32 - 11 + offsetz ≤ pos.y.toUInt32 &&
          pos.y.toUInt32 ≤ myPos.y.toUInt32 + 11 + offsetz

/-- `Monster::canSee` -/
def canSee (myPos pos : Position) : Bool :=
  pos.z = myPos.z && creatureCanSee myPos pos

namespace State

variable (self : Nat) (state : State)

/-- `getPlayer() != nullptr` -/
def isPlayer (creature : Nat) : Bool :=
  match (state.creature creature).kind with
  | .player _ => true
  | _ => false

/-- `isSummon()` -/
def isSummon (creature : Nat) : Bool :=
  (state.creature creature).master.isSome

/-- The master of a creature, if it has one and that is a player. -/
def masterPlayer (creature : Nat) : Option Nat :=
  (state.creature creature).master.filter state.isPlayer

/-- `Monster::isFriend` -/
def isFriend (creature : Nat) : Bool :=
  match state.masterPlayer self with
  | some master =>
    let tmpPlayer :=
      if state.isPlayer creature then some creature
      else state.masterPlayer creature
    match tmpPlayer with
    | some player => player = master || state.isPartner master player
    | none => false
  | none =>
    (state.creature creature).kind = .monster && !state.isSummon creature

/-- `Monster::isOpponent` -/
def isOpponent (creature : Nat) : Bool :=
  match state.masterPlayer self with
  | some master => creature ≠ master
  | none =>
    (state.creature creature).kind = .player false || (state.masterPlayer creature).isSome

def withLists (lists : Lists) : State := { state with toLists := lists }

/-- `Monster::onCreatureFound` -/
def onCreatureFound (creature : Nat) (pushFront : Bool) : State :=
  let found :=
    if state.isFriend self creature then
      state.withLists (state.findFriend creature)
    else state
  if state.isOpponent self creature then
    found.withLists (found.findTarget creature pushFront)
  else found

/-- `Monster::onCreatureEnter` -/
def onCreatureEnter (creature : Nat) : State :=
  state.onCreatureFound self creature true

/-- `Monster::onCreatureLeave` -/
def onCreatureLeave (creature : Nat) : State :=
  let left :=
    if state.isFriend self creature then
      state.withLists (state.dropFriend creature)
    else state
  if state.isOpponent self creature then
    left.withLists (left.dropTarget creature)
  else left

def position : Position := (state.creature self).position

/-- Whether the monster sees the tile on which a creature is. -/
def sees (creature : Nat) : Bool :=
  canSee (state.position self) (state.creature creature).position

def spectators (centerPos : Position) : List Nat :=
  state.present.filter fun creature =>
    Map.inRange centerPos (state.creature creature).position (Map.cachedRange centerPos)

/-- `Monster::updateTargetList` -/
def updateTargetList : State :=
  let swept :=
    state.withLists
      (state.sweep fun creature =>
        !((state.creature creature).health ≤ 0 || !state.sees self creature))
  (state.spectators (state.position self)).foldl
    (fun state creature =>
      if creature ≠ self && state.sees self creature then
        state.onCreatureFound self creature false
      else state)
    swept

/-- Whether the monster is among the spectators at a position. -/
def told (centerPos : Position) : Bool :=
  self ∈ state.spectators centerPos

def setCreature (creature : Nat) (value : Creature) : State :=
  { state with creature := update state.creature creature value }

/-- `Creature::setMaster` -/
def setMaster (creature : Nat) (master : Option Nat) : State :=
  state.setCreature creature { state.creature creature with master := master }

/-- The summons of a creature die and have no master any more. -/
def destroySummons (creature : Nat) : State :=
  { state with
    creature := fun other =>
      if (state.creature other).master = some creature then
        { state.creature other with health := 0, master := none }
      else state.creature other }

/-- The own part of `Creature::onCreatureDisappear`. -/
def leaveMaster (creature : Nat) : State :=
  match (state.creature creature).master with
  | some master =>
    if master ∈ state.present then state.setMaster creature none else state
  | none => state

/-- `Game::placeCreature`, with `Monster::onCreatureAppear` if it is told. -/
def appear (creature : Nat) (position : Position) : Option State :=
  if (state.creature creature).placed || 16 ≤ position.z then none
  else
    let placed :=
      { state.setCreature creature
          { state.creature creature with
            position := position
            placed := true } with
        present := state.present ++ [creature] }
    some <|
      if creature = self then placed.updateTargetList self
      else if placed.told self position then
        placed.onCreatureEnter self creature
      else placed

/--
What the monster finds when it is told that a creature is gone.  The creature
itself may have been told before, and then has left its master.
-/
def gone (creature : Nat) (selfFirst : Bool) : State :=
  let removed := { state with present := state.present.erase creature }
  if selfFirst then removed.leaveMaster creature else removed

/-- `Game::removeCreature`, with `Monster::onCreatureDisappear` if it is told. -/
def disappear (creature : Nat) (selfFirst : Bool) : Option State :=
  if creature ∈ state.present then
    let gone := state.gone creature selfFirst
    let told :=
      if creature ≠ self && state.told self (state.creature creature).position
      then gone.onCreatureLeave self creature
      else gone
    some (if selfFirst then told else told.leaveMaster creature)
  else none

/-- `Tile::moveCreature`, with `Monster::onCreatureMove` if it is told. -/
def move (creature : Nat) (newPos : Position) : Option State :=
  if creature ∈ state.present ∧ newPos.z < 16 then
    let oldPos := (state.creature creature).position
    let moved := state.setCreature creature { state.creature creature with position := newPos }
    some <|
      if creature = self then moved.updateTargetList self
      else if moved.told self oldPos || moved.told self newPos then
        let canSeeNewPos := canSee (moved.position self) newPos
        let canSeeOldPos := canSee (moved.position self) oldPos
        if canSeeNewPos && !canSeeOldPos then
          moved.onCreatureEnter self creature
        else if !canSeeNewPos && canSeeOldPos then
          moved.onCreatureLeave self creature
        else moved
      else moved
  else none

/-- `Monster::onCreatureConvinced` -/
def onCreatureConvinced (convincer creature : Nat) : State :=
  if convincer ≠ self && (state.isFriend self creature || state.isOpponent self creature)
  then state.updateTargetList self
  else state

/-- `Monster::convinceCreature` of any monster, where it succeeds. -/
def convince (convincer creature : Nat) : Option State :=
  if
    (state.creature creature).kind ≠ .monster ||
      (state.masterPlayer creature).isSome || (state.creature creature).master = some convincer
  then none
  else
    let convinced := (state.setMaster creature (some convincer)).destroySummons creature
    let updated := if creature = self then convinced.updateTargetList self else convinced
    some <|
      if
        updated.told self (updated.creature creature).position ||
          updated.told self (updated.creature convincer).position
      then updated.onCreatureConvinced self convincer creature
      else updated

/-- `Monster::die` of the monster itself. -/
def die : State :=
  let deserted := state.destroySummons self
  deserted.withLists deserted.clear

inductive Event where
  | appear (creature : Nat) (position : Position)
  | disappear (creature : Nat) (selfFirst : Bool)
  | move (creature : Nat) (newPos : Position)
  | followComplete (creature : Nat) (hasFollowPath : Bool)
  | convince (convincer creature : Nat)
  /-- `addSummon`, `removeSummon` or the end of a master -/
  | setMaster (creature : Nat) (master : Option Nat)
  | changeHealth (creature : Nat) (health : Int)
  | changeParties (isPartner : Nat → Nat → Bool)
  | die

def perform : Event → Option State
  | .appear creature position => state.appear self creature position
  | .disappear creature selfFirst => state.disappear self creature selfFirst
  | .move creature newPos => state.move self creature newPos
  | .followComplete creature hasFollowPath =>
    some (state.withLists (state.followComplete creature hasFollowPath (state.isSummon self)))
  | .convince convincer creature => state.convince self convincer creature
  | .setMaster creature master => some (state.setMaster creature master)
  | .changeHealth creature health =>
    some (state.setCreature creature { state.creature creature with health := health })
  | .changeParties isPartner => some { state with isPartner := isPartner }
  | .die => some (state.die self)

end State

end OTServ.Monsters
