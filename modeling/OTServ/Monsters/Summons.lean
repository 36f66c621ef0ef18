import Mathlib.Data.List.Basic

/-!
# Masters and summons

A creature has a master and a list of summons.  The relation is kept from both ends:
by `addSummon` and `removeSummon`, by the loops with which a dying or convinced
monster lets go of its summons, and by the destructor.  A master holds one reference
to each of its summons; a creature is destroyed with the last reference to it.

When a creature is removed, so are its summons, whose own callback looks at the
removed flag of the master before it changes the list that is being gone through.

Creatures are numbered as they are created.  The references of target lists, spawns
and of the game itself are counted in `holds`, beside the counter of the source.
-/

namespace OTServ.Monsters.Summons

inductive CreatureKind where
  | player
  | monster
  | npc
deriving DecidableEq, Repr

/-- What a `Creature` has to do with masters and summons. -/
structure Creature where
  kind : CreatureKind
  /-- it has been placed on a tile, which it keeps as its parent -/
  placed : Bool
  isInternalRemoved : Bool
  useCount : Int
  health : Int
  healthMax : Int
  lootDrop : Bool
  skillLoss : Bool
  master : Option Nat
  summons : List Nat
  /-- it is in the `spawnedMap` of its spawn -/
  spawned : Bool
  /-- the references to it which are not those of a master -/
  holds : Nat
  deleted : Bool
deriving DecidableEq, Repr

namespace Creature

def new (kind : CreatureKind) : Creature where
  kind := kind
  placed := false
  isInternalRemoved := false
  useCount := 0
  health := 1000
  healthMax := 1000
  lootDrop := true
  skillLoss := true
  master := none
  summons := []
  spawned := false
  holds := 0
  deleted := false

def changeHealth (creature : Creature) (healthChange : Int) : Creature :=
  { creature with
    health :=
      if 0 < healthChange then
        creature.health + min healthChange (creature.healthMax - creature.health)
      else
        max 0 (creature.health + healthChange) }

def onMap (creature : Creature) : Bool :=
  creature.placed && !creature.isInternalRemoved

end Creature

structure Game where
  creatures : Nat → Creature
  /-- the number of creatures that have been created -/
  next : Nat
  ToReleaseThings : List Nat
  /-- a recursion went deeper than there are creatures -/
  exhausted : Bool

namespace Game

def initial : Game where
  creatures _ := .new .monster
  next := 0
  ToReleaseThings := []
  exhausted := false

def modify (game : Game) (c : Nat) (change : Creature → Creature) : Game :=
  { game with
    creatures := Function.update game.creatures c (change (game.creatures c)) }

def exist (game : Game) (c : Nat) : Prop :=
  c < game.next ∧ (game.creatures c).deleted = false

instance (game : Game) (c : Nat) : Decidable (game.exist c) :=
  inferInstanceAs (Decidable (_ ∧ _))

/--
A creature lets go of its summons: each is changed, loses its master and is released,
then the list is cleared.
-/
def releaseSummons (release : Game → Nat → Game) (each : Creature → Creature) (game : Game)
  (c : Nat) : Game :=
  ((game.creatures c).summons.foldl
    (fun game summon =>
      release (game.modify summon fun creature => { each creature with master := none }) summon)
    game).modify c fun creature => { creature with summons := [] }

def countDown (game : Game) (c : Nat) : Game :=
  game.modify c fun creature => { creature with useCount := creature.useCount - 1 }

/-- `delete` with the loop of `Creature::~Creature`. -/
def destroy (release : Game → Nat → Game) (game : Game) (c : Nat) : Game :=
  releaseSummons release id (game.modify c fun creature => { creature with deleted := true }) c

/-- `releaseThing2`, which may destroy the creature and with it others. -/
def releaseThing2 : Nat → Game → Nat → Game
  | fuel, game, c =>
    if 0 < ((game.countDown c).creatures c).useCount then
      game.countDown c
    else
      match fuel with
      | 0 => { game.countDown c with exhausted := true }
      | fuel + 1 => destroy (releaseThing2 fuel) (game.countDown c) c

/-- `releaseThing2`; no destruction goes deeper than there are creatures. -/
def release (game : Game) (c : Nat) : Game :=
  releaseThing2 game.next game c

/-- `useThing2` of somebody who is not a master. -/
def hold (game : Game) (c : Nat) : Game :=
  game.modify c fun creature =>
    { creature with useCount := creature.useCount + 1, holds := creature.holds + 1 }

/-- `releaseThing2` of somebody who is not a master. -/
def drop (game : Game) (c : Nat) : Game :=
  (game.modify c fun creature => { creature with holds := creature.holds - 1 }).release c

def addSummon (game : Game) (m c : Nat) : Game :=
  (game.modify c fun creature =>
    { creature with
      lootDrop := false
      skillLoss := false
      master := some m
      useCount := creature.useCount + 1 }).modify m fun creature =>
    { creature with summons := creature.summons ++ [c] }

def removeSummon (game : Game) (m c : Nat) : Game :=
  if c ∈ (game.creatures m).summons then
    ((game.modify c fun creature =>
      { creature with lootDrop := false, skillLoss := true, master := none }).release
        c).modify m fun creature =>
      { creature with summons := creature.summons.erase c }
  else
    game

/-- `internalPlaceCreature`, with the answer of the map. -/
def internalPlaceCreature (game : Game) (c : Nat) (answer : Bool) : Game × Bool :=
  if (game.creatures c).placed || !answer then
    (game, false)
  else
    ((game.hold c).modify c fun creature => { creature with placed := true }, true)

def create (game : Game) (kind : CreatureKind) : Game :=
  { game with
    creatures := Function.update game.creatures game.next (.new kind)
    next := game.next + 1 }

/-- A new monster is summoned and placed, as in the last loop of `onThinkDefense`. -/
def summon (game : Game) (m : Nat) (answer : Bool) : Game :=
  let c := game.next
  match ((game.create .monster).addSummon m c).internalPlaceCreature c answer with
  | (game, true) => game
  | (game, false) => game.removeSummon m c

/-- The part of `Creature::onCreatureDisappear` for the creature itself. -/
def onCreatureDisappear (game : Game) (c : Nat) : Game :=
  match (game.creatures c).master with
  | some m =>
    if (game.creatures m).isInternalRemoved then game
    else game.removeSummon m c
  | none => game

/-- The flag of a removed creature, and `FreeThing`. -/
def setRemoved (game : Game) (c : Nat) : Game :=
  { game.modify c fun creature => { creature with isInternalRemoved := true } with
    ToReleaseThings := game.ToReleaseThings ++ [c] }

/-- `Game::removeCreature`; a creature that was never placed has no tile. -/
def removeCreatureBy : Nat → Game → Nat → Game
  | fuel, game, c =>
    if (game.creatures c).isInternalRemoved || !(game.creatures c).placed then
      game
    else
      let game := (game.onCreatureDisappear c).setRemoved c
      match fuel with
      | 0 => { game with exhausted := true }
      | fuel + 1 =>
        (game.creatures c).summons.foldl
          (fun game summon =>
            removeCreatureBy fuel
              (game.modify summon fun creature => { creature with skillLoss := false })
              summon)
          game

def removeCreature (game : Game) (c : Nat) : Game :=
  removeCreatureBy game.next game c

/-- A creature has moved, and some of its summons are out of range. -/
def onCreatureMove (game : Game) (c : Nat) (outOfRange : List Nat) : Game :=
  ((game.creatures c).summons.filter fun summon => summon ∈ outOfRange).foldl removeCreature game

/-- The loop of `Monster::die` and of `convinceCreature`. -/
def killSummons (game : Game) (c : Nat) : Game :=
  releaseSummons release (fun creature => creature.changeHealth (-creature.health)) game c

/-- `Creature::onDie` with `Monster::die`. -/
def onDie (game : Game) (c : Nat) : Game :=
  let game :=
    match (game.creatures c).kind with
    | .monster => game.killSummons c
    | .player | .npc => game
  match (game.creatures c).master with
  | some m => game.removeSummon m c
  | none => game

def doDeathDelay (game : Game) (c : Nat) : Game :=
  if (game.creatures c).isInternalRemoved then game
  else (game.onDie c).removeCreature c

/-- `Spawn::removeMonster` -/
def removeMonster (game : Game) (c : Nat) : Game :=
  if (game.creatures c).spawned then
    (game.modify c fun creature => { creature with spawned := false }).drop c
  else
    game

/-- What both branches of `Monster::convinceCreature` do. -/
def takeOver (game : Game) (this creature : Nat) : Game :=
  ((game.addSummon creature this).killSummons this).removeMonster this

/--
`convinceCreature` of a monster; other creatures cannot be convinced.  Whether the
monster can be convinced, or the player may convince all, is given.
-/
def convinceCreature (game : Game) (this creature : Nat) (convinceable : Bool) : Game × Bool :=
  if (game.creatures this).kind ≠ .monster then
    (game, false)
  else if (game.creatures creature).kind = .player ∧ convinceable = false then
    (game, false)
  else
    match (game.creatures this).master with
    | some oldMaster =>
      if (game.creatures oldMaster).kind = .player ∨ oldMaster = creature then
        (game, false)
      else
        ((game.removeSummon oldMaster this).takeOver this creature, true)
    | none => (game.takeOver this creature, true)

def doConvinceCreature (game : Game) (cid target : Nat) (convinceable : Bool) : Game :=
  if (game.creatures cid).onMap && (game.creatures target).onMap then
    (game.convinceCreature target cid convinceable).1
  else
    game

/-! ## The game -/

def cleanup (game : Game) : Game :=
  { game.ToReleaseThings.foldl drop game with ToReleaseThings := [] }

/-- The references of the game and of a spawn, which are not anybody's to release. -/
def reserved (game : Game) (c : Nat) : Nat :=
  game.ToReleaseThings.count c +
    (if (game.creatures c).onMap then 1 else 0) +
    if (game.creatures c).spawned then 1 else 0

inductive Operation where
  | create (kind : CreatureKind)
  /-- a creature that was not placed is deleted -/
  | delete (c : Nat)
  | placeCreature (c : Nat) (answer : Bool)
  | spawnMonster (c : Nat)
  | checkSpawn (c : Nat)
  | useThing2 (c : Nat)
  | releaseThing2 (c : Nat)
  | changeHealth (c : Nat) (healthChange : Int)
  | summon (m : Nat) (answer : Bool)
  | doConvinceCreature (cid target : Nat) (convinceable : Bool)
  | doDeathDelay (c : Nat)
  | removeCreature (c : Nat)
  | onCreatureMove (c : Nat) (outOfRange : List Nat)
  | cleanup
deriving DecidableEq

/-- An operation is possible: the creatures exist, and references are there. -/
def Enabled (game : Game) : Operation → Prop
  | .create _ | .cleanup => True
  | .delete c =>
    game.exist c ∧ (game.creatures c).placed = false ∧ (game.creatures c).useCount = 0
  | .placeCreature c _ => game.exist c
  | .spawnMonster c =>
    game.exist c ∧ (game.creatures c).onMap ∧ (game.creatures c).spawned = false
  | .checkSpawn c =>
    game.exist c ∧ (game.creatures c).isInternalRemoved ∧ (game.creatures c).spawned
  | .useThing2 c => game.exist c
  | .releaseThing2 c => game.exist c ∧ game.reserved c < (game.creatures c).holds
  | .changeHealth c _ => game.exist c
  | .summon m _ => game.exist m ∧ (game.creatures m).placed
  | .doConvinceCreature cid target _ => game.exist cid ∧ game.exist target
  | .doDeathDelay c => game.exist c ∧ (game.creatures c).placed
  | .removeCreature c => game.exist c
  | .onCreatureMove c _ => game.exist c

instance (game : Game) (operation : Operation) : Decidable (game.Enabled operation) :=
  match operation with
  | .create _ | .cleanup => isTrue trivial
  | .delete _ | .spawnMonster _ | .checkSpawn _ =>
    inferInstanceAs (Decidable (_ ∧ _ ∧ _))
  | .releaseThing2 _ | .summon _ _ | .doDeathDelay _ | .doConvinceCreature _ _ _ =>
    inferInstanceAs (Decidable (_ ∧ _))
  | .placeCreature c _ | .useThing2 c | .changeHealth c _ | .removeCreature c
  | .onCreatureMove c _ =>
    inferInstanceAs (Decidable (game.exist c))

def run (game : Game) : Operation → Game
  | .create kind => game.create kind
  | .delete c => destroy (Summons.Game.releaseThing2 game.next) game c
  | .placeCreature c answer => (game.internalPlaceCreature c answer).1
  | .spawnMonster c =>
    (game.hold c).modify c fun creature => { creature with spawned := true }
  | .checkSpawn c => game.removeMonster c
  | .useThing2 c => game.hold c
  | .releaseThing2 c => game.drop c
  | .changeHealth c healthChange =>
    game.modify c fun creature => creature.changeHealth healthChange
  | .summon m answer => game.summon m answer
  | .doConvinceCreature cid target convinceable =>
    game.doConvinceCreature cid target convinceable
  | .doDeathDelay c => game.doDeathDelay c
  | .removeCreature c => game.removeCreature c
  | .onCreatureMove c outOfRange => game.onCreatureMove c outOfRange
  | .cleanup => game.cleanup

def step (game : Game) (operation : Operation) : Game :=
  if game.Enabled operation then game.run operation else game

/--
`onKilledCreature`: the creatures whose `onKillEvent` is called, in this order, if the
recursion is not cut off.
-/
def onKilledCreature (game : Game) : Nat → Nat → Option (List Nat)
  | 0, _ => none
  | fuel + 1, c =>
    match (game.creatures c).master with
    | some m => (game.onKilledCreature fuel m).map fun called => called ++ [c]
    | none => some [c]

/-- `onGainExperience`: who gains how much, if the recursion is not cut off. -/
def onGainExperience (game : Game) : Nat → Nat → UInt64 → Option (List (Nat × UInt64))
  | 0, _, _ => none
  | fuel + 1, c, gainExp =>
    if gainExp > 0 then
      match (game.creatures c).master with
      | some m =>
        (game.onGainExperience fuel m (gainExp / 2)).map fun gained => gained ++ [(c, gainExp / 2)]
      | none => some [(c, gainExp)]
    else
      some []

end Game

end OTServ.Monsters.Summons
