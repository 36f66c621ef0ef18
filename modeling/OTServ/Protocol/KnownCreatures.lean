import OTServ.Library.GuardedRuns
import OTServ.Map.Position

/-!
# The known-creature list of a game connection

`ProtocolGame::checkCreatureAsKnown` keeps, for one connection, the ids of the
creatures whose name and outfit the client has already been told.  The client
keeps its own copy from the creature records it receives: a record marked
`0x61` introduces an id and names the id that leaves the copy, a record marked
`0x62` refers to an id the client must already have.

The list is ordered by recent use and holds at most 150 ids.  To make room, up
to 150 ids still in sight are rotated to the end before the front is dropped.
The two copies agree as long as one of the listed creatures may be dropped;
when all 150 are in sight the dropped id is the new one while the announced id
is the last one looked at.
-/

namespace OTServ.Protocol.KnownCreatures

open Library.GuardedRuns
open Map
open List

/--
The part of a creature the protocol reads.

`Creature::setID` combines an `AutoID`, which counts from 1000, with an id
range, so no creature has the id 0 which stands for "nothing removed".
-/
structure Creature where
  id : UInt32
  isRemoved : Bool
  position : Position
  id_ne_zero : id ≠ 0

/-- The answers of the game during one call: the creature table and the position of the player. -/
structure Scene where
  getCreatureByID : UInt32 → Option Creature
  myPos : Position

/-- `ProtocolGame::canSee(int, int, int)`. -/
def canSeeAt (myPos : Position) (x y z : Int) : Bool :=
  let myX : Int := myPos.x.toNat
  let myY : Int := myPos.y.toNat
  let myZ : Int := myPos.z.toNat
  if myZ ≤ 7 ∧ 7 < z then
    false
  else if 8 ≤ myZ ∧ 2 < (myZ - z).natAbs then
    false
  else
    -- a negative offset means that the place is on a lower floor
    let offsetz := myZ - z
    decide
      (myX - 8 + offsetz ≤ x ∧ x ≤ myX + 9 + offsetz ∧
        myY - 6 + offsetz ≤ y ∧ y ≤ myY + 7 + offsetz)

/-- `ProtocolGame::canSee(const Creature*)`. -/
def canSee (myPos : Position) (creature : Creature) : Bool :=
  if creature.isRemoved then
    false
  else
    canSeeAt myPos creature.position.x.toNat creature.position.y.toNat creature.position.z.toNat

/-- The id still belongs to a creature the player sees, so it must stay known. -/
def Scene.inSight (scene : Scene) (id : UInt32) : Bool :=
  match scene.getCreatureByID id with
  | none => false
  | some creature => canSee scene.myPos creature

/-- The out-parameters of `checkCreatureAsKnown` with the list it leaves. -/
structure Answer where
  known : Bool
  removedKnown : UInt32
  knownCreatureList : List UInt32

/--
The search for an id to drop: look at the front, stop when it is out of sight,
otherwise move it to the end.  The second component is `removedKnown`.
-/
def rotateInSight (scene : Scene) : Nat → List UInt32 → UInt32 → List UInt32 × UInt32
  | 0, list, removedKnown => (list, removedKnown)
  | _ + 1, [], removedKnown => ([], removedKnown)
  | tries + 1, front :: rest, _ =>
    if scene.inSight front then
      rotateInSight scene tries (rest ++ [front]) front
    else
      (front :: rest, front)

/--
`ProtocolGame::checkCreatureAsKnown`.  The out-parameter `removedKnown` enters
with whatever the caller left in it and is not written when the id is known.
-/
def checkCreatureAsKnown (scene : Scene) (knownCreatureList : List UInt32)
  (id removedKnown : UInt32) : Answer :=
  if id ∈ knownCreatureList then
    ⟨true, removedKnown, knownCreatureList.erase id ++ [id]⟩
  else
    let pushed := knownCreatureList ++ [id]
    if 150 < pushed.length then
      let rotated := rotateInSight scene 150 pushed removedKnown
      ⟨false, rotated.2, rotated.1.tail⟩
    else
      ⟨false, 0, pushed⟩

/-- The head of a creature record, up to the fields which repeat the creature's looks. -/
inductive CreatureRecord where
  /-- `0x62`, id -/
  | known (id : UInt32)
  /-- `0x61`, removed id, id -/
  | unknown (remove id : UInt32)
deriving DecidableEq

/-- `ProtocolGame::AddCreature`. -/
def addCreature (creature : Creature) (known : Bool) (remove : UInt32) : CreatureRecord :=
  if known then
    .known creature.id
  else
    .unknown remove creature.id

/-- The client stores a new id and forgets the id announced with it. -/
def receive (client : Finset UInt32) : CreatureRecord → Finset UInt32
  | .known _ => client
  | .unknown remove id => insert id (client.erase remove)

structure Connection where
  knownCreatureList : List UInt32
  client : Finset UInt32

def Connection.initial : Connection :=
  ⟨[], ∅⟩

/-- One creature to be described, in the scene of that moment. -/
structure Sighting where
  scene : Scene
  creature : Creature
  /-- the caller's uninitialised `removedKnown` -/
  uninitialised : UInt32

def Connection.answer (connection : Connection) (sighting : Sighting) : Answer :=
  checkCreatureAsKnown sighting.scene connection.knownCreatureList
    sighting.creature.id sighting.uninitialised

/-- The record sent for a sighting, as `AddTileCreature` and `GetTileDescription` send it. -/
def Connection.record (connection : Connection) (sighting : Sighting) : CreatureRecord :=
  addCreature sighting.creature
    (connection.answer sighting).known
    (connection.answer sighting).removedKnown

def Connection.describe (connection : Connection) (sighting : Sighting) : Connection where
  knownCreatureList := (connection.answer sighting).knownCreatureList
  client := receive connection.client (connection.record sighting)

def Connection.Step (connection : Connection) (sighting : Sighting) (next : Connection) : Prop :=
  next = connection.describe sighting

lemma rotateInSight_append (scene : Scene) (seen rest : List UInt32)
  (allSeen : ∀ id ∈ seen, scene.inSight id = true) (tries : Nat) (removedKnown : UInt32) :
  rotateInSight scene (seen.length + tries) (seen ++ rest) removedKnown =
    rotateInSight scene tries (rest ++ seen) (seen.getLastD removedKnown) := by
  induction seen generalizing rest removedKnown with
  | nil => simp
  | cons front seen ih =>
    have frontSeen : scene.inSight front = true := allSeen front mem_cons_self
    have othersSeen : ∀ id ∈ seen, scene.inSight id = true :=
      fun id mem => allSeen id (mem_cons_of_mem _ mem)
    have unfolded :
        rotateInSight scene ((front :: seen).length + tries)
            (front :: seen ++ rest) removedKnown =
          rotateInSight scene (seen.length + tries) (seen ++ (rest ++ [front])) front := by
      rw [length_cons, Nat.add_right_comm]
      simp [rotateInSight, frontSeen]
    rw [unfolded, ih (rest ++ [front]) othersSeen front]
    simp only [append_assoc, cons_append, nil_append]
    cases seen <;> rfl

lemma rotateInSight_stops (scene : Scene) (seen rest : List UInt32) (gone : UInt32)
  (allSeen : ∀ id ∈ seen, scene.inSight id = true) (outOfSight : scene.inSight gone = false)
  (tries : Nat) (enough : seen.length < tries) (removedKnown : UInt32) :
  rotateInSight scene tries (seen ++ gone :: rest) removedKnown =
    (gone :: rest ++ seen, gone) := by
  obtain ⟨left, rfl⟩ : ∃ left, tries = seen.length + (left + 1) :=
    ⟨tries - seen.length - 1, by omega⟩
  rw [rotateInSight_append scene seen (gone :: rest) allSeen]
  simp [rotateInSight, outOfSight]

lemma rotateInSight_exhausted (scene : Scene) (seen : List UInt32) (id removedKnown : UInt32)
  (allSeen : ∀ old ∈ seen, scene.inSight old = true) :
  rotateInSight scene seen.length (seen ++ [id]) removedKnown =
    (id :: seen, seen.getLastD removedKnown) := by
  have exhausted := rotateInSight_append scene seen [id] allSeen 0 removedKnown
  simpa [rotateInSight] using exhausted

/-! ## One description -/

/--
The agreement of the two ends: the client holds the ids of the server's list,
which has no duplicates, holds at most 150 ids, and never the id 0.
-/
structure Connection.Mirrors (connection : Connection) : Prop where
  sameIds : connection.client = connection.knownCreatureList.toFinset
  nodup : connection.knownCreatureList.Nodup
  bounded : connection.knownCreatureList.length ≤ 150
  zeroFree : (0 : UInt32) ∉ connection.knownCreatureList

/--
Room can be made for the creature: it is known already, the list is not full,
or some listed creature is gone or out of sight.
-/
def RoomCanBeMade (connection : Connection) (sighting : Sighting) : Prop :=
  sighting.creature.id ∈ connection.knownCreatureList ∨
    connection.knownCreatureList.length < 150 ∨
      ∃ old ∈ connection.knownCreatureList, sighting.scene.inSight old = false

section Describe

variable {connection : Connection} {sighting : Sighting}

lemma describe_known (listed : sighting.creature.id ∈ connection.knownCreatureList) :
  connection.describe sighting =
      ⟨connection.knownCreatureList.erase sighting.creature.id ++
          [sighting.creature.id],
        connection.client⟩ ∧
    connection.record sighting = .known sighting.creature.id := by
  have answered :
      connection.answer sighting =
        ⟨true, sighting.uninitialised,
          connection.knownCreatureList.erase sighting.creature.id ++ [sighting.creature.id]⟩ := by
    simp [Connection.answer, checkCreatureAsKnown, listed]
  have recorded : connection.record sighting = .known sighting.creature.id := by
    simp [Connection.record, answered, addCreature]
  exact ⟨by simp [Connection.describe, answered, recorded, receive], recorded⟩

section

variable (unlisted : sighting.creature.id ∉ connection.knownCreatureList)
include unlisted

lemma describe_stored (room : connection.knownCreatureList.length < 150) :
  connection.describe sighting =
      ⟨connection.knownCreatureList ++ [sighting.creature.id],
        insert sighting.creature.id (connection.client.erase 0)⟩ ∧
    connection.record sighting = .unknown 0 sighting.creature.id := by
  have answered :
      connection.answer sighting =
        ⟨false, 0, connection.knownCreatureList ++ [sighting.creature.id]⟩ := by
    simp [Connection.answer, checkCreatureAsKnown, unlisted, Nat.not_lt.mpr room]
  have recorded : connection.record sighting = .unknown 0 sighting.creature.id := by
    simp [Connection.record, answered, addCreature]
  exact ⟨by simp [Connection.describe, answered, recorded, receive], recorded⟩

lemma describe_full
  (full : connection.knownCreatureList.length = 150) {kept : List UInt32} {announced : UInt32}
  (rotated :
    rotateInSight sighting.scene 150
        (connection.knownCreatureList ++ [sighting.creature.id])
        sighting.uninitialised =
      (kept, announced)) :
  connection.describe sighting =
      ⟨kept.tail, insert sighting.creature.id (connection.client.erase announced)⟩ ∧
    connection.record sighting = .unknown announced sighting.creature.id := by
  have answered : connection.answer sighting = ⟨false, announced, kept.tail⟩ := by
    simp [Connection.answer, checkCreatureAsKnown, unlisted, full, rotated]
  have recorded : connection.record sighting = .unknown announced sighting.creature.id := by
    simp [Connection.record, answered, addCreature]
  exact ⟨by simp [Connection.describe, answered, recorded, receive], recorded⟩

end

lemma exists_first_out_of_sight
  {scene : Scene} {list : List UInt32} (gone : ∃ old ∈ list, scene.inSight old = false) :
  ∃ seen old rest,
    list = seen ++ old :: rest ∧
      (∀ id ∈ seen, scene.inSight id = true) ∧ scene.inSight old = false := by
  obtain ⟨witness, mem, outOfSight⟩ := gone
  have found : (list.find? fun id => !scene.inSight id).isSome = true := by
    rw [List.find?_isSome]
    exact ⟨witness, mem, by simp [outOfSight]⟩
  obtain ⟨old, foundOld⟩ := Option.isSome_iff_exists.mp found
  obtain ⟨oldGone, seen, rest, split, before⟩ := List.find?_eq_some_iff_append.mp foundOld
  refine ⟨seen, old, rest, split, ?_, by simpa using oldGone⟩
  intro id mem
  simpa using before id mem

lemma Connection.Mirrors.describe (mirrors : connection.Mirrors)
  (room : RoomCanBeMade connection sighting) : (connection.describe sighting).Mirrors := by
  by_cases listed : sighting.creature.id ∈ connection.knownCreatureList
  · rw [(describe_known listed).1]
    have moved :
        (connection.knownCreatureList.erase sighting.creature.id ++
            [sighting.creature.id]).Perm connection.knownCreatureList :=
      (perm_append_singleton _ _).trans (perm_cons_erase listed).symm
    exact
      { sameIds := by
          rw [mirrors.sameIds]
          exact (toFinset_eq_of_perm _ _ moved).symm
        nodup := moved.nodup_iff.mpr mirrors.nodup
        bounded := by
          rw [moved.length_eq]
          exact mirrors.bounded
        zeroFree := fun mem => mirrors.zeroFree (moved.mem_iff.mp mem) }
  · by_cases short : connection.knownCreatureList.length < 150
    · rw [(describe_stored listed short).1]
      have zeroUnknown : (0 : UInt32) ∉ connection.client := by
        rw [mirrors.sameIds, mem_toFinset]
        exact mirrors.zeroFree
      exact
        { sameIds := by
            rw [Finset.erase_eq_of_notMem zeroUnknown, mirrors.sameIds]
            ext id
            simp
          nodup :=
            nodup_append.mpr
              ⟨mirrors.nodup, nodup_singleton _,
                fun id mem _ new equal => listed (mem_singleton.mp new ▸ equal ▸ mem)⟩
          bounded := by
            rw [length_append, length_singleton]
            exact short
          zeroFree := by
            simpa [mirrors.zeroFree] using sighting.creature.id_ne_zero.symm }
    · have full : connection.knownCreatureList.length = 150 :=
        Nat.le_antisymm mirrors.bounded (Nat.not_lt.mp short)
      have gone : ∃ old ∈ connection.knownCreatureList, sighting.scene.inSight old = false := by
        rcases room with known | free | gone
        · exact (listed known).elim
        · exact (short free).elim
        · exact gone
      obtain ⟨seen, old, rest, split, allSeen, outOfSight⟩ := exists_first_out_of_sight gone
      have enough : seen.length < 150 := by
        have lengths := congrArg List.length split
        simp only [length_append, length_cons] at lengths
        omega
      have rotated :
          rotateInSight sighting.scene 150
              (connection.knownCreatureList ++ [sighting.creature.id])
              sighting.uninitialised =
            (old :: (rest ++ [sighting.creature.id]) ++ seen, old) := by
        rw [split, append_assoc]
        exact rotateInSight_stops _ _ _ _ allSeen outOfSight _ enough _
      rw [(describe_full listed full rotated).1]
      have distinct := mirrors.nodup
      rw [split] at listed distinct
      simp only [nodup_append, nodup_cons, mem_append, mem_cons, not_or] at listed distinct
      exact
        { sameIds := by
            ext id
            simp only [mirrors.sameIds, split, toFinset_append,
              toFinset_cons, Finset.mem_insert, Finset.mem_erase,
              Finset.mem_union, mem_toFinset, cons_append,
              tail_cons, toFinset_nil, Finset.notMem_empty]
            grind
          nodup := by
            grind
          bounded := by
            have lengths := congrArg List.length split
            simp only [length_append, length_cons] at lengths
            simp only [cons_append, tail_cons, length_append, length_cons, length_nil]
            omega
          zeroFree := by
            have zeroFree := mirrors.zeroFree
            rw [split] at zeroFree
            have idNonzero := sighting.creature.id_ne_zero
            grind }

lemma Connection.Mirrors.describe_parts
  (mirrors : connection.Mirrors) (noRoom : ¬ RoomCanBeMade connection sighting) :
  (connection.describe sighting).client ≠
    (connection.describe sighting).knownCreatureList.toFinset := by
  simp only [RoomCanBeMade, not_or, not_lt, not_exists, not_and, Bool.not_eq_false] at noRoom
  obtain ⟨unlisted, crowded, allSeen⟩ := noRoom
  have full : connection.knownCreatureList.length = 150 := Nat.le_antisymm mirrors.bounded crowded
  have rotated :=
    rotateInSight_exhausted sighting.scene connection.knownCreatureList
      sighting.creature.id sighting.uninitialised allSeen
  rw [full] at rotated
  rw [(describe_full unlisted full rotated).1]
  intro sameIds
  have received : sighting.creature.id ∈ connection.knownCreatureList.toFinset := by
    simp only [tail_cons] at sameIds
    rw [← sameIds]
    exact Finset.mem_insert_self _ _
  exact unlisted (mem_toFinset.mp received)

lemma record_known {id : UInt32} (sent : connection.record sighting = .known id) :
  id ∈ connection.knownCreatureList := by
  by_cases listed : sighting.creature.id ∈ connection.knownCreatureList
  · rw [(describe_known listed).2] at sent
    cases sent
    exact listed
  · have unknown : (connection.answer sighting).known = false := by
      simp only [Connection.answer, checkCreatureAsKnown, listed, if_false]
      split <;> rfl
    simp [Connection.record, addCreature, unknown] at sent

end Describe

lemma Connection.initial_mirrors : Connection.initial.Mirrors where
  sameIds := rfl
  nodup := nodup_nil
  bounded := Nat.zero_le 150
  zeroFree := not_mem_nil

/-- The mirror: same ids, no duplicates, at most 150, and no unknown id sent as known. -/
def Connection.InAgreement (connection : Connection) : Prop :=
  (connection.client = connection.knownCreatureList.toFinset ∧
    connection.knownCreatureList.Nodup ∧ connection.knownCreatureList.length ≤ 150) ∧
    ∀ sighting id, connection.record sighting = .known id → id ∈ connection.client

lemma Connection.Mirrors.inAgreement {connection : Connection} (mirrors : connection.Mirrors) :
  connection.InAgreement := by
  refine ⟨⟨mirrors.sameIds, mirrors.nodup, mirrors.bounded⟩, ?_⟩
  intro sighting id sent
  rw [mirrors.sameIds, mem_toFinset]
  exact record_known sent

lemma mirrors_of_run {connection : Connection}
  (run : Reaches Connection.Step RoomCanBeMade Connection.initial connection) :
  connection.Mirrors := by
  refine run.invariant Connection.initial_mirrors ?_
  intro state sighting next agreed room taken
  rw [taken]
  exact agreed.describe room

/--
In every run in which room can be made at each step, the two ends agree in
every state.  The guard is exact: in each of these states, the next creature
leaves the client with the ids of the list if and only if room can be made.
-/
theorem known_creature_mirror {connection : Connection}
  (run : Reaches Connection.Step RoomCanBeMade Connection.initial connection) :
  connection.InAgreement ∧
    ∀ sighting,
      (connection.describe sighting).client =
          (connection.describe sighting).knownCreatureList.toFinset ↔
        RoomCanBeMade connection sighting := by
  have mirrors := mirrors_of_run run
  refine ⟨mirrors.inAgreement, fun sighting => ?_⟩
  constructor
  · intro sameIds
    by_contra noRoom
    exact mirrors.describe_parts noRoom sameIds
  · intro room
    exact (mirrors.describe room).sameIds

/-! ## A crowded scene -/

def crowdPosition : Position :=
  ⟨100, 100, 7⟩

/-- Every id but 0 names a creature on the player's own position. -/
def crowdScene : Scene where
  getCreatureByID id :=
    if nonzero : id = 0 then none
    else some ⟨id, false, crowdPosition, nonzero⟩
  myPos := crowdPosition

/-- The id of the `index`-th creature of the crowd. -/
def crowdId (index : Nat) : UInt32 :=
  UInt32.ofNat (index + 1)

lemma crowdId_ne_zero {index : Nat} (bound : index ≤ 150) : crowdId index ≠ 0 := by
  intro zero
  have naturals := congrArg UInt32.toNat zero
  simp only [crowdId, UInt32.toNat_ofNat', UInt32.toNat_zero] at naturals
  omega

/-- The player catches sight of the `index`-th creature, everyone still standing there. -/
def crowdSighting (index : Nat) (bound : index ≤ 150) : Sighting where
  scene := crowdScene
  creature := ⟨crowdId index, false, crowdPosition, crowdId_ne_zero bound⟩
  uninitialised := 0

theorem known_creature_mirror_first_sighting :
  (Connection.initial.describe (crowdSighting 0 (by decide))).InAgreement :=
  (known_creature_mirror (.tail .refl (Or.inr (Or.inl (by decide))) rfl)).1

def crowd : List Sighting :=
  (List.finRange 151).map fun index : Fin 151 =>
    crowdSighting index.1 (Nat.lt_succ_iff.mp index.2)

/-- With 150 creatures in sight, the next one breaks the agreement. -/
theorem crowd_breaks_mirror :
  ¬ ∀ connection,
    Reaches Connection.Step Always Connection.initial connection →
      connection.InAgreement := by
  intro agreement
  have wrong :
      151 ∈ (crowd.foldl Connection.describe Connection.initial).client ∧
        151 ∉ (crowd.foldl Connection.describe Connection.initial).knownCreatureList := by
    decide +kernel
  rw [(agreement _ (Reaches.of_list Connection.initial crowd)).1.1, mem_toFinset] at wrong
  exact wrong.2 wrong.1

end OTServ.Protocol.KnownCreatures
