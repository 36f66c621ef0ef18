import OTServ.Library.SkipRuns
import OTServ.View.MapDescription

/-!
# The layout of a map description

As long as there is room the writers append the bytes given here, one behind the
other: the things of a tile in the order of the stack, and the tiles as cells with
runs of missing ones between them.
-/

namespace OTServ.View.Description

open Library.ByteStreams
open Library.SkipRuns
open OTServ.Map
open Protocol.KnownCreatures
open List Option

def Fits (msg : NetworkMessage) (bytes : Stream) : Prop :=
  msg.body.length + bytes.length < 16748

def Appends (write : NetworkMessage → NetworkMessage) (bytes : Stream) : Prop :=
  ∀ msg, Fits msg bytes → write msg = ⟨msg.body ++ bytes⟩

section Writers

variable {first second : NetworkMessage → NetworkMessage} {bytes more : Stream}

lemma Appends.id : Appends (fun msg => msg) [] := by
  intro msg _
  rw [append_nil]

lemma Appends.followed (appends : Appends first bytes) (then_appends : Appends second more) :
  Appends (fun msg => second (first msg)) (bytes ++ more) := by
  intro msg fits
  rw [Fits, length_append] at fits
  have room : Fits msg bytes := by
    rw [Fits]
    omega
  have left : Fits ⟨msg.body ++ bytes⟩ more := by
    rw [Fits]
    simp only [length_append]
    omega
  simp only
  rw [appends msg room, then_appends _ left, append_assoc]

lemma canAdd_iff (msg : NetworkMessage) (size : Nat) :
  msg.canAdd size = true ↔ msg.body.length + size < 16748 := by
  rw [NetworkMessage.canAdd, decide_eq_true_iff, NetworkMessage.readPos, NetworkMessage.maxSize]
  omega

lemma add_appends (bytes : Stream) : Appends (fun msg => msg.add bytes) bytes := by
  intro msg fits
  simp only
  rw [NetworkMessage.add, if_pos ((canAdd_iff msg bytes.length).mpr fits)]

lemma addByte_appends (value : UInt8) :
  Appends (fun msg => msg.addByte value) (littleEndian 1 value.toNat) :=
  add_appends _

lemma addU16_appends (value : UInt16) :
  Appends (fun msg => msg.addU16 value) (littleEndian 2 value.toNat) :=
  add_appends _

lemma addU32_appends (value : UInt32) :
  Appends (fun msg => msg.addU32 value) (littleEndian 4 value.toNat) :=
  add_appends _

/-- A name as `AddString` writes it. -/
def nameBytes (name : Stream) : Stream :=
  littleEndian 2 (cString name).length ++ cString name

lemma addString_appends {name : Stream} (short : (cString name).length ≤ 8192) :
  Appends (fun msg => msg.addString name) (nameBytes name) := by
  intro msg fits
  have size : (nameBytes name).length = (cString name).length + 2 := by
    rw [nameBytes, length_append, littleEndian_length, Nat.add_comm]
  have room : msg.canAdd ((cString name).length + 2) = true := by
    rw [canAdd_iff]
    rwa [Fits, size] at fits
  have two : Fits msg (littleEndian 2 (UInt16.ofNat (cString name).length).toNat) := by
    rw [Fits, littleEndian_length]
    rw [Fits, size] at fits
    omega
  have count : (UInt16.ofNat (cString name).length).toNat = (cString name).length := by
    rw [UInt16.toNat_ofNat', Nat.mod_eq_of_lt (by omega)]
  simp only [NetworkMessage.addString]
  have written := add_appends _ msg two
  simp only at written
  rw [if_neg (by rw [room]; simp; exact short), NetworkMessage.addU16, written, count, nameBytes]
  simp only [append_assoc]

end Writers

section Layout

variable (env : Env)

def itemBytes (item : Item) : Stream :=
  let it := env.items item.id
  littleEndian 2 it.clientId.toNat ++
    if it.counted then littleEndian 1 (item.getSubType it).toUInt8.toNat else []

lemma addItem_appends (item : Item) : Appends (addItem env item) (itemBytes env item) := by
  have id := addU16_appends (env.items item.id).clientId
  unfold itemBytes addItem
  simp only
  split
  · exact id.followed (addByte_appends (item.getSubType (env.items item.id)).toUInt8)
  · exact id.followed Appends.id

def outfitBytes (outfit : Outfit) : Stream :=
  littleEndian 1 outfit.lookType.toUInt8.toNat ++
    if outfit.lookType ≠ 0 then
      littleEndian 1 outfit.lookHead.toUInt8.toNat ++
        littleEndian 1 outfit.lookBody.toUInt8.toNat ++
        littleEndian 1 outfit.lookLegs.toUInt8.toNat ++
        littleEndian 1 outfit.lookFeet.toUInt8.toNat
    else
      littleEndian 2 (env.items outfit.lookTypeEx.toUInt16).clientId.toNat

lemma addCreatureOutfit_appends (outfit : Outfit) :
  Appends (addCreatureOutfit env outfit) (outfitBytes env outfit) := by
  have type := addByte_appends outfit.lookType.toUInt8
  unfold outfitBytes addCreatureOutfit
  split
  · have colours :=
      (((addByte_appends outfit.lookHead.toUInt8).followed
        (addByte_appends outfit.lookBody.toUInt8)).followed
          (addByte_appends outfit.lookLegs.toUInt8)).followed
            (addByte_appends outfit.lookFeet.toUInt8)
    have whole := type.followed colours
    exact whole
  · have item := addU16_appends (env.items outfit.lookTypeEx.toUInt16).clientId
    have whole := type.followed item
    exact whole

def Env.showsOutfit (creature : Creature) : Bool :=
  !creature.isInvisible || env.canSeeInvisibility

def lookBytes (creature : Creature) : Stream :=
  if env.showsOutfit creature then
    outfitBytes env creature.currentOutfit
  else
    littleEndian 1 0 ++ littleEndian 2 0

/-- How `AddCreature` writes the looks. -/
def addLook (creature : Creature) (msg : NetworkMessage) : NetworkMessage :=
  if ¬ creature.isInvisible then
    addCreatureOutfit env creature.currentOutfit msg
  else
    addCreatureInvisible env creature msg

lemma addLook_eq (creature : Creature) (msg : NetworkMessage) :
  addLook env creature msg =
    if env.showsOutfit creature then
      addCreatureOutfit env creature.currentOutfit msg
    else
      (msg.addByte 0).addU16 0 := by
  unfold addLook addCreatureInvisible Env.showsOutfit
  cases creature.isInvisible with
  | false => rfl
  | true => rfl

lemma addLook_appends (creature : Creature) :
  Appends (addLook env creature) (lookBytes env creature) := by
  intro msg
  rw [addLook_eq, lookBytes]
  split
  · exact addCreatureOutfit_appends env creature.currentOutfit msg
  · have dark := (addByte_appends 0).followed (addU16_appends 0)
    exact dark msg

/-- A known creature goes by its id, a new one brings its name. -/
def introductionBytes (creature : Creature) (known : Bool) (remove : UInt32) : Stream :=
  if known then
    littleEndian 2 (0x62 : UInt16).toNat ++ littleEndian 4 creature.id.toNat
  else
    littleEndian 2 (0x61 : UInt16).toNat ++ littleEndian 4 remove.toNat ++
      littleEndian 4 creature.id.toNat ++ nameBytes creature.name

/-- How `AddCreature` begins. -/
def addIntroduction (creature : Creature) (known : Bool) (remove : UInt32) (msg : NetworkMessage) :
  NetworkMessage :=
  if known then
    (msg.addU16 0x62).addU32 creature.id
  else
    (((msg.addU16 0x61).addU32 remove).addU32 creature.id).addString creature.name

lemma addIntroduction_appends {creature : Creature}
  (short : (cString creature.name).length ≤ 8192) (known : Bool) (remove : UInt32) :
  Appends (addIntroduction creature known remove) (introductionBytes creature known remove) := by
  cases known with
  | true =>
    have whole := (addU16_appends 0x62).followed (addU32_appends creature.id)
    exact whole
  | false =>
    have whole :=
      (((addU16_appends 0x61).followed (addU32_appends remove)).followed
        (addU32_appends creature.id)).followed (addString_appends short)
    unfold addIntroduction introductionBytes
    simp only [Bool.false_eq_true, if_false]
    exact whole

def creatureBytes (creature : Creature) (known : Bool) (remove : UInt32) : Stream :=
  introductionBytes creature known remove ++
    littleEndian 1 (healthByte env creature).toNat ++
    littleEndian 1 creature.direction.toNat ++
    lookBytes env creature ++
    littleEndian 1 creature.lightLevel.toUInt8.toNat ++
    littleEndian 1 creature.lightColor.toUInt8.toNat ++
    littleEndian 2 creature.stepSpeed.toUInt32.toUInt16.toNat ++
    littleEndian 1 (env.getSkullClient creature).toNat ++
    littleEndian 1 (env.getPartyShield creature).toNat

lemma addCreature_appends {creature : Creature} (short : (cString creature.name).length ≤ 8192)
  (known : Bool) (remove : UInt32) :
  Appends (addCreature env creature known remove) (creatureBytes env creature known remove) := by
  have looks :=
    (((addIntroduction_appends short known remove).followed
      (addByte_appends (healthByte env creature))).followed
        (addByte_appends creature.direction)).followed (addLook_appends env creature)
  have whole :=
    ((((looks.followed
      (addByte_appends creature.lightLevel.toUInt8)).followed
        (addByte_appends creature.lightColor.toUInt8)).followed
          (addU16_appends creature.stepSpeed.toUInt32.toUInt16)).followed
            (addByte_appends (env.getSkullClient creature))).followed
              (addByte_appends (env.getPartyShield creature))
  intro msg
  exact whole msg

/-! ## Tiles -/

def Env.answer (known : List UInt32) (creature : Creature) : Answer :=
  checkCreatureAsKnown env.scene known creature.id env.uninitialised

def thingBytes (known : List UInt32) : Thing → Stream
  | .item item => itemBytes env item
  | .creature creature =>
    creatureBytes env creature (env.answer known creature).known
      (env.answer known creature).removedKnown

def afterThing (known : List UInt32) : Thing → List UInt32
  | .item _ => known
  | .creature creature => (env.answer known creature).knownCreatureList

def thingsBytes : List UInt32 → List Thing → Stream
  | _, [] => []
  | known, thing :: things =>
    thingBytes env known thing ++ thingsBytes (afterThing env known thing) things

def cellBytes (known : List UInt32) (place : Place) : Option Stream :=
  (env.tileAt place).map fun tile => thingsBytes env known tile.firstTen

def afterPlace (known : List UInt32) (place : Place) : List UInt32 :=
  match env.tileAt place with
  | some tile => tile.firstTen.foldl (afterThing env) known
  | none => known

def cellsBytes : List UInt32 → List Place → List (Option Stream)
  | _, [] => []
  | known, place :: places =>
    cellBytes env known place :: cellsBytes (afterPlace env known place) places

def descriptionBytes (known : List UInt32) (places : List Place) : Stream :=
  encode (-1) (cellsBytes env known places)

/-- The name is short enough for `AddString`. -/
def Thing.ShortName : Thing → Prop
  | .item _ => True
  | .creature shown => (cString shown.name).length ≤ 8192

def Env.ShortNames (place : Place) : Prop :=
  ∀ tile, env.tileAt place = some tile → ∀ thing ∈ tile.firstTen, thing.ShortName

section Cells

variable {env}

lemma describeThing_eq {thing : Thing} (short : thing.ShortName) (out : Output)
  (fits : Fits out.msg (thingBytes env out.knownCreatureList thing)) :
  describeThing env out thing =
    { msg := ⟨out.msg.body ++ thingBytes env out.knownCreatureList thing⟩
      knownCreatureList := afterThing env out.knownCreatureList thing } := by
  cases thing with
  | item item =>
    rw [describeThing, describeItem, addItem_appends env item out.msg fits]
    rfl
  | creature creature =>
    have written :=
      addCreature_appends env short
        (env.answer out.knownCreatureList creature).known
        (env.answer out.knownCreatureList creature).removedKnown out.msg fits
    exact congrArg
      (fun msg => Output.mk msg
        (env.answer out.knownCreatureList creature).knownCreatureList) written

lemma describeThings_eq {things : List Thing} (short : ∀ thing ∈ things, thing.ShortName)
  (out : Output) (fits : Fits out.msg (thingsBytes env out.knownCreatureList things)) :
  things.foldl (describeThing env) out =
    { msg := ⟨out.msg.body ++ thingsBytes env out.knownCreatureList things⟩
      knownCreatureList := things.foldl (afterThing env) out.knownCreatureList } := by
  induction things generalizing out with
  | nil =>
    rw [thingsBytes, append_nil]
    rfl
  | cons thing things ih =>
    have size := fits
    rw [Fits, thingsBytes, length_append] at size
    have room : Fits out.msg (thingBytes env out.knownCreatureList thing) := by
      rw [Fits]
      omega
    have first := describeThing_eq (short thing mem_cons_self) out room
    rw [foldl_cons, first, ih (fun other later => short other (mem_cons_of_mem _ later))]
    · simp only [thingsBytes, foldl_cons, append_assoc]
    · rw [Fits]
      simp only [length_append]
      omega

def Cursor.InBounds (cursor : Cursor) : Prop :=
  -1 ≤ cursor.skip ∧ cursor.skip < 0xFF

lemma pair_eq {count : Nat} (small : count < 256) :
  pair count =
    littleEndian 1 (UInt8.ofNat count).toNat ++ littleEndian 1 (0xFF : UInt8).toNat := by
  rw [pair, UInt8.toNat_ofNat', Nat.mod_eq_of_lt small]
  rfl

lemma flushSkip_eq
  {cursor : Cursor} (bounds : cursor.InBounds) (fits : Fits cursor.out.msg (flush cursor.skip)) :
  flushSkip cursor = { cursor.out with msg := ⟨cursor.out.msg.body ++ flush cursor.skip⟩ } := by
  have small : cursor.skip.toNat < 256 := by
    unfold Cursor.InBounds at bounds
    omega
  rw [flushSkip]
  rw [flush] at fits ⊢
  split
  · rename_i started
    rw [if_pos started, pair_eq small] at fits
    have appends :=
      (addByte_appends (UInt8.ofNat cursor.skip.toNat)).followed (addByte_appends 0xFF)
    have written := appends cursor.out.msg fits
    rw [pair_eq small]
    exact congrArg (fun msg => { cursor.out with msg := msg }) written
  · rw [append_nil]

lemma describePlace_eq
    {cursor : Cursor} (bounds : cursor.InBounds) {place : Place} (short : env.ShortNames place)
    (fits : Fits cursor.out.msg
      (put cursor.skip (cellBytes env cursor.out.knownCreatureList place)).1) :
    describePlace env cursor place =
      { out :=
          { msg :=
              ⟨cursor.out.msg.body ++
                (put cursor.skip (cellBytes env cursor.out.knownCreatureList place)).1⟩
            knownCreatureList := afterPlace env cursor.out.knownCreatureList place }
        skip := (put cursor.skip (cellBytes env cursor.out.knownCreatureList place)).2 } := by
  rw [describePlace]
  cases there : env.tileAt place with
  | some tile =>
    rw [cellBytes, there, map_some, put] at fits ⊢
    simp only
    have size := fits
    rw [Fits, length_append] at size
    have room : Fits cursor.out.msg (flush cursor.skip) := by
      rw [Fits]
      omega
    rw [flushSkip_eq bounds room, getTileDescription_eq, describeThings_eq (short tile there)]
    · rw [afterPlace, there]
      simp only [append_assoc]
    · rw [Fits]
      simp only [length_append]
      omega
  | none =>
    rw [cellBytes, there, map_none] at fits ⊢
    simp only
    rw [afterPlace, there]
    split
    · rename_i full
      rw [put_none_full full] at fits ⊢
      have appends := (addByte_appends 0xFF).followed (addByte_appends 0xFF)
      have written := appends cursor.out.msg fits
      exact congrArg (fun msg => Cursor.mk { cursor.out with msg := msg } (-1)) written
    · rename_i next
      rw [put_none_next next, append_nil]

lemma describePlaces_eq {places : List Place} (short : ∀ place ∈ places, env.ShortNames place)
  {cursor : Cursor} (bounds : cursor.InBounds)
  (fits : Fits cursor.out.msg
    (encode cursor.skip (cellsBytes env cursor.out.knownCreatureList places))) :
  (flushSkip (places.foldl (describePlace env) cursor)).msg.body =
    cursor.out.msg.body ++
      encode cursor.skip (cellsBytes env cursor.out.knownCreatureList places) := by
  induction places generalizing cursor with
  | nil => exact congrArg (fun out => out.msg.body) (flushSkip_eq bounds fits)
  | cons place places ih =>
    have size := fits
    rw [Fits, cellsBytes, encode, length_append] at size
    have room :
        Fits cursor.out.msg
          (put cursor.skip (cellBytes env cursor.out.knownCreatureList place)).1 := by
      rw [Fits]
      omega
    have first := describePlace_eq bounds (short place mem_cons_self) room
    rw [foldl_cons, first, ih (fun other later => short other (mem_cons_of_mem _ later))]
    · simp only [cellsBytes, encode, append_assoc]
    · exact put_bounds bounds _
    · rw [Fits]
      simp only [length_append]
      omega

lemma getMapDescription_writes {x y : Int} {z width height : Nat} {out : Output}
  (short : ∀ place ∈ mapPlaces x y z width height, env.ShortNames place)
  (fits : Fits out.msg
    (descriptionBytes env out.knownCreatureList (mapPlaces x y z width height))) :
  (getMapDescription env x y z width height out).msg.body =
    out.msg.body ++
      descriptionBytes env out.knownCreatureList (mapPlaces x y z width height) := by
  have start : Cursor.InBounds { out := out, skip := -1 } :=
    ⟨Int.le_refl (-1), show (-1 : Int) < 255 by decide⟩
  rw [getMapDescription_eq]
  exact describePlaces_eq short start fits

end Cells

end Layout

end OTServ.View.Description
