import OTServ.Library.ByteStreams
import OTServ.View.Places

/-!
# The bytes of a map description

`GetMapDescription` writes the things of the tiles in view into a network
message: of each tile the first ten, ground and top items before the creatures,
the other items behind them.  Tiles that are missing are counted and skipped.

A message has room for `NETWORKMESSAGE_MAXSIZE` bytes.  What does not fit is left
out without notice, and so are names of more than 8192 bytes.
-/

namespace OTServ.View.Description

open Library.ByteStreams
open OTServ.Map
open Protocol.KnownCreatures
open List

/-- The bytes written behind the four which are left for the headers. -/
structure NetworkMessage where
  body : Stream

namespace NetworkMessage

variable (msg : NetworkMessage)

/-- `NETWORKMESSAGE_MAXSIZE` -/
def maxSize : Nat := 16768

/-- `m_ReadPos` -/
def readPos : Nat := 4 + msg.body.length

def canAdd (size : Nat) : Bool :=
  decide (size + msg.readPos < maxSize - 16)

/-- Bytes of a number or a text, for which there has to be room. -/
def add (bytes : Stream) : NetworkMessage :=
  if msg.canAdd bytes.length then ⟨msg.body ++ bytes⟩ else msg

def addByte (value : UInt8) : NetworkMessage :=
  msg.add (littleEndian 1 value.toNat)

def addU16 (value : UInt16) : NetworkMessage :=
  msg.add (littleEndian 2 value.toNat)

def addU32 (value : UInt32) : NetworkMessage :=
  msg.add (littleEndian 4 value.toNat)

end NetworkMessage

/-- A text up to its first zero, as `strlen` and `strcpy` take it. -/
def cString (value : Stream) : Stream :=
  value.takeWhile (· ≠ 0)

/-- `NetworkMessage::AddString` -/
def NetworkMessage.addString (msg : NetworkMessage) (value : Stream) : NetworkMessage :=
  let stringlen := (cString value).length
  if ¬ msg.canAdd (stringlen + 2) ∨ 8192 < stringlen then
    msg
  else
    ⟨(msg.addU16 (UInt16.ofNat stringlen)).body ++ cString value⟩

/-- The part of `ItemType` which is sent or tells what is sent. -/
structure ItemType where
  clientId : UInt16
  stackable : Bool
  isSplash : Bool
  isFluidContainer : Bool
  charges : UInt32

def ItemType.counted (it : ItemType) : Bool :=
  it.stackable || it.isSplash || it.isFluidContainer

structure Item where
  id : UInt16
  count : UInt8
  fluidType : UInt16
  charges : UInt16

/-- `Item::getSubType` -/
def Item.getSubType (item : Item) (it : ItemType) : UInt16 :=
  if it.isFluidContainer || it.isSplash then item.fluidType
  else if it.charges ≠ 0 then item.charges
  else item.count.toUInt16

structure Outfit where
  lookType : UInt32
  lookTypeEx : UInt32
  lookHead : UInt32
  lookBody : UInt32
  lookLegs : UInt32
  lookFeet : UInt32

structure Creature extends Protocol.KnownCreatures.Creature where
  name : Stream
  health : Int32
  maxHealth : Int32
  direction : UInt8
  isInvisible : Bool
  currentOutfit : Outfit
  lightLevel : UInt32
  lightColor : UInt32
  stepSpeed : Int32

structure Tile where
  ground : Option Item
  topItems : List Item
  creatures : List Creature
  downItems : List Item

/-- What the connection of a player reads while it describes the map. -/
structure Env where
  /-- the creatures in the game and the place of the player -/
  scene : Scene
  canSeeInvisibility : Bool
  getSkullClient : Creature → UInt8
  getPartyShield : Creature → UInt8
  /-- a hundred times the health by the greatest health, rounded up -/
  healthPercent : Int32 → Int32 → Int32
  /-- what `removedKnown` holds before `checkCreatureAsKnown` -/
  uninitialised : UInt32
  items : UInt16 → ItemType
  getTile : UInt16 → UInt16 → UInt16 → Option Tile

/-- The message and the list of known creatures, which both change. -/
structure Output where
  msg : NetworkMessage
  knownCreatureList : List UInt32

section Describing

variable (env : Env)

/-- `NetworkMessage::AddItem` -/
def addItem (item : Item) (msg : NetworkMessage) : NetworkMessage :=
  let it := env.items item.id
  let msg := msg.addU16 it.clientId
  if it.counted then msg.addByte (item.getSubType it).toUInt8 else msg

/-- `NetworkMessage::AddItemId` -/
def addItemId (itemId : UInt16) (msg : NetworkMessage) : NetworkMessage :=
  msg.addU16 (env.items itemId).clientId

/-- `ProtocolGame::AddCreatureOutfit` -/
def addCreatureOutfit (outfit : Outfit) (msg : NetworkMessage) : NetworkMessage :=
  let msg := msg.addByte outfit.lookType.toUInt8
  if outfit.lookType ≠ 0 then
    (((msg.addByte outfit.lookHead.toUInt8).addByte
      outfit.lookBody.toUInt8).addByte outfit.lookLegs.toUInt8).addByte outfit.lookFeet.toUInt8
  else
    addItemId env outfit.lookTypeEx.toUInt16 msg

/-- `ProtocolGame::AddCreatureInvisible` -/
def addCreatureInvisible (creature : Creature) (msg : NetworkMessage) : NetworkMessage :=
  if env.canSeeInvisibility then
    addCreatureOutfit env creature.currentOutfit msg
  else
    (msg.addByte 0).addU16 0

def healthByte (creature : Creature) : UInt8 :=
  let maxHealth := if creature.maxHealth < 1 then 1 else creature.maxHealth
  (env.healthPercent creature.health maxHealth).toUInt32.toUInt8

/-- `ProtocolGame::AddCreature` -/
def addCreature (creature : Creature) (known : Bool) (remove : UInt32) (msg : NetworkMessage) :
  NetworkMessage :=
  let msg :=
    if known then
      (msg.addU16 0x62).addU32 creature.id
    else
      (((msg.addU16 0x61).addU32 remove).addU32 creature.id).addString creature.name
  let msg := msg.addByte (healthByte env creature)
  let msg := msg.addByte creature.direction
  let msg :=
    if ¬ creature.isInvisible then
      addCreatureOutfit env creature.currentOutfit msg
    else
      addCreatureInvisible env creature msg
  let msg := msg.addByte creature.lightLevel.toUInt8
  let msg := msg.addByte creature.lightColor.toUInt8
  let msg := msg.addU16 creature.stepSpeed.toUInt32.toUInt16
  let msg := msg.addByte (env.getSkullClient creature)
  msg.addByte (env.getPartyShield creature)

def describeItem (item : Item) (out : Output) : Output :=
  { out with msg := addItem env item out.msg }

/-- A creature of a tile, which the client knows from now on. -/
def describeCreature (creature : Creature) (out : Output) : Output :=
  let answer := checkCreatureAsKnown env.scene out.knownCreatureList creature.id env.uninitialised
  { msg := addCreature env creature answer.known answer.removedKnown out.msg
    knownCreatureList := answer.knownCreatureList }

/-- The loops of `GetTileDescription`, which go on while `count` is below ten. -/
def describeWhile {α : Type} (describe : α → Output → Output) :
  List α → Nat → Output → Output × Nat
  | [], count, out => (out, count)
  | thing :: things, count, out =>
    if count < 10 then
      describeWhile describe things (count + 1) (describe thing out)
    else
      (out, count)

/-- `ProtocolGame::GetTileDescription` -/
def getTileDescription (tile : Tile) (out : Output) : Output :=
  let (out, count) :=
    match tile.ground with
    | some ground => (describeItem env ground out, 1)
    | none => (out, 0)
  let (out, count) := describeWhile (describeItem env) tile.topItems count out
  let (out, count) := describeWhile (describeCreature env) tile.creatures count out
  (describeWhile (describeItem env) tile.downItems count out).1

structure Cursor where
  out : Output
  skip : Int

/-- The pair which ends a tile and skips the missing ones behind it. -/
def addSkip (skip : Int) (msg : NetworkMessage) : NetworkMessage :=
  (msg.addByte (UInt8.ofNat skip.toNat)).addByte 0xFF

def flushSkip (cursor : Cursor) : Output :=
  if 0 ≤ cursor.skip then
    { cursor.out with msg := addSkip cursor.skip cursor.out.msg }
  else
    cursor.out

/-- The tile of a place; the coordinates are passed as `uint16_t`. -/
def Env.tileAt (place : Place) : Option Tile :=
  env.getTile (UInt16.ofInt place.x) (UInt16.ofInt place.y) (UInt16.ofInt place.z)

/-- The inner loop of `GetFloorDescription`. -/
def describePlace (cursor : Cursor) (place : Place) : Cursor :=
  match env.tileAt place with
  | some tile =>
    { out := getTileDescription env tile (flushSkip cursor), skip := 0 }
  | none =>
    let skip := cursor.skip + 1
    if skip = 0xFF then
      { out :=
          { cursor.out with msg := (cursor.out.msg.addByte 0xFF).addByte 0xFF }
        skip := -1 }
    else
      { cursor with skip := skip }

/-- `ProtocolGame::GetFloorDescription` -/
def getFloorDescription (x y z : Int) (width height : Nat) (offset : Int) (cursor : Cursor) :
  Cursor :=
  (List.range width).foldl
    (fun cursor (nx : Nat) =>
      (List.range height).foldl
        (fun cursor (ny : Nat) => describePlace env cursor ⟨x + nx + offset, y + ny + offset, z⟩)
        cursor)
    cursor

/-- `ProtocolGame::GetMapDescription` -/
def getMapDescription (x y : Int) (z : Nat) (width height : Nat) (out : Output) : Output :=
  flushSkip
    ((descriptionFloors z).foldl
      (fun cursor (nz : Nat) =>
        getFloorDescription env (uint16 x) (uint16 y) nz width height ((z : Int) - nz) cursor)
      { out := out, skip := -1 })

/-- The description which `AddMapDescription` writes for the place of the player. -/
def describeView (out : Output) : Output :=
  let pos := env.scene.myPos
  getMapDescription env (pos.x.toNat - 8) (pos.y.toNat - 6) pos.z.toNat 18 14 out

/-! ## The order of the things -/

inductive Thing where
  | item (item : Item)
  | creature (creature : Creature)

def Tile.things (tile : Tile) : List Thing :=
  tile.ground.toList.map .item ++ tile.topItems.map .item ++
    tile.creatures.map .creature ++ tile.downItems.map .item

def Tile.firstTen (tile : Tile) : List Thing :=
  tile.things.take 10

def describeThing (out : Output) : Thing → Output
  | .item item => describeItem env item out
  | .creature creature => describeCreature env creature out

lemma describeWhile_eq {α : Type} (describe : α → Output → Output) (thing : α → Thing)
  (same : ∀ a out, describe a out = describeThing env out (thing a)) (things : List α)
  (count : Nat) (out : Output) :
  describeWhile describe things count out =
    (((things.map thing).take (10 - count)).foldl (describeThing env) out,
      count + ((things.map thing).take (10 - count)).length) := by
  induction things generalizing count out with
  | nil => simp [describeWhile]
  | cons first things ih =>
    rw [describeWhile]
    split
    · rename_i more
      have one : 10 - count = (10 - (count + 1)) + 1 := by omega
      rw [ih, one, map_cons, take_succ_cons, foldl_cons, length_cons, same]
      simp only [Prod.mk.injEq, true_and]
      omega
    · rename_i enough
      have none_left : 10 - count = 0 := by omega
      rw [none_left]
      rfl

lemma take_append_count {α : Type} (first others : List α) (count : Nat) :
  (first ++ others).take (10 - count) =
    first.take (10 - count) ++
      others.take (10 - (count + (first.take (10 - count)).length)) := by
  rw [take_append, length_take]
  congr 2
  omega

lemma getTileDescription_eq (tile : Tile) (out : Output) :
  getTileDescription env tile out = tile.firstTen.foldl (describeThing env) out := by
  have items :
      ∀ (item : Item) (out : Output),
        describeItem env item out = describeThing env out (.item item) :=
    fun _ _ => rfl
  have creatures :
      ∀ (creature : Creature) (out : Output),
        describeCreature env creature out = describeThing env out (.creature creature) :=
    fun _ _ => rfl
  have ground :
      (match tile.ground with
        | some ground => (describeItem env ground out, 1)
        | none => (out, 0)) =
        ((tile.ground.toList.map Thing.item).foldl (describeThing env) out,
          (tile.ground.toList.map Thing.item).length) := by
    cases tile.ground with
    | none => rfl
    | some ground => rfl
  have one : (tile.ground.toList.map Thing.item).take 10 = tile.ground.toList.map Thing.item := by
    cases tile.ground with
    | none => rfl
    | some ground => rfl
  have parts := take_append_count
    (tile.ground.toList.map Thing.item)
    (tile.topItems.map .item ++ (tile.creatures.map .creature ++ tile.downItems.map .item)) 0
  rw [Nat.sub_zero, one, Nat.zero_add, take_append_count, take_append_count] at parts
  rw [Tile.firstTen, Tile.things, append_assoc, append_assoc, parts, getTileDescription, ground]
  simp only [describeWhile_eq env _ _ items, describeWhile_eq env _ _ creatures, foldl_append]

lemma getFloorDescription_eq
  (x y z : Int) (width height : Nat) (offset : Int) (cursor : Cursor) :
  getFloorDescription env x y z width height offset cursor =
    (floorPlaces x y z width height offset).foldl (describePlace env) cursor := by
  rw [getFloorDescription, floorPlaces, foldl_flatMap]
  simp only [foldl_map]

lemma getMapDescription_eq (x y : Int) (z : Nat) (width height : Nat) (out : Output) :
  getMapDescription env x y z width height out =
    flushSkip
      ((mapPlaces x y z width height).foldl (describePlace env) { out := out, skip := -1 }) := by
  rw [getMapDescription, mapPlaces, foldl_flatMap]
  simp only [getFloorDescription_eq]

end Describing

end OTServ.View.Description
