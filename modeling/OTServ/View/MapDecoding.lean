import OTServ.View.DescriptionLayout
import OTServ.View.Visibility

/-!
# Reading a map description

The client takes the description apart again.  It goes over the places in the
order of the floors and columns, and knows from its own table of items which
client ids have a byte for the subtype.

A description that fits the message shows each position in view exactly once, with
the first ten things of its tile; nothing of the bytes is left over.
-/

namespace OTServ.View.Description

open Library.ByteStreams
open Library.SkipRuns
open OTServ.Map
open Protocol.KnownCreatures
open List

inductive Look where
  | outfit (lookType head body legs feet : Nat)
  | item (clientId : Nat)
deriving DecidableEq

structure Appearance where
  id : Nat
  health : Nat
  direction : Nat
  look : Look
  lightLevel : Nat
  lightColor : Nat
  stepSpeed : Nat
  skull : Nat
  shield : Nat
deriving DecidableEq

/-- A thing as the client sees it; a new creature comes with its name. -/
inductive Seen where
  | item (clientId : Nat) (count : Option Nat)
  | creature (introduced : Option (Nat × Stream)) (appearance : Appearance)
deriving DecidableEq

/-- The items the client knows: which of them have a byte for the subtype. -/
structure Client where
  counted : Nat → Bool

def readLook : Reader Look :=
  (number 1).andThen fun lookType =>
    if lookType ≠ 0 then
      (number 1).andThen fun head =>
        (number 1).andThen fun body =>
          (number 1).andThen fun legs =>
            (number 1).map fun feet => .outfit lookType head body legs feet
    else
      (number 2).map .item

def readAppearance (id : Nat) : Reader Appearance :=
  (number 1).andThen fun health =>
    (number 1).andThen fun direction =>
      readLook.andThen fun look =>
        (number 1).andThen fun lightLevel =>
          (number 1).andThen fun lightColor =>
            (number 2).andThen fun stepSpeed =>
              (number 1).andThen fun skull =>
                (number 1).map fun shield =>
                  ⟨id, health, direction, look, lightLevel, lightColor, stepSpeed, skull, shield⟩

def readNewCreature : Reader Seen :=
  (number 4).andThen fun remove =>
    (number 4).andThen fun id =>
      (prefixed 2).andThen fun name => (readAppearance id).map (.creature (some (remove, name)))

def readKnownCreature : Reader Seen :=
  (number 4).andThen fun id => (readAppearance id).map (.creature none)

section Reading

variable (client : Client)

def Client.readItem (clientId : Nat) : Reader Seen :=
  if client.counted clientId then
    (number 1).map fun count => .item clientId (some count)
  else
    Reader.give (.item clientId none)

def Client.readRest (head : Nat) : Reader Seen :=
  if head = 0x61 then readNewCreature
  else if head = 0x62 then readKnownCreature
  else client.readItem head

def Client.readThing : Reader Seen :=
  (number 2).andThen client.readRest

/-- The places of a full description, as the client goes over them. -/
def viewPlaces (myPos : Position) : List Place :=
  mapPlaces (myPos.x.toNat - 8) (myPos.y.toNat - 6) myPos.z.toNat 18 14

/-- The things of every place, and what is left of the bytes. -/
def Client.decodeMap (myPos : Position) (bytes : Stream) :
  Option (List (Place × List Seen) × Stream) :=
  (decode client.readThing (viewPlaces myPos).length 0 bytes).map fun read =>
    ((viewPlaces myPos).zip read.1, read.2)

end Reading

variable {places : List Place} {place : Place} {creature : Creature} {client : Client}
  {item : Item} {thing : Thing}

section Seeing

variable (env : Env)

def Env.lookOf (creature : Creature) : Look :=
  let outfit := creature.currentOutfit
  if env.showsOutfit creature then
    if outfit.lookType ≠ 0 then
      .outfit outfit.lookType.toUInt8.toNat outfit.lookHead.toUInt8.toNat
        outfit.lookBody.toUInt8.toNat outfit.lookLegs.toUInt8.toNat
        outfit.lookFeet.toUInt8.toNat
    else
      .item (env.items outfit.lookTypeEx.toUInt16).clientId.toNat
  else
    .item 0

def Env.appearance (creature : Creature) : Appearance where
  id := creature.id.toNat
  health := (healthByte env creature).toNat
  direction := creature.direction.toNat
  look := env.lookOf creature
  lightLevel := creature.lightLevel.toUInt8.toNat
  lightColor := creature.lightColor.toUInt8.toNat
  stepSpeed := creature.stepSpeed.toUInt32.toUInt16.toNat
  skull := (env.getSkullClient creature).toNat
  shield := (env.getPartyShield creature).toNat

def Env.seenItem (item : Item) : Seen :=
  let it := env.items item.id
  .item it.clientId.toNat (if it.counted then some (item.getSubType it).toUInt8.toNat else none)

inductive Env.Shows : Thing → Seen → Prop
  | item (item : Item) : Env.Shows (.item item) (env.seenItem item)
  | known (creature : Creature) :
      Env.Shows (.creature creature) (.creature none (env.appearance creature))
  | new (creature : Creature) (remove : Nat) :
      Env.Shows (.creature creature)
        (.creature (some (remove, cString creature.name)) (env.appearance creature))

/-- A thing as it is described while these creatures are known. -/
def Env.seen (known : List UInt32) : Thing → Seen
  | .item item => env.seenItem item
  | .creature creature =>
    let answer := env.answer known creature
    .creature
      (if answer.known then none
        else some (answer.removedKnown.toNat, cString creature.name))
      (env.appearance creature)

variable (known : List UInt32)

lemma Env.shows_seen (thing : Thing) : env.Shows thing (env.seen known thing) := by
  cases thing with
  | item item => exact .item item
  | creature creature =>
    rw [Env.seen]
    split
    · exact .known creature
    · exact .new creature _

/-- The client can tell an item of this type from creatures and pairs. -/
def Client.Tells (client : Client) (it : ItemType) : Prop :=
  it.clientId.toNat < 0xFF00 ∧
    it.clientId.toNat ≠ 0x61 ∧ it.clientId.toNat ≠ 0x62 ∧
      client.counted it.clientId.toNat = it.counted

def Env.WholeOutfit (creature : Creature) : Prop :=
  env.showsOutfit creature = true →
    creature.currentOutfit.lookType = 0 ∨ creature.currentOutfit.lookType.toUInt8 ≠ 0

def Env.Readable (client : Client) : Thing → Prop
  | .item item => client.Tells (env.items item.id)
  | .creature creature => env.WholeOutfit creature

/-! ## Things are read back -/

lemma byte_reads (value : UInt8) : Reads (number 1) (littleEndian 1 value.toNat) value.toNat :=
  number_reads value.toNat_lt

lemma word_reads (value : UInt16) : Reads (number 2) (littleEndian 2 value.toNat) value.toNat :=
  number_reads value.toNat_lt

lemma dword_reads (value : UInt32) : Reads (number 4) (littleEndian 4 value.toNat) value.toNat :=
  number_reads value.toNat_lt

/-- The things of a tile as they are described one after the other. -/
def Env.seenAll : List UInt32 → List Thing → List Seen
  | _, [] => []
  | known, thing :: things =>
    env.seen known thing :: Env.seenAll (afterThing env known thing) things

def Env.thingsAt (place : Place) : List Thing :=
  match env.tileAt place with
  | some tile => tile.firstTen
  | none => []

def Env.seenPlaces : List UInt32 → List Place → List (List Seen)
  | _, [] => []
  | known, place :: places =>
    env.seenAll known (env.thingsAt place) :: Env.seenPlaces (afterPlace env known place) places

lemma Env.shows_seenAll (things : List Thing) :
  List.Forall₂ env.Shows things (env.seenAll known things) := by
  induction things generalizing known with
  | nil => exact .nil
  | cons thing things ih => exact .cons (env.shows_seen known thing) (ih _)

lemma Env.seenPlaces_length (places : List Place) :
  (env.seenPlaces known places).length = places.length := by
  induction places generalizing known with
  | nil => rfl
  | cons place places ih =>
    rw [Env.seenPlaces, length_cons, length_cons, ih]

lemma Env.shows_seenPlaces {known : List UInt32} {things : List Seen}
  (shown : (place, things) ∈ places.zip (env.seenPlaces known places)) :
  List.Forall₂ env.Shows (env.thingsAt place) things := by
  induction places generalizing known with
  | nil => cases shown
  | cons first places ih =>
    rcases mem_cons.mp shown with here | later
    · cases here
      exact env.shows_seenAll known _
    · exact ih later

variable {env}

lemma look_reads (whole : env.WholeOutfit creature) :
  Reads readLook (lookBytes env creature) (env.lookOf creature) := by
  unfold lookBytes Env.lookOf
  by_cases shown : env.showsOutfit creature = true
  · rw [if_pos shown, outfitBytes]
    rw [if_pos shown]
    by_cases type : creature.currentOutfit.lookType = 0
    · have zero : creature.currentOutfit.lookType.toUInt8.toNat = 0 := by
        rw [type]
        rfl
      rw [if_neg (not_not.mpr type), if_neg (not_not.mpr type)]
      refine (byte_reads _).andThen ?_
      rw [zero]
      exact (word_reads _).map Look.item
    · have named : creature.currentOutfit.lookType.toUInt8.toNat ≠ 0 := by
        intro zero
        rcases whole shown with none_at_all | byte
        · exact type none_at_all
        · exact byte (UInt8.toNat_inj.mp zero)
      rw [if_pos type, if_pos type]
      refine (byte_reads _).andThen ?_
      rw [if_pos named]
      refine (byte_reads _).andThen ((byte_reads _).andThen ((byte_reads _).andThen ?_))
      exact (byte_reads _).map _
  · rw [if_neg shown, if_neg shown]
    exact (byte_reads 0).andThen ((word_reads 0).map Look.item)

/-- Everything of a creature behind its introduction. -/
lemma appearance_reads (whole : env.WholeOutfit creature) :
  Reads (readAppearance creature.id.toNat)
    (littleEndian 1 (healthByte env creature).toNat ++
      (littleEndian 1 creature.direction.toNat ++
        (lookBytes env creature ++
          (littleEndian 1 creature.lightLevel.toUInt8.toNat ++
            (littleEndian 1 creature.lightColor.toUInt8.toNat ++
              (littleEndian 2 creature.stepSpeed.toUInt32.toUInt16.toNat ++
                (littleEndian 1 (env.getSkullClient creature).toNat ++
                  littleEndian 1 (env.getPartyShield creature).toNat)))))))
    (env.appearance creature) := by
  refine (byte_reads _).andThen ((byte_reads _).andThen ((look_reads whole).andThen ?_))
  refine (byte_reads _).andThen ((byte_reads _).andThen
    ((word_reads _).andThen ((byte_reads _).andThen ?_)))
  exact (byte_reads _).map _

lemma name_reads {name : Stream} (short : (cString name).length ≤ 8192) :
  Reads (prefixed 2) (nameBytes name) (cString name) :=
  prefixed_reads (by
    omega)

lemma creature_reads (client : Client) (whole : env.WholeOutfit creature)
  (short : (cString creature.name).length ≤ 8192) (known : Bool) (remove : UInt32) :
  Reads client.readThing (creatureBytes env creature known remove)
    (.creature
      (if known then none else some (remove.toNat, cString creature.name))
      (env.appearance creature)) := by
  have appearance := appearance_reads whole
  cases known with
  | true =>
    simp only [creatureBytes, introductionBytes, if_true, append_assoc]
    exact (word_reads 0x62).andThen ((dword_reads creature.id).andThen (appearance.map _))
  | false =>
    simp only [creatureBytes, introductionBytes, Bool.false_eq_true, if_false, append_assoc]
    exact (word_reads 0x61).andThen
      ((dword_reads remove).andThen ((dword_reads creature.id).andThen
        ((name_reads short).andThen (appearance.map _))))

lemma item_reads (tells : client.Tells (env.items item.id)) :
  Reads client.readThing (itemBytes env item) (env.seenItem item) := by
  rcases tells with ⟨_, not_new, not_known, counted⟩
  refine (word_reads _).andThen ?_
  rw [Client.readRest, if_neg not_new, if_neg not_known, Client.readItem, counted]
  by_cases more : (env.items item.id).counted = true
  · rw [if_pos more, if_pos more, Env.seenItem, if_pos more]
    exact (byte_reads _).map fun count => Seen.item _ (some count)
  · rw [if_neg more, if_neg more, Env.seenItem, if_neg more]
    exact give_reads _

lemma atPair_word (value : UInt16) :
  AtPair (littleEndian 2 value.toNat) ↔ 0xFF00 ≤ value.toNat := by
  have small := value.toNat_lt
  have second : (littleEndian 2 value.toNat)[1]? = some (UInt8.ofNat (value.toNat / 256)) := rfl
  rw [AtPair, second, Option.some.injEq, ← UInt8.toNat_inj, UInt8.toNat_ofNat']
  have full : (0xFF : UInt8).toNat = 0xFF := rfl
  omega

lemma item_apart (tells : client.Tells (env.items item.id)) : ¬ AtPair (itemBytes env item) := by
  rw [itemBytes, atPair_append (by rw [littleEndian_length]), atPair_word]
  exact Nat.not_le.mpr tells.1

lemma introductionBytes_apart (creature : Creature) (known : Bool) (remove : UInt32) :
  2 ≤ (introductionBytes creature known remove).length ∧
    ¬ AtPair (introductionBytes creature known remove) := by
  cases known with
  | true | false =>
    constructor
    · simp [introductionBytes]
    · exact show ¬ (some (0 : UInt8) = some 0xFF) by decide

lemma creatureBytes_apart (creature : Creature) (known : Bool) (remove : UInt32) :
  2 ≤ (creatureBytes env creature known remove).length ∧
    ¬ AtPair (creatureBytes env creature known remove) := by
  have ⟨long, apart⟩ := introductionBytes_apart creature known remove
  unfold creatureBytes
  simp only [append_assoc]
  constructor
  · rw [length_append]
    omega
  · rw [atPair_append long]
    exact apart

lemma thing_spelt
  (readable : env.Readable client thing) (short : thing.ShortName) (known : List UInt32) :
  Spelt client.readThing (thingBytes env known thing) [env.seen known thing] := by
  cases thing with
  | item item =>
    have long : 2 ≤ (itemBytes env item).length := by
      simp [itemBytes]
    exact Spelt.one (item_reads readable) long (item_apart readable)
  | creature creature =>
    have ⟨long, apart⟩ :
        2 ≤ (thingBytes env known (.creature creature)).length ∧
          ¬ AtPair (thingBytes env known (.creature creature)) :=
      creatureBytes_apart creature (env.answer known creature).known
        (env.answer known creature).removedKnown
    exact Spelt.one (creature_reads client readable short _ _) long apart

lemma things_spelt {things : List Thing}
  (readable : ∀ thing ∈ things, env.Readable client thing ∧ thing.ShortName)
  (known : List UInt32) :
  Spelt client.readThing (thingsBytes env known things) (env.seenAll known things) := by
  induction things generalizing known with
  | nil => exact .nil
  | cons thing things ih =>
    have ⟨first, short⟩ := readable thing mem_cons_self
    exact (thing_spelt first short known).append
      (ih (fun other later => readable other (mem_cons_of_mem _ later)) _)

lemma cells_show
  (readable :
    ∀ place ∈ places, ∀ thing ∈ env.thingsAt place, env.Readable client thing ∧ thing.ShortName)
  (known : List UInt32) :
  List.Forall₂ (Shows client.readThing)
    (cellsBytes env known places) (env.seenPlaces known places) := by
  induction places generalizing known with
  | nil => exact .nil
  | cons place places ih =>
    refine .cons ?_ (ih (fun other later => readable other (mem_cons_of_mem _ later)) _)
    have here := things_spelt (readable place mem_cons_self) known
    unfold cellBytes
    unfold Env.thingsAt at here ⊢
    cases there : env.tileAt place with
    | some tile =>
      rw [there] at here
      exact here
    | none => exact .nil

end Seeing

lemma nodup_floorPlaces (x y z : Int) (width height : Nat) (offset : Int) :
  (floorPlaces x y z width height offset).Nodup := by
  rw [floorPlaces, nodup_flatMap]
  constructor
  · intro nx _
    refine nodup_range.map ?_
    intro first second same
    have rows := congrArg Place.y same
    simp only at rows
    omega
  · refine nodup_range.imp ?_
    intro first second apart place inFirst inSecond
    rw [mem_map] at inFirst inSecond
    rcases inFirst with ⟨_, _, rfl⟩
    rcases inSecond with ⟨_, _, same⟩
    have columns := congrArg Place.x same
    simp only at columns
    omega

lemma nodup_descriptionFloors (z : Nat) : (descriptionFloors z).Nodup := by
  rw [descriptionFloors]
  split
  · exact nodup_range'
  · exact nodup_reverse.mpr nodup_range

lemma nodup_mapPlaces
  (x y : Int) (z width height : Nat) : (mapPlaces x y z width height).Nodup := by
  rw [mapPlaces, nodup_flatMap]
  constructor
  · intro nz _
    exact nodup_floorPlaces _ _ _ _ _ _
  · refine (nodup_descriptionFloors z).imp ?_
    intro first second apart place inFirst inSecond
    rw [mem_floorPlaces] at inFirst inSecond
    have level := inFirst.1.symm.trans inSecond.1
    exact apart (Int.ofNat.inj level)

lemma exists_position (column : 0 ≤ place.x ∧ place.x < 65536)
  (row : 0 ≤ place.y ∧ place.y < 65536) (floor : 0 ≤ place.z ∧ place.z < 16) :
  ∃ pos : Position, pos.z.toNat < 16 ∧ Place.of pos = place := by
  refine ⟨⟨UInt16.ofNat place.x.toNat, UInt16.ofNat place.y.toNat,
    UInt16.ofNat place.z.toNat⟩, ?_, ?_⟩
  · simp only
    rw [UInt16.toNat_ofNat']
    omega
  · ext
    · simp only [Place.of, UInt16.toNat_ofNat']
      omega
    · simp only [Place.of, UInt16.toNat_ofNat']
      omega
    · simp only [Place.of, UInt16.toNat_ofNat']
      omega

lemma tileAt_of (env : Env) (pos : Position) :
  env.tileAt (Place.of pos) = env.getTile pos.x pos.y pos.z := by
  have back (value : UInt16) : UInt16.ofInt (value.toNat : Int) = value := by
    have small := value.toNat_lt
    have inRange : ((value.toNat : Int) % 2 ^ 16).toNat = value.toNat := by
      omega
    rw [UInt16.ofInt, inRange, UInt16.ofNat_toNat]
  rw [Env.tileAt, Place.of]
  simp only [back]

/-! ## The description comes back -/

section Decoding

variable (env : Env) (client : Client) (out : Output)

def Env.InView (thing : Thing) : Prop :=
  ∃ place ∈ viewPlaces env.scene.myPos, thing ∈ env.thingsAt place

def Env.ItemsTold : Prop :=
  ∀ item, env.InView (.item item) → client.Tells (env.items item.id)

/-- The names of the creatures in view are short enough for `AddString`. -/
def Env.NamesShort : Prop :=
  ∀ creature, env.InView (.creature creature) → (cString creature.name).length ≤ 8192

/-- The outfits of the creatures in view show in the byte for the outfit. -/
def Env.OutfitsWhole : Prop :=
  ∀ creature, env.InView (.creature creature) → env.WholeOutfit creature

/--
The bytes of the description are read without a rest.  They show the positions in
view and no others, each once, and for each the first ten things of its tile.
-/
def Decodable : Prop :=
  ∃ (bytes : Stream) (shown : List (Place × List Seen)),
    (describeView env out).msg.body = out.msg.body ++ bytes ∧
      client.decodeMap env.scene.myPos bytes = some (shown, []) ∧
        (shown.map Prod.fst).Nodup ∧
          (∀ place ∈ shown.map Prod.fst,
            ∃ pos : Position, pos.z.toNat < 16 ∧ Place.of pos = place) ∧
          (∀ pos : Position, pos.z.toNat < 16 →
            (Place.of pos ∈ shown.map Prod.fst ↔ ProtocolGame.canSee env.scene.myPos pos = true)) ∧
          ∀ (pos : Position) (things : List Seen),
            (Place.of pos, things) ∈ shown →
              List.Forall₂ env.Shows
                (((env.getTile pos.x pos.y pos.z).map Tile.firstTen).getD [])
                things

variable {env client out}

lemma thingsAt_of (env : Env) (pos : Position) :
  env.thingsAt (Place.of pos) = ((env.getTile pos.x pos.y pos.z).map Tile.firstTen).getD [] := by
  rw [Env.thingsAt, tileAt_of]
  cases env.getTile pos.x pos.y pos.z with
  | some tile => rfl
  | none => rfl

lemma mem_viewPlaces
  {myPos : Position} (floor : myPos.z.toNat < 16) (inside : ViewInside myPos) :
  place ∈ viewPlaces myPos ↔ canSeePlace myPos place = true ∧ 0 ≤ place.z ∧ place.z < 16 :=
  mem_mapPlaces_full floor inside

lemma describeView_writes (short : ∀ place ∈ viewPlaces env.scene.myPos, env.ShortNames place)
  (fits : Fits out.msg
    (descriptionBytes env out.knownCreatureList (viewPlaces env.scene.myPos))) :
  (describeView env out).msg.body =
    out.msg.body ++ descriptionBytes env out.knownCreatureList (viewPlaces env.scene.myPos) :=
  getMapDescription_writes short fits

/--
The view stays in the coordinate range, the items can be told apart, and the
description fits into the message: then it comes back.
-/
theorem map_description_decodable (env : Env) (client : Client) (out : Output)
  (floor : env.scene.myPos.z.toNat < 16) (inside : ViewInside env.scene.myPos)
  (told : env.ItemsTold client) (short : env.NamesShort) (whole : env.OutfitsWhole)
  (fits : Fits out.msg
    (descriptionBytes env out.knownCreatureList (viewPlaces env.scene.myPos))) :
  Decodable env client out := by
  have readable :
      ∀ place ∈ viewPlaces env.scene.myPos, ∀ thing ∈ env.thingsAt place,
        env.Readable client thing ∧ thing.ShortName := by
    intro place inView thing there
    cases thing with
    | item item => exact ⟨told item ⟨place, inView, there⟩, trivial⟩
    | creature creature =>
      exact ⟨whole creature ⟨place, inView, there⟩, short creature ⟨place, inView, there⟩⟩
  have names : ∀ place ∈ viewPlaces env.scene.myPos, env.ShortNames place := by
    intro place inView tile there thing member
    have here : thing ∈ env.thingsAt place := by
      rw [Env.thingsAt, there]
      exact member
    exact (readable place inView thing here).2
  have length := env.seenPlaces_length out.knownCreatureList (viewPlaces env.scene.myPos)
  have back := decode_encode (cells_show readable out.knownCreatureList) []
  rw [length, append_nil] at back
  have keys :
      ((viewPlaces env.scene.myPos).zip
        (env.seenPlaces out.knownCreatureList (viewPlaces env.scene.myPos))).map Prod.fst =
        viewPlaces env.scene.myPos :=
    map_fst_zip (Nat.le_of_eq length.symm)
  refine ⟨descriptionBytes env out.knownCreatureList
      (viewPlaces env.scene.myPos),
    (viewPlaces env.scene.myPos).zip
      (env.seenPlaces out.knownCreatureList (viewPlaces env.scene.myPos)),
    describeView_writes names fits, ?_, ?_, ?_, ?_, ?_⟩
  · rw [Client.decodeMap, descriptionBytes, back]
    rfl
  · rw [keys]
    exact nodup_mapPlaces _ _ _ _ _
  · rw [keys]
    intro place inView
    have ⟨seen, low, high⟩ := (mem_viewPlaces floor inside).mp inView
    have ⟨column, row⟩ := inside place low high seen
    exact exists_position column row ⟨low, high⟩
  · intro pos level
    rw [keys, mem_viewPlaces floor inside]
    constructor
    · intro seen
      exact seen.1
    · intro seen
      exact ⟨seen, Int.natCast_nonneg _, Int.ofNat_lt.mpr level⟩
  · intro pos things shown
    rw [← thingsAt_of]
    exact env.shows_seenPlaces shown

/-! ## Inside the buffer and outside -/

def frog : Creature where
  id := 0x40000001
  isRemoved := false
  position := ⟨101, 99, 7⟩
  id_ne_zero := by decide
  name := [70, 114, 111, 103]
  health := 40
  maxHealth := 60
  direction := 2
  isInvisible := false
  currentOutfit := ⟨224, 0, 69, 66, 69, 66⟩
  lightLevel := 0
  lightColor := 0
  stepSpeed := 220

/-- A creature and some coins under a tree, and nothing else far and wide. -/
def clearing (creature : Creature) : Env where
  scene := ⟨fun _ => none, ⟨100, 100, 7⟩⟩
  canSeeInvisibility := false
  getSkullClient := fun _ => 0
  getPartyShield := fun _ => 0
  healthPercent := fun health maxHealth => (health * 100 + maxHealth - 1) / maxHealth
  uninitialised := 0
  items := fun id => ⟨100 + id, id = 2, false, false, 0⟩
  getTile := fun x y z =>
    if x = 101 ∧ y = 99 ∧ z = 7 then
      some ⟨some ⟨0, 1, 0, 0⟩, [⟨1, 1, 0, 0⟩], [creature], [⟨2, 5, 0, 0⟩]⟩
    else
      none

def cavern : Env :=
  { clearing frog with
    scene := ⟨fun _ => none, ⟨100, 100, 15⟩⟩
    items := fun _ => ⟨100, false, false, false, 0⟩
    getTile := fun x y z =>
      if x = 101 ∧ y = 99 ∧ z = 15 then
        some ⟨none, [], [{ frog with name := List.replicate 8193 97 }], []⟩
      else none }

def blank : Output := ⟨⟨[]⟩, []⟩

def visitor : Client where
  counted := fun clientId => clientId == 102

lemma clearing_inView (inView : (clearing creature).InView thing) :
  thing = .item ⟨0, 1, 0, 0⟩ ∨ thing = .item ⟨1, 1, 0, 0⟩ ∨
    thing = .creature creature ∨ thing = .item ⟨2, 5, 0, 0⟩ := by
  rcases inView with ⟨place, _, there⟩
  unfold Env.thingsAt Env.tileAt clearing at there
  simp only at there
  split at there
  · rename_i tile some_tile
    split at some_tile
    · cases some_tile
      simpa [Tile.firstTen, Tile.things] using there
    · cases some_tile
  · cases there

lemma clearing_itemsTold (creature : Creature) : (clearing creature).ItemsTold visitor := by
  intro item inView
  rcases clearing_inView inView with same | same | same | same
  · cases same
    exact show 100 < 0xFF00 ∧ 100 ≠ 0x61 ∧ 100 ≠ 0x62 ∧ (100 == 102) = false by decide
  · cases same
    exact show 101 < 0xFF00 ∧ 101 ≠ 0x61 ∧ 101 ≠ 0x62 ∧ (101 == 102) = false by decide
  · cases same
  · cases same
    exact show 102 < 0xFF00 ∧ 102 ≠ 0x61 ∧ 102 ≠ 0x62 ∧ (102 == 102) = true by decide

lemma clearing_creature {other : Creature}
  (inView : (clearing creature).InView (.creature other)) : other = creature := by
  rcases clearing_inView inView with same | same | same | same
  · cases same
  · cases same
  · cases same
    rfl
  · cases same

/-- The clearing is read back from a new message. -/
theorem clearing_decodable : Decodable (clearing frog) visitor blank := by
  refine map_description_decodable (clearing frog) visitor blank
    (show (7 : Nat) < 16 by decide)
    (viewInside_of_inland (show 17 ≤ 100 ∧ 100 < 65519 by decide)
      (show 17 ≤ 100 ∧ 100 < 65519 by decide))
    (clearing_itemsTold frog) ?_ ?_ ?_
  · intro creature inView
    rw [clearing_creature inView]
    decide
  · intro creature inView
    rw [clearing_creature inView]
    exact fun _ => Or.inr (by decide)
  · unfold Fits
    decide +kernel

/-- A frog of a type which is nothing in the byte for the outfit. -/
def oddFrog : Creature :=
  { frog with currentOutfit := ⟨256, 0, 69, 66, 69, 66⟩ }

lemma odd_outfit_is_misread : ¬ Decodable (clearing oddFrog) visitor blank := by
  rintro ⟨bytes, shown, written, read, _, _, _, things⟩
  have named :
      ∀ place ∈ viewPlaces (clearing oddFrog).scene.myPos,
        (clearing oddFrog).ShortNames place := by
    intro place inView tile there thing mem
    have shownThere : thing ∈ (clearing oddFrog).thingsAt place := by
      rw [Env.thingsAt, there]
      exact mem
    cases thing with
    | item item => trivial
    | creature creature =>
      rw [clearing_creature ⟨place, inView, shownThere⟩]
      exact show (cString oddFrog.name).length ≤ 8192 by decide
  have fits :
      Fits blank.msg
        (descriptionBytes (clearing oddFrog) blank.knownCreatureList
          (viewPlaces (clearing oddFrog).scene.myPos)) := by
    unfold Fits
    decide +kernel
  rw [describeView_writes named fits, append_cancel_left_eq] at written
  rw [← written] at read
  have five :
      (visitor.decodeMap (clearing oddFrog).scene.myPos
        (descriptionBytes (clearing oddFrog) blank.knownCreatureList
          (viewPlaces (clearing oddFrog).scene.myPos))).map
          (fun read => read.1.any fun entry =>
            entry.1 = Place.of ⟨101, 99, 7⟩ && entry.2.length == 5) =
        some true := by
    decide +kernel
  rw [read, Option.map_some, Option.some.injEq, any_eq_true] at five
  rcases five with ⟨⟨place, seen⟩, inShown, found⟩
  rw [Bool.and_eq_true, decide_eq_true_iff, beq_iff_eq] at found
  rcases found with ⟨rfl, count⟩
  have four :
      ((((clearing oddFrog).getTile 101 99 7).map Tile.firstTen).getD []).length =
        4 :=
    rfl
  have equal := (things ⟨101, 99, 7⟩ seen inShown).length_eq
  rw [four, count] at equal
  cases equal

/-- A long name is left out, and what follows is read in its place. -/
theorem long_name_is_left_out :
  ¬ ∀ (env : Env) (client : Client) (out : Output),
      env.scene.myPos.z.toNat < 16 → ViewInside env.scene.myPos →
        env.ItemsTold client → Decodable env client out := by
  intro always
  rcases always cavern ⟨fun _ => false⟩ blank (by decide)
      (viewInside_of_inland (by decide) (by decide)) (fun item _ => by
        exact show
          (100 : UInt16).toNat < 0xFF00 ∧ (100 : UInt16).toNat ≠ 0x61 ∧
            (100 : UInt16).toNat ≠ 0x62 ∧ false = false by decide) with
    ⟨bytes, shown, written, read, -⟩
  have misread :
      (Client.decodeMap ⟨fun _ => false⟩ cavern.scene.myPos
        (describeView cavern blank).msg.body).isNone = true := by
    decide +kernel
  rw [written] at misread
  rw [show blank.msg.body ++ bytes = bytes from rfl, read] at misread
  cases misread

end Decoding

end OTServ.View.Description
