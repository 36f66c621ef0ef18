import OTServ.Mail.Depots

/-!
# Mailboxes

`Mailbox::sendItem` reads the name of a receiver and of a town from a letter, or
from the label in a parcel, and moves the item into the depot of that player.  A
receiver who is not online is loaded for this, saved and thrown away again.
-/

namespace OTServ.Mail

open Items
open Library

/-- The towns by their numbers, and the town whose citizens get no mail. -/
structure Towns where
  townMap : List (Nat × String)
  rookTempleId : Nat

/-- What the database answers to the questions of `sendItem`. -/
structure Database where
  getGuidByName : String → Option (String × Nat)
  playerExists : String → Bool
  loadPlayer : String → Option Loaded
  savePlayer : Nat → SaveAnswer

/-- `boost::algorithm::iequals`, and what `asUpperCaseString` compares. -/
def iequals (left right : String) : Bool :=
  left.toList.map Char.toUpper = right.toList.map Char.toUpper

/-- `Towns::getTown` -/
def Towns.getTown (towns : Towns) (townname : String) : Option Nat :=
  (towns.townMap.find? fun town => iequals town.2 townname).map (·.1)

/-- `Game::getPlayerByName` -/
def Office.getPlayerByName (office : Office) (name : String) : Option Nat :=
  (office.listPlayer.find? fun player => iequals name player.2).map (·.1)

variable (env : Env) (towns : Towns) (database : Database) (office : Office)

/--
The item whose text counts among those in a parcel: the first label with a text,
or the last label, or else the parcel itself.
-/
def labelAmong : List Nat → Nat → Nat
  | [], found => found
  | item :: rest, found =>
    if (office.world.item item).id = 2599 then
      if office.getText item ≠ "" then item else labelAmong rest item
    else labelAmong rest found

/-- The item from which the address is read; there is none for other types. -/
def addressed (item : Nat) : Option Nat :=
  if (office.world.item item).id = 2595 then
    some (labelAmong office (office.world.item item).itemlist item)
  else if (office.world.item item).id = 2597 then some item
  else none

/-- `getline` up to the end of the text -/
def lines (text : String) : List String :=
  (text.toList.splitOn '\n').map String.ofList

/-- `Mailbox::getReceiver` -/
def getReceiver (item : Nat) : Option (String × Nat) :=
  (addressed office item).bind fun label =>
    let text := office.getText label
    if text = "" then none
    else
      let name := (lines text)[0]?.getD ""
      let strTown := (lines text)[1]?.getD ""
      (towns.getTown strTown).bind fun townId =>
        if townId ≠ towns.rookTempleId then some (name, townId) else none

/-- The item goes into the depot and, if it gets there, is stamped. -/
def deliver (world : World) (depot item : Nat) : Option World :=
  match (world.item item).parent with
  | none => none
  | some cylinder =>
    (internalMoveItem env world cylinder (some (.item depot)) (-1) item
      (world.item item).count { Flags.none with noLimit := true }).bind
        fun moved =>
          if moved.ret = .noError then
            (transformItem env moved.world item ((moved.world.item item).id + 1)).map (·.2)
          else some moved.world

/-- The part of `sendItem` for a receiver who is online. -/
def sendOnline (item dp player : Nat) : Option (Bool × Office) :=
  (getDepot env.items ⟨office.world, office.depots player⟩
    (office.maxDepotLimit player) dp).bind fun (depot, storage) =>
      let opened :=
        { office with
          world := storage.world
          depots := Function.update office.depots player storage.depots }
      match depot with
      | none => some (false, opened)
      | some depot =>
        (deliver env storage.world depot item).map fun delivered =>
          (true, { opened with world := delivered })

/--
The part of `sendItem` for a receiver who has been loaded.  What is deleted with
the player is reached from nowhere any more.
-/
def sendOffline (item dp : Nat) (loaded : Loaded) : Option (Bool × Office) :=
  (loadDepots env.items office loaded).bind fun (player, attributes) =>
    (getDepot env.items player loaded.maxDepotLimit dp).bind
      fun (depot, storage) =>
        let opened := { office with world := storage.world, attributes := attributes }
        match depot with
        | none => some (false, opened)
        | some depot =>
          (deliver env storage.world depot item).bind fun delivered =>
            (savePlayer env.items { opened with world := delivered }
              loaded.guid storage.depots
              (database.savePlayer loaded.guid)).map fun (_, saved) => (true, saved)

/-- `Mailbox::sendItem` -/
def sendItem (item : Nat) : Option (Bool × Office) :=
  match getReceiver towns office item with
  | none => some (false, office)
  | some (receiver, dp) =>
    if receiver = "" ∨ dp = 0 then some (false, office)
    else
      match database.getGuidByName receiver with
      | none => some (false, office)
      | some (receiver, _) =>
        match office.getPlayerByName receiver with
        | some player => sendOnline env office item dp player
        | none =>
          if database.playerExists receiver then
            match database.loadPlayer receiver with
            | none => some (false, office)
            | some loaded =>
              sendOffline env database office item dp loaded
          else some (false, office)

end OTServ.Mail
