import Mathlib.Data.List.Basic

/-!
# Access to houses

The access lists of `house.cpp` and the access level a player has to a house.
A house is owned by a character of the database, and two lists grant further
players the rights of a subowner or of a guest.
-/

namespace OTServ.Housing

/--
The fields of a player which houses look at.  The guid numbers the characters
of the database from 1; a house without an owner has owner 0.
-/
structure Player where
  guid : Nat
  name : String
  guildId : Nat
  guildRank : String
  canEditHouses : Bool
  guid_ne_zero : guid ≠ 0
deriving DecidableEq

/-- An `AccessList` as parsed; an expression comes with the answer it gives. -/
structure AccessList where
  playerList : List Nat
  guildList : List (Nat × String)
  regExList : List ((String → Bool) × Bool)

/-- `AccessList::isInList`; the first expression that matches decides. -/
def AccessList.isInList (list : AccessList) (player : Player) : Bool :=
  match list.regExList.find? fun entry => entry.1 player.name.toLower with
  | some entry => entry.2
  | none =>
    list.playerList.contains player.guid ||
      list.guildList.any fun guild =>
        player.guildId != 0 && guild.1 == player.guildId &&
          player.guildRank.toLower == guild.2.toLower

/-- `AccessHouseLevel_t` -/
inductive AccessHouseLevel where
  | noInvited
  | guest
  | subowner
  | owner
deriving DecidableEq

def AccessHouseLevel.rank : AccessHouseLevel → Nat
  | .noInvited => 0
  | .guest => 1
  | .subowner => 2
  | .owner => 3

/-- The access lists which can be edited for a house as a whole. -/
inductive ListId where
  | guestList
  | subownerList
deriving DecidableEq

structure House where
  houseOwner : Nat
  isLoaded : Bool
  subOwnerList : AccessList
  guestList : AccessList

/-- `House::getHouseAccessLevel`; a script counts as the owner. -/
def House.getHouseAccessLevel (house : House) : Option Player → AccessHouseLevel
  | none => .owner
  | some player =>
    if player.canEditHouses then .owner
    else if player.guid = house.houseOwner then .owner
    else if house.subOwnerList.isInList player then .subowner
    else if house.guestList.isInList player then .guest
    else .noInvited

/-- `House::isInvited` -/
def House.isInvited (house : House) (player : Player) : Bool :=
  house.getHouseAccessLevel (some player) ≠ .noInvited

lemma House.isInvited_iff (house : House) (player : Player) :
  house.isInvited player ↔ house.getHouseAccessLevel (some player) ≠ .noInvited := by
  rw [House.isInvited, decide_eq_true_iff]

/-- The lists of a house after one of them has been parsed anew. -/
def House.setList (house : House) (list : AccessList) : ListId → House
  | .guestList => { house with guestList := list }
  | .subownerList => { house with subOwnerList := list }

def House.setOwner (house : House) (guid : Nat) : House :=
  { house with houseOwner := guid }

lemma House.isInvited_of_canEditHouses (house : House) {player : Player}
  (editor : player.canEditHouses) : house.isInvited player := by
  simp [House.isInvited, House.getHouseAccessLevel, editor]

lemma House.rank_le_script (house : House) (player : Option Player) :
  (house.getHouseAccessLevel player).rank ≤ (house.getHouseAccessLevel none).rank := by
  cases level : house.getHouseAccessLevel player <;>
    simp [House.getHouseAccessLevel, AccessHouseLevel.rank]

lemma House.isInvited_of_unowned {house : House} (unowned : house.houseOwner = 0)
  {player : Player} (invited : house.isInvited player) (guid : Nat) :
  (house.setOwner guid).isInvited player := by
  have nobody : player.guid ≠ house.houseOwner := by
    rw [unowned]
    exact player.guid_ne_zero
  rw [House.isInvited_iff] at invited ⊢
  simp only [House.setOwner, House.getHouseAccessLevel, nobody, if_false] at invited ⊢
  by_cases owner : player.guid = guid
  · simp [owner]
  · simp only [owner, if_false]
    exact invited

end OTServ.Housing
