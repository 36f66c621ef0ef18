import Mathlib.Data.List.Basic

/-!
# Parties

A party knows its leader, its members and whom it has invited; each player knows
his party and the parties that have invited him.  `Party::disband` deletes the
party, so a call through a pointer to it afterwards has no meaning: such a call
gives nothing here.
-/

namespace OTServ.Parties

open Function

/-- `Party`; players are named by their ids. -/
structure Party where
  leader : Nat
  memberList : List Nat
  inviteList : List Nat
deriving DecidableEq

namespace Party

def isPlayerMember (party : Party) (player : Nat) : Bool :=
  party.memberList.contains player

def isPlayerInvited (party : Party) (player : Nat) : Bool :=
  party.inviteList.contains player

def disbandParty (party : Party) : Bool :=
  party.memberList.isEmpty && party.inviteList.isEmpty

/-- `Party::passPartyLeadership` -/
def passPartyLeadership (party : Party) (player : Nat) : Party :=
  if party.leader = player || !party.isPlayerMember player then party
  else
    { party with
      leader := player
      memberList := party.leader :: party.memberList.erase player }

end Party

/--
The players in the game, what each keeps of parties, and the parties that have
not been deleted, by number.
-/
structure State where
  listPlayer : Nat → Bool
  party : Nat → Option Nat
  invitePartyList : Nat → List Nat
  parties : Nat → Option Party
  nextParty : Nat

def State.initial : State where
  listPlayer _ := false
  party _ := none
  invitePartyList _ := []
  parties _ := none
  nextParty := 0

namespace State

/-- `Game::getPlayerByID` finds a player. -/
def getPlayerByID (state : State) (id : Nat) : Bool :=
  id != 0 && state.listPlayer id

/-- `isRemoved` of a player. -/
def isRemoved (state : State) (player : Nat) : Bool :=
  !state.listPlayer player

/-- `Player::setParty` -/
def setParty (state : State) (player : Nat) (party : Option Nat) : State :=
  { state with party := update state.party player party }

/-- `Player::addPartyInvitation` -/
def addPartyInvitation (state : State) (player party : Nat) : State :=
  if party ∈ state.invitePartyList player then state
  else
    { state with
      invitePartyList :=
        update state.invitePartyList player (state.invitePartyList player ++ [party]) }

/-- `Player::removePartyInvitation` -/
def removePartyInvitation (state : State) (player party : Nat) : State :=
  { state with
    invitePartyList :=
      update state.invitePartyList player ((state.invitePartyList player).erase party) }

def store (state : State) (number : Nat) (party : Option Party) : State :=
  { state with parties := update state.parties number party }

/-- The constructor of `Party`. -/
def newParty (state : State) (leader : Nat) : State :=
  { (state.store state.nextParty (some ⟨leader, [], []⟩)).setParty leader
      (some state.nextParty) with
    nextParty := state.nextParty + 1 }

/-- `Party::disband` -/
def disband (state : State) (number : Nat) : Option State :=
  (state.parties number).map fun party =>
    let withdrawn :=
      party.inviteList.foldl
        (fun state player => state.removePartyInvitation player number)
        (state.setParty party.leader none)
    let freed := party.memberList.foldl (fun state player => state.setParty player none) withdrawn
    freed.store number none

/-- `Party::invitePlayer` -/
def invitePlayer (state : State) (number player : Nat) : Option State :=
  (state.parties number).map fun party =>
    if state.isRemoved player || party.isPlayerInvited player then state
    else
      (state.store number
        (some { party with inviteList := party.inviteList ++ [player] })
        ).addPartyInvitation player number

/-- `Party::joinParty` -/
def joinParty (state : State) (number player : Nat) : Option State :=
  (state.parties number).map fun party =>
    if state.isRemoved player then state
    else
      ((state.store number
        (some
          { party with
            memberList := party.memberList ++ [player]
            inviteList := party.inviteList.erase player })
        ).setParty player (some number)).removePartyInvitation player number

/-- `Party::removeInvite` -/
def removeInvite (state : State) (number player : Nat) : Option State :=
  (state.parties number).bind fun party =>
    if state.isRemoved player || !party.isPlayerInvited player then some state
    else
      let left := { party with inviteList := party.inviteList.erase player }
      let next := (state.store number (some left)).removePartyInvitation player number
      if left.disbandParty then next.disband number else some next

def leaving (party : Party) (player : Nat) : Party :=
  let passed :=
    match party.memberList with
    | front :: _ =>
      if party.leader = player then party.passPartyLeadership front
      else party
    | [] => party
  { passed with
    memberList := passed.memberList.erase player
    inviteList := passed.inviteList.erase player }

/-- `Party::leaveParty` -/
def leaveParty (state : State) (number player : Nat) : Option State :=
  (state.parties number).bind fun party =>
    if !party.isPlayerMember player && party.leader != player then some state
    else
      let hasNoLeader := party.leader = player && party.memberList.isEmpty
      let left := leaving party player
      let next := (state.store number (some left)).setParty player none
      if hasNoLeader || left.disbandParty then next.disband number
      else some next

def leaveOwnParty (state : State) (player : Nat) : Option State :=
  match state.party player with
  | none => some state
  | some number => state.leaveParty number player

/-- `Player::isInviting` -/
def isInviting (state : State) (player other : Nat) : Option Bool :=
  match state.party player with
  | none => some false
  | some number =>
    (state.parties number).map fun party => party.leader == player && party.isPlayerInvited other

/-- `Player::clearPartyInvitations` -/
def clearPartyInvitations (state : State) (player : Nat) : Option State :=
  (state.invitePartyList player).foldlM
    (fun state number => state.removeInvite number player)
    { state with invitePartyList := update state.invitePartyList player [] }

/-! ## The game -/

/-- `Game::playerInviteToParty` -/
def playerInviteToParty (state : State) (playerId invitedId : Nat) : Option State :=
  if !state.getPlayerByID playerId || !state.getPlayerByID invitedId then
    some state
  else
    (state.isInviting invitedId playerId).bind fun inviting =>
      if inviting || (state.party invitedId).isSome then some state
      else
        match state.party playerId with
        | none => (state.newParty playerId).invitePlayer state.nextParty invitedId
        | some number =>
          (state.parties number).bind fun party =>
            if party.leader ≠ playerId then some state
            else state.invitePlayer number invitedId

/-- `Game::playerJoinParty` -/
def playerJoinParty (state : State) (playerId leaderId : Nat) : Option State :=
  if !state.getPlayerByID playerId || !state.getPlayerByID leaderId then
    some state
  else
    (state.isInviting leaderId playerId).bind fun inviting =>
      if !inviting then some state
      else
        match state.party leaderId with
        | none => some state
        | some number =>
          (state.parties number).bind fun party =>
            if party.leader ≠ leaderId || (state.party playerId).isSome then
              some state
            else state.joinParty number playerId

/-- `Game::playerRevokePartyInvitation` -/
def playerRevokePartyInvitation (state : State) (playerId invitedId : Nat) : Option State :=
  if !state.getPlayerByID playerId then some state
  else
    match state.party playerId with
    | none => some state
    | some number =>
      (state.parties number).bind fun party =>
        if party.leader ≠ playerId || !state.getPlayerByID invitedId then
          some state
        else
          (state.isInviting playerId invitedId).bind fun inviting =>
            if !inviting then some state
            else state.removeInvite number invitedId

/-- `Game::playerPassPartyLeadership` -/
def playerPassPartyLeadership (state : State) (playerId newLeaderId : Nat) : Option State :=
  if !state.getPlayerByID playerId then some state
  else
    match state.party playerId with
    | none => some state
    | some number =>
      (state.parties number).map fun party =>
        if party.leader ≠ playerId || !state.getPlayerByID newLeaderId ||
            state.party newLeaderId ≠ some number then
          state
        else state.store number (some (party.passPartyLeadership newLeaderId))

/-- `Game::playerLeaveParty`; a fight is a condition of the player. -/
def playerLeaveParty (state : State) (playerId : Nat) (inFight : Bool) : Option State :=
  if !state.getPlayerByID playerId || inFight then some state
  else state.leaveOwnParty playerId

def login (state : State) (id : Nat) : State :=
  if state.listPlayer id then state
  else
    { state with
      listPlayer := update state.listPlayer id true
      party := update state.party id none
      invitePartyList := update state.invitePartyList id [] }

/--
`Game::removeCreature` for a player: `Player::onCreatureDisappear` comes before
the player is marked as removed.
-/
def removeCreature (state : State) (id : Nat) : Option State :=
  if state.isRemoved id then some state
  else
    (state.clearPartyInvitations id).bind fun cleared =>
      (cleared.leaveOwnParty id).map fun left =>
        { left with listPlayer := update left.listPlayer id false }

end State

inductive Event where
  | login (id : Nat)
  | invite (playerId invitedId : Nat)
  | join (playerId leaderId : Nat)
  | revoke (playerId invitedId : Nat)
  | pass (playerId newLeaderId : Nat)
  | leave (playerId : Nat) (inFight : Bool)
  | remove (id : Nat)
deriving DecidableEq

def State.after (state : State) : Event → Option State
  | .login id => some (state.login id)
  | .invite playerId invitedId =>
    state.playerInviteToParty playerId invitedId
  | .join playerId leaderId => state.playerJoinParty playerId leaderId
  | .revoke playerId invitedId =>
    state.playerRevokePartyInvitation playerId invitedId
  | .pass playerId newLeaderId =>
    state.playerPassPartyLeadership playerId newLeaderId
  | .leave playerId inFight => state.playerLeaveParty playerId inFight
  | .remove id => state.removeCreature id

end OTServ.Parties
