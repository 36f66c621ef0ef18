import OTServ.Library.GuardedRuns
import OTServ.Parties.Operations

/-!
# Parties are consistent

In every run in which nobody without a party invites himself both sides of the
parties agree, and no call goes to a deleted party.  A player who invites himself
becomes the leader of a new party and stays invited to it.
-/

namespace OTServ.Parties

open Library.GuardedRuns
open List Function Option

variable {state next : State} {party : Party} {number player : Nat}

/-! ## Runs -/

def Proper (state : State) : Event → Prop
  | .invite playerId invitedId =>
    playerId = invitedId → state.party playerId ≠ none
  | _ => True

def Steps (state : State) (event : Event) (next : State) : Prop :=
  state.after event = some next

section

variable (sound : Sound state)
include sound

lemma isInviting_defined (player other : Nat) :
  ∃ inviting, state.isInviting player other = some inviting ∧
    (inviting = true →
      ∃ number party,
        state.party player = some number ∧
          state.parties number = some party ∧ party.leader = player ∧
            other ∈ party.inviteList) := by
  rw [State.isInviting]
  cases points : state.party player with
  | none =>
    exact ⟨false, rfl, fun impossible => by cases impossible⟩
  | some number =>
    rcases sound.pointee points with ⟨party, live, _⟩
    simp only
    rw [live, map_some]
    refine ⟨_, rfl, ?_⟩
    intro inviting
    rw [Bool.and_eq_true, beq_iff_eq] at inviting
    exact ⟨number, party, rfl, live, inviting.1, by simpa [Party.isPlayerInvited] using inviting.2⟩

variable (company : Accompanied state)
include company

variable (playerId : Nat)

lemma invite_sound
  (invitedId : Nat) (proper : playerId = invitedId → state.party playerId ≠ none) :
  ∃ next, state.playerInviteToParty playerId invitedId = some next ∧
    Sound next ∧ Accompanied next := by
  rw [State.playerInviteToParty]
  split
  · exact ⟨state, rfl, sound, company⟩
  rename_i there
  have here : state.listPlayer playerId = true ∧ state.listPlayer invitedId = true := by
    simp only [State.getPlayerByID, Bool.or_eq_true, not_or] at there
    simp at there
    exact ⟨there.1.2, there.2.2⟩
  rcases isInviting_defined sound invitedId playerId with ⟨inviting, answers, _⟩
  rw [answers, bind_some]
  split
  · exact ⟨state, rfl, sound, company⟩
  rename_i free
  have invitedFree : state.party invitedId = none := by
    rw [Bool.or_eq_true, not_or] at free
    exact not_isSome_iff_eq_none.mp free.2
  cases points : state.party playerId with
  | none =>
    have differs : playerId ≠ invitedId := fun same => proper same points
    have soundNew := newParty_sound sound points here.1
    have live : (state.newParty playerId).parties state.nextParty = some ⟨playerId, [], []⟩ :=
      update_self _ _ _
    have outside : ¬ Party.Belongs ⟨playerId, [], []⟩ invitedId := by
      rintro (leads | mem)
      · exact differs leads
      · cases mem
    rcases invitePlayer_sound soundNew live here.2 outside with ⟨next, invites, soundNext, changed⟩
    refine ⟨next, invites, soundNext, ?_⟩
    rcases changed with ⟨_, already⟩ | changed
    · cases already
    · have whole :
          next.parties =
            update state.parties state.nextParty (some ⟨playerId, [], [invitedId]⟩) := by
        rw [changed]
        exact update_idem _ _ _
      refine company.replace (some ⟨playerId, [], [invitedId]⟩) whole ?_
      rintro party ⟨⟩
      rfl
  | some number =>
    rcases sound.pointee points with ⟨party, live, _⟩
    simp only
    rw [live, bind_some]
    split
    · exact ⟨state, rfl, sound, company⟩
    · have outside : ¬ party.Belongs invitedId := by
        intro belongs
        have pointsToo := (sound.points live invitedId).mpr belongs
        rw [invitedFree] at pointsToo
        cases pointsToo
      rcases invitePlayer_sound sound live here.2 outside with ⟨next, invites, soundNext, changed⟩
      refine ⟨next, invites, soundNext, ?_⟩
      rcases changed with ⟨rfl, _⟩ | changed
      · exact company
      · refine company.replace _ changed ?_
        rintro stored ⟨⟩
        simp [Party.disbandParty]

lemma join_sound (leaderId : Nat) :
  ∃ next, state.playerJoinParty playerId leaderId = some next ∧
    Sound next ∧ Accompanied next := by
  rw [State.playerJoinParty]
  split
  · exact ⟨state, rfl, sound, company⟩
  rcases isInviting_defined sound leaderId playerId with ⟨inviting, answers, means⟩
  rw [answers, bind_some]
  split
  · exact ⟨state, rfl, sound, company⟩
  rename_i invites
  have invited : inviting = true := by simpa using invites
  rcases means invited with ⟨number, party, points, live, leads, invitee⟩
  rw [points]
  simp only
  rw [live, bind_some]
  split
  · exact ⟨state, rfl, sound, company⟩
  · rename_i free
    have playerFree : state.party playerId = none := by
      rw [Bool.or_eq_true, not_or] at free
      exact not_isSome_iff_eq_none.mp free.2
    rcases joinParty_sound sound live invitee playerFree with ⟨next, joins, soundNext, changed⟩
    refine ⟨next, joins, soundNext, company.replace _ changed ?_⟩
    rintro stored ⟨⟩
    simp [Party.disbandParty]

lemma revoke_sound (invitedId : Nat) :
  ∃ next, state.playerRevokePartyInvitation playerId invitedId = some next ∧
    Sound next ∧ Accompanied next := by
  rw [State.playerRevokePartyInvitation]
  split
  · exact ⟨state, rfl, sound, company⟩
  cases points : state.party playerId with
  | none => exact ⟨state, rfl, sound, company⟩
  | some number =>
    rcases sound.pointee points with ⟨party, live, _⟩
    simp only
    rw [live, bind_some]
    split
    · exact ⟨state, rfl, sound, company⟩
    rcases isInviting_defined sound playerId invitedId with ⟨inviting, answers, means⟩
    rw [answers, bind_some]
    split
    · exact ⟨state, rfl, sound, company⟩
    · rename_i invites
      have invited : inviting = true := by simpa using invites
      rcases means invited with ⟨other, there, same, liveThere, _, invitee⟩
      rw [points] at same
      cases same
      rw [live] at liveThere
      cases liveThere
      rcases removeInvite_sound sound company live invitee with
        ⟨next, removes, soundNext, companyNext, _⟩
      exact ⟨next, removes, soundNext, companyNext⟩

lemma pass_sound (newLeaderId : Nat) :
  ∃ next, state.playerPassPartyLeadership playerId newLeaderId = some next ∧
    Sound next ∧ Accompanied next := by
  rw [State.playerPassPartyLeadership]
  split
  · exact ⟨state, rfl, sound, company⟩
  cases points : state.party playerId with
  | none => exact ⟨state, rfl, sound, company⟩
  | some number =>
    rcases sound.pointee points with ⟨party, live, _⟩
    simp only
    rw [live, map_some]
    split
    · exact ⟨state, rfl, sound, company⟩
    by_cases mem : newLeaderId ∈ party.memberList
    · have proper := sound.proper number party live
      have belongs :
          ∀ other, (party.passPartyLeadership newLeaderId).Belongs other ↔ party.Belongs other :=
        passPartyLeadership_belongs mem
      have invitees := passPartyLeadership_inviteList party newLeaderId
      have replaced :
          Replaced state
            (state.store number (some (party.passPartyLeadership newLeaderId)))
            number (some (party.passPartyLeadership newLeaderId)) := by
        constructor
        case parties => rfl
        case listPlayer => rfl
        case nextParty => exact Nat.le_refl _
        case numbered => exact fun _ => sound.numbered live
        case points =>
          intro other
          simp only [some.injEq, exists_eq_left', belongs]
          exact sound.points live other
        case pointsElse => exact fun _ _ _ => Iff.rfl
        case lists =>
          intro other
          simp only [some.injEq, exists_eq_left', invitees]
          exact sound.lists live other
        case listsElse => exact fun _ _ _ => Iff.rfl
        case listed => exact sound.listed
      refine ⟨_, rfl, replaced.sound sound ?_ ?_, ?_⟩
      · rintro stored ⟨⟩
        exact passPartyLeadership_proper proper mem
      · rintro stored other ⟨⟩ known
        rw [belongs, invitees] at known
        exact sound.present live known
      · refine company.replace _ rfl ?_
        rintro stored ⟨⟩
        rw [Party.passPartyLeadership]
        split
        · exact company number party live
        · rfl
    · have same : party.passPartyLeadership newLeaderId = party := by
        rw [Party.passPartyLeadership, if_pos (by simp [Party.isPlayerMember, mem])]
      have unchanged : state.store number (some party) = state := by
        rw [State.store, ← live, update_eq_self]
      rw [same, unchanged]
      exact ⟨state, rfl, sound, company⟩

lemma leave_sound (inFight : Bool) :
  ∃ next, state.playerLeaveParty playerId inFight = some next ∧
    Sound next ∧ Accompanied next := by
  rw [State.playerLeaveParty]
  split
  · exact ⟨state, rfl, sound, company⟩
  · rcases leaveOwnParty_sound sound company playerId with
      ⟨next, leaves, soundNext, companyNext, _⟩
    exact ⟨next, leaves, soundNext, companyNext⟩

lemma after_sound (event : Event) (proper : Proper state event) :
  ∃ next, state.after event = some next ∧ Sound next ∧ Accompanied next := by
  cases event with
  | login id =>
    refine ⟨_, rfl, login_sound sound id, ?_⟩
    rw [State.login]
    split
    · exact company
    · exact company
  | invite playerId invitedId =>
    exact invite_sound sound company playerId invitedId proper
  | join playerId leaderId => exact join_sound sound company playerId leaderId
  | revoke playerId invitedId =>
    exact revoke_sound sound company playerId invitedId
  | pass playerId newLeaderId =>
    exact pass_sound sound company playerId newLeaderId
  | leave playerId inFight => exact leave_sound sound company playerId inFight
  | remove id => exact removeCreature_sound sound company id

end

/--
Pointers, member lists, invitations and lists of invitations agree, no party is
without a leader in the game or without company, and no pointer leads to a
deleted party.
-/
structure Consistent (state : State) : Prop where
  pointer :
    ∀ player number,
      state.party player = some number ↔
        ∃ party, state.parties number = some party ∧
          ((party.leader = player ∧ player ∉ party.memberList) ∨
            (party.leader ≠ player ∧ party.memberList.count player = 1))
  invitation :
    ∀ player number,
      number ∈ state.invitePartyList player ↔
        ∃ party, state.parties number = some party ∧ player ∈ party.inviteList
  apart :
    ∀ player number party,
      state.parties number = some party →
        ¬ (state.party player = some number ∧ player ∈ party.inviteList)
  lively :
    ∀ number party,
      state.parties number = some party →
        (state.party party.leader = some number ∧
            state.listPlayer party.leader = true) ∧
          (party.memberList ≠ [] ∨ party.inviteList ≠ [])

lemma Sound.consistent
  (sound : Sound state) (company : Accompanied state) : Consistent state where
  pointer player number := by
    rw [sound.inside, State.Inside]
    apply exists_congr
    intro party
    apply and_congr_right
    intro live
    have proper := sound.proper number party live
    have notLeader : party.leader = player → player ∉ party.memberList := by
      rintro rfl
      exact proper.leader
    constructor
    · rintro (leads | mem)
      · exact Or.inl ⟨leads, notLeader leads⟩
      · exact Or.inr
          ⟨fun leads => notLeader leads mem, count_eq_one_of_mem proper.members mem⟩
    · rintro (⟨leads, _⟩ | ⟨_, once⟩)
      · exact Or.inl leads
      · have mem : 0 < party.memberList.count player := by omega
        exact Or.inr (count_pos_iff.mp mem)
  invitation := sound.invited
  apart player number party live := by
    rintro ⟨points, invitee⟩
    exact (sound.proper number party live).outside player invitee
      ((sound.points live player).mp points)
  lively number party live := by
    refine ⟨⟨sound.leader_points live, sound.present live (Or.inl (Or.inl rfl))⟩, ?_⟩
    have lively := company number party live
    rw [Party.disbandParty, Bool.and_eq_false_iff] at lively
    rcases lively with some | some
    · exact Or.inl (by simpa using some)
    · exact Or.inr (by simpa using some)

/--
In every run in which nobody without a party invites himself the parties stay
consistent.
-/
theorem parties_consistent
  (run : Reaches Steps Proper State.initial state) : Consistent state := by
  have invariant : Sound state ∧ Accompanied state := by
    apply run.invariant
    · refine ⟨Sound.initial, ?_⟩
      intro number party impossible
      cases impossible
    · rintro before event after ⟨sound, company⟩ proper steps
      rcases after_sound sound company event proper with ⟨next, leads, soundNext, companyNext⟩
      rw [Steps, leads] at steps
      cases steps
      exact ⟨soundNext, companyNext⟩
  exact invariant.1.consistent invariant.2

/-- One player invites another, who joins him. -/
theorem parties_consistent_couple :
  ∃ state, state.party 1 = some 0 ∧ state.party 2 = some 0 ∧ Consistent state := by
  have loggedIn : Reaches Steps Proper State.initial (State.initial.login 1) :=
    Reaches.refl.tail
      (show Proper State.initial (.login 1) from trivial)
      (show Steps State.initial (.login 1) _ from rfl)
  have both :=
    loggedIn.tail
      (show Proper (State.initial.login 1) (.login 2) from trivial)
      (show Steps (State.initial.login 1) (.login 2) _ from rfl)
  have others : Proper ((State.initial.login 1).login 2) (.invite 1 2) :=
    fun same => absurd same (by decide)
  have invited :=
    both.tail others (show Steps ((State.initial.login 1).login 2) (.invite 1 2) _ from rfl)
  exact ⟨_, rfl, rfl, parties_consistent
    (invited.tail (show Proper _ (.join 2 1) from trivial)
      (show State.after _ (.join 2 1) = some _ from rfl))⟩

/-- Whoever invites himself leads a party that still invites him. -/
theorem self_invitation_inconsistent :
  ¬ ∀ state, Reaches Steps Always State.initial state → Consistent state := by
  intro consistent
  have loggedIn : Reaches Steps Always State.initial (State.initial.login 1) :=
    Reaches.refl.tail trivial (show Steps State.initial (.login 1) _ from rfl)
  have invited :=
    loggedIn.tail trivial (show Steps (State.initial.login 1) (.invite 1 1) _ from rfl)
  exact (consistent _ invited).apart 1 0 ⟨1, [], [1]⟩ rfl ⟨rfl, mem_singleton_self 1⟩

end OTServ.Parties
