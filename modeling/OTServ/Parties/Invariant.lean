import OTServ.Parties.Party
import Mathlib.Data.List.Nodup

/-!
# Both sides of a party

Who belongs to a party and who is invited is kept by the party and by the
players.  Every function of a party changes the entry of the one party together
with the pointers and lists of the players concerned; `Replaced` says when this
keeps both sides in agreement.
-/

namespace OTServ.Parties

open List Function Option

def Party.Belongs (party : Party) (player : Nat) : Prop :=
  party.leader = player ∨ player ∈ party.memberList

structure Party.Proper (party : Party) : Prop where
  members : party.memberList.Nodup
  leader : party.leader ∉ party.memberList
  invitees : party.inviteList.Nodup
  outside : ∀ player ∈ party.inviteList, ¬ party.Belongs player

def State.Inside (state : State) (player number : Nat) : Prop :=
  ∃ party, state.parties number = some party ∧ party.Belongs player

def State.Invited (state : State) (player number : Nat) : Prop :=
  ∃ party, state.parties number = some party ∧ player ∈ party.inviteList

/-- Both sides agree, and players who are gone have left nothing behind. -/
structure Sound (state : State) : Prop where
  inside : ∀ player number, state.party player = some number ↔ state.Inside player number
  invited : ∀ player number, number ∈ state.invitePartyList player ↔ state.Invited player number
  proper : ∀ number party, state.parties number = some party → party.Proper
  listed : ∀ player, (state.invitePartyList player).Nodup
  fresh : ∀ number, state.nextParty ≤ number → state.parties number = none
  gone :
    ∀ player, state.listPlayer player = false →
      state.party player = none ∧ state.invitePartyList player = []

def Accompanied (state : State) : Prop :=
  ∀ number party, state.parties number = some party → party.disbandParty = false

lemma Sound.initial : Sound State.initial where
  inside player number := by
    constructor
    · intro impossible
      cases impossible
    · rintro ⟨party, impossible, _⟩
      cases impossible
  invited player number := by
    constructor
    · intro impossible
      cases impossible
    · rintro ⟨party, impossible, _⟩
      cases impossible
  proper _ _ impossible := by cases impossible
  listed _ := nodup_nil
  fresh _ _ := rfl
  gone _ _ := ⟨rfl, rfl⟩

variable {state next : State} {party : Party} {number player : Nat}

section

variable (sound : Sound state)
include sound

lemma Sound.leader_points (live : state.parties number = some party) :
  state.party party.leader = some number :=
  (sound.inside _ _).mpr ⟨party, live, Or.inl rfl⟩

lemma Sound.pointee (points : state.party player = some number) :
  ∃ party, state.parties number = some party ∧ party.Belongs player :=
  (sound.inside _ _).mp points

variable (live : state.parties number = some party)
include live

lemma Sound.present (known : party.Belongs player ∨ player ∈ party.inviteList) :
  state.listPlayer player = true := by
  by_contra removed
  have gone := sound.gone player (by simpa using removed)
  rcases known with belongs | invitee
  · have points := (sound.inside player number).mpr ⟨party, live, belongs⟩
    rw [gone.1] at points
    cases points
  · have listed := (sound.invited player number).mpr ⟨party, live, invitee⟩
    rw [gone.2] at listed
    exact absurd listed not_mem_nil

lemma Sound.numbered : number < state.nextParty := by
  by_contra unused
  rw [sound.fresh number (Nat.not_lt.mp unused)] at live
  cases live

lemma Sound.points (player : Nat) : state.party player = some number ↔ party.Belongs player := by
  rw [sound.inside, State.Inside, live]
  simp

lemma Sound.lists (player : Nat) :
  number ∈ state.invitePartyList player ↔ player ∈ party.inviteList := by
  rw [sound.invited, State.Invited, live]
  simp

end

/--
The entry of one party is replaced.  The players it has inside now point to it,
those whom it invites are listed it, and all else stays.
-/
structure Replaced (before after : State) (number : Nat) (entry : Option Party) : Prop where
  parties : after.parties = update before.parties number entry
  listPlayer : after.listPlayer = before.listPlayer
  nextParty : before.nextParty ≤ after.nextParty
  numbered : entry ≠ none → number < after.nextParty
  points :
    ∀ player, after.party player = some number ↔ ∃ party, entry = some party ∧ party.Belongs player
  pointsElse :
    ∀ player other, other ≠ number →
      (after.party player = some other ↔ before.party player = some other)
  lists :
    ∀ player,
      number ∈ after.invitePartyList player ↔
        ∃ party, entry = some party ∧ player ∈ party.inviteList
  listsElse :
    ∀ player other, other ≠ number →
      (other ∈ after.invitePartyList player ↔ other ∈ before.invitePartyList player)
  listed : ∀ player, (after.invitePartyList player).Nodup

lemma Replaced.sound {entry : Option Party} (replaced : Replaced state next number entry)
  (sound : Sound state) (proper : ∀ party, entry = some party → party.Proper)
  (present :
    ∀ party player, entry = some party →
      party.Belongs player ∨ player ∈ party.inviteList → state.listPlayer player = true) :
  Sound next where
  inside player other := by
    rw [State.Inside, replaced.parties]
    by_cases same : other = number
    · subst same
      rw [update_self]
      exact replaced.points player
    · rw [update_of_ne same, replaced.pointsElse player other same]
      exact sound.inside player other
  invited player other := by
    rw [State.Invited, replaced.parties]
    by_cases same : other = number
    · subst same
      rw [update_self]
      exact replaced.lists player
    · rw [update_of_ne same, replaced.listsElse player other same]
      exact sound.invited player other
  proper other party live := by
    rw [replaced.parties] at live
    by_cases same : other = number
    · subst same
      rw [update_self] at live
      exact proper party live
    · rw [update_of_ne same] at live
      exact sound.proper other party live
  listed := replaced.listed
  fresh other unused := by
    rw [replaced.parties]
    by_cases same : other = number
    · subst same
      rw [update_self]
      by_contra used
      exact absurd (replaced.numbered used) (Nat.not_lt.mpr unused)
    · rw [update_of_ne same]
      exact sound.fresh other (Nat.le_trans replaced.nextParty unused)
  gone player removed := by
    rw [replaced.listPlayer] at removed
    have before := sound.gone player removed
    have absent :
        ∀ party, entry = some party → ¬ (party.Belongs player ∨ player ∈ party.inviteList) := by
      intro party stored has
      rw [present party player stored has] at removed
      cases removed
    constructor
    · cases points : next.party player with
      | none => rfl
      | some other =>
        by_cases same : other = number
        · subst same
          have ⟨party, stored, belongs⟩ := (replaced.points player).mp points
          exact absurd (Or.inl belongs) (absent party stored)
        · rw [replaced.pointsElse player other same, before.1] at points
          cases points
    · rw [eq_nil_iff_forall_not_mem]
      intro other listed
      by_cases same : other = number
      · subst same
        have ⟨party, stored, invitee⟩ := (replaced.lists player).mp listed
        exact absurd (Or.inr invitee) (absent party stored)
      · rw [replaced.listsElse player other same, before.2] at listed
        exact absurd listed not_mem_nil

lemma Accompanied.replace (company : Accompanied state) (entry : Option Party)
  (parties : next.parties = update state.parties number entry)
  (lively : ∀ party, entry = some party → party.disbandParty = false) : Accompanied next := by
  intro other party live
  rw [parties] at live
  by_cases same : other = number
  · subst same
    rw [update_self] at live
    exact lively party live
  · rw [update_of_ne same] at live
    exact company other party live

/-! ## Disbanding -/

section

variable (players : List Nat)
include players

lemma foldl_removePartyInvitation (state : State) (number : Nat) :
    let next :=
      players.foldl
        (fun state player => state.removePartyInvitation player number) state
    next.party = state.party ∧ next.parties = state.parties ∧
      next.listPlayer = state.listPlayer ∧ next.nextParty = state.nextParty := by
  induction players generalizing state with
  | nil => exact ⟨rfl, rfl, rfl, rfl⟩
  | cons player rest ih => exact ih (state.removePartyInvitation player number)

lemma foldl_removePartyInvitation_list
  (state : State) (number player : Nat) (once : players.Nodup) :
  (players.foldl
      (fun state player => state.removePartyInvitation player number)
      state).invitePartyList player =
    if player ∈ players then (state.invitePartyList player).erase number
    else state.invitePartyList player := by
  induction players generalizing state with
  | nil => simp
  | cons front rest ih =>
    have ⟨notAgain, onceMore⟩ := nodup_cons.mp once
    rw [foldl_cons, ih _ onceMore]
    by_cases here : player = front
    · subst here
      rw [if_neg notAgain, if_pos mem_cons_self]
      simp [State.removePartyInvitation]
    · have elsewhere :
          (state.removePartyInvitation front number).invitePartyList player =
            state.invitePartyList player :=
        update_of_ne here _ _
      rw [elsewhere]
      simp [here]

lemma foldl_setParty (state : State) :
    let next :=
      players.foldl (fun state player => state.setParty player none) state
    next.invitePartyList = state.invitePartyList ∧
      next.parties = state.parties ∧ next.listPlayer = state.listPlayer ∧
        next.nextParty = state.nextParty := by
  induction players generalizing state with
  | nil => exact ⟨rfl, rfl, rfl, rfl⟩
  | cons player rest ih => exact ih (state.setParty player none)

lemma foldl_setParty_party (state : State) (player : Nat) :
  (players.foldl (fun state player => state.setParty player none)
      state).party player =
    if player ∈ players then none else state.party player := by
  induction players generalizing state with
  | nil => simp
  | cons front rest ih =>
    rw [foldl_cons, ih]
    by_cases again : player ∈ rest
    · rw [if_pos again, if_pos (mem_cons_of_mem _ again)]
    · rw [if_neg again]
      by_cases here : player = front
      · subst here
        rw [if_pos mem_cons_self]
        exact update_self _ _ _
      · rw [if_neg fun there => (mem_cons.mp there).elim here again]
        exact update_of_ne here _ _

end

structure Disbanded (before after : State) (number : Nat) (party : Party) : Prop where
  parties : after.parties = update before.parties number none
  listPlayer : after.listPlayer = before.listPlayer
  nextParty : after.nextParty = before.nextParty
  belonged : ∀ player, party.Belongs player → after.party player = none
  others : ∀ player, ¬ party.Belongs player → after.party player = before.party player
  withdrawn :
    ∀ player, player ∈ party.inviteList →
      after.invitePartyList player = (before.invitePartyList player).erase number
  uninvited :
    ∀ player, player ∉ party.inviteList →
      after.invitePartyList player = before.invitePartyList player

lemma disband_disbanded
  (live : state.parties number = some party) (once : party.inviteList.Nodup) :
  ∃ next, state.disband number = some next ∧ Disbanded state next number party := by
  refine ⟨_, by rw [State.disband, live, map_some], ?_⟩
  have cleared :=
    foldl_removePartyInvitation party.inviteList (state.setParty party.leader none) number
  have freed :=
    foldl_setParty party.memberList
      (party.inviteList.foldl
        (fun state player => state.removePartyInvitation player number)
        (state.setParty party.leader none))
  constructor
  · simp only [State.store]
    rw [freed.2.1, cleared.2.1]
    rfl
  · simp only [State.store]
    rw [freed.2.2.1, cleared.2.2.1]
    rfl
  · simp only [State.store]
    rw [freed.2.2.2, cleared.2.2.2]
    rfl
  · intro player belongs
    simp only [State.store]
    rw [foldl_setParty_party, cleared.1]
    split
    · rfl
    · rename_i notMember
      have leads := belongs.resolve_right notMember
      rw [← leads]
      exact update_self _ _ _
  · intro player outside
    simp only [State.store]
    rw [foldl_setParty_party, cleared.1, if_neg fun mem => outside (Or.inr mem)]
    exact update_of_ne (fun leads => outside (Or.inl leads.symm)) _ _
  · intro player there
    simp only [State.store]
    rw [freed.1, foldl_removePartyInvitation_list _ _ _ _ once, if_pos there]
    rfl
  · intro player absent
    simp only [State.store]
    rw [freed.1, foldl_removePartyInvitation_list _ _ _ _ once, if_neg absent]
    rfl

lemma Disbanded.sound (disbanded : Disbanded state next number party)
  (live : state.parties number = some party) (sound : Sound state) : Sound next := by
  have replaced : Replaced state next number none := by
    constructor
    case parties => exact disbanded.parties
    case listPlayer => exact disbanded.listPlayer
    case nextParty => exact Nat.le_of_eq disbanded.nextParty.symm
    case numbered => exact fun impossible => absurd rfl impossible
    case points =>
      intro player
      simp only [reduceCtorEq, false_and, exists_false, iff_false]
      by_cases belongs : party.Belongs player
      · rw [disbanded.belonged player belongs]
        exact some_ne_none _ ∘ Eq.symm
      · rw [disbanded.others player belongs, sound.points live]
        exact belongs
    case pointsElse =>
      intro player other elsewhere
      by_cases belongs : party.Belongs player
      · rw [disbanded.belonged player belongs, (sound.points live player).mpr belongs]
        simp [Ne.symm elsewhere]
      · rw [disbanded.others player belongs]
    case lists =>
      intro player
      simp only [reduceCtorEq, false_and, exists_false, iff_false]
      by_cases there : player ∈ party.inviteList
      · rw [disbanded.withdrawn player there]
        exact (sound.listed player).not_mem_erase
      · rw [disbanded.uninvited player there, sound.lists live]
        exact there
    case listsElse =>
      intro player other elsewhere
      by_cases there : player ∈ party.inviteList
      · rw [disbanded.withdrawn player there]
        exact mem_erase_of_ne elsewhere
      · rw [disbanded.uninvited player there]
    case listed =>
      intro player
      by_cases there : player ∈ party.inviteList
      · rw [disbanded.withdrawn player there]
        exact (sound.listed player).erase _
      · rw [disbanded.uninvited player there]
        exact sound.listed player
  apply replaced.sound sound
  · intro party impossible
    cases impossible
  · intro party player impossible
    cases impossible

end OTServ.Parties
