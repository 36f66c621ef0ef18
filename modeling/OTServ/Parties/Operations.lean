import OTServ.Parties.Invariant

/-!
# The functions of a party keep both sides

Inviting, joining, withdrawing an invitation, passing the leadership on, leaving,
and what happens to all of these when a player logs out.
-/

namespace OTServ.Parties

open List Function Option

variable {state next : State} {party : Party} {number player : Nat}

lemma newParty_sound (sound : Sound state) (free : state.party player = none)
  (present : state.listPlayer player = true) : Sound (state.newParty player) := by
  have unused := sound.fresh state.nextParty (Nat.le_refl _)
  have nowhere : ∀ other, state.party other ≠ some state.nextParty := by
    intro other points
    rcases sound.pointee points with ⟨party, live, _⟩
    rw [unused] at live
    cases live
  have uninvited : ∀ other, state.nextParty ∉ state.invitePartyList other := by
    intro other listed
    rcases (sound.invited _ _).mp listed with ⟨party, live, _⟩
    rw [unused] at live
    cases live
  have replaced :
      Replaced state (state.newParty player) state.nextParty (some ⟨player, [], []⟩) := by
    constructor
    case parties => rfl
    case listPlayer => rfl
    case nextParty => exact Nat.le_succ _
    case numbered => exact fun _ => Nat.lt_succ_self _
    case points =>
      intro other
      simp only [State.newParty, State.setParty, State.store,
        some.injEq, exists_eq_left', Party.Belongs, not_mem_nil,
        or_false]
      by_cases same : other = player
      · rw [same, update_self]
        simp
      · rw [update_of_ne same]
        simp [nowhere other, Ne.symm same]
    case pointsElse =>
      intro other number elsewhere
      simp only [State.newParty, State.setParty, State.store]
      by_cases same : other = player
      · rw [same, update_self, free]
        simp [Ne.symm elsewhere]
      · rw [update_of_ne same]
    case lists =>
      intro other
      simp only [some.injEq, exists_eq_left', not_mem_nil, iff_false]
      exact uninvited other
    case listsElse => exact fun _ _ _ => Iff.rfl
    case listed => exact sound.listed
  apply replaced.sound sound
  · rintro party ⟨⟩
    exact ⟨nodup_nil, not_mem_nil, nodup_nil, fun _ there => absurd there not_mem_nil⟩
  · rintro party other ⟨⟩ ((leads | mem) | invitee)
    · simp only at leads
      rw [← leads]
      exact present
    · exact absurd mem not_mem_nil
    · exact absurd invitee not_mem_nil

lemma nodup_snoc {xs : List Nat} {x : Nat} (once : xs.Nodup) (absent : x ∉ xs) :
  (xs ++ [x]).Nodup := by
  rw [← concat_eq_append]
  exact (nodup_concat xs x).mpr ⟨absent, once⟩

/-- A party changes for one player, and nobody else notices. -/
lemma Sound.change
  {changed : Party} (sound : Sound state) (live : state.parties number = some party)
  (player : Nat) (parties : next.parties = update state.parties number (some changed))
  (listPlayer : next.listPlayer = state.listPlayer)
  (nextParty : next.nextParty = state.nextParty)
  (otherParties : ∀ other, other ≠ player → next.party other = state.party other)
  (otherLists :
    ∀ other, other ≠ player → next.invitePartyList other = state.invitePartyList other)
  (belongs : ∀ other, other ≠ player → (changed.Belongs other ↔ party.Belongs other))
  (invitees : ∀ other, other ≠ player → (other ∈ changed.inviteList ↔ other ∈ party.inviteList))
  (points : next.party player = some number ↔ changed.Belongs player)
  (pointsElse :
    ∀ other, other ≠ number → (next.party player = some other ↔ state.party player = some other))
  (lists : number ∈ next.invitePartyList player ↔ player ∈ changed.inviteList)
  (listsElse :
    ∀ other, other ≠ number →
      (other ∈ next.invitePartyList player ↔ other ∈ state.invitePartyList player))
  (listed : (next.invitePartyList player).Nodup) (proper : changed.Proper)
  (present : state.listPlayer player = true) : Sound next := by
  have replaced : Replaced state next number (some changed) := by
    constructor
    case parties => exact parties
    case listPlayer => exact listPlayer
    case nextParty => exact Nat.le_of_eq nextParty.symm
    case numbered => exact fun _ => nextParty ▸ sound.numbered live
    case points =>
      intro other
      simp only [some.injEq, exists_eq_left']
      by_cases same : other = player
      · exact same ▸ points
      · rw [otherParties other same, belongs other same, sound.points live]
    case pointsElse =>
      intro other item elsewhere
      by_cases same : other = player
      · exact same ▸ pointsElse item elsewhere
      · rw [otherParties other same]
    case lists =>
      intro other
      simp only [some.injEq, exists_eq_left']
      by_cases same : other = player
      · exact same ▸ lists
      · rw [otherLists other same, invitees other same, sound.lists live]
    case listsElse =>
      intro other item elsewhere
      by_cases same : other = player
      · exact same ▸ listsElse item elsewhere
      · rw [otherLists other same]
    case listed =>
      intro other
      by_cases same : other = player
      · exact same ▸ listed
      · rw [otherLists other same]
        exact sound.listed other
  refine replaced.sound sound ?_ ?_
  · rintro stored ⟨⟩
    exact proper
  · rintro stored other ⟨⟩ known
    by_cases same : other = player
    · exact same ▸ present
    · rw [belongs other same, invitees other same] at known
      exact sound.present live known

lemma invitePlayer_sound (sound : Sound state) (live : state.parties number = some party)
  (present : state.listPlayer player = true) (outside : ¬ party.Belongs player) :
  ∃ next, state.invitePlayer number player = some next ∧ Sound next ∧
    (next = state ∧ player ∈ party.inviteList ∨
      next.parties =
        update state.parties number
          (some { party with inviteList := party.inviteList ++ [player] })) := by
  refine ⟨_, by rw [State.invitePlayer, live, map_some], ?_⟩
  by_cases already : party.isPlayerInvited player = true
  · rw [if_pos (by simp [already])]
    exact ⟨sound, Or.inl ⟨rfl, by simpa [Party.isPlayerInvited] using already⟩⟩
  have absent : player ∉ party.inviteList := by
    simpa [Party.isPlayerInvited] using already
  have unlisted : number ∉ state.invitePartyList player :=
    fun listed => absent ((sound.lists live player).mp listed)
  have proper := sound.proper number party live
  rw [if_neg (by simp [already, State.isRemoved, present])]
  have added :
      (state.store number
        (some { party with
          inviteList := party.inviteList ++ [player] })).addPartyInvitation player number =
        { state.store number
            (some { party with inviteList := party.inviteList ++ [player] }) with
          invitePartyList :=
            update state.invitePartyList player (state.invitePartyList player ++ [number]) } :=
    if_neg unlisted
  rw [added]
  refine ⟨?_, Or.inr rfl⟩
  have self :
      update state.invitePartyList player
          (state.invitePartyList player ++ [number]) player =
        state.invitePartyList player ++ [number] :=
    update_self _ _ _
  refine sound.change live player rfl rfl rfl (fun _ _ => rfl)
    (fun other differs => update_of_ne differs _ _) (fun _ _ => Iff.rfl) ?_
    (sound.points live player) (fun _ _ => Iff.rfl) ?_ ?_ ?_ ?_ present
  · intro other differs
    simp [differs]
  · simp only [self]
    simp
  · intro other elsewhere
    simp [elsewhere]
  · simp only [self]
    exact nodup_snoc (sound.listed player) unlisted
  · refine ⟨proper.members, proper.leader, nodup_snoc proper.invitees absent, ?_⟩
    intro other there
    rcases mem_append.mp there with old | new
    · exact proper.outside other old
    · rw [mem_singleton.mp new]
      exact outside

lemma joinParty_sound (sound : Sound state) (live : state.parties number = some party)
  (invitee : player ∈ party.inviteList) (free : state.party player = none) :
  ∃ next, state.joinParty number player = some next ∧ Sound next ∧
    next.parties =
      update state.parties number
        (some
          { party with
            memberList := party.memberList ++ [player]
            inviteList := party.inviteList.erase player }) := by
  have present := sound.present live (Or.inr invitee)
  have proper := sound.proper number party live
  have outside := proper.outside player invitee
  have notLeader : party.leader ≠ player := fun leads => outside (Or.inl leads)
  have notMember : player ∉ party.memberList := fun mem => outside (Or.inr mem)
  refine ⟨_, by rw [State.joinParty, live, map_some], ?_⟩
  rw [if_neg (by simp [State.isRemoved, present])]
  refine ⟨?_, rfl⟩
  have self :
      update state.invitePartyList player
          ((state.invitePartyList player).erase number) player =
        (state.invitePartyList player).erase number :=
    update_self _ _ _
  refine sound.change live player rfl rfl rfl
    (fun other differs => update_of_ne differs _ _)
    (fun other differs => update_of_ne differs _ _) ?_
    (fun other differs => mem_erase_of_ne differs) ?_ ?_ ?_ ?_ ?_ ?_ present
  · intro other differs
    simp [Party.Belongs, differs]
  · simp [State.removePartyInvitation, State.setParty, Party.Belongs]
  · intro other elsewhere
    simp [State.removePartyInvitation, State.setParty, free, Ne.symm elsewhere]
  · simp only [State.removePartyInvitation, State.setParty, State.store, self]
    simp [proper.invitees.mem_erase_iff, (sound.listed player).mem_erase_iff]
  · intro other elsewhere
    simp only [State.removePartyInvitation, State.setParty, State.store, self]
    exact mem_erase_of_ne elsewhere
  · simp only [State.removePartyInvitation, State.setParty, State.store, self]
    exact (sound.listed player).erase _
  · refine ⟨nodup_snoc proper.members notMember, ?_, proper.invitees.erase _, ?_⟩
    · simp only [mem_append, mem_singleton, not_or]
      exact ⟨proper.leader, notLeader⟩
    · intro other there
      rcases proper.invitees.mem_erase_iff.mp there with ⟨differs, old⟩
      rintro (leads | mem)
      · exact proper.outside other old (Or.inl leads)
      · rcases mem_append.mp mem with oldMember | new
        · exact proper.outside other old (Or.inr oldMember)
        · exact differs (mem_singleton.mp new)

lemma removeInvite_sound (sound : Sound state) (company : Accompanied state)
  (live : state.parties number = some party) (invitee : player ∈ party.inviteList) :
  ∃ next, state.removeInvite number player = some next ∧ Sound next ∧
    Accompanied next ∧ next.listPlayer = state.listPlayer ∧
      next.invitePartyList player = (state.invitePartyList player).erase number := by
  have present := sound.present live (Or.inr invitee)
  have proper := sound.proper number party live
  have removes : ¬ (state.isRemoved player || !party.isPlayerInvited player) = true := by
    simp [State.isRemoved, present, Party.isPlayerInvited, invitee]
  rw [State.removeInvite, live, bind_some, if_neg removes]
  have stored :
      ((state.store number
        (some { party with inviteList := party.inviteList.erase player })
        ).removePartyInvitation player number).parties number =
          some { party with inviteList := party.inviteList.erase player } :=
    update_self _ _ _
  simp only
  split
  · rcases disband_disbanded stored (proper.invitees.erase _) with ⟨next, disbands, disbanded⟩
    have whole : Disbanded state next number party := by
      constructor
      · rw [disbanded.parties]
        exact update_idem _ _ _
      · exact disbanded.listPlayer
      · exact disbanded.nextParty
      · exact fun other belongs => disbanded.belonged other belongs
      · exact fun other outside => disbanded.others other outside
      · intro other there
        by_cases same : other = player
        · subst same
          rw [disbanded.uninvited other (proper.invitees.not_mem_erase)]
          exact update_self _ _ _
        · rw [disbanded.withdrawn other ((mem_erase_of_ne same).mpr there)]
          exact congrArg (List.erase · number) (update_of_ne same _ _)
      · intro other absent
        have differs : other ≠ player := by
          rintro rfl
          exact absent invitee
        rw [disbanded.uninvited other fun there => absent (mem_of_mem_erase there)]
        exact update_of_ne differs _ _
    refine ⟨next, disbands, whole.sound live sound, ?_, whole.listPlayer,
      whole.withdrawn player invitee⟩
    exact company.replace none whole.parties fun _ impossible => by
      cases impossible
  · rename_i lively
    refine ⟨_, rfl, ?_, ?_, rfl, update_self _ _ _⟩
    · have self :
          update state.invitePartyList player
              ((state.invitePartyList player).erase number) player =
            (state.invitePartyList player).erase number :=
        update_self _ _ _
      refine sound.change live player rfl rfl rfl (fun _ _ => rfl)
        (fun other differs => update_of_ne differs _ _) (fun _ _ => Iff.rfl)
        (fun other differs => mem_erase_of_ne differs) (sound.points live player)
        (fun _ _ => Iff.rfl) ?_ ?_ ?_ ?_ present
      · simp only [State.removePartyInvitation, State.store, self]
        simp [proper.invitees.mem_erase_iff, (sound.listed player).mem_erase_iff]
      · intro other elsewhere
        simp only [State.removePartyInvitation, State.store, self]
        exact mem_erase_of_ne elsewhere
      · simp only [State.removePartyInvitation, State.store, self]
        exact (sound.listed player).erase _
      · exact ⟨proper.members, proper.leader, proper.invitees.erase _,
          fun other there => proper.outside other (mem_of_mem_erase there)⟩
    · refine
        company.replace
          (some { party with inviteList := party.inviteList.erase player })
          rfl ?_
      rintro stored ⟨⟩
      exact Bool.eq_false_iff.mpr lively

/-! ## Passing the leadership and leaving -/

lemma passPartyLeadership_belongs (mem : player ∈ party.memberList) (other : Nat) :
  (party.passPartyLeadership player).Belongs other ↔ party.Belongs other := by
  rw [Party.passPartyLeadership]
  split
  · rfl
  · simp only [Party.Belongs, mem_cons]
    by_cases same : other = player
    · subst same
      simp [mem]
    · rw [mem_erase_of_ne same]
      simp only [Ne.symm same, false_or, eq_comm]

lemma passPartyLeadership_proper (proper : party.Proper) (mem : player ∈ party.memberList) :
  (party.passPartyLeadership player).Proper := by
  have belongs := passPartyLeadership_belongs mem
  rw [Party.passPartyLeadership] at belongs ⊢
  split
  · exact proper
  · rename_i passes
    rw [if_neg passes] at belongs
    have differs : party.leader ≠ player := by
      rintro rfl
      exact proper.leader mem
    constructor
    · exact nodup_cons.mpr
        ⟨fun there => proper.leader (mem_of_mem_erase there), proper.members.erase _⟩
    · simp only [mem_cons, not_or]
      exact ⟨Ne.symm differs, proper.members.not_mem_erase⟩
    · exact proper.invitees
    · intro other there inside
      exact proper.outside other there ((belongs other).mp inside)

lemma passPartyLeadership_inviteList (party : Party) (player : Nat) :
  (party.passPartyLeadership player).inviteList = party.inviteList := by
  rw [Party.passPartyLeadership]
  split
  · rfl
  · rfl

def Party.Alone (party : Party) (player : Nat) : Prop :=
  party.leader = player ∧ party.memberList = []

structure Left (party left : Party) (player : Nat) : Prop where
  inviteList : left.inviteList = party.inviteList
  proper : left.Proper
  belongs : ∀ other, other ≠ player → (left.Belongs other ↔ party.Belongs other)
  without : ¬ party.Alone player → ¬ left.Belongs player

lemma leaving_left (proper : party.Proper) (inside : party.Belongs player) :
  Left party (State.leaving party player) player := by
  have uninvited : player ∉ party.inviteList := fun there => proper.outside player there inside
  rcases members : party.memberList with _ | ⟨front, rest⟩
  · have leads : party.leader = player := by
      rcases inside with leads | mem
      · exact leads
      · rw [members] at mem
        cases mem
    have same : State.leaving party player = party := by
      rw [State.leaving, members]
      have empty : party.memberList.erase player = party.memberList := by
        rw [members]
        rfl
      simp only [erase_of_not_mem uninvited]
      rw [empty]
    rw [same]
    exact ⟨rfl, proper, fun _ _ => Iff.rfl, fun shared => absurd ⟨leads, members⟩ shared⟩
  · have notAlone : ¬ party.Alone player := by
      rintro ⟨_, empty⟩
      rw [members] at empty
      cases empty
    have here : front ∈ party.memberList := by
      rw [members]
      exact mem_cons_self
    -- after passing on, the one who leaves is a member
    obtain ⟨passed, passes, properPassed, belongs, invitees, mem⟩ :
        ∃ passed : Party,
          State.leaving party player =
              { passed with
                memberList := passed.memberList.erase player
                inviteList := passed.inviteList.erase player } ∧
            passed.Proper ∧
              (∀ other, passed.Belongs other ↔ party.Belongs other) ∧
                passed.inviteList = party.inviteList ∧ passed.leader ≠ player := by
      by_cases leads : party.leader = player
      · refine ⟨party.passPartyLeadership front, ?_,
          passPartyLeadership_proper proper here,
          passPartyLeadership_belongs here,
          passPartyLeadership_inviteList party front, ?_⟩
        · simp only [State.leaving, members, if_pos leads]
        · have differs : party.leader ≠ front := by
            rintro same
            exact proper.leader (same ▸ here)
          rw [Party.passPartyLeadership, if_neg (by simp [differs, Party.isPlayerMember, here])]
          rw [← leads]
          exact Ne.symm differs
      · exact ⟨party, by simp only [State.leaving, members, if_neg leads],
          proper, fun _ => Iff.rfl, rfl, leads⟩
    rw [passes]
    constructor
    · simp only [invitees]
      exact erase_of_not_mem uninvited
    · refine ⟨properPassed.members.erase _, ?_, properPassed.invitees.erase _, ?_⟩
      · exact fun there => properPassed.leader (mem_of_mem_erase there)
      · rintro other there (leads | stays)
        · exact properPassed.outside other (mem_of_mem_erase there) (Or.inl leads)
        · exact properPassed.outside other (mem_of_mem_erase there)
            (Or.inr (mem_of_mem_erase stays))
    · intro other differs
      rw [← belongs other]
      simp only [Party.Belongs, mem_erase_of_ne differs]
    · rintro _ (leads | stays)
      · exact mem leads
      · exact properPassed.members.not_mem_erase stays

lemma leaveParty_sound (sound : Sound state) (company : Accompanied state)
  (points : state.party player = some number) :
  ∃ next, state.leaveParty number player = some next ∧ Sound next ∧
    Accompanied next ∧ next.listPlayer = state.listPlayer ∧
      next.party player = none ∧ next.invitePartyList player = state.invitePartyList player := by
  rcases sound.pointee points with ⟨party, live, inside⟩
  have proper := sound.proper number party live
  have left := leaving_left proper inside
  have uninvited : player ∉ party.inviteList := fun there => proper.outside player there inside
  have stays : ¬ (!party.isPlayerMember player && party.leader != player) = true := by
    rcases inside with leads | mem
    · simp [leads]
    · simp [Party.isPlayerMember, mem]
  rw [State.leaveParty, live, bind_some, if_neg stays]
  have stored :
      ((state.store number (some (State.leaving party player))
        ).setParty player none).parties number = some (State.leaving party player) :=
    update_self _ _ _
  simp only
  split
  · rcases disband_disbanded stored left.proper.invitees with ⟨next, disbands, disbanded⟩
    have whole : Disbanded state next number party := by
      constructor
      · rw [disbanded.parties]
        exact update_idem _ _ _
      · exact disbanded.listPlayer
      · exact disbanded.nextParty
      · intro other belongs
        by_cases same : other = player
        · subst same
          by_cases again : (State.leaving party other).Belongs other
          · exact disbanded.belonged other again
          · rw [disbanded.others other again]
            exact update_self _ _ _
        · exact disbanded.belonged other ((left.belongs other same).mpr belongs)
      · intro other outside
        have differs : other ≠ player := by
          rintro rfl
          exact outside inside
        rw [disbanded.others other fun again => outside ((left.belongs other differs).mp again)]
        exact update_of_ne differs _ _
      · intro other there
        exact disbanded.withdrawn other (left.inviteList ▸ there)
      · intro other absent
        exact disbanded.uninvited other (left.inviteList ▸ absent)
    refine ⟨next, disbands, whole.sound live sound, ?_, whole.listPlayer,
      whole.belonged player inside, whole.uninvited player uninvited⟩
    exact company.replace none whole.parties fun _ impossible => by
      cases impossible
  · rename_i lively
    have notAlone : ¬ party.Alone player := by
      rintro ⟨leads, empty⟩
      simp [leads, empty] at lively
    have gone := left.without notAlone
    refine ⟨_, rfl, ?_, ?_, rfl, update_self _ _ _, rfl⟩
    · refine sound.change live player rfl rfl rfl
        (fun other differs => update_of_ne differs _ _) (fun _ _ => rfl)
        left.belongs ?_ ?_ ?_ ?_ (fun _ _ => Iff.rfl) (sound.listed player) left.proper
        (sound.present live (Or.inl inside))
      · intro other _
        rw [left.inviteList]
      · simp [State.setParty, gone]
      · intro other elsewhere
        simp [State.setParty, points, Ne.symm elsewhere]
      · rw [left.inviteList]
        exact sound.lists live player
    · refine company.replace (some (State.leaving party player)) rfl ?_
      rintro stored ⟨⟩
      rw [Bool.or_eq_true, not_or] at lively
      exact Bool.eq_false_iff.mpr lively.2

/-! ## Logging in and out -/

lemma login_sound (sound : Sound state) (player : Nat) : Sound (state.login player) := by
  rw [State.login]
  split
  · exact sound
  · rename_i absent
    have gone := sound.gone player (Bool.eq_false_iff.mpr absent)
    have pointers : update state.party player none = state.party := by
      rw [← gone.1]
      exact update_eq_self _ _
    have lists : update state.invitePartyList player [] = state.invitePartyList := by
      rw [← gone.2]
      exact update_eq_self _ _
    rw [pointers, lists]
    refine { sound with gone := fun other removed => ?_ }
    by_cases same : other = player
    · rw [same] at removed
      simp only [update_self] at removed
      cases removed
    · simp only [update_of_ne same] at removed
      exact sound.gone other removed

def State.hide (state : State) (player : Nat) : State :=
  { state with invitePartyList := update state.invitePartyList player [] }

lemma removePartyInvitation_hide (state : State) (player other number : Nat) :
  (state.hide player).removePartyInvitation other number =
    (state.removePartyInvitation other number).hide player := by
  have lists :
      ((state.hide player).removePartyInvitation other
          number).invitePartyList =
        ((state.removePartyInvitation other number).hide player).invitePartyList := by
    funext item
    simp only [State.hide, State.removePartyInvitation]
    by_cases same : item = player
    · subst same
      by_cases here : item = other
      · subst here
        simp
      · simp [update_of_ne here]
    · by_cases here : item = other
      · subst here
        simp [update_of_ne same]
      · simp [update_of_ne same, update_of_ne here]
  simp only [State.hide, State.removePartyInvitation, State.mk.injEq] at lists ⊢
  exact ⟨trivial, trivial, lists, trivial, trivial⟩

lemma disband_hide (state : State) (player number : Nat) :
  (state.hide player).disband number = (state.disband number).map (State.hide · player) := by
  have withdraw :
      ∀ (players : List Nat) (state : State),
        players.foldl
            (fun state other => state.removePartyInvitation other number)
            (state.hide player) =
          (players.foldl
            (fun state other => state.removePartyInvitation other number)
            state).hide player := by
    intro players
    induction players with
    | nil => exact fun _ => rfl
    | cons front rest ih =>
      intro state
      rw [foldl_cons, foldl_cons, removePartyInvitation_hide, ih]
  have free :
      ∀ (players : List Nat) (state : State),
        players.foldl (fun state other => state.setParty other none)
            (state.hide player) =
          (players.foldl (fun state other => state.setParty other none) state).hide player := by
    intro players
    induction players with
    | nil => exact fun _ => rfl
    | cons front rest ih =>
      intro state
      exact ih (state.setParty front none)
  rw [State.disband, State.disband, Option.map_map]
  apply congrArg fun change => Option.map change (state.parties number)
  funext party
  have leader :
      (state.hide player).setParty party.leader none =
        (state.setParty party.leader none).hide player :=
    rfl
  simp only [Function.comp]
  rw [leader, withdraw, free]
  rfl

lemma removeInvite_hide (state : State) (player number : Nat) :
  (state.hide player).removeInvite number player =
    (state.removeInvite number player).map (State.hide · player) := by
  rw [State.removeInvite, State.removeInvite, map_bind]
  apply congrArg fun change => Option.bind (state.parties number) change
  funext party
  have removed : (state.hide player).isRemoved player = state.isRemoved player := rfl
  simp only [Function.comp, removed]
  split
  · rfl
  · have next :
        ((state.hide player).store number
            (some { party with inviteList := party.inviteList.erase player })
          ).removePartyInvitation player number =
        ((state.store number
            (some { party with inviteList := party.inviteList.erase player })
          ).removePartyInvitation player number).hide player :=
      removePartyInvitation_hide
        (state.store number (some { party with inviteList := party.inviteList.erase player }))
        player player number
    rw [next]
    split
    · exact disband_hide _ _ _
    · rfl

variable (sound : Sound state)
include sound

variable (company : Accompanied state)
include company

lemma clearPartyInvitations_sound (player : Nat) :
  ∃ next, state.clearPartyInvitations player = some next ∧ Sound next ∧
    Accompanied next ∧ next.listPlayer = state.listPlayer ∧
      next.invitePartyList player = [] := by
  have withdraw :
      ∀ (numbers : List Nat) (state : State),
        Sound state → Accompanied state →
          state.invitePartyList player = numbers →
          ∃ next,
            numbers.foldlM
                (fun state number => state.removeInvite number player)
                (state.hide player) =
              some (next.hide player) ∧
            Sound next ∧ Accompanied next ∧
              next.listPlayer = state.listPlayer ∧ next.invitePartyList player = [] := by
    intro numbers
    induction numbers with
    | nil =>
      intro state sound company list
      exact ⟨state, rfl, sound, company, rfl, list⟩
    | cons number rest ih =>
      intro state sound company list
      have listed : number ∈ state.invitePartyList player := by
        rw [list]
        exact mem_cons_self
      rcases (sound.invited player number).mp listed with ⟨party, live, invitee⟩
      rcases removeInvite_sound sound company live invitee with
        ⟨between, removes, soundBetween, companyBetween, same, erased⟩
      rw [list, erase_cons_head] at erased
      rcases ih between soundBetween companyBetween erased with
        ⟨next, removesRest, soundNext, companyNext, sameNext, empty⟩
      refine ⟨next, ?_, soundNext, companyNext, sameNext.trans same, empty⟩
      rw [foldlM_cons, removeInvite_hide, removes]
      exact removesRest
  rcases withdraw _ state sound company rfl with
    ⟨next, clears, soundNext, companyNext, same, empty⟩
  have whole : next.hide player = next := by
    rw [State.hide, ← empty, update_eq_self]
  rw [whole] at clears
  exact ⟨next, clears, soundNext, companyNext, same, empty⟩

lemma leaveOwnParty_sound (player : Nat) :
  ∃ next, state.leaveOwnParty player = some next ∧ Sound next ∧
    Accompanied next ∧ next.listPlayer = state.listPlayer ∧
      next.party player = none ∧ next.invitePartyList player = state.invitePartyList player := by
  rw [State.leaveOwnParty]
  cases points : state.party player with
  | none => exact ⟨state, rfl, sound, company, rfl, points, rfl⟩
  | some number => exact leaveParty_sound sound company points

lemma removeCreature_sound (player : Nat) :
  ∃ next, state.removeCreature player = some next ∧ Sound next ∧ Accompanied next := by
  rw [State.removeCreature]
  split
  · exact ⟨state, rfl, sound, company⟩
  · rcases clearPartyInvitations_sound sound company player with
      ⟨cleared, clears, soundCleared, companyCleared, same, empty⟩
    rcases leaveOwnParty_sound soundCleared companyCleared player with
      ⟨left, leaves, soundLeft, companyLeft, _, free, lists⟩
    rw [clears, bind_some, leaves, map_some]
    refine ⟨_, rfl, ?_, companyLeft⟩
    refine { soundLeft with gone := fun other removed => ?_ }
    by_cases here : other = player
    · rw [here]
      exact ⟨free, lists.trans empty⟩
    · simp only [update_of_ne here] at removed
      exact soundLeft.gone other removed

end OTServ.Parties
