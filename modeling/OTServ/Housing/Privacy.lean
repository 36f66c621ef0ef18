import OTServ.Housing.Moves
import OTServ.Library.GuardedRuns

/-!
# Privacy of houses

Only players who are invited stand on the tiles of a house, in every run whose
teleports and Teleport items lead nobody into a house uninvited and whose list
edits withdraw no invitation from a player inside.

The conditions are needed: `internalTeleport` asks the house that is left for
an invitation, not the one that is entered, so nothing stops a teleport into a
house, and the teleport by which `setAccessList` would put out a player without
an invitation is refused because that player has none.
-/

namespace OTServ.Housing

open Library.GuardedRuns
open Map
open List Function Option

variable {realm : Realm}

/--
The operations on players and houses.  The last three stand for the rest of the
server: items come and go, other creatures do, and players get locked.
-/
inductive Event where
  | step (player : Nat) (target : Position) (flags : Flags)
  | teleport (player : Nat) (newPos : Position)
  | kick (house : Nat) (kicker : Option Nat) (name : String)
  | setAccessList (house : Nat) (listId : ListId) (textlist : String)
  | setHouseOwner (house guid : Nat) (left : Position → Furniture)
  | furnish (position : Position) (furniture : Furniture)
  | crowd (position : Position) (others : Nat)
  | lock (player : Nat) (pzLocked : Bool)

/-- The state after an event, when it comes to an end within the fuel. -/
def perform (realm : Realm) (fuel : Nat) (state : State) : Event → Option State
  | .step player target flags =>
    (internalMoveCreature realm fuel state player target flags).map Prod.snd
  | .teleport player newPos =>
    (internalTeleport realm fuel state player newPos).map Prod.snd
  | .kick house kicker name => kickPlayer realm fuel state house kicker name
  | .setAccessList house listId textlist =>
    setAccessList realm fuel state house listId textlist
  | .setHouseOwner house guid left =>
    setHouseOwner realm fuel state house guid left
  | .furnish position furniture =>
    some { state with furniture := update state.furniture position furniture }
  | .crowd position others =>
    some { state with others := update state.others position others }
  | .lock player pzLocked =>
    some { state with pzLocked := update state.pzLocked player pzLocked }

def Step (realm : Realm) (state : State) (event : Event) (next : State) : Prop :=
  ∃ fuel, perform realm fuel state event = some next

def Private (realm : Realm) (state : State) : Prop :=
  ∀ player position, state.parent player = some position → Welcome realm state player position

structure EntryIsOpen (realm : Realm) (state : State) (house player : Nat) : Prop where
  free : teleportTile realm state.furniture (realm.posEntry house) = none
  welcome : Welcome realm state player (realm.posEntry house)

/--
The condition on an event: nobody is carried into a house uninvited, no list
edit withdraws the invitation of a player inside, and those whom a change of
owner puts out are found by their names and may stay at the entry.
-/
def Respectful (realm : Realm) (state : State) : Event → Prop
  | .step player target flags =>
    queryAdd realm state player target flags = .noError → StepIsSafe realm state player target
  | .teleport player newPos =>
    state.parent player ≠ some newPos → EndsWell realm state player newPos
  | .kick house _ name =>
    ∀ kicked,
      getPlayerByName realm state name = some kicked →
        standsIn realm state kicked = some house → EntryIsOpen realm state house kicked
  | .setAccessList house listId textlist =>
    ∀ player,
      standsIn realm state player = some house →
        ((state.houses house).setList
          (realm.parseList textlist) listId).isInvited (realm.player player)
  | .setHouseOwner house _ left =>
    (state.houses house).houseOwner ≠ 0 →
      ∀ player,
        standsIn realm state player = some house →
          (realm.player player).canEditHouses = false →
            getPlayerByName realm state (realm.player player).name =
                some player ∧
              EntryIsOpen realm (state.transferToDepot realm house left) house player
  | _ => True

structure Sound (realm : Realm) (state : State) : Prop where
  listed : Listed state
  secluded : Private realm state

variable {state next : State} {player house fuel : Nat} {list : AccessList} {listId : ListId}
  {fields : House} {left : Position → Furniture}

lemma Sound.staysOrMoves (sound : Sound realm state)
  (outcome : StaysOrMoves realm state player next) : Sound realm next := by
  rcases outcome with rfl | ⟨last, welcome, move⟩
  · exact sound
  · refine ⟨move.listed, ?_⟩
    intro other pos stands
    rw [Welcome.congr move.houses]
    by_cases same : other = player
    · rw [same, move.parent_self] at stands
      cases stands
      rw [same]
      exact welcome
    · rw [move.parent_of_ne same] at stands
      exact sound.secluded other pos stands

/-! ## Kicks -/

/-- Players of the house have been put out, all else is as before. -/
structure PutOut (realm : Realm) (house : Nat) (state next : State) : Prop where
  listed : Listed next
  houses : next.houses = state.houses
  furniture : next.furniture = state.furniture
  parent : ∀ player,
    next.parent player = state.parent player ∨
      standsIn realm state player = some house ∧
        EntryIsOpen realm state house player ∧ next.parent player = some (realm.posEntry house)

lemma PutOut.refl (listed : Listed state) : PutOut realm house state state :=
  ⟨listed, rfl, rfl, fun _ => .inl rfl⟩

lemma standsIn_of_parent {position : Position} (stands : state.parent player = some position) :
  standsIn realm state player = realm.house? position := by
  rw [standsIn, stands, bind_some]

lemma standsIn_congr (same : next.parent player = state.parent player) :
  standsIn realm next player = standsIn realm state player := by
  rw [standsIn, standsIn, same]

lemma EntryIsOpen.congr
  (houses : next.houses = state.houses) (furniture : next.furniture = state.furniture) :
  EntryIsOpen realm next house player ↔ EntryIsOpen realm state house player := by
  constructor
  · intro entry
    exact ⟨furniture ▸ entry.free, (Welcome.congr houses).mp entry.welcome⟩
  · intro entry
    exact ⟨by rw [furniture]; exact entry.free, (Welcome.congr houses).mpr entry.welcome⟩

lemma PutOut.outside
  (out : PutOut realm house state next) (outside : standsIn realm state player ≠ some house) :
  standsIn realm next player ≠ some house := by
  rcases out.parent player with same | ⟨inside, _⟩
  · rw [standsIn_congr same]
    exact outside
  · exact absurd inside outside

lemma PutOut.trans {middle : State} (first : PutOut realm house state middle)
  (second : PutOut realm house middle next) : PutOut realm house state next where
  listed := second.listed
  houses := second.houses.trans first.houses
  furniture := second.furniture.trans first.furniture
  parent player := by
    rcases second.parent player with same | ⟨inside, entry, moved⟩
    · rw [same]
      exact first.parent player
    · rcases first.parent player with same | ⟨_, _, moved'⟩
      · right
        rw [standsIn_congr same] at inside
        exact ⟨inside, (EntryIsOpen.congr first.houses first.furniture).mp entry, moved⟩
      · rw [standsIn_of_parent moved'] at inside
        exact absurd inside (realm.posEntry_outside house)

section

variable (out : PutOut realm house state next)
include out

lemma PutOut.sound (sound : Sound realm state) : Sound realm next := by
  refine ⟨out.listed, ?_⟩
  intro player pos stands
  rw [Welcome.congr out.houses]
  rcases out.parent player with same | ⟨_, entry, moved⟩
  · rw [same] at stands
    exact sound.secluded player pos stands
  · rw [moved] at stands
    cases stands
    exact entry.welcome

lemma PutOut.isSome_parent
  (player : Nat) : (next.parent player).isSome = (state.parent player).isSome := by
  rcases out.parent player with same | ⟨inside, _, moved⟩
  · rw [same]
  · rw [moved]
    rcases bind_eq_some_iff.mp inside with ⟨pos, stands, _⟩
    rw [stands]
    rfl

lemma PutOut.getPlayerByName (name : String) :
  getPlayerByName realm next name = getPlayerByName realm state name := by
  simp only [Housing.getPlayerByName, out.isSome_parent]

end

section

variable (sound : Sound realm state)
include sound

lemma internalTeleport_putOut
  {outcome : ReturnValue × State} (inside : standsIn realm state player = some house)
  (entry : EntryIsOpen realm state house player)
  (done : internalTeleport realm fuel state player (realm.posEntry house) = some outcome) :
  PutOut realm house state outcome.2 ∧
    outcome.2.parent player = some (realm.posEntry house) := by
  rcases bind_eq_some_iff.mp inside with ⟨position, stands, tile⟩
  have away : realm.posEntry house ≠ position := by
    intro here
    apply realm.posEntry_outside house
    rw [here, tile]
  have invited := sound.secluded player position stands house tile
  rw [internalTeleport, stands, bind_some, if_neg away,
    if_pos (realm.isTile_posEntry house)] at done
  simp only [tile, invited, if_true] at done
  rcases map_eq_some_iff.mp done with ⟨moved, move, same⟩
  cases same
  rcases moveCreature_moved sound.listed stands move with ⟨last, leads, result⟩
  rw [leads.eq_of_free entry.free] at result
  refine ⟨⟨result.listed, result.houses, result.furniture, ?_⟩, result.parent_self⟩
  intro other
  by_cases same : other = player
  · rw [same]
    exact .inr ⟨inside, entry, result.parent_self⟩
  · exact .inl (result.parent_of_ne same)

lemma kickPlayer_putOut {kicker : Option Nat} {name : String}
  (open_entry : ∀ kicked,
    getPlayerByName realm state name = some kicked →
      standsIn realm state kicked = some house →
        (realm.player kicked).canEditHouses = false → EntryIsOpen realm state house kicked)
  (done : kickPlayer realm fuel state house kicker name = some next) :
  PutOut realm house state next := by
  rw [kickPlayer] at done
  cases found : getPlayerByName realm state name with
  | none =>
    simp only [found, some.injEq] at done
    subst done
    exact PutOut.refl sound.listed
  | some kicked =>
    simp only [found] at done
    split at done
    · rename_i kick
      rcases kick with ⟨inside, _, plain⟩
      rcases map_eq_some_iff.mp done with ⟨outcome, teleport, same⟩
      subst same
      exact (internalTeleport_putOut sound inside
        (open_entry kicked found inside plain) teleport).1
    · cases done
      exact PutOut.refl sound.listed

lemma kickPlayer_by_script
  {kicked : Nat} (found : getPlayerByName realm state (realm.player kicked).name = some kicked)
  (plain : (realm.player kicked).canEditHouses = false)
  (entry : standsIn realm state kicked = some house → EntryIsOpen realm state house kicked)
  (done : kickPlayer realm fuel state house none (realm.player kicked).name = some next) :
  standsIn realm next kicked ≠ some house := by
  by_cases inside : standsIn realm state kicked = some house
  · have level :
        ((state.houses house).getHouseAccessLevel
            (some (realm.player kicked))).rank ≤
          ((state.houses house).getHouseAccessLevel none).rank :=
      (state.houses house).rank_le_script _
    simp only [kickPlayer, found, map_none] at done
    rw [if_pos ⟨inside, level, plain⟩] at done
    rcases map_eq_some_iff.mp done with ⟨outcome, teleport, same⟩
    subst same
    have moved := (internalTeleport_putOut sound inside (entry inside) teleport).2
    rw [standsIn_of_parent moved]
    exact realm.posEntry_outside house
  · have out :=
      kickPlayer_putOut sound
        (fun other known within _ => by
          rw [found] at known
          cases known
          exact absurd within inside)
        done
    exact out.outside inside

/-- After the kicks only players who edit houses are left of the list. -/
lemma kickByName_putOut {list : List Nat}
  (known : ∀ player ∈ list,
    (realm.player player).canEditHouses = false →
      getPlayerByName realm state (realm.player player).name = some player)
  (entry : ∀ player,
    standsIn realm state player = some house →
      (realm.player player).canEditHouses = false → EntryIsOpen realm state house player)
  (done : kickByName realm fuel house list state = some next) :
  PutOut realm house state next ∧
    ∀ player ∈ list,
      (realm.player player).canEditHouses = false → standsIn realm next player ≠ some house := by
  induction list generalizing state with
  | nil =>
    cases done
    exact ⟨PutOut.refl sound.listed, by simp⟩
  | cons kicked rest ih =>
    rcases bind_eq_some_iff.mp done with ⟨middle, kick, further⟩
    have first : PutOut realm house state middle :=
      kickPlayer_putOut sound (fun other _ inside plain => entry other inside plain) kick
    have second :=
      ih (first.sound sound)
        (fun player listed plain => by
          rw [first.getPlayerByName]
          exact known player (mem_cons_of_mem kicked listed) plain)
        (fun player inside plain => by
          rw [EntryIsOpen.congr first.houses first.furniture]
          refine entry player ?_ plain
          by_contra outside
          exact first.outside outside inside)
        further
    refine ⟨first.trans second.1, ?_⟩
    intro player listed plain
    rcases mem_cons.mp listed with rfl | later
    · apply second.1.outside
      exact kickPlayer_by_script sound
        (known player mem_cons_self plain) plain
        (fun inside => entry player inside plain) kick
    · exact second.2 player later plain

end

/-! ## Access lists and owners -/

lemma mem_playersInside (listed : Listed state) (house player : Nat) :
  player ∈ playersInside realm state house ↔ standsIn realm state player = some house := by
  simp only [playersInside, mem_flatMap, realm.mem_houseTiles, listed.mem,
    standsIn, bind_eq_some_iff]
  constructor
  · rintro ⟨pos, tile, stands⟩
    exact ⟨pos, stands, tile⟩
  · rintro ⟨pos, stands, tile⟩
    exact ⟨pos, tile, stands⟩

lemma setAccessList_eq {textlist : String} (listed : Listed state)
  (invited : ∀ player,
    standsIn realm state player = some house →
      ((state.houses house).setList
        (realm.parseList textlist) listId).isInvited (realm.player player)) :
  setAccessList realm fuel state house listId textlist =
    some (state.setList house listId (realm.parseList textlist)) := by
  have nobody :
      (playersInside realm
          (state.setList house listId (realm.parseList textlist)) house).filter
        (fun player =>
          !((state.setList house listId (realm.parseList textlist)).houses
            house).isInvited (realm.player player)) = [] := by
    rw [filter_eq_nil_iff]
    intro player inside
    have stands : standsIn realm state player = some house :=
      (mem_playersInside listed house player).mp inside
    simp [State.setList, invited player stands]
  simp only [setAccessList, nobody, kickAll]

/-- Changes of one house which keep the people inside invited. -/
structure Rearranged (realm : Realm) (house : Nat) (state next : State) : Prop where
  parent : next.parent = state.parent
  creatures : next.creatures = state.creatures
  houses : ∀ other, other ≠ house → next.houses other = state.houses other
  invited : ∀ player,
    standsIn realm state player = some house →
      (state.houses house).isInvited (realm.player player) →
        (next.houses house).isInvited (realm.player player)

lemma Rearranged.sound (rearranged : Rearranged realm house state next)
  (sound : Sound realm state) : Sound realm next where
  listed :=
    { mem := fun player pos => by
        rw [rearranged.parent, rearranged.creatures, sound.listed.mem]
      nodup := fun pos => by
        rw [rearranged.creatures]
        exact sound.listed.nodup pos }
  secluded player pos stands other tile := by
    rw [rearranged.parent] at stands
    have before := sound.secluded player pos stands other tile
    by_cases same : other = house
    · subst same
      refine rearranged.invited player ?_ before
      rw [standsIn_of_parent stands, tile]
    · rw [rearranged.houses other same]
      exact before

lemma State.setList_rearranged
  (invited : ∀ player,
    standsIn realm state player = some house →
      ((state.houses house).setList list listId).isInvited (realm.player player)) :
  Rearranged realm house state (state.setList house listId list) where
  parent := rfl
  creatures := rfl
  houses other different := by
    simp only [State.setList, update_of_ne different]
  invited player inside _ := by
    simp only [State.setList, update_self]
    exact invited player inside

lemma State.setHouse_rearranged
  (invited : ∀ player,
    standsIn realm state player = some house →
      (state.houses house).isInvited (realm.player player) →
        fields.isInvited (realm.player player)) :
  Rearranged realm house state (state.setHouse house fields) where
  parent := rfl
  creatures := rfl
  houses other different := by
    simp only [State.setHouse, update_of_ne different]
  invited player inside before := by
    simp only [State.setHouse, update_self]
    exact invited player inside before

section

variable (sound : Sound realm state)
include sound

lemma Sound.setList
  (invited : ∀ player,
    standsIn realm state player = some house →
      ((state.houses house).setList list listId).isInvited (realm.player player)) :
  Sound realm (state.setList house listId list) :=
  (State.setList_rearranged invited).sound sound

lemma Sound.setHouse
  (invited : ∀ player,
    standsIn realm state player = some house →
      (state.houses house).isInvited (realm.player player) →
        fields.isInvited (realm.player player)) : Sound realm (state.setHouse house fields) :=
  (State.setHouse_rearranged invited).sound sound

lemma Sound.congr
  (parent : next.parent = state.parent) (creatures : next.creatures = state.creatures)
  (houses : next.houses = state.houses) : Sound realm next where
  listed :=
    { mem := fun player pos => by
        rw [parent, creatures, sound.listed.mem]
      nodup := fun pos => by
        rw [creatures]
        exact sound.listed.nodup pos }
  secluded player pos stands := by
    rw [Welcome.congr houses]
    rw [parent] at stands
    exact sound.secluded player pos stands

end

lemma enterOwner_rearranged (unowned : (state.houses house).houseOwner = 0) (guid : Nat) :
  Rearranged realm house state (enterOwner realm state house guid) := by
  rw [enterOwner]
  split
  · exact State.setHouse_rearranged fun player _ invited =>
      House.isInvited_of_unowned unowned invited guid
  · exact ⟨rfl, rfl, fun _ _ => rfl, fun _ _ invited => invited⟩

lemma EntryIsOpen.setHouse (entry : EntryIsOpen realm state house player) (fields : House) :
  EntryIsOpen realm (state.setHouse house fields) house player where
  free := entry.free
  welcome other tile := by
    have ne : other ≠ house := by
      intro same
      apply realm.posEntry_outside house
      rw [tile, same]
    simp only [State.setHouse, update_of_ne ne]
    exact entry.welcome other tile

/-- Everybody inside is put out to the entry, unless that player edits houses. -/
lemma evict_spec (sound : Sound realm state)
  (orderly : ∀ player,
    standsIn realm state player = some house →
      (realm.player player).canEditHouses = false →
        getPlayerByName realm state (realm.player player).name =
            some player ∧
          EntryIsOpen realm (state.transferToDepot realm house left) house player)
  (done : evict realm fuel state house left = some next) :
  Sound realm next ∧
    (next.houses house).houseOwner = 0 ∧
      ∀ player,
        next.parent player = state.parent player ∨
          standsIn realm state player = some house ∧
            next.parent player = some (realm.posEntry house) := by
  rcases bind_eq_some_iff.mp done with ⟨kicked, kicks, clearing⟩
  have emptied : Sound realm (state.transferToDepot realm house left) := sound.congr rfl rfl rfl
  have inside : ∀ player,
      player ∈
          (playersInside realm (state.transferToDepot realm house left) house).reverse ↔
        standsIn realm state player = some house := by
    intro player
    rw [mem_reverse, mem_playersInside emptied.listed]
    rfl
  have out :=
    kickByName_putOut emptied
      (fun player listed plain => (orderly player ((inside player).mp listed) plain).1)
      (fun player stands plain => (orderly player stands plain).2)
      kicks
  have kept := out.1.sound emptied
  -- whoever is still inside edits houses and is invited whatever the lists say
  have invited : ∀ player,
      standsIn realm kicked player = some house →
        ∀ fields : House, fields.isInvited (realm.player player) := by
    intro player still fields
    apply fields.isInvited_of_canEditHouses
    by_contra plain
    have within : standsIn realm state player = some house := by
      by_contra outside
      exact out.1.outside outside still
    exact out.2 player ((inside player).mpr within) (by simpa using plain) still
  have first : Sound realm (kicked.setHouse house ((kicked.houses house).setOwner 0)) :=
    kept.setHouse fun player stands _ => invited player stands _
  dsimp only at clearing
  rw [setAccessList_eq first.listed (fun player stands => invited player stands _)] at clearing
  have second :
      Sound realm
        ((kicked.setHouse house ((kicked.houses house).setOwner 0)).setList
          house .subownerList (realm.parseList "")) :=
    first.setList fun player stands => invited player stands _
  rw [bind_some, setAccessList_eq second.listed
    (fun player stands => invited player stands _)] at clearing
  cases clearing
  refine ⟨?_, ?_, ?_⟩
  · exact second.setList fun player stands => invited player stands _
  · simp [State.setList, State.setHouse, House.setList, House.setOwner]
  · intro player
    rcases out.1.parent player with same | ⟨stands, _, moved⟩
    · exact .inl same
    · exact .inr ⟨stands, moved⟩

lemma setHouseOwner_spec {guid : Nat} (sound : Sound realm state)
  (orderly : Respectful realm state (.setHouseOwner house guid left))
  (done : setHouseOwner realm fuel state house guid left = some next) :
  Sound realm next ∧
    ∀ player,
      next.parent player = state.parent player ∨
        standsIn realm state player = some house ∧
          next.parent player = some (realm.posEntry house) := by
  have loaded : Sound realm (state.setHouse house { state.houses house with isLoaded := true }) :=
    sound.setHouse fun _ _ invited => invited
  rw [setHouseOwner] at done
  split at done
  · cases done
    exact ⟨sound, fun _ => .inl rfl⟩
  · split at done
    · rename_i owned
      rcases map_eq_some_iff.mp done with ⟨evicted, eviction, same⟩
      subst same
      rcases evict_spec loaded
          (fun player inside plain =>
            ⟨(orderly owned player inside plain).1,
              (orderly owned player inside plain).2.setHouse _⟩)
          eviction with
        ⟨kept, unowned, parent⟩
      have entered : Rearranged realm house _ _ := enterOwner_rearranged unowned guid
      refine ⟨entered.sound kept, ?_⟩
      intro player
      rw [entered.parent]
      exact parent player
    · rename_i nobody
      cases done
      have unowned :
          ((state.setHouse house
            { state.houses house with isLoaded := true }).houses house).houseOwner = 0 := by
        simpa [State.setHouse] using nobody
      have entered : Rearranged realm house _ _ := enterOwner_rearranged unowned guid
      refine ⟨entered.sound loaded, ?_⟩
      intro player
      rw [entered.parent]
      exact .inl rfl

/-- What an event does to the houses, or else to the players. -/
def LeavesOrPutsOut (realm : Realm) (state next : State) : Prop :=
  next.houses = state.houses ∨
    ∃ house, ∀ player,
      next.parent player = state.parent player ∨
        standsIn realm state player = some house ∧ next.parent player = some (realm.posEntry house)

lemma StaysOrMoves.houses (outcome : StaysOrMoves realm state player next) :
  next.houses = state.houses := by
  rcases outcome with rfl | ⟨_, _, move⟩
  · rfl
  · exact move.houses

lemma Sound.step {event : Event} (sound : Sound realm state)
  (respectful : Respectful realm state event) (taken : Step realm state event next) :
  Sound realm next ∧ LeavesOrPutsOut realm state next := by
  rcases taken with ⟨fuel, done⟩
  cases event with
  | step player target flags =>
    rcases map_eq_some_iff.mp done with ⟨outcome, move, same⟩
    subst same
    have cases := internalMoveCreature_cases sound.listed respectful move
    exact ⟨sound.staysOrMoves cases, .inl cases.houses⟩
  | teleport player newPos =>
    rcases map_eq_some_iff.mp done with ⟨outcome, move, same⟩
    subst same
    have cases := internalTeleport_cases sound.listed respectful move
    exact ⟨sound.staysOrMoves cases, .inl cases.houses⟩
  | kick house kicker name =>
    have out :=
      kickPlayer_putOut sound (fun kicked found inside _ => respectful kicked found inside) done
    exact ⟨out.sound sound, .inl out.houses⟩
  | setAccessList house listId textlist =>
    rw [perform, setAccessList_eq sound.listed respectful] at done
    cases done
    exact ⟨sound.setList respectful, .inr ⟨house, fun _ => .inl rfl⟩⟩
  | setHouseOwner house guid left =>
    have spec := setHouseOwner_spec sound respectful done
    exact ⟨spec.1, .inr ⟨house, spec.2⟩⟩
  | furnish pos furniture | crowd pos others | lock player pzLocked =>
    cases done
    exact ⟨sound.congr rfl rfl rfl, .inl rfl⟩

lemma Sound.run {start finish : State} (sound : Sound realm start)
  (run : Reaches (Step realm) (Respectful realm) start finish) : Sound realm finish := by
  apply run.invariant sound
  intro state event next holds respectful taken
  exact (holds.step respectful taken).1

/--
In every respectful run only invited players stand on the tiles of a house, and
when an event withdraws the invitation of a player inside, that player is at the
entry of the house afterwards.
-/
theorem houses_stay_private (realm : Realm) (start finish : State) (sound : Sound realm start)
  (run : Reaches (Step realm) (Respectful realm) start finish) :
  Private realm finish ∧
    ∀ event next,
      Respectful realm finish event →
        Step realm finish event next →
          Private realm next ∧
            ∀ player house,
              standsIn realm finish player = some house →
                ¬ (next.houses house).isInvited (realm.player player) →
                  next.parent player = some (realm.posEntry house) := by
  have reached := sound.run run
  refine ⟨reached.secluded, ?_⟩
  intro event next respectful taken
  rcases reached.step respectful taken with ⟨kept, outcome⟩
  refine ⟨kept.secluded, ?_⟩
  intro player house inside uninvited
  rcases bind_eq_some_iff.mp inside with ⟨position, stands, tile⟩
  rcases outcome with same | ⟨changed, parent⟩
  · rw [same] at uninvited
    exact absurd (reached.secluded player position stands house tile) uninvited
  · rcases parent player with same | ⟨within, moved⟩
    · rw [stands] at same
      exact absurd (kept.secluded player position same house tile) uninvited
    · rw [inside] at within
      cases within
      exact moved

/-! ## A cottage -/

def path : Position := ⟨100, 100, 7⟩

def parlour : Position := ⟨101, 100, 7⟩

/-- House 1 is a cottage of a single tile; its lists cannot be filled. -/
def cottage : Realm where
  isTile position := position = path ∨ position = parlour
  house? position := if position = parlour then some 1 else none
  houseTiles house := if house = 1 then [parlour] else []
  posEntry _ := path
  player number :=
    { guid := number + 1, name := if number = 0 then "host" else "guest",
      guildId := 0, guildRank := "", canEditHouses := false,
      guid_ne_zero := Nat.succ_ne_zero number }
  listPlayer := [0, 1]
  parseList _ := ⟨[], [], []⟩
  getNameByGuid _ := some "host"
  mem_houseTiles house position := by
    by_cases first : house = 1
    · by_cases here : position = parlour <;> simp [first, here]
    · by_cases here : position = parlour <;> simp [first, here, Ne.symm first]
  isTile_posEntry _ := by simp
  posEntry_outside _ := by simp [path, parlour]

def bare : Furniture :=
  ⟨some ⟨false, false, 0, none⟩, [], [], false, false, false, false, false,
    false, false, false, false, false, false⟩

/-- The host, who owns the cottage, and a guest stand on the path. -/
def arrival : State where
  furniture _ := bare
  creatures position := if position = path then [0, 1] else []
  others _ := 0
  parent player := if player < 2 then some path else none
  pzLocked _ := false
  houses _ := ⟨1, true, ⟨[], [], []⟩, ⟨[], [], []⟩⟩

lemma arrival_sound : Sound cottage arrival where
  listed :=
    { mem := fun player pos => by
        by_cases here : pos = path
        · simp only [arrival, here, if_true, mem_cons, not_mem_nil, or_false]
          constructor
          · intro member
            have few : player < 2 := by omega
            simp [few]
          · intro stands
            by_cases few : player < 2
            · omega
            · simp [few] at stands
        · simp [arrival, here, Ne.symm here]
      nodup := fun pos => by
        by_cases here : pos = path <;> simp [arrival, here] }
  secluded player pos stands house tile := by
    by_cases few : player < 2
    · simp only [arrival, few, if_true, some.injEq] at stands
      subst stands
      simp [cottage, path, parlour] at tile
    · have nowhere : arrival.parent player = none := if_neg few
      rw [nowhere] at stands
      cases stands

lemma arrival_teleport (player : Nat) (online : player < 2) :
  Step cottage arrival (.teleport player parlour) (arrival.relocate player path parlour) := by
  refine ⟨1, ?_⟩
  have away : parlour ≠ path := by decide
  have outside : cottage.house? path = none := by
    simp [cottage, path, parlour]
  have free : teleportTile cottage arrival.furniture parlour = none := rfl
  have stands : arrival.parent player = some path := if_pos online
  simp only [perform, internalTeleport, stands, bind_some, away,
    if_false, outside, moveCreature, free]
  rfl

/-- The host is teleported home. -/
theorem houses_stay_private_at_home : Private cottage (arrival.relocate 0 path parlour) := by
  have respectful : Respectful cottage arrival (.teleport 0 parlour) := by
    intro _ last leads house tile
    have here : last = parlour := leads.eq_of_free rfl
    rfl
  exact (houses_stay_private cottage arrival _ arrival_sound
    (.tail .refl respectful (arrival_teleport 0 (by decide)))).1

/-- A guest who is not invited is teleported into the cottage all the same. -/
theorem uninvited_teleport :
  Sound cottage arrival ∧
    ∃ finish, Reaches (Step cottage) Always arrival finish ∧ ¬ Private cottage finish := by
  refine ⟨arrival_sound, arrival.relocate 1 path parlour,
    .tail .refl trivial (arrival_teleport 1 (by decide)), ?_⟩
  intro secluded
  have invited := secluded 1 parlour rfl 1 rfl
  exact absurd invited (by decide)

end OTServ.Housing
