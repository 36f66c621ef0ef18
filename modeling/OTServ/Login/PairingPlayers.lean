import OTServ.Login.PairingTasks
import Mathlib.Algebra.BigOperators.Group.Finset.Piecewise

/-!
# Players of protocols

A player's client is a living protocol that has the player, and the uses of a player
are its protocols, its place in the game, the references waiting to be released and
those of others.  One lemma says what a change of one player has to keep; the functions
that give, take and release players are cases of it.
-/

namespace OTServ.Login.Pairing

open Network
open List Function Option

variable {other p : Nat} {after : Game} {task : Task}

namespace Game

variable {game : Game} {current : List Task} {q : Nat}

/-! ## Changes of one protocol -/

lemma setProtocol_self (change : ProtocolGame → ProtocolGame) :
  (game.setProtocol q change).protocols q = change (game.protocols q) :=
  update_self ..

lemma setProtocol_other (ne : other ≠ q) (change : ProtocolGame → ProtocolGame) :
  (game.setProtocol q change).protocols other = game.protocols other :=
  update_of_ne ne ..

lemma setPlayer_self (game : Game) (p : Nat) (change : Player → Player) :
  (game.setPlayer p change).players p = change (game.players p) :=
  update_self ..

lemma setPlayer_other (ne : other ≠ p) (change : Player → Player) :
  (game.setPlayer p change).players other = game.players other :=
  update_of_ne ne ..

/-! ## The tasks of all protocols -/

structure Threads (current : List Task) (game : Game) : Prop where
  orderly : ∀ q, Orderly (game.protocols q) (own q (current ++ game.tasks)) (own q game.events)
  born : ∀ q, (game.protocols q).created = true → q < game.nextProtocol

/-- What one protocol does with its tasks leaves the others alone. -/
lemma Threads.change {later : List Task} (threads : Threads current game) (q : Nat)
  (protocols : ∀ other, other ≠ q → after.protocols other = game.protocols other)
  (tasks :
    ∀ other, other ≠ q → own other (later ++ after.tasks) = own other (current ++ game.tasks))
  (events : ∀ other, other ≠ q → own other after.events = own other game.events)
  (next : after.nextProtocol = game.nextProtocol)
  (born : (after.protocols q).created = true → q < game.nextProtocol)
  (orderly : Orderly (after.protocols q) (own q (later ++ after.tasks)) (own q after.events)) :
  Threads later after where
  orderly other := by
    by_cases same : other = q
    · rw [same]
      exact orderly
    · rw [protocols other same, tasks other same, events other same]
      exact threads.orderly other
  born other created := by
    rw [next]
    by_cases same : other = q
    · rw [same]
      rw [same] at created
      exact born created
    · rw [protocols other same] at created
      exact threads.born other created

lemma Threads.setProtocol {change : ProtocolGame → ProtocolGame} (threads : Threads current game)
  (q : Nat) (created : (change (game.protocols q)).created = (game.protocols q).created)
  (orderly :
    Orderly (change (game.protocols q)) (own q (current ++ game.tasks)) (own q game.events)) :
  Threads current (game.setProtocol q change) := by
  refine threads.change q (fun other ne => setProtocol_other ne change)
    (fun _ _ => rfl) (fun _ _ => rfl) rfl ?_ ?_
  · rw [setProtocol_self, created]
    exact threads.born q
  · rw [setProtocol_self]
    exact orderly

lemma own_appended (q : Nat) (tasks more : List Task) :
  own q (current ++ (tasks ++ more)) = own q (current ++ tasks) ++ own q more := by
  rw [← append_assoc, own_append]

/-- A protocol changes and adds a task of its own. -/
lemma Threads.addTask
  {change : ProtocolGame → ProtocolGame} (threads : Threads current game) (task : Task)
  (born :
    (change (game.protocols task.protocol)).created = true → task.protocol < game.nextProtocol)
  (orderly :
    Orderly (change (game.protocols task.protocol))
      (own task.protocol (current ++ game.tasks) ++ [task.kind])
      (own task.protocol game.events)) :
  Threads current
    { game.setProtocol task.protocol change with tasks := game.tasks ++ [task] } := by
  refine threads.change task.protocol
    (fun other ne => setProtocol_other ne change) ?_ (fun _ _ => rfl) rfl
    ?_ ?_
  · intro other ne
    rw [own_appended, own_other (Ne.symm ne), append_nil]
  · dsimp only
    rw [setProtocol_self]
    exact born
  · dsimp only
    rw [setProtocol_self, own_appended, own_self]
    exact orderly

lemma Threads.first (threads : Threads [task] game) :
  Orderly (game.protocols task.protocol)
    (task.kind :: own task.protocol game.tasks)
    (own task.protocol game.events) := by
  have first := threads.orderly task.protocol
  rw [singleton_append, own_cons_self] at first
  exact first

/-- The task that is being run is done, with a change of its protocol. -/
lemma Threads.finish (threads : Threads [task] game)
  (protocols : ∀ other, other ≠ task.protocol → after.protocols other = game.protocols other)
  (tasks : ∀ other, other ≠ task.protocol → own other after.tasks = own other game.tasks)
  (events : ∀ other, other ≠ task.protocol → own other after.events = own other game.events)
  (next : after.nextProtocol = game.nextProtocol)
  (created : (after.protocols task.protocol).created = (game.protocols task.protocol).created)
  (orderly :
    Orderly (after.protocols task.protocol) (own task.protocol after.tasks)
      (own task.protocol after.events)) : Threads [] after := by
  refine threads.change task.protocol protocols ?_ events next ?_ orderly
  · intro other ne
    rw [nil_append, singleton_append, own_cons_other (Ne.symm ne)]
    exact tasks other ne
  · rw [created]
    exact threads.born task.protocol

/-! ## Players and their protocols -/

def owners (game : Game) (p : Nat) : Nat :=
  ∑ q ∈ Finset.range game.nextProtocol, if (game.protocols q).player = some p then 1 else 0

/-- The invariant of the players, with the references that are yet to be released. -/
structure Paired (pending : List Nat) (game : Game) : Prop where
  clients :
    ∀ p q, (game.players p).client = some q →
      (game.protocols q).player = some p ∧ (game.protocols q).deleted = false
  listed : ∀ p, p ∈ game.listPlayer ↔ (game.players p).online = true
  once : game.listPlayer.Nodup
  names :
    ∀ p other, (game.players p).online = true → (game.players other).online = true →
      asUpperCaseString (game.players p).name =
        asUpperCaseString (game.players other).name → p = other
  unborn :
    ∀ p, game.nextPlayer ≤ p →
      game.players p = .new [] none ∧ p ∉ pending ∧ ∀ q, (game.protocols q).player ≠ some p
  counted :
    ∀ p, (game.players p).useCount =
      game.owners p + pending.count p + (if (game.players p).online then 1 else 0) +
        (game.players p).holds
  destroyed : ∀ p, (game.players p).destroyed = true → (game.players p).useCount ≤ 0

section Players

variable {pending : List Nat}

lemma Paired.frame (paired : Paired pending game)
  (player : ∀ q, (after.protocols q).player = (game.protocols q).player)
  (deleted : ∀ q, (after.protocols q).deleted = (game.protocols q).deleted)
  (next : after.nextProtocol = game.nextProtocol) (players : after.players = game.players)
  (listPlayer : after.listPlayer = game.listPlayer)
  (nextPlayer : after.nextPlayer = game.nextPlayer) : Paired pending after := by
  have owners : ∀ p, after.owners p = game.owners p := by
    intro p
    unfold Game.owners
    rw [next]
    exact Finset.sum_congr rfl fun q _ => by rw [player]
  refine
    { clients := ?_
      listed := ?_
      once := ?_
      names := ?_
      unborn := ?_
      counted := ?_
      destroyed := ?_ }
  · intro p q client
    rw [players] at client
    rw [player, deleted]
    exact paired.clients p q client
  · rw [listPlayer, players]
    exact paired.listed
  · rw [listPlayer]
    exact paired.once
  · rw [players]
    exact paired.names
  · intro p unborn
    rw [nextPlayer] at unborn
    obtain ⟨new, notPending, noOwner⟩ := paired.unborn p unborn
    rw [players]
    exact ⟨new, notPending, fun q => player q ▸ noOwner q⟩
  · intro p
    rw [players, owners]
    exact paired.counted p
  · rw [players]
    exact paired.destroyed

lemma Paired.setProtocol
  (paired : Paired pending game) (q : Nat) (change : ProtocolGame → ProtocolGame)
  (player : (change (game.protocols q)).player = (game.protocols q).player)
  (deleted : (change (game.protocols q)).deleted = (game.protocols q).deleted) :
  Paired pending (game.setProtocol q change) := by
  refine paired.frame ?_ ?_ rfl rfl rfl rfl
  · intro other
    by_cases same : other = q
    · rw [same, setProtocol_self, player]
    · rw [setProtocol_other same]
  · intro other
    by_cases same : other = q
    · rw [same, setProtocol_self, deleted]
    · rw [setProtocol_other same]

lemma owners_update
  (born : q < game.nextProtocol) (next : after.nextProtocol = game.nextProtocol)
  (others : ∀ other, other ≠ q → (after.protocols other).player = (game.protocols other).player)
  (p : Nat) :
  after.owners p + (if (game.protocols q).player = some p then 1 else 0) =
    game.owners p + if (after.protocols q).player = some p then 1 else 0 := by
  have mem : q ∈ Finset.range game.nextProtocol := Finset.mem_range.mpr born
  have rest :
      (∑ other ∈ (Finset.range game.nextProtocol).erase q,
        if (after.protocols other).player = some p then 1 else 0) =
      ∑ other ∈ (Finset.range game.nextProtocol).erase q,
        if (game.protocols other).player = some p then 1 else 0 :=
    Finset.sum_congr rfl fun other inside => by
      rw [others other (Finset.ne_of_mem_erase inside)]
  unfold owners
  rw [next, ← Finset.add_sum_erase _ _ mem, rest, ← Finset.add_sum_erase _ _ mem]
  omega

section

variable (paired : Paired pending game)
include paired

lemma Paired.living
  (used : 0 < game.owners p + pending.count p +
    (if (game.players p).online then 1 else 0) + (game.players p).holds) :
  (game.players p).destroyed = false := by
  by_contra destroyed
  have counted := paired.counted p
  have zero := paired.destroyed p (by simpa using destroyed)
  rw [counted] at zero
  split_ifs at used zero <;> omega

/-- One change of a player, which keeps its client. -/
lemma Paired.setPlayer {change : Player → Player} (p : Nat) (born : p < game.nextPlayer)
  (client : (change (game.players p)).client = (game.players p).client)
  (name : (change (game.players p)).name = (game.players p).name)
  (online : (change (game.players p)).online = (game.players p).online)
  (counted :
    (change (game.players p)).useCount - (change (game.players p)).holds =
      (game.players p).useCount - (game.players p).holds)
  (destroyed :
    (change (game.players p)).destroyed = true → (change (game.players p)).useCount ≤ 0) :
  Paired pending (game.setPlayer p change) where
  clients other q := by
    by_cases same : other = p
    · rw [same, setPlayer_self, client]
      exact paired.clients p q
    · rw [setPlayer_other same]
      exact paired.clients other q
  listed other := by
    by_cases same : other = p
    · rw [same, setPlayer_self, online]
      exact paired.listed p
    · rw [setPlayer_other same]
      exact paired.listed other
  once := paired.once
  names := by
    have onlines : ∀ other,
        ((game.setPlayer p change).players other).online = (game.players other).online := by
      intro other
      by_cases same : other = p
      · rw [same, setPlayer_self, online]
      · rw [setPlayer_other same]
    have names : ∀ other,
        ((game.setPlayer p change).players other).name = (game.players other).name := by
      intro other
      by_cases same : other = p
      · rw [same, setPlayer_self, name]
      · rw [setPlayer_other same]
    intro first second
    rw [onlines, onlines, names, names]
    exact paired.names first second
  unborn other unborn := by
    have ne : other ≠ p := Nat.ne_of_gt (Nat.lt_of_lt_of_le born unborn)
    rw [setPlayer_other ne]
    exact paired.unborn other unborn
  counted other := by
    by_cases same : other = p
    · have before := paired.counted p
      rw [same, setPlayer_self, online]
      have owners : (game.setPlayer p change).owners p = game.owners p := rfl
      omega
    · rw [setPlayer_other same]
      exact paired.counted other
  destroyed other := by
    by_cases same : other = p
    · rw [same, setPlayer_self]
      exact destroyed
    · rw [setPlayer_other same]
      exact paired.destroyed other

/-- One player changes, with the protocols that have it. -/
lemma Paired.change {later : List Nat} (p : Nat)
  (others : ∀ other, other ≠ p → after.players other = game.players other)
  (clients :
    ∀ other q, other ≠ p → (game.protocols q).player = some other →
      (game.protocols q).deleted = false →
        (after.protocols q).player = some other ∧ (after.protocols q).deleted = false)
  (client :
    ∀ q, (after.players p).client = some q →
      (after.protocols q).player = some p ∧ (after.protocols q).deleted = false)
  (listed : ∀ other, other ≠ p → (other ∈ after.listPlayer ↔ other ∈ game.listPlayer))
  (online : p ∈ after.listPlayer ↔ (after.players p).online = true)
  (once : after.listPlayer.Nodup)
  (names :
    (after.players p).online = true →
      ∀ other, other ≠ p → (game.players other).online = true →
        asUpperCaseString (after.players p).name ≠ asUpperCaseString (game.players other).name)
  (next : game.nextPlayer ≤ after.nextPlayer) (born : p < after.nextPlayer)
  (unborn :
    ∀ other, after.nextPlayer ≤ other →
      other ∉ later ∧ ∀ q, (after.protocols q).player ≠ some other)
  (counts :
    ∀ other, other ≠ p →
      after.owners other + later.count other = game.owners other + pending.count other)
  (counted :
    (after.players p).useCount =
      after.owners p + later.count p + (if (after.players p).online then 1 else 0) +
        (after.players p).holds)
  (destroyed : (after.players p).destroyed = true → (after.players p).useCount ≤ 0) :
  Paired later after where
  clients other q has := by
    by_cases same : other = p
    · rw [same] at has ⊢
      exact client q has
    · rw [others other same] at has
      obtain ⟨player, living⟩ := paired.clients other q has
      exact clients other q same player living
  listed other := by
    by_cases same : other = p
    · rw [same]
      exact online
    · rw [listed other same, others other same]
      exact paired.listed other
  once := once
  names first second firstOnline secondOnline same := by
    by_cases firstSame : first = p
    · by_cases secondSame : second = p
      · rw [firstSame, secondSame]
      · rw [firstSame] at firstOnline same
        rw [others second secondSame] at secondOnline same
        exact (names firstOnline second secondSame secondOnline same).elim
    · rw [others first firstSame] at firstOnline same
      by_cases secondSame : second = p
      · rw [secondSame] at secondOnline same
        exact (names secondOnline first firstSame firstOnline same.symm).elim
      · rw [others second secondSame] at secondOnline same
        exact paired.names first second firstOnline secondOnline same
  unborn other late := by
    have ne : other ≠ p := Nat.ne_of_gt (Nat.lt_of_lt_of_le born late)
    rw [others other ne]
    exact ⟨(paired.unborn other (Nat.le_trans next late)).1, unborn other late⟩
  counted other := by
    by_cases same : other = p
    · rw [same]
      exact counted
    · have before := paired.counted other
      have counts := counts other same
      rw [others other same, before]
      omega
  destroyed other := by
    by_cases same : other = p
    · rw [same]
      exact destroyed
    · rw [others other same]
      exact paired.destroyed other

lemma Paired.unborn_owners
  (unborn : game.nextPlayer ≤ p) : game.owners p = 0 ∧ pending.count p = 0 := by
  have counted := paired.counted p
  rw [(paired.unborn p unborn).1] at counted
  have zero : (Player.new [] none).useCount = 0 := rfl
  have nothing : (Player.new [] none).holds = 0 := rfl
  have offline : (Player.new [] none).online = false := rfl
  omega

lemma Paired.born_of_player
  (player : (game.protocols q).player = some p) : p < game.nextPlayer := by
  by_contra late
  exact (paired.unborn p (Nat.le_of_not_lt late)).2.2 q player

lemma Paired.born_of_online (online : (game.players p).online = true) : p < game.nextPlayer := by
  by_contra late
  rw [(paired.unborn p (Nat.le_of_not_lt late)).1] at online
  cases online

lemma Paired.newPlayer (born : q < game.nextProtocol)
  (unpaired : (game.protocols q).player = none) (living : (game.protocols q).deleted = false)
  (name : List Char) : Paired pending (game.newPlayer q name) := by
  have new : (game.newPlayer q name).players game.nextPlayer =
      { Player.new name (some q) with useCount := 1 } := update_self ..
  have self : (game.newPlayer q name).protocols q =
      { game.protocols q with
        player := some game.nextPlayer
        uses := (game.protocols q).uses + 1 } := update_self ..
  have other : ∀ other, other ≠ q →
      (game.newPlayer q name).protocols other = game.protocols other :=
    fun other ne => update_of_ne ne ..
  have offline : ((game.newPlayer q name).players game.nextPlayer).online = false := by
    rw [new]
    rfl
  have owners := owners_update born (show (game.newPlayer q name).nextProtocol = _ from rfl)
    fun p ne => congrArg ProtocolGame.player (other p ne)
  have notListed : game.nextPlayer ∉ game.listPlayer := by
    rw [paired.listed, (paired.unborn _ (Nat.le_refl _)).1]
    decide
  refine paired.change game.nextPlayer ?_ ?_ ?_ (fun _ _ => Iff.rfl) ?_ paired.once ?_
    (Nat.le_succ _) (Nat.lt_succ_self _) ?_ ?_ ?_ ?_
  · intro p ne
    exact update_of_ne ne ..
  · intro p protocol _ player notDeleted
    have ne : protocol ≠ q := by
      rintro rfl
      rw [unpaired] at player
      cases player
    rw [other protocol ne]
    exact ⟨player, notDeleted⟩
  · intro protocol client
    rw [new] at client
    have same : q = protocol := some.inj client
    rw [← same, self]
    exact ⟨rfl, living⟩
  · rw [offline]
    exact ⟨fun mem => (notListed mem).elim, nofun⟩
  · intro online
    rw [offline] at online
    cases online
  · intro p late
    obtain ⟨_, notPending, noOwner⟩ := paired.unborn p (Nat.le_of_succ_le late)
    refine ⟨notPending, ?_⟩
    intro protocol
    by_cases same : protocol = q
    · rw [same, self]
      intro has
      have equal : game.nextPlayer = p := some.inj has
      exact Nat.lt_irrefl _ (equal ▸ late)
    · rw [other protocol same]
      exact noOwner protocol
  · intro p ne
    have owners := owners p
    rw [unpaired, self, if_neg nofun, if_neg (by simpa using Ne.symm ne)] at owners
    omega
  · have owners := owners game.nextPlayer
    obtain ⟨noOwner, noPending⟩ := paired.unborn_owners (Nat.le_refl game.nextPlayer)
    rw [unpaired, self, if_neg nofun, if_pos rfl, noOwner] at owners
    rw [offline, new, noPending, if_neg Bool.false_ne_true]
    dsimp only [Player.new]
    omega
  · rw [new]
    nofun

/-- A new player is placed on the map. -/
lemma Paired.placed (born : p < game.nextPlayer) (unplaced : (game.players p).placed = false)
  (present : (game.players p).isInternalRemoved = false)
  (living : (game.players p).destroyed = false)
  (names :
    ∀ other, (game.players other).online = true →
      asUpperCaseString (game.players p).name ≠ asUpperCaseString (game.players other).name) :
  Paired pending
    { game.setPlayer p fun player =>
        { player with placed := true, useCount := player.useCount + 1 } with
      listPlayer := game.listPlayer ++ [p] } := by
  have offline : (game.players p).online = false := by
    unfold Player.online
    rw [unplaced]
    rfl
  have notListed : p ∉ game.listPlayer := by
    rw [paired.listed, offline]
    decide
  have counted := paired.counted p
  rw [offline, if_neg Bool.false_ne_true] at counted
  have self := setPlayer_self game p fun player =>
    { player with placed := true, useCount := player.useCount + 1 }
  have online : ({ game.players p with
      placed := true, useCount := (game.players p).useCount + 1 } : Player).online = true := by
    dsimp only
    rw [present]
    rfl
  refine paired.change p (fun other ne => update_of_ne ne ..)
    (fun _ _ _ player notDeleted => ⟨player, notDeleted⟩) ?_ ?_ ?_ ?_ ?_ (Nat.le_refl _) born
    (fun other late => (paired.unborn other late).2) (fun _ _ => rfl) ?_ ?_
  · intro protocol client
    rw [self] at client
    exact paired.clients p protocol client
  · intro other ne
    rw [mem_append, mem_singleton, or_iff_left ne]
  · dsimp only
    rw [self, online]
    simp
  · refine paired.once.append (nodup_singleton p) ?_
    intro mem inList inNew
    rw [mem_singleton] at inNew
    exact notListed (inNew ▸ inList)
  · intro _ other _ otherOnline
    dsimp only
    rw [self]
    exact names other otherOnline
  · dsimp only
    rw [self, online, if_pos rfl]
    dsimp only
    change _ = ((game.owners p : Nat) : Int) + _ + _ + _
    omega
  · dsimp only
    rw [self]
    intro destroyed
    rw [show (game.players p).destroyed = true from destroyed] at living
    cases living

end

lemma Paired.removeCreature (paired : Paired game.ToReleaseThings game) (p : Nat) :
  Paired (game.removeCreature p).ToReleaseThings (game.removeCreature p) := by
  unfold Game.removeCreature
  split_ifs with away
  · exact paired
  · rw [Bool.or_eq_true, not_or, Bool.not_eq_true, Bool.not_eq_true', Bool.not_eq_false] at away
    have online : (game.players p).online = true := by
      unfold Player.online
      rw [away.1, away.2]
      rfl
    have born := paired.born_of_online online
    have counted := paired.counted p
    rw [online, if_pos rfl] at counted
    have self := setPlayer_self game p fun player => { player with isInternalRemoved := true }
    have offline : ({ game.players p with isInternalRemoved := true } : Player).online =
        false := by
      exact Bool.and_false _
    refine paired.change p (fun other ne => update_of_ne ne ..)
      (fun _ _ _ player notDeleted => ⟨player, notDeleted⟩) ?_ ?_ ?_ ?_ ?_ (Nat.le_refl _)
      born ?_ ?_ ?_ ?_
    · intro protocol client
      rw [self] at client
      exact paired.clients p protocol client
    · intro other ne
      exact mem_erase_of_ne ne
    · dsimp only
      rw [self, offline, paired.once.mem_erase_iff]
      simp
    · exact paired.once.erase p
    · dsimp only
      rw [self, offline]
      nofun
    · intro other late
      obtain ⟨_, notPending, noOwner⟩ := paired.unborn other late
      refine ⟨?_, noOwner⟩
      rw [mem_append, mem_singleton, not_or]
      exact ⟨notPending, Nat.ne_of_gt (Nat.lt_of_lt_of_le born late)⟩
    · intro other ne
      rw [count_append, count_singleton, if_neg (by simpa using Ne.symm ne)]
      rfl
    · dsimp only
      rw [self, offline, if_neg Bool.false_ne_true, count_append, count_singleton_self]
      dsimp only
      change _ = ((game.owners p : Nat) : Int) + _ + _ + _
      omega
    · dsimp only
      rw [self]
      exact paired.destroyed p

section

variable (paired : Paired pending game)
include paired

lemma Paired.takePlayer (born : q < game.nextProtocol)
  (unpaired : (game.protocols q).player = none) (living : (game.protocols q).deleted = false)
  (online : (game.players p).online = true) : Paired pending (game.takePlayer q p) := by
  have taken : (game.takePlayer q p).players p =
      { game.players p with
        useCount := (game.players p).useCount + 1
        isConnecting := false
        client := some q } := update_self ..
  have self : (game.takePlayer q p).protocols q =
      { game.protocols q with
        player := some p
        uses := (game.protocols q).uses + 1 } := update_self ..
  have other : ∀ other, other ≠ q →
      (game.takePlayer q p).protocols other = game.protocols other :=
    fun other ne => update_of_ne ne ..
  have owners := owners_update born (show (game.takePlayer q p).nextProtocol = _ from rfl)
    fun p ne => congrArg ProtocolGame.player (other p ne)
  have stays : ((game.takePlayer q p).players p).online = true := by
    rw [taken]
    exact online
  refine paired.change p (fun other ne => update_of_ne ne ..) ?_ ?_
    (fun _ _ => Iff.rfl) ?_ paired.once ?_ (Nat.le_refl _) (paired.born_of_online online)
    ?_ ?_ ?_ ?_
  · intro player protocol _ has notDeleted
    have ne : protocol ≠ q := by
      rintro rfl
      rw [unpaired] at has
      cases has
    rw [other protocol ne]
    exact ⟨has, notDeleted⟩
  · intro protocol client
    rw [taken] at client
    have same : q = protocol := some.inj client
    rw [← same, self]
    exact ⟨rfl, living⟩
  · rw [stays]
    exact iff_of_true ((paired.listed p).mpr online) rfl
  · intro _ player ne otherOnline
    rw [taken]
    exact fun same => ne (paired.names player p otherOnline online same.symm)
  · intro player late
    obtain ⟨_, notPending, noOwner⟩ := paired.unborn player late
    refine ⟨notPending, ?_⟩
    intro protocol
    by_cases same : protocol = q
    · rw [same, self]
      intro has
      have equal : p = player := some.inj has
      have inside := paired.born_of_online online
      exact Nat.lt_irrefl _ (Nat.lt_of_lt_of_le inside (equal ▸ late))
    · rw [other protocol same]
      exact noOwner protocol
  · intro player ne
    have owners := owners player
    rw [unpaired, self, if_neg nofun, if_neg (by simpa using Ne.symm ne)] at owners
    omega
  · have owners := owners p
    have counted := paired.counted p
    rw [unpaired, self, if_neg nofun, if_pos rfl] at owners
    rw [online, if_pos rfl] at counted
    rw [stays, if_pos rfl, taken]
    dsimp only
    omega
  · have alive := paired.living (p := p) (by rw [online, if_pos rfl]; omega)
    rw [taken]
    intro destroyed
    rw [show (game.players p).destroyed = true from destroyed] at alive
    cases alive

lemma Paired.forgetClient (q : Nat) : Paired pending (game.forgetClient q) := by
  unfold Game.forgetClient
  split
  · rename_i p has
    split_ifs with client
    · have born := paired.born_of_player has
      have self := setPlayer_self game p fun player => { player with client := none }
      refine paired.change p (fun other ne => update_of_ne ne ..)
        (fun _ _ _ player notDeleted => ⟨player, notDeleted⟩) ?_ (fun _ _ => Iff.rfl) ?_
        paired.once ?_ (Nat.le_refl _) born (fun other late => (paired.unborn other late).2)
        (fun _ _ => rfl) ?_ ?_
      · rw [self]
        nofun
      · rw [self]
        exact paired.listed p
      · rw [self]
        intro online other ne otherOnline same
        exact ne (paired.names other p otherOnline online same.symm)
      · rw [self]
        exact paired.counted p
      · rw [self]
        exact paired.destroyed p
    · exact paired
  · exact paired

lemma Paired.forgetClient_clients
  (q p : Nat) : ((game.forgetClient q).players p).client ≠ some q := by
  intro client
  unfold Game.forgetClient at client
  cases player : (game.protocols q).player with
  | none =>
    rw [player] at client
    have has := (paired.clients p q client).1
    rw [player] at has
    cases has
  | some owner =>
    rw [player] at client
    dsimp only at client
    by_cases owned : (game.players owner).client = some q
    · rw [if_pos owned] at client
      by_cases same : p = owner
      · rw [same, setPlayer_self] at client
        cases client
      · rw [setPlayer_other same] at client
        have has := (paired.clients p q client).1
        rw [player] at has
        exact same (some.inj has).symm
    · rw [if_neg owned] at client
      have has := (paired.clients p q client).1
      rw [player] at has
      rw [← some.inj has] at client
      exact owned client

end

def released (protocol : ProtocolGame) : ProtocolGame :=
  { protocol with
    player := none
    frees := protocol.frees + if protocol.player.isSome then 1 else 0
    m_connection := false
    deleted := true }

lemma deleteProtocolTask_eq (q : Nat) :
  game.deleteProtocolTask q =
    { game.setProtocol q released with
      ToReleaseThings := game.ToReleaseThings ++ (game.protocols q).player.toList } := by
  unfold Game.deleteProtocolTask Game.setProtocol
  cases player : (game.protocols q).player with
  | none =>
    have self : released (game.protocols q) =
        { game.protocols q with m_connection := false, deleted := true } := by
      unfold released
      simp [player]
    dsimp only
    rw [self, toList_none, append_nil]
  | some p =>
    have self : released (game.protocols q) =
        { game.protocols q with
          player := none
          frees := (game.protocols q).frees + 1
          m_connection := false
          deleted := true } := by
      unfold released
      rw [player]
      rfl
    dsimp only
    rw [self, update_idem, update_self]
    rfl

lemma Paired.deleteProtocolTask (paired : Paired game.ToReleaseThings game)
  (born : q < game.nextProtocol) (free : ∀ p, (game.players p).client ≠ some q) :
  Paired (game.deleteProtocolTask q).ToReleaseThings (game.deleteProtocolTask q) := by
  rw [deleteProtocolTask_eq]
  have kept : ∀ p protocol, (game.players p).client = some protocol → protocol ≠ q := by
    rintro p _ client rfl
    exact free p client
  have owners : ∀ p,
      (game.setProtocol q released).owners p +
          (if (game.protocols q).player = some p then 1 else 0) =
        game.owners p := by
    intro p
    have update := owners_update born
      (show (game.setProtocol q released).nextProtocol = _ from rfl)
      (fun other ne =>
        congrArg ProtocolGame.player (setProtocol_other ne released)) p
    have none_ : ¬(released (game.protocols q)).player = some p := nofun
    rw [setProtocol_self, if_neg none_, Nat.add_zero] at update
    exact update.symm ▸ rfl
  refine
    { clients := ?_
      listed := paired.listed
      once := paired.once
      names := paired.names
      unborn := ?_
      counted := ?_
      destroyed := paired.destroyed }
  · intro p protocol client
    rw [setProtocol_other (kept p protocol client)]
    exact paired.clients p protocol client
  · intro p late
    obtain ⟨new, notPending, noOwner⟩ := paired.unborn p late
    refine ⟨new, ?_, ?_⟩
    · rw [mem_append, not_or]
      refine ⟨notPending, ?_⟩
      rw [mem_toList]
      exact noOwner q
    · intro protocol
      by_cases same : protocol = q
      · dsimp only
        rw [same, setProtocol_self, released]
        nofun
      · dsimp only
        rw [setProtocol_other same]
        exact noOwner protocol
  · intro p
    have owners := owners p
    have count : (game.protocols q).player.toList.count p =
        if (game.protocols q).player = some p then 1 else 0 := by
      cases (game.protocols q).player with
      | none => rfl
      | some owner =>
        rw [toList_some, count_singleton]
        simp
    have before := paired.counted p
    dsimp only
    rw [count_append, count]
    change (game.players p).useCount =
      (((game.setProtocol q released).owners p : Nat) : Int) + _ +
        (if (game.players p).online = true then 1 else 0) + (game.players p).holds
    omega

lemma Paired.releaseThing2 (paired : Paired (p :: pending) game) :
  Paired pending (game.releaseThing2 p) := by
  have born : p < game.nextPlayer := by
    by_contra late
    exact (paired.unborn p (Nat.le_of_not_lt late)).2.1 mem_cons_self
  have counted := paired.counted p
  rw [count_cons_self] at counted
  have self := setPlayer_self game p fun player =>
    { player with
      useCount := player.useCount - 1
      destroyed := player.destroyed || player.useCount - 1 ≤ 0 }
  unfold Game.releaseThing2
  refine paired.change p (fun other ne => update_of_ne ne ..)
    (fun _ _ _ player notDeleted => ⟨player, notDeleted⟩) ?_ (fun _ _ => Iff.rfl) ?_
    paired.once ?_ (Nat.le_refl _) born ?_ ?_ ?_ ?_
  · rw [self]
    exact paired.clients p
  · rw [self]
    exact paired.listed p
  · rw [self]
    intro online other ne otherOnline same
    exact ne (paired.names other p otherOnline online same.symm)
  · intro other late
    obtain ⟨_, notPending, noOwner⟩ := paired.unborn other late
    exact ⟨fun mem => notPending (mem_cons_of_mem _ mem), noOwner⟩
  · intro other ne
    rw [count_cons_of_ne (Ne.symm ne)]
    rfl
  · rw [self]
    change (game.players p).useCount - 1 = ((game.owners p : Nat) : Int) + _ +
      (if (game.players p).online = true then 1 else 0) + (game.players p).holds
    omega
  · rw [self]
    rw [Bool.or_eq_true, decide_eq_true_eq]
    rintro (destroyed | zero)
    · have before := paired.destroyed p destroyed
      omega
    · exact zero

lemma Paired.releaseThings {waiting : List Nat} {game : Game} (paired : Paired waiting game) :
  Paired [] (waiting.foldl Game.releaseThing2 game) := by
  induction waiting generalizing game with
  | nil => exact paired
  | cons p rest ih => exact ih paired.releaseThing2

end Players

end Game

end OTServ.Login.Pairing
