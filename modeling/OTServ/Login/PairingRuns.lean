import OTServ.Login.PairingPlayers
import Mathlib.Algebra.Order.BigOperators.Group.Finset

/-!
# Runs of logins

Between two tasks every protocol is in order with its tasks, and with its player.

A pass of `releaseProtocol` is taken to find the counter of references at zero only
when nothing refers to the protocol.
-/

namespace OTServ.Login.Pairing

open Network
open Library.GuardedRuns
open List Function

variable {p playerId : Nat} {name : List Char} {task : Task} {tasks : List Task}

namespace Game

variable {game : Game} {current : List Task} {q : Nat}

/-! ## The functions -/

structure Sound (current : List Task) (game : Game) : Prop where
  threads : Threads current game
  paired : Paired game.ToReleaseThings game

lemma Threads.frame {after : Game} (threads : Threads current game)
  (protocols : after.protocols = game.protocols) (tasks : after.tasks = game.tasks)
  (events : after.events = game.events) (next : after.nextProtocol = game.nextProtocol) :
  Threads current after where
  orderly q := by
    rw [protocols, tasks, events]
    exact threads.orderly q
  born q := by
    rw [protocols, next]
    exact threads.born q

lemma Sound.closeConnection (sound : Sound current game) (q : Nat) :
  Sound current (game.closeConnection q) := by
  unfold Game.closeConnection
  split_ifs with closing
  · exact sound
  · rw [not_not] at closing
    refine ⟨?_, ?_⟩
    · exact sound.threads.addTask (.closeConnectionTask q) (sound.threads.born q)
        ((sound.threads.orderly q).closeConnection closing)
    · have closed := sound.paired.setProtocol q
        (fun protocol => { protocol with m_closeState := .CLOSE_STATE_REQUESTED })
        rfl rfl
      exact closed.frame (fun _ => rfl) (fun _ => rfl) rfl rfl rfl rfl

lemma Sound.disconnect
  (sound : Sound current game) (q : Nat) : Sound current (game.disconnect q) := by
  unfold Game.disconnect
  split_ifs
  · exact sound.closeConnection q
  · exact sound

lemma disconnect_nextPlayer (q : Nat) : (game.disconnect q).nextPlayer = game.nextPlayer := by
  unfold Game.disconnect Game.closeConnection
  split_ifs <;> rfl

section

variable (sound : Sound current game)
include sound

lemma Sound.removeCreature (p : Nat) : Sound current (game.removeCreature p) := by
  refine ⟨?_, sound.paired.removeCreature p⟩
  unfold Game.removeCreature
  split_ifs
  · exact sound.threads
  · exact sound.threads.frame rfl rfl rfl rfl

lemma Sound.logout (q : Nat) (forced : Bool) (scene : Scene) :
  Sound current (game.logout q forced scene) := by
  unfold Game.logout
  split
  · exact sound
  · split_ifs
    · exact sound
    · exact (sound.disconnect q).removeCreature _

lemma Sound.kickPlayer (p : Nat) (scene : Scene) : Sound current (game.kickPlayer p scene) := by
  unfold Game.kickPlayer
  split
  · exact sound.logout _ true scene
  · exact sound.removeCreature p

/-- A protocol changes in what neither its tasks nor its player depend on. -/
lemma Sound.setProtocol {change : ProtocolGame → ProtocolGame} (q : Nat)
  (created : (change (game.protocols q)).created = (game.protocols q).created)
  (player : (change (game.protocols q)).player = (game.protocols q).player)
  (deleted : (change (game.protocols q)).deleted = (game.protocols q).deleted)
  (orderly :
    Orderly (change (game.protocols q)) (own q (current ++ game.tasks)) (own q game.events)) :
  Sound current (game.setProtocol q change) :=
  ⟨sound.threads.setProtocol q created orderly, sound.paired.setProtocol q _ player deleted⟩

lemma Sound.acceptPackets (q : Nat) : Sound current (game.acceptPackets q) :=
  sound.setProtocol q rfl rfl rfl { sound.threads.orderly q with }

lemma Sound.placeCreature
  (born : p < game.nextPlayer) (unplaced : (game.players p).placed = false)
  (present : (game.players p).isInternalRemoved = false)
  (living : (game.players p).destroyed = false)
  (names :
    ∀ other, (game.players other).online = true →
      asUpperCaseString (game.players p).name ≠ asUpperCaseString (game.players other).name)
  (scene : Scene) : Sound current (game.placeCreature p scene) := by
  have placed : Sound current
      { game.setPlayer p fun player =>
          { player with placed := true, useCount := player.useCount + 1 } with
        listPlayer := game.listPlayer ++ [p] } :=
    ⟨sound.threads.frame rfl rfl rfl rfl, sound.paired.placed born unplaced present living names⟩
  unfold Game.placeCreature
  split_ifs
  · exact placed
  · exact placed.kickPlayer p scene

end

lemma Sound.newPlayer
  (sound : Sound [.login q name] game) : Sound [] (game.newPlayer q name) := by
  have first : Orderly (game.protocols q) (.login :: own q game.tasks) (own q game.events) :=
    sound.threads.first
  obtain ⟨created, living, room⟩ := first.room (Or.inl rfl)
  obtain ⟨unpaired, taken⟩ :=
    (first.drop (Or.inl rfl)).takePlayer created living room game.nextPlayer
  have born := sound.threads.born q created
  refine ⟨?_, sound.paired.newPlayer born unpaired living name⟩
  have self : (game.newPlayer q name).protocols q =
      { game.protocols q with
        player := some game.nextPlayer
        uses := (game.protocols q).uses + 1 } := update_self ..
  refine sound.threads.finish (fun other ne => update_of_ne ne ..)
    (fun _ _ => rfl) (fun _ _ => rfl) rfl ?_ ?_
  · rw [show (Task.login q name).protocol = q from rfl, self]
  · change Orderly ((game.newPlayer q name).protocols q) _ _
    rw [self]
    exact taken

lemma getPlayerByName_none
  (sound : Sound current game) (none_ : game.getPlayerByName name = none) (p : Nat)
  (online : (game.players p).online = true) :
  asUpperCaseString name ≠ asUpperCaseString (game.players p).name := by
  intro same
  have inside := (sound.paired.listed p).mpr online
  have refused := List.find?_eq_none.mp none_ p inside
  unfold Player.online at online
  rw [Bool.and_eq_true] at online
  rw [online.2, ← same] at refused
  simp at refused

lemma getPlayerByID_some (sound : Sound current game)
  (some_ : game.getPlayerByID playerId = some p) : (game.players p).online = true :=
  (sound.paired.listed p).mp (mem_of_find?_eq_some some_)

lemma Sound.connect (sound : Sound [.connect q playerId] game) :
  Sound [] (game.connect q playerId) := by
  have first : Orderly (game.protocols q) (.connect :: own q game.tasks)
      (own q game.events) := sound.threads.first
  obtain ⟨created, living, room⟩ := first.room (Or.inr rfl)
  have self : ((game.unRefFrom q).setProtocol q fun protocol =>
        { protocol with eventConnect := false }).protocols q =
      { game.protocols q with
        m_refCount := unRef (game.protocols q).m_refCount
        references := (game.protocols q).references - 1
        eventConnect := false } := by
    rw [setProtocol_self, Game.unRefFrom, setProtocol_self]
  have other : ∀ other, other ≠ q →
      ((game.unRefFrom q).setProtocol q fun protocol =>
        { protocol with eventConnect := false }).protocols other = game.protocols other := by
    intro other ne
    rw [setProtocol_other ne, Game.unRefFrom, setProtocol_other ne]
  unfold Game.connect
  dsimp only
  generalize unreferenced : ((game.unRefFrom q).setProtocol q fun protocol =>
        { protocol with eventConnect := false }) = after at self other
  have tasks : after.tasks = game.tasks := by
    rw [← unreferenced]
    rfl
  have events : after.events = game.events := by
    rw [← unreferenced]
    rfl
  have next : after.nextProtocol = game.nextProtocol := by
    rw [← unreferenced]
    rfl
  have mid : Sound [] after := by
    refine ⟨?_, ?_⟩
    · refine sound.threads.finish other (fun _ _ => by rw [tasks]) (fun _ _ => by rw [events])
        next ?_ ?_
      · rw [show (Task.connect q playerId).protocol = q from rfl, self]
      · change Orderly (after.protocols q) (own q after.tasks) (own q after.events)
        rw [self, tasks, events]
        exact { first.connect with }
    · rw [← unreferenced]
      exact (sound.paired.setProtocol q _ rfl rfl).setProtocol q _ rfl rfl
  cases found : after.getPlayerByID playerId with
  | none => exact mid.disconnect q
  | some p =>
    dsimp only
    split_ifs with busy
    · exact mid.disconnect q
    · have online := getPlayerByID_some mid found
      have orderly : Orderly (after.protocols q) (own q after.tasks) (own q after.events) :=
        mid.threads.orderly q
      have createdAfter : (after.protocols q).created = true := by
        rw [self]
        exact created
      have livingAfter : (after.protocols q).deleted = false := by
        rw [self]
        exact living
      obtain ⟨unpaired, taken⟩ := orderly.takePlayer createdAfter livingAfter
        (by rw [self, tasks, events]; exact room) p
      have bornAfter := mid.threads.born q createdAfter
      have holder : Sound [] (after.takePlayer q p) := by
        refine ⟨?_, mid.paired.takePlayer bornAfter unpaired livingAfter online⟩
        have selfTaken : (after.takePlayer q p).protocols q =
            { after.protocols q with
              player := some p
              uses := (after.protocols q).uses + 1 } := update_self ..
        refine mid.threads.change q
          (fun other ne => update_of_ne ne ..)
          (fun _ _ => rfl) (fun _ _ => rfl) rfl ?_ ?_
        · intro _
          exact bornAfter
        · rw [selfTaken]
          exact taken
      exact holder.acceptPackets q

lemma Sound.isConnecting (sound : Sound current game) (born : p < game.nextPlayer) :
  Sound current (game.setPlayer p fun player => { player with isConnecting := true }) :=
  ⟨sound.threads.frame rfl rfl rfl rfl,
    sound.paired.setPlayer p born rfl rfl rfl rfl (sound.paired.destroyed p)⟩

section

variable (sound : Sound [.login q name] game)
include sound

lemma Sound.wait (p : Nat) :
  Sound []
    { (game.addRefTo q).setProtocol q fun protocol =>
        { protocol with eventConnect := true } with
      events := game.events ++ [.connect q p] } := by
  have first : Orderly (game.protocols q) (.login :: own q game.tasks) (own q game.events) :=
    sound.threads.first
  have self : ((game.addRefTo q).setProtocol q fun protocol =>
        { protocol with eventConnect := true }).protocols q =
      { game.protocols q with
        m_refCount := addRef (game.protocols q).m_refCount
        references := (game.protocols q).references + 1
        eventConnect := true } := by
    rw [setProtocol_self, Game.addRefTo, setProtocol_self]
  have paired : Paired game.ToReleaseThings
      ((game.addRefTo q).setProtocol q fun protocol => { protocol with eventConnect := true }) :=
    (sound.paired.setProtocol q _ rfl rfl).setProtocol q _ rfl rfl
  refine ⟨?_, paired.frame (fun _ => rfl) (fun _ => rfl) rfl rfl rfl rfl⟩
  refine sound.threads.finish ?_ (fun _ _ => rfl) ?_ rfl ?_ ?_
  · intro other ne
    have away : other ≠ q := ne
    rw [setProtocol_other away, Game.addRefTo, setProtocol_other away]
  · intro other ne
    dsimp only
    rw [own_append,
      own_other (show (Task.connect q p).protocol ≠ other from Ne.symm ne),
      append_nil]
  · dsimp only
    rw [show (Task.login q name).protocol = q from rfl, self]
  · change Orderly (((game.addRefTo q).setProtocol q fun protocol =>
        { protocol with eventConnect := true }).protocols q) (own q game.tasks)
      (own q (game.events ++ [.connect q p]))
    rw [self, own_append, show own q [Task.connect q p] = [.connect] from own_self (.connect q p)]
    exact { first.wait with }

lemma Sound.hold (p : Nat) : Sound [.connect q p] (game.addRefTo q) := by
  have first : Orderly (game.protocols q) (.login :: own q game.tasks) (own q game.events) :=
    sound.threads.first
  refine ⟨?_, sound.paired.setProtocol q _ rfl rfl⟩
  refine sound.threads.change q (fun other ne => setProtocol_other ne _) ?_
    (fun _ _ => rfl) rfl ?_ ?_
  · intro other ne
    rw [singleton_append, singleton_append,
      own_cons_other (show (Task.connect q p).protocol ≠ other from Ne.symm ne),
      own_cons_other (show (Task.login q name).protocol ≠ other from Ne.symm ne)]
    rfl
  · rw [Game.addRefTo, setProtocol_self]
    exact sound.threads.born q
  · rw [Game.addRefTo, setProtocol_self, singleton_append]
    have head := own_cons_self (Task.connect q p) game.tasks
    change Orderly _ (own (Task.connect q p).protocol (_ :: game.tasks)) (own q game.events)
    rw [head]
    exact first.hold

lemma Sound.login (scene : Scene) : Sound [] (game.login q name scene) := by
  have dropped : Sound [] game := by
    refine ⟨?_, sound.paired⟩
    exact sound.threads.finish (fun _ _ => rfl) (fun _ _ => rfl) (fun _ _ => rfl) rfl rfl
      (sound.threads.first.drop (Or.inl rfl))
  unfold Game.login
  cases found : game.getPlayerByName name with
  | none =>
    have made := sound.newPlayer
    dsimp only
    split_ifs
    · exact made.disconnect q
    · exact made.disconnect q
    · have new : (game.newPlayer q name).players game.nextPlayer =
          { Player.new name (some q) with useCount := 1 } := update_self ..
      refine Sound.acceptPackets (made.placeCreature (Nat.lt_succ_self _) ?_ ?_ ?_ ?_ scene) q
      · rw [new]
        rfl
      · rw [new]
        rfl
      · rw [new]
        rfl
      · intro other online
        by_cases same : other = game.nextPlayer
        · rw [same, new] at online
          cases online
        · have old : (game.newPlayer q name).players other = game.players other :=
            update_of_ne same ..
          rw [old] at online
          rw [new, old]
          exact getPlayerByName_none sound found other online
  | some p =>
    have online : (game.players p).online = true :=
      (sound.paired.listed p).mp (mem_of_find?_eq_some found)
    have born := sound.paired.born_of_online online
    dsimp only
    split_ifs
    · exact dropped.disconnect q
    · cases client : (game.players p).client with
      | none => exact (sound.hold p).connect
      | some other =>
        have closed := (sound.disconnect other).isConnecting (p := p)
          (by rw [disconnect_nextPlayer]; exact born)
        exact closed.wait p

end

lemma Sound.closeConnectionTask (sound : Sound [.closeConnectionTask q] game) :
  Sound [] (game.closeConnectionTask q) := by
  have first : Orderly (game.protocols q) (.close :: own q game.tasks) (own q game.events) :=
    sound.threads.first
  obtain ⟨requested, closed⟩ := first.closeConnectionTask
  unfold Game.closeConnectionTask
  rw [if_neg (not_not.mpr requested)]
  have paired := sound.paired.setProtocol q
    (fun protocol => { protocol with m_closeState := .CLOSE_STATE_CLOSING, m_connection := false })
    rfl rfl
  refine ⟨?_, paired.frame (fun _ => rfl) (fun _ => rfl) rfl rfl rfl rfl⟩
  refine sound.threads.finish (fun other ne => update_of_ne ne ..)
    ?_ (fun _ _ => rfl) rfl ?_ ?_
  · intro other ne
    split_ifs
    · rw [own_append,
        own_other (show (Task.releaseProtocol q).protocol ≠ other from Ne.symm ne),
        append_nil]
    · rfl
  · dsimp only
    rw [show (Task.closeConnectionTask q).protocol = q from rfl, setProtocol_self]
  · dsimp only
    rw [show (Task.closeConnectionTask q).protocol = q from rfl, setProtocol_self]
    split_ifs at closed ⊢ with created
    · rw [own_append,
        show own q [Task.releaseProtocol q] = [.release] from own_self (.releaseProtocol q)]
      exact closed
    · exact closed

lemma Sound.releaseProtocol (sound : Sound [.releaseProtocol q] game)
  (rightly : (game.protocols q).references = 0 ∨ (game.protocols q).m_refCount ≠ 0) :
  Sound [] (game.releaseProtocol q) := by
  have first : Orderly (game.protocols q) (.release :: own q game.tasks)
      (own q game.events) := sound.threads.first
  obtain ⟨created, _, living, _⟩ := first.release
  have born := sound.threads.born q created
  have forgotten : Paired (game.forgetClient q).ToReleaseThings (game.forgetClient q) := by
    have things : (game.forgetClient q).ToReleaseThings = game.ToReleaseThings := by
      unfold Game.forgetClient
      split
      · split_ifs <;> rfl
      · rfl
    rw [things]
    exact sound.paired.forgetClient q
  have protocols : (game.forgetClient q).protocols = game.protocols := by
    unfold Game.forgetClient
    split
    · split_ifs <;> rfl
    · rfl
  have tasks : (game.forgetClient q).tasks = game.tasks := by
    unfold Game.forgetClient
    split
    · split_ifs <;> rfl
    · rfl
  have events : (game.forgetClient q).events = game.events := by
    unfold Game.forgetClient
    split
    · split_ifs <;> rfl
    · rfl
  have next : (game.forgetClient q).nextProtocol = game.nextProtocol := by
    unfold Game.forgetClient
    split
    · split_ifs <;> rfl
    · rfl
  have free := sound.paired.forgetClient_clients q
  unfold Game.releaseProtocol
  generalize game.forgetClient q = after at forgotten protocols tasks events next free
  dsimp only
  split_ifs with referred
  · refine ⟨?_, forgotten.frame (fun _ => rfl) (fun _ => rfl) rfl rfl rfl rfl⟩
    refine sound.threads.finish (fun other _ => by rw [protocols]) (fun _ _ => by rw [tasks])
      ?_ next ?_ ?_
    · intro other ne
      rw [own_append,
        own_other (show (Task.releaseProtocol q).protocol ≠ other from Ne.symm ne),
        append_nil, events]
    · rw [protocols]
    · change Orderly (after.protocols q) (own q after.tasks)
        (own q (after.events ++ [.releaseProtocol q]))
      rw [protocols, tasks, events, own_append,
        show own q [Task.releaseProtocol q] = [.release] from own_self (.releaseProtocol q)]
      exact first.releaseLater
  · have zero : (game.protocols q).m_refCount = 0 := by
      rw [protocols] at referred
      omega
    have unreferenced : (game.protocols q).references = 0 :=
      rightly.resolve_right fun counted => counted zero
    have given := forgotten.deleteProtocolTask (by rw [next]; exact born) free
    refine ⟨?_, given⟩
    rw [deleteProtocolTask_eq]
    refine sound.threads.finish ?_ (fun _ _ => by rw [← tasks]; rfl)
      (fun _ _ => by rw [← events]; rfl) next ?_ ?_
    · intro other ne
      rw [← protocols]
      exact update_of_ne ne ..
    · change ((after.setProtocol q released).protocols q).created = (game.protocols q).created
      rw [setProtocol_self, protocols]
      rfl
    · change Orderly ((after.setProtocol q released).protocols q) (own q after.tasks)
        (own q after.events)
      rw [setProtocol_self, protocols, tasks, events]
      exact first.deleteProtocolTask unreferenced

/-! ## Steps -/

/-- What is promised of players and connections between operations. -/
structure Pairs (game : Game) : Prop where
  /-- a client is a living protocol that has the player -/
  clients :
    ∀ p q, (game.players p).client = some q →
      (game.protocols q).player = some p ∧ (game.protocols q).deleted = false
  /-- a client without its connection is about to be released -/
  lost :
    ∀ p q, (game.players p).client = some q → (game.protocols q).m_connection = false →
      .releaseProtocol q ∈ game.tasks ∨ .releaseProtocol q ∈ game.events
  /-- and is no client behind the pass -/
  cleared : ∀ p q, ((game.releaseProtocol q).players p).client ≠ some q
  /-- a protocol holds one reference, as long as it has the player -/
  single :
    ∀ q, (game.protocols q).uses ≤ 1 ∧
      (game.protocols q).uses =
        (game.protocols q).frees + if (game.protocols q).player.isSome then 1 else 0
  /-- and a protocol that is deleted has released it -/
  returned :
    ∀ q, (game.protocols q).deleted = true → (game.protocols q).frees = (game.protocols q).uses
  /-- a player that is referred to has not been destroyed -/
  held : ∀ p q, (game.protocols q).player = some p → (game.players p).destroyed = false
  names :
    ∀ p other, (game.players p).online = true → (game.players other).online = true →
      asUpperCaseString (game.players p).name =
        asUpperCaseString (game.players other).name → p = other

def taskOf (game : Game) : Operation → Option Task
  | .dispatch _ => game.tasks.head?
  | .executeEvent index _ => game.events[index]?
  | _ => none

/--
A pass of `releaseProtocol` finds the counter of references at zero only if nothing
refers to the protocol.  The counter counts from what the constructor left in it.
-/
def CountsRightly (game : Game) (operation : Operation) : Prop :=
  match game.taskOf operation with
  | some (.releaseProtocol q) =>
    (game.protocols q).references = 0 ∨ (game.protocols q).m_refCount ≠ 0
  | _ => True

lemma Sound.runTask (sound : Sound [task] game) (scene : Scene)
  (rightly :
    ∀ q, task = .releaseProtocol q →
      (game.protocols q).references = 0 ∨ (game.protocols q).m_refCount ≠ 0) :
  Sound [] (game.runTask scene task) := by
  cases task with
  | login q name => exact sound.login scene
  | connect q playerId => exact sound.connect
  | logout q =>
    have dropped : Sound [] game := by
      refine ⟨?_, sound.paired⟩
      exact sound.threads.finish (fun _ _ => rfl) (fun _ _ => rfl) (fun _ _ => rfl) rfl rfl
        (sound.threads.first.drop (Or.inr rfl))
    exact dropped.logout q false scene
  | closeConnectionTask q => exact sound.closeConnectionTask
  | releaseProtocol q => exact sound.releaseProtocol (rightly q rfl)

lemma Sound.takeTask {rest : List Task} (sound : Sound [] game)
  (tasks : game.tasks = task :: rest) : Sound [task] { game with tasks := rest } := by
  refine ⟨⟨?_, sound.threads.born⟩,
    sound.paired.frame (fun _ => rfl) (fun _ => rfl) rfl rfl rfl rfl⟩
  intro q
  have orderly := sound.threads.orderly q
  rw [tasks] at orderly
  exact orderly

lemma Sound.takeEvent {event : Task} {index : Nat} (sound : Sound [] game)
  (events : game.events[index]? = some event) :
  Sound [event] { game with events := game.events.eraseIdx index } := by
  obtain ⟨inside, value⟩ := List.getElem?_eq_some_iff.mp events
  have split : game.events =
      game.events.take index ++ event :: game.events.drop (index + 1) := by
    rw [← value, getElem_cons_drop, take_append_drop]
  refine ⟨⟨?_, sound.threads.born⟩,
    sound.paired.frame (fun _ => rfl) (fun _ => rfl) rfl rfl rfl rfl⟩
  intro q
  have orderly := sound.threads.orderly q
  rw [nil_append] at orderly
  rw [eraseIdx_eq_take_drop_succ, singleton_append, own_append]
  rw [split, own_append] at orderly
  by_cases mine : event.protocol = q
  · subst mine
    rw [own_cons_self] at orderly ⊢
    exact orderly.handOver
  · rw [own_cons_other mine] at orderly ⊢
    exact orderly

lemma Threads.born_of_player (threads : Threads current game)
  (player : (game.protocols q).player = some p) : q < game.nextProtocol := by
  refine threads.born q ?_
  by_contra notCreated
  have stage := (threads.orderly q).stage
  have pairs := (threads.orderly q).pairs
  rw [if_neg notCreated] at stage
  rw [player, Option.isSome_some, if_pos rfl] at pairs
  omega

section

variable (sound : Sound current game)
include sound

lemma Sound.acceptConnection :
  Sound current { game with nextProtocol := game.nextProtocol + 1 } := by
  have none_ : (game.protocols game.nextProtocol).player = none := by
    cases player : (game.protocols game.nextProtocol).player with
    | none => rfl
    | some p => exact (Nat.lt_irrefl _ (sound.threads.born_of_player player)).elim
  refine ⟨⟨sound.threads.orderly, fun q created =>
    Nat.lt_succ_of_lt (sound.threads.born q created)⟩, ?_⟩
  refine { sound.paired with counted := ?_ }
  intro p
  have same : Game.owners { game with nextProtocol := game.nextProtocol + 1 } p =
      game.owners p := by
    unfold owners
    rw [Finset.sum_range_succ, none_, if_neg nofun, Nat.add_zero]
  rw [same]
  exact sound.paired.counted p

lemma Sound.parseFirstPacket (reads : game.reads q)
  (uncreated : (game.protocols q).created = false) (leftover : Nat) (name : Option (List Char)) :
  Sound current (game.step (.parseFirstPacket q leftover name)) := by
  obtain ⟨plain, talking⟩ := (sound.threads.orderly q).parseFirstPacket reads.2 uncreated leftover
  unfold Game.step
  dsimp only
  rw [if_pos ⟨reads, uncreated⟩]
  have paired := sound.paired.setProtocol q
    (fun protocol =>
      { protocol with
        created := true
        m_connection := true
        m_refCount := leftover % 2 ^ 32
        leftover := leftover })
    rfl rfl
  cases name with
  | some name =>
    refine ⟨?_, paired.frame (fun _ => rfl) (fun _ => rfl) rfl rfl rfl rfl⟩
    exact sound.threads.addTask (.login q name) (fun _ => reads.1) talking
  | none =>
    refine Sound.disconnect ⟨?_, paired⟩ q
    refine sound.threads.change q (fun other ne => setProtocol_other ne _)
      (fun _ _ => rfl) (fun _ _ => rfl) rfl (fun _ => reads.1) ?_
    rw [setProtocol_self]
    exact plain

lemma Sound.parseLogout (reads : game.reads q) :
  Sound current { game with tasks := game.tasks ++ [.logout q] } := by
  refine ⟨?_, sound.paired.frame (fun _ => rfl) (fun _ => rfl) rfl rfl rfl rfl⟩
  refine sound.threads.change q (fun _ _ => rfl) ?_ (fun _ _ => rfl) rfl (sound.threads.born q) ?_
  · intro other ne
    rw [own_appended,
      own_other (show (Task.logout q).protocol ≠ other from Ne.symm ne),
      append_nil]
  · dsimp only
    rw [own_appended, show own q [Task.logout q] = [.logout] from own_self (.logout q)]
    exact (sound.threads.orderly q).parseLogout reads.2

/-- Others take and give up references to a player. -/
lemma Sound.setPlayer {change : Player → Player} (p : Nat) (born : p < game.nextPlayer)
  (client : (change (game.players p)).client = (game.players p).client)
  (name : (change (game.players p)).name = (game.players p).name)
  (online : (change (game.players p)).online = (game.players p).online)
  (counted :
    (change (game.players p)).useCount - (change (game.players p)).holds =
      (game.players p).useCount - (game.players p).holds)
  (destroyed :
    (change (game.players p)).destroyed = true → (change (game.players p)).useCount ≤ 0) :
  Sound current (game.setPlayer p change) :=
  ⟨sound.threads.frame rfl rfl rfl rfl,
    sound.paired.setPlayer p born client name online counted destroyed⟩

end

lemma Paired.born_of_holds {pending : List Nat} (paired : Paired pending game)
  (holds : 0 < (game.players p).holds) : p < game.nextPlayer := by
  by_contra late
  rw [(paired.unborn p (Nat.le_of_not_lt late)).1] at holds
  cases holds

lemma Sound.releaseHeld (sound : Sound current game) (holds : 0 < (game.players p).holds) :
  Sound current
    ((game.setPlayer p fun player =>
      { player with holds := player.holds - 1 }).releaseThing2 p) := by
  have once : (game.setPlayer p fun player =>
        { player with holds := player.holds - 1 }).releaseThing2 p =
      game.setPlayer p fun player =>
        { player with
          holds := player.holds - 1
          useCount := player.useCount - 1
          destroyed := player.destroyed || player.useCount - 1 ≤ 0 } := by
    unfold Game.releaseThing2 Game.setPlayer
    dsimp only
    rw [update_idem, update_self]
  rw [once]
  refine sound.setPlayer p (sound.paired.born_of_holds holds) rfl rfl rfl ?_ ?_
  · dsimp only
    omega
  · dsimp only
    rw [Bool.or_eq_true, decide_eq_true_eq]
    rintro (destroyed | zero)
    · have before := sound.paired.destroyed p destroyed
      omega
    · exact zero

lemma releaseThings_threads {game : Game} (waiting : List Nat) (threads : Threads current game) :
  Threads current (waiting.foldl Game.releaseThing2 game) := by
  induction waiting generalizing game with
  | nil => exact threads
  | cons p rest ih => exact ih (threads.frame rfl rfl rfl rfl)

lemma Sound.cleanup (sound : Sound current game) : Sound current game.cleanup := by
  refine ⟨?_, ?_⟩
  · exact (releaseThings_threads game.ToReleaseThings sound.threads).frame rfl rfl rfl rfl
  · exact sound.paired.releaseThings.frame (fun _ => rfl) (fun _ => rfl) rfl rfl rfl rfl

lemma Sound.step {operation : Operation} (sound : Sound [] game)
  (rightly : game.CountsRightly operation) : Sound [] (game.step operation) := by
  unfold CountsRightly taskOf at rightly
  cases operation with
  | acceptConnection => exact sound.acceptConnection
  | parseFirstPacket q leftover name =>
    by_cases first : game.reads q ∧ (game.protocols q).created = false
    · exact sound.parseFirstPacket first.1 first.2 leftover name
    · unfold Game.step
      dsimp only
      rw [if_neg first]
      exact sound
  | parseLogout q =>
    unfold Game.step
    dsimp only
    split_ifs with asked
    · exact sound.parseLogout asked.1
    · exact sound
  | closeConnection q =>
    unfold Game.step
    dsimp only
    split_ifs
    · exact sound.closeConnection q
    · exact sound
  | getOutputMessage q =>
    unfold Game.step
    dsimp only
    split_ifs with connected
    · refine ⟨?_, (sound.paired.setProtocol q _ rfl rfl).setProtocol q _ rfl rfl⟩
      refine sound.threads.change q ?_ (fun _ _ => rfl) (fun _ _ => rfl) rfl ?_ ?_
      · intro other ne
        rw [setProtocol_other ne, Game.addRefTo, setProtocol_other ne]
      · rw [setProtocol_self, Game.addRefTo, setProtocol_self]
        exact sound.threads.born q
      · rw [setProtocol_self, Game.addRefTo, setProtocol_self]
        exact (sound.threads.orderly q).getOutputMessage connected
    · exact sound
  | internalReleaseMessage q =>
    unfold Game.step
    dsimp only
    split_ifs with refers
    · refine ⟨?_, (sound.paired.setProtocol q _ rfl rfl).setProtocol q _ rfl rfl⟩
      refine sound.threads.change q ?_ (fun _ _ => rfl) (fun _ _ => rfl) rfl ?_ ?_
      · intro other ne
        rw [setProtocol_other ne, Game.unRefFrom, setProtocol_other ne]
      · rw [setProtocol_self, Game.unRefFrom, setProtocol_self]
        exact sound.threads.born q
      · rw [setProtocol_self, Game.unRefFrom, setProtocol_self]
        exact (sound.threads.orderly q).internalReleaseMessage refers
    · exact sound
  | dispatch scene =>
    unfold Game.step
    cases tasks : game.tasks with
    | nil => exact sound
    | cons task rest =>
      rw [tasks] at rightly
      refine (sound.takeTask tasks).runTask scene ?_
      rintro q rfl
      exact rightly
  | executeEvent index scene =>
    unfold Game.step
    cases events : game.events[index]? with
    | none =>
      dsimp only
      rw [events]
      exact sound
    | some event =>
      dsimp only at rightly ⊢
      rw [events] at rightly ⊢
      refine (sound.takeEvent events).runTask scene ?_
      rintro q rfl
      exact rightly
  | kickPlayer p scene =>
    unfold Game.step
    dsimp only
    split_ifs
    · exact sound.kickPlayer p scene
    · exact sound
  | removeCreature p => exact sound.removeCreature p
  | useThing2 p =>
    unfold Game.step
    dsimp only
    split_ifs with there
    · refine sound.setPlayer p there.1 rfl rfl rfl ?_ ?_
      · dsimp only
        omega
      · intro destroyed
        rw [there.2] at destroyed
        cases destroyed
    · exact sound
  | releaseThing2 p =>
    unfold Game.step
    dsimp only
    split_ifs with holds
    · exact sound.releaseHeld holds
    · exact sound
  | cleanup => exact sound.cleanup

/-! ## Runs -/

lemma initial_sound (KICK_ON_LOGIN : Bool) : Sound [] (initial KICK_ON_LOGIN) where
  threads := ⟨fun _ => accepted_orderly, nofun⟩
  paired :=
    { clients := nofun
      listed := fun _ => by simp [initial, Player.new, Player.online]
      once := nodup_nil
      names := nofun
      unborn := fun _ _ => ⟨rfl, not_mem_nil, fun _ => nofun⟩
      counted := fun _ => rfl
      destroyed := nofun }

lemma mem_of_own {kind : TaskKind} (mem : kind ∈ own q tasks) :
  ∃ task ∈ tasks, task.protocol = q ∧ task.kind = kind := by
  unfold own at mem
  rw [mem_map] at mem
  obtain ⟨task, inside, same⟩ := mem
  rw [mem_filter, decide_eq_true_eq] at inside
  exact ⟨task, inside.1, inside.2, same⟩

lemma release_of_own (mem : .release ∈ own q tasks) : .releaseProtocol q ∈ tasks := by
  obtain ⟨task, inside, protocol, kind⟩ := mem_of_own mem
  cases task with
  | releaseProtocol other =>
    have same : other = q := protocol
    rw [← same]
    exact inside
  | login other name => cases kind
  | connect other playerId => cases kind
  | logout other => cases kind
  | closeConnectionTask other => cases kind

lemma Sound.pairs (sound : Sound [] game) : game.Pairs := by
  have single : ∀ q, (game.protocols q).uses ≤ 1 := by
    intro q
    have stage := (sound.threads.orderly q).stage
    split_ifs at stage <;> omega
  refine
    { clients := sound.paired.clients
      lost := ?_
      cleared := ?_
      single := fun q => ⟨single q, (sound.threads.orderly q).pairs⟩
      returned := ?_
      held := ?_
      names := sound.paired.names }
  · intro p q client disconnected
    obtain ⟨player, living⟩ := sound.paired.clients p q client
    have orderly := sound.threads.orderly q
    have created : (game.protocols q).created = true := by
      by_contra notCreated
      have stage := orderly.stage
      have pairs := orderly.pairs
      rw [if_neg notCreated] at stage
      rw [player, Option.isSome_some, if_pos rfl] at pairs
      omega
    have closing : (game.protocols q).m_closeState = .CLOSE_STATE_CLOSING := by
      by_contra open_
      rw [orderly.connection.mpr ⟨created, open_⟩] at disconnected
      cases disconnected
    have releases := orderly.releases
    rw [if_pos ⟨created, closing, living⟩] at releases
    by_cases waiting : .release ∈ own q game.tasks
    · exact Or.inl (release_of_own waiting)
    · have none_ : (own q ([] ++ game.tasks)).count .release = 0 := count_eq_zero.mpr waiting
      refine Or.inr (release_of_own ?_)
      rw [← count_pos_iff]
      omega
  · intro p q
    have cleared := sound.paired.forgetClient_clients q p
    unfold Game.releaseProtocol
    dsimp only
    split_ifs
    · exact cleared
    · rw [deleteProtocolTask_eq]
      exact cleared
  · intro q deleted
    have pairs := (sound.threads.orderly q).pairs
    rw [(sound.threads.orderly q).gone deleted, Option.isSome_none,
      if_neg Bool.false_ne_true] at pairs
    exact pairs.symm
  · intro p q player
    refine sound.paired.living ?_
    have born := sound.threads.born_of_player player
    have owned : 0 < game.owners p := by
      refine Finset.sum_pos' (fun _ _ => Nat.zero_le _) ⟨q, Finset.mem_range.mpr born, ?_⟩
      rw [if_pos player]
      exact Nat.one_pos
    omega

/-- In every run whose releases find the counters right, players and protocols agree. -/
theorem pairs_of_countsRightly {KICK_ON_LOGIN : Bool} {game : Game}
  (run :
    Reaches (fun game operation next => next = Game.step game operation) CountsRightly
      (initial KICK_ON_LOGIN) game) : game.Pairs := by
  have sound : Sound [] game :=
    run.invariant (initial_sound KICK_ON_LOGIN) fun state operation next sound rightly taken =>
      taken ▸ sound.step rightly
  exact sound.pairs

instance (game : Game) (operation : Operation) : Decidable (game.CountsRightly operation) := by
  unfold CountsRightly
  split <;> infer_instance

def welcome : Scene :=
  ⟨true, true, true, true, true⟩

/-- A player is in the game when another connection logs in with its name and waits. -/
def waits (leftover : Nat) : List Operation :=
  [.acceptConnection, .parseFirstPacket 0 0 (some ['A']), .dispatch welcome,
    .acceptConnection, .parseFirstPacket 1 leftover (some ['a']), .dispatch welcome,
    .dispatch welcome, .dispatch welcome]

def takenOver : List Operation :=
  waits 0 ++ [.executeEvent 0 welcome]

theorem pairs_takenOver :
  ((takenOver.foldl Game.step (initial false)).players 0).client = some 1 ∧
    (takenOver.foldl Game.step (initial false)).Pairs := by
  refine ⟨by decide +kernel, ?_⟩
  have allowed : Allowed Game.step CountsRightly (initial false) takenOver := by
    decide +kernel
  exact pairs_of_countsRightly (Reaches.refl.of_allowed takenOver allowed)

def lostWaiting : List Operation :=
  waits (2 ^ 32 - 1) ++
    [.closeConnection 1, .dispatch welcome, .dispatch welcome, .executeEvent 0 welcome]

/--
The count of the waiting protocol began with its greatest value: it is deleted, and
then becomes the client of the player.
-/
theorem deleted_client :
  ¬ ∀ KICK_ON_LOGIN game,
    Reaches (fun game operation next => next = Game.step game operation) Always
      (initial KICK_ON_LOGIN) game → game.Pairs := by
  intro always
  have ends := always false _ (Reaches.of_list (initial false) lostWaiting)
  have client : ((lostWaiting.foldl Game.step (initial false)).players 0).client = some 1 := by
    decide +kernel
  have deleted : ((lostWaiting.foldl Game.step (initial false)).protocols 1).deleted = true := by
    decide +kernel
  have living := (ends.clients 0 1 client).2
  cases living

end Game

end OTServ.Login.Pairing
