import OTServ.Login.Pairing
import OTServ.Network.ConnectionRuns

/-!
# Tasks of one protocol

What the queues hold of one protocol says how far it has come: its login is tried once,
waits for one second as an event, and ends in one player; behind the task that closes
its connection comes one pass of `releaseProtocol` at a time, with nothing else of this
protocol behind it.

The task that is being run is a parameter of the invariant.
-/

namespace OTServ.Login.Pairing

open Network
open List Option

/-! ## The tasks of a protocol -/

inductive TaskKind where
  | login
  | connect
  | logout
  | close
  | release
deriving DecidableEq

def Task.protocol : Task → Nat
  | .login q _ | .connect q _ | .logout q | .closeConnectionTask q | .releaseProtocol q => q

def Task.kind : Task → TaskKind
  | .login _ _ => .login
  | .connect _ _ => .connect
  | .logout _ => .logout
  | .closeConnectionTask _ => .close
  | .releaseProtocol _ => .release

def own (q : Nat) (tasks : List Task) : List TaskKind :=
  (tasks.filter fun task => task.protocol = q).map Task.kind

lemma own_append (q : Nat) (tasks more : List Task) :
  own q (tasks ++ more) = own q tasks ++ own q more := by
  unfold own
  rw [filter_append, map_append]

lemma own_self (task : Task) : own task.protocol [task] = [task.kind] := by
  simp [own]

variable {q : Nat} {task : Task} {kind : TaskKind}

lemma own_other (ne : task.protocol ≠ q) : own q [task] = [] := by
  simp [own, ne]

lemma own_cons_self (task : Task) (tasks : List Task) :
  own task.protocol (task :: tasks) = task.kind :: own task.protocol tasks := by
  simp [own]

lemma own_cons_other (ne : task.protocol ≠ q) (tasks : List Task) :
  own q (task :: tasks) = own q tasks := by
  simp [own, ne]

/-! ## The invariant of one protocol -/

/-- The invariant of a protocol with its tasks and its events. -/
structure Orderly (protocol : ProtocolGame) (pend events : List TaskKind) : Prop where
  closes : pend.count .close = if protocol.m_closeState = .CLOSE_STATE_REQUESTED then 1 else 0
  releases :
    pend.count .release + events.count .release =
      if protocol.created ∧ protocol.m_closeState = .CLOSE_STATE_CLOSING ∧
          protocol.deleted = false then 1 else 0
  connection :
    protocol.m_connection = true ↔
      protocol.created = true ∧ protocol.m_closeState ≠ .CLOSE_STATE_CLOSING
  /-- no login or logout comes behind a release -/
  order :
    ∀ before kind after, pend = before ++ kind :: after →
      kind = .login ∨ kind = .logout →
        .release ∉ before ∧ .release ∉ events ∧ protocol.deleted = false
  stage :
    pend.count .login + pend.count .connect + events.count .connect + protocol.uses ≤
      if protocol.created then 1 else 0
  references :
    protocol.references = protocol.messages + pend.count .connect + events.count .connect
  counted : protocol.m_refCount = (protocol.leftover + protocol.references) % 2 ^ 32
  settled : protocol.deleted = true → protocol.references = 0
  deletedLate :
    protocol.deleted = true →
      protocol.created = true ∧ protocol.m_closeState = .CLOSE_STATE_CLOSING
  quiet : protocol.created = false → protocol.messages = 0
  pairs : protocol.uses = protocol.frees + if protocol.player.isSome then 1 else 0
  kept : protocol.deleted = false → protocol.frees = 0
  gone : protocol.deleted = true → protocol.player = none
  timers : ∀ kind ∈ events, kind = .connect ∨ kind = .release

section Changes

variable {protocol : ProtocolGame} {pend events : List TaskKind}

lemma accepted_orderly : Orderly .accepted [] [] where
  closes := rfl
  releases := rfl
  connection := by decide
  order := by
    intro before kind after split
    cases before <;> cases split
  stage := Nat.le_refl 0
  references := rfl
  counted := rfl
  settled := nofun
  deletedLate := nofun
  quiet _ := rfl
  pairs := rfl
  kept _ := rfl
  gone := nofun
  timers := nofun

/-- What holds before every login and logout still does, with another task at the end. -/
lemma talks_append
  {more : TaskKind} {Holds : List TaskKind → Prop} (silent : ¬(more = .login ∨ more = .logout))
  (order :
    ∀ before kind after, pend = before ++ kind :: after →
      kind = .login ∨ kind = .logout → Holds before) :
  ∀ before kind after, pend ++ [more] = before ++ kind :: after →
    kind = .login ∨ kind = .logout → Holds before := by
  intro before kind after split talks
  rcases eq_nil_or_concat after with rfl | ⟨rest, last, rfl⟩
  · have same : pend = before ∧ [more] = [kind] := append_inj' split rfl
    rw [List.cons.injEq] at same
    exact (silent (same.2.1 ▸ talks)).elim
  · have inside : pend = before ++ kind :: rest := by
      have same : pend ++ [more] = (before ++ kind :: rest) ++ [last] := by
        simpa using split
      exact (append_inj' same rfl).1
    exact order before kind rest inside talks

section

variable (orderly : Orderly protocol pend events)
include orderly

lemma Orderly.early (early : protocol.m_closeState ≠ .CLOSE_STATE_CLOSING) :
  .release ∉ pend ∧ .release ∉ events ∧ protocol.deleted = false := by
  have releases := orderly.releases
  rw [if_neg (fun all => early all.2.1)] at releases
  refine ⟨?_, ?_, ?_⟩
  · rw [← count_eq_zero]
    omega
  · rw [← count_eq_zero]
    omega
  · by_contra deleted
    exact early (orderly.deletedLate (by simpa using deleted)).2

lemma Orderly.closeConnection (open_ : protocol.m_closeState = .CLOSE_STATE_NONE) :
  Orderly { protocol with m_closeState := .CLOSE_STATE_REQUESTED } (pend ++ [.close]) events :=
  { orderly with
    closes := by
      have before := orderly.closes
      rw [open_] at before
      rw [count_append, before]
      rfl
    releases := by
      have before := orderly.releases
      rw [open_] at before
      simpa using before
    connection := by
      have before := orderly.connection
      rw [open_] at before
      simpa using before
    order := talks_append (by decide) orderly.order
    stage := by
      rw [count_append, count_append]
      exact orderly.stage
    references := by
      rw [count_append]
      exact orderly.references
    deletedLate := by
      intro deleted
      have before := (orderly.deletedLate deleted).2
      rw [open_] at before
      cases before }

end

lemma Orderly.order_tail (orderly : Orderly protocol (kind :: pend) events) :
  ∀ before talk after, pend = before ++ talk :: after →
    talk = .login ∨ talk = .logout →
      .release ∉ before ∧ .release ∉ events ∧ protocol.deleted = false := by
  intro before talk after split talks
  obtain ⟨notPending, notScheduled, living⟩ :=
    orderly.order (kind :: before) talk after (by rw [split, cons_append]) talks
  exact ⟨fun mem => notPending (mem_cons_of_mem _ mem), notScheduled, living⟩

lemma Orderly.closeConnectionTask (orderly : Orderly protocol (.close :: pend) events) :
  protocol.m_closeState = .CLOSE_STATE_REQUESTED ∧
    Orderly
      { protocol with m_closeState := .CLOSE_STATE_CLOSING, m_connection := false }
      (if protocol.created then pend ++ [.release] else pend) events := by
  have requested : protocol.m_closeState = .CLOSE_STATE_REQUESTED := by
    by_contra other
    have closes := orderly.closes
    rw [if_neg other, count_cons_self] at closes
    omega
  have early : protocol.m_closeState ≠ .CLOSE_STATE_CLOSING := by
    rw [requested]
    decide
  obtain ⟨notPending, notScheduled, living⟩ := orderly.early early
  have closes : pend.count TaskKind.close = 0 := by
    have before := orderly.closes
    rw [if_pos requested, count_cons_self] at before
    omega
  have pendingNone : pend.count TaskKind.release = 0 :=
    count_eq_zero.mpr fun mem => notPending (mem_cons_of_mem _ mem)
  have scheduledNone : events.count TaskKind.release = 0 := count_eq_zero.mpr notScheduled
  have stage := orderly.stage
  have references := orderly.references
  refine ⟨requested, ?_⟩
  split_ifs with created
  · exact { orderly with
      closes := by
        rw [count_append, closes]
        rfl
      releases := by
        rw [count_append, pendingNone, scheduledNone, created, living]
        rfl
      connection := by simp
      order := talks_append (by decide) orderly.order_tail
      stage := by
        rw [count_append, count_append]
        exact stage
      references := by
        rw [count_append]
        exact references
      deletedLate := fun deleted => ⟨(orderly.deletedLate deleted).1, rfl⟩ }
  · exact { orderly with
      closes := closes
      releases := by
        rw [pendingNone, scheduledNone]
        simp [created]
      connection := by simp
      order := orderly.order_tail
      stage := stage
      references := references
      deletedLate := fun deleted => ⟨(orderly.deletedLate deleted).1, rfl⟩ }

lemma Orderly.parseFirstPacket
  (orderly : Orderly protocol pend events) (early : protocol.m_closeState ≠ .CLOSE_STATE_CLOSING)
  (uncreated : protocol.created = false) (leftover : Nat) :
  Orderly
      { protocol with
        created := true
        m_connection := true
        m_refCount := leftover % 2 ^ 32
        leftover := leftover }
      pend events ∧
    Orderly
      { protocol with
        created := true
        m_connection := true
        m_refCount := leftover % 2 ^ 32
        leftover := leftover }
      (pend ++ [.login]) events := by
  obtain ⟨notPending, notScheduled, living⟩ := orderly.early early
  have stage := orderly.stage
  rw [uncreated] at stage
  simp only [Bool.false_eq_true, if_false] at stage
  have unreferenced : protocol.references = 0 := by
    rw [orderly.references, orderly.quiet uncreated]
    omega
  have releases := orderly.releases
  have created :
      Orderly
        { protocol with
          created := true
          m_connection := true
          m_refCount := leftover % 2 ^ 32
          leftover := leftover }
        pend events :=
    { orderly with
      releases := by
        rw [if_neg (fun all => early all.2.1)] at releases
        rw [if_neg (fun all => early all.2.1)]
        exact releases
      connection := by simpa using early
      stage := by
        simp only [if_true]
        omega
      counted := by
        rw [unreferenced, Nat.add_zero]
      deletedLate := fun deleted => ⟨rfl, (orderly.deletedLate deleted).2⟩
      quiet := nofun }
  refine ⟨created, ?_⟩
  exact { created with
    closes := by
      rw [count_append]
      exact created.closes
    releases := by
      rw [count_append]
      exact created.releases
    order := by
      intro before kind after split _
      refine ⟨?_, notScheduled, living⟩
      intro mem
      have inside : TaskKind.release ∈ pend ++ [TaskKind.login] := by
        rw [split]
        exact mem_append_left _ mem
      exact notPending (by simpa using inside)
    stage := by
      rw [count_append, count_append, count_singleton_self,
        count_singleton, if_neg (by decide), if_pos rfl]
      dsimp only
      omega
    references := by
      rw [count_append]
      exact created.references }

lemma Orderly.parseLogout (orderly : Orderly protocol pend events)
  (early : protocol.m_closeState ≠ .CLOSE_STATE_CLOSING) :
  Orderly protocol (pend ++ [.logout]) events := by
  obtain ⟨notPending, notScheduled, living⟩ := orderly.early early
  exact { orderly with
    closes := by
      rw [count_append]
      exact orderly.closes
    releases := by
      rw [count_append]
      exact orderly.releases
    order := by
      intro before kind after split _
      refine ⟨?_, notScheduled, living⟩
      intro mem
      have inside : TaskKind.release ∈ pend ++ [TaskKind.logout] := by
        rw [split]
        exact mem_append_left _ mem
      exact notPending (by simpa using inside)
    stage := by
      rw [count_append, count_append]
      exact orderly.stage
    references := by
      rw [count_append]
      exact orderly.references }

lemma Orderly.handOver
  {before after : List TaskKind} (orderly : Orderly protocol pend (before ++ kind :: after)) :
  Orderly protocol (kind :: pend) (before ++ after) := by
  have moved : ∀ other, (before ++ kind :: after).count other =
      [kind].count other + (before ++ after).count other := by
    intro other
    rw [count_append, count_cons, count_append, count_singleton]
    omega
  have first : ∀ other, (kind :: pend).count other = [kind].count other + pend.count other := by
    intro other
    rw [count_cons, count_singleton]
    omega
  have timer : kind = .connect ∨ kind = .release :=
    orderly.timers kind (mem_append_right _ mem_cons_self)
  have notClose : [kind].count TaskKind.close = 0 := by
    rcases timer with rfl | rfl <;> rfl
  have notLogin : [kind].count TaskKind.login = 0 := by
    rcases timer with rfl | rfl <;> rfl
  have fewer : ∀ other, other ∈ before ++ after → other ∈ before ++ kind :: after := by
    intro other mem
    rcases mem_append.mp mem with front | back
    · exact mem_append_left _ front
    · exact mem_append_right _ (mem_cons_of_mem _ back)
  have releases := orderly.releases
  have stage := orderly.stage
  have references := orderly.references
  rw [moved] at releases stage references
  exact { orderly with
    closes := by
      rw [first, notClose, Nat.zero_add]
      exact orderly.closes
    releases := by
      rw [first, ← releases]
      omega
    order := by
      intro front talk rest split talks
      cases front with
      | nil =>
        have same : kind = talk := (List.cons.inj split).1
        subst same
        rcases timer with rfl | rfl
        · simp at talks
        · simp at talks
      | cons head front =>
        obtain ⟨same, inside⟩ := List.cons.inj split
        obtain ⟨notPending, notScheduled, living⟩ := orderly.order front talk rest inside talks
        refine ⟨?_, fun mem => notScheduled (fewer _ mem), living⟩
        intro mem
        rcases mem_cons.mp mem with release | later
        · refine notScheduled (mem_append_right _ ?_)
          rw [same, release]
          exact mem_cons_self
        · exact notPending later
    stage := by
      rw [first, first, notLogin]
      omega
    references := by
      rw [first]
      omega
    timers := fun other mem => orderly.timers other (fewer _ mem) }

section

variable (orderly : Orderly protocol (kind :: pend) events)
include orderly

lemma Orderly.drop (talks : kind = .login ∨ kind = .logout) : Orderly protocol pend events := by
  have later : ∀ other, other ≠ .login ∧ other ≠ .logout →
      (kind :: pend).count other = pend.count other := by
    intro other ne
    refine count_cons_of_ne ?_
    rcases talks with rfl | rfl
    · exact ne.1.symm
    · exact ne.2.symm
  have closes := orderly.closes
  have releases := orderly.releases
  have stage := orderly.stage
  have references := orderly.references
  rw [later .close (by decide)] at closes
  rw [later .release (by decide)] at releases
  rw [later .connect (by decide)] at stage references
  exact { orderly with
    closes := closes
    releases := releases
    order := orderly.order_tail
    stage := by
      have fewer : pend.count TaskKind.login ≤ (kind :: pend).count TaskKind.login :=
        count_le_count_cons
      omega
    references := references }

lemma Orderly.room (starts : kind = .login ∨ kind = .connect) :
  protocol.created = true ∧ protocol.deleted = false ∧
    pend.count .login + pend.count .connect + events.count .connect + protocol.uses = 0 := by
  have stage := orderly.stage
  have first : (kind :: pend).count TaskKind.login + (kind :: pend).count TaskKind.connect =
      pend.count .login + pend.count .connect + 1 := by
    rcases starts with rfl | rfl
    · rw [count_cons_self, count_cons_of_ne (by decide)]
      omega
    · rw [count_cons_self, count_cons_of_ne (by decide)]
      omega
  have created : protocol.created = true := by
    by_contra notCreated
    rw [if_neg notCreated] at stage
    omega
  have living : protocol.deleted = false := by
    rcases starts with rfl | rfl
    · exact (orderly.order [] .login pend rfl (Or.inl rfl)).2.2
    · by_contra deleted
      have settled := orderly.settled (by simpa using deleted)
      rw [orderly.references, count_cons_self] at settled
      omega
  rw [if_pos created] at stage
  exact ⟨created, living, by omega⟩

end

lemma Orderly.hold (orderly : Orderly protocol (.login :: pend) events) :
  Orderly
    { protocol with
      m_refCount := addRef protocol.m_refCount
      references := protocol.references + 1 }
    (.connect :: pend) events := by
  obtain ⟨created, living, none_⟩ := orderly.room (Or.inl rfl)
  have closes := orderly.closes
  have releases := orderly.releases
  have references := orderly.references
  rw [count_cons_of_ne (by decide)] at closes releases references
  exact { orderly with
    closes := by
      exact closes
    releases := by
      rw [count_cons_of_ne (by decide)]
      exact releases
    order := by
      intro before talk after split talks
      cases before with
      | nil =>
        rw [← (List.cons.inj split).1] at talks
        simp at talks
      | cons head before =>
        obtain ⟨same, inside⟩ := List.cons.inj split
        obtain ⟨notPending, notScheduled, _⟩ := orderly.order_tail before talk after inside talks
        refine ⟨?_, notScheduled, living⟩
        rw [← same]
        simpa using notPending
    stage := by
      rw [count_cons_self, count_cons_of_ne (by decide)]
      dsimp only
      rw [if_pos created]
      omega
    references := by
      rw [count_cons_self]
      dsimp only
      omega
    counted := by
      rw [orderly.counted, Connection.addRef_mod, Nat.add_assoc]
    settled := fun deleted => absurd deleted (ne_true_of_eq_false living)
    quiet := fun notCreated => absurd created (ne_true_of_eq_false notCreated) }

lemma Orderly.wait (orderly : Orderly protocol (.login :: pend) events) :
  Orderly
    { protocol with
      m_refCount := addRef protocol.m_refCount
      references := protocol.references + 1 }
    pend (events ++ [.connect]) := by
  obtain ⟨created, living, none_⟩ := orderly.room (Or.inl rfl)
  have dropped := orderly.drop (Or.inl rfl)
  have references := dropped.references
  exact { dropped with
    releases := by
      rw [count_append]
      exact dropped.releases
    order := by
      intro before talk after split talks
      obtain ⟨notPending, notScheduled, _⟩ := dropped.order before talk after split talks
      refine ⟨notPending, ?_, living⟩
      simpa using notScheduled
    stage := by
      rw [count_append, count_singleton_self]
      dsimp only
      rw [if_pos created]
      omega
    references := by
      rw [count_append, count_singleton_self]
      dsimp only
      omega
    counted := by
      rw [orderly.counted, Connection.addRef_mod, Nat.add_assoc]
    settled := fun deleted => absurd deleted (ne_true_of_eq_false living)
    quiet := fun notCreated => absurd created (ne_true_of_eq_false notCreated)
    timers := by
      intro kind mem
      rcases mem_append.mp mem with before | last
      · exact dropped.timers kind before
      · exact Or.inl (mem_singleton.mp last) }

lemma Orderly.connect (orderly : Orderly protocol (.connect :: pend) events) :
  Orderly
    { protocol with
      m_refCount := unRef protocol.m_refCount
      references := protocol.references - 1 }
    pend events := by
  obtain ⟨created, living, none_⟩ := orderly.room (Or.inr rfl)
  have closes := orderly.closes
  have releases := orderly.releases
  have references := orderly.references
  rw [count_cons_self] at references
  exact { orderly with
    closes := closes
    releases := releases
    order := orderly.order_tail
    stage := by
      dsimp only
      omega
    references := by
      dsimp only
      omega
    counted := by
      have more : protocol.leftover + protocol.references =
          protocol.leftover + (protocol.references - 1) + 1 := by
        omega
      rw [orderly.counted, more, Connection.unRef_mod]
    settled := fun deleted => absurd deleted (ne_true_of_eq_false living)
    quiet := fun notCreated => absurd created (ne_true_of_eq_false notCreated) }

section

variable (orderly : Orderly protocol pend events)
include orderly

lemma Orderly.takePlayer (created : protocol.created = true) (living : protocol.deleted = false)
  (none_ : pend.count .login + pend.count .connect + events.count .connect + protocol.uses = 0)
  (p : Nat) :
  protocol.player = none ∧
    Orderly { protocol with player := some p, uses := protocol.uses + 1 } pend events := by
  have pairs := orderly.pairs
  have unpaired : protocol.player = none := by
    cases player : protocol.player with
    | none => rfl
    | some other =>
      rw [player, isSome_some, if_pos rfl] at pairs
      omega
  refine ⟨unpaired, ?_⟩
  exact { orderly with
    stage := by
      dsimp only
      rw [if_pos created]
      omega
    pairs := by
      rw [unpaired, isSome_none] at pairs
      rw [isSome_some, if_pos rfl, pairs]
      rfl
    gone := fun deleted => absurd deleted (ne_true_of_eq_false living) }

lemma Orderly.getOutputMessage (connected : protocol.m_connection = true) :
  Orderly
    { protocol with
      m_refCount := addRef protocol.m_refCount
      references := protocol.references + 1
      messages := protocol.messages + 1 }
    pend events := by
  obtain ⟨created, open_⟩ := orderly.connection.mp connected
  obtain ⟨_, _, living⟩ := orderly.early open_
  have references := orderly.references
  exact { orderly with
    references := by
      dsimp only
      omega
    counted := by
      rw [orderly.counted, Connection.addRef_mod, Nat.add_assoc]
    settled := fun deleted => absurd deleted (ne_true_of_eq_false living)
    quiet := fun notCreated => absurd created (ne_true_of_eq_false notCreated) }

lemma Orderly.internalReleaseMessage (refers : 0 < protocol.messages) :
  Orderly
    { protocol with
      m_refCount := unRef protocol.m_refCount
      references := protocol.references - 1
      messages := protocol.messages - 1 }
    pend events := by
  have references := orderly.references
  exact { orderly with
    references := by
      dsimp only
      omega
    counted := by
      have more : protocol.leftover + protocol.references =
          protocol.leftover + (protocol.references - 1) + 1 := by
        omega
      rw [orderly.counted, more, Connection.unRef_mod]
    settled := fun deleted => by
      have settled := orderly.settled deleted
      dsimp only
      omega
    quiet := fun notCreated => by
      have quiet := orderly.quiet notCreated
      omega }

end

variable (orderly : Orderly protocol (.release :: pend) events)
include orderly

lemma Orderly.release :
  protocol.created = true ∧ protocol.m_closeState = .CLOSE_STATE_CLOSING ∧
    protocol.deleted = false ∧
      pend.count .release = 0 ∧ events.count .release = 0 ∧
        ∀ kind ∈ pend, ¬(kind = .login ∨ kind = .logout) := by
  have releases := orderly.releases
  rw [count_cons_self] at releases
  have due : protocol.created = true ∧ protocol.m_closeState = .CLOSE_STATE_CLOSING ∧
      protocol.deleted = false := by
    by_contra notDue
    rw [if_neg notDue] at releases
    omega
  rw [if_pos due] at releases
  refine ⟨due.1, due.2.1, due.2.2, by omega, by omega, ?_⟩
  intro kind mem talks
  obtain ⟨before, after, split⟩ := append_of_mem mem
  exact (orderly.order (.release :: before) kind after (by rw [split, cons_append])
    talks).1 mem_cons_self

lemma Orderly.releaseLater : Orderly protocol pend (events ++ [.release]) := by
  obtain ⟨created, closing, living, pendingNone, scheduledNone, silent⟩ := orderly.release
  have closes := orderly.closes
  have stage := orderly.stage
  have references := orderly.references
  exact { orderly with
    closes := closes
    releases := by
      rw [if_pos ⟨created, closing, living⟩, count_append, pendingNone, scheduledNone]
      rfl
    order := by
      intro before kind after split talks
      refine (silent kind ?_ talks).elim
      rw [split]
      exact mem_append_right _ mem_cons_self
    stage := by
      rw [count_append]
      exact stage
    references := by
      rw [count_append]
      exact references
    timers := by
      intro kind mem
      rcases mem_append.mp mem with before | last
      · exact orderly.timers kind before
      · exact Or.inr (mem_singleton.mp last) }

lemma Orderly.deleteProtocolTask (unreferenced : protocol.references = 0) :
  Orderly
    { protocol with
      player := none
      frees := protocol.frees + if protocol.player.isSome then 1 else 0
      m_connection := false
      deleted := true }
    pend events := by
  obtain ⟨created, closing, living, pendingNone, scheduledNone, silent⟩ := orderly.release
  have closes := orderly.closes
  have stage := orderly.stage
  have references := orderly.references
  exact { orderly with
    closes := closes
    releases := by
      rw [pendingNone, scheduledNone]
      simp
    connection := by simp [closing]
    order := by
      intro before kind after split talks
      refine (silent kind ?_ talks).elim
      rw [split]
      exact mem_append_right _ mem_cons_self
    stage := stage
    references := references
    settled := fun _ => unreferenced
    deletedLate := fun _ => ⟨created, closing⟩
    pairs := orderly.pairs
    kept := nofun
    gone := fun _ => rfl }

end Changes

end OTServ.Login.Pairing
