import OTServ.Network.Connection
import OTServ.Library.GuardedRuns
import Mathlib.Order.Nat

/-!
# Runs of a connection

The invariant is stated for a lock that is held any number of times, since a handler
calls other functions of the connection under its lock.  `releaseConnection` has been
scheduled only on a closing connection without reads and writes, and no read or write
is started on a closing connection; so none is started behind it, and nothing
completes that could schedule it again.

The counters of references are right up to the value with which they begin.  The
constructor of `Connection` sets its counter to zero, the constructor of `Protocol`
leaves it as it is.
-/

namespace OTServ.Network

open List Option

namespace Connection

open Library.GuardedRuns

/-- What is promised of a connection between steps. -/
structure TearsDown (connection : Connection) : Prop where
  /-- `releaseConnection` is scheduled once at most -/
  once : connection.history.count .scheduled ≤ 1
  /-- it is scheduled on a closing connection without a read or a write -/
  atEnd :
    .scheduled ∈ connection.history →
      connection.m_closeState = .CLOSE_STATE_CLOSING ∧
        connection.reads = [] ∧ connection.writes = []
  /-- no read or write is started behind it -/
  nothingBehind :
    ∀ before after, connection.history = before ++ .scheduled :: after → .started ∉ after
  /-- the lock has been released as often as it was taken -/
  unlocked : connection.m_connectionLock = 0
  /-- no message refers to a connection or to a protocol that has been deleted -/
  deletedLate : connection.deleted = true → connection.references = 0
  protocolDeletedLate :
    ∀ protocol, connection.protocol = some protocol → protocol.deleted = true →
      connection.references = 0

/--
The counters of references are zero at a release only if no message refers.  The one
of the protocol counts from what its constructor left in it.
-/
def CountsRightly (connection : Connection) : Operation → Prop
  | .releaseConnection =>
    connection.references = 0 ∨ connection.references % 2 ^ 32 ≠ 0
  | .releaseProtocol =>
    ∀ protocol, connection.protocol = some protocol →
      connection.references = 0 ∨
        (protocol.leftover + connection.references + connection.pins) % 2 ^ 32 ≠ 0
  | _ => True

structure Kept (locks : Int) (connection : Connection) : Prop where
  locked : connection.m_connectionLock = locks
  reading : connection.m_pendingRead = connection.reads.length
  writing : connection.m_pendingWrite = connection.writes.length
  single : connection.writes.length ≤ 1
  failed : connection.m_writeError = true → connection.writes = []
  once : connection.history.count .scheduled ≤ 1
  atEnd :
    .scheduled ∈ connection.history →
      connection.m_closeState = .CLOSE_STATE_CLOSING ∧
        connection.reads = [] ∧ connection.writes = []
  nothingBehind :
    ∀ before after, connection.history = before ++ .scheduled :: after → .started ∉ after
  released : connection.releaseTasks ≠ 0 → .scheduled ∈ connection.history
  connected :
    ∀ protocol, connection.protocol = some protocol →
      protocol.m_connection = true →
        connection.m_closeState ≠ .CLOSE_STATE_CLOSING ∧ protocol.deleted = false
  has :
    connection.protocol ≠ none →
      connection.m_closeState ≠ .CLOSE_STATE_CLOSING → connection.m_protocol = true
  alone : connection.protocol = none → connection.references = 0 ∧ connection.pins = 0
  counted : connection.m_refCount = connection.references % 2 ^ 32
  protocolCounted :
    ∀ protocol, connection.protocol = some protocol → protocol.deleted = false →
      protocol.m_refCount = (protocol.leftover + connection.references + connection.pins) % 2 ^ 32
  deletedLate :
    connection.deleted = true → connection.references = 0 ∧ .scheduled ∈ connection.history
  protocolDeletedLate :
    ∀ protocol, connection.protocol = some protocol → protocol.deleted = true →
      connection.references = 0

variable {connection : Connection} {locks : Int}

lemma Kept.lock (kept : Kept locks connection) : Kept (locks + 1) connection.lock :=
  { kept with locked := congrArg (· + 1) kept.locked }

lemma Kept.unlock (kept : Kept (locks + 1) connection) : Kept locks connection.unlock :=
  { kept with
    locked := by
      show connection.m_connectionLock - 1 = locks
      rw [kept.locked]
      omega }

lemma Kept.not_scheduled (kept : Kept locks connection)
  (notYet : connection.m_closeState ≠ .CLOSE_STATE_CLOSING) : .scheduled ∉ connection.history :=
  fun scheduled => notYet (kept.atEnd scheduled).1

lemma nothingBehind_append {history : List Deed} {deed : Deed} (notYet : .scheduled ∉ history) :
  ∀ before after, history ++ [deed] = before ++ .scheduled :: after → .started ∉ after := by
  intro before after split
  have last : after = [] := by
    by_contra more
    obtain ⟨rest, final, rfl⟩ := eq_nil_or_concat after |>.resolve_left more
    have inside : history = before ++ .scheduled :: rest := by
      have same : history ++ [deed] = (before ++ .scheduled :: rest) ++ [final] := by
        simpa using split
      exact (append_inj' same rfl).1
    exact notYet (by simp [inside])
  rw [last]
  exact not_mem_nil

/-! ## Closing -/

lemma Kept.closeConnection (kept : Kept locks connection) :
  Kept locks connection.closeConnection := by
  rw [Connection.closeConnection]
  split_ifs with begun
  · exact kept.lock.unlock
  · have none_ : connection.m_closeState = .CLOSE_STATE_NONE := by
      simpa [Connection.lock] using begun
    have notYet : connection.m_closeState ≠ .CLOSE_STATE_CLOSING := by
      rw [none_]
      decide
    have requested :
        Kept (locks + 1)
          { connection.lock with
            m_closeState := .CLOSE_STATE_REQUESTED
            closeTasks := connection.lock.closeTasks + 1 } :=
      { kept.lock with
        atEnd := fun scheduled => absurd scheduled (kept.not_scheduled notYet)
        connected := fun protocol some_ has => ⟨nofun, (kept.connected protocol some_ has).2⟩
        has := fun some_ _ => kept.has some_ notYet }
    exact requested.unlock

lemma closeConnection_state (notYet : connection.m_closeState ≠ .CLOSE_STATE_CLOSING) :
  connection.closeConnection.m_closeState ≠ .CLOSE_STATE_CLOSING := by
  rw [Connection.closeConnection]
  split_ifs with begun
  · exact notYet
  · exact CloseState.noConfusion

lemma closeConnection_writes : connection.closeConnection.writes = connection.writes := by
  rw [Connection.closeConnection]
  split_ifs <;> rfl

lemma closeConnection_history : connection.closeConnection.history = connection.history := by
  rw [Connection.closeConnection]
  split_ifs <;> rfl

lemma Kept.finishClosing
  (kept : Kept 1 connection) (closing : connection.m_closeState = .CLOSE_STATE_CLOSING)
  (notYet : .scheduled ∉ connection.history) : Kept 0 connection.finishClosing := by
  rw [Connection.finishClosing, closingConnection]
  split_ifs with written
  · dsimp only
    split_ifs with read
    · have noReads : connection.reads = [] := by
        have length := kept.reading
        exact length_eq_zero_iff.mp (by omega)
      have noWrites : connection.writes = [] := by
        rcases written with zero | failed
        · have length := kept.writing
          exact length_eq_zero_iff.mp (by omega)
        · exact kept.failed failed
      have unlocked : Kept 0 connection.unlock := kept.unlock
      exact { unlocked with
        once := by
          rw [count_append, count_eq_zero_of_not_mem notYet]
          decide
        atEnd := fun _ => ⟨closing, noReads, noWrites⟩
        nothingBehind := nothingBehind_append notYet
        released := fun _ => mem_append_right _ (mem_singleton_self _)
        deletedLate := fun deleted => absurd (kept.deletedLate deleted).2 notYet }
    · have socketClosed : Kept 1 { connection with m_socketClosed := true } := { kept with }
      exact socketClosed.unlock
  · exact kept.unlock

lemma Kept.closeConnectionTask (kept : Kept 0 connection) :
  Kept 0 connection.closeConnectionTask := by
  rw [Connection.closeConnectionTask]
  split_ifs with requested
  · exact kept.lock.unlock
  · have state : connection.m_closeState = .CLOSE_STATE_REQUESTED := by
      simpa [Connection.lock] using requested
    have before : connection.m_closeState ≠ .CLOSE_STATE_CLOSING := by
      rw [state]
      decide
    have notYet := kept.not_scheduled before
    let closing : Connection := { connection.lock with m_closeState := .CLOSE_STATE_CLOSING }
    have dropped : Kept 1 closing.dropProtocol := by
      rw [dropProtocol]
      split_ifs with has
      · exact { kept.lock with
          atEnd := fun scheduled => absurd scheduled notYet
          connected := by
            intro protocol some_ connected
            obtain ⟨old, -, rfl⟩ := map_eq_some_iff.mp some_
            cases connected
          has := fun _ notClosing => absurd rfl notClosing
          alone := fun none_ => kept.alone (map_eq_none_iff.mp none_)
          protocolCounted := by
            intro protocol some_ alive
            obtain ⟨old, before, rfl⟩ := map_eq_some_iff.mp some_
            exact kept.protocolCounted old before alive
          protocolDeletedLate := by
            intro protocol some_ deleted
            obtain ⟨old, before, rfl⟩ := map_eq_some_iff.mp some_
            exact kept.protocolDeletedLate old before deleted }
      · exact { kept.lock with
          atEnd := fun scheduled => absurd scheduled notYet
          connected := by
            intro protocol some_ _
            have protocols : connection.protocol ≠ none := by
              rw [show connection.protocol = some protocol from some_]
              exact some_ne_none protocol
            exact absurd (kept.has protocols before) has
          has := fun _ notClosing => absurd rfl notClosing }
    have state : closing.dropProtocol.m_closeState = .CLOSE_STATE_CLOSING := by
      rw [dropProtocol]
      split_ifs <;> rfl
    have history : closing.dropProtocol.history = connection.history := by
      rw [dropProtocol]
      split_ifs <;> rfl
    exact dropped.finishClosing state (history ▸ notYet)

/-! ## Counting references -/

lemma addRef_mod (count : Nat) : addRef (count % 2 ^ 32) = (count + 1) % 2 ^ 32 := by
  rw [addRef]
  omega

lemma unRef_mod (count : Nat) : unRef ((count + 1) % 2 ^ 32) = count % 2 ^ 32 := by
  rw [unRef]
  split_ifs <;> omega

section

variable (kept : Kept locks connection)
include kept

lemma Kept.getOutputMessage : Kept locks connection.getOutputMessage := by
  rw [Connection.getOutputMessage]
  cases protocol : connection.protocol with
  | none => exact kept
  | some old =>
    dsimp only
    split_ifs with connected
    · obtain ⟨notYet, alive⟩ := kept.connected old protocol connected
      have counted := kept.protocolCounted old protocol alive
      have more :
          (connection.held ++ [connection.nextMessage]).length +
              connection.released.length =
            connection.references + 1 := by
        rw [length_append, references, length_singleton]
        omega
      exact { kept with
        connected := by
          rintro _ ⟨⟩ _
          exact ⟨notYet, alive⟩
        has := fun _ => kept.has (by simp [protocol])
        alone := fun none_ => absurd none_ (some_ne_none _)
        counted := by
          show addRef connection.m_refCount =
            ((connection.held ++ [connection.nextMessage]).length +
              connection.released.length) % 2 ^ 32
          rw [kept.counted, addRef_mod, more]
        protocolCounted := by
          rintro _ ⟨⟩ _
          show addRef old.m_refCount =
            (old.leftover +
              ((connection.held ++ [connection.nextMessage]).length +
                connection.released.length) + connection.pins) % 2 ^ 32
          rw [counted, addRef_mod, more]
          congr 1
          omega
        deletedLate := fun deleted =>
          absurd (kept.deletedLate deleted).2 (kept.not_scheduled notYet)
        protocolDeletedLate := by
          rintro _ ⟨⟩ deleted
          rw [show old.deleted = true from deleted] at alive
          cases alive }
    · exact kept

lemma Kept.releaseMessage (message : Nat) : Kept locks (connection.releaseMessage message) := by
  rw [Connection.releaseMessage]
  split_ifs with last
  · have same :
        (connection.held.erase message).length +
            (connection.released ++ [message]).length =
          connection.references := by
      have positive := length_pos_of_mem last.1
      rw [length_erase_of_mem last.1, length_append, length_singleton, references]
      omega
    exact { kept with
      alone := fun none_ => ⟨same.trans (kept.alone none_).1, (kept.alone none_).2⟩
      counted := kept.counted.trans (congrArg (· % 2 ^ 32) same.symm)
      protocolCounted := fun protocol some_ alive => by
        rw [kept.protocolCounted protocol some_ alive]
        exact congrArg (fun count => (protocol.leftover + count + connection.pins) % 2 ^ 32)
          same.symm
      deletedLate := fun deleted =>
        ⟨same.trans (kept.deletedLate deleted).1, (kept.deletedLate deleted).2⟩
      protocolDeletedLate := fun protocol some_ deleted =>
        same.trans (kept.protocolDeletedLate protocol some_ deleted) }
  · exact kept

lemma Kept.internalReleaseMessage
  (message : Nat) : Kept locks (connection.internalReleaseMessage message) := by
  rw [Connection.internalReleaseMessage]
  split_ifs with mem
  · have fewer :
        connection.references =
          connection.held.length + (connection.released.erase message).length + 1 := by
      have positive := length_pos_of_mem mem
      rw [length_erase_of_mem mem, references]
      omega
    have positive : connection.references ≠ 0 := by
      rw [fewer]
      exact Nat.succ_ne_zero _
    have counted :
        unRef connection.m_refCount =
          (connection.held.length + (connection.released.erase message).length) % 2 ^ 32 := by
      have counted := kept.counted
      rw [fewer] at counted
      rw [counted, unRef_mod]
    have protocolCounted (old : Protocol)
        (before : connection.protocol = some old) (alive : old.deleted = false) :
        unRef old.m_refCount =
          (old.leftover +
            (connection.held.length + (connection.released.erase message).length) +
            connection.pins) % 2 ^ 32 := by
      have counted := kept.protocolCounted old before alive
      have shifted :
          old.leftover + connection.references + connection.pins =
            old.leftover +
              (connection.held.length + (connection.released.erase message).length) +
              connection.pins + 1 := by
        omega
      rw [counted, shifted, unRef_mod]
    exact { kept with
      connected := by
        intro protocol some_ connected
        obtain ⟨old, before, rfl⟩ := map_eq_some_iff.mp some_
        exact kept.connected old before connected
      has := by
        intro some_ notYet
        exact kept.has (fun none_ => some_ (map_eq_none_iff.mpr none_)) notYet
      alone := by
        intro none_
        exact absurd (kept.alone (map_eq_none_iff.mp none_)).1 positive
      counted := counted
      protocolCounted := by
        intro protocol some_ alive
        obtain ⟨old, before, rfl⟩ := map_eq_some_iff.mp some_
        exact protocolCounted old before alive
      deletedLate := by
        intro deleted
        exact absurd (kept.deletedLate deleted).1 positive
      protocolDeletedLate := by
        intro protocol some_ deleted
        obtain ⟨old, before, rfl⟩ := map_eq_some_iff.mp some_
        exact absurd (kept.protocolDeletedLate old before deleted) positive }
  · exact kept

lemma Kept.pin : Kept locks connection.pin := by
  rw [Connection.pin]
  cases protocol : connection.protocol with
  | none => exact kept
  | some old =>
    dsimp only
    split_ifs with gone
    · exact kept
    · have alive : old.deleted = false := by simpa using gone
      exact { kept with
        connected := by
          rintro _ ⟨⟩ connected
          exact kept.connected old protocol connected
        has := fun _ => kept.has (by simp [protocol])
        alone := fun none_ => absurd none_ (some_ne_none _)
        protocolCounted := by
          rintro _ ⟨⟩ _
          rw [kept.protocolCounted old protocol alive, addRef_mod]
          rfl
        protocolDeletedLate := by
          rintro _ ⟨⟩ deleted
          exact kept.protocolDeletedLate old protocol deleted }

lemma Kept.unpin : Kept locks connection.unpin := by
  rw [Connection.unpin]
  cases protocol : connection.protocol with
  | none => exact kept
  | some old =>
    dsimp only
    split_ifs with gone
    · exact kept
    · obtain ⟨alive, some_⟩ := not_or.mp gone
      have alive : old.deleted = false := by simpa using alive
      obtain ⟨pins, pinned⟩ := Nat.exists_eq_succ_of_ne_zero some_
      exact { kept with
        connected := by
          rintro _ ⟨⟩ connected
          exact kept.connected old protocol connected
        has := fun _ => kept.has (by simp [protocol])
        alone := fun none_ => absurd none_ (some_ne_none _)
        protocolCounted := by
          rintro _ ⟨⟩ _
          have counted := kept.protocolCounted old protocol alive
          rw [counted, pinned, Nat.succ_eq_add_one, ← Nat.add_assoc, unRef_mod]
          rfl
        protocolDeletedLate := by
          rintro _ ⟨⟩ deleted
          exact kept.protocolDeletedLate old protocol deleted }

lemma Kept.start (notYet : connection.m_closeState ≠ .CLOSE_STATE_CLOSING) :
  (connection.history ++ [Deed.started]).count .scheduled ≤ 1 ∧
    .scheduled ∉ connection.history ++ [Deed.started] := by
  have before := kept.not_scheduled notYet
  have still : .scheduled ∉ connection.history ++ [Deed.started] := by
    simpa using before
  refine ⟨?_, still⟩
  rw [count_eq_zero_of_not_mem still]
  exact Nat.zero_le 1

lemma Kept.asyncRead (read : Read) (notYet : connection.m_closeState ≠ .CLOSE_STATE_CLOSING) :
  Kept locks (connection.asyncRead read) := by
  obtain ⟨once, none_⟩ := kept.start notYet
  exact { kept with
    reading := by
      simp [Connection.asyncRead, kept.reading]
    once := once
    atEnd := fun scheduled => absurd scheduled none_
    nothingBehind := nothingBehind_append (kept.not_scheduled notYet)
    released := fun tasks => absurd (kept.released tasks) (kept.not_scheduled notYet)
    deletedLate := fun deleted => absurd (kept.deletedLate deleted).2 (kept.not_scheduled notYet) }

lemma Kept.send (message : Nat) : Kept locks (connection.send message) := by
  rw [Connection.send]
  split_ifs with held
  · dsimp only
    split_ifs with refused free
    · exact kept.lock.unlock
    · obtain ⟨notYet, noError⟩ := not_or.mp refused
      have locked := kept.lock
      have none_ : connection.writes = [] := by
        have length := kept.writing
        rw [show connection.m_pendingWrite = 0 from free] at length
        exact length_eq_zero_iff.mp (by omega)
      obtain ⟨once, nothing⟩ := kept.start notYet
      have sent : Kept (locks + 1) (connection.lock.internalSend message) :=
        { locked with
          writing := by
            simp [internalSend, Connection.lock, kept.writing]
          single := by simp [internalSend, Connection.lock, none_]
          failed := fun failed => absurd failed noError
          once := once
          atEnd := fun scheduled => absurd scheduled nothing
          nothingBehind := nothingBehind_append (kept.not_scheduled notYet)
          released := fun tasks => absurd (kept.released tasks) (kept.not_scheduled notYet)
          deletedLate := fun deleted =>
            absurd (kept.deletedLate deleted).2 (kept.not_scheduled notYet) }
      exact sent.unlock
    · exact kept.lock.unlock
  · exact kept

lemma Kept.call (called : Call) : Kept locks (connection.call called) := by
  cases called with
  | closeConnection => exact kept.closeConnection
  | getOutputMessage => exact kept.getOutputMessage
  | send message => exact kept.send message
  | releaseMessage message => exact kept.releaseMessage message
  | pin => exact kept.pin
  | unpin => exact kept.unpin

end

lemma call_state (called : Call) (notYet : connection.m_closeState ≠ .CLOSE_STATE_CLOSING) :
  (connection.call called).m_closeState ≠ .CLOSE_STATE_CLOSING := by
  cases called with
  | closeConnection => exact closeConnection_state notYet
  | getOutputMessage =>
    simp only [Connection.call, Connection.getOutputMessage]
    split
    · exact notYet
    · split_ifs <;> exact notYet
  | send message =>
    simp only [Connection.call, Connection.send]
    split_ifs <;> exact notYet
  | releaseMessage message =>
    simp only [Connection.call, Connection.releaseMessage]
    split_ifs <;> exact notYet
  | pin =>
    simp only [Connection.call, Connection.pin]
    split
    · exact notYet
    · split_ifs <;> exact notYet
  | unpin =>
    simp only [Connection.call, Connection.unpin]
    split
    · exact notYet
    · split_ifs <;> exact notYet

section

variable (kept : Kept locks connection)
include kept

lemma Kept.calls (notYet : connection.m_closeState ≠ .CLOSE_STATE_CLOSING) (calls : List Call) :
  Kept locks (calls.foldl Connection.call connection) ∧
    (calls.foldl Connection.call connection).m_closeState ≠ .CLOSE_STATE_CLOSING := by
  induction calls generalizing connection with
  | nil => exact ⟨kept, notYet⟩
  | cons called calls ih =>
    exact ih (kept.call called) (call_state called notYet)

/-! ## Completions -/

lemma Kept.handleError (error : ErrorCode) : Kept locks (connection.handleError error) := by
  rw [Connection.handleError]
  split_ifs
  · exact kept
  · exact kept.closeConnection

lemma Kept.handleReadError
  (error : Option ErrorCode) : Kept locks (connection.handleReadError error) := by
  cases error with
  | none => exact { kept.closeConnection with }
  | some error => exact { kept.handleError error with }

lemma Kept.handleWriteError (error : ErrorCode) (written : connection.writes = []) :
  Kept locks (connection.handleWriteError error) := by
  have none_ : (connection.handleError error).writes = [] := by
    rw [Connection.handleError]
    split_ifs
    · exact written
    · exact closeConnection_writes.trans written
  exact { kept.handleError error with failed := fun _ => none_ }

end

lemma handleWriteError_history (error : ErrorCode) :
  (connection.handleWriteError error).history = connection.history := by
  show (connection.handleError error).history = connection.history
  rw [Connection.handleError]
  split_ifs
  · rfl
  · exact closeConnection_history

lemma Kept.beginRead
  {read : Read} (kept : Kept 0 connection) (outstanding : read ∈ connection.reads) :
  Kept 1 ({ connection with reads := connection.reads.erase read } :
    Connection).beginRead ∧ .scheduled ∉ connection.history := by
  have notYet : .scheduled ∉ connection.history := by
    intro scheduled
    rw [(kept.atEnd scheduled).2.1] at outstanding
    cases outstanding
  have begun :
      Kept 1 ({ connection with reads := connection.reads.erase read } : Connection).beginRead :=
    { kept.lock with
      reading := by
        show connection.m_pendingRead - 1 = (connection.reads.erase read).length
        have positive := length_pos_of_mem outstanding
        rw [kept.reading, length_erase_of_mem outstanding]
        omega
      atEnd := fun scheduled => absurd scheduled notYet }
  exact ⟨begun, notYet⟩

lemma Kept.onRecvMessage (kept : Kept 1 connection)
  (notYet : connection.m_closeState ≠ .CLOSE_STATE_CLOSING) (packet : Packet) :
  Kept 0 (connection.onRecvMessage packet) := by
  obtain ⟨called, state⟩ := kept.calls notYet packet.calls
  exact (called.asyncRead .header state).unlock

lemma Kept.selectProtocol
  (kept : Kept locks connection) (notYet : connection.m_closeState ≠ .CLOSE_STATE_CLOSING)
  (without : connection.m_protocol ≠ true) (packet : Packet) :
  Kept locks (connection.selectProtocol packet) := by
  have none_ : connection.protocol = none := by
    by_contra some_
    exact without (kept.has some_ notYet)
  obtain ⟨references, pins⟩ := kept.alone none_
  have counted :
      packet.leftover % 2 ^ 32 =
        (packet.leftover + connection.references + connection.pins) % 2 ^ 32 := by
    rw [references, pins]
    rfl
  exact { kept with
    connected := by
      rintro _ ⟨⟩ _
      exact ⟨notYet, rfl⟩
    has := fun _ _ => rfl
    alone := fun none_ => absurd none_ (some_ne_none _)
    protocolCounted := by
      rintro _ ⟨⟩ _
      exact counted
    protocolDeletedLate := by
      rintro _ ⟨⟩ deleted
      cases deleted }

section

variable (kept : Kept 0 connection)
include kept

lemma Kept.handleRead {read : Read} (outstanding : read ∈ connection.reads)
  (error : Option ErrorCode) (packet : Packet) :
  Kept 0 (({ connection with reads := connection.reads.erase read } :
    Connection).handleRead read error packet) := by
  obtain ⟨begun, notYet⟩ := kept.beginRead outstanding
  cases read with
  | header =>
    rw [Connection.handleRead, parseHeader]
    split_ifs with closing fits
    · exact begun.finishClosing closing notYet
    · exact (begun.asyncRead .body closing).unlock
    · exact (begun.handleReadError error).unlock
  | body =>
    rw [Connection.handleRead, parsePacket]
    split_ifs with closing read has isProtocol
    · exact begun.finishClosing closing notYet
    · exact begun.onRecvMessage closing packet
    · exact (begun.selectProtocol closing has packet).onRecvMessage closing packet
    · exact begun.closeConnection.unlock
    · exact (begun.handleReadError error).unlock

lemma Kept.onWriteOperation
  {message : Nat} (outstanding : message ∈ connection.writes) (error : Option ErrorCode) :
  Kept 0 (({ connection with writes := connection.writes.erase message } :
    Connection).onWriteOperation error) := by
  have notYet : .scheduled ∉ connection.history := by
    intro scheduled
    rw [(kept.atEnd scheduled).2.2] at outstanding
    cases outstanding
  have positive := length_pos_of_mem outstanding
  have single := kept.single
  have length := length_erase_of_mem outstanding
  have none_ : connection.writes.erase message = [] := length_eq_zero_iff.mp (by omega)
  let written : Connection :=
    { connection.lock with
      writes := connection.writes.erase message
      m_pendingWrite := connection.m_pendingWrite - 1 }
  have begun : Kept 1 written :=
    { kept.lock with
      writing := by
        show connection.m_pendingWrite - 1 = (connection.writes.erase message).length
        rw [kept.writing, length]
        omega
      single := by
        show (connection.writes.erase message).length ≤ 1
        omega
      failed := fun _ => none_
      atEnd := fun scheduled => absurd scheduled notYet }
  have ends (after : Connection) (kept : Kept 1 after)
      (notYet : .scheduled ∉ after.history) :
      Kept 0
        (if after.m_closeState = .CLOSE_STATE_CLOSING then after.finishClosing
        else after.unlock) := by
    split_ifs with closing
    · exact kept.finishClosing closing notYet
    · exact kept.unlock
  cases error with
  | none => exact ends written begun notYet
  | some error =>
    refine ends _ (begun.handleWriteError error none_) ?_
    rw [handleWriteError_history]
    exact notYet

lemma Kept.releaseConnection
  (tasks : connection.releaseTasks ≠ 0) (counts : connection.CountsRightly .releaseConnection) :
  Kept 0 connection.releaseConnection := by
  have scheduled := kept.released tasks
  rw [Connection.releaseConnection]
  split_ifs with referred
  · exact kept
  · have zero : connection.references % 2 ^ 32 = 0 := by
      rw [← kept.counted]
      omega
    have none_ : connection.references = 0 := counts.resolve_right fun other => other zero
    exact { kept with
      released := fun _ => scheduled
      deletedLate := fun _ => ⟨none_, scheduled⟩ }

lemma Kept.releaseProtocol (counts : connection.CountsRightly .releaseProtocol) :
  Kept 0 connection.releaseProtocol := by
  rw [Connection.releaseProtocol]
  cases protocol : connection.protocol with
  | none => exact kept
  | some old =>
    dsimp only
    split_ifs with referred
    · exact kept
    · have none_ : connection.references = 0 := by
        cases alive : old.deleted with
        | true => exact kept.protocolDeletedLate old protocol alive
        | false =>
          have counted := kept.protocolCounted old protocol alive
          exact (counts old protocol).resolve_right fun other => other (by omega)
      exact { kept with
        connected := by
          rintro _ ⟨⟩ connected
          cases connected
        has := fun _ => kept.has (by simp [protocol])
        alone := fun none_ => absurd none_ (some_ne_none _)
        protocolCounted := by
          rintro _ ⟨⟩ alive
          cases alive
        protocolDeletedLate := by
          rintro _ ⟨⟩ _
          exact none_ }

lemma Kept.step {operation : Operation} (counts : connection.CountsRightly operation) :
  Kept 0 (connection.step operation) := by
  cases operation with
  | call called =>
    rw [Connection.step]
    split_ifs
    · exact kept
    · exact kept.call called
  | closeConnectionTask =>
    rw [Connection.step]
    split_ifs
    · exact kept
    · have taken : Kept 0 { connection with closeTasks := connection.closeTasks - 1 } :=
        { kept with }
      exact taken.closeConnectionTask
  | releaseConnection =>
    rw [Connection.step]
    split_ifs with tasks
    · exact kept
    · exact kept.releaseConnection tasks counts
  | releaseProtocol =>
    rw [Connection.step]
    split_ifs
    · exact kept
    · exact kept.releaseProtocol counts
  | internalReleaseMessage message => exact kept.internalReleaseMessage message
  | readCompletes read error packet =>
    rw [Connection.step]
    split_ifs with outstanding
    · exact kept.handleRead outstanding error packet
    · exact kept
  | writeCompletes message error =>
    rw [Connection.step]
    split_ifs with outstanding
    · exact kept.onWriteOperation outstanding error
    · exact kept

end

lemma accepted_kept : Kept 0 accepted where
  locked := rfl
  reading := rfl
  writing := rfl
  single := Nat.zero_le 1
  failed := nofun
  once := by decide
  atEnd := by decide
  nothingBehind before after split := by
    have scheduled : .scheduled ∈ accepted.history := by simp [split]
    exact absurd scheduled (by decide)
  released := by decide
  connected := by simp [accepted]
  has := by simp [accepted]
  alone := fun _ => ⟨rfl, rfl⟩
  counted := rfl
  protocolCounted := by simp [accepted]
  deletedLate := nofun
  protocolDeletedLate := by simp [accepted]

/-- A connection is torn down in order in a run whose counters count rightly. -/
theorem tearsDown_of_countsRightly {connection : Connection}
  (run :
    Reaches
      (fun connection operation next => next = Connection.step connection operation)
      CountsRightly accepted connection) : connection.TearsDown := by
  have preserved :
      ∀ connection operation next, Kept 0 connection →
        connection.CountsRightly operation → next = connection.step operation → Kept 0 next := by
    rintro connection operation _ kept counts rfl
    exact kept.step counts
  have kept := run.invariant accepted_kept preserved
  exact {
    once := kept.once
    atEnd := kept.atEnd
    nothingBehind := kept.nothingBehind
    unlocked := kept.locked
    deletedLate := fun deleted => (kept.deletedLate deleted).1
    protocolDeletedLate := kept.protocolDeletedLate }

instance (connection : Connection) (operation : Operation) :
  Decidable (connection.CountsRightly operation) :=
  match operation with
  | .releaseConnection => inferInstanceAs (Decidable (_ ∨ _))
  | .releaseProtocol =>
    match protocol : connection.protocol with
    | none => isTrue fun _ some_ => by
        rw [protocol] at some_
        cases some_
    | some old =>
      decidable_of_iff
        (connection.references = 0 ∨
          (old.leftover + connection.references + connection.pins) % 2 ^ 32 ≠ 0)
        ⟨fun holds other some_ => by
            rw [protocol] at some_
            cases some_
            exact holds,
          fun holds => holds old protocol⟩
  | .call _ => isTrue trivial
  | .closeConnectionTask => isTrue trivial
  | .internalReleaseMessage _ => isTrue trivial
  | .readCompletes _ _ _ => isTrue trivial
  | .writeCompletes _ _ => isTrue trivial

/--
A protocol answers the first packet with a message and closes the connection, whose
read is aborted; the count of the protocol begins with a value.
-/
def answered (leftover : Nat) : List Operation :=
  [.readCompletes .header none ⟨true, true, 0, []⟩,
    .readCompletes .body none
      ⟨true, true, leftover, [.getOutputMessage, .send 0, .closeConnection]⟩,
    .closeConnectionTask,
    .readCompletes .header (some .operation_aborted) ⟨false, false, 0, []⟩,
    .releaseProtocol]

/-- The message is written and released, and connection and protocol are deleted. -/
def goneLate : List Operation :=
  answered 0 ++
    [.writeCompletes 0 none, .call (.releaseMessage 0), .releaseConnection,
      .internalReleaseMessage 0, .releaseConnection, .releaseProtocol]

theorem tearsDown_answered :
  (goneLate.foldl Connection.step accepted).deleted = true ∧
    (goneLate.foldl Connection.step accepted).TearsDown := by
  refine ⟨by decide, ?_⟩
  exact tearsDown_of_countsRightly (Reaches.refl.of_allowed goneLate (by decide))

/-- The count begins with its greatest value, and the message makes it zero. -/
theorem leftover_count_deletes :
  ¬ ∀ connection,
    Reaches
      (fun connection operation next => next = Connection.step connection operation)
      Always accepted connection → connection.TearsDown := by
  intro always
  have ends := always _ (Reaches.of_list accepted (answered (2 ^ 32 - 1)))
  have protocol :
      ((answered (2 ^ 32 - 1)).foldl Connection.step accepted).protocol =
        some ⟨false, 0, 2 ^ 32 - 1, true⟩ := by
    decide
  have referred : ((answered (2 ^ 32 - 1)).foldl Connection.step accepted).references = 1 := by
    decide
  have zero := ends.protocolDeletedLate _ protocol rfl
  cases zero

end Connection

end OTServ.Network
