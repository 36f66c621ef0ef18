import Mathlib.Algebra.Group.Nat.Defs
import Mathlib.Data.List.Basic

/-!
# A connection

A `Connection` reads a packet at a time, a header and then its body, and has one
output message at most handed to `async_write`.  It closes in three stages: someone
requests it, a task of the dispatcher takes the protocol away, and whichever of that
task and of the completions of reads and writes comes last schedules
`releaseConnection`, which deletes the connection when no output message refers to
it.  The protocol is deleted in the same way by `releaseProtocol`.

What runs under `m_connectionLock` is one step.  The lock is recursive; how often it
is held is part of the state.  A read or a write which has been started completes
once, with any result.  What a protocol does with a packet is a list of calls; what
is written into messages is left out.
-/

namespace OTServ.Network

/-! ## The state -/

inductive CloseState where
  | CLOSE_STATE_NONE
  | CLOSE_STATE_REQUESTED
  | CLOSE_STATE_CLOSING
deriving DecidableEq, Repr

inductive ErrorCode where
  | operation_aborted
  | eof
  | connection_reset
  | connection_aborted
  | other
deriving DecidableEq, Repr

/-- What has been given to `async_read`. -/
inductive Read where
  | header
  | body
deriving DecidableEq, Repr

inductive Deed where
  /-- an asynchronous read or write is started -/
  | started
  /-- `releaseConnection` is scheduled -/
  | scheduled
deriving DecidableEq, Repr

structure Protocol where
  /-- it has the connection, and not a null pointer -/
  m_connection : Bool
  m_refCount : Nat
  /-- the value which the constructor left in `m_refCount` -/
  leftover : Nat
  deleted : Bool
deriving DecidableEq

/-- A connection with its protocol, its output messages and its tasks. -/
structure Connection where
  /-- how often the lock is held -/
  m_connectionLock : Int
  m_closeState : CloseState
  m_pendingRead : Int
  m_pendingWrite : Int
  m_readError : Bool
  m_writeError : Bool
  m_socketClosed : Bool
  /-- the connection has a protocol, and not a null pointer -/
  m_protocol : Bool
  m_refCount : Nat
  deleted : Bool
  protocol : Option Protocol
  /-- the reads that have not completed -/
  reads : List Read
  /-- the messages whose writes have not completed -/
  writes : List Nat
  /-- the messages of this connection to which there is a pointer -/
  held : List Nat
  /-- those which wait for `internalReleaseMessage` -/
  released : List Nat
  nextMessage : Nat
  /-- the references to the protocol that are not by messages -/
  pins : Nat
  closeTasks : Nat
  releaseTasks : Nat
  protocolTasks : Nat
  history : List Deed
deriving DecidableEq

/-- A connection behind `acceptConnection`. -/
def Connection.accepted : Connection where
  m_connectionLock := 0
  m_closeState := .CLOSE_STATE_NONE
  m_pendingRead := 1
  m_pendingWrite := 0
  m_readError := false
  m_writeError := false
  m_socketClosed := false
  m_protocol := false
  m_refCount := 0
  deleted := false
  protocol := none
  reads := [.header]
  writes := []
  held := []
  released := []
  nextMessage := 0
  pins := 0
  closeTasks := 0
  releaseTasks := 0
  protocolTasks := 0
  history := [.started]

/-- `addRef` and `unRef` of a counter of 32 bits. -/
def addRef (m_refCount : Nat) : Nat := (m_refCount + 1) % 2 ^ 32

def unRef (m_refCount : Nat) : Nat :=
  if m_refCount = 0 then 2 ^ 32 - 1 else m_refCount - 1

namespace Connection

def lock (connection : Connection) : Connection :=
  { connection with m_connectionLock := connection.m_connectionLock + 1 }

def unlock (connection : Connection) : Connection :=
  { connection with m_connectionLock := connection.m_connectionLock - 1 }

/-- The messages that refer to the connection and its protocol. -/
def references (connection : Connection) : Nat :=
  connection.held.length + connection.released.length

/-- `Connection::closeConnection`, whose lock goes with its scope. -/
def closeConnection (connection : Connection) : Connection :=
  let connection := connection.lock
  if connection.m_closeState ≠ .CLOSE_STATE_NONE then
    connection.unlock
  else
    ({ connection with
      m_closeState := .CLOSE_STATE_REQUESTED
      closeTasks := connection.closeTasks + 1 } : Connection).unlock

/-- `Connection::closingConnection`, which unlocks if it returns true. -/
def closingConnection (connection : Connection) : Connection × Bool :=
  if connection.m_pendingWrite = 0 ∨ connection.m_writeError = true then
    let connection := { connection with m_socketClosed := true }
    if connection.m_pendingRead = 0 then
      ({ connection.unlock with
        releaseTasks := connection.releaseTasks + 1
        history := connection.history ++ [.scheduled] }, true)
    else
      (connection, false)
  else
    (connection, false)

/-- The end of the functions which call `closingConnection`. -/
def finishClosing (connection : Connection) : Connection :=
  match connection.closingConnection with
  | (connection, true) => connection
  | (connection, false) => connection.unlock

/-- The protocol is taken away, and its release goes to the dispatcher. -/
def dropProtocol (connection : Connection) : Connection :=
  if connection.m_protocol then
    { connection with
      protocolTasks := connection.protocolTasks + 1
      protocol := connection.protocol.map fun protocol => { protocol with m_connection := false }
      m_protocol := false }
  else
    connection

def closeConnectionTask (connection : Connection) : Connection :=
  let connection := connection.lock
  if connection.m_closeState ≠ .CLOSE_STATE_REQUESTED then
    connection.unlock
  else
    ({ connection with m_closeState := .CLOSE_STATE_CLOSING } : Connection)
      |>.dropProtocol
      |>.finishClosing

def releaseConnection (connection : Connection) : Connection :=
  if 0 < connection.m_refCount then
    -- it is scheduled again
    connection
  else
    { connection with
      releaseTasks := connection.releaseTasks - 1
      deleted := true }

/-- `Protocol::releaseProtocol` and `Protocol::deleteProtocolTask`. -/
def releaseProtocol (connection : Connection) : Connection :=
  match connection.protocol with
  | none => connection
  | some protocol =>
    if 0 < protocol.m_refCount then
      connection
    else
      { connection with
        protocolTasks := connection.protocolTasks - 1
        protocol := some { protocol with m_connection := false, deleted := true } }

/-- `getOutputMessage` with `configureOutputMessage`, by the protocol. -/
def getOutputMessage (connection : Connection) : Connection :=
  match connection.protocol with
  | none => connection
  | some protocol =>
    if protocol.m_connection then
      { connection with
        held := connection.held ++ [connection.nextMessage]
        nextMessage := connection.nextMessage + 1
        protocol := some { protocol with m_refCount := addRef protocol.m_refCount }
        m_refCount := addRef connection.m_refCount }
    else
      connection

def releaseMessage (connection : Connection) (message : Nat) : Connection :=
  if message ∈ connection.held ∧ message ∉ connection.writes then
    { connection with
      held := connection.held.erase message
      released := connection.released ++ [message] }
  else
    connection

def internalReleaseMessage (connection : Connection) (message : Nat) : Connection :=
  if message ∈ connection.released then
    { connection with
      released := connection.released.erase message
      protocol :=
        connection.protocol.map fun protocol =>
          { protocol with m_refCount := unRef protocol.m_refCount }
      m_refCount := unRef connection.m_refCount }
  else
    connection

def internalSend (connection : Connection) (message : Nat) : Connection :=
  { connection with
    m_pendingWrite := connection.m_pendingWrite + 1
    writes := connection.writes ++ [message]
    history := connection.history ++ [.started] }

/-- `Connection::send` of a message to which the caller has a pointer. -/
def send (connection : Connection) (message : Nat) : Connection :=
  if message ∈ connection.held then
    let connection := connection.lock
    if connection.m_closeState = .CLOSE_STATE_CLOSING ∨
        connection.m_writeError = true then
      connection.unlock
    else if connection.m_pendingWrite = 0 then
      (connection.internalSend message).unlock
    else
      -- `addToAutoSend` keeps a pointer to the message
      connection.unlock
  else
    connection

/-- A reference to the protocol that is not by a message is taken. -/
def pin (connection : Connection) : Connection :=
  match connection.protocol with
  | none => connection
  | some protocol =>
    if protocol.deleted then connection
    else
      { connection with
        pins := connection.pins + 1
        protocol := some { protocol with m_refCount := addRef protocol.m_refCount } }

/-- A reference to the protocol that is not by a message is given back. -/
def unpin (connection : Connection) : Connection :=
  match connection.protocol with
  | none => connection
  | some protocol =>
    if protocol.deleted ∨ connection.pins = 0 then connection
    else
      { connection with
        pins := connection.pins - 1
        protocol := some { protocol with m_refCount := unRef protocol.m_refCount } }

inductive Call where
  | closeConnection
  | getOutputMessage
  | send (message : Nat)
  | releaseMessage (message : Nat)
  | pin
  | unpin
deriving DecidableEq

def call (connection : Connection) : Call → Connection
  | .closeConnection => connection.closeConnection
  | .getOutputMessage => connection.getOutputMessage
  | .send message => connection.send message
  | .releaseMessage message => connection.releaseMessage message
  | .pin => connection.pin
  | .unpin => connection.unpin

/-- An error behind which the connection is not closed from here. -/
def handleError (connection : Connection) (error : ErrorCode) : Connection :=
  if error = .operation_aborted then connection else connection.closeConnection

def handleReadError (connection : Connection) (error : Option ErrorCode) : Connection :=
  { (match error with
    | none => connection.closeConnection
    | some error => connection.handleError error) with
    m_readError := true }

def handleWriteError (connection : Connection) (error : ErrorCode) : Connection :=
  { connection.handleError error with m_writeError := true }

def asyncRead (connection : Connection) (read : Read) : Connection :=
  { connection with
    m_pendingRead := connection.m_pendingRead + 1
    reads := connection.reads ++ [read]
    history := connection.history ++ [.started] }

structure Packet where
  /-- the size in the header is that of a packet -/
  fits : Bool
  /-- the first byte is that of a protocol -/
  isProtocol : Bool
  /-- the value which the constructor of the protocol leaves in `m_refCount` -/
  leftover : Nat
  calls : List Call

def beginRead (connection : Connection) : Connection :=
  { connection.lock with m_pendingRead := connection.m_pendingRead - 1 }

def parseHeader (connection : Connection) (error : Option ErrorCode) (packet : Packet) :
  Connection :=
  let connection := connection.beginRead
  if connection.m_closeState = .CLOSE_STATE_CLOSING then
    connection.finishClosing
  else if error = none ∧ packet.fits = true then
    (connection.asyncRead .body).unlock
  else
    (connection.handleReadError error).unlock

/-- The protocol which the first byte of the first packet selects. -/
def selectProtocol (connection : Connection) (packet : Packet) : Connection :=
  { connection with
    m_protocol := true
    protocol :=
      some
        { m_connection := true
          m_refCount := packet.leftover % 2 ^ 32
          leftover := packet.leftover
          deleted := false } }

/-- The protocol gets the packet, and the next one is waited for. -/
def onRecvMessage (connection : Connection) (packet : Packet) : Connection :=
  ((packet.calls.foldl call connection).asyncRead .header).unlock

def parsePacket (connection : Connection) (error : Option ErrorCode) (packet : Packet) :
  Connection :=
  let connection := connection.beginRead
  if connection.m_closeState = .CLOSE_STATE_CLOSING then
    connection.finishClosing
  else if error = none then
    if connection.m_protocol then
      connection.onRecvMessage packet
    else if packet.isProtocol then
      (connection.selectProtocol packet).onRecvMessage packet
    else
      connection.closeConnection.unlock
  else
    (connection.handleReadError error).unlock

def onWriteOperation (connection : Connection) (error : Option ErrorCode) : Connection :=
  let connection := { connection.lock with m_pendingWrite := connection.m_pendingWrite - 1 }
  let connection :=
    match error with
    | none => connection
    | some error => connection.handleWriteError error
  if connection.m_closeState = .CLOSE_STATE_CLOSING then
    connection.finishClosing
  else
    connection.unlock

inductive Operation where
  | call (call : Call)
  /-- the dispatcher executes a task -/
  | closeConnectionTask
  | releaseConnection
  | releaseProtocol
  | internalReleaseMessage (message : Nat)
  /-- a read completes -/
  | readCompletes (read : Read) (error : Option ErrorCode) (packet : Packet)
  /-- a write completes -/
  | writeCompletes (message : Nat) (error : Option ErrorCode)

def handleRead
  (connection : Connection) (read : Read)
  (error : Option ErrorCode) (packet : Packet) : Connection :=
  match read with
  | .header => connection.parseHeader error packet
  | .body => connection.parsePacket error packet

def step (connection : Connection) : Operation → Connection
  | .call called => if connection.deleted then connection else connection.call called
  | .closeConnectionTask =>
    if connection.closeTasks = 0 then connection
    else
      ({ connection with closeTasks := connection.closeTasks - 1 } : Connection)
        |>.closeConnectionTask
  | .releaseConnection =>
    if connection.releaseTasks = 0 then connection else connection.releaseConnection
  | .releaseProtocol =>
    if connection.protocolTasks = 0 then connection else connection.releaseProtocol
  | .internalReleaseMessage message => connection.internalReleaseMessage message
  | .readCompletes read error packet =>
    if read ∈ connection.reads then
      ({ connection with reads := connection.reads.erase read } : Connection)
        |>.handleRead read error packet
    else
      connection
  | .writeCompletes message error =>
    if message ∈ connection.writes then
      ({ connection with writes := connection.writes.erase message } : Connection)
        |>.onWriteOperation error
    else
      connection

end Connection

end OTServ.Network
