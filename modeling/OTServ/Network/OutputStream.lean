import OTServ.Library.ByteStreams

/-!
# The stream of output messages

A protocol appends its commands to a buffer, an output message which
`getOutputBuffer` takes from the pool when there is none.  The pool keeps the buffer
in `m_autoSendOutputMessages`, and `sendAll` gives it to its connection when it is
long or old enough.  A connection which is still writing puts it into `m_toAddQueue`,
from which the next pass takes it again; the protocol goes on appending until the
buffer is really sent, when its length is written and the protocol lets go of it.

The pool serves all connections; a protocol is named by its connection.  A pass goes
from message to message, and anything may happen between two of them.  A write is
completed at any time, and a message is released when no pointer to it is left.

What a protocol appends by one command is a list of fields, each with the bytes of
one `Add` function, which drops what has no room.
-/

namespace OTServ.Network

open Library.ByteStreams
open Function

inductive OutputMessageState where
  | STATE_FREE
  | STATE_ALLOCATED
deriving DecidableEq, Repr

/-- An `OutputMessage`. -/
structure OutputMessage where
  m_state : OutputMessageState
  /-- its connection, and its protocol -/
  connection : Nat
  m_frame : UInt64
  /-- what stands before the body when the length has been written -/
  header : List UInt8
  body : List UInt8
  /-- the commands which have been appended -/
  commands : List (List UInt8)
deriving DecidableEq

def NETWORKMESSAGE_MAXSIZE : Nat := 16768

namespace OutputMessage

def new : OutputMessage where
  m_state := .STATE_FREE
  connection := 0
  m_frame := 0
  header := []
  body := []
  commands := []

def getMessageLength (message : OutputMessage) : Nat :=
  message.header.length + message.body.length

/-- The bytes from `getOutputBuffer` on. -/
def bytes (message : OutputMessage) : List UInt8 :=
  message.header ++ message.body

def canAdd (message : OutputMessage) (size : Nat) : Bool :=
  size + (4 + message.body.length) < NETWORKMESSAGE_MAXSIZE - 16

/-- An `Add` function with its bytes. -/
def add (message : OutputMessage) (field : List UInt8) : OutputMessage :=
  if message.canAdd field.length then
    { message with body := message.body ++ field }
  else
    message

def addCommand (message : OutputMessage) (fields : List (List UInt8)) : OutputMessage :=
  { fields.foldl add message with commands := message.commands ++ [fields.flatten] }

def writeMessageLength (message : OutputMessage) : OutputMessage :=
  { message with header := littleEndian 2 message.getMessageLength }

def freeMessage (message : OutputMessage) : OutputMessage :=
  { message with
    m_frame := 0
    header := []
    m_state := .STATE_FREE }

end OutputMessage

/-- A write that has not completed: the message and the bytes that were handed over. -/
structure Write where
  message : Nat
  bytes : List UInt8
deriving DecidableEq

/-- The pool with its messages, the protocols and their connections. -/
structure OutputMessagePool where
  messages : Nat → OutputMessage
  /-- the number of messages that there are -/
  next : Nat
  m_outputMessages : List Nat
  m_autoSendOutputMessages : List Nat
  m_toAddQueue : List Nat
  /-- what a pass of `sendAll` has still to visit -/
  passing : Option (List Nat)
  m_frameTime : UInt64
  m_outputBuffer : Nat → Option Nat
  m_pendingWrite : Nat → Nat
  m_writeError : Nat → Bool
  /-- `m_closeState` is `CLOSE_STATE_CLOSING`, and the protocol has no connection -/
  closing : Nat → Bool
  writes : Nat → List Write
  /-- the bytes that have been handed to `async_write` -/
  handed : Nat → List (List UInt8)
  /-- the commands that have been appended -/
  appended : Nat → List (List UInt8)

def OutputMessagePool.initial (poolSize : Nat) : OutputMessagePool where
  messages _ := OutputMessage.new
  next := poolSize
  m_outputMessages := List.range poolSize
  m_autoSendOutputMessages := []
  m_toAddQueue := []
  passing := none
  m_frameTime := 0
  m_outputBuffer _ := none
  m_pendingWrite _ := 0
  m_writeError _ := false
  closing _ := false
  writes _ := []
  handed _ := []
  appended _ := []

namespace OutputMessagePool

def setMessage (pool : OutputMessagePool) (m : Nat) (message : OutputMessage) :
  OutputMessagePool :=
  { pool with messages := update pool.messages m message }

/-- `getOutputMessage` and `configureOutputMessage` for a protocol. -/
def getOutputMessage (pool : OutputMessagePool) (connection : Nat) : OutputMessagePool × Nat :=
  let taken :=
    match pool.m_outputMessages.getLast? with
    | some m => (m, pool.m_outputMessages.dropLast, pool.next)
    | none => (pool.next, [], pool.next + 1)
  ({ pool.setMessage taken.1
      { pool.messages taken.1 with
        m_state := .STATE_ALLOCATED
        connection := connection
        m_frame := pool.m_frameTime
        body := []
        commands := [] } with
      m_outputMessages := taken.2.1
      next := taken.2.2
      m_autoSendOutputMessages := pool.m_autoSendOutputMessages ++ [taken.1]
      passing := pool.passing.map fun rest => rest ++ [taken.1] }, taken.1)

def getOutputBuffer (pool : OutputMessagePool) (connection : Nat) :
  OutputMessagePool × Option Nat :=
  match pool.m_outputBuffer connection with
  | some m => (pool, some m)
  | none =>
    if pool.closing connection then
      (pool, none)
    else
      let (pool, m) := pool.getOutputMessage connection
      ({ pool with
        m_outputBuffer := update pool.m_outputBuffer connection (some m) },
        some m)

def append (pool : OutputMessagePool) (connection : Nat) (fields : List (List UInt8)) :
  OutputMessagePool :=
  match pool.getOutputBuffer connection with
  | (pool, none) => pool
  | (pool, some m) =>
    { pool.setMessage m ((pool.messages m).addCommand fields) with
      appended := update pool.appended connection (pool.appended connection ++ [fields.flatten]) }

/-! ## Sending -/

/-- `Protocol::onSendMessage` of the protocol of a message. -/
def onSendMessage (pool : OutputMessagePool) (m : Nat) : OutputMessagePool :=
  let message := pool.messages m
  { pool.setMessage m message.writeMessageLength with
    m_outputBuffer :=
      if pool.m_outputBuffer message.connection = some m then
        update pool.m_outputBuffer message.connection none
      else
        pool.m_outputBuffer }

def internalSend (pool : OutputMessagePool) (m : Nat) : OutputMessagePool :=
  let message := pool.messages m
  let connection := message.connection
  { pool with
    m_pendingWrite :=
      update pool.m_pendingWrite connection (pool.m_pendingWrite connection + 1)
    writes :=
      update pool.writes connection (pool.writes connection ++ [⟨m, message.bytes⟩])
    handed :=
      update pool.handed connection (pool.handed connection ++ [message.bytes]) }

def refused (pool : OutputMessagePool) (connection : Nat) : Bool :=
  pool.closing connection || pool.m_writeError connection

/-- `Connection::send`, and what `sendAll` does when it fails. -/
def send (pool : OutputMessagePool) (m : Nat) : OutputMessagePool :=
  let connection := (pool.messages m).connection
  if pool.refused connection then
    pool.onSendMessage m
  else if pool.m_pendingWrite connection = 0 then
    (pool.onSendMessage m).internalSend m
  else
    -- `addToAutoSend`
    { pool with m_toAddQueue := pool.m_toAddQueue ++ [m] }

/-- A message has waited for longer than 10 seconds. -/
def isOld (pool : OutputMessagePool) (now : UInt64) (m : Nat) : Bool :=
  now - (pool.messages m).m_frame > 10000

/-- One message of the first loop of `sendAll`. -/
def takeWaiting (now : UInt64) (pool : OutputMessagePool) (m : Nat) : OutputMessagePool :=
  if pool.isOld now m then
    pool.onSendMessage m
  else
    { pool with m_autoSendOutputMessages := pool.m_autoSendOutputMessages ++ [m] }

/-- `sendAll` up to its second loop. -/
def beginSendAll (pool : OutputMessagePool) (now : UInt64) : OutputMessagePool :=
  let taken := { pool.m_toAddQueue.foldl (takeWaiting now) pool with m_toAddQueue := [] }
  { taken with passing := some taken.m_autoSendOutputMessages }

def isReady (pool : OutputMessagePool) (m : Nat) : Bool :=
  (pool.messages m).getMessageLength > 1024 || pool.m_frameTime - (pool.messages m).m_frame > 10

/-- One turn of the second loop of `sendAll`. -/
def visit (pool : OutputMessagePool) : OutputMessagePool :=
  match pool.passing with
  | none => pool
  | some [] => { pool with passing := none }
  | some (m :: rest) =>
    if pool.isReady m then
      { pool.send m with
        m_autoSendOutputMessages := pool.m_autoSendOutputMessages.erase m
        passing := some rest }
    else
      { pool with passing := some rest }

/-- `Connection::onWriteOperation` -/
def onWriteOperation (pool : OutputMessagePool) (connection : Nat) (error : Bool) :
  OutputMessagePool :=
  match pool.writes connection with
  | [] => pool
  | _ :: rest =>
    { pool with
      writes := update pool.writes connection rest
      m_pendingWrite := update pool.m_pendingWrite connection (pool.m_pendingWrite connection - 1)
      m_writeError :=
        if error then update pool.m_writeError connection true
        else pool.m_writeError }

def closeConnectionTask (pool : OutputMessagePool) (connection : Nat) : OutputMessagePool :=
  { pool with closing := update pool.closing connection true }

def IsPointedTo (pool : OutputMessagePool) (m : Nat) : Prop :=
  m ∈ pool.m_autoSendOutputMessages ∨ m ∈ pool.m_toAddQueue ∨
    pool.m_outputBuffer (pool.messages m).connection = some m ∨
    m ∈ (pool.writes (pool.messages m).connection).map Write.message

instance (pool : OutputMessagePool) (m : Nat) : Decidable (pool.IsPointedTo m) :=
  inferInstanceAs (Decidable (_ ∨ _ ∨ _ ∨ _))

def internalReleaseMessage (pool : OutputMessagePool) (m : Nat) : OutputMessagePool :=
  if (pool.messages m).m_state = .STATE_FREE ∨ pool.IsPointedTo m then
    pool
  else
    { pool.setMessage m (pool.messages m).freeMessage with
      m_outputMessages := pool.m_outputMessages ++ [m] }

inductive StreamOperation where
  | append (connection : Nat) (fields : List (List UInt8))
  | startExecutionFrame (now : UInt64)
  | beginSendAll (now : UInt64)
  | visit
  | onWriteOperation (connection : Nat) (error : Bool)
  | closeConnectionTask (connection : Nat)
  | internalReleaseMessage (m : Nat)
deriving DecidableEq

def step (pool : OutputMessagePool) : StreamOperation → OutputMessagePool
  | .append connection fields => pool.append connection fields
  | .startExecutionFrame now => { pool with m_frameTime := now }
  | .beginSendAll now => if pool.passing = none then pool.beginSendAll now else pool
  | .visit => pool.visit
  | .onWriteOperation connection error => pool.onWriteOperation connection error
  | .closeConnectionTask connection => pool.closeConnectionTask connection
  | .internalReleaseMessage m => pool.internalReleaseMessage m

end OutputMessagePool

end OTServ.Network
