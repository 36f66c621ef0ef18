import OTServ.Network.OutputStream
import OTServ.Library.GuardedRuns
import Mathlib.Data.List.Nodup
import Mathlib.Order.Nat

/-!
# Runs of the stream of output messages

Order rests on the one buffer that a protocol has: every message in the lists of the
pool is the buffer of its protocol, and a message which has been handed over is not.
So what a connection has been given is a prefix of what its protocol has appended,
and what is still to come is in the buffer.
-/

namespace OTServ.Network

open List Function Option

variable {message : OutputMessage} {fields : List (List UInt8)} {m other connection : Nat}
  {write : Write} {next pool : OutputMessagePool} {rest : List Nat} {now : UInt64}

namespace OutputMessagePool

open Library.ByteStreams
open Library.GuardedRuns

def frame (commands : List (List UInt8)) : List UInt8 :=
  littleEndian 2 commands.flatten.length ++ commands.flatten

/-- What is promised of the streams of all connections. -/
structure InOrder (pool : OutputMessagePool) : Prop where
  /-- what has been handed over are buffers with a prefix of the commands -/
  stream :
    ∀ connection, ∃ buffers : List (List (List UInt8)),
      pool.handed connection = buffers.map frame ∧ buffers.flatten <+: pool.appended connection
  /-- at most one write has not completed -/
  oneWrite : ∀ connection, (pool.writes connection).length ≤ 1
  /-- its buffer holds what was handed over -/
  unchanged :
    ∀ connection, ∀ write ∈ pool.writes connection,
      (pool.messages write.message).bytes = write.bytes

def buffered (pool : OutputMessagePool) (connection : Nat) : Nat :=
  match pool.m_outputBuffer connection with
  | some m => (pool.messages m).body.length
  | none => 0

/-- No buffer reaches its capacity, and no message waits for longer than 10 seconds. -/
def Sparing (pool : OutputMessagePool) : StreamOperation → Prop
  | .append connection fields =>
    fields.flatten.length + (4 + pool.buffered connection) < NETWORKMESSAGE_MAXSIZE - 16
  | .beginSendAll now => ∀ m ∈ pool.m_toAddQueue, pool.isOld now m = false
  | _ => True

def unsent (pool : OutputMessagePool) (connection : Nat) : List (List UInt8) :=
  match pool.m_outputBuffer connection with
  | some m => (pool.messages m).commands
  | none => []

structure IsBuffer (pool : OutputMessagePool) (connection m : Nat) : Prop where
  own : (pool.messages m).connection = connection
  allocated : (pool.messages m).m_state ≠ .STATE_FREE
  unframed : (pool.messages m).header = []
  body : (pool.messages m).body = (pool.messages m).commands.flatten
  inside : m < pool.next

structure IsWritten (pool : OutputMessagePool) (connection : Nat) (write : Write) : Prop where
  own : (pool.messages write.message).connection = connection
  allocated : (pool.messages write.message).m_state ≠ .STATE_FREE
  sent : pool.m_outputBuffer connection ≠ some write.message
  bytes : (pool.messages write.message).bytes = write.bytes
  inside : write.message < pool.next

structure Kept (pool : OutputMessagePool) : Prop where
  buffers : ∀ connection m, pool.m_outputBuffer connection = some m → pool.IsBuffer connection m
  listed :
    ∀ m, m ∈ pool.m_autoSendOutputMessages ∨ m ∈ pool.m_toAddQueue →
      pool.m_outputBuffer (pool.messages m).connection = some m
  nodup : (pool.m_autoSendOutputMessages ++ pool.m_toAddQueue).Nodup
  passing :
    ∀ rest, pool.passing = some rest → rest.Nodup ∧ ∀ m ∈ rest, m ∈ pool.m_autoSendOutputMessages
  counted : ∀ connection, pool.m_pendingWrite connection = (pool.writes connection).length
  oneWrite : ∀ connection, (pool.writes connection).length ≤ 1
  writes : ∀ connection, ∀ write ∈ pool.writes connection, pool.IsWritten connection write
  free : ∀ m ∈ pool.m_outputMessages, (pool.messages m).m_state = .STATE_FREE ∧ m < pool.next
  freeNodup : pool.m_outputMessages.Nodup
  cleared : ∀ m, (pool.messages m).m_state = .STATE_FREE → (pool.messages m).header = []
  beyond : ∀ m, pool.next ≤ m → (pool.messages m).m_state = .STATE_FREE
  stream :
    ∀ connection, ∃ buffers : List (List (List UInt8)),
      pool.handed connection = buffers.map frame ∧
        buffers.flatten <+: pool.appended connection ∧
        (pool.refused connection = false →
          pool.appended connection = buffers.flatten ++ pool.unsent connection)

/-! ## Adding to a buffer -/

lemma foldl_add
  (fits : fields.flatten.length + (4 + message.body.length) < NETWORKMESSAGE_MAXSIZE - 16) :
  fields.foldl OutputMessage.add message =
    { message with body := message.body ++ fields.flatten } := by
  induction fields generalizing message with
  | nil => simp
  | cons field fields ih =>
    rw [flatten_cons, length_append] at fits
    have canAdd : message.canAdd field.length = true := by
      simp only [OutputMessage.canAdd, decide_eq_true_eq]
      omega
    rw [foldl_cons, OutputMessage.add, if_pos canAdd, ih]
    · simp
    · simp only [length_append]
      omega

lemma addCommand_eq
  (fits : fields.flatten.length + (4 + message.body.length) < NETWORKMESSAGE_MAXSIZE - 16) :
  message.addCommand fields =
    { message with
      body := message.body ++ fields.flatten
      commands := message.commands ++ [fields.flatten] } := by
  rw [OutputMessage.addCommand, foldl_add fits]

section Changes

variable {pool : OutputMessagePool}

@[simp]
lemma setMessage_messages_self (m : Nat) (message : OutputMessage) :
  (pool.setMessage m message).messages m = message :=
  update_self ..

lemma setMessage_messages_other (message : OutputMessage) (ne : other ≠ m) :
  (pool.setMessage m message).messages other = pool.messages other :=
  update_of_ne ne ..

lemma Kept.written_ne_buffer
  (kept : pool.Kept) (buffer : pool.m_outputBuffer connection = some m)
  (mem : write ∈ pool.writes other) : write.message ≠ m := by
  rintro rfl
  have written := kept.writes other write mem
  have own := (kept.buffers connection write.message buffer).own
  rw [written.own] at own
  exact written.sent (own ▸ buffer)

lemma Kept.buffer_unique (kept : pool.Kept) (one : pool.m_outputBuffer connection = some m)
  (two : pool.m_outputBuffer other = some m) : connection = other :=
  (kept.buffers connection m one).own.symm.trans (kept.buffers other m two).own

lemma Kept.buffer_not_free
  (kept : pool.Kept) (buffer : pool.m_outputBuffer connection = some m) :
  (pool.messages m).m_state ≠ .STATE_FREE :=
  (kept.buffers connection m buffer).allocated

lemma IsBuffer.same
  (buffer : pool.IsBuffer connection m) (same : next.messages m = pool.messages m)
  (grown : pool.next ≤ next.next) : next.IsBuffer connection m where
  own := by
    rw [same]
    exact buffer.own
  allocated := by
    rw [same]
    exact buffer.allocated
  unframed := by
    rw [same]
    exact buffer.unframed
  body := by
    rw [same]
    exact buffer.body
  inside := buffer.inside.trans_le grown

lemma IsWritten.same (written : pool.IsWritten connection write)
  (same : next.messages write.message = pool.messages write.message)
  (sent : next.m_outputBuffer connection ≠ some write.message) (grown : pool.next ≤ next.next) :
  next.IsWritten connection write where
  own := by
    rw [same]
    exact written.own
  allocated := by
    rw [same]
    exact written.allocated
  sent := sent
  bytes := by
    rw [same]
    exact written.bytes
  inside := written.inside.trans_le grown

lemma unsent_eq (buffer : pool.m_outputBuffer connection = some m) :
  pool.unsent connection = (pool.messages m).commands := by
  rw [unsent, buffer]

lemma Kept.free_ne (kept : pool.Kept) (allocated : (pool.messages m).m_state ≠ .STATE_FREE)
  (mem : other ∈ pool.m_outputMessages) : other ≠ m := by
  rintro rfl
  exact allocated (kept.free other mem).1

def Rewrites (pool next : OutputMessagePool) (m : Nat) : Prop :=
  ∀ {one}, one ≠ m → next.messages one = pool.messages one

section Rewriting

variable (kept : pool.Kept) (rewrites : Rewrites pool next m)
include kept rewrites

lemma Kept.free_rewrites (allocated : (pool.messages m).m_state ≠ .STATE_FREE) (one : Nat)
  (mem : one ∈ pool.m_outputMessages) :
  (next.messages one).m_state = .STATE_FREE ∧ one < pool.next := by
  rw [rewrites (kept.free_ne allocated mem)]
  exact kept.free one mem

lemma Kept.cleared_rewrites
  (header : (next.messages m).m_state = .STATE_FREE → (next.messages m).header = []) (one : Nat)
  (free : (next.messages one).m_state = .STATE_FREE) : (next.messages one).header = [] := by
  by_cases itself : one = m
  · subst itself
    exact header free
  · rw [rewrites itself] at free ⊢
    exact kept.cleared one free

lemma Kept.beyond_rewrites (inside : m < next.next) (grown : pool.next ≤ next.next) (one : Nat)
  (far : next.next ≤ one) : (next.messages one).m_state = .STATE_FREE := by
  rw [rewrites (inside.trans_le far).ne']
  exact kept.beyond one (grown.trans far)

omit kept in
lemma unsent_rewrites (same : next.m_outputBuffer connection = pool.m_outputBuffer connection)
  (ne : pool.m_outputBuffer connection ≠ some m) :
  next.unsent connection = pool.unsent connection := by
  unfold unsent
  rw [same]
  cases found : pool.m_outputBuffer connection with
  | none => rfl
  | some one =>
    dsimp only
    rw [rewrites fun itself => ne (itself ▸ found)]

end Rewriting

lemma Kept.addCommand (kept : pool.Kept) (buffer : pool.m_outputBuffer connection = some m)
    (fits :
      fields.flatten.length + (4 + (pool.messages m).body.length) < NETWORKMESSAGE_MAXSIZE - 16) :
    Kept
      { pool.setMessage m ((pool.messages m).addCommand fields) with
        appended :=
          update pool.appended connection (pool.appended connection ++ [fields.flatten]) } := by
  have own := kept.buffers connection m buffer
  rw [addCommand_eq fits]
  have other :
      Rewrites pool
        (pool.setMessage m
          { pool.messages m with
            body := (pool.messages m).body ++ fields.flatten
            commands := (pool.messages m).commands ++ [fields.flatten] }) m :=
    fun ne => setMessage_messages_other _ ne
  exact { kept with
    buffers := by
      intro owner buffered found
      by_cases itself : buffered = m
      · subst itself
        have bodies := own.body
        have alike := kept.buffer_unique buffer found
        subst alike
        exact
          { own := by simpa using own.own
            allocated := by simpa using own.allocated
            unframed := by simpa using own.unframed
            body := by simpa using bodies
            inside := own.inside }
      · exact (kept.buffers owner buffered found).same (other itself) le_rfl
    listed := by
      intro one mem
      have found := kept.listed one mem
      by_cases itself : one = m
      · subst itself
        rw [setMessage_messages_self]
        exact found
      · rw [other itself]
        exact found
    writes := by
      intro owner write mem
      have written := kept.writes owner write mem
      exact written.same (other (kept.written_ne_buffer buffer mem)) written.sent le_rfl
    free := kept.free_rewrites other own.allocated
    cleared := kept.cleared_rewrites other fun _ => by simpa using own.unframed
    beyond := kept.beyond_rewrites other own.inside le_rfl
    stream := by
      intro owner
      obtain ⟨buffers, handed, front, complete⟩ := kept.stream owner
      refine ⟨buffers, handed, ?_, ?_⟩
      · by_cases itself : owner = connection
        · subst itself
          show _ <+: update pool.appended owner _ owner
          rw [update_self]
          exact front.trans (prefix_append _ _)
        · show _ <+: update pool.appended connection _ owner
          rw [update_of_ne itself]
          exact front
      · intro goesOn
        have before := complete goesOn
        by_cases itself : owner = connection
        · subst itself
          show update pool.appended owner _ owner = _
          rw [update_self, before, unsent_eq buffer, append_assoc]
          refine congrArg (buffers.flatten ++ ·) ?_
          rw [unsent_eq (m := m) (by exact buffer)]
          simp
        · show update pool.appended connection _ owner = _
          rw [update_of_ne itself, before]
          exact
            congrArg (buffers.flatten ++ ·)
              (unsent_rewrites other rfl fun found =>
                itself (kept.buffer_unique found buffer)).symm }

/-! ## A fresh buffer -/

/-- A free message is taken from the pool, or a new one is made. -/
structure Taken (pool : OutputMessagePool) (m : Nat) (rest : List Nat) (next : Nat) : Prop where
  free : (pool.messages m).m_state = .STATE_FREE
  inside : m < next
  grown : pool.next ≤ next
  others : ∀ one ∈ rest, one ∈ pool.m_outputMessages ∧ one ≠ m
  nodup : rest.Nodup

section

variable (kept : pool.Kept)
include kept

lemma Kept.taken_last (last : pool.m_outputMessages.getLast? = some m) :
  pool.Taken m pool.m_outputMessages.dropLast pool.next := by
  have whole : pool.m_outputMessages.dropLast ++ [m] = pool.m_outputMessages :=
    dropLast_append_getLast? m last
  have mem : m ∈ pool.m_outputMessages := by
    rw [← whole]
    simp
  have apart := kept.freeNodup
  rw [← whole, nodup_append] at apart
  refine ⟨(kept.free m mem).1, (kept.free m mem).2, le_rfl, ?_, apart.1⟩
  intro one found
  refine ⟨(dropLast_sublist _).subset found, ?_⟩
  exact apart.2.2 one found m (by simp)

lemma Kept.taken_new : pool.Taken pool.next [] (pool.next + 1) where
  free := kept.beyond pool.next le_rfl
  inside := Nat.lt_succ_self _
  grown := Nat.le_succ _
  others := by simp
  nodup := nodup_nil

lemma Kept.configureOutputMessage
  {next : Nat} (taken : pool.Taken m rest next) (none : pool.m_outputBuffer connection = none) :
  Kept
    { pool.setMessage m
        { pool.messages m with
          m_state := .STATE_ALLOCATED
          connection := connection
          m_frame := pool.m_frameTime
          body := []
          commands := [] } with
      m_outputMessages := rest
      next := next
      m_autoSendOutputMessages := pool.m_autoSendOutputMessages ++ [m]
      passing := pool.passing.map fun rest => rest ++ [m]
      m_outputBuffer := update pool.m_outputBuffer connection (some m) } := by
  have unlisted : m ∉ pool.m_autoSendOutputMessages ++ pool.m_toAddQueue := by
    intro mem
    exact kept.buffer_not_free (kept.listed m (mem_append.mp mem)) taken.free
  have unlistedAuto : m ∉ pool.m_autoSendOutputMessages := by
    intro mem
    exact unlisted (mem_append_left _ mem)
  have same :
      Rewrites pool
        (pool.setMessage m
          { pool.messages m with
            m_state := .STATE_ALLOCATED
            connection := connection
            m_frame := pool.m_frameTime
            body := []
            commands := [] }) m :=
    fun ne => setMessage_messages_other _ ne
  exact { kept with
    buffers := by
      intro owner buffered found
      change update pool.m_outputBuffer connection (some m) owner = _ at found
      by_cases itself : owner = connection
      · subst itself
        rw [update_self, some.injEq] at found
        subst found
        exact
          { own := by simp
            allocated := by simp
            unframed := by simpa using kept.cleared m taken.free
            body := by simp
            inside := taken.inside }
      · rw [update_of_ne itself] at found
        have ne : buffered ≠ m := by
          rintro rfl
          exact kept.buffer_not_free found taken.free
        exact (kept.buffers owner buffered found).same (same ne) taken.grown
    listed := by
      intro one mem
      show update pool.m_outputBuffer connection (some m)
        ((pool.setMessage m _).messages one).connection = some one
      by_cases itself : one = m
      · subst itself
        simp
      · have before := kept.listed one (by
          rcases mem with mem | mem
          · rw [mem_append, mem_singleton] at mem
            exact .inl (mem.resolve_right itself)
          · exact .inr mem)
        rw [same itself, update_of_ne]
        · exact before
        · intro alike
          rw [alike, none] at before
          cases before
    nodup := by
      rw [append_assoc, singleton_append, nodup_middle]
      exact nodup_cons.mpr ⟨unlisted, kept.nodup⟩
    passing := by
      intro left passed
      obtain ⟨before, found, rfl⟩ := map_eq_some_iff.mp passed
      obtain ⟨apart, members⟩ := kept.passing before found
      constructor
      · rw [nodup_append]
        refine ⟨apart, nodup_singleton m, ?_⟩
        intro one mem other found alike
        rw [alike, mem_singleton.mp found] at mem
        exact unlistedAuto (members m mem)
      · intro one mem
        rcases mem_append.mp mem with mem | mem
        · exact mem_append_left _ (members one mem)
        · exact mem_append_right _ mem
    writes := by
      intro owner write mem
      have written := kept.writes owner write mem
      have ne : write.message ≠ m := by
        rintro rfl
        exact written.allocated taken.free
      refine written.same (same ne) ?_ taken.grown
      show update pool.m_outputBuffer connection (some m) owner ≠ _
      by_cases itself : owner = connection
      · subst itself
        rw [update_self]
        intro alike
        exact ne (some.inj alike).symm
      · rw [update_of_ne itself]
        exact written.sent
    free := by
      intro one mem
      obtain ⟨mem, ne⟩ := taken.others one mem
      rw [same ne]
      exact ⟨(kept.free one mem).1, (kept.free one mem).2.trans_le taken.grown⟩
    freeNodup := taken.nodup
    cleared := kept.cleared_rewrites same fun free => by simp at free
    beyond := kept.beyond_rewrites same taken.inside taken.grown
    stream := by
      intro owner
      obtain ⟨buffers, handed, front, complete⟩ := kept.stream owner
      refine ⟨buffers, handed, front, ?_⟩
      intro goesOn
      have before := complete goesOn
      show pool.appended owner = _
      rw [before]
      refine congrArg (buffers.flatten ++ ·) ?_
      by_cases itself : owner = connection
      · subst itself
        unfold unsent
        simp [none]
      · symm
        refine unsent_rewrites same (update_of_ne itself ..) ?_
        exact fun found => kept.buffer_not_free found taken.free }

lemma Kept.getOutputBuffer (connection : Nat) :
  (pool.getOutputBuffer connection).1.Kept ∧
    (pool.getOutputBuffer connection).1.m_outputBuffer connection =
      (pool.getOutputBuffer connection).2 := by
  unfold OutputMessagePool.getOutputBuffer
  cases none : pool.m_outputBuffer connection with
  | some m => exact ⟨kept, none⟩
  | none =>
    dsimp only
    split_ifs with closing
    · exact ⟨kept, none⟩
    · unfold getOutputMessage
      cases last : pool.m_outputMessages.getLast? with
      | some m =>
        exact ⟨kept.configureOutputMessage (kept.taken_last last) none, update_self ..⟩
      | none =>
        exact ⟨kept.configureOutputMessage kept.taken_new none, update_self ..⟩

end

lemma getOutputBuffer_buffered (pool : OutputMessagePool) (connection : Nat) :
  (pool.getOutputBuffer connection).1.buffered connection = pool.buffered connection := by
  unfold OutputMessagePool.getOutputBuffer
  cases none : pool.m_outputBuffer connection with
  | some m => rfl
  | none =>
    split_ifs with closing
    · rfl
    · unfold buffered
      rw [none]
      simp [getOutputMessage]

lemma Kept.append (kept : pool.Kept)
  (fits : fields.flatten.length + (4 + pool.buffered connection) < NETWORKMESSAGE_MAXSIZE - 16) :
  (pool.append connection fields).Kept := by
  obtain ⟨after, buffer⟩ := kept.getOutputBuffer connection
  rw [← getOutputBuffer_buffered pool connection] at fits
  unfold OutputMessagePool.append
  generalize pool.getOutputBuffer connection = answer at after buffer fits ⊢
  rcases answer with ⟨taken, _ | m⟩
  · exact after
  · refine after.addCommand buffer ?_
    unfold buffered at fits
    rwa [buffer] at fits

/-! ## Sending -/

/--
A buffer leaves the lists: its length is written and its protocol lets go of it.  It
may be handed to the connection then.
-/
lemma Kept.letGo (kept : pool.Kept) (passing : pool.passing = some (m :: rest))
  (own : (pool.messages m).connection = connection) {pending : Nat → Nat}
  {writes : Nat → List Write} {handed : Nat → List (List UInt8)}
  (counted : ∀ owner, pending owner = (writes owner).length)
  (oneWrite : ∀ owner, (writes owner).length ≤ 1)
  (known :
    ∀ owner, ∀ write ∈ writes owner,
      write ∈ pool.writes owner ∨
        owner = connection ∧ write = ⟨m, (pool.messages m).writeMessageLength.bytes⟩)
  (stream :
    ∀ owner, ∃ buffers : List (List (List UInt8)),
      handed owner = buffers.map frame ∧
        buffers.flatten <+: pool.appended owner ∧
        (pool.refused owner = false →
          pool.appended owner =
            buffers.flatten ++ if owner = connection then [] else pool.unsent owner)) :
  Kept
    { pool with
      messages := update pool.messages m (pool.messages m).writeMessageLength
      m_outputBuffer := update pool.m_outputBuffer connection none
      m_autoSendOutputMessages := pool.m_autoSendOutputMessages.erase m
      passing := some rest
      m_pendingWrite := pending
      writes := writes
      handed := handed } := by
  obtain ⟨apart, members⟩ := kept.passing _ passing
  have member := members m (by simp)
  have buffer := kept.listed m (.inl member)
  rw [own] at buffer
  have buffered := kept.buffers connection m buffer
  have sublist :
      (pool.m_autoSendOutputMessages.erase m ++ pool.m_toAddQueue).Sublist
        (pool.m_autoSendOutputMessages ++ pool.m_toAddQueue) :=
    erase_sublist.append_right _
  have gone : m ∉ pool.m_autoSendOutputMessages.erase m ++ pool.m_toAddQueue := by
    have nodup := kept.nodup
    rw [nodup_append] at nodup
    rw [mem_append]
    rintro (again | again)
    · exact nodup.1.not_mem_erase again
    · exact nodup.2.2 m member m again rfl
  have same :
      Rewrites pool
        { pool with messages := update pool.messages m (pool.messages m).writeMessageLength } m :=
    fun ne => update_of_ne ne ..
  exact { kept with
    buffers := by
      intro owner one found
      change update pool.m_outputBuffer connection none owner = _ at found
      have itself : owner ≠ connection := by
        rintro rfl
        rw [update_self] at found
        cases found
      rw [update_of_ne itself] at found
      have ne : one ≠ m := by
        rintro rfl
        exact itself (kept.buffer_unique found buffer)
      exact (kept.buffers owner one found).same (same ne) le_rfl
    listed := by
      intro one found
      have ne : one ≠ m := by
        rintro rfl
        exact gone (mem_append.mpr found)
      have before := kept.listed one (mem_append.mp (sublist.subset (mem_append.mpr found)))
      show update _ _ _ (update pool.messages m _ one).connection = _
      rw [show update pool.messages m _ one = _ from same ne, update_of_ne]
      · exact before
      · intro alike
        rw [alike, buffer] at before
        exact ne (some.inj before).symm
    nodup := kept.nodup.sublist sublist
    passing := by
      rintro _ ⟨⟩
      rw [nodup_cons] at apart
      refine ⟨apart.2, fun one found => ?_⟩
      have ne : one ≠ m := by
        rintro rfl
        exact apart.1 found
      exact (mem_erase_of_ne ne).mpr (members one (mem_cons_of_mem m found))
    counted := counted
    oneWrite := oneWrite
    writes := by
      intro owner write found
      rcases known owner write found with before | ⟨rfl, rfl⟩
      · refine
          (kept.writes owner write before).same
            (same (kept.written_ne_buffer buffer before)) ?_ le_rfl
        show update pool.m_outputBuffer connection none owner ≠ _
        by_cases itself : owner = connection
        · subst itself
          simp
        · rw [update_of_ne itself]
          exact (kept.writes owner write before).sent
      · exact
          { own := by simpa [OutputMessage.writeMessageLength] using own
            allocated := by
              simpa [OutputMessage.writeMessageLength] using buffered.allocated
            sent := by simp
            bytes := by simp
            inside := buffered.inside }
    free := kept.free_rewrites same buffered.allocated
    cleared := kept.cleared_rewrites same fun free => by
      simp only [update_self] at free
      exact absurd free buffered.allocated
    beyond := kept.beyond_rewrites same buffered.inside le_rfl
    stream := by
      intro owner
      obtain ⟨buffers, whole, front, complete⟩ := stream owner
      refine ⟨buffers, whole, front, ?_⟩
      intro goesOn
      refine (complete goesOn).trans (congrArg (buffers.flatten ++ ·) ?_)
      split_ifs with itself
      · subst itself
        unfold unsent
        simp
      · symm
        refine unsent_rewrites same (update_of_ne itself ..) ?_
        exact fun found => itself (kept.buffer_unique found buffer) }

lemma onSendMessage_buffer (own : (pool.messages m).connection = connection)
  (buffer : pool.m_outputBuffer connection = some m) :
  pool.onSendMessage m =
    { pool with
      messages := update pool.messages m (pool.messages m).writeMessageLength
      m_outputBuffer := update pool.m_outputBuffer connection none } := by
  subst own
  unfold onSendMessage
  simp only [if_pos buffer]
  rfl

lemma IsBuffer.framed (buffer : pool.IsBuffer connection m) :
  (pool.messages m).writeMessageLength.bytes = frame (pool.messages m).commands := by
  simp [OutputMessage.writeMessageLength, OutputMessage.bytes,
    OutputMessage.getMessageLength, frame, buffer.unframed, buffer.body]

section

variable (kept : pool.Kept)
include kept

lemma Kept.visit_refused (passing : pool.passing = some (m :: rest))
  (own : (pool.messages m).connection = connection) (refused : pool.refused connection = true) :
  Kept
    { pool.onSendMessage m with
      m_autoSendOutputMessages := pool.m_autoSendOutputMessages.erase m
      passing := some rest } := by
  have buffer := kept.listed m (.inl ((kept.passing _ passing).2 m (by simp)))
  rw [own] at buffer
  rw [onSendMessage_buffer own buffer]
  refine kept.letGo passing own kept.counted kept.oneWrite (fun _ _ found => .inl found) ?_
  intro owner
  obtain ⟨buffers, handed, front, complete⟩ := kept.stream owner
  refine ⟨buffers, handed, front, fun goesOn => ?_⟩
  rw [if_neg]
  · exact complete goesOn
  · rintro rfl
    rw [refused] at goesOn
    cases goesOn

lemma Kept.visit_sent
  (passing : pool.passing = some (m :: rest)) (own : (pool.messages m).connection = connection)
  (goesOn : pool.refused connection = false) (idle : pool.m_pendingWrite connection = 0) :
  Kept
    { (pool.onSendMessage m).internalSend m with
      m_autoSendOutputMessages := pool.m_autoSendOutputMessages.erase m
      passing := some rest } := by
  have buffer := kept.listed m (.inl ((kept.passing _ passing).2 m (by simp)))
  rw [own] at buffer
  have buffered := kept.buffers connection m buffer
  have silent : pool.writes connection = [] := by
    rw [kept.counted, length_eq_zero_iff] at idle
    exact idle
  have sent :
      (pool.onSendMessage m).internalSend m =
        { pool with
          messages := update pool.messages m (pool.messages m).writeMessageLength
          m_outputBuffer := update pool.m_outputBuffer connection none
          m_pendingWrite := update pool.m_pendingWrite connection 1
          writes := update pool.writes connection [⟨m, (pool.messages m).writeMessageLength.bytes⟩]
          handed :=
            update pool.handed connection
              (pool.handed connection ++ [(pool.messages m).writeMessageLength.bytes]) } := by
    rw [onSendMessage_buffer own buffer]
    unfold internalSend
    simp only [update_self, OutputMessage.writeMessageLength, own, idle, silent]
    rfl
  rw [sent]
  refine kept.letGo passing own ?_ ?_ ?_ ?_
  · intro owner
    dsimp only
    by_cases itself : owner = connection
    · subst itself
      simp
    · rw [update_of_ne itself, update_of_ne itself]
      exact kept.counted owner
  · intro owner
    dsimp only
    by_cases itself : owner = connection
    · subst itself
      simp
    · rw [update_of_ne itself]
      exact kept.oneWrite owner
  · intro owner write found
    dsimp only at found
    by_cases itself : owner = connection
    · subst itself
      rw [update_self, mem_singleton] at found
      exact .inr ⟨rfl, found⟩
    · rw [update_of_ne itself] at found
      exact .inl found
  · intro owner
    dsimp only
    obtain ⟨buffers, handed, front, complete⟩ := kept.stream owner
    by_cases itself : owner = connection
    · subst itself
      have whole := complete goesOn
      rw [unsent_eq buffer] at whole
      refine ⟨buffers ++ [(pool.messages m).commands], ?_, ?_, fun _ => ?_⟩
      · rw [update_self, handed, buffered.framed, map_append]
        rfl
      · rw [whole]
        simp
      · rw [whole]
        simp
    · rw [update_of_ne itself, if_neg itself]
      exact ⟨buffers, handed, front, complete⟩

lemma Kept.visit_waits (passing : pool.passing = some (m :: rest)) :
  Kept
    { pool with
      m_toAddQueue := pool.m_toAddQueue ++ [m]
      m_autoSendOutputMessages := pool.m_autoSendOutputMessages.erase m
      passing := some rest } := by
  obtain ⟨apart, members⟩ := kept.passing _ passing
  have member := members m (by simp)
  have moved :
      (pool.m_autoSendOutputMessages.erase m ++ (pool.m_toAddQueue ++ [m])).Perm
        (pool.m_autoSendOutputMessages ++ pool.m_toAddQueue) := by
    have front := perm_cons_erase member
    calc
      _ = (pool.m_autoSendOutputMessages.erase m ++ pool.m_toAddQueue) ++ [m] := by
        rw [append_assoc]
      List.Perm _ ([m] ++ (pool.m_autoSendOutputMessages.erase m ++ pool.m_toAddQueue)) :=
        perm_append_comm
      List.Perm _ _ := (front.append_right _).symm
  exact { kept with
    buffers := fun owner one found => { kept.buffers owner one found with }
    listed := by
      intro one found
      have before := moved.subset (mem_append.mpr found)
      exact kept.listed one (mem_append.mp before)
    nodup := moved.nodup_iff.mpr kept.nodup
    passing := by
      rintro _ ⟨⟩
      rw [nodup_cons] at apart
      refine ⟨apart.2, fun one found => ?_⟩
      have ne : one ≠ m := by
        rintro rfl
        exact apart.1 found
      exact (mem_erase_of_ne ne).mpr (members one (mem_cons_of_mem m found))
    writes := fun owner write found => { kept.writes owner write found with } }

lemma Kept.pass {left : Option (List Nat)}
  (passing :
    ∀ rest, left = some rest → rest.Nodup ∧ ∀ m ∈ rest, m ∈ pool.m_autoSendOutputMessages) :
  Kept { pool with passing := left } :=
  { kept with
    buffers := fun owner one found => { kept.buffers owner one found with }
    writes := fun owner write found => { kept.writes owner write found with }
    passing := passing }

lemma Kept.visit : pool.visit.Kept := by
  unfold OutputMessagePool.visit
  cases passing : pool.passing with
  | none => exact kept
  | some left =>
    cases left with
    | nil =>
      refine kept.pass ?_
      simp
    | cons m rest =>
      dsimp only
      split_ifs with ready
      · unfold send
        dsimp only
        split_ifs with refused idle
        · exact kept.visit_refused passing rfl refused
        · exact kept.visit_sent passing rfl (Bool.not_eq_true _ ▸ refused) idle
        · exact kept.visit_waits passing
      · refine kept.pass ?_
        rintro _ ⟨⟩
        obtain ⟨apart, members⟩ := kept.passing _ passing
        rw [nodup_cons] at apart
        exact ⟨apart.2, fun one found => members one (mem_cons_of_mem m found)⟩

end

lemma foldl_takeWaiting {queue : List Nat} (young : ∀ m ∈ queue, pool.isOld now m = false) :
  queue.foldl (takeWaiting now) pool =
    { pool with
      m_autoSendOutputMessages := pool.m_autoSendOutputMessages ++ queue } := by
  induction queue generalizing pool with
  | nil => simp
  | cons m queue ih =>
    have first : pool.isOld now m = false := young m (by simp)
    rw [foldl_cons, takeWaiting, first, if_neg (by simp), ih]
    · simp
    · intro one mem
      exact young one (mem_cons_of_mem m mem)

variable (kept : pool.Kept)
include kept

lemma Kept.beginSendAll (young : ∀ m ∈ pool.m_toAddQueue, pool.isOld now m = false) :
  (pool.beginSendAll now).Kept := by
  unfold OutputMessagePool.beginSendAll
  rw [foldl_takeWaiting young]
  exact { kept with
    buffers := fun owner one found => { kept.buffers owner one found with }
    writes := fun owner write found => { kept.writes owner write found with }
    listed := by
      intro m found
      refine kept.listed m (mem_append.mp ?_)
      exact found.resolve_right (by simp)
    nodup := by
      rw [append_nil]
      exact kept.nodup
    passing := by
      rintro _ ⟨⟩
      exact ⟨kept.nodup, fun _ mem => mem⟩ }

/-! ## Completions and releases -/

lemma Kept.onWriteOperation (connection : Nat) (error : Bool) :
  (pool.onWriteOperation connection error).Kept := by
  unfold OutputMessagePool.onWriteOperation
  cases outstanding : pool.writes connection with
  | nil => exact kept
  | cons write rest =>
    have length : rest.length + 1 = pool.m_pendingWrite connection := by
      rw [kept.counted, outstanding]
      rfl
    have remains :
        ∀ {owner one},
          one ∈ update pool.writes connection rest owner → one ∈ pool.writes owner := by
      intro owner one found
      by_cases itself : owner = connection
      · subst itself
        rw [update_self] at found
        rw [outstanding]
        exact mem_cons_of_mem write found
      · rwa [update_of_ne itself] at found
    exact { kept with
      buffers := fun owner one found => { kept.buffers owner one found with }
      counted := by
        intro owner
        show update pool.m_pendingWrite connection _ owner =
          (update pool.writes connection rest owner).length
        by_cases itself : owner = connection
        · subst itself
          rw [update_self, update_self, ← length]
          rfl
        · rw [update_of_ne itself, update_of_ne itself]
          exact kept.counted owner
      oneWrite := by
        intro owner
        show (update pool.writes connection rest owner).length ≤ 1
        by_cases itself : owner = connection
        · subst itself
          have one := kept.oneWrite owner
          rw [outstanding, length_cons] at one
          rw [update_self]
          exact Nat.le_of_succ_le one
        · rw [update_of_ne itself]
          exact kept.oneWrite owner
      writes := by
        intro owner one found
        exact { kept.writes owner one (remains found) with }
      stream := by
        intro owner
        obtain ⟨buffers, handed, front, complete⟩ := kept.stream owner
        refine ⟨buffers, handed, front, fun goesOn => complete ?_⟩
        unfold refused at goesOn ⊢
        rw [Bool.or_eq_false_iff] at goesOn ⊢
        refine ⟨goesOn.1, ?_⟩
        have fine := goesOn.2
        dsimp only at fine
        split_ifs at fine with failed
        · by_cases itself : owner = connection
          · subst itself
            rw [update_self] at fine
            cases fine
          · rwa [update_of_ne itself] at fine
        · exact fine }

lemma Kept.closeConnectionTask (connection : Nat) : (pool.closeConnectionTask connection).Kept :=
  { kept with
    buffers := fun owner one found => { kept.buffers owner one found with }
    writes := fun owner write found => { kept.writes owner write found with }
    stream := by
      intro owner
      obtain ⟨buffers, handed, front, complete⟩ := kept.stream owner
      refine ⟨buffers, handed, front, fun goesOn => complete ?_⟩
      unfold refused at goesOn ⊢
      rw [Bool.or_eq_false_iff] at goesOn ⊢
      refine ⟨?_, goesOn.2⟩
      have isOpen := goesOn.1
      change update pool.closing connection true owner = false at isOpen
      by_cases itself : owner = connection
      · subst itself
        rw [update_self] at isOpen
        cases isOpen
      · rwa [update_of_ne itself] at isOpen }

lemma Kept.internalReleaseMessage (m : Nat) : (pool.internalReleaseMessage m).Kept := by
  unfold OutputMessagePool.internalReleaseMessage
  split_ifs with held
  · exact kept
  · rw [not_or] at held
    obtain ⟨allocated, unpointed⟩ := held
    unfold IsPointedTo at unpointed
    rw [not_or, not_or, not_or] at unpointed
    obtain ⟨notAuto, notWaiting, notBuffer, notWritten⟩ := unpointed
    have buffer : ∀ {connection one}, pool.m_outputBuffer connection = some one → one ≠ m := by
      rintro connection _ found rfl
      rw [(kept.buffers connection _ found).own] at notBuffer
      exact notBuffer found
    have same : Rewrites pool (pool.setMessage m (pool.messages m).freeMessage) m :=
      fun ne => setMessage_messages_other _ ne
    have inside : m < pool.next := by
      by_contra far
      exact allocated (kept.beyond m (Nat.not_lt.mp far))
    exact { kept with
      buffers := by
        intro owner one found
        exact (kept.buffers owner one found).same (same (buffer found)) le_rfl
      listed := by
        intro one found
        have before := kept.listed one found
        rw [same (buffer before)]
        exact before
      writes := by
        intro owner write found
        have written := kept.writes owner write found
        refine written.same (same ?_) written.sent le_rfl
        rintro rfl
        rw [written.own] at notWritten
        exact notWritten (mem_map_of_mem found)
      free := by
        intro one found
        by_cases itself : one = m
        · subst itself
          rw [setMessage_messages_self]
          exact ⟨rfl, inside⟩
        · rw [same itself]
          refine kept.free one ?_
          exact (mem_append.mp found).resolve_right (by simpa using itself)
      freeNodup := by
        rw [nodup_append]
        refine ⟨kept.freeNodup, nodup_singleton m, ?_⟩
        intro one mem other found alike
        rw [alike, mem_singleton.mp found] at mem
        exact allocated (kept.free m mem).1
      cleared := kept.cleared_rewrites same fun _ => by
        rw [setMessage_messages_self]
        rfl
      beyond := kept.beyond_rewrites same inside le_rfl
      stream := by
        intro owner
        obtain ⟨buffers, handed, front, complete⟩ := kept.stream owner
        refine ⟨buffers, handed, front, fun goesOn => (complete goesOn).trans ?_⟩
        exact
          congrArg (buffers.flatten ++ ·)
            (unsent_rewrites same rfl fun found => buffer found rfl).symm }

end Changes

lemma initial_kept (poolSize : Nat) : (initial poolSize).Kept where
  buffers := by
    intro _ _ found
    cases found
  listed := by
    rintro _ (found | found) <;> cases found
  nodup := nodup_nil
  passing := by
    intro _ found
    cases found
  counted _ := rfl
  oneWrite _ := Nat.zero_le _
  writes := by
    intro _ _ found
    cases found
  free _ member := ⟨rfl, mem_range.mp member⟩
  freeNodup := nodup_range
  cleared _ _ := rfl
  beyond _ _ := rfl
  stream _ := ⟨[], rfl, nil_prefix, fun _ => rfl⟩

lemma Kept.step {operation : StreamOperation} (kept : pool.Kept)
  (sparing : pool.Sparing operation) : (pool.step operation).Kept := by
  cases operation with
  | append connection fields => exact kept.append sparing
  | startExecutionFrame now =>
    exact { kept with
      buffers := fun owner one found => { kept.buffers owner one found with }
      writes := fun owner write found => { kept.writes owner write found with } }
  | beginSendAll now =>
    show Kept (if _ then _ else _)
    split_ifs
    · exact kept.beginSendAll sparing
    · exact kept
  | visit => exact kept.visit
  | onWriteOperation connection error => exact kept.onWriteOperation connection error
  | closeConnectionTask connection => exact kept.closeConnectionTask connection
  | internalReleaseMessage m => exact kept.internalReleaseMessage m

lemma Kept.inOrder (kept : pool.Kept) : pool.InOrder where
  stream := by
    intro connection
    obtain ⟨buffers, handed, front, -⟩ := kept.stream connection
    exact ⟨buffers, handed, front⟩
  oneWrite := kept.oneWrite
  unchanged connection write member := (kept.writes connection write member).bytes

/-- While nothing overflows or waits for too long, every stream is in order. -/
theorem inOrder_of_sparing {poolSize : Nat} {pool : OutputMessagePool}
  (run :
    Reaches (fun pool operation next => next = pool.step operation) Sparing
      (initial poolSize) pool) : pool.InOrder := by
  refine Kept.inOrder (run.invariant (initial_kept poolSize) ?_)
  rintro state operation _ kept sparing rfl
  exact kept.step sparing

instance (pool : OutputMessagePool) (operation : StreamOperation) :
  Decidable (pool.Sparing operation) :=
  match operation with
  | .append _ _ => inferInstanceAs (Decidable (_ < _))
  | .beginSendAll _ => inferInstanceAs (Decidable (∀ m ∈ _, _ = _))
  | .startExecutionFrame _ => isTrue trivial
  | .visit => isTrue trivial
  | .onWriteOperation _ _ => isTrue trivial
  | .closeConnectionTask _ => isTrue trivial
  | .internalReleaseMessage _ => isTrue trivial

/-- A buffer waits while another one is being written, and is appended to. -/
def waitingBuffer : List StreamOperation :=
  [.startExecutionFrame 0, .append 1 [[7], [1, 2]], .append 2 [[8]],
    .startExecutionFrame 20, .beginSendAll 20, .visit, .visit, .visit,
    .append 1 [[9]], .startExecutionFrame 40, .beginSendAll 40, .visit, .visit,
    .append 1 [[10]], .onWriteOperation 1 false, .internalReleaseMessage 1,
    .beginSendAll 50, .visit, .visit]

theorem waitingBuffer_inOrder :
  (waitingBuffer.foldl step (initial 2)).InOrder ∧
    (waitingBuffer.foldl step (initial 2)).handed 1 = [[3, 0, 7, 1, 2], [2, 0, 9, 10]] :=
  ⟨inOrder_of_sparing (Reaches.refl.of_allowed waitingBuffer (by decide +kernel)),
    by decide +kernel⟩

end OutputMessagePool

end OTServ.Network
