import Mathlib.Data.List.Infix
import Mathlib.Tactic.Lemma

/-!
# Inserting rows

Rows are collected and go to the database many at a time.  The row at which the full
buffer is sent is kept for the next statement, but it is no longer counted: where no
other row follows, the last `execute` finds nothing to do.
-/

namespace OTServ.InsertRows

open List

abbrev Text : Type := List Char

/-- The statements which a database was asked to execute, with its answers. -/
structure Database where
  asked : List (Text × Bool)
  answers : List (Text × Bool) → Text → Bool

def Database.executeQuery (db : Database) (query : Text) : Bool × Database :=
  let done := db.answers db.asked query
  (done, { db with asked := db.asked ++ [(query, done)] })

def Database.executed (db : Database) : List Text :=
  (db.asked.filter fun ask => ask.2).map fun ask => ask.1

structure DBInsert where
  db : Database
  multiLine : Bool
  rows : Nat
  query : Text
  buf : Text

def parenthesized (row : Text) : Text :=
  '(' :: row ++ [')']

namespace DBInsert

def setQuery (stmt : DBInsert) (query : Text) : DBInsert :=
  { stmt with query := query, buf := [], rows := 0 }

def execute (stmt : DBInsert) : Bool × DBInsert :=
  if stmt.multiLine ∧ 0 < stmt.buf.length then
    if stmt.rows = 0 then (true, stmt)
    else
      let (res, db) := stmt.db.executeQuery (stmt.query ++ stmt.buf)
      (res, { stmt with db := db, rows := 0, buf := [] })
  else (true, stmt)

def addRow (stmt : DBInsert) (row : Text) : Bool × DBInsert :=
  if stmt.multiLine then
    let stmt := { stmt with rows := stmt.rows + 1 }
    let size := stmt.buf.length
    if size = 0 then (true, { stmt with buf := parenthesized row })
    else if 8192 < size then
      match stmt.execute with
      | (false, stmt) => (false, stmt)
      | (true, stmt) => (true, { stmt with buf := parenthesized row })
    else (true, { stmt with buf := stmt.buf ++ ',' :: parenthesized row })
  else
    let (res, db) := stmt.db.executeQuery (stmt.query ++ parenthesized row)
    (res, { stmt with db := db })

/-- Row after row, until one is refused. -/
def addRows (stmt : DBInsert) : List Text → Bool × DBInsert
  | [] => (true, stmt)
  | row :: rows =>
    match stmt.addRow row with
    | (false, stmt) => (false, stmt)
    | (true, stmt) => stmt.addRows rows

/-- What every user of the class does. -/
def insertAll (stmt : DBInsert) (query : Text) (rows : List Text) : Bool × DBInsert :=
  match (stmt.setQuery query).addRows rows with
  | (false, stmt) => (false, stmt)
  | (true, stmt) => stmt.execute

end DBInsert

/-- The rows of one statement. -/
def joined (rows : List Text) : Text :=
  (rows.flatMap fun row => ',' :: parenthesized row).tail

/-- The rows in the buffer after one more. -/
def waitingAfter (waiting : List Text) (row : Text) : List Text :=
  if 8192 < (joined waiting).length then [row] else waiting ++ [row]

/-- The last row comes to a buffer which is full. -/
def lastFlushes (rows : List Text) : Bool :=
  8192 < (joined (rows.dropLast.foldl waitingAfter [])).length

lemma joined_snoc {waiting : List Text} (row : Text) (some : waiting ≠ []) :
  joined (waiting ++ [row]) = joined waiting ++ ',' :: parenthesized row := by
  rcases exists_cons_of_ne_nil some with ⟨first, rest, rfl⟩
  simp [joined]

lemma joined_single (row : Text) : joined [row] = parenthesized row := by
  simp [joined]

lemma length_joined {waiting : List Text} : (joined waiting).length = 0 ↔ waiting = [] := by
  cases waiting with
  | nil => exact iff_of_true rfl rfl
  | cons row rows => simp [joined, parenthesized]

lemma executed_executeQuery (db : Database) (query : Text) :
  (db.executeQuery query).2.executed =
    db.executed ++ if (db.executeQuery query).1 then [query] else [] := by
  cases done : db.answers db.asked query <;>
    simp [Database.executeQuery, Database.executed, done]

/-- The statements that have been executed since `before`. -/
structure Sent (query : Text) (before : List Text) (db : Database)
  (packets : List (List Text)) : Prop where
  executed : db.executed = before ++ packets.map fun rows => query ++ joined rows
  filled : [] ∉ packets

/-- The buffer holds the rows that were added and not sent. -/
structure Kept (query : Text) (before : List Text) (stmt : DBInsert)
  (packets : List (List Text)) (waiting : List Text) : Prop where
  sent : Sent query before stmt.db packets
  multiLine : stmt.multiLine = true
  query_eq : stmt.query = query
  buf : stmt.buf = joined waiting
  rows : stmt.rows + (if packets = [] then 0 else 1) = waiting.length
  waits : (packets.flatten ++ waiting).foldl waitingAfter [] = waiting
  flushes : lastFlushes (packets.flatten ++ waiting) = true ↔
    packets ≠ [] ∧ waiting.length = 1

variable {query : Text} {before : List Text} {stmt next : DBInsert}
variable {packets : List (List Text)} {waiting : List Text}

lemma Sent.executeQuery {db : Database} (sent : Sent query before db packets)
  (some : waiting ≠ []) :
  Sent query before (db.executeQuery (query ++ joined waiting)).2
    (packets ++ if (db.executeQuery (query ++ joined waiting)).1 then [waiting] else []) := by
  constructor
  · rw [executed_executeQuery, sent.executed]
    split <;> simp
  · have filled := sent.filled
    split <;> simp [filled, some.symm]

lemma Kept.waits_snoc (kept : Kept query before stmt packets waiting) (row : Text) :
  (packets.flatten ++ (waiting ++ [row])).foldl waitingAfter [] = waitingAfter waiting row := by
  rw [← append_assoc, foldl_append, kept.waits]
  rfl

lemma Kept.flushes_snoc (kept : Kept query before stmt packets waiting) (row : Text) :
  lastFlushes (packets.flatten ++ (waiting ++ [row])) = decide (8192 < (joined waiting).length) := by
  rw [← append_assoc, lastFlushes, dropLast_concat, kept.waits]

/-- One row more: it waits, the rows before it are sent, or the database refuses them. -/
lemma Kept.addRow (kept : Kept query before stmt packets waiting) (row : Text) :
  ((stmt.addRow row).1 = true ∧
      ∃ packets' waiting', Kept query before (stmt.addRow row).2 packets' waiting' ∧
        packets'.flatten ++ waiting' = packets.flatten ++ waiting ++ [row]) ∨
    (stmt.addRow row).1 = false ∧ Sent query before (stmt.addRow row).2.db packets := by
  have rows := kept.rows
  have counted : stmt.rows + 1 ≠ 0 := Nat.succ_ne_zero _
  rw [DBInsert.addRow, if_pos kept.multiLine]
  simp only [kept.buf]
  split_ifs with none full
  · rw [length_joined] at none
    subst none
    have first : packets = [] := by
      by_contra some
      rw [if_neg some] at rows
      cases rows
    subst first
    refine .inl ⟨rfl, [], [row],
      ⟨kept.sent, kept.multiLine, kept.query_eq, (joined_single row).symm, ?_, ?_, ?_⟩, rfl⟩
    · simpa using rows
    · exact kept.waits_snoc row
    · simpa [joined] using kept.flushes_snoc row
  · have some : waiting ≠ [] := fun empty => none (length_joined.mpr empty)
    have sent := kept.sent.executeQuery some
    have positive : 0 < (joined waiting).length := by omega
    simp only [DBInsert.execute, kept.multiLine, kept.query_eq, positive, counted, and_self,
      if_true, if_false]
    cases done : (stmt.db.executeQuery (query ++ joined waiting)).1 with
    | false => exact .inr ⟨rfl, by simpa [done] using sent⟩
    | true =>
      rw [done, if_pos rfl] at sent
      have all : (packets ++ [waiting]).flatten ++ [row] = packets.flatten ++ (waiting ++ [row]) := by
        simp
      refine .inl ⟨rfl, packets ++ [waiting], [row],
        ⟨sent, rfl, rfl, (joined_single row).symm, by simp, ?_, ?_⟩, by simp⟩
      · rw [all, kept.waits_snoc, waitingAfter, if_pos full]
      · rw [all, kept.flushes_snoc]
        simp [full]
  · have some : waiting ≠ [] := fun empty => none (length_joined.mpr empty)
    refine .inl ⟨rfl, packets, waiting ++ [row],
      ⟨kept.sent, kept.multiLine, kept.query_eq, (joined_snoc row some).symm, ?_, ?_, ?_⟩,
      (append_assoc ..).symm⟩
    · rw [length_append, length_singleton, ← rows, Nat.add_right_comm]
    · rw [kept.waits_snoc, waitingAfter, if_neg full]
    · rw [kept.flushes_snoc, length_append, length_singleton]
      simp [full, some]

lemma Kept.addRows (kept : Kept query before stmt packets waiting) (rows : List Text) :
  ((stmt.addRows rows).1 = true ∧
      ∃ packets' waiting', Kept query before (stmt.addRows rows).2 packets' waiting' ∧
        packets'.flatten ++ waiting' = packets.flatten ++ waiting ++ rows) ∨
    (stmt.addRows rows).1 = false ∧
      ∃ packets', Sent query before (stmt.addRows rows).2.db packets' ∧
        packets'.flatten <+: packets.flatten ++ waiting ++ rows := by
  induction rows generalizing stmt packets waiting with
  | nil => exact .inl ⟨rfl, packets, waiting, kept, (append_nil _).symm⟩
  | cons row rows ih =>
    rw [DBInsert.addRows]
    rcases kept.addRow row with ⟨done, packets', waiting', next, all⟩ | ⟨failed, sent⟩
    · have run := ih next
      rw [all, append_assoc] at run
      rcases added : stmt.addRow row with ⟨res, after⟩
      rw [added] at done run
      subst done
      exact run
    · rcases added : stmt.addRow row with ⟨res, after⟩
      rw [added] at failed sent
      subst failed
      exact .inr ⟨rfl, packets, sent, by simp [append_assoc]⟩

/-- The rows that wait are sent, unless there is one and a flush has uncounted it. -/
lemma Kept.execute (kept : Kept query before stmt packets waiting) :
  ∃ packets', Sent query before stmt.execute.2.db packets' ∧
    packets'.flatten <+: packets.flatten ++ waiting ∧
      (stmt.execute.1 = true → packets'.flatten =
        if lastFlushes (packets.flatten ++ waiting) then (packets.flatten ++ waiting).dropLast
        else packets.flatten ++ waiting) := by
  have counts := kept.rows
  have flushes := kept.flushes
  by_cases none : waiting = []
  · subst none
    have idle : stmt.execute = (true, stmt) := by
      rw [DBInsert.execute, kept.buf, if_neg fun both => by cases both.2]
    have whole : ¬ lastFlushes (packets.flatten ++ []) := fun flushed => by
      cases (flushes.mp flushed).2
    rw [idle, if_neg whole]
    exact ⟨packets, kept.sent, by simp⟩
  · have active : stmt.multiLine ∧ 0 < stmt.buf.length := by
      rw [kept.buf]
      exact ⟨kept.multiLine, Nat.pos_of_ne_zero fun empty => none (length_joined.mp empty)⟩
    rw [DBInsert.execute, if_pos active]
    by_cases zero : stmt.rows = 0
    · rw [zero, Nat.zero_add] at counts
      have full : packets ≠ [] ∧ waiting.length = 1 := by
        split_ifs at counts with first
        · exact absurd (length_eq_zero_iff.mp counts.symm) none
        · exact ⟨first, counts.symm⟩
      have ⟨row, single⟩ := length_eq_one_iff.mp full.2
      rw [if_pos zero, if_pos (flushes.mpr full), single, dropLast_concat]
      exact ⟨packets, kept.sent, prefix_append .., fun _ => rfl⟩
    · have whole : ¬ lastFlushes (packets.flatten ++ waiting) := by
        intro flushed
        have ⟨first, one⟩ := flushes.mp flushed
        rw [if_neg first, one] at counts
        exact zero (Nat.succ.inj counts)
      have sent := kept.sent.executeQuery none
      rw [if_neg zero, if_neg whole, kept.buf, kept.query_eq]
      refine ⟨_, sent, ?_, fun done => ?_⟩
      · split <;> simp
      · rw [if_pos done]
        simp

/-- A database that takes one row at a time has every row before the one refused. -/
lemma addRows_single (single : stmt.multiLine = false)
  (sent : Sent stmt.query before stmt.db packets) (rows : List Text) :
  (stmt.addRows rows).2.multiLine = false ∧
    ∃ packets', Sent stmt.query before (stmt.addRows rows).2.db packets' ∧
      packets'.flatten <+: packets.flatten ++ rows ∧
        ((stmt.addRows rows).1 = true → packets'.flatten = packets.flatten ++ rows) := by
  induction rows generalizing stmt packets with
  | nil => exact ⟨single, packets, sent, by simp, by simp⟩
  | cons row rows ih =>
    have asked := sent.executeQuery (cons_ne_nil row [])
    rw [joined_single] at asked
    rw [DBInsert.addRows, DBInsert.addRow, if_neg (by simp [single])]
    rcases ran : stmt.db.executeQuery (stmt.query ++ parenthesized row) with ⟨_ | _, db⟩
    · rw [ran] at asked
      exact ⟨single, packets, by simpa using asked, by simp, by simp⟩
    · rw [ran] at asked
      let next : DBInsert := { stmt with db := db }
      have single : next.multiLine = false := single
      have ⟨still, packets', after, before, all⟩ := ih single asked
      exact ⟨still, packets', after, by simpa using before, by simpa using all⟩

/--
What reaches the database is the beginning of the rows, in their order, whatever it
answers.  Where every call succeeds it is all of them, except for a last row which
came to a full buffer.
-/
theorem rows_inserted (stmt : DBInsert) (query : Text) (rows : List Text) :
  ∃ packets : List (List Text),
    (stmt.insertAll query rows).2.db.executed =
        stmt.db.executed ++ packets.map (fun rows => query ++ joined rows) ∧
      [] ∉ packets ∧ packets.flatten <+: rows ∧
        ((stmt.insertAll query rows).1 = true →
          packets.flatten =
            if stmt.multiLine ∧ lastFlushes rows then rows.dropLast else rows) := by
  have begins : Sent query stmt.db.executed stmt.db [] := ⟨by simp, not_mem_nil⟩
  cases multi : stmt.multiLine with
  | false =>
    have single : (stmt.setQuery query).multiLine = false := multi
    have ⟨single, packets, sent, before, all⟩ := addRows_single single begins rows
    refine ⟨packets, ?_⟩
    rw [DBInsert.insertAll]
    rcases added : (stmt.setQuery query).addRows rows with ⟨_ | _, after⟩
    · rw [added] at sent
      exact ⟨sent.executed, sent.filled, before, by simp⟩
    · rw [added] at single sent all
      have idle : after.execute = (true, after) := by
        rw [DBInsert.execute, if_neg fun both => Bool.false_ne_true (single.symm.trans both.1)]
      simp only [idle]
      exact ⟨sent.executed, sent.filled, before, by simpa using all⟩
  | true =>
    have start : Kept query stmt.db.executed (stmt.setQuery query) [] [] :=
      ⟨begins, multi, rfl, rfl, rfl, rfl, by simp [lastFlushes, joined]⟩
    rw [DBInsert.insertAll]
    rcases start.addRows rows with
      ⟨done, packets, waiting, kept, all⟩ | ⟨failed, packets, sent, all⟩
    · rcases added : (stmt.setQuery query).addRows rows with ⟨res, after⟩
      rw [added] at done kept
      subst done
      simp only [flatten_nil, nil_append] at all
      have ⟨packets, sent, before, sum⟩ := kept.execute
      rw [all] at before sum
      exact ⟨packets, sent.executed, sent.filled, before, by simpa using sum⟩
    · rcases added : (stmt.setQuery query).addRows rows with ⟨res, after⟩
      rw [added] at failed sent
      subst failed
      exact ⟨packets, sent.executed, sent.filled, by simpa using all, by simp⟩

end OTServ.InsertRows
