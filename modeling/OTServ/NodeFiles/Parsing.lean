import OTServ.NodeFiles.FileLoader

/-!
# Parsing straight from the file

What the parser does byte by byte on a loader without a ring of blocks, and what
every parse keeps: it never goes astray, it moves the position forward only, and
the properties of each node it made stand in the file as a whole stretch of
escaped bytes.
-/

namespace OTServ.NodeFiles

open Library.ByteStreams
open Library.Escaping
open List

def Loader.at (loader : Loader) (pos : Nat) : Loader :=
  { loader with filePos := pos }

section At

variable (loader : Loader) (pos next : Nat)

@[simp]
lemma Loader.at_file : (loader.at pos).file = loader.file := rfl

@[simp]
lemma Loader.at_filePos : (loader.at pos).filePos = pos := rfl

@[simp]
lemma Loader.at_useCache : (loader.at pos).useCache = loader.useCache := rfl

@[simp]
lemma Loader.at_at : (loader.at pos).at next = loader.at next := rfl

lemma Loader.at_self : loader.at loader.filePos = loader := rfl

end At

lemma nodeEnd_ne_nodeStart : nodeEnd ≠ nodeStart := by decide

lemma escapeChar_ne_nodeStart : escapeChar ≠ nodeStart := by decide

lemma escapeChar_ne_nodeEnd : escapeChar ≠ nodeEnd := by decide

lemma special_specialBytes {byte : UInt8} :
  specialBytes.special byte = false ↔ byte ≠ nodeStart ∧ byte ≠ nodeEnd ∧ byte ≠ escapeChar := by
  rw [Marks.special_eq_false]
  simp only [specialBytes, Bool.or_eq_false_iff, beq_eq_false_iff_ne]
  constructor
  · rintro ⟨escape, start, ending⟩
    exact ⟨start, ending, escape⟩
  · rintro ⟨start, ending, escape⟩
    exact ⟨escape, start, ending⟩

lemma stops_specialBytes {byte : UInt8} :
  specialBytes.stops byte = true ↔ byte = nodeStart ∨ byte = nodeEnd := by
  simp only [specialBytes, Bool.or_eq_true, beq_iff_eq]

/-! ## Reading without blocks -/

variable {pos : Nat} {file : Stream} {loader : Loader}

section Direct

variable {loader : Loader}

section

variable (direct : loader.useCache = false)
include direct

lemma not_cached : ¬ loader.useCache = true := by
  rw [direct]
  exact Bool.false_ne_true

lemma readByte_direct_some {byte : UInt8} (stands : loader.file[loader.filePos]? = some byte) :
  loader.readByte = (some byte, loader.at (loader.filePos + 1)) := by
  rw [Loader.readByte, if_neg (not_cached direct), stands]
  rfl

lemma readByte_direct_none (stands : loader.file[loader.filePos]? = none) :
  loader.readByte = (none, { loader with lastError := .eof }) := by
  rw [Loader.readByte, if_neg (not_cached direct), stands]

lemma safeTell_direct : loader.safeTell = (some (loader.filePos - 1), loader) := by
  rw [Loader.safeTell, if_neg (not_cached direct)]

lemma safeSeek_direct (pos : Nat) : loader.safeSeek pos = (true, loader.at pos) := by
  rw [Loader.safeSeek, if_neg (not_cached direct)]
  rfl

end

variable {fuel start propsSize : Nat} {type : UInt8} {child : Node} {setPropsSize : Bool}

variable (direct : loader.useCache = false)
include direct

lemma parseNode_none (stands : loader.file[loader.filePos]? = none) :
  parseNode (fuel + 1) start loader =
    ⟨false, .node start 0 0 .null .null, { loader with lastError := .eof }⟩ := by
  rw [parseNode, readByte_direct_none direct stands]

lemma parseNode_some (stands : loader.file[loader.filePos]? = some type) :
  parseNode (fuel + 1) start loader =
    parseRest fuel start type 0 .null false (loader.at (loader.filePos + 1)) := by
  rw [parseNode, readByte_direct_some direct stands]

lemma parseRest_none (stands : loader.file[loader.filePos]? = none) :
  parseRest (fuel + 1) start type propsSize child setPropsSize loader =
    ⟨false, .node start propsSize type child .null, { loader with lastError := .eof }⟩ := by
  rw [parseRest, readByte_direct_none direct stands]

lemma parseRest_start (stands : loader.file[loader.filePos]? = some nodeStart) :
  parseRest (fuel + 1) start type propsSize child setPropsSize loader =
    let inner := parseNode fuel loader.filePos (loader.at (loader.filePos + 1))
    if inner.ok then
      parseRest fuel start type (loader.filePos - start - 2) inner.node true inner.loader
    else
      ⟨false,
        .node start (loader.filePos - start - 2) type inner.node .null,
        inner.loader⟩ := by
  have told :
      (loader.at (loader.filePos + 1)).safeTell =
        (some loader.filePos, loader.at (loader.filePos + 1)) :=
    safeTell_direct direct
  rw [parseRest, readByte_direct_some direct stands]
  simp only [told, if_true]

lemma parseRest_inner
  (here : loader.filePos = pos) (stands : loader.file[loader.filePos]? = some nodeStart)
  (ok : (parseNode fuel pos (loader.at (pos + 1))).ok = true) :
  parseRest (fuel + 1) start type propsSize child setPropsSize loader =
    parseRest fuel start type (pos - start - 2)
      (parseNode fuel pos (loader.at (pos + 1))).node true
      (parseNode fuel pos (loader.at (pos + 1))).loader := by
  subst here
  rw [parseRest_start direct stands]
  exact if_pos ok

lemma parseRest_inner_failed
  (here : loader.filePos = pos) (stands : loader.file[loader.filePos]? = some nodeStart)
  (failed : ¬ (parseNode fuel pos (loader.at (pos + 1))).ok = true) :
  (parseRest (fuel + 1) start type propsSize child setPropsSize loader).ok =
    false := by
  subst here
  rw [parseRest_start direct stands]
  exact congrArg Parsed.ok (if_neg failed)

lemma parseRest_end (stands : loader.file[loader.filePos]? = some nodeEnd) :
  parseRest (fuel + 1) start type propsSize child setPropsSize loader =
    let size := if setPropsSize then propsSize else loader.filePos - start - 2
    match loader.file[loader.filePos + 1]? with
    | none =>
      ⟨true, .node start size type child .null,
        { loader.at (loader.filePos + 1) with lastError := .eof }⟩
    | some byte =>
      if byte = nodeStart then
        let beside := parseNode fuel (loader.filePos + 1) (loader.at (loader.filePos + 2))
        ⟨beside.ok, .node start size type child beside.node, beside.loader⟩
      else if byte = nodeEnd then
        ⟨true, .node start size type child .null, loader.at (loader.filePos + 1)⟩
      else
        ⟨false, .node start size type child .null,
          { loader.at (loader.filePos + 2) with
            lastError := .invalidFormat }⟩ := by
  have told :
      (loader.at (loader.filePos + 1)).safeTell =
        (some loader.filePos, loader.at (loader.filePos + 1)) :=
    safeTell_direct direct
  have told_next :
      (loader.at (loader.filePos + 2)).safeTell =
        (some (loader.filePos + 1), loader.at (loader.filePos + 2)) :=
    safeTell_direct direct
  have sought :
      (loader.at (loader.filePos + 2)).safeSeek (loader.filePos + 1) =
        (true, loader.at (loader.filePos + 1)) :=
    @safeSeek_direct (loader.at (loader.filePos + 2)) direct _
  rw [parseRest, readByte_direct_some direct stands]
  simp only [told, if_neg nodeEnd_ne_nodeStart, if_true]
  cases next : loader.file[loader.filePos + 1]? with
  | none =>
    have ended :
        (loader.at (loader.filePos + 1)).readByte =
          (none, { loader.at (loader.filePos + 1) with lastError := .eof }) :=
      @readByte_direct_none (loader.at (loader.filePos + 1)) direct next
    simp only [ended]
  | some byte =>
    have read :
        (loader.at (loader.filePos + 1)).readByte = (some byte, loader.at (loader.filePos + 2)) :=
      @readByte_direct_some (loader.at (loader.filePos + 1)) direct _ next
    simp only [read, told_next, sought]

lemma parseRest_escape (stands : loader.file[loader.filePos]? = some escapeChar) :
  parseRest (fuel + 1) start type propsSize child setPropsSize loader =
    match loader.file[loader.filePos + 1]? with
    | none =>
      ⟨false, .node start propsSize type child .null,
        { loader.at (loader.filePos + 1) with lastError := .eof }⟩
    | some _ =>
      parseRest fuel start type propsSize child setPropsSize
        (loader.at (loader.filePos + 2)) := by
  rw [parseRest, readByte_direct_some direct stands]
  simp only [if_neg escapeChar_ne_nodeStart, if_neg escapeChar_ne_nodeEnd, if_true]
  cases next : loader.file[loader.filePos + 1]? with
  | none =>
    have ended :
        (loader.at (loader.filePos + 1)).readByte =
          (none, { loader.at (loader.filePos + 1) with lastError := .eof }) :=
      @readByte_direct_none (loader.at (loader.filePos + 1)) direct next
    simp only [ended]
  | some byte =>
    have read :
        (loader.at (loader.filePos + 1)).readByte = (some byte, loader.at (loader.filePos + 2)) :=
      @readByte_direct_some (loader.at (loader.filePos + 1)) direct _ next
    simp only [read]

lemma parseRest_plain {byte : UInt8} (stands : loader.file[loader.filePos]? = some byte)
  (plain : specialBytes.special byte = false) :
  parseRest (fuel + 1) start type propsSize child setPropsSize loader =
    parseRest fuel start type propsSize child setPropsSize (loader.at (loader.filePos + 1)) := by
  rcases special_specialBytes.1 plain with ⟨no_start, no_end, no_escape⟩
  rw [parseRest, readByte_direct_some direct stands]
  simp only [if_neg no_start, if_neg no_end, if_neg no_escape]

end Direct

/-! ## Where the properties stand -/

def slice (file : Stream) (pos size : Nat) : Stream := (file.drop pos).take size

lemma slice_length {size : Nat} (within : pos + size ≤ file.length) :
  (slice file pos size).length = size := by
  rw [slice, length_take, length_drop]
  omega

@[simp]
lemma slice_zero (file : Stream) (pos : Nat) : slice file pos 0 = [] := by
  rw [slice, take_zero]

lemma slice_succ {size : Nat} {byte : UInt8} (stands : file[pos + size]? = some byte) :
  slice file pos (size + 1) = slice file pos size ++ [byte] := by
  have stands_later : (file.drop pos)[size]? = some byte := by
    rw [List.getElem?_drop, stands]
  rw [slice, take_add_one, stands_later]
  rfl

/-- The properties of each node of the tree stand in the file. -/
inductive Placed (file : Stream) : Node → Prop
  | null : Placed file .null
  | node
      {start propsSize : Nat} {type : UInt8} {child next : Node} :
      (propsSize = 0 ∨ start + 2 + propsSize ≤ file.length) →
      specialBytes.Body (slice file (start + 2) propsSize) →
      Placed file child → Placed file next →
      Placed file (.node start propsSize type child next)

lemma Placed.bare (file : Stream) (start : Nat) (type : UInt8) :
  Placed file (.node start 0 type .null .null) := by
  refine .node (.inl rfl) ?_ .null .null
  exact .nil

/--
After a parse which went through, the end of the node above is next, or the end of
the file.
-/
def BeforeEnd (file : Stream) (pos : Nat) : Prop :=
  file[pos]? = none ∨ file[pos]? = some nodeEnd

structure Kept (loader : Loader) (parsed : Parsed) : Prop where
  moves :
    ∃ pos error,
      parsed.loader = { loader with filePos := pos, lastError := error } ∧
        loader.filePos ≤ pos ∧ pos ≤ loader.file.length ∧
          (parsed.ok = true → BeforeEnd loader.file pos)
  placed : Placed loader.file parsed.node

/-- The parser has read so far in the properties of a node, or in its children. -/
structure Reading
  (file : Stream) (pos start propsSize : Nat) (child : Node)
  (setPropsSize : Bool) : Prop where
  within : pos ≤ file.length
  behind : start + 2 ≤ pos
  placed : Placed file child
  open_body :
    setPropsSize = false →
      propsSize = 0 ∧ child = .null ∧ specialBytes.Body (slice file (start + 2) (pos - start - 2))
  closed_body :
    setPropsSize = true →
      BeforeEnd file pos ∧ start + 2 + propsSize ≤ file.length ∧
        specialBytes.Body (slice file (start + 2) propsSize)

section Reading

variable {file : Stream} {pos start propsSize : Nat} {child : Node} {setPropsSize : Bool}

section

variable (reading : Reading file pos start propsSize child setPropsSize)
include reading

lemma Reading.placed_node
  (type : UInt8) : Placed file (.node start propsSize type child .null) := by
  cases set : setPropsSize with
  | false =>
    rcases reading.open_body set with ⟨rfl, rfl, _⟩
    exact Placed.bare file start type
  | true =>
    rcases reading.closed_body set with ⟨_, inside, body⟩
    exact .node (.inr inside) body reading.placed .null

lemma Reading.placed_end {next : Node} (placed_next : Placed file next) (type : UInt8) :
  Placed file
    (.node start (if setPropsSize then propsSize else pos - start - 2) type child next) := by
  have within := reading.within
  have behind := reading.behind
  cases set : setPropsSize with
  | false =>
    rcases reading.open_body set with ⟨_, _, body⟩
    rw [if_neg Bool.false_ne_true]
    exact .node (.inr (by omega)) body reading.placed placed_next
  | true =>
    rcases reading.closed_body set with ⟨_, inside, body⟩
    exact .node (.inr inside) body reading.placed placed_next

lemma Reading.still_open {byte : UInt8} (stands : file[pos]? = some byte)
  (other : byte ≠ nodeEnd) : setPropsSize = false := by
  cases set : setPropsSize with
  | false => rfl
  | true =>
    rcases (reading.closed_body set).1 with missing | ending
    · rw [stands] at missing
      cases missing
    · rw [stands] at ending
      exact absurd (Option.some.inj ending) other

lemma Reading.plain
  {byte : UInt8} (stands : file[pos]? = some byte) (plain : specialBytes.special byte = false) :
  Reading file (pos + 1) start propsSize child setPropsSize := by
  have behind := reading.behind
  have within : pos < file.length := (List.getElem?_eq_some_iff.1 stands).1
  have set := reading.still_open stands (special_specialBytes.1 plain).2.1
  subst set
  rcases reading.open_body rfl with ⟨size, none, body⟩
  have longer : pos + 1 - start - 2 = pos - start - 2 + 1 := by omega
  have here : file[start + 2 + (pos - start - 2)]? = some byte := by
    rw [← stands]
    congr 1
    omega
  refine ⟨within, by omega, reading.placed, ?_, fun set => Bool.noConfusion set⟩
  intro _
  refine ⟨size, none, ?_⟩
  rw [longer, slice_succ here]
  exact body.append (.plain plain .nil)

lemma Reading.escape
  {byte : UInt8} (stands : file[pos]? = some escapeChar) (next : file[pos + 1]? = some byte) :
  Reading file (pos + 2) start propsSize child setPropsSize := by
  have behind := reading.behind
  have within : pos + 1 < file.length := (List.getElem?_eq_some_iff.1 next).1
  have set := reading.still_open stands escapeChar_ne_nodeEnd
  subst set
  rcases reading.open_body rfl with ⟨size, none, body⟩
  have longer : pos + 2 - start - 2 = pos - start - 2 + 1 + 1 := by omega
  have here : file[start + 2 + (pos - start - 2)]? = some escapeChar := by
    rw [← stands]
    congr 1
    omega
  have there : file[start + 2 + (pos - start - 2 + 1)]? = some byte := by
    rw [← next]
    congr 1
    omega
  refine ⟨within, by omega, reading.placed, ?_, fun set => Bool.noConfusion set⟩
  intro _
  refine ⟨size, none, ?_⟩
  rw [longer, slice_succ there, slice_succ here, append_assoc]
  exact body.append (.pair byte .nil)

lemma Reading.children (stands : file[pos]? = some nodeStart) {inner : Node} {after : Nat}
  (placed : Placed file inner) (forward : pos ≤ after) (within : after ≤ file.length)
  (before : BeforeEnd file after) : Reading file after start (pos - start - 2) inner true := by
  have behind := reading.behind
  have set := reading.still_open stands nodeEnd_ne_nodeStart.symm
  subst set
  rcases reading.open_body rfl with ⟨_, _, body⟩
  exact ⟨within, by omega, placed, fun set => Bool.noConfusion set,
    fun _ => ⟨before, by omega, body⟩⟩

end

lemma Reading.begin {type : UInt8} (stands : file[start + 1]? = some type) :
  Reading file (start + 2) start 0 .null false := by
  have within : start + 1 < file.length := (List.getElem?_eq_some_iff.1 stands).1
  refine ⟨within, Nat.le_refl _, .null, fun _ => ⟨rfl, rfl, ?_⟩, fun set => Bool.noConfusion set⟩
  rw [show start + 2 - start - 2 = 0 by omega, slice_zero]
  exact .nil

end Reading

lemma Kept.stopped {node : Node} {error : LoaderError} (forward : loader.filePos ≤ pos)
  (within : pos ≤ loader.file.length) (placed : Placed loader.file node) :
  Kept loader ⟨false, node, { loader with filePos := pos, lastError := error }⟩ :=
  ⟨⟨pos, error, rfl, forward, within, fun ok => Bool.noConfusion ok⟩, placed⟩

lemma Kept.from_later {parsed : Parsed} (kept : Kept (loader.at pos) parsed)
  (forward : loader.filePos ≤ pos) : Kept loader parsed := by
  rcases kept with ⟨⟨after, error, same, later, within, before⟩, placed⟩
  exact ⟨⟨after, error, same, Nat.le_trans forward later, within, before⟩, placed⟩

def ParseKeeps (fuel : Nat) : Prop :=
  ∀ (start : Nat) (loader : Loader),
    loader.useCache = false →
    loader.filePos = start + 1 →
    loader.filePos ≤ loader.file.length →
    loader.file.length < fuel + loader.filePos →
    Kept loader (parseNode fuel start loader)

lemma parseRest_keeps (fuel : Nat) (keeps : ∀ smaller, smaller < fuel → ParseKeeps smaller) :
  ∀ (start : Nat) (type : UInt8) (propsSize : Nat) (child : Node)
    (setPropsSize : Bool) (loader : Loader),
    loader.useCache = false →
    Reading loader.file loader.filePos start propsSize child setPropsSize →
    loader.file.length < fuel + loader.filePos →
    Kept loader (parseRest fuel start type propsSize child setPropsSize loader) := by
  induction fuel with
  | zero =>
    intro start type propsSize child setPropsSize loader _ reading enough
    have within := reading.within
    omega
  | succ fuel ih =>
    intro start type propsSize child setPropsSize loader direct reading enough
    have ih := ih fun smaller less => keeps smaller (Nat.lt_succ_of_lt less)
    have parse_keeps := keeps fuel (Nat.lt_succ_self fuel)
    cases stands : loader.file[loader.filePos]? with
    | none =>
      rw [parseRest_none direct stands]
      exact Kept.stopped (Nat.le_refl _) reading.within (reading.placed_node type)
    | some byte =>
      have within : loader.filePos < loader.file.length := (List.getElem?_eq_some_iff.1 stands).1
      by_cases starts : byte = nodeStart
      · subst starts
        have inner_kept :
            Kept (loader.at (loader.filePos + 1))
              (parseNode fuel loader.filePos (loader.at (loader.filePos + 1))) :=
          parse_keeps loader.filePos (loader.at (loader.filePos + 1))
            direct rfl within (by simp only [Loader.at_file, Loader.at_filePos]; omega)
        rw [parseRest_start direct stands]
        rcases inner_kept with ⟨⟨after, error, same, forward, inside, before⟩, placed⟩
        have forward : loader.filePos + 1 ≤ after := forward
        have set := reading.still_open stands nodeEnd_ne_nodeStart.symm
        subst set
        rcases reading.open_body rfl with ⟨_, _, body⟩
        have behind := reading.behind
        simp only
        split
        · rename_i ok
          have reading_on := reading.children stands placed (by omega) inside (before ok)
          have kept :=
            ih start type (loader.filePos - start - 2) _ true
              { loader with filePos := after, lastError := error }
              direct reading_on (by simp only; omega)
          rw [same]
          rcases kept with ⟨⟨last, error', same', later, inside', before'⟩, placed'⟩
          have later : after ≤ last := later
          exact ⟨⟨last, error', same', by omega, inside', before'⟩, placed'⟩
        · rw [same]
          exact Kept.stopped (by omega) inside (.node (.inr (by omega)) body placed .null)
      by_cases ends : byte = nodeEnd
      · subst ends
        rw [parseRest_end direct stands]
        cases next : loader.file[loader.filePos + 1]? with
        | none =>
          exact ⟨⟨loader.filePos + 1, .eof, rfl, by omega, within,
            fun _ => .inl next⟩, reading.placed_end .null type⟩
        | some byte =>
          have further : loader.filePos + 1 < loader.file.length :=
            (List.getElem?_eq_some_iff.1 next).1
          simp only
          split
          · have beside_kept :
                Kept (loader.at (loader.filePos + 2))
                  (parseNode fuel (loader.filePos + 1) (loader.at (loader.filePos + 2))) :=
              parse_keeps (loader.filePos + 1)
                (loader.at (loader.filePos + 2)) direct rfl further
                (by simp only [Loader.at_file, Loader.at_filePos]; omega)
            rcases beside_kept with ⟨⟨after, error, same, forward, inside, before⟩, placed⟩
            have forward : loader.filePos + 2 ≤ after := forward
            exact ⟨⟨after, error, same, by omega, inside, before⟩, reading.placed_end placed type⟩
          · split
            · rename_i ends
              subst ends
              exact ⟨⟨loader.filePos + 1, loader.lastError, rfl, by omega,
                within, fun _ => .inr next⟩,
                reading.placed_end .null type⟩
            · exact Kept.stopped (Nat.le_add_right _ _) further (reading.placed_end .null type)
      by_cases escapes : byte = escapeChar
      · subst escapes
        rw [parseRest_escape direct stands]
        cases next : loader.file[loader.filePos + 1]? with
        | none =>
          exact Kept.stopped (Nat.le_add_right _ _) within (reading.placed_node type)
        | some byte =>
          have kept :=
            ih start type propsSize child setPropsSize
              (loader.at (loader.filePos + 2)) direct
              (reading.escape stands next)
              (by simp only [Loader.at_file, Loader.at_filePos]; omega)
          exact kept.from_later (Nat.le_add_right _ _)
      · have plain := special_specialBytes.2 ⟨starts, ends, escapes⟩
        rw [parseRest_plain direct stands plain]
        have kept :=
          ih start type propsSize child setPropsSize
            (loader.at (loader.filePos + 1)) direct
            (reading.plain stands plain)
            (by simp only [Loader.at_file, Loader.at_filePos]; omega)
        exact kept.from_later (Nat.le_add_right _ _)

lemma parseNode_keeps (fuel : Nat) : ParseKeeps fuel := by
  induction fuel using Nat.strongRecOn with
  | _ fuel keeps =>
    intro start loader direct begins within enough
    cases fuel with
    | zero => omega
    | succ fuel =>
      cases stands : loader.file[loader.filePos]? with
      | none =>
        rw [parseNode_none direct stands]
        exact Kept.stopped (Nat.le_refl _) within (Placed.bare loader.file start 0)
      | some type =>
        rw [parseNode_some direct stands]
        have stands' : loader.file[start + 1]? = some type := by
          rw [← begins, stands]
        have reading : Reading loader.file (loader.filePos + 1) start 0 .null false := by
          rw [begins]
          exact Reading.begin stands'
        have kept :=
          parseRest_keeps fuel
            (fun smaller less => keeps smaller (Nat.lt_succ_of_lt less))
            start type 0 .null false (loader.at (loader.filePos + 1))
            direct reading
            (by simp only [Loader.at_file, Loader.at_filePos]; omega)
        exact kept.from_later (Nat.le_add_right _ _)

end OTServ.NodeFiles
