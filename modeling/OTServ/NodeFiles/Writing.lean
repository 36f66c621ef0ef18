import OTServ.NodeFiles.Parsing

/-!
# Writing node files

`startNode`, `setProps` and `endNode` write a tree; the bytes of the type and of the
properties are escaped.  `Forest.bytes` is what stands in the file then.  The parser
takes the type of a node as it stands, so an escaped type is read as the escape
byte, and the type itself begins the properties.  `TypeReads` says when that does no
harm.
-/

namespace OTServ.NodeFiles

open Library.ByteStreams
open Library.Escaping
open List

/-- Nodes one beside the other: the first with its children, and those behind it. -/
inductive Forest
  | nil
  | node (type : UInt8) (props : Stream) (children next : Forest)
deriving DecidableEq, Repr

def writeData (file data : Stream) (unescape : Bool) : Stream :=
  data.foldl
    (fun file byte =>
      if unescape = true ∧
          (byte = nodeStart ∨ byte = nodeEnd ∨ byte = escapeChar) then
        file ++ [escapeChar] ++ [byte]
      else file ++ [byte])
    file

def startNode (file : Stream) (type : UInt8) : Stream :=
  writeData (writeData file [nodeStart] false) [type] true

def setProps (file data : Stream) (size : Nat) : Stream :=
  writeData file (data.take (size % 65536)) true

def endNode (file : Stream) : Stream := writeData file [nodeEnd] false

/--
How properties are handed over in pieces: as one piece where they are short enough,
as several where their length is no unsigned short.
-/
structure Splitting where
  pieces : Stream → List Stream
  joins : ∀ props, (pieces props).flatten = props
  fits : ∀ props, ∀ piece ∈ pieces props, piece.length < 65536

def Splitting.bytewise : Splitting where
  pieces := fun props => props.map fun byte => [byte]
  joins := fun props => by
    induction props with
    | nil => rfl
    | cons byte props ih =>
      rw [map_cons, flatten_cons, ih, singleton_append]
  fits := fun props piece among => by
    rcases mem_map.1 among with ⟨byte, _, rfl⟩
    rw [length_singleton]
    decide

def writeProps (file : Stream) (pieces : List Stream) : Stream :=
  pieces.foldl (fun file piece => setProps file piece piece.length) file

def writeForest (splitting : Splitting) : Stream → Forest → Stream
  | file, .nil => file
  | file, .node type props children next =>
    let head := writeProps (startNode file type) (splitting.pieces props)
    writeForest splitting (endNode (writeForest splitting head children)) next

def savedFile (splitting : Splitting) (type : UInt8) (props : Stream) (children : Forest) :
  Stream :=
  writeForest splitting (writeData [] [0, 0, 0, 0] false) (.node type props children .nil)

def Forest.bytes : Forest → Stream
  | .nil => []
  | .node type props children next =>
    nodeStart ::
      (specialBytes.escaped (type :: props) ++ (children.bytes ++ nodeEnd :: next.bytes))

lemma writeData_plain (file data : Stream) : writeData file data false = file ++ data := by
  induction data generalizing file with
  | nil => exact (append_nil file).symm
  | cons byte data ih =>
    have step : writeData file (byte :: data) false = writeData (file ++ [byte]) data false := by
      rfl
    rw [step, ih, append_assoc, singleton_append]

lemma writeData_escaped (file data : Stream) :
  writeData file data true = file ++ specialBytes.escaped data := by
  induction data generalizing file with
  | nil => exact (append_nil file).symm
  | cons byte data ih =>
    cases special : specialBytes.special byte with
    | true =>
      have marked : byte = nodeStart ∨ byte = nodeEnd ∨ byte = escapeChar := by
        by_contra plain
        rw [special_specialBytes.2 (by
          refine ⟨fun start => plain (.inl start),
            fun ending => plain (.inr (.inl ending)),
            fun escape => plain (.inr (.inr escape))⟩)] at special
        exact Bool.noConfusion special
      have step :
          writeData file (byte :: data) true =
            writeData (file ++ [escapeChar] ++ [byte]) data true := by
        rw [writeData, foldl_cons, if_pos ⟨rfl, marked⟩]
        rfl
      rw [step, ih, Marks.escaped_special special, append_assoc, append_assoc]
      rfl
    | false =>
      rcases special_specialBytes.1 special with ⟨no_start, no_end, no_escape⟩
      have step : writeData file (byte :: data) true = writeData (file ++ [byte]) data true := by
        rw [writeData, foldl_cons, if_neg (by
          rintro ⟨_, start | ending | escape⟩
          · exact no_start start
          · exact no_end ending
          · exact no_escape escape)]
        rfl
      rw [step, ih, Marks.escaped_plain special, append_assoc]
      rfl

lemma writeProps_bytes
  (file : Stream) {pieces : List Stream} (fits : ∀ piece ∈ pieces, piece.length < 65536) :
  writeProps file pieces = file ++ specialBytes.escaped pieces.flatten := by
  induction pieces generalizing file with
  | nil => exact (append_nil file).symm
  | cons piece pieces ih =>
    have short := fits piece mem_cons_self
    have step :
        writeProps file (piece :: pieces) =
          writeProps (file ++ specialBytes.escaped piece) pieces := by
      rw [writeProps, foldl_cons, setProps, Nat.mod_eq_of_lt short, take_length, writeData_escaped]
      rfl
    rw [step, ih _ fun other among => fits other (mem_cons_of_mem _ among),
      flatten_cons, Marks.escaped_append, append_assoc]

lemma writeForest_bytes (splitting : Splitting) (file : Stream) (forest : Forest) :
  writeForest splitting file forest = file ++ forest.bytes := by
  induction forest generalizing file with
  | nil => exact (append_nil file).symm
  | node type props children next children_ih next_ih =>
    have head :
        writeProps (startNode file type) (splitting.pieces props) =
          file ++ (nodeStart :: specialBytes.escaped (type :: props)) := by
      rw [writeProps_bytes _ (splitting.fits props), splitting.joins,
        startNode, writeData_plain, writeData_escaped, append_assoc,
        append_assoc, ← Marks.escaped_append]
      rfl
    rw [writeForest, head, children_ih, endNode, writeData_plain, next_ih, Forest.bytes]
    simp only [append_assoc, cons_append, nil_append]

lemma savedFile_bytes
  (splitting : Splitting) (type : UInt8) (props : Stream) (children : Forest) :
  savedFile splitting type props children =
    [0, 0, 0, 0] ++ (Forest.node type props children .nil).bytes := by
  rw [savedFile, writeForest_bytes, writeData_plain]
  rfl

def typeByte (type : UInt8) : UInt8 :=
  if specialBytes.special type then escapeChar else type

/-- What stands between the type as it is read and the child nodes. -/
def nodeBody (type : UInt8) (props : Stream) : Stream :=
  if specialBytes.special type then type :: specialBytes.escaped props
  else specialBytes.escaped props

lemma escaped_node (type : UInt8) (props : Stream) :
  specialBytes.escaped (type :: props) = typeByte type :: nodeBody type props := by
  rw [typeByte, nodeBody]
  cases special : specialBytes.special type with
  | true => exact Marks.escaped_special special props
  | false => exact Marks.escaped_plain special props

/--
The type is no special byte; or it is the escape byte, and the properties take in
the byte which it leaves in front of them.
-/
def TypeReads (type : UInt8) (props : Stream) : Prop :=
  specialBytes.special type = true → type = escapeChar ∧ specialBytes.Absorbs props = true

/-- The tree comes back: its types are read, and the buffer takes its properties. -/
def Forest.Writable : Forest → Prop
  | .nil => True
  | .node type props children next =>
    TypeReads type props ∧ (nodeBody type props).length ≤ 2048 ∧ children.Writable ∧ next.Writable

lemma typeByte_eq {type : UInt8} {props : Stream} (reads : TypeReads type props) :
  typeByte type = type := by
  rw [typeByte]
  cases special : specialBytes.special type with
  | true =>
    exact (reads special).1.symm
  | false => exact if_neg Bool.false_ne_true

lemma nodeBody_body {type : UInt8} {props : Stream} (reads : TypeReads type props) :
  specialBytes.Body (nodeBody type props) ∧
    specialBytes.unescaped (nodeBody type props) = some props := by
  rw [nodeBody]
  cases special : specialBytes.special type with
  | true =>
    rcases reads special with ⟨rfl, absorbs⟩
    exact Marks.Absorbs.body absorbs
  | false =>
    exact ⟨Marks.body_escaped props, Marks.unescaped_escaped props⟩

/-! ## Parsing what was written -/

/-- The tree of nodes shows the forest, each node small enough for the buffer. -/
def Shows (file : Stream) : Node → Forest → Prop
  | .null, .nil => True
  | .node start propsSize type child next,
      .node type' props children next' =>
      type = type' ∧
        specialBytes.unescaped (slice file (start + 2) propsSize) = some props ∧
        propsSize ≤ 2048 ∧ Shows file child children ∧ Shows file next next'
  | _, _ => False

def Inside (file : Stream) : Node → Prop
  | .null => True
  | .node start _ _ child next =>
    start + 2 ≤ file.length ∧ Inside file child ∧ Inside file next

section Region

variable {file before body rest : Stream}

lemma slice_between (same : file = before ++ (body ++ rest)) :
  slice file before.length body.length = body := by
  rw [slice, same, drop_left, take_left]

lemma getElem?_after {byte : UInt8} (same : file = before ++ byte :: rest) :
  file[before.length]? = some byte := by
  rw [same, List.getElem?_append_right (Nat.le_refl _), Nat.sub_self]
  rfl

/-- The parser goes over a whole stretch of properties. -/
lemma parseRest_body (whole : specialBytes.Body body) :
  ∀ {before : Stream} {fuel : Nat} {loader : Loader} (start : Nat)
    (type : UInt8) (propsSize : Nat) (child : Node) (setPropsSize : Bool),
    loader.useCache = false →
    loader.file = before ++ (body ++ rest) →
    loader.filePos = before.length →
    loader.file.length < fuel + loader.filePos →
    ∃ left,
      loader.file.length < left + (before.length + body.length) ∧
        left ≤ fuel ∧
        parseRest fuel start type propsSize child setPropsSize loader =
          parseRest left start type propsSize child setPropsSize
            (loader.at (before.length + body.length)) := by
  induction whole with
  | nil =>
    intro before fuel loader start type propsSize child setPropsSize _ _ here enough
    refine ⟨fuel, by rw [← here]; exact enough, Nat.le_refl _, ?_⟩
    rw [length_nil, Nat.add_zero, ← here, Loader.at_self]
  | @pair byte letters whole ih =>
    intro before fuel loader start type propsSize child setPropsSize direct same here enough
    have long := congrArg List.length same
    simp only [length_append, length_cons] at long
    cases fuel with
    | zero => omega
    | succ fuel =>
      have stands : loader.file[loader.filePos]? = some escapeChar := by
        rw [here]
        exact getElem?_after same
      have next : loader.file[loader.filePos + 1]? = some byte := by
        rw [here, show before.length + 1 =
          (before ++ [escapeChar]).length by
            rw [length_append, length_singleton]]
        refine @getElem?_after _ _ (letters ++ rest) _ ?_
        rw [same, append_assoc]
        rfl
      rw [parseRest_escape direct stands, next]
      have same' : loader.file = (before ++ [escapeChar, byte]) ++ (letters ++ rest) := by
        rw [same, append_assoc]
        rfl
      rcases @ih (before ++ [escapeChar, byte]) fuel
          (loader.at (loader.filePos + 2)) start type propsSize child
          setPropsSize direct same'
          (by rw [Loader.at_filePos, here, length_append]; rfl)
          (by simp only [Loader.at_file, Loader.at_filePos]; omega) with
        ⟨left, enough', fewer, parsed⟩
      have place :
          (before ++ [escapeChar, byte]).length + letters.length =
            before.length + (specialBytes.escape :: byte :: letters).length := by
        simp only [length_append, length_cons, length_nil]
        omega
      rw [place] at enough' parsed
      exact ⟨left, enough', by omega, parsed⟩
  | @plain byte letters ordinary whole ih =>
    intro before fuel loader start type propsSize child setPropsSize direct same here enough
    have long := congrArg List.length same
    simp only [length_append, length_cons] at long
    cases fuel with
    | zero => omega
    | succ fuel =>
      have stands : loader.file[loader.filePos]? = some byte := by
        rw [here]
        exact getElem?_after same
      rw [parseRest_plain direct stands ordinary]
      have same' : loader.file = (before ++ [byte]) ++ (letters ++ rest) := by
        rw [same, append_assoc]
        rfl
      rcases @ih (before ++ [byte]) fuel
          (loader.at (loader.filePos + 1)) start type propsSize child
          setPropsSize direct same'
          (by rw [Loader.at_filePos, here, length_append]; rfl)
          (by simp only [Loader.at_file, Loader.at_filePos]; omega) with
        ⟨left, enough', fewer, parsed⟩
      have place :
          (before ++ [byte]).length + letters.length =
            before.length + (byte :: letters).length := by
        simp only [length_append, length_cons, length_nil]
        omega
      rw [place] at enough' parsed
      exact ⟨left, enough', by omega, parsed⟩

end Region

end OTServ.NodeFiles
