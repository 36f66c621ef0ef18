import OTServ.Library.ByteStreams
import OTServ.Library.Escaping

/-!
# The reader of node files

A node file is a version and one tree of nodes: each node has a type, a text of
property bytes and child nodes.  `FileLoader` reads it either straight from the
file or through a ring of three blocks, which are loaded when a position in them
is asked for.  The tree is parsed at once and remembers where the properties of
each node stand; `getProps` reads them later.

`astray` is set where the code leaves what it may do: an index outside the ring, a
write behind the buffer, a loop without an end, a null pointer followed.  Nothing is
said about a loader after that.
-/

namespace OTServ.NodeFiles

open Library.ByteStreams
open Library.Escaping

abbrev nodeStart : UInt8 := 0xFE
abbrev nodeEnd : UInt8 := 0xFF
abbrev escapeChar : UInt8 := 0xFD

def specialBytes : Marks UInt8 where
  escape := escapeChar
  stops := fun byte => byte == nodeStart || byte == nodeEnd
  escape_open := rfl

inductive Node
  | null
  | node
      (start propsSize : Nat) (type : UInt8) (child next : Node)
deriving DecidableEq, Repr

inductive LoaderError
  | none
  | invalidFileVersion
  | eof
  | seekError
  | invalidFormat
  | cacheError
deriving DecidableEq, Repr

/-! ## The file and the ring of blocks -/

structure Block where
  loaded : Bool := false
  base : Nat := 0
  data : Stream := []

def Block.size (block : Block) : Nat := block.data.length

structure Loader where
  file : Stream
  filePos : Nat := 0
  lastError : LoaderError := .none
  root : Node := .null
  bufferSize : Nat := 1024
  useCache : Bool := false
  cacheSize : Nat := 0
  blocks : Fin 3 → Block := fun _ => {}
  cacheIndex : Option (Fin 3) := none
  cacheOffset : Nat := 0
  astray : Bool := false

namespace Loader

/-- `pos & ~(m_cache_size - 1)`. -/
def basePos (cacheSize pos : Nat) : Nat := pos - (pos &&& (cacheSize - 1))

def goAstray (loader : Loader) : Loader := { loader with astray := true }

def loadingCache (loader : Loader) (pos : Nat) : Fin 3 :=
  let base := basePos loader.cacheSize pos
  match [0, 1, 2].find? fun index => !(loader.blocks index).loaded with
  | some index => index
  | none =>
    ([0, 1, 2].find? fun index : Fin 3 =>
      2 * loader.cacheSize < (((loader.blocks index).base : Int) - base).natAbs).getD 0

/-- `none` is the -1 of the code. -/
def loadCacheBlock (loader : Loader) (pos : Nat) : Option (Fin 3) × Loader :=
  let index := loader.loadingCache pos
  let base := basePos loader.cacheSize pos
  let data := (loader.file.drop base).take loader.cacheSize
  let block : Block := { (loader.blocks index) with base := base, data := data }
  let filePos := base + data.length
  if data.length < pos - base then
    (none,
      { loader with
        blocks := Function.update loader.blocks index block
        filePos := filePos
        lastError := .seekError })
  else
    (some index,
      { loader with
        blocks := Function.update loader.blocks index { block with loaded := true }
        filePos := filePos })

def getCacheBlock (loader : Loader) (pos : Nat) : Option (Fin 3) × Loader :=
  let base := basePos loader.cacheSize pos
  match [0, 1, 2].find? fun index =>
      (loader.blocks index).loaded && (loader.blocks index).base == base with
  | some index => (some index, loader)
  | none => loader.loadCacheBlock pos

def atBlock (loader : Loader) (index : Fin 3) (pos : Nat) : Loader :=
  { loader with
    cacheIndex := some index
    cacheOffset := pos - (loader.blocks index).base }

def takeCached (loader : Loader) (index : Fin 3) : Option UInt8 × Loader :=
  ((loader.blocks index).data[loader.cacheOffset]?,
    { loader with cacheOffset := loader.cacheOffset + 1 })

def readByte (loader : Loader) : Option UInt8 × Loader :=
  if loader.useCache then
    match loader.cacheIndex with
    | none => (none, { loader with lastError := .cacheError })
    | some index =>
      if (loader.blocks index).size ≤ loader.cacheOffset then
        let pos := loader.cacheOffset + (loader.blocks index).base
        match loader.getCacheBlock pos with
        | (none, loader) => (none, loader)
        | (some index, loader) =>
          let loader := loader.atBlock index pos
          if (loader.blocks index).size ≤ loader.cacheOffset then
            (none, loader)
          else loader.takeCached index
      else loader.takeCached index
  else
    match loader.file[loader.filePos]? with
    | some byte => (some byte, { loader with filePos := loader.filePos + 1 })
    | none => (none, { loader with lastError := .eof })

/--
The loop over the blocks.  The index which a failed load leaves is none of the
ring, and a round which reads nothing comes again for ever.
-/
def readBlocks : Nat → Nat → Nat → Loader → Stream × Loader
  | 0, _, _, loader => ([], loader.goAstray)
  | rounds + 1, remain, pos, loader =>
    match loader.getCacheBlock pos with
    | (none, loader) => ([], loader.goAstray)
    | (some index, loader) =>
      let loader := loader.atBlock index pos
      let reading := min remain ((loader.blocks index).size - loader.cacheOffset)
      let read := ((loader.blocks index).data.drop loader.cacheOffset).take reading
      let loader := { loader with cacheOffset := loader.cacheOffset + reading }
      if remain - reading = 0 then (read, loader)
      else
        let more := readBlocks rounds (remain - reading) (pos + reading) loader
        (read ++ more.1, more.2)

def readBytes (loader : Loader) (size pos : Nat) : Option Stream × Loader :=
  if loader.useCache then
    let read := readBlocks (size + 1) size pos loader
    (some read.1, read.2)
  else
    let read := (loader.file.drop pos).take size
    let loader := { loader with filePos := pos + read.length }
    if read.length ≠ size then (none, { loader with lastError := .eof })
    else (some read, loader)

def safeSeek (loader : Loader) (pos : Nat) : Bool × Loader :=
  if loader.useCache then
    match loader.getCacheBlock pos with
    | (none, loader) => (false, loader.goAstray)
    | (some index, loader) => (true, loader.atBlock index pos)
  else (true, { loader with filePos := pos })

def safeTell (loader : Loader) : Option Nat × Loader :=
  if loader.useCache then
    match loader.cacheIndex with
    | none => (none, { loader with lastError := .cacheError })
    | some index =>
      (some ((loader.blocks index).base + loader.cacheOffset - 1), loader)
  else (some (loader.filePos - 1), loader)

end Loader

/-- Whether the parse went through, and the node as far as it came. -/
structure Parsed where
  ok : Bool
  node : Node
  loader : Loader

mutual

/-- From the type of a node on: the node with the nodes beside it. -/
def parseNode : Nat → Nat → Loader → Parsed
  | 0, start, loader => ⟨false, .node start 0 0 .null .null, loader.goAstray⟩
  | fuel + 1, start, loader =>
    match loader.readByte with
    | (none, loader) => ⟨false, .node start 0 0 .null .null, loader⟩
    | (some type, loader) => parseRest fuel start type 0 .null false loader

def parseRest : Nat → Nat → UInt8 → Nat → Node → Bool → Loader → Parsed
  | 0, start, type, propsSize, child, _, loader =>
    ⟨false, .node start propsSize type child .null, loader.goAstray⟩
  | fuel + 1, start, type, propsSize, child, setPropsSize, loader =>
    match loader.readByte with
    | (none, loader) =>
      ⟨false, .node start propsSize type child .null, loader⟩
    | (some byte, loader) =>
      if byte = nodeStart then
        match loader.safeTell with
        | (none, loader) =>
          ⟨false, .node start propsSize type child .null, loader⟩
        | (some pos, loader) =>
          let inner := parseNode fuel pos loader
          if inner.ok then
            parseRest fuel start type (pos - start - 2) inner.node true inner.loader
          else
            ⟨false, .node start (pos - start - 2) type inner.node .null, inner.loader⟩
      else if byte = nodeEnd then
        match loader.safeTell with
        | (none, loader) =>
          ⟨false, .node start propsSize type child .null, loader⟩
        | (some pos, loader) =>
          let propsSize := if setPropsSize then propsSize else pos - start - 2
          match loader.readByte with
          | (none, loader) =>
            ⟨true, .node start propsSize type child .null, loader⟩
          | (some byte, loader) =>
            if byte = nodeStart then
              match loader.safeTell with
              | (none, loader) =>
                ⟨false, .node start propsSize type child .null, loader⟩
              | (some pos, loader) =>
                let beside := parseNode fuel pos loader
                ⟨beside.ok, .node start propsSize type child beside.node, beside.loader⟩
            else if byte = nodeEnd then
              match loader.safeTell with
              | (none, loader) =>
                ⟨false, .node start propsSize type child .null, loader⟩
              | (some pos, loader) =>
                let sought := loader.safeSeek pos
                ⟨sought.1, .node start propsSize type child .null, sought.2⟩
            else
              ⟨false, .node start propsSize type child .null,
                { loader with lastError := .invalidFormat }⟩
      else if byte = escapeChar then
        match loader.readByte with
        | (none, loader) =>
          ⟨false, .node start propsSize type child .null, loader⟩
        | (some _, loader) =>
          parseRest fuel start type propsSize child setPropsSize loader
      else parseRest fuel start type propsSize child setPropsSize loader

end

/-- `file_size` is an int. -/
def chosenCacheSize (length : Nat) : Nat :=
  let fileSize := Int.bmod length (2 ^ 32)
  let wanted := (min 32768 (max (fileSize.tdiv 20) 8192)).toNat
  wanted - (wanted &&& 0x1FFF)

/-- What the version reads as; `leftover` where the file is too short for it. -/
def readVersion (file : Stream) (leftover : Nat) : Nat :=
  if 4 ≤ file.length then ofLittleEndian (file.take 4) else leftover

def openFile (file : Stream) (caching : Bool) (leftover : Nat) : Bool × Loader :=
  let loader : Loader := { file := file }
  if 0 < readVersion file leftover then
    (false, { loader with lastError := .invalidFileVersion })
  else
    let loader :=
      if caching then
        { loader with
          useCache := true
          cacheSize := chosenCacheSize file.length }
      else loader
    match loader.safeSeek 4 with
    | (false, loader) => (false, { loader with lastError := .invalidFormat })
    | (true, loader) =>
      let loader := { loader with root := .node 4 0 0 .null .null }
      match loader.safeSeek 4 with
      | (false, loader) => (false, loader)
      | (true, loader) =>
        match loader.readByte with
        | (none, loader) => (false, loader)
        | (some byte, loader) =>
          if byte = nodeStart then
            let parsed := parseNode (file.length + 1) 4 loader
            (parsed.ok, { parsed.loader with root := parsed.node })
          else (false, loader)

/-- `getProps`; a size which is no int and a text behind the buffer lead astray. -/
def Loader.getProps (loader : Loader) : Node → Option Stream × Loader
  | .null => (none, loader)
  | .node start propsSize _ _ _ =>
    let loader :=
      if loader.bufferSize ≤ propsSize then
        { loader with bufferSize := loader.bufferSize + 1024 }
      else loader
    if loader.bufferSize < propsSize ∨ 2 ^ 31 ≤ propsSize then
      (none, loader.goAstray)
    else
      match loader.readBytes propsSize (start + 2) with
      | (none, loader) => (none, loader)
      | (some bytes, loader) =>
        match specialBytes.unescaped bytes with
        | none => (none, loader.goAstray)
        | some props => (some props, loader)

def Node.child : Node → Node
  | .null => .null
  | .node _ _ _ child _ => child

def Node.next : Node → Node
  | .null => .null
  | .node _ _ _ _ next => next

def Node.type? : Node → Option UInt8
  | .null => none
  | .node _ _ type _ _ => some type

def Loader.getChildNode (loader : Loader) : Node → Node × Loader
  | .null =>
    match loader.root with
    | .null => (.null, loader.goAstray)
    | root => (root, loader)
  | parent => (parent.child, loader)

def Loader.getNextNode (loader : Loader) (prev : Node) : Node × Loader :=
  (prev.next, loader)

/-- The nodes which were handed out are numbered; another number is no node. -/
inductive Call
  | getChildNode (parent : Nat)
  | getNextNode (prev : Nat)
  | getProps (node : Nat)
deriving DecidableEq, Repr

/-- What a call tells: whether there is a node, of which type, or the properties. -/
inductive Answer
  | node (type : Option UInt8)
  | props (bytes : Option Stream)
  | undefined
deriving DecidableEq, Repr

def handle (nodes : List Node) (number : Nat) : Node :=
  nodes.getD number .null

/-- Nothing which a loader tells after it went astray counts. -/
def Loader.tells (loader : Loader) (answer : Answer) : Answer :=
  if loader.astray then .undefined else answer

/-- The answer, the loader and the nodes handed out after one call. -/
def Loader.call (loader : Loader) (nodes : List Node) : Call → Answer × Loader × List Node
  | .getChildNode parent =>
    let found := loader.getChildNode (handle nodes parent)
    (found.2.tells (.node found.1.type?), found.2, nodes ++ [found.1])
  | .getNextNode prev =>
    let found := loader.getNextNode (handle nodes prev)
    (found.2.tells (.node found.1.type?), found.2, nodes ++ [found.1])
  | .getProps node =>
    let found := loader.getProps (handle nodes node)
    (found.2.tells (.props found.1), found.2, nodes)

def Loader.answers (loader : Loader) (nodes : List Node) : List Call → List Answer
  | [] => []
  | call :: calls =>
    let answered := loader.call nodes call
    answered.1 :: answered.2.1.answers answered.2.2 calls

end OTServ.NodeFiles
