import OTServ.NodeFiles.Caching

/-!
# Cached and direct reads

After the parse the calls read the properties of the nodes.  A cached loader and a
direct one answer alike, as long as each call keeps to what the code can do:
`CallSound` asks of `getProps` that the buffer takes the properties and that the
block they begin in is in the ring or can be loaded.  The latter fails only for a
node whose type the file has no byte for, which an open that failed leaves behind,
and after its block was given up for others.

`reads_alike` settles it for all files and calls.  A file of less than four bytes
is the other case in which the cached loader looks for a block outside the ring.
-/

namespace OTServ.NodeFiles

open Library.ByteStreams
open Library.Escaping
open List

lemma slice_add (file : Stream) (pos first more : Nat) :
  slice file pos (first + more) = slice file pos first ++ slice file (pos + first) more := by
  rw [slice, slice, slice, take_add, drop_drop]

variable {file : Stream} {loader cached direct : Loader} {index : Fin 3} {remain leftover : Nat}
  {node : Node} {nodes : List Node} {call : Call} {calls : List Call}

lemma slice_block
  {base size offset reading : Nat} (inside : offset + reading ≤ (slice file base size).length) :
  ((slice file base size).drop offset).take reading = slice file (base + offset) reading := by
  rw [slice, length_take, length_drop] at inside
  rw [slice, slice, drop_take, take_take, drop_drop, Nat.min_eq_left (by omega)]

lemma round_spec {pos : Nat} (valid : loader.Valid) (positive : 0 < loader.cacheSize)
  (holds : loader.Holds index pos) (within : remain ≠ 0 → pos + remain ≤ loader.file.length) :
  let offset := pos - (loader.blocks index).base
  let reading := min remain ((loader.blocks index).size - offset)
  (remain ≠ 0 → 0 < reading) ∧
    ((loader.blocks index).data.drop offset).take reading = slice loader.file pos reading := by
  intro offset reading
  have low := Loader.sub_basePos_lt positive pos
  have below := Loader.basePos_le loader.cacheSize pos
  rw [← holds.base] at low below
  have data := valid index holds.loaded
  have size :
      (loader.blocks index).size =
        min loader.cacheSize (loader.file.length - (loader.blocks index).base) := by
    rw [Block.size, data, slice, length_take, length_drop]
  have place : (loader.blocks index).base + offset = pos := Nat.add_sub_cancel' below
  refine ⟨?_, ?_⟩
  · intro some
    have room : 0 < (loader.blocks index).size - offset := by
      omega
    exact Nat.lt_min.2 ⟨Nat.pos_of_ne_zero some, room⟩
  · by_cases nothing : reading = 0
    · rw [nothing, take_zero, slice_zero]
    · have inside : offset + reading ≤ (loader.blocks index).size := by
        omega
      rw [Block.size, data] at inside
      rw [data, slice_block inside, place]

lemma readBlocks_round {block : Loader} {rounds pos reading : Nat}
    (found : loader.getCacheBlock pos = (some index, block))
    (settled :
      min remain ((block.blocks index).size - (pos - (block.blocks index).base)) = reading) :
    Loader.readBlocks (rounds + 1) remain pos loader =
      let read := ((block.blocks index).data.drop (pos - (block.blocks index).base)).take reading
      let after :=
        { block with
          cacheIndex := some index
          cacheOffset := pos - (block.blocks index).base + reading }
      if remain - reading = 0 then (read, after)
      else
        let more := Loader.readBlocks rounds (remain - reading) (pos + reading) after
        (read ++ more.1, more.2) := by
  subst settled
  rw [Loader.readBlocks, found]
  rfl

lemma readBlocks_spec (rounds : Nat) :
  ∀ (remain pos : Nat) (loader : Loader),
    loader.Valid → 0 < loader.cacheSize → remain < rounds →
    loader.Reaches pos →
    (remain ≠ 0 → pos + remain ≤ loader.file.length) →
    ∃ after,
      Loader.readBlocks rounds remain pos loader =
          (slice loader.file pos remain, after) ∧
        loader.Moved after := by
  induction rounds with
  | zero =>
    intro remain pos loader _ _ enough
    exact absurd enough (Nat.not_lt_zero remain)
  | succ rounds ih =>
    intro remain pos loader valid positive enough reaches within
    rcases Loader.getCacheBlock_spec valid positive reaches with
      ⟨index, block, found, moved, holds⟩
    rcases round_spec moved.valid
        (by rw [moved.cacheSize]; exact positive) holds
        (by rw [moved.file]; exact within) with ⟨progress, read⟩
    rw [moved.file] at read
    generalize settled :
      min remain
        ((block.blocks index).size - (pos - (block.blocks index).base)) = reading at progress read
    have at_most : reading ≤ remain := by
      rw [← settled]
      exact Nat.min_le_left _ _
    rw [readBlocks_round found settled, read]
    simp only
    have moved_at (offset : Nat) :
        loader.Moved { block with cacheIndex := some index, cacheOffset := offset } :=
      ⟨moved.file, moved.root, moved.bufferSize, moved.useCache,
        moved.cacheSize, moved.astray, moved.valid⟩
    by_cases last : remain - reading = 0
    · rw [if_pos last]
      refine ⟨_, ?_, moved_at (pos - (block.blocks index).base + reading)⟩
      rw [show reading = remain by omega]
    · rw [if_neg last]
      have moved_on := moved_at (pos - (block.blocks index).base + reading)
      rcases ih (remain - reading) (pos + reading) _ moved_on.valid
          (by rw [moved_on.cacheSize]; exact positive) (by omega)
          (.inl (.inl (by rw [moved_on.file]; omega)))
          (by rw [moved_on.file]; omega) with ⟨after, rest, moved_after⟩
      rw [rest, moved_on.file]
      refine ⟨after, ?_, moved_on.trans moved_after⟩
      rw [← slice_add, Nat.add_sub_cancel' at_most]

lemma readBlocks_lost {rounds pos : Nat} (lost : ¬ loader.Reaches pos) :
  (Loader.readBlocks (rounds + 1) remain pos loader).2.astray = true := by
  rcases Loader.getCacheBlock_lost lost with ⟨after, missing⟩
  rw [Loader.readBlocks, missing]
  rfl

/-! ## One call -/

structure Ready (loader : Loader) : Prop where
  ring : loader.useCache = true → loader.Valid ∧ 0 < loader.cacheSize
  astray : loader.astray = false

/-- A loader after it has read, with a buffer which may have grown. -/
structure Reads (loader after : Loader) (bufferSize : Nat) : Prop where
  file : after.file = loader.file
  root : after.root = loader.root
  useCache : after.useCache = loader.useCache
  bufferSize : after.bufferSize = bufferSize
  ready : Ready after

section Call

variable {loader : Loader}

lemma Ready.reads (ready : Ready loader) : Reads loader loader loader.bufferSize :=
  ⟨rfl, rfl, rfl, rfl, ready⟩

lemma Ready.tells (ready : Ready loader) (answer : Answer) : loader.tells answer = answer := by
  rw [Loader.tells, ready.astray]
  exact if_neg Bool.false_ne_true

lemma tells_astray (astray : loader.astray = true) (answer : Answer) :
  loader.tells answer = .undefined := if_pos astray

lemma readBytes_spec
  (ready : Ready loader) {size pos : Nat} (reaches : loader.useCache = true → loader.Reaches pos)
  (within : size = 0 ∨ pos + size ≤ loader.file.length) :
  ∃ after,
    loader.readBytes size pos = (some (slice loader.file pos size), after) ∧
      Reads loader after loader.bufferSize := by
  cases cached : loader.useCache with
  | true =>
    rcases ready.ring cached with ⟨valid, positive⟩
    rcases readBlocks_spec (size + 1) size pos loader valid positive
        (Nat.lt_succ_self size) (reaches cached)
        (fun some => within.resolve_left some) with ⟨after, read, moved⟩
    refine ⟨after, ?_, moved.file, moved.root, moved.useCache,
      moved.bufferSize, fun _ => ⟨moved.valid, ?_⟩,
      moved.astray.trans ready.astray⟩
    · rw [Loader.readBytes, if_pos cached, read]
    · rw [moved.cacheSize]
      exact positive
  | false =>
    have length : (slice loader.file pos size).length = size := by
      rcases within with none | within
      · rw [none, slice_zero, length_nil]
      · exact slice_length within
    have whole : ¬ ((loader.file.drop pos).take size).length ≠ size :=
      fun differs => differs length
    refine ⟨{ loader with
        filePos := pos + ((loader.file.drop pos).take size).length }, ?_,
      rfl, rfl, rfl, rfl, ready.ring, ready.astray⟩
    rw [Loader.readBytes, if_neg (not_cached cached)]
    simp only [if_neg whole]
    rfl

def Loader.grownBuffer (loader : Loader) (propsSize : Nat) : Nat :=
  if loader.bufferSize ≤ propsSize then loader.bufferSize + 1024
  else loader.bufferSize

/-- What `getProps` asks of a node. -/
def Loader.Takes (loader : Loader) : Node → Prop
  | .null => True
  | .node start propsSize _ _ _ =>
    propsSize ≤ loader.grownBuffer propsSize ∧ propsSize < 2 ^ 31 ∧
      (loader.useCache = true → loader.Reaches (start + 2))

def Node.props (file : Stream) : Node → Option Stream
  | .null => none
  | .node start propsSize _ _ _ =>
    specialBytes.unescaped (slice file (start + 2) propsSize)

def Loader.bufferFor (loader : Loader) : Node → Nat
  | .null => loader.bufferSize
  | .node _ propsSize _ _ _ => loader.grownBuffer propsSize

lemma getProps_node (start propsSize : Nat) (type : UInt8) (child next : Node) :
  loader.getProps (.node start propsSize type child next) =
    let grown := { loader with bufferSize := loader.grownBuffer propsSize }
    if grown.bufferSize < propsSize ∨ 2 ^ 31 ≤ propsSize then
      (none, grown.goAstray)
    else
      match grown.readBytes propsSize (start + 2) with
      | (none, loader) => (none, loader)
      | (some bytes, loader) =>
        match specialBytes.unescaped bytes with
        | none => (none, loader.goAstray)
        | some props => (some props, loader) := by
  rw [Loader.getProps, Loader.grownBuffer]
  split <;> rfl

lemma getProps_spec
  (ready : Ready loader) (placed : Placed loader.file node) (takes : loader.Takes node) :
  ∃ after,
    loader.getProps node = (node.props loader.file, after) ∧
      Reads loader after (loader.bufferFor node) := by
  cases placed with
  | null => exact ⟨loader, rfl, ready.reads⟩
  | @node start propsSize type child next within body _ _ =>
    rcases takes with ⟨fits, int, reaches⟩
    have grown_ready : Ready { loader with bufferSize := loader.grownBuffer propsSize } :=
      ⟨ready.ring, ready.astray⟩
    rcases @readBytes_spec _ grown_ready _ _ reaches within with ⟨after, read, reads⟩
    rcases body.unescaped_some with ⟨props, means⟩
    have room : ¬ (loader.grownBuffer propsSize < propsSize ∨ 2 ^ 31 ≤ propsSize) := by
      omega
    refine ⟨after, ?_, reads.file, reads.root, reads.useCache, reads.bufferSize, reads.ready⟩
    rw [getProps_node]
    simp only [if_neg room, read, Node.props, means]

lemma getProps_lost (lost : ¬ loader.Takes node) : (loader.getProps node).2.astray = true := by
  cases node with
  | null => exact absurd trivial lost
  | node start propsSize type child next =>
    rw [getProps_node]
    by_cases room : loader.grownBuffer propsSize < propsSize ∨ 2 ^ 31 ≤ propsSize
    · simp only [if_pos room]
      rfl
    · have cached : loader.useCache = true ∧ ¬ loader.Reaches (start + 2) := by
        by_contra fine
        refine lost ⟨by omega, by omega, fun cached => ?_⟩
        by_contra unreached
        exact fine ⟨cached, unreached⟩
      have astray :=
        @readBlocks_lost
          { loader with bufferSize := loader.grownBuffer propsSize }
          propsSize propsSize (start + 2) cached.2
      simp only [if_neg room, Loader.readBytes, if_pos cached.1]
      split
      · rfl
      · exact astray

/-- What a call asks of the loader and the nodes handed out before. -/
def CallSound (loader : Loader) (nodes : List Node) : Call → Prop
  | .getChildNode parent =>
    handle nodes parent = .null → loader.root ≠ .null
  | .getNextNode _ => True
  | .getProps node => loader.Takes (handle nodes node)

/-- The answer which the parsed tree gives to a call, and the nodes after it. -/
def treeCall (file : Stream) (root : Node) (nodes : List Node) : Call → Answer × List Node
  | .getChildNode parent =>
    let found :=
      match handle nodes parent with
      | .null => root
      | parent => parent.child
    (.node found.type?, nodes ++ [found])
  | .getNextNode prev =>
    let found := (handle nodes prev).next
    (.node found.type?, nodes ++ [found])
  | .getProps node => (.props ((handle nodes node).props file), nodes)

def Loader.bufferAfter (loader : Loader) (nodes : List Node) : Call → Nat
  | .getProps node => loader.bufferFor (handle nodes node)
  | _ => loader.bufferSize

lemma Placed.of_child (placed : Placed file node) : Placed file node.child := by
  cases placed with
  | null => exact .null
  | node _ _ child _ => exact child

lemma Placed.of_next (placed : Placed file node) : Placed file node.next := by
  cases placed with
  | null => exact .null
  | node _ _ _ next => exact next

lemma placed_handle (placed : ∀ node ∈ nodes, Placed file node) (number : Nat) :
  Placed file (handle nodes number) := by
  rw [handle, getD_eq_getElem?_getD]
  cases found : nodes[number]? with
  | none => exact .null
  | some node => exact placed node (mem_of_getElem? found)

lemma call_spec (ready : Ready loader) (placed : ∀ node ∈ nodes, Placed loader.file node)
  (sound : CallSound loader nodes call) :
  ∃ after,
    loader.call nodes call =
        ((treeCall loader.file loader.root nodes call).1, after,
          (treeCall loader.file loader.root nodes call).2) ∧
      Reads loader after (loader.bufferAfter nodes call) := by
  cases call with
  | getChildNode parent =>
    have found :
        loader.getChildNode (handle nodes parent) =
          (match handle nodes parent with
            | .null => loader.root
            | parent => parent.child, loader) := by
      cases found : handle nodes parent with
      | null =>
        cases root : loader.root with
        | null => exact absurd root (sound found)
        | node start propsSize type child next =>
          rw [Loader.getChildNode, root]
      | node start propsSize type child next => rfl
    refine ⟨loader, ?_, ready.reads⟩
    simp only [Loader.call, treeCall, found, ready.tells]
  | getNextNode prev =>
    refine ⟨loader, ?_, ready.reads⟩
    simp only [Loader.call, treeCall, Loader.getNextNode, ready.tells]
  | getProps node =>
    rcases getProps_spec ready (placed_handle placed node) sound with ⟨after, read, reads⟩
    refine ⟨after, ?_, reads⟩
    simp only [Loader.call, treeCall, read, reads.ready.tells]

lemma call_lost (lost : ¬ CallSound loader nodes call) :
  (loader.call nodes call).1 = .undefined := by
  cases call with
  | getChildNode parent =>
    have both : handle nodes parent = .null ∧ loader.root = .null := by
      by_contra fine
      exact lost fun parent root => fine ⟨parent, root⟩
    have astray : (loader.getChildNode (handle nodes parent)).2.astray = true := by
      rw [both.1, Loader.getChildNode, both.2]
      rfl
    exact tells_astray astray _
  | getNextNode prev => exact absurd trivial lost
  | getProps node =>
    exact tells_astray (getProps_lost lost) _

lemma treeCall_placed {root : Node} (placed_root : Placed file root)
  (placed : ∀ node ∈ nodes, Placed file node) (call : Call) :
  ∀ node ∈ (treeCall file root nodes call).2, Placed file node := by
  have grown {found : Node} (placed_found : Placed file found) :
      ∀ node ∈ nodes ++ [found], Placed file node := by
    intro node among
    rcases mem_append.1 among with before | last
    · exact placed node before
    · rw [mem_singleton.1 last]
      exact placed_found
  cases call with
  | getChildNode parent =>
    apply grown
    have placed_parent := placed_handle placed parent
    cases found : handle nodes parent with
    | null => exact placed_root
    | node start propsSize type child next =>
      rw [found] at placed_parent
      exact placed_parent.of_child
  | getNextNode prev => exact grown (placed_handle placed prev).of_next
  | getProps node => exact placed

end Call

/-- Each call of a run asks no more than the loader can do then. -/
def CallsSound : Loader → List Node → List Call → Prop
  | _, _, [] => True
  | loader, nodes, call :: calls =>
    CallSound loader nodes call ∧
      CallsSound (loader.call nodes call).2.1 (loader.call nodes call).2.2 calls

def treeAnswers (file : Stream) (root : Node) : List Node → List Call → List Answer
  | _, [] => []
  | nodes, call :: calls =>
    (treeCall file root nodes call).1 ::
      treeAnswers file root (treeCall file root nodes call).2 calls

lemma treeAnswers_defined (file : Stream) (root : Node) (nodes : List Node) (calls : List Call) :
  Answer.undefined ∉ treeAnswers file root nodes calls := by
  induction calls generalizing nodes with
  | nil => exact not_mem_nil
  | cons call calls ih =>
    intro among
    rcases mem_cons.1 among with first | later
    · cases call <;> cases first
    · exact ih _ later

lemma answers_sound (ready : Ready loader) (placed_root : Placed loader.file loader.root)
  (placed : ∀ node ∈ nodes, Placed loader.file node) (sound : CallsSound loader nodes calls) :
  loader.answers nodes calls = treeAnswers loader.file loader.root nodes calls := by
  induction calls generalizing loader nodes with
  | nil => rfl
  | cons call calls ih =>
    rcases sound with ⟨first, later⟩
    rcases call_spec ready placed first with ⟨after, called, reads⟩
    have handed := treeCall_placed placed_root placed call
    have later_answers :=
      ih reads.ready (by rw [reads.file, reads.root]; exact placed_root)
        (by rw [reads.file]; exact handed) (by rw [called] at later; exact later)
    rw [Loader.answers, called, treeAnswers]
    rw [later_answers, reads.file, reads.root]

lemma sound_of_answers (defined : Answer.undefined ∉ loader.answers nodes calls) :
  CallsSound loader nodes calls := by
  induction calls generalizing loader nodes with
  | nil => trivial
  | cons call calls ih =>
    rw [Loader.answers] at defined
    simp only [mem_cons, not_or] at defined
    refine ⟨?_, ih defined.2⟩
    by_contra lost
    exact defined.1 (call_lost lost).symm

lemma sound_direct (ready : Ready cached) (ready' : Ready direct)
  (file : cached.file = direct.file) (root : cached.root = direct.root)
  (bufferSize : cached.bufferSize = direct.bufferSize) (uncached : direct.useCache = false)
  (placed_root : Placed cached.file cached.root)
  (placed : ∀ node ∈ nodes, Placed cached.file node) (sound : CallsSound cached nodes calls) :
  CallsSound direct nodes calls := by
  induction calls generalizing cached direct nodes with
  | nil => trivial
  | cons call calls ih =>
    rcases sound with ⟨first, later⟩
    have grown (size : Nat) : cached.grownBuffer size = direct.grownBuffer size := by
      rw [Loader.grownBuffer, bufferSize, Loader.grownBuffer]
    have first' : CallSound direct nodes call := by
      cases call with
      | getChildNode parent =>
        intro found
        rw [← root]
        exact first found
      | getNextNode prev => trivial
      | getProps node =>
        have takes : cached.Takes (handle nodes node) := first
        show direct.Takes (handle nodes node)
        cases found : handle nodes node with
        | null => trivial
        | node start propsSize type child next =>
          rw [found] at takes
          rcases takes with ⟨fits, int, _⟩
          rw [grown] at fits
          refine ⟨fits, int, fun cached => ?_⟩
          rw [uncached] at cached
          exact Bool.noConfusion cached
    rcases call_spec ready placed first with ⟨after, called, reads⟩
    have placed' : ∀ node ∈ nodes, Placed direct.file node := by
      rw [← file]
      exact placed
    rcases call_spec ready' placed' first' with ⟨after', called', reads'⟩
    have buffers : cached.bufferAfter nodes call = direct.bufferAfter nodes call := by
      cases call with
      | getChildNode parent => exact bufferSize
      | getNextNode prev => exact bufferSize
      | getProps node =>
        show cached.bufferFor (handle nodes node) = direct.bufferFor (handle nodes node)
        cases handle nodes node with
        | null => exact bufferSize
        | node start propsSize type child next => exact grown propsSize
    have handed := treeCall_placed placed_root placed call
    refine ⟨first', ?_⟩
    rw [called] at later
    rw [called', ← file, ← root]
    refine ih reads.ready reads'.ready ?_ ?_ ?_ ?_ ?_ ?_ later
    · rw [reads.file, reads'.file, file]
    · rw [reads.root, reads'.root, root]
    · rw [reads.bufferSize, reads'.bufferSize, buffers]
    · rw [reads'.useCache, uncached]
    · rw [reads.file, reads.root]
      exact placed_root
    · rw [reads.file]
      exact handed

/-! ## Opening a file -/

lemma chosenCacheSize_cases (length : Nat) :
  chosenCacheSize length = 8192 ∨ chosenCacheSize length = 16384 ∨
    chosenCacheSize length = 24576 ∨ chosenCacheSize length = 32768 := by
  have low (wanted : Nat) : wanted &&& 0x1FFF = wanted % 8192 :=
    Nat.and_two_pow_sub_one_eq_mod wanted 13
  simp only [chosenCacheSize, low]
  omega

lemma chosenCacheSize_pos (length : Nat) : 0 < chosenCacheSize length := by
  have sizes := chosenCacheSize_cases length
  omega

lemma Twins.ready (twins : Twins cached direct) (straight : direct.astray = false) :
  Ready cached ∧ Ready direct := by
  refine ⟨⟨fun _ => ⟨twins.valid, twins.positive⟩,
    twins.astray.trans straight⟩, ⟨fun cached => ?_, straight⟩⟩
  rw [twins.uncached] at cached
  exact Bool.noConfusion cached

lemma Aligned.withRoot (aligned : Aligned cached direct) (root : Node) :
  Aligned { cached with root := root } { direct with root := root } :=
  ⟨⟨aligned.useCache, aligned.uncached, aligned.file, rfl,
    aligned.bufferSize, aligned.astray, aligned.positive, aligned.valid⟩,
    aligned.within, aligned.current⟩

structure OpenedAlike (file : Stream) (cached direct : Bool × Loader) : Prop where
  ok : cached.1 = direct.1
  twins : Twins cached.2 direct.2
  astray : direct.2.astray = false
  same_file : direct.2.file = file
  placed : Placed file direct.2.root

def Loader.atRoot (file : Stream) (pos : Nat) : Loader :=
  { file := file, filePos := pos, root := .node 4 0 0 .null .null }

lemma openFile_direct (version : ¬ 0 < readVersion file leftover) :
  openFile file false leftover =
    match (Loader.atRoot file 4).readByte with
    | (none, loader) => (false, loader)
    | (some byte, loader) =>
      if byte = nodeStart then
        let parsed := parseNode (file.length + 1) 4 loader
        (parsed.ok, { parsed.loader with root := parsed.node })
      else (false, loader) := by
  rw [openFile, if_neg version]
  rfl

lemma openFile_cached (long : 4 ≤ file.length) (version : ¬ 0 < readVersion file leftover) :
  ∃ loader, Aligned loader (Loader.atRoot file 4) ∧
    openFile file true leftover =
      match loader.readByte with
      | (none, loader) => (false, loader)
      | (some byte, loader) =>
        if byte = nodeStart then
          let parsed := parseNode (file.length + 1) 4 loader
          (parsed.ok, { parsed.loader with root := parsed.node })
        else (false, loader) := by
  have fresh :
      Twins
        { file := file, useCache := true, cacheSize := chosenCacheSize file.length }
        { file := file } :=
    ⟨rfl, rfl, rfl, rfl, rfl, rfl, chosenCacheSize_pos file.length,
      fun _ loaded => Bool.noConfusion loaded⟩
  rcases safeSeek_twins fresh long with ⟨first, sought, aligned⟩
  have aligned := aligned.withRoot (.node 4 0 0 .null .null)
  rcases safeSeek_twins aligned.toTwins long with ⟨second, sought', aligned'⟩
  refine ⟨second, aligned', ?_⟩
  rw [openFile, if_neg version]
  simp only [if_true, sought, sought']
  all_goals rfl

lemma openFile_alike (long : 4 ≤ file.length) (version : ¬ 0 < readVersion file leftover) :
  OpenedAlike file (openFile file true leftover) (openFile file false leftover) := by
  rcases openFile_cached long version with ⟨loader, aligned, opened⟩
  rcases readByte_aligned aligned with ⟨answer, cached, direct, read, read', aligned'⟩
  have bare := Placed.bare file 4 0
  rw [opened, openFile_direct version, read, read']
  cases stands : file[4]? with
  | none =>
    have ended := @readByte_direct_none (Loader.atRoot file 4) rfl stands
    rw [ended] at read'
    cases read'
    exact ⟨rfl, aligned'.toTwins, rfl, rfl, bare⟩
  | some byte =>
    have taken := @readByte_direct_some (Loader.atRoot file 4) rfl byte stands
    rw [taken] at read'
    cases read'
    have within : 4 < file.length := (List.getElem?_eq_some_iff.1 stands).1
    simp only
    split
    · have alike := parseNode_alike (file.length + 1) 4 _ _ aligned'
      have kept :=
        parseNode_keeps (file.length + 1) 4 ((Loader.atRoot file 4).at 5) rfl
          rfl within (by simp only [Loader.at_file, Loader.at_filePos, Loader.atRoot]; omega)
      rcases kept with ⟨⟨pos, error, same, _, _, _⟩, placed⟩
      have rooted :=
        alike.loader.withRoot (parseNode (file.length + 1) 4 ((Loader.atRoot file 4).at 5)).node
      rw [alike.node]
      refine ⟨alike.ok, rooted.toTwins, ?_, ?_, placed⟩
      · exact congrArg Loader.astray same
      · exact congrArg Loader.file same
    · exact ⟨rfl, aligned'.toTwins, rfl, rfl, bare⟩

lemma basePos_root
  {size : Nat} (sizes : size = 8192 ∨ size = 16384 ∨ size = 24576 ∨ size = 32768) :
  Loader.basePos size 4 = 0 := by
  rcases sizes with size | size | size | size <;> rw [size] <;> rfl

lemma safeSeek_lost (cached : loader.useCache = true) {pos : Nat} (lost : ¬ loader.Reaches pos) :
  ∃ after, loader.safeSeek pos = (false, after) ∧ after.astray = true := by
  rcases Loader.getCacheBlock_lost lost with ⟨after, missing⟩
  refine ⟨after.goAstray, ?_, rfl⟩
  rw [Loader.safeSeek, if_pos cached, missing]

lemma openFile_short (short : ¬ 4 ≤ file.length) (version : ¬ 0 < readVersion file leftover) :
  (openFile file true leftover).2.astray = true := by
  have lost :
      ¬ Loader.Reaches
        { file := file, useCache := true,
          cacheSize := chosenCacheSize file.length } 4 := by
    rintro ((within | base) | ⟨index, loaded, _⟩)
    · exact short within
    · rw [basePos_root (chosenCacheSize_cases file.length)] at base
      exact Nat.noConfusion base
    · exact Bool.noConfusion loaded
  have cached :
      Loader.useCache
        { file := file, useCache := true,
          cacheSize := chosenCacheSize file.length } = true := rfl
  rcases safeSeek_lost cached lost with ⟨after, sought, astray⟩
  rw [openFile, if_neg version]
  simp only [if_true, sought]
  exact astray

/-- Opened with and without caching, the file answers so many calls alike. -/
structure AnswersAlike (file : Stream) (leftover : Nat) (calls : List Call) : Prop where
  ok : (openFile file true leftover).1 = (openFile file false leftover).1
  straight : (openFile file true leftover).2.astray = false
  defined : Answer.undefined ∉ (openFile file true leftover).2.answers [] calls
  same :
    (openFile file true leftover).2.answers [] calls =
      (openFile file false leftover).2.answers [] calls

/--
Both loaders answer alike exactly where the file has the four bytes of a version,
or the version is refused, and each call keeps to the buffer and to the ring.
-/
theorem answers_alike_iff (file : Stream) (leftover : Nat) (calls : List Call) :
  AnswersAlike file leftover calls ↔
    (4 ≤ file.length ∨ 0 < leftover) ∧ CallsSound (openFile file true leftover).2 [] calls := by
  constructor
  · intro alike
    refine ⟨?_, sound_of_answers alike.defined⟩
    by_contra small
    have short : ¬ 4 ≤ file.length := fun long => small (.inl long)
    have version : ¬ 0 < readVersion file leftover := by
      rw [readVersion, if_neg short]
      exact fun some => small (.inr some)
    have astray := openFile_short short version
    rw [alike.straight] at astray
    exact Bool.noConfusion astray
  · rintro ⟨long, sound⟩
    have no_nodes (file : Stream) : ∀ node ∈ ([] : List Node), Placed file node :=
      fun _ among => absurd among not_mem_nil
    by_cases version : 0 < readVersion file leftover
    · have refused (caching : Bool) :
          openFile file caching leftover =
            (false, { file := file, lastError := .invalidFileVersion }) := by
        rw [openFile, if_pos version]
      rw [refused] at sound
      have ready : Ready { file := file, lastError := .invalidFileVersion } :=
        ⟨fun cached => Bool.noConfusion cached, rfl⟩
      have answers := answers_sound ready Placed.null (no_nodes file) sound
      refine ⟨?_, ?_, ?_, ?_⟩
      · rw [refused, refused]
      · rw [refused]
      · rw [refused, answers]
        exact treeAnswers_defined _ _ _ _
      · rw [refused, refused]
    · have enough : 4 ≤ file.length := by
        by_contra short
        rw [readVersion, if_neg short] at version
        exact long.elim short version
      have opened := openFile_alike enough version
      rcases opened.twins.ready opened.astray with ⟨ready, ready'⟩
      have placed' :
          Placed (openFile file false leftover).2.file (openFile file false leftover).2.root := by
        rw [opened.same_file]
        exact opened.placed
      have placed :
          Placed (openFile file true leftover).2.file (openFile file true leftover).2.root := by
        rw [opened.twins.file, opened.twins.root]
        exact placed'
      have sound' :=
        sound_direct ready ready' opened.twins.file opened.twins.root
          opened.twins.bufferSize opened.twins.uncached placed (no_nodes _)
          sound
      have answers := answers_sound ready placed (no_nodes _) sound
      have answers' := answers_sound ready' placed' (no_nodes _) sound'
      refine ⟨opened.ok, opened.twins.astray.trans opened.astray, ?_, ?_⟩
      · rw [answers]
        exact treeAnswers_defined _ _ _ _
      · rw [answers, answers', opened.twins.file, opened.twins.root]

/-- An empty file, and nothing left where its version is read. -/
theorem empty_file_unlike : ¬ AnswersAlike [] 0 [] := by
  intro alike
  have astray : (openFile [] true 0).2.astray = true := by decide
  rw [alike.straight] at astray
  exact Bool.noConfusion astray

end OTServ.NodeFiles
