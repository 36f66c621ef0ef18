import Mathlib.Data.List.Forall2
import OTServ.NodeFiles.CachedReads
import OTServ.NodeFiles.WrittenTrees

/-!
# Node files written and read back

`forestAnswers` is what the calls of the loader should tell of a tree.  A tree
makes the round trip when its saved file opens, with and without caching, and every
sequence of calls gives these answers, so that none goes behind the property
buffer.  `tree_comes_back_iff` finds the trees which do: each type is read back, and no
node has more than 2048 bytes of escaped properties, what the buffer holds after it
has grown once.
-/

namespace OTServ.NodeFiles

open Library.ByteStreams
open Library.Escaping
open List

def Forest.type? : Forest → Option UInt8
  | .nil => none
  | .node type _ _ _ => some type

def Forest.props? : Forest → Option Stream
  | .nil => none
  | .node _ props _ _ => some props

def Forest.children : Forest → Forest
  | .nil => .nil
  | .node _ _ children _ => children

def Forest.next : Forest → Forest
  | .nil => .nil
  | .node _ _ _ next => next

def handleForest (forests : List Forest) (number : Nat) : Forest :=
  forests.getD number .nil

def forestCall (root : Forest) (forests : List Forest) : Call → Answer × List Forest
  | .getChildNode parent =>
    let found :=
      match handleForest forests parent with
      | .nil => root
      | parent => parent.children
    (.node found.type?, forests ++ [found])
  | .getNextNode prev =>
    let found := (handleForest forests prev).next
    (.node found.type?, forests ++ [found])
  | .getProps node => (.props (handleForest forests node).props?, forests)

def forestAnswers (root : Forest) : List Forest → List Call → List Answer
  | _, [] => []
  | forests, call :: calls =>
    (forestCall root forests call).1 :: forestAnswers root (forestCall root forests call).2 calls

/-- The file opens, and all calls give the answers of the tree. -/
structure ReadsBack (file : Stream) (root : Forest) (caching : Bool) (leftover : Nat) : Prop where
  ok : (openFile file caching leftover).1 = true
  answers :
    ∀ calls, (openFile file caching leftover).2.answers [] calls = forestAnswers root [] calls

def RoundTrips (splitting : Splitting) (type : UInt8) (props : Stream) (children : Forest) :
  Prop :=
  ∀ caching leftover,
    ReadsBack (savedFile splitting type props children)
      (.node type props children .nil) caching leftover

/-! ## The parsed tree answers as the written one -/

/-- A node which was handed out, and the forest it stands for. -/
def Stands (file : Stream) (node : Node) (forest : Forest) : Prop :=
  Shows file node forest ∧ Inside file node

section Stands

variable {file : Stream} {node : Node} {forest : Forest}

lemma Stands.null : Stands file .null .nil := ⟨trivial, trivial⟩

section

variable (stands : Stands file node forest)
include stands

lemma Stands.type : node.type? = forest.type? := by
  rcases stands with ⟨shows, _⟩
  cases node <;> cases forest <;> simp_all [Shows, Node.type?, Forest.type?]

lemma Stands.parts :
  node.props file = forest.props? ∧ Stands file node.child forest.children ∧
    Stands file node.next forest.next := by
  rcases stands with ⟨shows, inside⟩
  cases node with
  | null =>
    cases forest with
    | nil => exact ⟨rfl, Stands.null, Stands.null⟩
    | node type props children next => exact shows.elim
  | node start propsSize type child next =>
    cases forest with
    | nil => exact shows.elim
    | node type' props children next' =>
      exact ⟨shows.2.1, ⟨shows.2.2.2.1, inside.2.1⟩, shows.2.2.2.2, inside.2.2⟩

lemma Stands.null_iff : node = .null ↔ forest = .nil := by
  rcases stands with ⟨shows, _⟩
  cases node <;> cases forest <;> simp_all [Shows]

end

variable {nodes : List Node} {forests : List Forest} {root : Node} {root' : Forest}

lemma stands_handle (stands : List.Forall₂ (Stands file) nodes forests) (number : Nat) :
  Stands file (handle nodes number) (handleForest forests number) := by
  induction stands generalizing number with
  | nil => exact Stands.null
  | cons first _ ih =>
    cases number with
    | zero => exact first
    | succ number => exact ih number

lemma stands_call (stands_root : Stands file root root')
  (stands : List.Forall₂ (Stands file) nodes forests) (call : Call) :
  (treeCall file root nodes call).1 = (forestCall root' forests call).1 ∧
    List.Forall₂ (Stands file) (treeCall file root nodes call).2
      (forestCall root' forests call).2 := by
  have handed {found : Node} {found' : Forest}
      (stands_found : Stands file found found') :
      Answer.node found.type? = Answer.node found'.type? ∧
        List.Forall₂ (Stands file) (nodes ++ [found]) (forests ++ [found']) :=
    ⟨congrArg Answer.node stands_found.type, rel_append stands (.cons stands_found .nil)⟩
  cases call with
  | getChildNode parent =>
    have stands_parent := stands_handle stands parent
    simp only [treeCall, forestCall]
    cases found : handle nodes parent with
    | null =>
      rw [found] at stands_parent
      rw [stands_parent.null_iff.1 rfl]
      exact handed stands_root
    | node start propsSize type child next =>
      cases found' : handleForest forests parent with
      | nil =>
        rw [stands_parent.null_iff.2 found'] at found
        cases found
      | node type' props children next' =>
        rw [found, found'] at stands_parent
        exact handed stands_parent.parts.2.1
  | getNextNode prev => exact handed (stands_handle stands prev).parts.2.2
  | getProps node =>
    exact ⟨congrArg Answer.props (stands_handle stands node).parts.1, stands⟩

lemma stands_answers (stands_root : Stands file root root')
  (stands : List.Forall₂ (Stands file) nodes forests) (calls : List Call) :
  treeAnswers file root nodes calls = forestAnswers root' forests calls := by
  induction calls generalizing nodes forests with
  | nil => rfl
  | cons call calls ih =>
    rcases stands_call stands_root stands call with ⟨answer, handed⟩
    rw [treeAnswers, forestAnswers, answer, ih handed]

end Stands

variable {loader : Loader}

lemma calls_sound (ready : Ready loader) (placed_root : Placed loader.file loader.root)
  (some_root : loader.root ≠ .null) {root' : Forest}
  (stands_root : Stands loader.file loader.root root') (buffer : 1024 ≤ loader.bufferSize)
  {nodes : List Node} {forests : List Forest}
  (stands : List.Forall₂ (Stands loader.file) nodes forests)
  (placed : ∀ node ∈ nodes, Placed loader.file node) (calls : List Call) :
  CallsSound loader nodes calls := by
  induction calls generalizing loader nodes forests with
  | nil => trivial
  | cons call calls ih =>
    have grown (size : Nat) : loader.bufferSize ≤ loader.grownBuffer size := by
      rw [Loader.grownBuffer]
      split <;> omega
    have sound : CallSound loader nodes call := by
      cases call with
      | getChildNode parent => exact fun _ => some_root
      | getNextNode prev => trivial
      | getProps node =>
        have stands_node := stands_handle stands node
        show loader.Takes (handle nodes node)
        cases found : handle nodes node with
        | null => trivial
        | node start propsSize type child next =>
          rw [found] at stands_node
          rcases stands_node with ⟨shows, inside⟩
          cases found' : handleForest forests node with
          | nil =>
            rw [found'] at shows
            exact shows.elim
          | node type' props children next' =>
            rw [found'] at shows
            have small := shows.2.2.1
            refine ⟨?_, by omega, fun _ => .inl (.inl inside.1)⟩
            rw [Loader.grownBuffer]
            split <;> omega
    rcases call_spec ready placed sound with ⟨after, called, reads⟩
    have handed := treeCall_placed placed_root placed call
    have stands' := (stands_call stands_root stands call).2
    have buffer' : 1024 ≤ after.bufferSize := by
      rw [reads.bufferSize]
      cases call with
      | getChildNode parent => exact buffer
      | getNextNode prev => exact buffer
      | getProps node =>
        rw [Loader.bufferAfter]
        cases handle nodes node with
        | null => exact buffer
        | node start propsSize type child next =>
          exact Nat.le_trans buffer (grown propsSize)
    refine ⟨sound, ?_⟩
    rw [called]
    refine @ih after reads.ready ?_ ?_ ?_ buffer' _ (forestCall root' forests call).2 ?_ ?_
    · rw [reads.file, reads.root]
      exact placed_root
    · rw [reads.root]
      exact some_root
    · rw [reads.file, reads.root]
      exact stands_root
    · rw [reads.file]
      exact stands'
    · rw [reads.file]
      exact handed

structure Tells (loader : Loader) (root' : Forest) (nodes : List Node) (forests : List Forest) :
  Prop where
  sound : ∀ calls, CallsSound loader nodes calls
  same :
    ∀ calls, treeAnswers loader.file loader.root nodes calls = forestAnswers root' forests calls

section Tells

variable {loader : Loader} {root' : Forest}

variable {nodes : List Node} {type : UInt8}

/-- A call which leaves the loader as it is hands out one more node. -/
lemma Tells.after
  {forests : List Forest} (tells : Tells loader root' nodes forests) {call : Call}
  (called :
    loader.call nodes call =
      ((treeCall loader.file loader.root nodes call).1, loader,
        (treeCall loader.file loader.root nodes call).2)) :
  (treeCall loader.file loader.root nodes call).1 =
      (forestCall root' forests call).1 ∧
    Tells loader root' (treeCall loader.file loader.root nodes call).2
      (forestCall root' forests call).2 := by
  have answers (calls : List Call) := tells.same (call :: calls)
  refine ⟨(List.cons.inj (answers [])).1, fun calls => ?_, fun calls =>
    (List.cons.inj (answers calls)).2⟩
  have sound := (tells.sound (call :: calls)).2
  rw [called] at sound
  exact sound

lemma called_handed (ready : Ready loader) {number start propsSize : Nat} {child next : Node}
  (found : handle nodes number = .node start propsSize type child next) :
  (loader.call nodes (.getChildNode number) = (.node child.type?, loader, nodes ++ [child]) ∧
    treeCall loader.file loader.root nodes (.getChildNode number) =
      (.node child.type?, nodes ++ [child])) ∧
    loader.call nodes (.getNextNode number) = (.node next.type?, loader, nodes ++ [next]) ∧
    treeCall loader.file loader.root nodes (.getNextNode number) =
      (.node next.type?, nodes ++ [next]) := by
  simp only [Loader.call, treeCall, found, Loader.getChildNode, Loader.getNextNode, ready.tells]
  exact ⟨⟨rfl, rfl⟩, rfl, rfl⟩

lemma handle_last (nodes : List Node) (node : Node) :
  handle (nodes ++ [node]) nodes.length = node := by
  rw [handle, getD_eq_getElem?_getD, List.getElem?_concat_length]
  rfl

lemma handleForest_last (forests : List Forest) (forest : Forest) :
  handleForest (forests ++ [forest]) forests.length = forest := by
  rw [handleForest, getD_eq_getElem?_getD, List.getElem?_concat_length]
  rfl

/-- The forest is shown wherever the answers are those about it. -/
def IsShown (loader : Loader) (root' forest : Forest) : Prop :=
  ∀ (nodes : List Node) (forests : List Forest) (number : Nat),
    nodes.length = forests.length →
    Tells loader root' nodes forests →
    (handle nodes number).type? = (handleForest forests number).type? →
    handleForest forests number = forest →
    Shows loader.file (handle nodes number) forest

lemma IsShown.handed {forest : Forest} (shown : IsShown loader root' forest)
  {forests : List Forest} (lengths : nodes.length = forests.length)
  (tells : Tells loader root' nodes forests) {call : Call} {node : Node}
  (called :
    loader.call nodes call = (.node node.type?, loader, nodes ++ [node]) ∧
      treeCall loader.file loader.root nodes call = (.node node.type?, nodes ++ [node]))
  (forest_handed : forestCall root' forests call = (.node forest.type?, forests ++ [forest])) :
  Shows loader.file node forest := by
  rcases tells.after (by rw [called.1, called.2]) with ⟨answer, after⟩
  rw [called.2, forest_handed] at answer after
  have shows :=
    shown (nodes ++ [node]) (forests ++ [forest]) nodes.length
      (by rw [length_append, length_append, lengths]; rfl)
      after
      (by
        rw [handle_last, lengths, handleForest_last]
        exact Answer.node.inj answer)
      (by rw [lengths, handleForest_last])
  rwa [handle_last] at shows

lemma shows_of_tells (ready : Ready loader) (fresh : loader.bufferSize = 1024) (forest : Forest) :
  IsShown loader root' forest := by
  induction forest with
  | nil =>
    intro nodes forests number _ _ type found
    rw [found] at type
    cases node : handle nodes number with
    | null => trivial
    | node start propsSize type' child next =>
      rw [node] at type
      cases type
  | node type props children next children_ih next_ih =>
    intro nodes forests number lengths tells types found
    rw [found] at types
    cases node : handle nodes number with
    | null =>
      rw [node] at types
      cases types
    | node start propsSize type' child next' =>
      rw [node] at types
      have same_type : type' = type := Option.some.inj types
      have read := (List.cons.inj (tells.same [.getProps number])).1
      simp only [treeCall, forestCall, node, found] at read
      have takes := (tells.sound [.getProps number]).1
      have takes : loader.Takes (handle nodes number) := takes
      rw [node] at takes
      have small := takes.1
      rw [Loader.grownBuffer, fresh] at small
      refine ⟨same_type, Answer.props.inj read, ?_, ?_, ?_⟩
      · split at small <;> omega
      · refine children_ih.handed lengths tells (called_handed ready node).1 ?_
        simp only [forestCall, found]
        rfl
      · refine next_ih.handed lengths tells (called_handed ready node).2 ?_
        simp only [forestCall, found]
        rfl

end Tells

/-! ## The round trip -/

section Saved

variable (splitting : Splitting) (type : UInt8) (props : Stream) (children : Forest)

lemma saved_long : 4 ≤ (savedFile splitting type props children).length := by
  rw [savedFile_bytes, length_append]
  exact Nat.le_add_right _ _

lemma saved_version (leftover : Nat) :
  ¬ 0 < readVersion (savedFile splitting type props children) leftover := by
  rw [readVersion, if_pos (saved_long splitting type props children), savedFile_bytes]
  show ¬ 0 < ofLittleEndian [0, 0, 0, 0]
  decide

lemma saved_begun :
  Begun (.node type props children .nil) [0, 0, 0, 0] []
    ((savedFile splitting type props children).length + 1)
    (Loader.atRoot (savedFile splitting type props children) 5) := by
  refine ⟨rfl, ?_, rfl, ?_, .inl rfl⟩
  · rw [append_nil]
    exact savedFile_bytes splitting type props children
  · simp only [Loader.atRoot]
    omega

lemma saved_opened (leftover : Nat) :
    openFile (savedFile splitting type props children) false leftover =
      let parsed :=
        parseNode ((savedFile splitting type props children).length + 1) 4
          (Loader.atRoot (savedFile splitting type props children) 5)
      (parsed.ok, { parsed.loader with root := parsed.node }) := by
  have stands : (savedFile splitting type props children)[4]? = some nodeStart := by
    rw [savedFile_bytes]
    rfl
  rw [openFile_direct (saved_version splitting type props children leftover),
    @readByte_direct_some
      (Loader.atRoot (savedFile splitting type props children) 4) rfl
      nodeStart stands]
  exact if_pos rfl

/-- The saved file as it was opened, with and without caching. -/
structure SavedOpened (opened : Bool × Loader) (parsed : Parsed) : Prop where
  ok : opened.1 = parsed.ok
  file : opened.2.file = savedFile splitting type props children
  root : opened.2.root = parsed.node
  bufferSize : opened.2.bufferSize = 1024
  ready : Ready opened.2
  placed : Placed opened.2.file opened.2.root

lemma saved_file_opened (caching : Bool) (leftover : Nat) :
  SavedOpened splitting type props children
    (openFile (savedFile splitting type props children) caching leftover)
    (parseNode ((savedFile splitting type props children).length + 1) 4
      (Loader.atRoot (savedFile splitting type props children) 5)) := by
  have long := saved_long splitting type props children
  have version := saved_version splitting type props children leftover
  have alike := openFile_alike long version
  have opened := saved_opened splitting type props children leftover
  have begun := saved_begun splitting type props children
  have kept :=
    parseNode_keeps _ 4 (Loader.atRoot (savedFile splitting type props children) 5)
      rfl rfl
      (by
        simp only [Loader.atRoot]
        rw [savedFile_bytes, Forest.bytes]
        simp only [length_append, length_cons]
        omega)
      begun.enough
  rcases kept.moves with ⟨pos, error, moved, _, _, _⟩
  rcases alike.twins.ready alike.astray with ⟨ready, ready'⟩
  have placed' := alike.placed
  have direct_buffer :
      (openFile (savedFile splitting type props children) false leftover).2.bufferSize = 1024 := by
    rw [opened]
    exact congrArg Loader.bufferSize moved
  have direct_root :
      (openFile (savedFile splitting type props children) false
        leftover).2.root =
        (parseNode ((savedFile splitting type props children).length + 1) 4
          (Loader.atRoot (savedFile splitting type props children) 5)).node := by
    rw [opened]
  have direct_ok :
      (openFile (savedFile splitting type props children) false leftover).1 =
        (parseNode ((savedFile splitting type props children).length + 1) 4
          (Loader.atRoot (savedFile splitting type props children) 5)).ok := by
    rw [opened]
  cases caching with
  | false =>
    exact ⟨direct_ok, alike.same_file, direct_root, direct_buffer, ready',
      by rw [alike.same_file]; exact placed'⟩
  | true =>
    exact ⟨alike.ok.trans direct_ok, alike.twins.file.trans alike.same_file,
      alike.twins.root.trans direct_root,
      alike.twins.bufferSize.trans direct_buffer, ready,
      by rw [alike.twins.file, alike.same_file, alike.twins.root]; exact placed'⟩

end Saved

lemma forestAnswers_defined (root : Forest) (forests : List Forest) (calls : List Call) :
  Answer.undefined ∉ forestAnswers root forests calls := by
  induction calls generalizing forests with
  | nil => exact not_mem_nil
  | cons call calls ih =>
    intro among
    rcases mem_cons.1 among with first | later
    · cases call <;> cases first
    · exact ih _ later

lemma reads_back_of_writable (splitting : Splitting) {type : UInt8} {props : Stream}
  {children : Forest} (writable : (Forest.node type props children .nil).Writable)
  (caching : Bool) (leftover : Nat) :
  ReadsBack (savedFile splitting type props children)
    (.node type props children .nil) caching leftover := by
  have opened := saved_file_opened splitting type props children caching leftover
  have made :=
    parses_forest _ writable Forest.noConfusion _ _ _ _ (saved_begun splitting type props children)
  have stands :
      Stands
        (openFile (savedFile splitting type props children) caching leftover).2.file
        (openFile (savedFile splitting type props children) caching leftover).2.root
        (.node type props children .nil) := by
    rw [opened.file, opened.root]
    exact ⟨made.shows, made.inside⟩
  have some_root :
      (openFile (savedFile splitting type props children) caching leftover).2.root ≠ .null := by
    intro none
    exact Forest.noConfusion (stands.null_iff.1 none)
  have no_nodes :
      ∀ node ∈ ([] : List Node),
        Placed (openFile (savedFile splitting type props children) caching leftover).2.file node :=
    fun _ among => absurd among not_mem_nil
  refine ⟨opened.ok.trans made.ok, fun calls => ?_⟩
  have sound :=
    calls_sound opened.ready opened.placed some_root stands
      (Nat.le_of_eq opened.bufferSize.symm) .nil no_nodes calls
  rw [answers_sound opened.ready opened.placed no_nodes sound]
  exact stands_answers stands .nil calls

lemma shows_of_answers (ready : Ready loader) (fresh : loader.bufferSize = 1024)
  (placed : Placed loader.file loader.root) {root : Forest}
  (answers : ∀ calls, loader.answers [] calls = forestAnswers root [] calls) :
  Shows loader.file loader.root root := by
  have no_nodes : ∀ node ∈ ([] : List Node), Placed loader.file node :=
    fun _ among => absurd among not_mem_nil
  have sound (calls : List Call) : CallsSound loader [] calls := by
    apply sound_of_answers
    rw [answers calls]
    exact forestAnswers_defined root [] calls
  have tells : Tells loader root [] [] := by
    refine ⟨sound, fun calls => ?_⟩
    rw [← answers calls, answers_sound ready placed no_nodes (sound calls)]
  have some_root : loader.root ≠ .null := (sound [.getChildNode 0]).1 rfl
  have found : loader.getChildNode .null = (loader.root, loader) := by
    cases root : loader.root with
    | null => exact absurd root some_root
    | node start propsSize type child next =>
      rw [Loader.getChildNode, root]
  have called :
      loader.call [] (.getChildNode 0) = (.node loader.root.type?, loader, [loader.root]) := by
    show (_, _, _) = _
    rw [show handle [] 0 = Node.null from rfl, found, ready.tells]
    rfl
  rcases tells.after called with ⟨answer, after⟩
  exact shows_of_tells ready fresh root [loader.root] [root] 0 rfl after
    (Answer.node.inj answer) rfl

/--
A tree comes back from its file exactly where each type is no special byte, or the
escape byte in front of properties which take in one escape more, and each node has
at most 2048 bytes of escaped properties.
-/
theorem tree_comes_back_iff
  (splitting : Splitting) (type : UInt8) (props : Stream) (children : Forest) :
  RoundTrips splitting type props children ↔
    (Forest.node type props children .nil).Writable := by
  constructor
  · intro trips
    have reads := trips false 0
    have opened := saved_file_opened splitting type props children false 0
    have begun := saved_begun splitting type props children
    have shows := shows_of_answers opened.ready opened.bufferSize opened.placed reads.answers
    rw [opened.file, opened.root] at shows
    have ok := reads.ok
    rw [opened.ok] at ok
    exact demands_forest _ Forest.noConfusion _ _ _ _ begun ok shows
  · intro writable caching leftover
    exact reads_back_of_writable splitting writable caching leftover

/-- A root of type 0xFE, with neither properties nor children. -/
theorem start_type_lost : ¬ RoundTrips .bytewise 0xFE [] .nil := by
  intro trips
  have ok := (trips false 0).ok
  have failed : (openFile (savedFile .bytewise 0xFE [] .nil) false 0).1 = false := by
    decide +kernel
  rw [failed] at ok
  exact Bool.noConfusion ok

end OTServ.NodeFiles
