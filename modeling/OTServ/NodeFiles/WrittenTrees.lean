import OTServ.NodeFiles.Writing

/-!
# The tree which is parsed from a written one

Where the types of a written forest are read, the parser makes the same forest of
its bytes and stops behind them (`parses_forest`).  The other way round, a parse
which goes through and shows the forest has read each of its types and sizes
(`writable_of_parsed`).
-/

namespace OTServ.NodeFiles

open Library.ByteStreams
open Library.Escaping
open List

/-- What may follow a forest in the file: the end of the node above, or nothing. -/
def Ending (tail : Stream) : Prop := tail = [] ∨ ∃ rest, tail = nodeEnd :: rest

structure Begun (forest : Forest) (before tail : Stream) (fuel : Nat) (loader : Loader) :
  Prop where
  direct : loader.useCache = false
  file : loader.file = before ++ (forest.bytes ++ tail)
  here : loader.filePos = before.length + 1
  enough : loader.file.length < fuel + loader.filePos
  ending : Ending tail

structure Made (forest : Forest) (loader : Loader) (pos : Nat) (parsed : Parsed) : Prop where
  ok : parsed.ok = true
  moved : ∃ error, parsed.loader = { loader with filePos := pos, lastError := error }
  shows : Shows loader.file parsed.node forest
  inside : Inside loader.file parsed.node

def Parses (forest : Forest) : Prop :=
  forest ≠ .nil →
    ∀ (before tail : Stream) (fuel : Nat) (loader : Loader),
      Begun forest before tail fuel loader →
      Made forest loader (before.length + forest.bytes.length)
        (parseNode fuel before.length loader)

lemma Forest.bytes_node (type : UInt8) (props : Stream) (children next : Forest) :
  (Forest.node type props children next).bytes =
    [nodeStart, typeByte type] ++
      (nodeBody type props ++ (children.bytes ++ nodeEnd :: next.bytes)) := by
  rw [Forest.bytes, escaped_node]
  rfl

lemma Forest.bytes_start {forest : Forest} (some : forest ≠ .nil) :
  ∃ rest, forest.bytes = nodeStart :: rest := by
  cases forest with
  | nil => exact absurd rfl some
  | node type props children next => exact ⟨_, rfl⟩

/-- The end of a node, with the nodes beside it. -/
lemma parseRest_finish {next : Forest} (parses : Parses next) {before tail : Stream} {fuel : Nat}
  {loader : Loader} (direct : loader.useCache = false)
  (file : loader.file = before ++ (nodeEnd :: (next.bytes ++ tail)))
  (here : loader.filePos = before.length) (enough : loader.file.length < fuel + loader.filePos)
  (ending : Ending tail) (start : Nat) (type : UInt8) (propsSize : Nat) (child : Node)
  (setPropsSize : Bool) :
  ∃ beside error,
    parseRest fuel start type propsSize child setPropsSize loader =
        ⟨true,
          .node start
            (if setPropsSize then propsSize else before.length - start - 2)
            type child beside,
          { loader with
            filePos := before.length + (1 + next.bytes.length)
            lastError := error }⟩ ∧
      Shows loader.file beside next ∧ Inside loader.file beside := by
  have long := congrArg List.length file
  simp only [length_append, length_cons] at long
  have stands : loader.file[loader.filePos]? = some nodeEnd := by
    rw [here]
    exact getElem?_after file
  have file' : loader.file = (before ++ [nodeEnd]) ++ (next.bytes ++ tail) := by
    rw [file, append_assoc]
    rfl
  have place : (before ++ [nodeEnd]).length = before.length + 1 := by
    rw [length_append, length_singleton]
  cases fuel with
  | zero => omega
  | succ fuel =>
    rw [parseRest_end direct stands, here]
    by_cases some : next = .nil
    · subst some
      rcases ending with rfl | ⟨rest, rfl⟩
      · have last : loader.file[before.length + 1]? = none := by
          rw [List.getElem?_eq_none_iff, long]
          exact Nat.le_refl _
        rw [last]
        exact ⟨.null, .eof, rfl, trivial, trivial⟩
      · have last : loader.file[before.length + 1]? = some nodeEnd := by
          rw [← place]
          exact getElem?_after file'
        rw [last]
        exact ⟨.null, loader.lastError, rfl, trivial, trivial⟩
    · rcases Forest.bytes_start some with ⟨rest, starts⟩
      have first : loader.file[before.length + 1]? = Option.some nodeStart := by
        rw [starts] at file'
        rw [← place]
        exact getElem?_after file'
      have begun : Begun next (before ++ [nodeEnd]) tail fuel (loader.at (before.length + 2)) :=
        ⟨direct, file', by rw [Loader.at_filePos, place],
          by simp only [Loader.at_file, Loader.at_filePos]; omega, ending⟩
      have made := parses some _ _ _ _ begun
      rw [place] at made
      rcases made.moved with ⟨error, moved⟩
      rw [first]
      simp only [if_true, made.ok, moved]
      refine ⟨_, error, ?_, made.shows, made.inside⟩
      rw [Nat.add_assoc]
      rfl

/-- From the end of the properties on: the children, the end and what is beside. -/
lemma parseRest_family
  {children next : Forest} (parses : Parses children) (parses_next : Parses next)
  {before tail : Stream} {fuel : Nat} {loader : Loader} (direct : loader.useCache = false)
  (file : loader.file = before ++ (children.bytes ++ (nodeEnd :: (next.bytes ++ tail))))
  (here : loader.filePos = before.length) (enough : loader.file.length < fuel + loader.filePos)
  (ending : Ending tail) (start : Nat) (type : UInt8) :
  ∃ child beside error,
    parseRest fuel start type 0 .null false loader =
        ⟨true,
          .node start (before.length - start - 2) type child beside,
          { loader with
            filePos := before.length + children.bytes.length + (1 + next.bytes.length)
            lastError := error }⟩ ∧
      Shows loader.file child children ∧ Inside loader.file child ∧
      Shows loader.file beside next ∧ Inside loader.file beside := by
  by_cases none : children = .nil
  · subst none
    rcases parseRest_finish parses_next direct file here enough ending start
        type 0 .null false with ⟨beside, error, finished, shows, inside⟩
    exact ⟨.null, beside, error, finished, trivial, trivial, shows, inside⟩
  rcases Forest.bytes_start none with ⟨rest, starts⟩
  have long := congrArg List.length file
  simp only [length_append, length_cons] at long
  cases fuel with
  | zero => omega
  | succ fuel =>
    have stands : loader.file[loader.filePos]? = some nodeStart := by
      rw [starts] at file
      rw [here]
      exact getElem?_after file
    have begun :
        Begun children before (nodeEnd :: (next.bytes ++ tail)) fuel
          (loader.at (before.length + 1)) :=
      ⟨direct, file, rfl, by simp only [Loader.at_file, Loader.at_filePos]; omega, .inr ⟨_, rfl⟩⟩
    have made := parses none _ _ _ _ begun
    rw [parseRest_inner direct here stands made.ok]
    rcases made.moved with ⟨error, moved⟩
    have end_file :
        loader.file = (before ++ children.bytes) ++ (nodeEnd :: (next.bytes ++ tail)) := by
      rw [file, append_assoc]
    have end_place :
        before.length + children.bytes.length = (before ++ children.bytes).length := by
      rw [length_append]
    have behind : loader.file.length < fuel + (before.length + children.bytes.length) := by
      have some_bytes : 0 < children.bytes.length := by
        rw [starts]
        exact Nat.succ_pos _
      omega
    rcases @parseRest_finish next parses_next (before ++ children.bytes) tail
        fuel
        { loader with
          filePos := before.length + children.bytes.length
          lastError := error }
        direct end_file end_place behind ending start type
        (before.length - start - 2)
        (parseNode fuel before.length (loader.at (before.length + 1))).node
        true with
      ⟨beside, error', finished, shows, inside⟩
    rw [← end_place] at finished
    refine ⟨_, beside, error', ?_, made.shows, made.inside, shows, inside⟩
    rw [moved]
    exact finished

variable {type : UInt8} {props : Stream}

/-- The type and the properties of a written node are read over. -/
lemma parseNode_head {children next : Forest} {before tail : Stream} {fuel : Nat}
  {loader : Loader} (begun : Begun (.node type props children next) before tail fuel loader)
  {body rest : Stream} (whole : specialBytes.Body body)
  (file : loader.file = before ++ [nodeStart, typeByte type] ++ (body ++ rest)) :
  ∃ left,
    loader.file.length < left + (before.length + 2 + body.length) ∧
      parseNode fuel before.length loader =
        parseRest left before.length (typeByte type) 0 .null false
          (loader.at (before.length + 2 + body.length)) := by
  have long := congrArg List.length file
  simp only [length_append, length_cons, length_nil] at long
  have here := begun.here
  have enough := begun.enough
  have place : (before ++ [nodeStart, typeByte type]).length = before.length + 2 := by
    rw [length_append]
    rfl
  have stands : loader.file[loader.filePos]? = some (typeByte type) := by
    have type_file :
        loader.file = (before ++ [nodeStart]) ++ (typeByte type :: (body ++ rest)) := by
      rw [file]
      simp only [append_assoc, cons_append, nil_append]
    have type_place : loader.filePos = (before ++ [nodeStart]).length := by
      rw [here, length_append, length_singleton]
    rw [type_place]
    exact getElem?_after type_file
  cases fuel with
  | zero => omega
  | succ fuel =>
    rw [parseNode_some begun.direct stands]
    rcases @parseRest_body body rest whole
        (before ++ [nodeStart, typeByte type]) fuel
        (loader.at (loader.filePos + 1)) before.length (typeByte type) 0 .null
        false begun.direct file
        (by rw [Loader.at_filePos, here, place])
        (by simp only [Loader.at_file, Loader.at_filePos]; omega) with
      ⟨left, left_enough, _, parsed⟩
    rw [place] at left_enough parsed
    exact ⟨left, left_enough, parsed⟩

lemma written_file {children next : Forest} {before tail : Stream} {fuel : Nat} {loader : Loader}
  (begun : Begun (.node type props children next) before tail fuel loader) :
  loader.file =
    before ++ [nodeStart, typeByte type] ++
      (nodeBody type props ++ (children.bytes ++ (nodeEnd :: (next.bytes ++ tail)))) := by
  rw [begun.file, Forest.bytes_node]
  simp only [append_assoc, cons_append, nil_append]

lemma parses_forest (forest : Forest) (writable : forest.Writable) : Parses forest := by
  induction forest with
  | nil => exact fun some => absurd rfl some
  | node type props children next children_ih next_ih =>
    rcases writable with ⟨reads, short, children_writable, next_writable⟩
    intro _ before tail fuel loader begun
    rcases nodeBody_body reads with ⟨whole, means⟩
    have file := written_file begun
    rcases parseNode_head begun whole file with ⟨left, enough, parsed⟩
    have place :
        before.length + 2 + (nodeBody type props).length =
          (before ++ [nodeStart, typeByte type] ++ nodeBody type props).length := by
      simp only [length_append, length_cons, length_nil]
    have head_place : (before ++ [nodeStart, typeByte type]).length = before.length + 2 := by
      rw [length_append]
      rfl
    rcases @parseRest_family children next (children_ih children_writable)
        (next_ih next_writable)
        (before ++ [nodeStart, typeByte type] ++ nodeBody type props) tail
        left (loader.at (before.length + 2 + (nodeBody type props).length))
        begun.direct
        (by rw [Loader.at_file, file]; simp only [append_assoc])
        place enough begun.ending before.length (typeByte type) with
      ⟨child, beside, error, finished, shown, inside, shown', inside'⟩
    have size :
        before.length + 2 + (nodeBody type props).length - before.length - 2 =
          (nodeBody type props).length := by
      omega
    rw [parsed, finished, ← place, size, typeByte_eq reads]
    refine ⟨rfl, ⟨error, ?_⟩, ⟨rfl, ?_, short, shown, shown'⟩, ⟨?_, inside, inside'⟩⟩
    · rw [Forest.bytes_node]
      simp only [Loader.at, length_append, length_cons, length_nil]
      congr 1
      omega
    · rw [← head_place, slice_between file]
      exact means
    · rw [file]
      simp only [length_append, length_cons, length_nil]
      omega

/-! ## What a parse which shows the forest has read -/

/-- A parse which goes through and shows the forest has read all its types. -/
def Demands (forest : Forest) : Prop :=
  forest ≠ .nil →
    ∀ (before tail : Stream) (fuel : Nat) (loader : Loader),
      Begun forest before tail fuel loader →
      (parseNode fuel before.length loader).ok = true →
      Shows loader.file (parseNode fuel before.length loader).node forest →
      forest.Writable

section Ended

variable {loader : Loader} {fuel start propsSize : Nat} {type : UInt8} {child : Node}
  {setPropsSize : Bool}

section

variable (direct : loader.useCache = false)
include direct

lemma parseRest_end_node (stands : loader.file[loader.filePos]? = some nodeEnd) :
  ∃ beside,
    (parseRest (fuel + 1) start type propsSize child setPropsSize
        loader).node =
      .node start
        (if setPropsSize then propsSize else loader.filePos - start - 2)
        type child beside := by
  rw [parseRest_end direct stands]
  cases next : loader.file[loader.filePos + 1]? with
  | none => exact ⟨_, rfl⟩
  | some byte =>
    simp only
    split
    · exact ⟨_, rfl⟩
    · split <;> exact ⟨_, rfl⟩

/-- What is beside a node is a parse of its own. -/
lemma parseRest_end_beside (stands : loader.file[loader.filePos]? = some nodeEnd)
  (next : loader.file[loader.filePos + 1]? = some nodeStart) :
  parseRest (fuel + 1) start type propsSize child setPropsSize loader =
    ⟨(parseNode fuel (loader.filePos + 1)
        (loader.at (loader.filePos + 2))).ok,
      .node start
        (if setPropsSize then propsSize else loader.filePos - start - 2)
        type child
        (parseNode fuel (loader.filePos + 1) (loader.at (loader.filePos + 2))).node,
      (parseNode fuel (loader.filePos + 1) (loader.at (loader.filePos + 2))).loader⟩ := by
  rw [parseRest_end direct stands, next]
  simp only [if_true]

/-- The children of a node which was parsed are a parse of their own. -/
lemma parseRest_start_node (stands : loader.file[loader.filePos]? = some nodeStart)
  (enough : loader.file.length < fuel + 1 + loader.filePos)
  (ok : (parseRest (fuel + 1) start type propsSize child setPropsSize loader).ok = true) :
  (parseNode fuel loader.filePos (loader.at (loader.filePos + 1))).ok =
      true ∧
    ∃ beside,
      (parseRest (fuel + 1) start type propsSize child setPropsSize
          loader).node =
        .node start (loader.filePos - start - 2) type
          (parseNode fuel loader.filePos (loader.at (loader.filePos + 1))).node
          beside := by
  have inner_ok : (parseNode fuel loader.filePos (loader.at (loader.filePos + 1))).ok = true := by
    by_contra failed
    rw [parseRest_inner_failed direct rfl stands failed] at ok
    exact Bool.noConfusion ok
  have within : loader.filePos < loader.file.length := (List.getElem?_eq_some_iff.1 stands).1
  have kept :=
    parseNode_keeps fuel loader.filePos (loader.at (loader.filePos + 1)) direct
      rfl within (by simp only [Loader.at_file, Loader.at_filePos]; omega)
  rcases kept.moves with ⟨after, error, same, forward, inside, before⟩
  rw [parseRest_inner direct rfl stands inner_ok, same] at ok ⊢
  refine ⟨inner_ok, ?_⟩
  cases fuel with
  | zero => omega
  | succ fuel =>
    rcases before inner_ok with missing | ending
    · rw [@parseRest_none
        { loader.at (loader.filePos + 1) with
          filePos := after
          lastError := error } _ _ _ _ _ _
        direct missing] at ok
      exact Bool.noConfusion ok
    · exact @parseRest_end_node
        { loader.at (loader.filePos + 1) with
          filePos := after
          lastError := error } _ _ _ _ _ true
        direct ending

lemma begun_next {next : Forest} {before tail : Stream}
  (file : loader.file = before ++ (nodeEnd :: (next.bytes ++ tail)))
  (here : loader.filePos = before.length)
  (enough : loader.file.length < fuel + 1 + loader.filePos) (ending : Ending tail) :
  Begun next (before ++ [nodeEnd]) tail fuel (loader.at (loader.filePos + 2)) := by
  refine ⟨direct, ?_, ?_, ?_, ending⟩
  · rw [Loader.at_file, file, append_assoc]
    rfl
  · rw [Loader.at_filePos, here, length_append, length_singleton]
  · simp only [Loader.at_file, Loader.at_filePos]
    omega

end

/-- The nodes beside a node, from the node which was parsed. -/
lemma writable_next {next : Forest} (demands : Demands next) {before tail : Stream}
  (direct : loader.useCache = false)
  (file : loader.file = before ++ (nodeEnd :: (next.bytes ++ tail)))
  (here : loader.filePos = before.length)
  (enough : loader.file.length < fuel + 1 + loader.filePos) (ending : Ending tail)
  (ok : (parseRest (fuel + 1) start type propsSize child setPropsSize loader).ok = true)
  (shows :
    Shows loader.file
      (parseRest (fuel + 1) start type propsSize child setPropsSize loader).node.next next) :
  next.Writable := by
  by_cases last : next = .nil
  · rw [last]
    trivial
  have stands : loader.file[loader.filePos]? = some nodeEnd := by
    rw [here]
    exact getElem?_after file
  have begun := begun_next direct file here enough ending
  have place : (before ++ [nodeEnd]).length = loader.filePos + 1 := by
    rw [length_append, length_singleton, here]
  have starts : loader.file[loader.filePos + 1]? = some nodeStart := by
    rcases Forest.bytes_start last with ⟨rest, starts⟩
    have file' := begun.file
    rw [starts] at file'
    rw [← place]
    exact getElem?_after file'
  rw [parseRest_end_beside direct stands starts] at ok shows
  refine demands last _ _ _ _ begun ?_ ?_
  · rw [place]
    exact ok
  · rw [place]
    exact shows

/-- The children and what is beside, from the node which was parsed. -/
lemma writable_family {children next : Forest} (demands : Demands children)
  (demands_next : Demands next) {before tail : Stream} (direct : loader.useCache = false)
  (file : loader.file = before ++ (children.bytes ++ (nodeEnd :: (next.bytes ++ tail))))
  (here : loader.filePos = before.length)
  (enough : loader.file.length < fuel + 1 + loader.filePos) (ending : Ending tail)
  (ok : (parseRest (fuel + 1) start type 0 .null false loader).ok = true)
  (shows :
    Shows loader.file
      (parseRest (fuel + 1) start type 0 .null false loader).node.child
      children)
  (shows_next :
    Shows loader.file
      (parseRest (fuel + 1) start type 0 .null false loader).node.next
      next) : children.Writable ∧ next.Writable := by
  by_cases none : children = .nil
  · subst none
    exact ⟨trivial, writable_next demands_next direct file here enough ending ok shows_next⟩
  rcases Forest.bytes_start none with ⟨rest, starts⟩
  have stands : loader.file[loader.filePos]? = some nodeStart := by
    rw [starts] at file
    rw [here]
    exact getElem?_after file
  have begun :
      Begun children before (nodeEnd :: (next.bytes ++ tail)) fuel
        (loader.at (before.length + 1)) :=
    ⟨direct, file, rfl, by simp only [Loader.at_file, Loader.at_filePos]; omega, .inr ⟨_, rfl⟩⟩
  rcases parseRest_start_node direct stands enough ok with ⟨inner_ok, beside, node⟩
  rw [here] at inner_ok
  have children_writable : children.Writable := by
    refine demands none _ _ _ _ begun inner_ok ?_
    rw [node, here] at shows
    exact shows
  refine ⟨children_writable, ?_⟩
  have made := parses_forest children children_writable none _ _ _ _ begun
  rcases made.moved with ⟨error, moved⟩
  rw [parseRest_inner direct here stands inner_ok, moved] at ok shows_next
  have end_file :
      loader.file = (before ++ children.bytes) ++ (nodeEnd :: (next.bytes ++ tail)) := by
    rw [file, append_assoc]
  have long := congrArg List.length file
  simp only [length_append, length_cons] at long
  have some_bytes : 0 < children.bytes.length := by
    rw [starts]
    exact Nat.succ_pos _
  cases fuel with
  | zero => omega
  | succ fuel =>
    refine @writable_next
      { loader with
        filePos := before.length + children.bytes.length
        lastError := error }
      fuel start (before.length - start - 2) type _ true next demands_next
      (before ++ children.bytes) tail direct end_file ?_ ?_ ending ok
      shows_next
    · rw [length_append]
    · simp only
      omega

end Ended

lemma parseRest_open {before rest : Stream} {fuel : Nat} {loader : Loader}
  (direct : loader.useCache = false) (file : loader.file = before ++ rest)
  (open_end : rest = [] ∨ rest = [escapeChar]) (here : loader.filePos = before.length)
  (enough : loader.file.length < fuel + loader.filePos) (start : Nat) (type : UInt8) :
  (parseRest fuel start type 0 .null false loader).ok = false := by
  have long := congrArg List.length file
  rw [length_append] at long
  cases fuel with
  | zero => omega
  | succ fuel =>
    rcases open_end with rfl | rfl
    · have missing : loader.file[loader.filePos]? = none := by
        rw [List.getElem?_eq_none_iff, long, here]
        exact Nat.le_refl _
      rw [parseRest_none direct missing]
    · have stands : loader.file[loader.filePos]? = some escapeChar := by
        rw [here]
        exact getElem?_after file
      have missing : loader.file[loader.filePos + 1]? = none := by
        rw [List.getElem?_eq_none_iff, long, here]
        exact Nat.le_refl _
      rw [parseRest_escape direct stands, missing]

lemma family_stop (children : Forest) (rest : Stream) :
  ∃ stop more, specialBytes.stops stop = true ∧
    children.bytes ++ (nodeEnd :: rest) = stop :: more := by
  by_cases none : children = .nil
  · subst none
    exact ⟨nodeEnd, rest, rfl, rfl⟩
  · rcases Forest.bytes_start none with ⟨bytes, starts⟩
    exact ⟨nodeStart, bytes ++ (nodeEnd :: rest), rfl, by rw [starts]; rfl⟩

lemma reads_of_split
  {body : Stream} (whole : specialBytes.Body body) {stop stop' : UInt8} {rest rest' : Stream}
  (stops : specialBytes.stops stop = true) (stops' : specialBytes.stops stop' = true)
  (same : nodeBody type props ++ stop :: rest = body ++ stop' :: rest')
  (kept : typeByte type = type) (means : specialBytes.unescaped body = some props) :
  TypeReads type props ∧ body = nodeBody type props ∧ stop' :: rest' = stop :: rest := by
  have reads : TypeReads type props := by
    intro special
    rw [typeByte, if_pos special] at kept
    rw [nodeBody, if_pos special, ← kept] at same
    exact ⟨kept.symm, Marks.absorbs_of_read whole stops' same means⟩
  rcases Marks.Body.split_unique (nodeBody_body reads).1 whole stops stops' same
    with ⟨equal, stop_equal, rest_equal⟩
  exact ⟨reads, equal.symm, by rw [stop_equal, rest_equal]⟩

lemma demands_forest (forest : Forest) : Demands forest := by
  induction forest with
  | nil => exact fun some => absurd rfl some
  | node type props children next children_ih next_ih =>
    intro _ before tail fuel loader begun ok shows
    have file := written_file begun
    rcases family_stop children (next.bytes ++ tail) with ⟨stop, more, stops, family⟩
    rcases specialBytes.split_or_open
        (nodeBody type props ++ (children.bytes ++ (nodeEnd :: (next.bytes ++ tail)))) with
      ⟨body, whole, found⟩
    have found' :
        ∃ rest,
          nodeBody type props ++
              (children.bytes ++ (nodeEnd :: (next.bytes ++ tail))) =
            body ++ rest ∧
            (rest = [] ∨ rest = [escapeChar] ∨
              ∃ stop' more', specialBytes.stops stop' = true ∧ rest = stop' :: more') := by
      rcases found with same | same | ⟨stop', more', stops', same⟩
      · exact ⟨[], by rw [same, append_nil], .inl rfl⟩
      · exact ⟨_, same, .inr (.inl rfl)⟩
      · exact ⟨_, same, .inr (.inr ⟨stop', more', stops', rfl⟩)⟩
    rcases found' with ⟨rest, same, found⟩
    rw [same] at file
    rcases parseNode_head begun whole file with ⟨left, enough, parsed⟩
    have place :
        before.length + 2 + body.length =
          (before ++ [nodeStart, typeByte type] ++ body).length := by
      simp only [length_append, length_cons, length_nil]
    have head_place : (before ++ [nodeStart, typeByte type]).length = before.length + 2 := by
      rw [length_append]
      rfl
    have rest_file : loader.file = before ++ [nodeStart, typeByte type] ++ body ++ rest := by
      rw [file]
      simp only [append_assoc]
    have long := congrArg List.length rest_file
    rw [length_append, ← place] at long
    rw [parsed] at ok shows
    rcases or_assoc.2 found with open_end | ⟨stop', more', stops', rfl⟩
    · rw [@parseRest_open _ rest left
        (loader.at (before.length + 2 + body.length)) begun.direct rest_file
        open_end place enough] at ok
      exact Bool.noConfusion ok
    cases left with
    | zero =>
      omega
    | succ left =>
      have stands : loader.file[before.length + 2 + body.length]? = some stop' := by
        rw [place]
        exact getElem?_after rest_file
      have size : before.length + 2 + body.length - before.length - 2 = body.length := by
        omega
      have node :
          ∃ child beside,
            (parseRest (left + 1) before.length (typeByte type) 0 .null
                false
                (loader.at (before.length + 2 + body.length))).node =
              .node before.length body.length (typeByte type) child beside := by
        rcases stops_specialBytes.1 stops' with rfl | rfl
        · rcases @parseRest_start_node
            (loader.at (before.length + 2 + body.length)) _ _ _ _ _ _
            begun.direct stands enough ok with ⟨_, beside, node⟩
          rw [Loader.at_filePos, size] at node
          exact ⟨_, beside, node⟩
        · rcases @parseRest_end_node
            (loader.at (before.length + 2 + body.length)) left
            before.length 0 (typeByte type) .null false begun.direct
            stands with ⟨beside, node⟩
          rw [Loader.at_filePos, if_neg Bool.false_ne_true, size] at node
          exact ⟨_, beside, node⟩
      rcases node with ⟨child, beside, node⟩
      have shown := shows
      rw [node] at shown
      rcases shown with ⟨kept, means, short, shows_child, shows_beside⟩
      rw [← head_place, slice_between file] at means
      rw [family] at same
      rcases reads_of_split whole stops stops' same kept means with ⟨reads, rfl, rest_same⟩
      rw [rest_same, ← family] at rest_file
      have family_writable :=
        @writable_family
          (loader.at (before.length + 2 + (nodeBody type props).length))
          left before.length (typeByte type) children next children_ih
          next_ih _ tail begun.direct rest_file place enough begun.ending ok
          (by rw [node]; exact shows_child)
          (by rw [node]; exact shows_beside)
      exact ⟨reads, short, family_writable⟩

end OTServ.NodeFiles
