import Mathlib.Data.List.Nodup
import Mathlib.Data.List.Pairwise
import Mathlib.Data.List.Perm.Subperm

/-!
# Breadth-first numbering

A forest is written out as a list of entries, each with the number of its parent
and a number of its own.  The roots come first; then, for one numbered node
after another, its children.  Nodes which are not inner ones have no entries
below them.

The numbers increase along the list.  The entries below an entry are, in their
order, those of the children of its node.  In a forest every node has one entry,
and there are no more rounds than nodes.
-/

namespace OTServ.Library.Numbering

open List

universe u

variable {Node : Type u}

/-- A node with its number and that of its parent. -/
structure Entry (Node : Type u) where
  parent : Nat
  id : Nat
  node : Node
deriving DecidableEq

/-- Nodes with the numbers of their parents are numbered one by one. -/
def enumerate (last : Nat) : List (Nat × Node) → List (Entry Node)
  | [] => []
  | (parent, node) :: rest =>
    ⟨parent, last + 1, node⟩ :: enumerate (last + 1) rest

def childrenOf (entries : List (Entry Node)) (id : Nat) : List Node :=
  (entries.filter (·.parent = id)).map (·.node)

@[simp]
lemma childrenOf_append (left right : List (Entry Node)) (id : Nat) :
  childrenOf (left ++ right) id = childrenOf left id ++ childrenOf right id := by
  simp [childrenOf]

lemma childrenOf_eq_nil {entries : List (Entry Node)} {id : Nat}
  (others : ∀ entry ∈ entries, entry.parent ≠ id) : childrenOf entries id = [] := by
  rw [childrenOf, map_eq_nil_iff, filter_eq_nil_iff]
  intro entry mem
  simpa using others entry mem

@[simp]
lemma enumerate_length (last : Nat) (nodes : List (Nat × Node)) :
  (enumerate last nodes).length = nodes.length := by
  induction nodes generalizing last with
  | nil => rfl
  | cons first rest ih => simp [enumerate, ih]

@[simp]
lemma enumerate_nodes (last : Nat) (nodes : List (Nat × Node)) :
  (enumerate last nodes).map (·.node) = nodes.map (·.2) := by
  induction nodes generalizing last with
  | nil => rfl
  | cons first rest ih => simp [enumerate, ih]

variable {last : Nat} {nodes : List (Nat × Node)} {entry child : Entry Node} {node : Node}

lemma enumerate_id (mem : entry ∈ enumerate last nodes) :
  last < entry.id ∧ entry.id ≤ last + nodes.length := by
  induction nodes generalizing last with
  | nil => cases mem
  | cons first rest ih =>
    rw [length_cons]
    rcases mem_cons.mp mem with rfl | later
    · exact ⟨by simp, by simp⟩
    · have bounds := ih later
      omega

lemma enumerate_source
  (mem : entry ∈ enumerate last nodes) : (entry.parent, entry.node) ∈ nodes := by
  induction nodes generalizing last with
  | nil => cases mem
  | cons first rest ih =>
    rcases mem_cons.mp mem with rfl | later
    · exact mem_cons_self
    · exact mem_cons_of_mem _ (ih later)

lemma enumerate_mem {parent : Nat} (mem : (parent, node) ∈ nodes) :
  ∃ id, (⟨parent, id, node⟩ : Entry Node) ∈ enumerate last nodes := by
  induction nodes generalizing last with
  | nil => cases mem
  | cons first rest ih =>
    rcases mem_cons.mp mem with rfl | later
    · exact ⟨last + 1, mem_cons_self⟩
    · have given : ∃ id,
          (⟨parent, id, node⟩ : Entry Node) ∈ enumerate (last + 1) rest :=
        ih later
      rcases given with ⟨id, found⟩
      exact ⟨id, mem_cons_of_mem _ found⟩

lemma enumerate_increasing (last : Nat) (nodes : List (Nat × Node)) :
  (enumerate last nodes).Pairwise fun left right => left.id < right.id := by
  induction nodes generalizing last with
  | nil => exact List.Pairwise.nil
  | cons first rest ih =>
    refine pairwise_cons.mpr ⟨?_, ih (last + 1)⟩
    intro entry later
    exact (enumerate_id later).1

def below (children : Node → List Node) (last : Nat) (entry : Entry Node) : List (Entry Node) :=
  enumerate last ((children entry.node).map fun node => (entry.id, node))

section

variable {children : Node → List Node} {last : Nat} {entry : Entry Node}

lemma below_parent (mem : child ∈ below children last entry) : child.parent = entry.id := by
  rcases mem_map.mp (enumerate_source mem) with ⟨node, _, same⟩
  exact (congrArg Prod.fst same).symm

lemma below_node (mem : child ∈ below children last entry) :
  child.node ∈ children entry.node := by
  rcases mem_map.mp (enumerate_source mem) with ⟨node, found, same⟩
  have sameNode : node = child.node := congrArg Prod.snd same
  rw [← sameNode]
  exact found

@[simp]
lemma below_nodes : (below children last entry).map (·.node) = children entry.node := by
  rw [below, enumerate_nodes, map_map]
  exact map_id _

lemma below_id (mem : child ∈ below children last entry) :
  last < child.id ∧ child.id ≤ last + (below children last entry).length := by
  rw [below, enumerate_length]
  exact enumerate_id mem

lemma childrenOf_below :
  childrenOf (below children last entry) entry.id = children entry.node := by
  have all :
      (below children last entry).filter (·.parent = entry.id) = below children last entry := by
    rw [filter_eq_self]
    intro child mem
    simpa using below_parent mem
  rw [childrenOf, all, below_nodes]

end

/-! ## Numbering -/

variable (children : Node → List Node) (inner : Node → Bool)

/-- The entries below those in the queue, the last number given being known. -/
def number : Nat → List (Entry Node) → Nat → Option (List (Entry Node))
  | _, [], _ => some []
  | 0, _ :: _, _ => none
  | fuel + 1, entry :: queue, last =>
    let found := below children last entry
    (number fuel (queue ++ found.filter (inner ·.node)) (last + found.length)).map (found ++ ·)

/-- The entries of a forest whose roots have the given parents. -/
def forest (fuel : Nat) (roots : List (Nat × Node)) (last : Nat) : Option (List (Entry Node)) :=
  let found := enumerate last roots
  (number children inner fuel (found.filter (inner ·.node)) (last + found.length)).map (found ++ ·)

variable {children inner}
variable {fuel last : Nat} {queue entries : List (Entry Node)}

/-- What holds without a queue and is kept by each round holds at the end. -/
@[elab_as_elim]
lemma number_induct {motive : List (Entry Node) → Nat → List (Entry Node) → Prop}
  (nil : ∀ last, motive [] last [])
  (step :
    ∀ fuel first queue last later,
      number children inner fuel
          (queue ++ (below children last first).filter (inner ·.node))
          (last + (below children last first).length) = some later →
        motive
            (queue ++ (below children last first).filter (inner ·.node))
            (last + (below children last first).length) later →
          motive (first :: queue) last (below children last first ++ later))
  (done : number children inner fuel queue last = some entries) : motive queue last entries := by
  induction fuel generalizing queue last entries with
  | zero =>
    cases queue with
    | nil =>
      cases done
      exact nil last
    | cons first queue => cases done
  | succ fuel ih =>
    cases queue with
    | nil =>
      cases done
      exact nil last
    | cons first queue =>
      rcases Option.map_eq_some_iff.mp done with ⟨later, rest, rfl⟩
      exact step fuel first queue last later rest (ih rest)

section

variable (done : number children inner fuel queue last = some entries)
include done

lemma number_id : ∀ entry ∈ entries, last < entry.id := by
  refine number_induct ?_ ?_ done
  · intro last entry mem
    cases mem
  · intro fuel first queue last later rest ih entry mem
    rcases mem_append.mp mem with here | there
    · exact (below_id here).1
    · have bound := ih entry there
      omega

lemma number_increasing : entries.Pairwise fun left right => left.id < right.id := by
  refine number_induct ?_ ?_ done
  · intro last
    exact List.Pairwise.nil
  · intro fuel first queue last later rest ih
    refine pairwise_append.mpr ⟨enumerate_increasing _ _, ih, ?_⟩
    intro left here right there
    have early := (below_id here).2
    have late := number_id rest right there
    omega

end

/-- An entry is known by its number. -/
lemma eq_of_id (increasing : entries.Pairwise fun left right => left.id < right.id)
  {left right : Entry Node} (leftMember : left ∈ entries) (rightMember : right ∈ entries)
  (same : left.id = right.id) : left = right := by
  have nodup : (entries.map (·.id)).Nodup :=
    pairwise_map.mpr (increasing.imp fun less => Nat.ne_of_lt less)
  exact inj_on_of_nodup_map nodup leftMember rightMember same

/-- Every entry is below one of the queue or below an inner one. -/
lemma number_parent (done : number children inner fuel queue last = some entries) :
  ∀ entry ∈ entries,
    (∃ above ∈ queue, above.id = entry.parent) ∨
      ∃ above ∈ entries, inner above.node ∧ above.id = entry.parent := by
  refine number_induct ?_ ?_ done
  · intro last entry mem
    cases mem
  · intro fuel first queue last later rest ih entry mem
    rcases mem_append.mp mem with here | there
    · exact .inl ⟨first, mem_cons_self, (below_parent here).symm⟩
    · rcases ih entry there with ⟨above, waiting, same⟩ | ⟨above, numbered, large, same⟩
      · rcases mem_append.mp waiting with old | new
        · exact .inl ⟨above, mem_cons_of_mem _ old, same⟩
        · rcases mem_filter.mp new with ⟨new, large⟩
          exact .inr ⟨above, mem_append_left _ new, large, same⟩
      · exact .inr ⟨above, mem_append_right _ numbered, large, same⟩

/-- The numbers in a queue, each given once and none of them later. -/
structure Numbered (queue : List (Entry Node)) (last : Nat) : Prop where
  nodup : (queue.map (·.id)).Nodup
  known : ∀ entry ∈ queue, entry.id ≤ last

lemma Numbered.next {first : Entry Node} (numbered : Numbered (first :: queue) last) :
  Numbered
    (queue ++ (below children last first).filter (inner ·.node))
    (last + (below children last first).length) where
  nodup := by
    rw [map_append, nodup_append]
    refine ⟨(nodup_cons.mp numbered.nodup).2, ?_, ?_⟩
    · have increasing :=
        (enumerate_increasing last
          ((children first.node).map fun node => (first.id, node))).filter
          (inner ·.node)
      exact pairwise_map.mpr (increasing.imp fun less => Nat.ne_of_lt less)
    · intro old oldMember new newMember same
      rcases mem_map.mp oldMember with ⟨left, waiting, rfl⟩
      rcases mem_map.mp newMember with ⟨right, found, rfl⟩
      have early := numbered.known left (mem_cons_of_mem _ waiting)
      have late := (below_id (mem_of_mem_filter found)).1
      omega
  known entry member := by
    rcases mem_append.mp member with waiting | found
    · have early := numbered.known entry (mem_cons_of_mem _ waiting)
      omega
    · exact (below_id (mem_of_mem_filter found)).2

section

variable (done : number children inner fuel queue last = some entries)
include done

/-- Numbers are given from the top down. -/
lemma number_downward : Numbered queue last → ∀ entry ∈ entries, entry.parent < entry.id := by
  refine number_induct ?_ ?_ done
  · intro last numbered entry mem
    cases mem
  · intro fuel first queue last later rest ih numbered entry mem
    rcases mem_append.mp mem with here | there
    · rw [below_parent here]
      have known := numbered.known first mem_cons_self
      have late := (below_id here).1
      omega
    · exact ih numbered.next entry there

/-- The entries below an entry are those of the children of its node. -/
lemma number_children :
  Numbered queue last →
    (∀ entry ∈ queue, childrenOf entries entry.id = children entry.node) ∧
    ∀ entry ∈ entries, inner entry.node → childrenOf entries entry.id = children entry.node := by
  refine number_induct ?_ ?_ done
  · intro last numbered
    constructor
    · intro entry mem
      cases mem
    · intro entry mem
      cases mem
  · intro fuel first queue last later rest ih numbered
    rcases ih numbered.next with ⟨waiting, further⟩
    have known := numbered.known first mem_cons_self
    have apart : ∀ entry ∈ queue, entry.id ≠ first.id := by
      intro entry mem same
      exact (nodup_cons.mp numbered.nodup).1 (mem_map.mpr ⟨entry, mem, same⟩)
    have notBelow : ∀ id,
        id ≠ first.id → childrenOf (below children last first) id = [] := by
      intro id other
      refine childrenOf_eq_nil fun child mem => ?_
      rw [below_parent mem]
      exact Ne.symm other
    have notLater : childrenOf later first.id = [] := by
      refine childrenOf_eq_nil fun child mem same => ?_
      rcases number_parent rest child mem with
        ⟨above, queued, sameId⟩ | ⟨above, numberedLater, _, sameId⟩
      · rcases mem_append.mp queued with old | new
        · exact apart above old (sameId.trans same)
        · have late := (below_id (mem_of_mem_filter new)).1
          omega
      · have late := number_id rest above numberedLater
        omega
    constructor
    · intro entry mem
      rw [childrenOf_append]
      rcases mem_cons.mp mem with rfl | old
      · rw [notLater, append_nil]
        exact childrenOf_below
      · rw [notBelow entry.id (apart entry old), nil_append]
        exact waiting entry (mem_append_left _ old)
    · intro entry mem large
      rw [childrenOf_append]
      rcases mem_append.mp mem with here | there
      · have late := (below_id here).1
        rw [notBelow entry.id (by omega), nil_append]
        exact waiting entry (mem_append_right _ (mem_filter.mpr ⟨here, large⟩))
      · have late := number_id rest entry there
        rw [notBelow entry.id (by omega), nil_append]
        exact further entry there large

end

/-- No node is below two others or twice below one. -/
structure IsForest (children : Node → List Node) : Prop where
  nodup : ∀ node, (children node).Nodup
  unique : ∀ left right node, node ∈ children left → node ∈ children right → left = right

/--
How far the numbering has come: the nodes which have been seen, and those whose
children have been numbered.
-/
structure Explored (children : Node → List Node) (queue : List (Entry Node))
  (seen passed : Node → Prop) : Prop where
  nodup : (queue.map (·.node)).Nodup
  waiting : ∀ entry ∈ queue, seen entry.node ∧ ¬ passed entry.node
  earlier : ∀ node, passed node → seen node
  above : ∀ node parent, seen node → node ∈ children parent → passed parent

section

variable {seen passed : Node → Prop} {first : Entry Node}

lemma Explored.fresh (explored : Explored children (first :: queue) seen passed)
  (child : node ∈ children first.node) : ¬ seen node := by
  intro known
  exact (explored.waiting first mem_cons_self).2 (explored.above node first.node known child)

lemma Explored.next
  (isForest : IsForest children) (explored : Explored children (first :: queue) seen passed) :
  Explored children
    (queue ++ (below children last first).filter (inner ·.node))
    (fun node => seen node ∨ node ∈ children first.node)
    (fun node => passed node ∨ node = first.node) where
  nodup := by
    rw [map_append, nodup_append]
    refine ⟨(nodup_cons.mp explored.nodup).2, ?_, ?_⟩
    · have all : ((below children last first).map (·.node)).Nodup := by
        rw [below_nodes]
        exact isForest.nodup first.node
      exact all.sublist (filter_sublist.map _)
    · intro old oldMember new newMember same
      rcases mem_map.mp oldMember with ⟨left, waiting, rfl⟩
      rcases mem_map.mp newMember with ⟨right, found, rfl⟩
      have child := below_node (mem_of_mem_filter found)
      rw [← same] at child
      exact explored.fresh child (explored.waiting left (mem_cons_of_mem _ waiting)).1
  waiting entry member := by
    rcases mem_append.mp member with old | new
    · rcases explored.waiting entry (mem_cons_of_mem _ old) with ⟨known, ahead⟩
      refine ⟨.inl known, ?_⟩
      rintro (gone | same)
      · exact ahead gone
      · exact (nodup_cons.mp explored.nodup).1 (mem_map.mpr ⟨entry, old, same⟩)
    · have child := below_node (mem_of_mem_filter new)
      have unseen := explored.fresh child
      refine ⟨.inr child, ?_⟩
      rintro (gone | same)
      · exact unseen (explored.earlier _ gone)
      · rw [same] at unseen
        exact unseen (explored.waiting first mem_cons_self).1
  earlier node gone := by
    rcases gone with gone | rfl
    · exact .inl (explored.earlier node gone)
    · exact .inl (explored.waiting first mem_cons_self).1
  above node parent known child := by
    rcases known with known | here
    · exact .inl (explored.above node parent known child)
    · exact .inr (isForest.unique parent first.node node child here)

end

/-- Every node has one entry, and none has that was seen before. -/
lemma number_nodes
  (isForest : IsForest children) (done : number children inner fuel queue last = some entries) :
  ∀ seen passed : Node → Prop,
    Explored children queue seen passed →
      (entries.map (·.node)).Nodup ∧ ∀ entry ∈ entries, ¬ seen entry.node := by
  refine number_induct ?_ ?_ done
  · intro last seen passed explored
    refine ⟨nodup_nil, ?_⟩
    intro entry mem
    cases mem
  · intro fuel first queue last later rest ih seen passed explored
    rcases ih _ _ (explored.next isForest) with ⟨nodup, unseen⟩
    constructor
    · rw [map_append, below_nodes, nodup_append]
      refine ⟨isForest.nodup first.node, nodup, ?_⟩
      intro node child other mem same
      rcases mem_map.mp mem with ⟨entry, numbered, rfl⟩
      rw [same] at child
      exact unseen entry numbered (.inr child)
    · intro entry mem known
      rcases mem_append.mp mem with here | there
      · exact explored.fresh (below_node here) known
      · exact unseen entry there (.inl known)

/-- There are no more rounds than nodes. -/
lemma number_ends (isForest : IsForest children) {nodes : List Node}
  (closed : ∀ node ∈ nodes, children node ⊆ nodes) {passed : List Node} {seen : Node → Prop}
  (explored : Explored children queue seen (· ∈ passed))
  (within : ∀ entry ∈ queue, entry.node ∈ nodes) (nodup : passed.Nodup) (inside : passed ⊆ nodes)
  (enough : nodes.length ≤ fuel + passed.length) :
  ∃ entries, number children inner fuel queue last = some entries := by
  induction fuel generalizing queue last passed seen with
  | zero =>
    cases queue with
    | nil => exact ⟨[], rfl⟩
    | cons first queue =>
      have ahead := (explored.waiting first mem_cons_self).2
      have more : (first.node :: passed).length ≤ nodes.length := by
        refine (subperm_of_subset (nodup_cons.mpr ⟨ahead, nodup⟩) ?_).length_le
        exact cons_subset.mpr ⟨within first mem_cons_self, inside⟩
      rw [length_cons] at more
      omega
  | succ fuel ih =>
    cases queue with
    | nil => exact ⟨[], rfl⟩
    | cons first queue =>
      have ahead := (explored.waiting first mem_cons_self).2
      have here := within first mem_cons_self
      have next :
          Explored children
            (queue ++ (below children last first).filter (inner ·.node))
            (fun node => seen node ∨ node ∈ children first.node)
            (fun node => node ∈ passed ∨ node = first.node) :=
        explored.next isForest
      have further :
          Explored children
            (queue ++ (below children last first).filter (inner ·.node))
            (fun node => seen node ∨ node ∈ children first.node)
            (· ∈ first.node :: passed) := by
        refine ⟨next.nodup, ?_, ?_, ?_⟩
        · intro entry mem
          rcases next.waiting entry mem with ⟨known, before⟩
          refine ⟨known, fun gone => before ?_⟩
          exact (mem_cons.mp gone).symm
        · intro node gone
          exact next.earlier node (mem_cons.mp gone).symm
        · intro node parent known child
          exact mem_cons.mpr (next.above node parent known child).symm
      have withinNext : ∀ entry ∈
          queue ++ (below children last first).filter (inner ·.node), entry.node ∈ nodes := by
        intro entry mem
        rcases mem_append.mp mem with old | new
        · exact within entry (mem_cons_of_mem _ old)
        · exact closed first.node here (below_node (mem_of_mem_filter new))
      have rest :
          ∃ later,
            number children inner fuel
                (queue ++ (below children last first).filter (inner ·.node))
                (last + (below children last first).length) =
              some later :=
        ih further withinNext
          (nodup_cons.mpr ⟨ahead, nodup⟩)
          (cons_subset.mpr ⟨here, inside⟩)
          (by rw [length_cons]; omega)
      rcases rest with ⟨later, done⟩
      refine ⟨below children last first ++ later, ?_⟩
      simp only [number, done, Option.map_some]

/-! ## Forests written out -/

structure Written (children : Node → List Node) (roots : List (Nat × Node)) (last : Nat)
  (entries : List (Entry Node)) : Prop where
  increasing : entries.Pairwise fun left right => left.id < right.id
  later : ∀ entry ∈ entries, last < entry.id
  listed : ∀ root ∈ roots, ∃ id, ⟨root.1, id, root.2⟩ ∈ entries
  under : ∀ entry ∈ entries, childrenOf entries entry.id = children entry.node
  above :
    ∀ entry ∈ entries,
      (entry.parent, entry.node) ∈ roots ∨
        ∃ parent ∈ entries, parent.id = entry.parent ∧ entry.node ∈ children parent.node
  downward : ∀ entry ∈ entries, (entry.parent, entry.node) ∈ roots ∨ entry.parent < entry.id
  nodup : (entries.map (·.node)).Nodup

lemma Numbered.roots (last : Nat) (roots : List (Nat × Node)) :
  Numbered ((enumerate last roots).filter (inner ·.node))
    (last + (enumerate last roots).length) where
  nodup := by
    have increasing := (enumerate_increasing last roots).filter (inner ·.node)
    exact pairwise_map.mpr (increasing.imp fun less => Nat.ne_of_lt less)
  known entry member := by
    rw [enumerate_length]
    exact (enumerate_id (mem_of_mem_filter member)).2

lemma Explored.roots {roots : List (Nat × Node)} (nodup : (roots.map (·.2)).Nodup)
  (top : ∀ root ∈ roots, ∀ node, root.2 ∉ children node) :
  Explored children ((enumerate last roots).filter (inner ·.node))
    (· ∈ roots.map (·.2)) (· ∈ []) where
  nodup := by
    have all : ((enumerate last roots).map (·.node)).Nodup := by
      rw [enumerate_nodes]
      exact nodup
    exact all.sublist (filter_sublist.map _)
  waiting entry member := by
    have source := enumerate_source (mem_of_mem_filter member)
    exact ⟨mem_map.mpr ⟨_, source, rfl⟩, not_mem_nil⟩
  earlier node gone := by cases gone
  above node parent known child := by
    rcases mem_map.mp known with ⟨root, member, rfl⟩
    exact absurd child (top root member parent)

/-- A forest among finitely many nodes is numbered. -/
lemma forest_ends (isForest : IsForest children) {nodes : List Node}
  (closed : ∀ node ∈ nodes, children node ⊆ nodes) {roots : List (Nat × Node)}
  (within : ∀ root ∈ roots, root.2 ∈ nodes) (nodup : (roots.map (·.2)).Nodup)
  (top : ∀ root ∈ roots, ∀ node, root.2 ∉ children node) (enough : nodes.length ≤ fuel) :
  ∃ later,
    number children inner fuel
      ((enumerate last roots).filter (inner ·.node))
      (last + (enumerate last roots).length) = some later := by
  have explored :
      Explored children ((enumerate last roots).filter (inner ·.node))
        (· ∈ roots.map (·.2)) (· ∈ []) :=
    Explored.roots nodup top
  have inside : ∀ entry ∈ (enumerate last roots).filter (inner ·.node),
      entry.node ∈ nodes := by
    intro entry mem
    exact within _ (enumerate_source (mem_of_mem_filter mem))
  exact number_ends isForest closed explored inside nodup_nil (nil_subset _) enough

/--
A forest whose roots have old numbers for their parents is written out: each
root and each node below one has its entry.
-/
lemma forest_written
  (isForest : IsForest children) (leaves : ∀ node, inner node = false → children node = [])
  {roots : List (Nat × Node)} (nodup : (roots.map (·.2)).Nodup)
  (top : ∀ root ∈ roots, ∀ node, root.2 ∉ children node) (old : ∀ root ∈ roots, root.1 ≤ last)
  (written : forest children inner fuel roots last = some entries) :
  Written children roots last entries := by
  rcases Option.map_eq_some_iff.mp written with ⟨later, done, rfl⟩
  have explored :
      Explored children ((enumerate last roots).filter (inner ·.node))
        (· ∈ roots.map (·.2)) (· ∈ []) :=
    Explored.roots nodup top
  have numbered :
      Numbered ((enumerate last roots).filter (inner ·.node))
        (last + (enumerate last roots).length) :=
    Numbered.roots last roots
  have lateId := number_id done
  have increasing :
      (enumerate last roots ++ later).Pairwise fun left right => left.id < right.id := by
    refine pairwise_append.mpr ⟨enumerate_increasing _ _, number_increasing done, ?_⟩
    intro left here right there
    have early := (enumerate_id here).2
    have late := lateId right there
    rw [enumerate_length] at late
    omega
  have rootsOnly : ∀ id, last < id →
      childrenOf (enumerate last roots) id = [] := by
    intro id late
    refine childrenOf_eq_nil fun root mem => ?_
    have early := old _ (enumerate_source mem)
    omega
  have leafLater : ∀ entry ∈ enumerate last roots ++ later,
      inner entry.node = false → childrenOf later entry.id = [] := by
    intro entry mem leaf
    refine childrenOf_eq_nil fun child childMember same => ?_
    have alone : ∀ above ∈ enumerate last roots ++ later,
        above.id = child.parent → inner above.node = false := by
      intro above aboveMember sameId
      rw [eq_of_id increasing aboveMember mem (sameId.trans same)]
      exact leaf
    rcases number_parent done child childMember with
      ⟨above, queued, sameId⟩ | ⟨above, further, large, sameId⟩
    · rcases mem_filter.mp queued with ⟨aboveMember, large⟩
      have small := alone above (mem_append_left _ aboveMember) sameId
      rw [small] at large
      cases large
    · have small := alone above (mem_append_right _ further) sameId
      rw [small] at large
      cases large
  have under : ∀ entry ∈ enumerate last roots ++ later,
      childrenOf (enumerate last roots ++ later) entry.id = children entry.node := by
    intro entry mem
    have late : last < entry.id := by
      rcases mem_append.mp mem with here | there
      · exact (enumerate_id here).1
      · have bound := lateId entry there
        omega
    rw [childrenOf_append, rootsOnly entry.id late, nil_append]
    cases size : inner entry.node with
    | false => rw [leafLater entry mem size, leaves entry.node size]
    | true =>
      rcases number_children done numbered with ⟨waiting, further⟩
      rcases mem_append.mp mem with here | there
      · exact waiting entry (mem_filter.mpr ⟨here, size⟩)
      · exact further entry there size
  refine ⟨increasing, ?_, ?_, under, ?_, ?_, ?_⟩
  · intro entry mem
    rcases mem_append.mp mem with here | there
    · exact (enumerate_id here).1
    · have bound := lateId entry there
      omega
  · intro root mem
    have given : ∃ id,
        (⟨root.1, id, root.2⟩ : Entry Node) ∈ enumerate last roots :=
      enumerate_mem mem
    rcases given with ⟨id, found⟩
    exact ⟨id, mem_append_left _ found⟩
  · intro entry mem
    rcases mem_append.mp mem with here | there
    · exact .inl (enumerate_source here)
    · have parent : ∃ above ∈ enumerate last roots ++ later,
          above.id = entry.parent := by
        rcases number_parent done entry there with
          ⟨above, queued, sameId⟩ | ⟨above, further, _, sameId⟩
        · exact ⟨above,
            mem_append_left _ (mem_of_mem_filter queued),
            sameId⟩
        · exact ⟨above, mem_append_right _ further, sameId⟩
      rcases parent with ⟨above, aboveMember, sameId⟩
      refine .inr ⟨above, aboveMember, sameId, ?_⟩
      rw [← under above aboveMember, childrenOf]
      refine mem_map.mpr ⟨entry, mem_filter.mpr ⟨mem, ?_⟩, rfl⟩
      simpa using sameId.symm
  · intro entry mem
    rcases mem_append.mp mem with here | there
    · exact .inl (enumerate_source here)
    · exact .inr (number_downward done numbered entry there)
  · rcases number_nodes isForest done _ _ explored with ⟨nodes, unseen⟩
    rw [map_append, enumerate_nodes, nodup_append]
    refine ⟨nodup, nodes, ?_⟩
    intro node rootMember other mem same
    rcases mem_map.mp mem with ⟨entry, found, rfl⟩
    rw [same] at rootMember
    exact unseen entry found rootMember

end OTServ.Library.Numbering
