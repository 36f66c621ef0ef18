import Mathlib.Algebra.GroupWithZero.Nat
import Mathlib.Data.List.Nodup
import Mathlib.Data.List.Range

/-!
# Trees in level order

The nodes of a forest are numbered level by level with a queue, and each is put
down as a row with its number and that of its parent.  The rows with a given
parent are its children, in their order.

Going through the rows from the last to the first, each thing can be put in front
of what its parent has so far: whatever is below it is already in it.
-/

namespace OTServ.Library.LevelOrder

open List Function

variable {α β : Type}

/-- A thing with its number and that of its parent. -/
structure Numbered (α : Type) where
  number : Nat
  parent : Nat
  thing : α

/-- Things of one parent, with the numbers after the last one given. -/
def numberFrom (last parent : Nat) : List α → List (Numbered α)
  | [] => []
  | thing :: things =>
    ⟨last + 1, parent, thing⟩ :: numberFrom (last + 1) parent things

def childrenIn (rows : List (Numbered α)) (parent : Nat) : List (Numbered α) :=
  rows.filter (·.parent = parent)

section Rows

variable (children : α → List α) (holds : α → Bool)

/-- What is to be numbered later: what is in the things that can hold others. -/
def waiting (numbered : List (Numbered α)) : List (List α × Nat) :=
  (numbered.filter fun row => holds row.thing).map fun row => (children row.thing, row.number)

/-- The rows of what is in the queue, with at most so many turns. -/
def rows : Nat → Nat → List (List α × Nat) → List (Numbered α)
  | 0, _, _ => []
  | _ + 1, _, [] => []
  | turns + 1, last, (things, parent) :: queue =>
    numberFrom last parent things ++
      rows turns (last + things.length)
        (queue ++ waiting children holds (numberFrom last parent things))

/-- The rows are in level order behind the last number and start at the queue. -/
structure InLevelOrder (last : Nat) (queue : List (List α × Nat)) (rows : List (Numbered α)) :
  Prop where
  numbers : rows.map Numbered.number = List.range' (last + 1) rows.length
  queued : ∀ things parent, (things, parent) ∈ queue →
    (childrenIn rows parent).map Numbered.thing = things
  others : ∀ parent ≤ last, parent ∉ queue.map Prod.snd → childrenIn rows parent = []
  inside : ∀ row ∈ rows,
    (childrenIn rows row.number).map Numbered.thing =
      if holds row.thing then children row.thing else []
  linked : ∀ row ∈ rows, row.parent < row.number ∧
    (row.parent ∈ queue.map Prod.snd ∨ ∃ up ∈ rows, up.number = row.parent ∧ holds up.thing)

end Rows

variable {last parent first number : Nat} {things : List α} {row : Numbered α}
  {numbered later : List (Numbered α)} {queue : List (List α × Nat)} {inside : Nat → List β}

section Numbering

lemma numberFrom_length (last parent : Nat) (things : List α) :
  (numberFrom last parent things).length = things.length := by
  induction things generalizing last with
  | nil => rfl
  | cons thing things ih => rw [numberFrom, length_cons, ih]; rfl

lemma numberFrom_numbers (last parent : Nat) (things : List α) :
  (numberFrom last parent things).map Numbered.number =
    List.range' (last + 1) things.length := by
  induction things generalizing last with
  | nil => rfl
  | cons thing things ih =>
    rw [numberFrom, map_cons, ih, length_cons, List.range'_succ]

lemma numberFrom_things (last parent : Nat) (things : List α) :
  (numberFrom last parent things).map Numbered.thing = things := by
  induction things generalizing last with
  | nil => rfl
  | cons thing things ih => rw [numberFrom, map_cons, ih]

lemma numberFrom_append (last parent : Nat) (front back : List α) :
  numberFrom last parent (front ++ back) =
    numberFrom last parent front ++ numberFrom (last + front.length) parent back := by
  induction front generalizing last with
  | nil => rfl
  | cons thing front ih =>
    rw [cons_append, numberFrom, ih, numberFrom, length_cons,
      cons_append, Nat.add_assoc, Nat.add_comm 1]

lemma numberFrom_parent (mem : row ∈ numberFrom last parent things) : row.parent = parent := by
  induction things generalizing last with
  | nil => cases mem
  | cons thing things ih =>
    rcases mem_cons.1 mem with rfl | mem
    · rfl
    · exact ih mem

/-- The numbers of rows whose numbers are consecutive. -/
lemma number_bounds (numbers : numbered.map Numbered.number = List.range' first numbered.length)
  (mem : row ∈ numbered) : first ≤ row.number ∧ row.number < first + numbered.length := by
  have isThere : row.number ∈ numbered.map Numbered.number := mem_map.2 ⟨row, mem, rfl⟩
  rw [numbers, mem_range'_1] at isThere
  exact isThere

lemma childrenIn_append (front back : List (Numbered α)) (parent : Nat) :
  childrenIn (front ++ back) parent = childrenIn front parent ++ childrenIn back parent :=
  filter_append front back

lemma childrenIn_cons_of (isParent : row.parent = parent) (rows : List (Numbered α)) :
  childrenIn (row :: rows) parent = row :: childrenIn rows parent :=
  filter_cons_of_pos (decide_eq_true isParent)

lemma childrenIn_cons_other (ne : row.parent ≠ parent) (rows : List (Numbered α)) :
  childrenIn (row :: rows) parent = childrenIn rows parent :=
  filter_cons_of_neg fun isParent => ne (of_decide_eq_true isParent)

lemma childrenIn_numberFrom (last parent : Nat) (things : List α) :
  childrenIn (numberFrom last parent things) parent = numberFrom last parent things :=
  filter_eq_self.2 fun _ mem => decide_eq_true (numberFrom_parent mem)

lemma childrenIn_numberFrom_other (last : Nat) {other : Nat} (ne : other ≠ parent)
  (things : List α) : childrenIn (numberFrom last parent things) other = [] := by
  refine filter_eq_nil_iff.2 fun row mem isOther => ?_
  rw [decide_eq_true_iff, numberFrom_parent mem] at isOther
  exact ne isOther.symm

end Numbering

/-! ## The rows are in level order -/

section InOrder

variable {children : α → List α} {holds : α → Bool}

lemma mem_waiting :
  (things, number) ∈ waiting children holds numbered ↔
    ∃ row ∈ numbered, holds row.thing ∧ row.number = number ∧ children row.thing = things := by
  rw [waiting, mem_map]
  constructor
  · rintro ⟨row, kept, same⟩
    rcases mem_filter.1 kept with ⟨mem, held⟩
    exact ⟨row, mem, held, congrArg Prod.snd same, congrArg Prod.fst same⟩
  · rintro ⟨row, mem, held, rfl, rfl⟩
    exact ⟨row, mem_filter.2 ⟨mem, held⟩, rfl⟩

lemma mem_waiting_numbers :
  number ∈ (waiting children holds numbered).map Prod.snd ↔
    ∃ row ∈ numbered, holds row.thing ∧ row.number = number := by
  rw [mem_map]
  constructor
  · rintro ⟨⟨things, number⟩, mem, rfl⟩
    rcases mem_waiting.1 mem with ⟨row, isThere, held, same, -⟩
    exact ⟨row, isThere, held, same⟩
  · rintro ⟨row, mem, held, same⟩
    exact ⟨(children row.thing, number), mem_waiting.2 ⟨row, mem, held, same, rfl⟩, rfl⟩

section

variable (numbers : numbered.map Numbered.number = List.range' first numbered.length)
include numbers

lemma waiting_nodup : ((waiting children holds numbered).map Prod.snd).Nodup := by
  have all : (numbered.map Numbered.number).Nodup := numbers ▸ nodup_range'
  rw [waiting, map_map]
  exact List.Nodup.sublist (filter_sublist.map _) all

/-- Two numbers of different rows differ. -/
lemma row_unique {other : Numbered α} (mem : row ∈ numbered) (isThere : other ∈ numbered)
  (same : row.number = other.number) : row = other := by
  have all : (numbered.map Numbered.number).Nodup := numbers ▸ nodup_range'
  exact inj_on_of_nodup_map all mem isThere same

end

/-- One parent's things come first, and what is in them is put at the end. -/
lemma InLevelOrder.cons (below : parent ≤ last ∧ ∀ entry ∈ queue, entry.2 ≤ last)
  (distinct : parent ∉ queue.map Prod.snd)
  (order :
    InLevelOrder children holds (last + things.length)
      (queue ++ waiting children holds (numberFrom last parent things))
      later) :
  InLevelOrder children holds last ((things, parent) :: queue)
    (numberFrom last parent things ++ later) := by
  have numbers := numberFrom_numbers last parent things
  rw [← numberFrom_length last parent things] at numbers
  have bounds {row : Numbered α}
      (mem : row ∈ numberFrom last parent things) :
      last + 1 ≤ row.number ∧ row.number < last + 1 + things.length := by
    have both := number_bounds numbers mem
    rwa [numberFrom_length] at both
  have behind {row : Numbered α} (mem : row ∈ later) : last + things.length + 1 ≤ row.number :=
    (number_bounds order.numbers mem).1
  -- no number of a row is one of those given before
  have notWaiting {number : Nat} (small : number ≤ last) :
      number ∉ (waiting children holds (numberFrom last parent things)).map Prod.snd := by
    intro mem
    rcases mem_waiting_numbers.1 mem with ⟨row, isThere, -, same⟩
    have large := (bounds isThere).1
    omega
  constructor
  · have next : last + things.length + 1 = last + 1 + things.length := by
      omega
    rw [map_append, order.numbers, numberFrom_numbers,
      length_append, numberFrom_length, next, List.range'_append_1]
  · intro others number mem
    rw [childrenIn_append, map_append]
    rcases mem_cons.1 mem with same | isThere
    · cases same
      have none : childrenIn later parent = [] := by
        refine order.others parent (by omega) fun isThere => ?_
        rw [map_append, mem_append] at isThere
        exact isThere.elim distinct (notWaiting below.1)
      rw [childrenIn_numberFrom, none, numberFrom_things]
      exact append_nil things
    · have ne : number ≠ parent := by
        rintro rfl
        exact distinct (mem_map.2 ⟨_, isThere, rfl⟩)
      rw [childrenIn_numberFrom_other last ne]
      exact order.queued others number (mem_append_left _ isThere)
  · intro number small none
    rw [map_cons, mem_cons, not_or] at none
    rw [childrenIn_append, childrenIn_numberFrom_other last none.1]
    refine order.others number (by omega) fun isThere => ?_
    rw [map_append, mem_append] at isThere
    exact isThere.elim none.2 (notWaiting small)
  · intro row mem
    rw [childrenIn_append, map_append]
    rcases mem_append.1 mem with mem | mem
    · have both := bounds mem
      rw [childrenIn_numberFrom_other last (by omega)]
      split
      · rename_i held
        refine order.queued _ _ (mem_append_right _ ?_)
        exact mem_waiting.2 ⟨row, mem, held, rfl, rfl⟩
      · rename_i held
        rw [order.others row.number (by omega)]
        · rfl
        · intro isThere
          rw [map_append, mem_append] at isThere
          rcases isThere with queued | waits
          · rcases mem_map.1 queued with ⟨entry, isThere, same⟩
            have small := below.2 entry isThere
            omega
          · rcases mem_waiting_numbers.1 waits with ⟨other, isThere, holdsOther, same⟩
            rw [row_unique numbers isThere mem same] at holdsOther
            exact held holdsOther
    · have large := behind mem
      rw [childrenIn_numberFrom_other last (by omega)]
      exact order.inside row mem
  · intro row mem
    rcases mem_append.1 mem with mem | mem
    · have both := bounds mem
      have same := numberFrom_parent mem
      refine ⟨by omega, Or.inl ?_⟩
      rw [same]
      exact mem_cons_self
    · rcases order.linked row mem with ⟨less, queued | above⟩
      · refine ⟨less, ?_⟩
        rw [map_append, mem_append] at queued
        rcases queued with queued | waits
        · exact Or.inl (mem_cons_of_mem _ queued)
        · rcases mem_waiting_numbers.1 waits with ⟨up, isThere, held, same⟩
          exact Or.inr ⟨up, mem_append_left _ isThere, same, held⟩
      · rcases above with ⟨up, isThere, same, held⟩
        exact ⟨less, Or.inr ⟨up, mem_append_right _ isThere, same, held⟩⟩

lemma InLevelOrder.nil (last : Nat) : InLevelOrder children holds last [] [] :=
  ⟨rfl, nofun, fun _ _ _ => rfl, nofun, nofun⟩

/-- The numbers go up. -/
lemma InLevelOrder.sorted
  {rows : List (Numbered α)} (order : InLevelOrder children holds last queue rows) :
  rows.Pairwise fun row later => row.number < later.number := by
  have numbers : (rows.map Numbered.number).Pairwise (· < ·) := order.numbers ▸ pairwise_lt_range'
  exact pairwise_map.1 numbers

/-- What holds at the top and of all that is in a thing holds everywhere. -/
lemma InLevelOrder.all {rows : List (Numbered α)} {property : α → Prop}
  (order : InLevelOrder children holds last queue rows)
  (top : ∀ entry ∈ queue, ∀ thing ∈ entry.1, property thing)
  (below : ∀ thing, property thing → ∀ child ∈ children thing, property child)
  (mem : row ∈ rows) : property row.thing := by
  induction number : row.number using Nat.strongRecOn generalizing row with
  | ind number ih =>
    subst number
    rcases order.linked row mem with ⟨less, atTop | ⟨up, isThere, same, held⟩⟩
    · rcases mem_map.1 atTop with ⟨⟨things, parent⟩, isThere, rfl⟩
      have queued := order.queued things row.parent isThere
      refine top _ isThere _ (queued ▸ mem_map.2 ⟨row, ?_, rfl⟩)
      exact mem_filter.2 ⟨mem, decide_eq_true rfl⟩
    · have inside := order.inside up isThere
      rw [if_pos held] at inside
      refine below up.thing (ih _ (same ▸ less) isThere rfl) _ ?_
      refine inside ▸ mem_map.2 ⟨row, ?_, rfl⟩
      exact mem_filter.2 ⟨mem, decide_eq_true same.symm⟩

/-- The rows at the top come first. -/
lemma rows_top (children : α → List α) (holds : α → Bool) (turns : Nat) (things : List α) :
  ∃ later, rows children holds (turns + 1) 0 [(things, 0)] = numberFrom 0 0 things ++ later :=
  ⟨_, rfl⟩

/-- Behind the rows at the top there are no others of them. -/
lemma InLevelOrder.later_parent
  (order : InLevelOrder children holds 0 [(things, 0)] (numberFrom 0 0 things ++ later))
  (mem : row ∈ later) : row.parent ≠ 0 := by
  intro top
  have queued := order.queued things 0 mem_cons_self
  rw [childrenIn_append, childrenIn_numberFrom, map_append, numberFrom_things] at queued
  have none := append_right_eq_self.1 queued
  rw [map_eq_nil_iff] at none
  have isThere : row ∈ childrenIn later 0 := mem_filter.2 ⟨mem, decide_eq_true top⟩
  rw [none] at isThere
  cases isThere

/-! ### Enough turns -/

variable (weight : α → Nat)

def queueWeight (queue : List (List α × Nat)) : Nat :=
  (queue.map fun entry => 1 + (entry.1.map weight).sum).sum

variable {weight}

lemma queueWeight_cons (things : List α) (parent : Nat) (queue : List (List α × Nat)) :
  queueWeight weight ((things, parent) :: queue) =
    1 + (things.map weight).sum + queueWeight weight queue := by
  rfl

lemma queueWeight_append (front back : List (List α × Nat)) :
  queueWeight weight (front ++ back) = queueWeight weight front + queueWeight weight back := by
  rw [queueWeight, map_append, sum_append]
  rfl

variable (lighter : ∀ thing, ((children thing).map weight).sum < weight thing)
include lighter

lemma queueWeight_waiting (last parent : Nat) (things : List α) :
  queueWeight weight
      (waiting children holds (numberFrom last parent things)) ≤
    (things.map weight).sum := by
  induction things generalizing last with
  | nil => exact Nat.le_refl 0
  | cons thing things ih =>
    have more := ih (last + 1)
    have less := lighter thing
    rw [map_cons, sum_cons]
    by_cases held : holds thing
    · have first :
          waiting children holds (numberFrom last parent (thing :: things)) =
            (children thing, last + 1) ::
              waiting children holds (numberFrom (last + 1) parent things) := by
        simp only [waiting, numberFrom, filter_cons, held, if_true, map_cons]
      rw [first, queueWeight_cons]
      omega
    · have first :
          waiting children holds (numberFrom last parent (thing :: things)) =
            waiting children holds (numberFrom (last + 1) parent things) := by
        simp only [waiting, numberFrom, filter_cons, held, if_false, Bool.false_eq_true]
      rw [first]
      omega

/-- With enough turns all things are put down. -/
lemma rows_inLevelOrder {turns : Nat} (enough : queueWeight weight queue ≤ turns)
  (below : ∀ entry ∈ queue, entry.2 ≤ last) (distinct : (queue.map Prod.snd).Nodup) :
  InLevelOrder children holds last queue (rows children holds turns last queue) := by
  induction turns generalizing last queue with
  | zero =>
    cases queue with
    | nil => exact .nil last
    | cons _ queue =>
      rw [queueWeight_cons] at enough
      omega
  | succ turns ih =>
    rcases queue with _ | ⟨⟨things, parent⟩, queue⟩
    · exact .nil last
    · rw [map_cons, nodup_cons] at distinct
      have first := below _ mem_cons_self
      have others : ∀ entry ∈ queue, entry.2 ≤ last :=
        fun entry mem => below entry (mem_cons_of_mem _ mem)
      refine .cons ⟨first, others⟩ distinct.1 (ih ?_ ?_ ?_)
      · have more :
            queueWeight weight
                (waiting children holds (numberFrom last parent things)) ≤
              (things.map weight).sum :=
          queueWeight_waiting lighter last parent things
        rw [queueWeight_cons] at enough
        rw [queueWeight_append]
        omega
      · intro entry mem
        rcases mem_append.1 mem with mem | mem
        · exact Nat.le_trans (others entry mem) (Nat.le_add_right _ _)
        · rcases mem_waiting.1 mem with ⟨row, isThere, -, same, -⟩
          have numbers := numberFrom_numbers last parent things
          rw [← numberFrom_length last parent things] at numbers
          have both := number_bounds numbers isThere
          rw [numberFrom_length] at both
          omega
      · rw [map_append]
        have numbers := numberFrom_numbers last parent things
        rw [← numberFrom_length last parent things] at numbers
        refine nodup_append'.2 ⟨distinct.2, waiting_nodup numbers, ?_⟩
        intro number queued waits
        rcases mem_waiting_numbers.1 waits with ⟨row, isThere, -, same⟩
        rcases mem_map.1 queued with ⟨entry, mem, rfl⟩
        have small := others entry mem
        have large := (number_bounds numbers isThere).1
        omega

end InOrder

/-! ## Putting the things into their parents -/

section Linking

variable (build : Numbered α → List β → β)

/-- What each parent has is built of what its children in the rows have. -/
def Linked (rows : List (Numbered α)) (inside : Nat → List β) : Prop :=
  ∀ parent, parent ≠ 0 →
    inside parent = (childrenIn rows parent).map fun row => build row (inside row.number)

variable {build}

lemma Linked.nil : Linked build ([] : List (Numbered α)) fun _ => [] :=
  fun _ _ => rfl

/-- A row at the top is not put into anything. -/
lemma Linked.top {rows : List (Numbered α)} (linked : Linked build rows inside)
  (top : row.parent = 0) : Linked build (row :: rows) inside := by
  intro parent some
  have other : row.parent ≠ parent := fun same => some (same.symm.trans top)
  rw [linked parent some, childrenIn_cons_other other]

/-- The next row before all others is put in front of what its parent has. -/
lemma Linked.cons {rows : List (Numbered α)} (linked : Linked build rows inside)
  (above : row.parent < row.number) (before : ∀ other ∈ rows, row.number < other.number) :
  Linked build (row :: rows)
    (update inside row.parent (build row (inside row.number) :: inside row.parent)) := by
  -- nothing that was put in before changes
  have kept (number : Nat) (large : row.number ≤ number) :
      update inside row.parent
          (build row (inside row.number) :: inside row.parent)
          number = inside number :=
    update_of_ne (by omega) _ _
  intro parent some
  have same :
      ((childrenIn rows parent).map fun other =>
          build other (update inside row.parent
            (build row (inside row.number) :: inside row.parent)
            other.number)) = inside parent := by
    rw [linked parent some]
    refine map_congr_left fun other mem => ?_
    have isThere := (mem_filter.1 mem).1
    rw [kept other.number (Nat.le_of_lt (before other isThere))]
  by_cases isParent : row.parent = parent
  · subst isParent
    rw [update_self, childrenIn_cons_of rfl, map_cons, kept row.number (Nat.le_refl _), same]
  · rw [update_of_ne (Ne.symm isParent), childrenIn_cons_other isParent, same]

/-- What holds of all children holds of what they are put into. -/
lemma Linked.induction {rows : List (Numbered α)} (linked : Linked build rows inside)
  (numbers : rows.map Numbered.number = List.range' first rows.length)
  (above : ∀ row ∈ rows, row.parent < row.number) (first_pos : first ≠ 0)
  {holds : Numbered α → β → Prop}
  (step : ∀ row ∈ rows,
    (∀ child ∈ childrenIn rows row.number, holds child (build child (inside child.number))) →
    inside row.number = ((childrenIn rows row.number).map
      fun child => build child (inside child.number)) →
    holds row (build row (inside row.number))) (mem : row ∈ rows) :
  holds row (build row (inside row.number)) := by
  suffices all : ∀ more, ∀ row ∈ rows,
      first + rows.length ≤ row.number + more → holds row (build row (inside row.number)) from
    all (first + rows.length) row mem (Nat.le_add_left _ _)
  intro more
  induction more with
  | zero =>
    intro row mem large
    have bounds := number_bounds numbers mem
    omega
  | succ more ih =>
    intro row mem large
    have bounds := number_bounds numbers mem
    refine step row mem (fun child isChild => ?_) (linked row.number (by omega))
    rcases mem_filter.1 isChild with ⟨isThere, isParent⟩
    have less := above child isThere
    have same := of_decide_eq_true isParent
    exact ih child isThere (by omega)

end Linking

end OTServ.Library.LevelOrder
