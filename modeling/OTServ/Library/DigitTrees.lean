import Mathlib.Tactic.Common

/-!
# Trees of digits

The branches of a tree go by digits, and its leaves lie at the ends of keys.  All
the leaves of an even tree are equally deep.  A leaf is planted at a key along
with the branches that are missing on the way; what is there already stays.
-/

namespace OTServ.Library.DigitTrees

open Function

universe u v

variable {Digit : Type u} {Value : Type v}

inductive Tree (Digit : Type u) (Value : Type v) where
  | missing
  | node (child : Digit → Tree Digit Value)
  | leaf (value : Value)

namespace Tree

def find : Tree Digit Value → List Digit → Option Value
  | .missing, _ => none
  | .leaf value, _ => some value
  | .node _, [] => none
  | .node child, digit :: digits => (child digit).find digits

lemma find_missing (digits : List Digit) : (missing : Tree Digit Value).find digits = none := by
  cases digits with
  | nil => rfl
  | cons digit digits => rfl

lemma find_node (child : Digit → Tree Digit Value) (digit : Digit) (digits : List Digit) :
  (node child).find (digit :: digits) = (child digit).find digits :=
  rfl

def bare : Tree Digit Value :=
  .node fun _ => .missing

section Planting

variable [DecidableEq Digit] (value : Value)

/-- The tree with a leaf at the end of the digits. -/
def plant : List Digit → Tree Digit Value → Tree Digit Value
  | _, .leaf old => .leaf old
  | [], .missing => .leaf value
  | [], .node child => .node child
  | digit :: digits, .missing =>
    .node (update (fun _ => .missing) digit (plant digits .missing))
  | digit :: digits, .node child =>
    .node (update child digit (plant digits (child digit)))

lemma plant_bare (digit : Digit) (digits : List Digit) :
  plant value (digit :: digits) bare = plant value (digit :: digits) .missing := by
  rw [bare, plant, plant]

end Planting

inductive Even : Nat → Tree Digit Value → Prop
  | missing (depth : Nat) : Even depth .missing
  | leaf (value : Value) : Even 0 (.leaf value)
  | node
      {depth : Nat} {child : Digit → Tree Digit Value}
      (children : ∀ digit, Even depth (child digit)) :
      Even (depth + 1) (.node child)

lemma even_bare (depth : Nat) : Even (depth + 1) (bare : Tree Digit Value) :=
  .node fun _ => .missing depth

lemma find_bare (digits : List Digit) : (bare : Tree Digit Value).find digits = none := by
  cases digits with
  | nil => rfl
  | cons digit digits => rfl

section Laws

variable [DecidableEq Digit] {value : Value} {depth : Nat} {tree : Tree Digit Value}

variable (even : Even depth tree)
include even

lemma Even.plant {digits : List Digit} (length : digits.length = depth) :
  Even depth (Tree.plant value digits tree) := by
  induction digits generalizing depth tree with
  | nil =>
    cases length
    cases even with
    | missing => exact .leaf value
    | leaf old => exact .leaf old
  | cons digit digits ih =>
    cases length
    cases even with
    | missing =>
      refine .node fun other => ?_
      by_cases same : other = digit
      · subst same
        rw [update_self]
        exact ih (.missing _) rfl
      · rw [update_of_ne same]
        exact .missing _
    | node children =>
      refine .node fun other => ?_
      by_cases same : other = digit
      · subst same
        rw [update_self]
        exact ih (children other) rfl
      · rw [update_of_ne same]
        exact children other

/-- A leaf that was there is found again, otherwise the one that was planted. -/
lemma find_plant_self {digits : List Digit} (length : digits.length = depth) :
  (Tree.plant value digits tree).find digits = some ((tree.find digits).getD value) := by
  induction digits generalizing depth tree with
  | nil =>
    cases length
    cases even with
    | missing => rfl
    | leaf old => rfl
  | cons digit digits ih =>
    cases length
    cases even with
    | missing =>
      rw [Tree.plant, find_node, update_self, ih (.missing _) rfl, find_missing, find_missing]
    | node children =>
      rw [Tree.plant, find_node, update_self, ih (children digit) rfl, find_node]

/-- Nothing changes at another key. -/
lemma find_plant_of_ne {digits others : List Digit} (length : digits.length = depth)
  (also : others.length = depth) (ne : others ≠ digits) :
  (Tree.plant value digits tree).find others = tree.find others := by
  induction digits generalizing depth tree others with
  | nil =>
    cases length
    exact absurd (List.eq_nil_of_length_eq_zero also) ne
  | cons digit digits ih =>
    cases length
    cases others with
    | nil => cases also
    | cons other others =>
      have shorter : others.length = digits.length := Nat.succ.inj also
      cases even with
      | missing =>
        rw [Tree.plant, find_node, find_missing]
        by_cases same : other = digit
        · subst same
          have rest : others ≠ digits := fun equal => ne (by rw [equal])
          rw [update_self, ih (.missing _) rfl shorter rest, find_missing]
        · rw [update_of_ne same, find_missing]
      | node children =>
        rw [Tree.plant, find_node, find_node]
        by_cases same : other = digit
        · subst same
          have rest : others ≠ digits := fun equal => ne (by rw [equal])
          rw [update_self, ih (children other) rfl shorter rest]
        · rw [update_of_ne same]

end Laws

end Tree

end OTServ.Library.DigitTrees
