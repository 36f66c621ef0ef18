import Mathlib.Order.WellFounded

/-!
# Forests of parent pointers

Every node has at most one parent.  The pointers are grounded when every walk
upwards ends.  Taking pointers away keeps them grounded, and so does giving a
parent to a node that is not the parent of any.
-/

namespace OTServ.Library.Forests

universe u

variable {Node : Type u} {parent next : Node → Option Node}

def Above (parent : Node → Option Node) (upper lower : Node) : Prop :=
  parent lower = some upper

def Grounded (parent : Node → Option Node) : Prop :=
  WellFounded (Above parent)

namespace Grounded

lemma none : Grounded (fun _ : Node => Option.none) :=
  ⟨fun _ => ⟨_, fun _ above => nomatch above⟩⟩

/-- Pointers may be taken away. -/
lemma shrink (grounded : Grounded parent)
  (fewer : ∀ lower upper, next lower = some upper → parent lower = some upper) : Grounded next :=
  Subrelation.wf (fun above => fewer _ _ above) grounded

/-- A node without children may be given any parent. -/
lemma attach
  (grounded : Grounded parent) {node : Node} (childless : ∀ lower, next lower ≠ some node)
  (fewer : ∀ lower upper, lower ≠ node → next lower = some upper → parent lower = some upper) :
  Grounded next := by
  have others : ∀ lower, lower ≠ node → Acc (Above next) lower := by
    intro lower
    induction lower using grounded.induction with
    | h lower ih =>
      intro ne
      constructor
      intro upper above
      refine ih upper (fewer lower upper ne above) ?_
      rintro rfl
      exact childless lower above
  constructor
  intro lower
  by_cases itself : lower = node
  · constructor
    intro upper above
    refine others upper ?_
    rintro rfl
    exact childless lower above
  · exact others lower itself

end Grounded

end OTServ.Library.Forests
