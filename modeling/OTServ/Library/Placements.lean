import Mathlib.Algebra.GroupWithZero.Nat
import Mathlib.Algebra.BigOperators.Group.List.Basic

/-!
# Things in places

A placement lists the things that lie in each place, and names for each thing
the place where it is.  The two views agree in a consistent placement.

Things are taken out of a place and put into a place.  Both keep a placement
consistent, and both change the total of any quantity by the share of the one
thing.
-/

namespace OTServ.Library.Placements

open List Function Option

universe u v

/-- The things in each place, and the place of each thing. -/
structure Placement (Place : Type u) (Thing : Type v) where
  listing : Place → List Thing
  parent : Thing → Option Place

variable {Place : Type u} {Thing : Type v}

/-- Each thing is listed once, in its place and nowhere else. -/
structure Consistent (placement : Placement Place Thing) : Prop where
  nodup : ∀ place, (placement.listing place).Nodup
  lies : ∀ place thing, thing ∈ placement.listing place ↔ placement.parent thing = some place

/-- The thing has left the place, and nothing else has moved. -/
structure TakenOut [DecidableEq Thing] (before after : Placement Place Thing) (place : Place)
  (thing : Thing) : Prop where
  listing : (before.listing place).Perm (thing :: after.listing place)
  others : ∀ other, other ≠ place → after.listing other = before.listing other
  parent : after.parent = update before.parent thing none

/-- The thing has come to the place, and nothing else has moved. -/
structure PutIn [DecidableEq Thing] (before after : Placement Place Thing) (place : Place)
  (thing : Thing) : Prop where
  listing : (after.listing place).Perm (thing :: before.listing place)
  others : ∀ other, other ≠ place → after.listing other = before.listing other
  parent : after.parent = update before.parent thing (some place)

variable {thing : Thing} {amount : Thing → Nat}

namespace Consistent

variable {placement : Placement Place Thing}

/-- A thing is listed in one place only. -/
lemma unique (consistent : Consistent placement) {place other : Place}
  (here : thing ∈ placement.listing place) (there : thing ∈ placement.listing other) :
  other = place := by
  have first := (consistent.lies place thing).mp here
  have second := (consistent.lies other thing).mp there
  rw [first] at second
  exact (some.inj second).symm

/-- A thing without a place is listed nowhere. -/
lemma unlisted (consistent : Consistent placement) (free : placement.parent thing = none)
  (place : Place) : thing ∉ placement.listing place := by
  intro listed
  rw [(consistent.lies place thing).mp listed] at free
  cases free

end Consistent

section TakingOut

variable [DecidableEq Thing] {before after : Placement Place Thing} {place : Place} {thing : Thing}

variable (taken : TakenOut before after place thing)
include taken

lemma TakenOut.member : thing ∈ before.listing place :=
  taken.listing.mem_iff.mpr mem_cons_self

/-- Taking something out keeps a placement consistent. -/
lemma TakenOut.consistent (consistent : Consistent before) : Consistent after := by
  have nodup : (thing :: after.listing place).Nodup :=
    taken.listing.nodup_iff.mp (consistent.nodup place)
  have gone : thing ∉ after.listing place := (nodup_cons.mp nodup).1
  constructor
  · intro other
    by_cases here : other = place
    · subst here
      exact (nodup_cons.mp nodup).2
    · rw [taken.others other here]
      exact consistent.nodup other
  · intro other item
    rw [taken.parent]
    by_cases same : item = thing
    · subst same
      rw [update_self]
      constructor
      · intro listed
        by_cases here : other = place
        · subst here
          exact absurd listed gone
        · rw [taken.others other here] at listed
          exact absurd (consistent.unique taken.member listed) here
      · intro impossible
        cases impossible
    · rw [update_of_ne same, ← consistent.lies other item]
      by_cases here : other = place
      · subst here
        rw [taken.listing.mem_iff, mem_cons]
        exact ⟨.inr, fun listed => listed.resolve_left same⟩
      · rw [taken.others other here]

end TakingOut

section PuttingIn

variable [DecidableEq Thing] {before after : Placement Place Thing} {place : Place} {thing : Thing}

variable (put : PutIn before after place thing)
include put

lemma PutIn.member : thing ∈ after.listing place :=
  put.listing.mem_iff.mpr mem_cons_self

/-- Putting a thing that is in no place keeps a placement consistent. -/
lemma PutIn.consistent (consistent : Consistent before) (free : before.parent thing = none) :
  Consistent after := by
  have fresh := consistent.unlisted free
  constructor
  · intro other
    by_cases here : other = place
    · subst here
      rw [put.listing.nodup_iff, nodup_cons]
      exact ⟨fresh other, consistent.nodup other⟩
    · rw [put.others other here]
      exact consistent.nodup other
  · intro other item
    rw [put.parent]
    by_cases same : item = thing
    · subst same
      rw [update_self, some.injEq]
      constructor
      · intro listed
        by_contra elsewhere
        have away : other ≠ place := fun here => elsewhere here.symm
        rw [put.others other away] at listed
        exact fresh other listed
      · rintro rfl
        exact put.member
    · rw [update_of_ne same, ← consistent.lies other item]
      by_cases here : other = place
      · subst here
        rw [put.listing.mem_iff, mem_cons]
        exact ⟨fun listed => listed.resolve_left same, .inr⟩
      · rw [put.others other here]

end PuttingIn

/-! ## Totals -/

/-- The total of a quantity over the things in a place. -/
def total (placement : Placement Place Thing) (amount : Thing → Nat) (place : Place) : Nat :=
  ((placement.listing place).map amount).sum

section Totals

variable {before after : Placement Place Thing} {place : Place}

lemma total_congr
  {changed : Thing → Nat} (same : ∀ thing ∈ before.listing place, changed thing = amount thing) :
  total before changed place = total before amount place := by
  rw [total, total, map_congr_left same]

lemma total_of_listing (same : after.listing place = before.listing place) :
  total after amount place = total before amount place := by
  rw [total, total, same]

variable [DecidableEq Thing] {thing : Thing}

lemma TakenOut.total_eq (taken : TakenOut before after place thing) (amount : Thing → Nat) :
  total before amount place = amount thing + total after amount place := by
  rw [total, (taken.listing.map amount).sum_eq]
  rfl

lemma PutIn.total_eq (put : PutIn before after place thing) (amount : Thing → Nat) :
  total after amount place = amount thing + total before amount place := by
  rw [total, (put.listing.map amount).sum_eq]
  rfl

/-- The quantity of one thing changes where it lies. -/
lemma total_update (consistent : Consistent before) (mem : thing ∈ before.listing place)
  (amount : Thing → Nat) (value : Nat) :
  total before (update amount thing value) place + amount thing =
    total before amount place + value := by
  have perm := perm_cons_erase mem
  have nodup : (thing :: (before.listing place).erase thing).Nodup :=
    perm.nodup_iff.mp (consistent.nodup place)
  have gone := (nodup_cons.mp nodup).1
  have rest :
      ((before.listing place).erase thing).map
          (update amount thing value) =
        ((before.listing place).erase thing).map amount := by
    apply map_congr_left
    intro other listed
    apply update_of_ne
    rintro rfl
    exact gone listed
  rw [total, total, (perm.map _).sum_eq, (perm.map amount).sum_eq,
    map_cons, map_cons, sum_cons, sum_cons, rest,
    update_self]
  omega

end Totals

section Slots

variable {Slot : Type u} [DecidableEq Slot]
variable {slots : List Slot} {slot : Slot}

lemma filterMap_update_of_not_mem
  (absent : slot ∉ slots) (contents : Slot → Option Thing) (other : Option Thing) :
  slots.filterMap (update contents slot other) = slots.filterMap contents := by
  apply filterMap_congr
  intro candidate listed
  apply update_of_ne
  rintro rfl
  exact absent listed

/-- A slot is filled, and the rest of the slots list what they have listed. -/
lemma filterMap_fill (nodup : slots.Nodup) (mem : slot ∈ slots)
  {contents : Slot → Option Thing} (empty : contents slot = none) (thing : Thing) :
  (slots.filterMap (update contents slot (some thing))).Perm
    (thing :: slots.filterMap contents) := by
  have perm := perm_cons_erase mem
  have gone : slot ∉ slots.erase slot := (nodup_cons.mp (perm.nodup_iff.mp nodup)).1
  have before := perm.filterMap (update contents slot (some thing))
  have after := perm.filterMap contents
  rw [filterMap_cons, update_self, filterMap_update_of_not_mem gone] at before
  rw [filterMap_cons, empty] at after
  exact before.trans (after.symm.cons thing)

/-- A slot is emptied, and the rest of the slots list what they have listed. -/
lemma filterMap_empty (nodup : slots.Nodup) (mem : slot ∈ slots)
  {contents : Slot → Option Thing} (filled : contents slot = some thing) :
  (slots.filterMap contents).Perm (thing :: slots.filterMap (update contents slot none)) := by
  have refilled : update (update contents slot none) slot (some thing) = contents := by
    rw [update_idem, ← filled, update_eq_self]
  have fill := filterMap_fill nodup mem (update_self slot none contents) thing
  rw [refilled] at fill
  exact fill

end Slots

end OTServ.Library.Placements
