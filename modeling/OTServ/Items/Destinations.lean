import OTServ.Items.Units

/-!
# Destinations

The search for the destination ends at a place in a cylinder with the item that
is there.  Where the destination accepts an item, there is a place for it as
soon as the item there has been filled up or handed over.
-/

namespace OTServ.Items

open Library.Placements
open Map
open List Option

variable {env : Env} {world changed : World}

/-! ## The item at the destination -/

/-- The index is one of the cylinder, with the item which is there. -/
def Destination.Fits (world : World) (found : Destination) : Prop :=
  match found.cylinder with
  | .tile position => found.toItem = topDownItem world position
  | .player id =>
    found.toItem = inventoryItem world id found.index ∧
      ∀ toItem, found.toItem = some toItem → world.isCylinder toItem = false
  | .item pointer =>
    world.isContainer pointer →
      found.index < (world.item pointer).maxSize ∧
        ∀ toItem, found.toItem = some toItem → toItem ∈ world.listing (.item pointer)

/-- No item has been found yet, or it is looked up once more. -/
def Destination.Open (asked : Destination) : Prop :=
  asked.toItem = none ∨ ∃ position, asked.cylinder = .tile position

variable {id item : Nat} {found asked : Destination}

lemma firstAccepted_some {accepts : Nat → Option Bool} {list : List Nat} {found : Nat}
  (search : firstAccepted accepts list = some (some found)) :
  found ∈ list ∧ accepts found = some true := by
  induction list with
  | nil => cases search
  | cons candidate rest ih =>
    rcases bind_eq_some_iff.mp search with ⟨accepted, asked, next⟩
    cases accepted with
    | true =>
      cases next
      exact ⟨mem_cons_self, asked⟩
    | false =>
      have later := ih next
      exact ⟨mem_cons_of_mem _ later.1, later.2⟩

lemma appropriatePlace_fits (index : asked.index = 0 ∨ asked.index = -1)
  (search : appropriatePlace env world id item asked = some found) :
  found.Fits world ∧ found.toItem = none := by
  have opened : ∀ container,
      Destination.Fits world ⟨.item container, -1, none, asked.flags⟩ := by
    intro container _
    refine ⟨by show (-1 : Int) < _; omega, ?_⟩
    intro toItem impossible
    cases impossible
  rcases bind_eq_some_iff.mp search with ⟨slot, slotSearch, rest⟩
  cases slot with
  | some slot =>
    cases rest
    have accepted := (firstAccepted_some slotSearch).2
    refine ⟨⟨?_, fun _ impossible => by cases impossible⟩, rfl⟩
    rw [slotAccepts] at accepted
    split at accepted
    · rename_i empty
      rw [inventoryItem, Int.toNat_natCast, isNone_iff_eq_none.mp empty]
      split <;> rfl
    · cases accepted
  | none =>
    rcases bind_eq_some_iff.mp rest with ⟨container, _, rest⟩
    cases container with
    | some container =>
      cases rest
      exact ⟨opened container, rfl⟩
    | none =>
      rcases bind_eq_some_iff.mp rest with ⟨deeper, _, rest⟩
      rcases map_eq_some_iff.mp rest with ⟨last, _, result⟩
      cases last with
      | some container =>
        cases result
        exact ⟨opened container, rfl⟩
      | none =>
        cases result
        refine ⟨⟨?_, fun _ impossible => by cases impossible⟩, rfl⟩
        rcases index with zero | wherever
        · rw [zero]
          rfl
        · rw [wherever]
          rfl

lemma containerQueryDestination_fits
  (world : World) (container : Nat) (isOpen : asked.toItem = none) :
  (containerQueryDestination world container asked).Fits world ∧
    ((containerQueryDestination world container asked).cylinder ≠
        .item container →
      (containerQueryDestination world container asked).toItem = none) := by
  have opened : ∀ pointer,
      Destination.Fits world ⟨.item pointer, -1, none, asked.flags⟩ := by
    intro pointer _
    refine ⟨by show (-1 : Int) < _; omega, ?_⟩
    intro toItem impossible
    cases impossible
  rw [containerQueryDestination, isOpen]
  split
  · exact ⟨opened _, fun _ => rfl⟩
  · split
    · exact ⟨opened _, fun _ => rfl⟩
    · dsimp only
      by_cases beyond : ((world.item container).maxSize : Int) ≤ asked.index
      · rw [if_pos beyond, if_pos rfl]
        exact ⟨opened _, fun _ => rfl⟩
      · rw [if_neg beyond, or_none]
        split
        · exact ⟨opened _, fun _ => rfl⟩
        · cases there : containerItem world container asked.index with
          | none =>
            refine ⟨?_, fun _ => rfl⟩
            intro _
            refine ⟨not_le.mp beyond, ?_⟩
            intro toItem impossible
            cases impossible
          | some dest =>
            dsimp only
            split
            · exact ⟨opened dest, fun _ => rfl⟩
            · refine ⟨?_, fun away => absurd rfl away⟩
              intro _
              refine ⟨not_le.mp beyond, ?_⟩
              rintro toItem ⟨⟩
              rw [containerItem] at there
              split at there
              · exact mem_of_getElem? there
              · cases there

lemma playerQueryDestination_fits (isOpen : asked.toItem = none)
  (search : playerQueryDestination env world id item asked = some found) :
  found.Fits world ∧ (found.cylinder ≠ .player id → found.toItem = none) := by
  rw [playerQueryDestination] at search
  split at search
  · rename_i index
    have place := appropriatePlace_fits index search
    exact ⟨place.1, fun _ => place.2⟩
  · split at search
    · rename_i empty
      cases search
      refine ⟨⟨?_, ?_⟩, fun away => absurd rfl away⟩
      · show asked.toItem = inventoryItem world id asked.index
        rw [isOpen, empty]
      · intro toItem impossible
        have impossible' : asked.toItem = some toItem := impossible
        rw [isOpen] at impossible'
        cases impossible'
    · rename_i dest held
      split at search
      · cases search
        refine ⟨?_, fun _ => rfl⟩
        intro _
        refine ⟨by show (-1 : Int) < _; omega, ?_⟩
        intro toItem impossible
        cases impossible
      · rename_i plain
        cases search
        refine ⟨⟨held.symm, ?_⟩, fun away => absurd rfl away⟩
        rintro toItem ⟨⟩
        exact Bool.eq_false_iff.mpr plain

lemma queryDestination_fits
  (isOpen : asked.Open) (search : queryDestination env world item asked = some found) :
  found.Fits world ∧ (found.cylinder ≠ asked.cylinder → found.Open) := by
  rcases asked with ⟨cylinder, index, toItem, flags⟩
  cases cylinder with
  | tile pos =>
    cases search
    rw [tileQueryDestination]
    split
    · exact ⟨rfl, fun _ => .inr ⟨_, rfl⟩⟩
    · exact ⟨rfl, fun _ => .inr ⟨_, rfl⟩⟩
  | player id =>
    have none_yet : toItem = none := by
      rcases isOpen with none_yet | ⟨pos, other⟩
      · exact none_yet
      · cases other
    have fits := playerQueryDestination_fits none_yet search
    exact ⟨fits.1, fun away => .inl (fits.2 away)⟩
  | item pointer =>
    have none_yet : toItem = none := by
      rcases isOpen with none_yet | ⟨pos, other⟩
      · exact none_yet
      · cases other
    simp only [queryDestination] at search
    split at search
    · cases search
      have closed : (⟨.item pointer, index, toItem, flags⟩ : Destination).toItem = none := none_yet
      have fits := containerQueryDestination_fits world pointer closed
      exact ⟨fits.1, fun away => .inl (fits.2 away)⟩
    · rename_i plain
      cases search
      exact ⟨fun container => absurd container plain, fun away => absurd rfl away⟩

lemma findDestination_fits {floors : Nat} (isOpen : asked.Open)
  (last : floors = 0 → asked.Fits world)
  (search : findDestination env world item floors asked = some found) : found.Fits world := by
  induction floors generalizing asked with
  | zero =>
    cases search
    exact last rfl
  | succ floors ih =>
    rcases bind_eq_some_iff.mp search with ⟨next, query, rest⟩
    have fits := queryDestination_fits isOpen query
    split at rest
    · cases rest
      exact fits.1
    · rename_i away
      have isOpen' : Destination.Open { next with flags := Flags.none } := fits.2 away
      have fits' : Destination.Fits world { next with flags := Flags.none } := fits.1
      exact ih isOpen' (fun _ => fits') rest

lemma queryDestination_childIsOwner
  (search : queryDestination env world item asked = some found) :
  found.flags.childIsOwner = asked.flags.childIsOwner := by
  rcases asked with ⟨cylinder, index, toItem, flags⟩
  cases cylinder with
  | tile pos =>
    cases search
    rw [tileQueryDestination]
    split <;> rfl
  | player id =>
    simp only [queryDestination, playerQueryDestination] at search
    split at search
    · rcases bind_eq_some_iff.mp search with ⟨slot, _, rest⟩
      split at rest
      · cases rest
        rfl
      · rcases bind_eq_some_iff.mp rest with ⟨container, _, rest⟩
        split at rest
        · cases rest
          rfl
        · rcases bind_eq_some_iff.mp rest with ⟨deeper, _, rest⟩
          rcases map_eq_some_iff.mp rest with ⟨last, _, result⟩
          split at result <;> (cases result; rfl)
    · split at search
      · cases search
        rfl
      · split at search <;> (cases search; rfl)
  | item pointer =>
    simp only [queryDestination] at search
    split at search
    · cases search
      simp only [containerQueryDestination]
      repeat' split
      all_goals rfl
    · cases search
      rfl

lemma findDestination_childIsOwner {floors : Nat} (unset : asked.flags.childIsOwner = false)
  (search : findDestination env world item floors asked = some found) :
  found.flags.childIsOwner = false := by
  induction floors generalizing asked with
  | zero =>
    cases search
    exact unset
  | succ floors ih =>
    rcases bind_eq_some_iff.mp search with ⟨next, query, rest⟩
    split at rest
    · cases rest
      rw [queryDestination_childIsOwner query]
      exact unset
    · have unset' :
          (⟨next.cylinder, next.index, next.toItem, Flags.none⟩ :
              Destination).flags.childIsOwner = false :=
        rfl
      exact ih unset' rest

end OTServ.Items
