import OTServ.Items.Destinations
import OTServ.Items.Atomicity

/-!
# Steps between two cylinders

Every step of a move changes one cylinder, and there the units of one type only.
A move is made of steps at two cylinders.  It keeps the units which both have
together, and leaves everything else alone.
-/

namespace OTServ.Items

open Library.Placements
open Map

variable {env : Env} {world changed : World}

/-- The cylinder exists, and does nothing of its own with what is put there. -/
def Ready (world : World) : Cylinder → Prop
  | .tile position =>
    (world.tile position).isSome ∧
      ∀ item ∈ world.listing (.tile position), (world.item item).itemClass.isFixture = false
  | .player _ => True
  | .item pointer => world.isContainer pointer ∧ pointer < world.next

variable {cylinder one other : Cylinder} {items : ItemTable}
  {before after first second third : World} {item id : Nat} {difference : Int} {matter : Matter}

lemma Ready.inert (ready : Ready world cylinder) : Inert world cylinder := by
  cases cylinder with
  | tile pos => exact ready.2
  | player id => exact trivial
  | item pointer => exact ready.1

lemma Ready.holds (ready : Ready world cylinder) : Holds world cylinder := by
  cases cylinder with
  | tile pos => exact trivial
  | player id => exact trivial
  | item pointer => exact ready.1

structure Ordinary (items : ItemTable) (stock : Stock) (item : Nat) : Prop
  where
  ground : (stock.itemType items item).group ≠ .ground
  splash : (stock.itemType items item).group ≠ .splash
  field : (stock.itemType items item).type ≠ .magicField
  fixture : (stock.item item).itemClass.isFixture = false

lemma Ordinary.congr
  {before after : Stock} (matter : (after.item item).toMatter = (before.item item).toMatter)
  (ordinary : Ordinary items before item) : Ordinary items after item := by
  have type : after.itemType items item = before.itemType items item := itemType_congr matter
  have itemClass : (after.item item).itemClass = (before.item item).itemClass := by
    rw [matter]
  refine ⟨?_, ?_, ?_, ?_⟩
  · rw [type]
    exact ordinary.ground
  · rw [type]
    exact ordinary.splash
  · rw [type]
    exact ordinary.field
  · rw [itemClass]
    exact ordinary.fixture

lemma Takes.ready {place : Cylinder} (takes : Takes before.toStock after.toStock cylinder item)
  (next : after.next = before.next) (ready : Ready before place) : Ready after place := by
  cases place with
  | tile pos =>
    refine ⟨by rw [takes.tiles]; exact ready.1, ?_⟩
    intro other mem
    have itemClass : (after.item other).itemClass = (before.item other).itemClass := by
      rw [takes.matter other]
    rw [itemClass]
    apply ready.2
    by_cases here : (.tile pos : Cylinder) = cylinder
    · subst here
      exact takes.placement.listing.mem_iff.mpr (List.mem_cons_of_mem _ mem)
    · have same : after.listing (.tile pos) =
          before.listing (.tile pos) :=
        takes.placement.others _ here
      rw [← same]
      exact mem
  | player id => exact trivial
  | item pointer =>
    refine ⟨?_, by rw [next]; exact ready.2⟩
    rw [isContainer_congr (takes.matter pointer)]
    exact ready.1

lemma Puts.ready
  {place : Cylinder} (puts : Puts items before.toStock after.toStock cylinder item)
  (next : after.next = before.next) (plain : (before.item item).itemClass.isFixture = false)
  (ready : Ready before place) : Ready after place := by
  cases place with
  | tile pos =>
    refine ⟨by rw [puts.tiles]; exact ready.1, ?_⟩
    intro other mem
    have itemClass : (after.item other).itemClass = (before.item other).itemClass := by
      rw [puts.matter other]
    rw [itemClass]
    by_cases here : (.tile pos : Cylinder) = cylinder
    · subst here
      rcases List.mem_cons.mp (puts.placement.listing.mem_iff.mp mem) with rfl | old
      · exact plain
      · exact ready.2 other old
    · have same : after.listing (.tile pos) =
          before.listing (.tile pos) :=
        puts.placement.others _ here
      apply ready.2
      rw [← same]
      exact mem
  | player id => exact trivial
  | item pointer =>
    refine ⟨?_, by rw [next]; exact ready.2⟩
    rw [isContainer_congr (puts.matter pointer)]
    exact ready.1

/-- A cylinder stays ready while nothing in it gets another class. -/
lemma Ready.of_classes (ready : Ready before cylinder)
  (tiles : ∀ pos, (after.tile pos).isSome = (before.tile pos).isSome)
  (listings : ∀ cylinder, after.listing cylinder = before.listing cylinder)
  (listed :
    ∀ item,
      item ∈ before.listing cylinder →
        (after.item item).itemClass = (before.item item).itemClass)
  (given :
    ∀ pointer,
      pointer < before.next → (after.item pointer).itemClass = (before.item pointer).itemClass)
  (next : before.next ≤ after.next) : Ready after cylinder := by
  cases cylinder with
  | tile pos =>
    refine ⟨by rw [tiles]; exact ready.1, ?_⟩
    intro item mem
    rw [listings] at mem
    rw [listed item mem]
    exact ready.2 item mem
  | player id => exact trivial
  | item pointer =>
    refine ⟨?_, ready.2.trans_le next⟩
    rw [Stock.isContainer, given pointer ready.2]
    exact ready.1

lemma Ready.congr (same : SameStock before after) (ready : Ready before cylinder) :
  Ready after cylinder := by
  cases cylinder with
  | tile pos =>
    rw [Ready, same.stock]
    exact ready
  | player id => exact trivial
  | item pointer =>
    refine ⟨?_, lt_of_lt_of_le ready.2 same.next⟩
    rw [same.stock]
    exact ready.1

/-! ## Steps at one cylinder -/

/--
At one cylinder the units of one type have changed by a difference.  The other
cylinders have not changed, and those that are ready remain so.
-/
structure Shifts (items : ItemTable) (place : Cylinder) (id : Nat) (difference : Int)
  (before after : World) : Prop where
  wellFormed : WellFormed items after
  units_self :
    ∀ other,
      (units after.toStock place other : Int) =
        units before.toStock place other + if id = other then difference else 0
  others : ∀ cylinder, cylinder ≠ place → after.listing cylinder = before.listing cylinder
  untouched :
    ∀ cylinder item,
      cylinder ≠ place →
        item ∈ before.listing cylinder → (after.item item).toMatter = (before.item item).toMatter
  ready : ∀ cylinder, Ready before cylinder → Ready after cylinder

section

variable {items : ItemTable} {before after : World} {place : Cylinder} {item : Nat}

lemma Shifts.units_other (shifts : Shifts items place id difference before after)
  (away : cylinder ≠ place) (other : Nat) :
  units after.toStock cylinder other = units before.toStock cylinder other := by
  have listing :
      total after.placement (amount after.toStock other) cylinder =
        total before.placement (amount after.toStock other) cylinder :=
    total_of_listing (shifts.others cylinder away)
  rw [units, units, listing]
  apply total_congr
  intro thing mem
  rw [amount, amount, shifts.untouched cylinder thing away mem]

lemma Shifts.trans {early late : Int} (one : Shifts items place id early first second)
  (two : Shifts items place id late second third) :
  Shifts items place id (early + late) first third where
  wellFormed := two.wellFormed
  units_self other := by
    have half := one.units_self other
    have whole := two.units_self other
    split_ifs at half whole ⊢ <;> omega
  others cylinder away := (two.others cylinder away).trans (one.others cylinder away)
  untouched cylinder thing away member := by
    have member' : thing ∈ second.listing cylinder := by
      rw [one.others cylinder away]
      exact member
    rw [two.untouched cylinder thing away member']
    exact one.untouched cylinder thing away member
  ready cylinder isReady := two.ready cylinder (one.ready cylinder isReady)

lemma SameStock.shifts (same : SameStock before after) (wellFormed : WellFormed items before)
  (place : Cylinder) (id : Nat) : Shifts items place id 0 before after where
  wellFormed := wellFormed.congr same
  units_self other := by
    rw [same.stock, ite_self, add_zero]
  others cylinder _ := by rw [same.stock]
  untouched cylinder thing _ _ := by rw [same.stock]
  ready cylinder isReady := isReady.congr same

lemma Takes.shifts (takes : Takes before.toStock after.toStock place item)
  (next : after.next = before.next) (wellFormed : WellFormed items before) :
  Shifts items place (before.item item).id (-(before.item item).count) before after where
  wellFormed := takes.wellFormed next wellFormed
  units_self other := by
    have whole := takes.units_self other
    rw [amount] at whole
    split_ifs at whole ⊢ <;> omega
  others cylinder away := takes.placement.others cylinder away
  untouched cylinder thing _ _ := takes.matter thing
  ready cylinder isReady := takes.ready next isReady

/-- An item that is put in brings all its units. -/
lemma Puts.shifts
  (puts : Puts items before.toStock after.toStock place item)
  (next : after.next = before.next) (free : (before.item item).parent = none)
  (given : item < before.next) (isReady : Ready before place)
  (count : 1 ≤ (before.item item).count ∧ (before.item item).count ≤ 100)
  (plain : (before.item item).itemClass.isFixture = false)
  (wellFormed : WellFormed items before) :
  Shifts items place (before.item item).id (before.item item).count before after where
  wellFormed := by
    have present : ∀ pointer,
        place = .item pointer → pointer < before.next := by
      rintro pointer rfl
      exact isReady.2
    exact puts.wellFormed next free given present count wellFormed
  units_self other := by
    have whole := puts.units_self other
    rw [amount] at whole
    split_ifs at whole ⊢ <;> omega
  others cylinder away := puts.placement.others cylinder away
  untouched cylinder thing _ _ := puts.matter thing
  ready cylinder still := puts.ready next plain still

/-- A stack with another count makes the difference. -/
lemma setMatter_shifts (stock : after.toStock = before.toStock.setMatter item matter)
  (next : after.next = before.next) (mem : item ∈ before.listing place)
  (id : matter.id = (before.item item).id)
  (itemClass : matter.itemClass = (before.item item).itemClass)
  (count : 1 ≤ matter.count ∧ matter.count ≤ 100) (wellFormed : WellFormed items before) :
  Shifts items place (before.item item).id
    (matter.count - (before.item item).count) before after where
  wellFormed := wellFormed.setMatter stock next id itemClass count
  units_self other := by
    have whole := setMatter_units_self wellFormed.consistent mem id other
    rw [← stock, amount] at whole
    split_ifs at whole ⊢ <;> omega
  others cylinder _ := by
    have same := Stock.setMatter_placement before.toStock item matter
    rw [← stock] at same
    exact congrArg (fun placement => placement.listing cylinder) same
  untouched cylinder thing away listed := by
    have ne : thing ≠ item := by
      rintro rfl
      exact away (wellFormed.consistent.unique mem listed)
    rw [stock]
    simp [Stock.setMatter, ne]
  ready cylinder isReady := by
    have classes : ∀ thing,
        (after.item thing).itemClass = (before.item thing).itemClass := by
      intro thing
      rw [stock]
      by_cases same : thing = item
      · subst same
        simp [Stock.setMatter, itemClass]
      · simp [Stock.setMatter, same]
    have listings : ∀ cylinder,
        after.listing cylinder = before.listing cylinder := by
      intro cylinder
      have same := Stock.setMatter_placement before.toStock item matter
      rw [← stock] at same
      exact congrArg (fun placement => placement.listing cylinder) same
    exact isReady.of_classes (fun pos => by rw [stock]; rfl) listings
      (fun thing _ => classes thing) (fun pointer _ => classes pointer)
      next.ge

lemma Creates.shifts (creates : Creates before after item matter)
  (wellFormed : WellFormed items before) (place : Cylinder) (id : Nat) :
  Shifts items place id 0 before after where
  wellFormed := creates.wellFormed wellFormed
  units_self other := by
    rw [creates.units wellFormed, ite_self, add_zero]
  others cylinder _ := creates.listing cylinder
  untouched cylinder thing _ member := by
    apply creates.matter_other
    rw [creates.pointer]
    exact (wellFormed.given member).2.ne
  ready cylinder isReady := by
    have classes : ∀ thing,
        thing < before.next → (after.item thing).itemClass = (before.item thing).itemClass := by
      intro thing given
      have matter := creates.matter_other
        (show thing ≠ item by rw [creates.pointer]; exact given.ne)
      rw [matter]
    exact isReady.of_classes (fun pos => by rw [creates.stock]; rfl)
      creates.listing
      (fun thing member => classes thing (wellFormed.given member).2)
      classes (by rw [creates.next]; omega)

def unitsOf (stock : Stock) (one other : Cylinder) (id : Nat) : Nat :=
  if one = other then units stock one id
  else units stock one id + units stock other id

/-- Only the two cylinders have changed, and have together what they have had. -/
structure Keeps (items : ItemTable) (one other : Cylinder) (before after : World) : Prop
  where
  wellFormed : WellFormed items after
  units : ∀ id, unitsOf after.toStock one other id = unitsOf before.toStock one other id
  others :
    ∀ cylinder,
      cylinder ≠ one → cylinder ≠ other → after.listing cylinder = before.listing cylinder
  untouched :
    ∀ cylinder item,
      cylinder ≠ one → cylinder ≠ other →
        item ∈ before.listing cylinder → (after.item item).toMatter = (before.item item).toMatter

lemma Keeps.trans (early : Keeps items one other first second)
  (late : Keeps items one other second third) : Keeps items one other first third where
  wellFormed := late.wellFormed
  units id := (late.units id).trans (early.units id)
  others cylinder notOne notOther :=
    (late.others cylinder notOne notOther).trans (early.others cylinder notOne notOther)
  untouched cylinder thing notOne notOther member := by
    have member' : thing ∈ second.listing cylinder := by
      rw [early.others cylinder notOne notOther]
      exact member
    rw [late.untouched cylinder thing notOne notOther member']
    exact early.untouched cylinder thing notOne notOther member

lemma Keeps.of_same (one other : Cylinder) (wellFormed : WellFormed items before)
  (same : SameStock before after) : Keeps items one other before after where
  wellFormed := wellFormed.congr same
  units id := by rw [same.stock]
  others cylinder _ _ := by rw [same.stock]
  untouched cylinder thing _ _ _ := by rw [same.stock]

lemma Keeps.symm (keeps : Keeps items one other before after) :
  Keeps items other one before after where
  wellFormed := keeps.wellFormed
  units id := by
    have kept := keeps.units id
    rw [unitsOf, unitsOf] at kept ⊢
    by_cases same : one = other
    · subst same
      exact kept
    · rw [if_neg same, if_neg same] at kept
      rw [if_neg (Ne.symm same), if_neg (Ne.symm same)]
      omega
  others cylinder notOther notOne := keeps.others cylinder notOne notOther
  untouched cylinder thing notOther notOne := keeps.untouched cylinder thing notOne notOther

lemma Shifts.keeps (gives : Shifts items one id (-difference) first second)
  (gets : Shifts items other id difference second third) :
  Keeps items one other first third where
  wellFormed := gets.wellFormed
  units type := by
    have given := gives.units_self type
    have got := gets.units_self type
    rw [unitsOf, unitsOf]
    split
    · rename_i same
      subst same
      split_ifs at given got <;> omega
    · rename_i ne
      rw [gets.units_other ne]
      rw [gives.units_other (Ne.symm ne)] at got
      split_ifs at given got <;> omega
  others cylinder notOne notOther :=
    (gets.others cylinder notOther).trans (gives.others cylinder notOne)
  untouched cylinder thing notOne notOther member := by
    have member' : thing ∈ second.listing cylinder := by
      rw [gives.others cylinder notOne]
      exact member
    rw [gets.untouched cylinder thing notOther member']
    exact gives.untouched cylinder thing notOne member

end

end OTServ.Items
