import OTServ.Items.Exchanges

/-!
# The steps of a move

Removing an item or a part of it, filling up a stack, making a new item and
adding an item are steps at one cylinder.  The steps before the addition leave
the room for it.
-/

namespace OTServ.Items

open Library.Placements
open Map
open Option

variable {env : Env} {world changed : World} {cylinder : Cylinder} {item count : Nat}

def HasRoom (world : World) (index : Int) : Cylinder → Prop
  | .tile _ => True
  | .player id => isSlot index ∧ world.inventory id index.toNat = none
  | .item pointer => index < (world.item pointer).maxSize

/-- No slot has been filled, and containers are of the size they have been. -/
structure LeavesRoom (before after : World) : Prop where
  inventory :
    ∀ id slot, after.inventory id slot = none ∨ after.inventory id slot = before.inventory id slot
  maxSize :
    ∀ pointer, pointer < before.next → (after.item pointer).maxSize = (before.item pointer).maxSize
  next : before.next ≤ after.next

lemma LeavesRoom.refl (world : World) : LeavesRoom world world :=
  ⟨fun _ _ => .inr rfl, fun _ _ => rfl, le_refl _⟩

lemma LeavesRoom.trans {first second third : World} (early : LeavesRoom first second)
  (late : LeavesRoom second third) : LeavesRoom first third where
  inventory id slot := by
    rcases late.inventory id slot with free | same
    · exact .inl free
    · rw [same]
      exact early.inventory id slot
  maxSize pointer given :=
    (late.maxSize pointer (given.trans_le early.next)).trans (early.maxSize pointer given)
  next := early.next.trans late.next

variable {before after : World} {index : Int} {id : Nat}

lemma HasRoom.mono (leaves : LeavesRoom before after) (ready : Ready before cylinder)
  (room : HasRoom before index cylinder) : HasRoom after index cylinder := by
  cases cylinder with
  | tile pos => exact trivial
  | player id =>
    refine ⟨room.1, ?_⟩
    rcases leaves.inventory id index.toNat with free | same
    · exact free
    · rw [same]
      exact room.2
  | item pointer =>
    rw [HasRoom, leaves.maxSize pointer ready.2]
    exact room

lemma hasPlace (ready : Ready world cylinder) (room : HasRoom world index cylinder)
  (ordinary : Ordinary env.items world.toStock item) :
  HasPlace env world cylinder index item := by
  cases cylinder with
  | tile pos =>
    exact ⟨ready.1, ordinary.ground, ordinary.splash, ordinary.field⟩
  | player id => exact room
  | item pointer => exact ⟨ready.1, room⟩

/-! ## Removing -/

lemma removeThing_inventory
  (done : removeThing env world cylinder item count = some changed) (id slot : Nat) :
  changed.inventory id slot = none ∨ changed.inventory id slot = world.inventory id slot := by
  cases cylinder with
  | tile pos =>
    right
    cases done
    simp only [tileRemoveThing, tileRemoveFrom]
    repeat' split
    all_goals rfl
  | player owner =>
    cases done
    simp only [playerRemoveThing]
    split
    · exact .inr rfl
    · split
      · exact .inr rfl
      · by_cases same : id = owner
        · subst same
          by_cases here : slot = (getIndexOfThing world (.player id) item).toNat
          · left
            simp [Stock.setInventory, here]
          · right
            simp [Stock.setInventory, here]
        · right
          simp [Stock.setInventory, same]
  | item pointer =>
    right
    simp only [removeThing] at done
    split at done
    · simp only [containerRemoveThing] at done
      split at done
      · split at done
        · rw [World.updateItemWeight_toStock done]
          rfl
        · rcases map_eq_some_iff.mp done with ⟨lighter, light, rfl⟩
          have same := World.updateItemWeight_toStock light
          show lighter.inventory id slot = _
          rw [same]
      · cases done
        rfl
    · cases done
      rfl

/-- An item goes as a whole, or a stack gives some of its units. -/
lemma removeThing_cases (plain : PlainStacks env.items)
  (orderly : Orderly env.items world.toStock) (mem : item ∈ world.listing cylinder)
  (done : removeThing env world cylinder item count = some changed) :
  changed.next = world.next ∧
    (IsWhole env world item count ∧
        Takes world.toStock changed.toStock cylinder item ∨
      world.isStackable env.items item = true ∧
        count ≠ (world.item item).count ∧
          changed.toStock =
            world.toStock.setMatter item
              ((world.item item).toMatter.setItemCount
                (lowered (world.item item).count count))) := by
  by_cases whole : IsWhole env world item count
  · have takes := removeThing_takes orderly.sorted mem whole done
    exact ⟨takes.2, .inl ⟨whole, takes.1⟩⟩
  · have part := not_not.mp whole
    have lowering :=
      removeThing_part orderly.sorted mem whole (plain.alwaysOnTop _ part.1)
        (plain.group _ part.1).1 done
    exact ⟨lowering.2, .inr ⟨part.1, part.2, lowering.1⟩⟩

def unitsGiven (env : Env) (world : World) (item m : Nat) : Nat :=
  if world.isStackable env.items item then m else (world.item item).count

/-- An item of which some or all units have been taken from a cylinder. -/
structure Gives (env : Env) (before after : World) (cylinder : Cylinder) (item m : Nat) :
  Prop where
  shifts :
    Shifts env.items cylinder (before.item item).id (-(unitsGiven env before item m)) before after
  leavesRoom : LeavesRoom before after
  next : after.next = before.next
  id : (after.item item).id = (before.item item).id
  whole :
    before.isStackable env.items item = false →
      (after.item item).toMatter = (before.item item).toMatter ∧ (after.item item).parent = none
  others : ∀ other, other ≠ item → (after.item other).toMatter = (before.item other).toMatter
  listed : ∀ place other, other ≠ item → other ∈ before.listing place → other ∈ after.listing place

lemma removeThing_gives (plain : PlainStacks env.items) (wellFormed : WellFormed env.items world)
  (mem : item ∈ world.listing cylinder)
  (enough : world.isStackable env.items item → count ≤ (world.item item).count)
  (done : removeThing env world cylinder item count = some changed) :
  Gives env world changed cylinder item count := by
  have held := wellFormed.counts item (by
    rw [(wellFormed.given mem).1]
    exact some_ne_none _)
  have inventory := removeThing_inventory done
  rcases removeThing_cases plain wellFormed.toOrderly mem done with
    ⟨next, ⟨whole, takes⟩ | ⟨stackable, part, stock⟩⟩
  · have units : unitsGiven env world item count = (world.item item).count := by
      rw [unitsGiven]
      split
      · rename_i stackable
        by_contra part
        exact whole ⟨stackable, part⟩
      · rfl
    refine ⟨?_, ⟨inventory, ?_, next.ge⟩, next, ?_, ?_, ?_, ?_⟩
    · rw [units]
      exact takes.shifts next wellFormed
    · intro pointer _
      rw [takes.matter]
    · rw [takes.matter]
    · intro _
      exact ⟨takes.matter item, by rw [takes.parent, if_pos rfl]⟩
    · exact fun other _ => takes.matter other
    · intro place other ne listed
      by_cases here : place = cylinder
      · subst here
        have listed' := takes.placement.listing.mem_iff.mp listed
        exact (List.mem_cons.mp listed').resolve_left ne
      · have same : changed.listing place = world.listing place :=
          takes.placement.others place here
        rw [same]
        exact listed
  · have fewer : count < (world.item item).count := lt_of_le_of_ne (enough stackable) part
    have rest : lowered (world.item item).count count = (world.item item).count - count :=
      lowered_eq fewer.le (by omega)
    rw [rest] at stock
    have left :
        ((world.item item).toMatter.setItemCount
            ((world.item item).count - count)).count =
          (world.item item).count - count := by
      show _ % 256 = _
      omega
    refine ⟨?_, ⟨inventory, ?_, next.ge⟩, next, ?_, ?_, ?_, ?_⟩
    · have step := setMatter_shifts stock next mem rfl rfl (by rw [left]; omega) wellFormed
      rw [left] at step
      rw [unitsGiven, if_pos stackable]
      have difference :
          (((world.item item).count - count : Nat) : Int) -
              (world.item item).count =
            -(count : Int) := by
        omega
      rw [← difference]
      exact step
    · intro pointer _
      rw [stock]
      by_cases same : pointer = item
      · subst same
        simp [Stock.setMatter, Matter.setItemCount]
      · simp [Stock.setMatter, same]
    · rw [stock]
      simp [Stock.setMatter, Matter.setItemCount]
    · intro single
      rw [single] at stackable
      cases stackable
    · intro other ne
      rw [stock]
      simp [Stock.setMatter, ne]
    · intro place other _ listed
      have same := Stock.setMatter_placement world.toStock item
        ((world.item item).toMatter.setItemCount ((world.item item).count - count))
      rw [← stock] at same
      have here : changed.listing place = world.listing place :=
        congrArg (fun placement => placement.listing place) same
      rw [here]
      exact listed

/-- A stack that is filled up has so many units more. -/
lemma updateThing_shifts (plain : PlainStacks env.items)
  (wellFormed : WellFormed env.items world) (mem : item ∈ world.listing cylinder)
  (stackable : world.isStackable env.items item) (few : (world.item item).count + count ≤ 100)
  (done :
    updateThing env world cylinder item (world.item item).id
      ((world.item item).count + count) = some changed) :
  Shifts env.items cylinder (world.item item).id count world changed ∧
    LeavesRoom world changed ∧ changed.next = world.next := by
  have held := wellFormed.counts item (by
    rw [(wellFormed.given mem).1]
    exact some_ne_none _)
  have group := plain.group _ stackable
  have liquid :
      ¬ ((env.items (world.item item).id).group = .fluid ∨
        (env.items (world.item item).id).group = .splash) := by
    rintro (fluid | splash)
    · exact group.2.1 fluid
    · exact group.2.2 splash
  have raised :
      (((world.item item).toMatter.setID (world.item item).id).setSubType
          env.items ((world.item item).count + count)) =
        { (world.item item).toMatter with
          count := (world.item item).count + count } := by
    have small :
        ((world.item item).count + count) % 256 = (world.item item).count + count := by
      omega
    simp only [Matter.setSubType, Matter.setID, if_neg liquid,
      plain.charges _ stackable, ne_eq, not_true, if_false, small]
  rcases updateThing_matter wellFormed.toOrderly.sorted mem done with ⟨stock, next⟩
  rw [raised] at stock
  refine ⟨?_, ⟨?_, ?_, next.ge⟩, next⟩
  · have step :=
      setMatter_shifts stock next mem rfl rfl ⟨by show 1 ≤ _ + _; omega, few⟩ wellFormed
    have difference :
        (((world.item item).count + count : Nat) : Int) -
            (world.item item).count =
          count := by
      omega
    rw [← difference]
    exact step
  · intro id slot
    right
    rw [stock]
    rfl
  · intro pointer _
    rw [stock]
    by_cases same : pointer = item
    · subst same
      simp [Stock.setMatter]
    · simp [Stock.setMatter, same]

lemma newMatter_stack {items : ItemTable} (plain : PlainStacks items)
  (stackable : (items id).stackable) (positive : 0 < count) (few : count ≤ 100) :
  (World.newMatter items id count).id = id ∧
    (World.newMatter items id count).count = count ∧
      (World.newMatter items id count).itemClass = .item := by
  have group := plain.group id stackable
  have whole : count % 65536 = count := by omega
  have small : count % 256 = count := by omega
  refine ⟨rfl, ?_, plain.itemClass id stackable⟩
  simp only [World.newMatter, plain.itemClass id stackable, if_true, whole, small]
  simp only [decide_eq_false group.2.1, decide_eq_false group.2.2, stackable,
    Bool.or_false, Bool.not_false, Bool.and_true]
  rw [if_pos]
  simpa using positive.ne'

lemma Creates.leavesRoom {matter : Matter} (creates : Creates before after item matter) :
  LeavesRoom before after where
  inventory id slot := by
    right
    rw [creates.stock]
    rfl
  maxSize pointer given := by
    have different : pointer ≠ item := by
      rw [creates.pointer]
      exact given.ne
    rw [creates.matter_other different]
  next := by
    rw [creates.next]
    omega

structure Loose (items : ItemTable) (world : World) (item : Nat) : Prop where
  ordinary : Ordinary items world.toStock item
  free : (world.item item).parent = none
  given : item < world.next
  count : 1 ≤ (world.item item).count ∧ (world.item item).count ≤ 100

lemma ordinary_of_stackable (plain : PlainStacks env.items)
  (stackable : world.isStackable env.items item)
  (itemClass : (world.item item).itemClass = .item) : Ordinary env.items world.toStock item where
  ground := (plain.group _ stackable).1
  splash := (plain.group _ stackable).2.2
  field := by
    intro field
    have object := plain.itemClass _ stackable
    have type : (env.items (world.item item).id).type = .magicField := field
    rw [ItemType.itemClass, type] at object
    split_ifs at object <;> simp_all
  fixture := by
    rw [itemClass]
    rfl

lemma Creates.loose (plain : PlainStacks env.items) (stackable : (env.items id).stackable)
  (positive : 0 < count) (few : count ≤ 100) (wellFormed : WellFormed env.items before)
  (creates : Creates before after item (World.newMatter env.items id count)) :
  Loose env.items after item ∧ (after.item item).id = id ∧ (after.item item).count = count := by
  rcases newMatter_stack plain stackable positive few with ⟨sameId, sameCount, itemClass⟩
  rw [← creates.matter_self] at sameId sameCount itemClass
  have stacked : after.isStackable env.items item := by
    rw [Stock.isStackable, Stock.itemType, sameId]
    exact stackable
  refine ⟨⟨ordinary_of_stackable plain stacked itemClass, ?_, ?_, ?_⟩, sameId, sameCount⟩
  · rw [creates.parent, creates.pointer]
    exact (wellFormed.fresh before.next (le_refl _)).1
  · rw [creates.next, creates.pointer]
    omega
  · rw [sameCount]
    omega

lemma addThing_shifts (wellFormed : WellFormed env.items world) (ready : Ready world cylinder)
  (room : HasRoom world index cylinder) (loose : Loose env.items world item)
  (done : addThing env world cylinder index item = some changed) :
  Shifts env.items cylinder (world.item item).id (world.item item).count world changed := by
  have place := hasPlace ready room loose.ordinary
  rcases addThing_puts place done with ⟨puts, next⟩
  exact puts.shifts next loose.free loose.given ready loose.count loose.ordinary.fixture wellFormed

end OTServ.Items
