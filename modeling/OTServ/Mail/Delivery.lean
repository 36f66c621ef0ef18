import OTServ.Mail.Mailbox
import OTServ.Mail.Storing

/-!
# Delivery into a depot

A letter or parcel on a tile always gets into a depot: `FLAG_NOLIMIT` leaves no
check that could fail.  It is stamped there, and nothing else changes.
-/

namespace OTServ.Mail

open Items
open Library.Placements
open Map
open List Function Option

/-- `ITEM_PARCEL` and `ITEM_LETTER` -/
def IsMail (id : Nat) : Prop := id = 2595 ∨ id = 2597

/-- The types of mail and of what is mailed to, as the item table has them. -/
structure PostalTypes (items : ItemTable) : Prop
  extends LockerTypes items where
  moveable : ∀ id, IsMail id → (items id).moveable
  pickupable : ∀ id, IsMail id → (items id).pickupable
  stackable : ∀ id, IsMail id → (items id).stackable = false
  alwaysOnTop : ∀ id, IsMail id → (items id).alwaysOnTop = false
  notGround : ∀ id, IsMail id → (items id).group ≠ .ground
  dry : ∀ id, IsMail id → (items id).group ≠ .fluid ∧ (items id).group ≠ .splash
  charges : ∀ id, IsMail id → (items id).charges = 0
  stampedOnTop : ∀ id, IsMail id → (items (id + 1)).alwaysOnTop = false
  stampedType : ∀ id, IsMail id → (items (id + 1)).type = (items id).type
  stampedGroup : ∀ id, IsMail id → (items (id + 1)).group = (items id).group
  stampedCharges : ∀ id, IsMail id → (items (id + 1)).charges = 0

/-- What a script does when an item leaves a tile comes to an end. -/
def ScriptsEnd (env : Env) : Prop :=
  ∀ position item world, ∃ changed, env.onRemoveTileItem position item world = some changed

/-- An item has gone from a tile to a depot, where it is stamped. -/
structure Delivers (before after : World) (position : Position) (depot item : Nat) : Prop where
  next : before.next ≤ after.next
  left : (before.listing (.tile position)).Perm (item :: after.listing (.tile position))
  arrived : (after.listing (.item depot)).Perm (item :: before.listing (.item depot))
  others :
    ∀ cylinder,
      cylinder ≠ .tile position → cylinder ≠ .item depot →
        after.listing cylinder = before.listing cylinder
  stamped :
    (after.item item).toMatter =
      { (before.item item).toMatter with id := (before.item item).id + 1 }
  matter : ∀ other, other ≠ item → (after.item other).toMatter = (before.item other).toMatter
  parent : (after.item item).parent = some (.item depot)
  parents : ∀ other, other ≠ item → (after.item other).parent = (before.item other).parent

section

variable {env : Env} {world : World} {depot item : Nat} {position : Position}

/-- `FLAG_NOLIMIT` alone -/
def noLimit : Flags := { Flags.none with noLimit := true }

lemma IsDepot.isContainer (isDepot : IsDepot world depot) : world.isContainer depot := by
  rw [Stock.isContainer, isDepot.itemClass]
  rfl

lemma IsDepot.same {changed : World} (isDepot : IsDepot world depot)
  (same : SameStock world changed) : IsDepot changed depot := by
  refine isDepot.congr ?_ ?_ ?_ same.next
  · rw [same.stock]
  · rw [same.stock]
  · rw [same.stock]
    exact isDepot.unlisted

lemma depot_findDestination (isDepot : IsDepot world depot) :
  findDestination env world item mapMaxLayers
      ⟨.item depot, -1, none, noLimit⟩ =
    some ⟨.item depot, -1, none, noLimit⟩ := by
  have found :
      containerQueryDestination world depot
          ⟨.item depot, -1, none, noLimit⟩ =
        ⟨.item depot, -1, none, noLimit⟩ := by
    simp [containerQueryDestination]
  have asked :
      queryDestination env world item ⟨.item depot, -1, none, noLimit⟩ =
        some ⟨.item depot, -1, none, noLimit⟩ := by
    simp only [queryDestination, isDepot.isContainer, if_true, found]
  rw [mapMaxLayers, findDestination, asked, bind_some, if_pos rfl]

lemma depot_queryAdd (isDepot : IsDepot world depot)
  (pickupable : (world.itemType env.items item).pickupable) (ne : item ≠ depot)
  (count : Nat) : queryAdd env world (.item depot) (-1) item count noLimit = some .noError := by
  have free : depotIsFull env world depot item count noLimit = some false := rfl
  simp only [queryAdd, isDepot.itemClass, depotQueryAdd, free,
    bind_some, Bool.false_eq_true, if_false, containerQueryAdd,
    pickupable, ne]
  rcases isDepot.outermost.parents with ⟨ends, _⟩ | ⟨place, ends, _⟩
  · simp [ends, noLimit, Flags.none, World.topOf]
  · simp [ends, noLimit, Flags.none, World.topOf]

lemma depot_queryMaxCount (isDepot : IsDepot world depot) {count : Nat} (some_left : 1 ≤ count) :
  queryMaxCount env world (.item depot) (-1) item count noLimit = (.noError, count) := by
  simp only [queryMaxCount, isDepot.isContainer, if_true, containerQueryMaxCount, noLimit]
  rw [max_eq_right some_left]

lemma notifyRemoved_depot (quiet : env.Quiet) (ends : ScriptsEnd env)
  (isDepot : IsDepot world depot) (index : Int) (isCompleteRemoval : Bool) :
  ∃ told,
    notifyRemoved env world (.item depot) item index isCompleteRemoval =
        some told ∧
      SameStock world told := by
  have some_told :
      ∃ told, notifyRemoved env world (.item depot) item index isCompleteRemoval = some told := by
    rw [notifyRemoved, postRemoveNotification]
    simp only [isDepot.itemClass, reduceCtorEq, if_false]
    rcases isDepot.outermost with parent | ⟨place, parent⟩
    · rw [parent]
      exact ⟨world, rfl⟩
    · rw [parent]
      exact ends place item world
  rcases some_told with ⟨told, done⟩
  exact ⟨told, done, notifyRemoved_same quiet done⟩

lemma notifyAdded_depot (isDepot : IsDepot world depot) (index : Int) :
  notifyAdded env world (.item depot) item index = some world := by
  rw [notifyAdded, postAddNotification]
  simp only [isDepot.itemClass, reduceCtorEq, if_false]
  rcases isDepot.outermost with parent | ⟨place, parent⟩
  · rw [parent]
  · rw [parent]
    rfl

lemma notifyIfAdded_depot (isDepot : IsDepot world depot) :
  notifyIfAdded env world (.item depot) (some item) = some world := by
  simp only [notifyIfAdded]
  split
  · exact notifyAdded_depot isDepot _
  · rfl

/-! ## The move -/

/-- The item goes from its tile into the depot. -/
lemma relocate_depot (tidy : Tidy env.items world) (isDepot : IsDepot world depot)
  (mem : item ∈ world.listing (.tile position))
  (single : world.isStackable env.items item = false) (m : Nat) :
  ∃ moved,
    relocate env world (.tile position)
        ⟨.item depot, -1, none, noLimit⟩ item m none = some moved ∧
      moved.moveItem = some item ∧ moved.updateItem = none ∧
      IsDepot moved.world depot ∧ Tidy env.items moved.world ∧
      moved.world.next = world.next ∧
      ∃ removed : World,
        Takes world.toStock removed.toStock (.tile position) item ∧
          Puts env.items removed.toStock moved.world.toStock (.item depot)
            item := by
  have whole : IsWhole env world item m := by
    intro part
    rw [single] at part
    exact Bool.false_ne_true part.1
  have ne : depot ≠ item := by
    rintro rfl
    exact isDepot.unlisted _ mem
  rcases tileRemoveThing_takes tidy.toSorted mem (.inl whole) with ⟨takes, nextRemoved⟩
  have tidyRemoved := tidy.takes takes nextRemoved
  have free : ((tileRemoveThing env world position item m).item item).parent = none := by
    have parent := congrFun takes.placement.parent item
    rw [update_self] at parent
    exact parent
  have depotRemoved : IsDepot (tileRemoveThing env world position item m) depot := by
    refine isDepot.congr (takes.matter depot) ?_ ?_ nextRemoved.ge
    · have parent := congrFun takes.placement.parent depot
      rw [update_of_ne ne] at parent
      exact parent
    · intro cylinder listed
      by_cases here : cylinder = .tile position
      · subst here
        exact isDepot.unlisted _ (takes.listing.mem_iff.mpr (mem_cons_of_mem _ listed))
      · rw [takes.listing_other here] at listed
        exact isDepot.unlisted _ listed
  have gone : (tileRemoveThing env world position item m).isRemoved item = some true := by
    rw [World.isRemoved, free]
    rfl
  have stillSingle :
      (tileRemoveThing env world position item m).isStackable env.items item = false := by
    rw [Stock.isStackable, itemType_congr (takes.matter item)]
    exact single
  have some_added :
      ∃ added,
        containerAddThing env (tileRemoveThing env world position item m)
          depot (-1) item = some added :=
    containerAddThing_ends depotRemoved.outermost ne
  rcases some_added with ⟨added, done⟩
  have room : (-1 : Int) < ((tileRemoveThing env world position item m).item depot).maxSize := by
    omega
  rcases containerAddThing_puts depotRemoved.isContainer room done with ⟨puts, nextAdded⟩
  have given : item < world.next := tidy.given mem
  have tidyAdded : Tidy env.items added := by
    refine tidyRemoved.puts puts nextAdded free (by rw [nextRemoved]; exact given) ?_
    rintro pointer ⟨⟩
    exact depotRemoved.given
  have depotAdded : IsDepot added depot := by
    refine depotRemoved.congr (puts.matter depot) ?_ ?_ nextAdded.ge
    · have parent := congrFun puts.placement.parent depot
      rw [update_of_ne ne] at parent
      exact parent
    · intro cylinder listed
      by_cases here : cylinder = .item depot
      · subst here
        rcases mem_cons.mp (puts.listing.mem_iff.mp listed) with same | old
        · exact ne same
        · exact depotRemoved.unlisted _ old
      · rw [puts.listing_other here] at listed
        exact depotRemoved.unlisted _ listed
  refine ⟨⟨⟨some item, none, added⟩, true⟩, ?_, rfl, rfl, depotAdded,
    tidyAdded, nextAdded.trans nextRemoved, _, takes, puts⟩
  have addsTo :
      addThing env (tileRemoveThing env world position item m) (.item depot)
        (-1) item = some added := by
    simp only [addThing, depotRemoved.itemClass]
    exact done
  simp only [relocate, removeThing, bind_some, gone, stillSingle,
    Bool.false_eq_true, if_false, addsTo, map_some]

lemma internalMoveItem_depot (quiet : env.Quiet) (ends : ScriptsEnd env)
  (types : PostalTypes env.items) (tidy : Tidy env.items world) (isDepot : IsDepot world depot)
  (mem : item ∈ world.listing (.tile position)) (mail : IsMail (world.item item).id)
  (counted : 1 ≤ (world.item item).count) :
  ∃ moved,
    internalMoveItem env world (.tile position) (some (.item depot)) (-1)
        item (world.item item).count noLimit = some moved ∧
      moved.ret = .noError ∧
      IsDepot moved.world depot ∧ Tidy env.items moved.world ∧
      world.next ≤ moved.world.next ∧
      ∃ removed : World,
        Takes world.toStock removed.toStock (.tile position) item ∧
          Puts env.items removed.toStock moved.world.toStock (.item depot)
            item := by
  have ne : item ≠ depot := by
    rintro rfl
    exact isDepot.unlisted _ mem
  have single : world.isStackable env.items item = false := types.stackable _ mail
  have listed : getIndexOfThing world (.tile position) item ≠ -1 := by
    rw [Ne, getIndexOfThing_eq_neg_one tidy.toSorted, not_not]
    exact mem
  have max :
      queryMaxCount env world (.item depot) (-1) item
          (world.item item).count noLimit =
        (.noError, (world.item item).count) :=
    depot_queryMaxCount isDepot counted
  have units :
      unitsToMove env world item (world.item item).count
        (world.item item).count = (world.item item).count := by
    rw [unitsToMove, single]
    rfl
  have removable :
      queryRemove env world (.tile position) item (world.item item).count noLimit = .noError := by
    have some_left : (world.item item).count ≠ 0 := by omega
    have moveable : (world.itemType env.items item).moveable := types.moveable _ mail
    simp [queryRemove, listed, some_left, single, moveable]
  have relocation :
      ∃ moved,
        relocate env world (.tile position)
            ⟨.item depot, -1, none, noLimit⟩ item (world.item item).count
            none = some moved ∧
          moved.moveItem = some item ∧ moved.updateItem = none ∧
          IsDepot moved.world depot ∧ Tidy env.items moved.world ∧
          moved.world.next = world.next ∧
          ∃ removed : World,
            Takes world.toStock removed.toStock (.tile position) item ∧
              Puts env.items removed.toStock moved.world.toStock (.item depot) item :=
    relocate_depot tidy isDepot mem single _
  rcases relocation with
    ⟨moved, done, moveItem, updateItem, depotMoved, tidyMoved, next, removed, takes, puts⟩
  rcases ends position item moved.world with ⟨told, scripted⟩
  have same := quiet.onRemoveTileItem _ _ _ _ scripted
  have depotTold := depotMoved.same same
  have announced :
      announce env (.tile position) (.item depot) item
        (getIndexOfThing world (.tile position) item) moved = some told := by
    have removedTold :
        notifyRemoved env moved.world (.tile position) item
          (getIndexOfThing world (.tile position) item)
          moved.isCompleteRemoval = some told :=
      scripted
    simp only [announce, if_pos listed, removedTold, bind_some, moveItem, updateItem]
    rw [notifyIfAdded_depot depotTold, bind_some]
    rfl
  refine ⟨⟨.noError, some item, told⟩, ?_, rfl, depotTold,
    tidyMoved.congr same, next.ge.trans same.next, removed, takes, ?_⟩
  · have settled :
        settle env world (.tile position) item (world.item item).count
            ⟨.item depot, -1, none, noLimit⟩ =
          some ⟨.noError, none, world⟩ := by
      have asked :=
        depot_queryAdd isDepot (types.pickupable _ mail) ne (world.item item).count
      simp only [settle, asked, bind_some, reduceCtorEq, if_false]
    have carried :
        carryOut env world (.tile position) item (world.item item).count
            ⟨.item depot, -1, none, noLimit⟩ none
            (.noError, (world.item item).count) =
          some ⟨.noError, some item, told⟩ := by
      simp only [carryOut, units, done, bind_some, announced,
        map_some, single, moveItem, getD_some,
        Bool.false_eq_true, false_and, if_false]
    simp only [internalMoveItem, depot_findDestination isDepot,
      bind_some, reduceCtorEq, if_false, settled, ne_eq,
      not_true_eq_false, finish, max, false_and, units, removable, carried]
  · show Puts env.items removed.toStock told.toStock (.item depot) item
    rw [same.stock]
    exact puts

/-! ## The stamp -/

lemma stamp_matter {items : ItemTable} {matter : Matter} (types : PostalTypes items)
  (mail : IsMail matter.id) (small : matter.count < 256) :
  (matter.setID (matter.id + 1)).setSubType items
      (matter.getSubType items) =
    { matter with id := matter.id + 1 } := by
  have dry := types.dry _ mail
  have subType : matter.getSubType items = matter.count := by
    simp [Matter.getSubType, dry.1, dry.2, types.charges _ mail]
  have group := types.stampedGroup _ mail
  rw [subType]
  simp [Matter.setSubType, Matter.setID, group, dry.1, dry.2,
    types.stampedCharges _ mail, Nat.mod_eq_of_lt small]

lemma updateThing_depot (isDepot : IsDepot world depot)
  (mem : item ∈ world.listing (.item depot)) (itemId count : Nat) :
  ∃ changed,
    updateThing env world (.item depot) item itemId count = some changed ∧
      changed.toStock =
        world.toStock.setMatter item
          (((world.item item).toMatter.setID itemId).setSubType env.items count) ∧
      changed.next = world.next := by
  have listed : item ∈ (world.item depot).itemlist := mem
  have outermost :
      Outermost
        (world.withStock
          (world.toStock.setMatter item
            (((world.item item).toMatter.setID itemId).setSubType env.items count)))
        depot := by
    rw [Outermost, World.withStock_toStock, Stock.setMatter_parent]
    exact isDepot.outermost
  rcases outermost.weighs
      (World.getWeight env.items
        (world.withStock
          (world.toStock.setMatter item
            (((world.item item).toMatter.setID itemId).setSubType env.items count)))
        item - world.getWeight env.items item)
    with ⟨changed, weighed⟩
  have stock := World.updateItemWeight_toStock weighed
  have next := World.updateItemWeight_next weighed
  refine ⟨changed, ?_, stock, next⟩
  simp only [updateThing, isDepot.isContainer, if_true, containerUpdateThing, if_pos listed]
  exact weighed

lemma transformItem_depot (quiet : env.Quiet) (ends : ScriptsEnd env)
  (types : PostalTypes env.items) (tidy : Tidy env.items world) (isDepot : IsDepot world depot)
  (mem : item ∈ world.listing (.item depot)) (mail : IsMail (world.item item).id)
  (small : (world.item item).count < 256) :
  ∃ changed,
    transformItem env world item ((world.item item).id + 1) =
        some (some item, changed) ∧
      changed.toStock =
        world.toStock.setMatter item
          { (world.item item).toMatter with id := (world.item item).id + 1 } ∧
      world.next ≤ changed.next := by
  have parent := tidy.parent _ _ mem
  have listed : getIndexOfThing world (.item depot) item ≠ -1 := by
    rw [Ne, getIndexOfThing_eq_neg_one tidy.toSorted, not_not]
    exact mem
  have some_told :
      ∃ told,
        notifyRemoved env world (.item depot) item
            (getIndexOfThing world (.item depot) item) false = some told ∧
          SameStock world told :=
    notifyRemoved_depot quiet ends isDepot _ false
  rcases some_told with ⟨told, notified, same⟩
  have depotTold := isDepot.same same
  have memberTold : item ∈ told.listing (.item depot) := by
    rw [same.stock]
    exact mem
  have some_changed :
      ∃ changed,
        updateThing env told (.item depot) item ((world.item item).id + 1)
            ((told.item item).toMatter.getSubType env.items) =
          some changed ∧
        changed.toStock =
          told.toStock.setMatter item
            (((told.item item).toMatter.setID
              ((world.item item).id + 1)).setSubType env.items
                ((told.item item).toMatter.getSubType env.items)) ∧
        changed.next = told.next :=
    updateThing_depot depotTold memberTold _ _
  rcases some_changed with ⟨changed, updated, stock, next⟩
  rw [same.stock, stamp_matter types mail small] at stock
  have depotChanged : IsDepot changed depot := by
    have ne : depot ≠ item := by
      rintro rfl
      exact isDepot.unlisted _ mem
    refine isDepot.congr ?_ ?_ ?_ (same.next.trans next.ge)
    · rw [stock]
      simp [Stock.setMatter, ne]
    · rw [stock, Stock.setMatter_parent]
    · intro cylinder
      have placed := Stock.setMatter_placement world.toStock item
        { (world.item item).toMatter with id := (world.item item).id + 1 }
      rw [← stock] at placed
      have listing : changed.listing cylinder = world.listing cylinder :=
        congrArg (fun placement => placement.listing cylinder) placed
      rw [listing]
      exact isDepot.unlisted cylinder
  refine ⟨changed, ?_, stock, same.next.trans next.ge⟩
  have newId : (world.item item).id ≠ (world.item item).id + 1 := by omega
  have onTop :
      (world.itemType env.items item).alwaysOnTop =
        (env.items ((world.item item).id + 1)).alwaysOnTop := by
    rw [types.stampedOnTop _ mail]
    exact types.alwaysOnTop _ mail
  have type : (world.itemType env.items item).type = (env.items ((world.item item).id + 1)).type :=
    (types.stampedType _ mail).symm
  have group :
      (env.items ((world.item item).id + 1)).group = (env.items (told.item item).id).group := by
    rw [same.stock]
    exact types.stampedGroup _ mail
  have inPlace :
      transformInPlace env world (.item depot) item ((world.item item).id + 1) = some changed := by
    simp only [transformInPlace, notified, bind_some, ne_eq, group,
      not_true_eq_false, if_false, updated]
    exact notifyAdded_depot depotChanged _
  simp only [transformItem, if_neg newId, parent, if_neg listed, onTop, type,
    ne_eq, not_true_eq_false, if_false, if_true, inPlace, map_some]

/-- Whatever lies on a tile and is mail gets into the depot. -/
lemma deliver_delivers (quiet : env.Quiet) (ends : ScriptsEnd env)
  (types : PostalTypes env.items) (tidy : Tidy env.items world) (isDepot : IsDepot world depot)
  (mem : item ∈ world.listing (.tile position)) (mail : IsMail (world.item item).id)
  (counted : 1 ≤ (world.item item).count) (small : (world.item item).count < 256) :
  ∃ delivered,
    deliver env world depot item = some delivered ∧
      Delivers world delivered position depot item ∧
      Tidy env.items delivered ∧ IsDepot delivered depot := by
  have parent := tidy.parent _ _ mem
  have ne : depot ≠ item := by
    rintro rfl
    exact isDepot.unlisted _ mem
  rcases internalMoveItem_depot quiet ends types tidy isDepot mem mail
      counted
    with ⟨moved, move, accepted, depotMoved, tidyMoved, next, removed, takes, puts⟩
  have sameMatter : ∀ other,
      (moved.world.item other).toMatter = (world.item other).toMatter :=
    fun other => (puts.matter other).trans (takes.matter other)
  have here : item ∈ moved.world.listing (.item depot) := puts.listing.mem_iff.mpr mem_cons_self
  have transforms :
      ∃ changed,
        transformItem env moved.world item
              ((moved.world.item item).id + 1) = some (some item, changed) ∧
          changed.toStock =
            moved.world.toStock.setMatter item
              { (moved.world.item item).toMatter with
                id := (moved.world.item item).id + 1 } ∧
          moved.world.next ≤ changed.next := by
    refine transformItem_depot quiet ends types tidyMoved depotMoved here ?_ ?_
    · rw [sameMatter]
      exact mail
    · rw [sameMatter]
      exact small
  rcases transforms with ⟨changed, transformed, stock, later⟩
  have placed :=
    Stock.setMatter_placement moved.world.toStock item
      { (moved.world.item item).toMatter with id := (moved.world.item item).id + 1 }
  rw [← stock] at placed
  have listing : ∀ cylinder,
      changed.listing cylinder = moved.world.listing cylinder :=
    fun cylinder => congrArg (fun placement => placement.listing cylinder) placed
  have parents : ∀ other,
      (changed.item other).parent = (moved.world.item other).parent :=
    fun other => congrArg (fun placement => placement.parent other) placed
  have movedParent : (moved.world.item item).parent = some (.item depot) := by
    have update := congrFun puts.placement.parent item
    rw [update_self] at update
    exact update
  refine ⟨changed, ?_, ?_, ?_, ?_⟩
  · have moves :
        internalMoveItem env world (.tile position) (some (.item depot)) (-1)
            item (world.item item).count
            { Flags.none with noLimit := true } = some moved :=
      move
    simp only [deliver, parent, moves, bind_some, if_pos accepted, transformed, map_some]
  · refine ⟨next.trans later, ?_, ?_, ?_, ?_, ?_, ?_, ?_⟩
    · have away : (.tile position : Cylinder) ≠ .item depot := by
        intro same
        cases same
      rw [listing, puts.listing_other away]
      exact takes.listing
    · have away : (.item depot : Cylinder) ≠ .tile position := by
        intro same
        cases same
      rw [listing, ← takes.listing_other away]
      exact puts.listing
    · intro cylinder notTile notDepot
      rw [listing, puts.listing_other notDepot, takes.listing_other notTile]
    · rw [stock]
      simp only [Stock.setMatter, update_self]
      rw [sameMatter]
    · intro other away
      rw [stock, ← sameMatter other]
      simp [Stock.setMatter, away]
    · rw [parents]
      exact movedParent
    · intro other away
      have put := congrFun puts.placement.parent other
      have taken := congrFun takes.placement.parent other
      rw [update_of_ne away] at put taken
      rw [parents]
      exact put.trans taken
  · refine tidyMoved.setMatter_off ?_ ?_ stock later
    · intro place listed
      have wrong := tidyMoved.parent _ _ listed
      rw [movedParent] at wrong
      cases wrong
    · exact tidyMoved.containers item
  · refine depotMoved.congr ?_ (parents depot) ?_ later
    · rw [stock]
      simp [Stock.setMatter, ne]
    · intro cylinder
      rw [listing]
      exact depotMoved.unlisted cylinder

end

end OTServ.Mail
