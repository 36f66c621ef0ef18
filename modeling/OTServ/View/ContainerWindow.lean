import OTServ.Items.Atomicity
import OTServ.Items.Transforming
import OTServ.Library.GuardedRuns
import OTServ.Library.Mirrors

/-!
# Container windows

A client that opens a container is sent its first 255 items, and after that what
`__addThing`, `__updateThing`, `__replaceThing` and `__removeThing` do to it.
The slot of an event has one byte, though the index in the container may not fit
into it.
-/

namespace OTServ.View.Window

open Items
open Library.GuardedRuns
open Library.Mirrors
open List Option

variable (env : Env) (clientId : Nat → Nat) (container : Nat)

structure ShownItem where
  clientId : Nat
  subType : Option Nat
deriving DecidableEq

/-- `NetworkMessage::AddItem` -/
def addItem (matter : Matter) : ShownItem :=
  let it := env.items matter.id
  { clientId := clientId matter.id
    subType :=
      if it.stackable ∨ it.group = .splash ∨ it.group = .fluid then
        some (matter.getSubType env.items % 256)
      else none }

def contents (world : World) : List ShownItem :=
  (world.item container).itemlist.map fun item => addItem env clientId (world.item item).toMatter

/-- `ProtocolGame::sendContainer` -/
def sendContainer (world : World) : List ShownItem :=
  (contents env clientId container world).take 255

inductive Operation where
  | addThing (index : Int) (item : Nat)
  | updateThing (item itemId count : Nat)
  | replaceThing (index : Int) (item : Nat)
  | removeThing (item count : Nat)

namespace Operation

def run : Operation → World → Option World
  | addThing index item, world =>
    containerAddThing env world container index item
  | updateThing item itemId count, world =>
    containerUpdateThing env world container item itemId count
  | replaceThing index item, world =>
    containerReplaceThing env world container index item
  | removeThing item count, world =>
    containerRemoveThing env world container item count

def takesEffect (world : World) : Operation → Bool
  | addThing index _ => index < (world.item container).maxSize
  | updateThing item _ _ => item ∈ (world.item container).itemlist
  | replaceThing index _ => (containerItem world container index).isSome
  | removeThing item _ => item ∈ (world.item container).itemlist

/-- The index which `onUpdateContainerItem` or `onRemoveContainerItem` is given. -/
def index (world : World) : Operation → Option Nat
  | addThing _ _ => none
  | updateThing item _ _ => some ((world.item container).itemlist.idxOf item)
  | replaceThing index _ => some index.toNat
  | removeThing item _ => some ((world.item container).itemlist.idxOf item)

/-- What `onAddContainerItem` and the others have to tell afterwards. -/
def event (before after : World) : Operation → Edit ShownItem
  | addThing _ item =>
    .insert (addItem env clientId (after.item item).toMatter)
  | updateThing item _ _ =>
    .overwrite ((before.item container).itemlist.idxOf item)
      (addItem env clientId (after.item item).toMatter)
  | replaceThing index item =>
    .overwrite index.toNat (addItem env clientId (after.item item).toMatter)
  | removeThing item count =>
    let index := (before.item container).itemlist.idxOf item
    if before.isStackable env.items item ∧ count ≠ (before.item item).count
    then
      .overwrite index (addItem env clientId (after.item item).toMatter)
    else .delete index

def brings : Operation → Option Nat
  | addThing _ item => some item
  | replaceThing _ item => some item
  | _ => none

end Operation

structure Viewing where
  world : World
  window : List ShownItem

/--
An operation, and whether the player with the window is among the spectators
within two squares of the container.
-/
structure Call where
  operation : Operation
  watching : Bool

def Call.isSent (call : Call) (world : World) : Bool :=
  call.operation.takesEffect container world &&
    (world.item container).parent.isSome && call.watching

/-- `Player::sendUpdateContainerItem` and `sendRemoveContainerItem` -/
def slot (index : Nat) : Nat := index % 256

def Call.show (call : Call) (viewing : Viewing) (after : World) : List ShownItem :=
  if call.isSent container viewing.world then
    ((call.operation.event env clientId container viewing.world after).reindex
      slot).apply viewing.window
  else viewing.window

def step (viewing : Viewing) (call : Call) (next : Viewing) : Prop :=
  call.operation.run env container viewing.world = some next.world ∧
    next.window = call.show env clientId container viewing next.world

/--
The client is told of the change, and its index fits into a byte or hits no slot
of the window.  What comes into the container has not been there.
-/
structure Shows (viewing : Viewing) (call : Call) : Prop where
  new :
    ∀ item, call.operation.brings = some item → item ∉ (viewing.world.item container).itemlist
  sent : call.operation.takesEffect container viewing.world → call.isSent container viewing.world
  slot :
    ∀ index,
      call.operation.index container viewing.world = some index →
        index < 256 ∨ viewing.window.length ≤ slot index

structure Mirrors (hidden : Nat) (viewing : Viewing) : Prop where
  nodup : (viewing.world.item container).itemlist.Nodup
  shows : IsFront hidden (contents env clientId container viewing.world) viewing.window

/-! ## What an operation does to the contents -/

variable {item count : Nat} {index : Int} {viewing : Viewing} {call : Call}

section Contents

variable {env : Env} {clientId : Nat → Nat} {container : Nat} {world after : World}

lemma map_of_changed {list : List Nat} {old new : Nat → ShownItem} (nodup : list.Nodup)
  (mem : item ∈ list) (others : ∀ other ∈ list, other ≠ item → new other = old other) :
  list.map new = (list.map old).set (list.idxOf item) (new item) := by
  induction list with
  | nil => cases mem
  | cons head rest ih =>
    have distinct := nodup_cons.mp nodup
    by_cases here : head = item
    · subst here
      rw [idxOf_cons_self, map_cons, map_cons, set_cons_zero]
      congr 1
      apply map_congr_left
      intro other listed
      apply others other (mem_cons_of_mem _ listed)
      rintro rfl
      exact distinct.1 listed
    · have later : item ∈ rest := (mem_cons.mp mem).resolve_left (Ne.symm here)
      rw [idxOf_cons_ne _ here, map_cons, map_cons,
        set_cons_succ, others head mem_cons_self here,
        ih distinct.2 later fun other listed => others other (mem_cons_of_mem _ listed)]

lemma map_erase (list : List Nat) (item : Nat) (shown : Nat → ShownItem) :
  (list.erase item).map shown = (list.map shown).eraseIdx (list.idxOf item) := by
  rw [erase_eq_eraseIdx_of_idxOf rfl, eraseIdx_map]

lemma addThing_contents (room : index < (world.item container).maxSize)
  (done : containerAddThing env world container index item = some after) :
  (after.item container).itemlist =
      item :: (world.item container).itemlist ∧
    contents env clientId container after =
      addItem env clientId (after.item item).toMatter ::
        contents env clientId container world := by
  rw [containerAddThing, if_neg (not_le.mpr room)] at done
  have stock := World.updateItemWeight_toStock done
  have list : (after.item container).itemlist = item :: (world.item container).itemlist := by
    rw [stock]
    simp [Stock.setItemlist]
  have matter : ∀ other,
      (after.item other).toMatter = (world.item other).toMatter := by
    intro other
    rw [stock, World.withStock_toStock, Stock.setItemlist_matter, Stock.setParent_matter]
  refine ⟨list, ?_⟩
  simp only [contents, list, map_cons, matter]

/-- Nothing but one item of the container looks another way. -/
lemma contents_of_changed (nodup : (world.item container).itemlist.Nodup)
  (mem : item ∈ (world.item container).itemlist)
  (list : (after.item container).itemlist = (world.item container).itemlist)
  (others : ∀ other, other ≠ item → (after.item other).toMatter = (world.item other).toMatter) :
  contents env clientId container after =
    (contents env clientId container world).set
      ((world.item container).itemlist.idxOf item)
      (addItem env clientId (after.item item).toMatter) := by
  rw [contents, list]
  apply map_of_changed nodup mem
  intro other _ ne
  exact congrArg (addItem env clientId) (others other ne)

lemma setMatter_others
  {matter : Matter} (stock : after.toStock = world.toStock.setMatter item matter) :
  (∀ pointer,
      (after.item pointer).itemlist = (world.item pointer).itemlist) ∧
    ∀ other, other ≠ item → (after.item other).toMatter = (world.item other).toMatter := by
  rw [stock]
  constructor
  · intro pointer
    exact Stock.setMatter_itemlist _ _ _ _
  · intro other ne
    simp [Stock.setMatter, ne]

lemma updateThing_contents {itemId : Nat} (nodup : (world.item container).itemlist.Nodup)
  (mem : item ∈ (world.item container).itemlist)
  (done : containerUpdateThing env world container item itemId count = some after) :
  (after.item container).itemlist = (world.item container).itemlist ∧
    contents env clientId container after =
      (contents env clientId container world).set
        ((world.item container).itemlist.idxOf item)
        (addItem env clientId (after.item item).toMatter) := by
  rw [containerUpdateThing, if_pos mem] at done
  have changed := setMatter_others (World.updateItemWeight_toStock done)
  exact ⟨changed.1 container, contents_of_changed nodup mem (changed.1 container) changed.2⟩

lemma removeThing_part_contents (nodup : (world.item container).itemlist.Nodup)
  (mem : item ∈ (world.item container).itemlist)
  (part : world.isStackable env.items item ∧ count ≠ (world.item item).count)
  (done : containerRemoveThing env world container item count = some after) :
  (after.item container).itemlist = (world.item container).itemlist ∧
    contents env clientId container after =
      (contents env clientId container world).set
        ((world.item container).itemlist.idxOf item)
        (addItem env clientId (after.item item).toMatter) := by
  rw [containerRemoveThing, if_pos mem, if_pos part] at done
  have changed := setMatter_others (World.updateItemWeight_toStock done)
  exact ⟨changed.1 container, contents_of_changed nodup mem (changed.1 container) changed.2⟩

lemma removeThing_whole_contents (mem : item ∈ (world.item container).itemlist)
  (whole : ¬(world.isStackable env.items item ∧ count ≠ (world.item item).count))
  (done : containerRemoveThing env world container item count = some after) :
  (after.item container).itemlist =
      (world.item container).itemlist.erase item ∧
    contents env clientId container after =
      (contents env clientId container world).eraseIdx
        ((world.item container).itemlist.idxOf item) := by
  rw [containerRemoveThing, if_pos mem, if_neg whole] at done
  rcases map_eq_some_iff.mp done with ⟨lighter, weighed, rfl⟩
  have stock := World.updateItemWeight_toStock weighed
  have list :
      (((lighter.toStock.setParent item none).setItemlist container
          ((world.item container).itemlist.erase item)).item
        container).itemlist = (world.item container).itemlist.erase item := by
    simp [Stock.setItemlist]
  refine ⟨list, ?_⟩
  rw [contents, World.withStock_toStock, list, contents, ← map_erase]
  apply map_congr_left
  intro other _
  rw [Stock.setItemlist_matter, Stock.setParent_matter, stock]

lemma replaceThing_contents (there : (containerItem world container index).isSome)
  (done : containerReplaceThing env world container index item = some after) :
  (after.item container).itemlist =
      (world.item container).itemlist.set index.toNat item ∧
    contents env clientId container after =
      (contents env clientId container world).set index.toNat
        (addItem env clientId (after.item item).toMatter) := by
  rcases isSome_iff_exists.mp there with ⟨oldItem, found⟩
  simp only [containerReplaceThing, found] at done
  rcases map_eq_some_iff.mp done with ⟨weighed, weighing, rfl⟩
  have stock := World.updateItemWeight_toStock weighing
  have list :
      ((((weighed.toStock.setParent item
          (some (.item container))).setParent oldItem none).setItemlist
            container
            ((world.item container).itemlist.set index.toNat item)).item
        container).itemlist =
      (world.item container).itemlist.set index.toNat item := by
    simp [Stock.setItemlist]
  have matter : ∀ other,
      ((((weighed.toStock.setParent item
          (some (.item container))).setParent oldItem none).setItemlist
            container
            ((world.item container).itemlist.set index.toNat item)).item
        other).toMatter = (world.item other).toMatter := by
    intro other
    rw [Stock.setItemlist_matter, Stock.setParent_matter, Stock.setParent_matter, stock]
  refine ⟨list, ?_⟩
  simp only [contents, World.withStock_toStock, list, matter, map_set]

end Contents

/-! ## Steps -/

section Steps

variable {env : Env} {clientId : Nat → Nat} {container : Nat} {world after : World}
  {operation : Operation}

lemma Operation.idle (without : operation.takesEffect container world = false)
  (done : operation.run env container world = some after) : after = world := by
  cases operation with
  | addThing index item =>
    have full : ((world.item container).maxSize : Int) ≤ index :=
      not_lt.mp (of_decide_eq_false without)
    rw [Operation.run, containerAddThing, if_pos full] at done
    exact (some.inj done).symm
  | updateThing item itemId count =>
    have absent := of_decide_eq_false without
    rw [Operation.run, containerUpdateThing, if_neg absent] at done
    exact (some.inj done).symm
  | replaceThing index item =>
    have absent : containerItem world container index = none :=
      not_isSome_iff_eq_none.mp (Bool.eq_false_iff.mp without)
    simp only [Operation.run, containerReplaceThing, absent] at done
    exact (some.inj done).symm
  | removeThing item count =>
    have absent := of_decide_eq_false without
    rw [Operation.run, containerRemoveThing, if_neg absent] at done
    exact (some.inj done).symm

/-- A function that takes effect makes the edit of which it tells. -/
lemma Operation.edits (nodup : (world.item container).itemlist.Nodup)
  (new : ∀ item, operation.brings = some item → item ∉ (world.item container).itemlist)
  (effect : operation.takesEffect container world = true)
  (done : operation.run env container world = some after) :
  (after.item container).itemlist.Nodup ∧
    contents env clientId container after =
      (operation.event env clientId container world after).apply
        (contents env clientId container world) := by
  cases operation with
  | addThing index item =>
    rcases addThing_contents (of_decide_eq_true effect) done with ⟨list, same⟩
    refine ⟨?_, same⟩
    rw [list]
    exact nodup_cons.mpr ⟨new item rfl, nodup⟩
  | updateThing item itemId count =>
    rcases updateThing_contents nodup (of_decide_eq_true effect) done with ⟨list, same⟩
    refine ⟨?_, same⟩
    rw [list]
    exact nodup
  | replaceThing index item =>
    rcases replaceThing_contents effect done with ⟨list, same⟩
    refine ⟨?_, same⟩
    rw [list]
    exact nodup.set (new item rfl)
  | removeThing item count =>
    have member := of_decide_eq_true effect
    by_cases part : world.isStackable env.items item ∧ count ≠ (world.item item).count
    · rcases removeThing_part_contents nodup member part done with ⟨list, same⟩
      refine ⟨?_, ?_⟩
      · rw [list]
        exact nodup
      · rw [Operation.event, if_pos part]
        exact same
    · rcases removeThing_whole_contents member part done with ⟨list, same⟩
      refine ⟨?_, ?_⟩
      · rw [list]
        exact nodup.erase item
      · rw [Operation.event, if_neg part]
        exact same

lemma Operation.event_index :
  (operation.event env clientId container world after).index =
    operation.index container world := by
  cases operation with
  | addThing index item => rfl
  | updateThing item itemId count => rfl
  | replaceThing index item => rfl
  | removeThing item count =>
    rw [Operation.event]
    split_ifs
    · rfl
    · rfl

lemma Mirrors.step
  {hidden : Nat} {next : Viewing} (mirrors : Mirrors env clientId container hidden viewing)
  (shows : Shows container viewing call)
  (taken : step env clientId container viewing call next) :
  Mirrors env clientId container hidden next := by
  rcases taken with ⟨done, window⟩
  cases effect : call.operation.takesEffect container viewing.world with
  | false =>
    have same := Operation.idle effect done
    have unsent : call.isSent container viewing.world = false := by
      rw [Call.isSent, effect]
      rfl
    rw [Call.show, unsent] at window
    constructor
    · rw [same]
      exact mirrors.nodup
    · rw [same, window]
      exact mirrors.shows
  | true =>
    rcases Operation.edits mirrors.nodup shows.new effect done with ⟨nodup, edited⟩
    rw [Call.show, if_pos (shows.sent effect)] at window
    refine ⟨nodup, ?_⟩
    rw [edited, window]
    apply mirrors.shows.edit_reindexed
    intro index at_index
    rw [Operation.event_index] at at_index
    rcases shows.slot index at_index with small | outside
    · exact .inl (Nat.mod_eq_of_lt small)
    · exact .inr ⟨outside.trans (Nat.mod_le index 256), outside⟩

lemma exists_step (property : World → List ShownItem → Prop)
  (done : call.operation.run env container viewing.world = some after)
  (right : property after (call.show env clientId container viewing after)) :
  ∃ next, step env clientId container viewing call next ∧ property next.world next.window :=
  ⟨⟨after, _⟩, ⟨done, rfl⟩, right⟩

/--
While the client is told of every change, and no index above 255 comes down to a
slot of the window, the window shows the front of the container, and no more is
hidden from it than was when it was opened.
-/
theorem window_mirrors_container
  {start finish : Viewing} (nodup : (start.world.item container).itemlist.Nodup)
  (opened : start.window = sendContainer env clientId container start.world)
  (run : Reaches (step env clientId container) (Shows container) start finish) :
  finish.window =
      (contents env clientId container finish.world).take finish.window.length ∧
    (contents env clientId container finish.world).length ≤
      finish.window.length + ((contents env clientId container start.world).length - 255) := by
  have initially :
      Mirrors env clientId container
        ((contents env clientId container start.world).length - 255) start := by
    refine ⟨nodup, ?_⟩
    rw [opened]
    exact IsFront.take _ 255
  have mirrored := run.invariant initially
    fun state call next mirrors shows taken => mirrors.step shows taken
  exact ⟨mirrored.shows.window_eq, mirrored.shows.length_le⟩

end Steps

/-- Type 0 is a depot. -/
def depotTypes : ItemTable
  | 0 => { plainType with type := .depot, moveable := false }
  | _ => plainType

/-- The depot 0 stands on the glade, with the items 1 to 257 in it. -/
def crowdedDepot : World :=
  { armory with
    item := fun pointer =>
      { toMatter := single depotTypes pointer
        parent := if pointer = 0 then some (.tile glade) else some (.item 0)
        itemlist := if pointer = 0 then List.range' 1 257 else [] }
    tile := fun position => if position = glade then some ⟨none, [], [0]⟩ else none
    inventory := fun _ _ => none
    next := 258 }

def opening : Viewing where
  world := crowdedDepot
  window := sendContainer (stillEnv depotTypes) id 0 crowdedDepot

/-- The first item goes, and then the window shows the others. -/
theorem window_mirrors_container_opening :
  ∃ finish : Viewing,
    finish.window =
        (contents (stillEnv depotTypes) id 0 finish.world).take finish.window.length ∧
      (contents (stillEnv depotTypes) id 0 finish.world).length ≤
        finish.window.length +
          ((contents (stillEnv depotTypes) id 0 opening.world).length - 255) := by
  have goes : (Operation.run (stillEnv depotTypes) 0 (.removeThing 1 1) opening.world).isSome := by
    decide +kernel
  rcases isSome_iff_exists.mp goes with ⟨after, done⟩
  have run :
      Reaches (step (stillEnv depotTypes) id 0) (Shows 0) opening
        ⟨after, Call.show (stillEnv depotTypes) id 0 ⟨.removeThing 1 1, true⟩ opening after⟩ := by
    have shows : Shows 0 opening ⟨.removeThing 1 1, true⟩ := by
      constructor
      · intro _ impossible
        cases impossible
      · intro _
        decide +kernel
      · intro index found
        have first : Operation.index 0 crowdedDepot (.removeThing 1 1) = some 0 := by
          decide +kernel
        have zero : some 0 = some index := first.symm.trans found
        rw [← some.inj zero]
        exact .inl (by decide)
    exact .tail .refl shows ⟨done, rfl⟩
  have nodup : (opening.world.item 0).itemlist.Nodup := by
    decide +kernel
  have whole := window_mirrors_container nodup rfl run
  exact ⟨_, whole⟩

/-- The last item goes, and the first one disappears from the window. -/
theorem last_item_hides_first :
  ∃ finish : Viewing,
    crowdedDepot.listing (.item 0) = List.range' 1 257 ∧
      (crowdedDepot.item 0).parent = some (.tile glade) ∧
        step (stillEnv depotTypes) id 0 opening
            ⟨.removeThing 257 1, true⟩ finish ∧
          finish.window ≠
            (contents (stillEnv depotTypes) id 0 finish.world).take
              finish.window.length := by
  have goes :
      (Operation.run (stillEnv depotTypes) 0 (.removeThing 257 1) opening.world).isSome := by
    decide +kernel
  rcases isSome_iff_exists.mp goes with ⟨after, done⟩
  have wrong :
      ∀ after ∈
        Operation.run (stillEnv depotTypes) 0 (.removeThing 257 1) opening.world,
        Call.show (stillEnv depotTypes) id 0 ⟨.removeThing 257 1, true⟩
            opening after ≠
          (contents (stillEnv depotTypes) id 0 after).take
            (Call.show (stillEnv depotTypes) id 0 ⟨.removeThing 257 1, true⟩
              opening after).length := by
    decide +kernel
  have listing : crowdedDepot.listing (.item 0) = List.range' 1 257 := by
    decide +kernel
  have parent : (crowdedDepot.item 0).parent = some (.tile glade) := by
    decide +kernel
  have hidden :=
    exists_step
      (fun world window => window ≠ (contents (stillEnv depotTypes) id 0 world).take window.length)
      done (wrong after done)
  rcases hidden with ⟨finish, taken, different⟩
  exact ⟨finish, listing, parent, taken, different⟩

end OTServ.View.Window
