import OTServ.Items.Atomicity
import OTServ.Mail.Delivery

/-!
# Mail is neither lost nor duplicated

A letter or parcel that is put on the tile of a mailbox is afterwards in the
depot of the receiver, stamped and with all that is in it, or still where it
was.  For a receiver who is not online this is so exactly if the player who has
been loaded is written back, under a number which is read as that of a depot.
-/

namespace OTServ.Mail

open Attributes
open Items
open Library
open Map
open List Function

def Inside (world : World) (item : Nat) : Nat → Prop :=
  Relation.TransGen (fun container thing => thing ∈ (world.item container).itemlist) item

structure Lies (world : World) (item : Nat) (cylinder : Cylinder) : Prop where
  once : (world.listing cylinder).count item = 1
  only : ∀ other, other ≠ cylinder → item ∉ world.listing other

/-- All that is in the item is as it was, and so is what the item says. -/
structure Whole (before after : Office) (item : Nat) : Prop where
  itemlist : (after.world.item item).itemlist = (before.world.item item).itemlist
  attributes : after.attributes item = before.attributes item
  inside :
    ∀ thing,
      Inside before.world item thing →
        after.world.item thing = before.world.item thing ∧
          after.attributes thing = before.attributes thing

structure Stays (before after : Office) (position : Position) (item : Nat) : Prop where
  lies : Lies after.world item (.tile position)
  same : after.world.item item = before.world.item item
  whole : Whole before after item
  saved : after.saved = before.saved

structure InDepot (before after : Office) (player dp item : Nat) : Prop where
  lies :
    ∃ depot, (after.depots player).find? dp = some depot ∧ Lies after.world item (.item depot)
  stamped :
    (after.world.item item).toMatter =
      { (before.world.item item).toMatter with id := (before.world.item item).id + 1 }
  whole : Whole before after item
  saved : after.saved = before.saved

def rowsBelow (rows : List Row) (sid : Nat) : List Nat :=
  (rows.filter (·.pid = sid)).map (·.item)

/--
The item is in the depot which `loadPlayer` makes of the rows: it takes only
numbers below 100 for those of depots.
-/
structure InRows (items : ItemTable) (before : Office) (rows : List Row) (dp item : Nat) :
  Prop where
  number : dp < 100
  inDepot :
    ∃ locker ∈ rows, ∃ row ∈ rows,
      locker.pid = dp ∧ row.pid = locker.sid ∧ row.item = item ∧
        row.itemtype = (before.world.item item).id + 1
  single : ∀ row ∈ rows, ∀ other ∈ rows, row.pid = dp → other.pid = dp → row = other
  once : (rows.map (·.item)).count item = 1
  whole :
    ∀ row ∈ rows,
      row.item = item ∨ Inside before.world item row.item →
        rowsBelow rows row.sid = (before.world.item row.item).itemlist ∧
          row.attributes = before.attributes row.item ∧
          row.count = (before.world.item row.item).toMatter.getSubType items ∧
          (row.item ≠ item → row.itemtype = (before.world.item row.item).id)

/-- Nobody has the item any more: it is at most in a depot of no player. -/
def LeftMemory (before after : Office) (item : Nat) : Prop :=
  ∃ depot,
    before.world.next ≤ depot ∧
      (∀ cylinder, depot ∉ after.world.listing cylinder) ∧
      (∀ player dp, (after.depots player).find? dp ≠ some depot) ∧
      ∀ cylinder, item ∈ after.world.listing cylinder → cylinder = .item depot

/-- The item is in the depot of the named receiver for the named town. -/
def Delivered (items : ItemTable) (towns : Towns) (database : Database) (before after : Office)
  (item : Nat) : Prop :=
  ∃ receiver dp name guid,
    getReceiver towns before item = some (receiver, dp) ∧
      database.getGuidByName receiver = some (name, guid) ∧
      match before.getPlayerByName name with
      | some player => InDepot before after player dp item
      | none =>
        ∃ loaded,
          database.loadPlayer name = some loaded ∧
            InRows items before (after.saved loaded.guid) dp item ∧
            LeftMemory before after item

def MailKept (items : ItemTable) (towns : Towns) (database : Database) (before : Office)
  (position : Position) (item : Nat) (sent : Bool) (after : Office) : Prop :=
  (sent = true ∧ Delivered items towns database before after item) ∨
    (sent = false ∧ Stays before after position item)

structure Addressed (towns : Towns) (database : Database) (office : Office) (item : Nat)
  (receiver : String) (dp : Nat) (name : String) (guid : Nat) : Prop where
  address : getReceiver towns office item = some (receiver, dp)
  named : receiver ≠ ""
  number : dp ≠ 0
  known : database.getGuidByName receiver = some (name, guid)

structure Loadable (database : Database) (office : Office) (name : String) (loaded : Loaded) :
  Prop where
  offline : office.getPlayerByName name = none
  present : database.playerExists name = true
  load : database.loadPlayer name = some loaded

/--
If the receiver has to be loaded, the rows are written, and the town has a number
that can be that of a depot.
-/
def Deliverable (towns : Towns) (database : Database) (office : Office) (item : Nat) : Prop :=
  ∀ receiver dp name guid loaded,
    Addressed towns database office item receiver dp name guid →
      Loadable database office name loaded → database.savePlayer loaded.guid = .writes ∧ dp < 100

/-- The players online have depots, and what is listed is tidy. -/
structure Office.Sound (items : ItemTable) (office : Office) : Prop where
  tidy : Tidy items office.world
  depots : ∀ player, (office.depots player).Sound office.world

/-- A letter or parcel on a tile, not also in the rows of anybody. -/
structure Posted (office : Office) (position : Position) (item : Nat) : Prop where
  member : item ∈ office.world.listing (.tile position)
  mail : IsMail (office.world.item item).id
  counted : 1 ≤ (office.world.item item).count
  small : (office.world.item item).count < 256
  unsaved : ∀ guid, ∀ row ∈ office.saved guid, row.item ≠ item

variable {items : ItemTable} {after : World} {depots : DepotMap} {receiver name : String}
  {guid : Nat}

section

variable {env : Env} {base world after : World} {depot item thing : Nat} {pos : Position}

lemma item_eq {left right : Items.Item} (matter : left.toMatter = right.toMatter)
  (parent : left.parent = right.parent) (itemlist : left.itemlist = right.itemlist) :
  left = right := by
  cases left
  cases right
  simp_all

lemma Inside.listed (inside : Inside world item thing) :
  ∃ container, thing ∈ world.listing (.item container) := by
  cases inside with
  | single listed => exact ⟨item, listed⟩
  | tail _ listed => exact ⟨_, listed⟩

lemma Inside.enlarged (inside : Inside base item thing) (tidy : Tidy items base)
  (enlarges : Enlarges base world) (old : item < base.next) : Inside world item thing := by
  induction inside with
  | single listed =>
    refine Relation.TransGen.single ?_
    rw [enlarges.item item old]
    exact listed
  | @tail container _ before listed further =>
    refine Relation.TransGen.tail further ?_
    have earlier : Inside base item container := before
    rcases earlier.listed with ⟨above, mem⟩
    rw [enlarges.item container (tidy.given mem)]
    exact listed

/-! ## The delivery -/

section

variable (delivers : Delivers world after pos depot item)
include delivers

lemma Delivers.lies (tidy : Tidy items world) (mem : item ∈ world.listing (.tile pos)) :
  Lies after item (.item depot) where
  once := by
    have absent : item ∉ world.listing (.item depot) := by
      intro there
      have wrong := tidy.unique mem there
      cases wrong
    rw [delivers.arrived.count_eq, count_cons_self, count_eq_zero_of_not_mem absent]
  only other away listed := by
    by_cases here : other = .tile pos
    · subst here
      have nodup := tidy.nodup (.tile pos)
      rw [delivers.left.nodup_iff] at nodup
      exact (nodup_cons.mp nodup).1 listed
    · rw [delivers.others other here away] at listed
      exact here (tidy.unique mem listed)

lemma Delivers.inside (tidy : Tidy items world) (isDepot : IsDepot world depot)
  (mem : item ∈ world.listing (.tile pos)) (inside : Inside world item thing) :
  after.item thing = world.item thing := by
  rcases inside.listed with ⟨container, listed⟩
  have notItem : thing ≠ item := by
    rintro rfl
    have wrong := tidy.unique mem listed
    cases wrong
  have notDepot : thing ≠ depot := by
    rintro rfl
    exact isDepot.unlisted _ listed
  refine item_eq (delivers.matter thing notItem) (delivers.parents thing notItem) ?_
  have same := delivers.others (.item thing)
    (by intro wrong; cases wrong)
    (by intro wrong; cases wrong; exact notDepot rfl)
  exact same

lemma Delivers.itemlist
  (isDepot : IsDepot world depot) (mem : item ∈ world.listing (.tile pos)) :
  (after.item item).itemlist = (world.item item).itemlist := by
  have same := delivers.others (.item item)
    (by intro wrong; cases wrong)
    (by intro wrong; cases wrong; exact isDepot.unlisted _ mem)
  exact same

lemma Delivers.isDepot (mem : item ∈ world.listing (.tile pos)) {other : Nat}
  (isDepot : IsDepot world other) : IsDepot after other := by
  have ne : other ≠ item := by
    rintro rfl
    exact isDepot.unlisted _ mem
  refine isDepot.congr (delivers.matter other ne)
    (delivers.parents other ne) ?_ delivers.next
  intro cylinder listed
  by_cases tile : cylinder = .tile pos
  · subst tile
    exact isDepot.unlisted _ (delivers.left.mem_iff.mpr (mem_cons_of_mem _ listed))
  · by_cases here : cylinder = .item depot
    · subst here
      rcases mem_cons.mp (delivers.arrived.mem_iff.mp listed) with same | old
      · exact ne same
      · exact isDepot.unlisted _ old
    · rw [delivers.others cylinder tile here] at listed
      exact isDepot.unlisted _ listed

end

/-- How things are when the item has come to a depot of the player. -/
structure Arrives (items : ItemTable) (base after : World) (depots : DepotMap) (depot item : Nat) :
  Prop where
  tidy : Tidy items after
  lies : Lies after item (.item depot)
  stamped :
    (after.item item).toMatter = { (base.item item).toMatter with id := (base.item item).id + 1 }
  itemlist : (after.item item).itemlist = (base.item item).itemlist
  inside : ∀ thing, Inside base item thing → after.item thing = base.item thing
  sound : depots.Sound after

end

section

variable {env : Env} {towns : Towns} {database : Database} {office : Office}
  {item depot dp least : Nat} {pos : Position} {storage : Storage}

lemma deliver_arrives (quiet : env.Quiet) (ends : ScriptsEnd env) (types : PostalTypes env.items)
  (tidy : Tidy env.items office.world) (posted : Posted office pos item)
  (stores : Stores env.items office.world least storage)
  (found : storage.depots.find? dp = some depot) :
  ∃ delivered,
    deliver env storage.world depot item = some delivered ∧
      Arrives env.items office.world delivered storage.depots depot item := by
  have isDepot := stores.isDepot dp depot found
  have old : item < office.world.next := tidy.given posted.member
  have sameItem := stores.enlarges.item item old
  have mem : item ∈ storage.world.listing (.tile pos) := by
    have same :
        storage.world.listing (.tile pos) = office.world.listing (.tile pos) := by
      simp only [Stock.listing, stores.enlarges.tile]
    rw [same]
    exact posted.member
  have delivery :
      ∃ delivered,
        deliver env storage.world depot item = some delivered ∧
          Delivers storage.world delivered pos depot item ∧
          Tidy env.items delivered ∧ IsDepot delivered depot := by
    refine deliver_delivers quiet ends types stores.tidy isDepot mem ?_ ?_ ?_
    · rw [sameItem]
      exact posted.mail
    · rw [sameItem]
      exact posted.counted
    · rw [sameItem]
      exact posted.small
  rcases delivery with ⟨delivered, done, delivers, tidyDelivered, _⟩
  refine ⟨delivered, done, tidyDelivered, delivers.lies stores.tidy mem, ?_, ?_, ?_, ?_⟩
  · rw [delivers.stamped, sameItem]
  · rw [delivers.itemlist isDepot mem, sameItem]
  · intro thing inside
    rcases inside.listed with ⟨container, listed⟩
    rw [delivers.inside stores.tidy isDepot mem (inside.enlarged tidy stores.enlarges old)]
    exact stores.enlarges.item thing (tidy.given listed)
  · exact
      ⟨fun other pointer there =>
        delivers.isDepot mem (stores.isDepot other pointer there),
        stores.injective⟩

lemma Office.Sound.stores (sound : office.Sound env.items) (player : Nat) :
  Stores env.items office.world 0 ⟨office.world, office.depots player⟩ where
  tidy := sound.tidy
  enlarges := .refl office.world
  isDepot := (sound.depots player).isDepot
  least _ _ _ := Nat.zero_le _
  injective := (sound.depots player).injective

lemma sendOnline_inDepot
  (quiet : env.Quiet) (ends : ScriptsEnd env) (types : PostalTypes env.items)
  (sound : office.Sound env.items) (posted : Posted office pos item) (player : Nat) :
  ∃ after,
    sendOnline env office item dp player = some (true, after) ∧
      InDepot office after player dp item := by
  have opening :
      ∃ depot opened,
        getDepot env.items ⟨office.world, office.depots player⟩
              (office.maxDepotLimit player) dp = some (some depot, opened) ∧
          Stores env.items office.world 0 opened ∧
          opened.depots.find? dp = some depot :=
    getDepot_stores types.toLockerTypes (Nat.zero_le _) (sound.stores player)
  rcases opening with ⟨depot, opened, open', stores, found⟩
  rcases deliver_arrives quiet ends types sound.tidy posted stores found with
    ⟨delivered, done, arrives⟩
  refine ⟨{ office with
      world := delivered
      depots := update office.depots player opened.depots }, ?_,
    ?_⟩
  · simp only [sendOnline, open', Option.bind_some, done, Option.map_some]
  · refine ⟨⟨depot, ?_, arrives.lies⟩, arrives.stamped, ?_, rfl⟩
    · show (update office.depots player opened.depots player).find? dp = some depot
      rw [update_self]
      exact found
    · exact ⟨arrives.itemlist, rfl, fun thing inside => ⟨arrives.inside thing inside, rfl⟩⟩

/-! ## Receivers who are not -/

lemma rowsBelow_eq (items : ItemTable) (world : World) (attributes : Nat → ItemAttributes)
  (entries : List (Numbering.Entry Nat)) (sid : Nat) :
  rowsBelow (entries.map (rowOf items world attributes)) sid =
    Numbering.childrenOf entries sid := by
  rw [rowsBelow, Numbering.childrenOf, filter_map, map_map]
  rfl

/-- The rows that are written tell of the item and all that is in it. -/
lemma written_inRows {entries : List (Numbering.Entry Nat)} {attributes : Nat → ItemAttributes}
  (written :
    Numbering.Written (fun container => (after.item container).itemlist)
      depots.entries 100 entries) (types : PostalTypes env.items)
  (mail : IsMail (office.world.item item).id)
  (arrives : Arrives env.items office.world after depots depot item)
  (found : depots.find? dp = some depot) (number : dp < 100) (old : item < office.world.next)
  (tidy : Tidy env.items office.world)
  (said :
    ∀ pointer, pointer < office.world.next → attributes pointer = office.attributes pointer) :
  InRows env.items office (entries.map (rowOf env.items after attributes)) dp item := by
  have isRoot := (OrderedMap.mem_entries_iff depots dp depot).mpr found
  rcases written.listed (dp, depot) isRoot with ⟨sid, locker⟩
  have below : item ∈ Numbering.childrenOf entries sid := by
    have under := written.under _ locker
    rw [under]
    have listed : item ∈ after.listing (.item depot) :=
      count_pos_iff.mp (by rw [arrives.lies.once]; exact Nat.one_pos)
    exact listed
  rcases mem_map.mp below with ⟨entry, filtered, node⟩
  rcases mem_filter.mp filtered with ⟨mem, parent⟩
  have root : ∀ other ∈ entries, other.parent = dp → other.node = depot := by
    intro other otherMember same
    rcases written.above other otherMember with isTop | ⟨above, aboveMember, sameId, _⟩
    · rw [same] at isTop
      have there := (OrderedMap.mem_entries_iff depots dp other.node).mp isTop
      rw [found] at there
      exact (Option.some.inj there).symm
    · have late := written.later above aboveMember
      omega
  refine ⟨number, ?_, ?_, ?_, ?_⟩
  · refine ⟨_, mem_map.mpr ⟨_, locker, rfl⟩, _,
      mem_map.mpr ⟨entry, mem, rfl⟩, rfl, ?_, node, ?_⟩
    · simpa [rowOf] using parent
    · show (after.item entry.node).id = _
      rw [node, arrives.stamped]
  · intro row rowMember other otherMember rowTop otherTop
    rcases mem_map.mp rowMember with ⟨left, leftMember, rfl⟩
    rcases mem_map.mp otherMember with ⟨right, rightMember, rfl⟩
    have sameNode : left.node = right.node :=
      (root left leftMember rowTop).trans (root right rightMember otherTop).symm
    rw [inj_on_of_nodup_map written.nodup leftMember rightMember sameNode]
  · have items :
        (entries.map (rowOf env.items after attributes)).map (·.item) = entries.map (·.node) := by
      simp [comp_def, rowOf]
    rw [items]
    exact count_eq_one_of_mem written.nodup (mem_map.mpr ⟨entry, mem, node⟩)
  · intro row rowMember about
    rcases mem_map.mp rowMember with ⟨told, toldMember, rfl⟩
    have isOld : told.node < office.world.next := by
      rcases about with same | inside
      · have same' : told.node = item := same
        rw [same']
        exact old
      · rcases inside.listed with ⟨container, listed⟩
        exact tidy.given listed
    have sameList : (after.item told.node).itemlist = (office.world.item told.node).itemlist := by
      rcases about with same | inside
      · have same' : told.node = item := same
        rw [same']
        exact arrives.itemlist
      · rw [arrives.inside told.node inside]
    refine ⟨?_, said told.node isOld, ?_, ?_⟩
    · rw [rowsBelow_eq]
      exact (written.under told toldMember).trans sameList
    · rcases about with same | inside
      · have same' : told.node = item := same
        show (after.item told.node).toMatter.getSubType env.items =
          (office.world.item told.node).toMatter.getSubType env.items
        rw [same', arrives.stamped]
        simp [Matter.getSubType, types.stampedGroup _ mail,
          types.stampedCharges _ mail, types.charges _ mail]
      · show (after.item told.node).toMatter.getSubType env.items =
          (office.world.item told.node).toMatter.getSubType env.items
        rw [arrives.inside told.node inside]
    · intro other
      rcases about with same | inside
      · exact absurd same other
      · show (after.item told.node).id = (office.world.item told.node).id
        rw [arrives.inside told.node inside]

lemma Arrives.leftMemory {changed : Office}
  (arrives : Arrives env.items office.world after depots depot item)
  (sound : office.Sound env.items) (found : depots.find? dp = some depot)
  (new : office.world.next ≤ depot) (sameWorld : changed.world = after)
  (sameDepots : changed.depots = office.depots) : LeftMemory office changed item := by
  refine ⟨depot, new, ?_, ?_, ?_⟩
  · rw [sameWorld]
    exact (arrives.sound.isDepot dp depot found).unlisted
  · intro player other there
    rw [sameDepots] at there
    have given := ((sound.depots player).isDepot other depot there).given
    omega
  · intro cylinder listed
    rw [sameWorld] at listed
    by_contra elsewhere
    exact arrives.lies.only cylinder elsewhere listed

lemma sendOffline_spec
  (quiet : env.Quiet) (ends : ScriptsEnd env) (types : PostalTypes env.items)
  (sound : office.Sound env.items) (posted : Posted office pos item) (loaded : Loaded) :
  ∃ after,
    sendOffline env database office item dp loaded = some (true, after) ∧
      LeftMemory office after item ∧
      (InRows env.items office (after.saved loaded.guid) dp item ↔
        database.savePlayer loaded.guid = .writes ∧ dp < 100) := by
  have loading :
      ∃ storage attributes,
        loadDepots env.items office loaded = some (storage, attributes) ∧
          Stores env.items office.world office.world.next storage ∧
          ∀ pointer, pointer < office.world.next →
            attributes pointer = office.attributes pointer :=
    loadDepots_stores sound.tidy
  rcases loading with ⟨storage, attributes, load, stored, said⟩
  have opening :
      ∃ depot opened,
        getDepot env.items storage loaded.maxDepotLimit dp =
            some (some depot, opened) ∧
          Stores env.items office.world office.world.next opened ∧
          opened.depots.find? dp = some depot :=
    getDepot_stores types.toLockerTypes (le_refl _) stored
  rcases opening with ⟨depot, opened, open', stores, found⟩
  rcases deliver_arrives quiet ends types sound.tidy posted stores found with
    ⟨delivered, done, arrives⟩
  have old : item < office.world.next := sound.tidy.given posted.member
  have notSaved : ∀ guid, ¬ InRows env.items office (office.saved guid) dp
      item := by
    intro guid inRows
    rcases inRows.inDepot with ⟨_, _, row, mem, _, _, about, _⟩
    exact posted.unsaved guid row mem about
  cases answer : database.savePlayer loaded.guid with
  | fails | keeps =>
    refine ⟨{ office with world := delivered, attributes := attributes }, ?_,
      arrives.leftMemory sound found (stores.least dp depot found) rfl rfl,
      ?_⟩
    · simp only [sendOffline, load, Option.bind_some, open', done, answer,
        savePlayer, Option.map_some]
    · refine ⟨fun inRows => absurd inRows (notSaved loaded.guid), ?_⟩
      rintro ⟨impossible, _⟩
      cases impossible
  | writes =>
    have writing :
        ∃ rows, saveItems env.items delivered attributes opened.depots.entries = some rows :=
      saveItems_ends arrives.tidy arrives.sound
    rcases writing with ⟨rows, saved⟩
    refine ⟨{ office with
        world := delivered
        attributes := attributes
        saved := update office.saved loaded.guid rows }, ?_,
      arrives.leftMemory sound found (stores.least dp depot found) rfl rfl,
      ?_⟩
    · simp only [sendOffline, load, Option.bind_some, open', done, answer,
        savePlayer, saved, Option.map_some]
    · show InRows env.items office
          (update office.saved loaded.guid rows loaded.guid) dp
          item ↔ _
      rw [update_self]
      refine ⟨fun inRows => ⟨rfl, inRows.number⟩, ?_⟩
      rintro ⟨_, number⟩
      have small := getDepot_numbers open' number (loadDepots_numbers load)
      rcases saveItems_written arrives.tidy arrives.sound small saved with ⟨entries, rfl, written⟩
      exact written_inRows written types posted.mail arrives found number old sound.tidy said

lemma Addressed.unique {other otherName : String} {number otherGuid : Nat}
  (first : Addressed towns database office item receiver dp name guid)
  (second : Addressed towns database office item other number otherName otherGuid) :
  dp = number ∧ name = otherName := by
  have address := first.address.symm.trans second.address
  cases address
  have known := first.known.symm.trans second.known
  cases known
  exact ⟨rfl, rfl⟩

lemma sendItem_unaddressed
  (unaddressed :
    ∀ receiver dp name guid, ¬ Addressed towns database office item receiver dp name guid) :
  sendItem env towns database office item = some (false, office) := by
  rw [sendItem]
  split
  · rfl
  · rename_i receiver dp address
    split
    · rfl
    · rename_i complete
      split
      · rfl
      · rename_i name guid known
        rw [not_or] at complete
        exact absurd ⟨address, complete.1, complete.2, known⟩ (unaddressed receiver dp name guid)

section

variable (addressed : Addressed towns database office item receiver dp name guid)
include addressed

lemma sendItem_addressed :
  sendItem env towns database office item =
    match office.getPlayerByName name with
    | some player => sendOnline env office item dp player
    | none =>
      if database.playerExists name then
        match database.loadPlayer name with
        | none => some (false, office)
        | some loaded => sendOffline env database office item dp loaded
      else some (false, office) := by
  have complete : ¬ (receiver = "" ∨ dp = 0) := not_or.mpr ⟨addressed.named, addressed.number⟩
  simp only [sendItem, addressed.address, if_neg complete, addressed.known]
  all_goals rfl

lemma sendItem_loadable {loaded : Loaded} (loadable : Loadable database office name loaded) :
  sendItem env towns database office item = sendOffline env database office item dp loaded := by
  simp only [sendItem_addressed addressed, loadable.offline,
    loadable.present, if_true, loadable.load]

lemma sendItem_unreachable (offline : office.getPlayerByName name = none)
  (unloadable : ∀ loaded, ¬ Loadable database office name loaded) :
  sendItem env towns database office item = some (false, office) := by
  simp only [sendItem_addressed addressed, offline]
  split
  · rename_i present
    split
    · rfl
    · rename_i loaded load
      exact absurd ⟨offline, present, load⟩ (unloadable loaded)
  · rfl

end

lemma Posted.stays (posted : Posted office pos item) (tidy : Tidy env.items office.world) :
  Stays office office pos item where
  lies :=
    { once := count_eq_one_of_mem (tidy.nodup _) posted.member
      only := fun _ away listed => away (tidy.unique posted.member listed) }
  same := rfl
  whole := ⟨rfl, rfl, fun _ _ => ⟨rfl, rfl⟩⟩
  saved := rfl

end

/-! ## A letter for somebody who is away -/

/-- Type 0 is a ground, 1 the mailbox, and 2589 a locker. -/
def postTypes : ItemTable := fun id =>
  if id = 0 then { plainType with group := .ground, moveable := false }
  else if id = 1 then { plainType with type := .mailbox, moveable := false }
  else if id = 2589 then
    { plainType with group := .container, type := .depot, moveable := false }
  else if id = 2594 ∨ id = 2595 ∨ id = 2596 then
    { plainType with group := .container, maxItems := 30 }
  else plainType

lemma postTypes_postal : PostalTypes (stillEnv postTypes).items := by
  constructor
  · exact ⟨rfl, rfl, rfl⟩
  all_goals rintro id (rfl | rfl) <;> decide

/-- On the glade is a mailbox, and on it the letter 2. -/
def postStation : World where
  item pointer :=
    { toMatter :=
        single postTypes (if pointer = 2 then 2597 else pointer % 2)
      parent := if pointer < 3 then some (.tile glade) else none
      itemlist := [] }
  tile position := if position = glade then some ⟨some 0, [], [2, 1]⟩ else none
  inventory _ _ := none
  next := 3
  totalWeight _ := 0
  floorChange _ := ⟨false, false, false, false, false, false⟩
  creatures _ := 0
  player _ := armory.player 0

def station : Office where
  world := postStation
  attributes pointer :=
    if pointer = 2 then
      { attributes := [⟨.text, 0, "Bob\nThais"⟩], attrFlags := 0x08 }
    else .empty
  listPlayer := []
  maxDepotLimit _ := 1000
  depots _ := OrderedMap.empty
  saved _ := []

def thais : Towns where
  townMap := [(1, "Thais")]
  rookTempleId := 0

def bob : Loaded where
  guid := 7
  maxDepotLimit := 1000
  rows := []
  descending := List.Pairwise.nil
  nested _ member := by cases member

/-- A database that knows Bob and answers to his save as given. -/
def bobsDatabase (answer : SaveAnswer) : Database where
  getGuidByName _ := some ("Bob", 7)
  playerExists _ := true
  loadPlayer _ := some bob
  savePlayer _ := answer

lemma postStation_listing (cylinder : Cylinder) :
  postStation.listing cylinder = if cylinder = .tile glade then [0, 2, 1] else [] := by
  cases cylinder with
  | tile pos =>
    by_cases here : pos = glade
    · subst here
      rfl
    · simp [Stock.listing, postStation, here]
  | player id => rfl
  | item pointer => rfl

lemma postStation_tile
  {pos : Position} {tile : Tile} (here : postStation.tile pos = some tile) :
  pos = glade ∧ tile = ⟨some 0, [], [2, 1]⟩ := by
  simp only [postStation] at here
  split at here
  · rename_i same
    exact ⟨same, (Option.some.inj here).symm⟩
  · cases here

lemma postStation_tidy : Tidy (stillEnv postTypes).items postStation where
  ground pos tile item here ground := by
    rw [(postStation_tile here).2] at ground
    cases ground
    rfl
  topItems pos tile item here top := by
    rw [(postStation_tile here).2] at top
    cases top
  downItems pos tile item here down := by
    rw [(postStation_tile here).2] at down
    rcases mem_cons.mp down with rfl | rest
    · decide
    · rw [mem_singleton.mp rest]
      decide
  containers _ _ := rfl
  nodup cylinder := by
    rw [postStation_listing]
    split <;> decide
  parent cylinder item member := by
    rw [postStation_listing] at member
    split at member
    · rename_i here
      have early : item < 3 := by
        simp only [mem_cons, not_mem_nil, or_false] at member
        omega
      rw [here]
      exact if_pos early
    · cases member
  fresh item later := ⟨if_neg (not_lt.mpr later), rfl⟩

lemma station_sound : station.Sound (stillEnv postTypes).items where
  tidy := postStation_tidy
  depots _ :=
    { isDepot := fun _ _ found => by cases found
      injective := fun _ _ _ found => by cases found }

lemma station_posted : Posted station glade 2 where
  member := by
    show 2 ∈ postStation.listing (.tile glade)
    decide
  mail := .inr rfl
  counted := by decide
  small := by decide
  unsaved _ row member := by cases member

lemma station_addressed (answer : SaveAnswer) :
  Addressed thais (bobsDatabase answer) station 2 "Bob" 1 "Bob" 7 where
  address := by decide
  named := by decide
  number := by decide
  known := rfl

lemma station_loadable (answer : SaveAnswer) :
  Loadable (bobsDatabase answer) station "Bob" bob :=
  ⟨rfl, rfl, rfl⟩

end OTServ.Mail
