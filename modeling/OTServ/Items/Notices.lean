import OTServ.Items.CylinderEffects

/-!
# Notifications

The notifications after a change reach scripts, equip events and the things that
act on what comes to a tile.  Where the scripts and events leave the stock as it
is, a notification of a removal does so too, and one of an addition does so on a
tile without teleport, trash holder and mailbox.
-/

namespace OTServ.Items

open Library.Placements
open Map
open Option

structure SameStock (before after : World) : Prop where
  stock : after.toStock = before.toStock
  next : before.next ≤ after.next

namespace SameStock

variable {first second third : World}

lemma refl (world : World) : SameStock world world := ⟨rfl, le_refl _⟩

lemma trans (early : SameStock first second) (late : SameStock second third) :
  SameStock first third :=
  ⟨late.stock.trans early.stock, early.next.trans late.next⟩

end SameStock

structure Env.Quiet (env : Env) : Prop where
  onPlayerEquip :
    ∀ id item index world changed,
      env.onPlayerEquip id item index world = some changed → SameStock world changed
  onPlayerDeEquip :
    ∀ id item index isCompleteRemoval world changed,
      env.onPlayerDeEquip id item index isCompleteRemoval world =
          some changed →
        SameStock world changed
  onAddTileItem :
    ∀ position item world changed,
      env.onAddTileItem position item world = some changed → SameStock world changed
  onRemoveTileItem :
    ∀ position item world changed,
      env.onRemoveTileItem position item world = some changed → SameStock world changed

structure Env.Still (env : Env) : Prop extends env.Quiet where
  teleport :
    ∀ teleport item world changed,
      env.teleport teleport item world = some changed → SameStock world changed
  mailbox :
    ∀ mailbox item world changed,
      env.mailbox mailbox item world = some changed → SameStock world changed

variable {env : Env} {world changed : World}

lemma updateInventoryWeigth_same (items : ItemTable) (world : World) (id : Nat) :
  SameStock world (world.updateInventoryWeigth items id) :=
  ⟨rfl, le_refl _⟩

variable {item fuel : Nat} {index : Int} {isCompleteRemoval : Bool} {link : Link}
  {cylinder : Cylinder} {pos : Position}

lemma playerPostRemove_same (quiet : env.Quiet) {id : Nat}
  (done : playerPostRemove env world id item index isCompleteRemoval link = some changed) :
  SameStock world changed := by
  rcases map_eq_some_iff.mp done with ⟨told, asked, result⟩
  have early : SameStock world told := by
    split at asked
    · exact quiet.onPlayerDeEquip _ _ _ _ _ _ asked
    · cases asked
      exact .refl world
  split at result
  · subst result
    exact early.trans (updateInventoryWeigth_same env.items told id)
  · subst result
    exact early

lemma postRemoveNotification_same (quiet : env.Quiet)
  (done :
    postRemoveNotification env world item index isCompleteRemoval fuel
      cylinder link = some changed) : SameStock world changed := by
  induction fuel generalizing cylinder link with
  | zero => cases done
  | succ fuel ih =>
    cases cylinder with
    | tile pos => exact quiet.onRemoveTileItem _ _ _ _ done
    | player id => exact playerPostRemove_same quiet done
    | item pointer =>
      simp only [postRemoveNotification] at done
      split at done
      · rcases bind_eq_some_iff.mp done with ⟨top, _, further⟩
        split at further
        · exact ih further
        · split at further
          · split at further
            · exact ih further
            · cases further
              exact .refl world
          · exact ih further
        · cases further
          exact .refl world
      · split at done
        · exact ih done
        · cases done
          exact .refl world

lemma notifyRemoved_same (quiet : env.Quiet)
  (done : notifyRemoved env world cylinder item index isCompleteRemoval = some changed) :
  SameStock world changed :=
  postRemoveNotification_same quiet done

/-- An inventory or container, or a tile that does not act on what comes. -/
def Inert (world : World) : Cylinder → Prop
  | .tile position =>
    ∀ item ∈ world.listing (.tile position), (world.item item).itemClass.isFixture = false
  | .player _ => True
  | .item pointer => world.isContainer pointer

lemma Inert.congr {before after : World} (same : after.toStock = before.toStock)
  (inert : Inert before cylinder) : Inert after cylinder := by
  cases cylinder with
  | tile pos =>
    intro item listed
    rw [same] at listed ⊢
    exact inert item listed
  | player id => exact trivial
  | item pointer =>
    rw [Inert, same]
    exact inert

lemma find_class_eq_none
  {list : List Nat} {itemClass : ItemClass} (inert : Inert world (.tile pos))
  (listed : ∀ item ∈ list, item ∈ world.listing (.tile pos))
  (fixture : itemClass.isFixture = true) :
  list.find? (fun other => (world.item other).itemClass = itemClass) = none := by
  apply List.find?_eq_none.mpr
  intro item mem found
  have plain := inert item (listed item mem)
  rw [of_decide_eq_true found, fixture] at plain
  cases plain

lemma actOnItem_inert (inert : Inert world (.tile pos)) :
  actOnItem env world pos item = some world := by
  cases here : world.tile pos with
  | none => simp only [actOnItem, here]
  | some tile =>
    have things : ∀ other ∈ tile.things,
        other ∈ world.listing (.tile pos) := by
      intro other mem
      rw [listing_tile here]
      exact mem
    have top : ∀ other ∈ tile.topItems,
        other ∈ world.listing (.tile pos) := by
      intro other mem
      apply things
      exact List.mem_append_left _ (List.mem_append_right _ mem)
    simp only [actOnItem, here, getTeleportItem, getTrashHolder, getMailbox]
    rw [find_class_eq_none inert top rfl,
      find_class_eq_none inert things rfl,
      find_class_eq_none inert things rfl]

variable (quiet : env.Quiet)
include quiet

lemma playerPostAdd_same
  {id : Nat} (done : playerPostAdd env world id item index link = some changed) :
  SameStock world changed := by
  rcases map_eq_some_iff.mp done with ⟨told, asked, result⟩
  have early : SameStock world told := by
    split at asked
    · exact quiet.onPlayerEquip _ _ _ _ _ asked
    · cases asked
      exact .refl world
  split at result
  · subst result
    exact early.trans (updateInventoryWeigth_same env.items told id)
  · subst result
    exact early

lemma tilePostAdd_same (inert : link = .owner → Inert world (.tile pos))
  (done : tilePostAdd env world pos item link = some changed) :
  SameStock world changed := by
  rw [tilePostAdd] at done
  split at done
  · rename_i owner
    rcases bind_eq_some_iff.mp done with ⟨told, asked, acted⟩
    have early := quiet.onAddTileItem _ _ _ _ asked
    rw [actOnItem_inert ((inert owner).congr early.stock)] at acted
    cases acted
    exact early
  · cases done
    exact .refl world

lemma postAddNotification_same (inert : link = .owner → Inert world cylinder)
  (done : postAddNotification env world item index fuel cylinder link = some changed) :
  SameStock world changed := by
  induction fuel generalizing cylinder link with
  | zero => cases done
  | succ fuel ih =>
    -- whoever is told next is told as something other than the owner
    have further : ∀ {next : Cylinder} {link : Link},
        link ≠ .owner →
          postAddNotification env world item index fuel next link =
              some changed →
            SameStock world changed := by
      intro next link other told
      exact ih (fun owner => absurd owner other) told
    cases cylinder with
    | tile pos => exact tilePostAdd_same quiet inert done
    | player id => exact playerPostAdd_same quiet done
    | item pointer =>
      simp only [postAddNotification] at done
      split at done
      · rcases bind_eq_some_iff.mp done with ⟨top, _, told⟩
        split at told
        · exact further (by decide) told
        · split at told
          · split at told
            · exact further (by decide) told
            · cases told
              exact .refl world
          · exact further (by decide) told
        · cases told
          exact .refl world
      · split at done
        · exact further (by decide) done
        · cases done
          exact .refl world

lemma notifyAdded_same (inert : Inert world cylinder)
  (done : notifyAdded env world cylinder item index = some changed) : SameStock world changed :=
  postAddNotification_same quiet (fun _ => inert) done

end OTServ.Items
