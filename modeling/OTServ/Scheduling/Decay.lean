import Mathlib.Data.List.Count
import Mathlib.Logic.Function.Basic

/-!
# The time until an item decays

Decaying items wait in sixteen buckets, one of which is gone through every 1000
milliseconds.  An item with more than a lap to go stays in its bucket; with less, it
is put where its time is up.

The last lap is rounded to the nearest bucket.  Where that is the bucket being gone
through, the item decays at once, also when nearly a whole lap is left.
-/

namespace OTServ.Scheduling.Decay

open Function List

structure Item where
  duration : Int
  canDecay : Bool
  /-- `DECAYING_TRUE` -/
  decaying : Bool

structure Game where
  items : Nat → Item
  decayItems : Nat → List Nat
  toDecayItems : List Nat
  lastBucket : Nat
  /-- The items that `internalDecayItem` was called for. -/
  decayed : List Nat

namespace Game

variable (game : Game) (item : Nat)

/-- `internalDecayItem` is called. -/
def decay : Game := { game with decayed := game.decayed ++ [item] }

/-- `Game::startDecay` -/
def startDecay : Game :=
  let it := game.items item
  if it.canDecay then
    if it.decaying then game
    else if 0 < it.duration then
      { game with
        items := update game.items item { it with decaying := true }
        toDecayItems := game.toDecayItems ++ [item] }
    else game.decay item
  else game

def file (bucket : Int) : Game :=
  { game with
    decayItems :=
      update game.decayItems (bucket % 16).toNat (game.decayItems (bucket % 16).toNat ++ [item]) }

/-- What `Game::cleanup` does with an item that waits for a bucket. -/
def fileWaiting : Game :=
  let dur := (game.items item).duration
  if 16000 ≤ dur then game.file item game.lastBucket
  else game.file item (game.lastBucket + 1 + dur.tdiv 1000)

/-- The loop of `Game::cleanup` over these items. -/
def cleanup : Game :=
  game.toDecayItems.foldl fileWaiting { game with toDecayItems := [] }

/-- A lap, or what is left of one, is taken off the duration. -/
def decrease : Game :=
  let duration := (game.items item).duration
  let decreaseTime := if duration - 16000 < 0 then duration else 16000
  { game with
    items := update game.items item { game.items item with duration := duration - decreaseTime } }

/-- What `checkDecay` does with an item of the bucket, which has been taken out. -/
def visit (bucket : Nat) : Game :=
  let next := game.decrease item
  let it := next.items item
  if it.canDecay = false then
    { next with items := update next.items item { it with decaying := false } }
  else if it.duration ≤ 0 then next.decay item
  else if it.duration < 16000 then
    let newBucket := (bucket + (it.duration + 500) / 1000) % 16
    if newBucket = bucket then next.decay item else next.file item newBucket
  else next.file item bucket

def takeOut (bucket : Nat) : Game :=
  { game with decayItems := update game.decayItems bucket [] }

/-- `Game::checkDecay` -/
def checkDecay : Game :=
  let bucket := (game.lastBucket + 1) % 16
  let visited :=
    (game.decayItems bucket).foldl (fun game item => game.visit item bucket) (game.takeOut bucket)
  { visited with lastBucket := bucket }.cleanup

end Game

/-- What happens; anything may become of an item that is changed. -/
inductive Event
  | checkDecay
  | cleanup
  | startDecay (item : Nat)
  | change (item : Nat) (it : Item)

def Game.apply (game : Game) : Event → Game
  | .checkDecay => game.checkDecay
  | .cleanup => game.cleanup
  | .startDecay item => game.startDecay item
  | .change item it => { game with items := update game.items item it }

def Game.run (game : Game) (events : List Event) : Game := events.foldl Game.apply game

def Event.Leaves (item : Nat) : Event → Prop
  | .change other _ => other ≠ item
  | _ => True

def passes : List Event → Nat
  | [] => 0
  | .checkDecay :: events => passes events + 1
  | _ :: events => passes events

/-- An item with so much to go is in the bucket, if any, and in no other list. -/
structure Game.Stands (game : Game) (item : Nat) (duration : Int) (place : Option Nat) : Prop where
  same : game.items item = ⟨duration, true, true⟩
  filed : ∀ bucket, (game.decayItems bucket).count item = if place = some bucket then 1 else 0
  waits : item ∉ game.toDecayItems
  decays : item ∉ game.decayed

structure Game.Waits (game : Game) (item : Nat) (duration : Int) : Prop where
  same : game.items item = ⟨duration, true, true⟩
  filed : ∀ bucket, item ∉ game.decayItems bucket
  waits : game.toDecayItems.count item = 1
  decays : item ∉ game.decayed

variable {game : Game} {item other : Nat} {duration ahead left : Int} {place : Option Nat}

/-! ## The loops -/

lemma foldl_others {P : Game → Prop} {body : Game → Nat → Game} {items : List Nat}
  (others : ∀ game other, other ≠ item → P game → P (body game other)) (none : item ∉ items)
  (holds : P game) : P (items.foldl body game) := by
  induction items generalizing game with
  | nil => exact holds
  | cons first items ih =>
    rw [mem_cons, not_or] at none
    exact ih none.2 (others _ _ (Ne.symm none.1) holds)

lemma foldl_once {P Q : Game → Prop} {body : Game → Nat → Game} {items : List Nat}
  (others : ∀ game other, other ≠ item → P game → P (body game other))
  (self : ∀ game, P game → Q (body game item))
  (rest : ∀ game other, other ≠ item → Q game → Q (body game other))
  (once : items.count item = 1) (before : P game) : Q (items.foldl body game) := by
  induction items generalizing game with
  | nil => simp at once
  | cons first items ih =>
    by_cases same : first = item
    · rw [same, count_cons_self] at once
      have none : item ∉ items := count_eq_zero.1 (Nat.succ.inj once)
      have after : Q (body game first) := same.symm ▸ self game before
      rw [foldl_cons]
      exact foldl_others rest none after
    · rw [count_cons_of_ne same] at once
      exact ih once (others _ _ same before)

namespace Game.Stands

variable (stands : game.Stands item duration place)
include stands

lemma file_other (ne : other ≠ item) (bucket : Int) :
  (game.file other bucket).Stands item duration place :=
  { stands with
    filed := fun at' => by
      rw [← stands.filed at']
      dsimp only [file]
      rw [update_apply]
      split_ifs with same
      · rw [count_append, count_cons_of_ne ne, ← same, count_nil, Nat.add_zero]
      · rfl }

lemma update_other (ne : other ≠ item) (it : Item) :
  { game with items := update game.items other it }.Stands item duration place :=
  { stands with same := (update_of_ne ne.symm _ _).trans stands.same }

lemma decay_other (ne : other ≠ item) : (game.decay other).Stands item duration place :=
  { stands with
    decays := fun decayed => by
      rcases mem_append.1 decayed with decayed | decayed
      · exact stands.decays decayed
      · exact ne (mem_singleton.1 decayed).symm }

lemma fileWaiting_other (ne : other ≠ item) :
  (game.fileWaiting other).Stands item duration place := by
  rw [fileWaiting]
  split_ifs
  · exact stands.file_other ne _
  · exact stands.file_other ne _

lemma visit_other (ne : other ≠ item) (bucket : Nat) :
  (game.visit other bucket).Stands item duration place := by
  have next : (game.decrease other).Stands item duration place := stands.update_other ne _
  rw [visit]
  dsimp only
  split_ifs
  · exact next.update_other ne _
  · exact next.decay_other ne
  · exact next.decay_other ne
  · exact next.file_other ne _
  · exact next.file_other ne _

lemma takeOut (bucket : Nat) :
  (game.takeOut bucket).Stands item duration (if place = some bucket then none else place) :=
  { stands with
    filed := fun other => by
      have filed := stands.filed other
      dsimp only [Game.takeOut]
      rw [update_apply]
      split_ifs at filed ⊢ <;> simp_all }

lemma startDecay (other : Nat) : (game.startDecay other).Stands item duration place := by
  rw [Game.startDecay]
  by_cases same : other = item
  · subst same
    rw [stands.same]
    exact stands
  · split_ifs
    · exact stands
    · have next := stands.update_other same { game.items other with decaying := true }
      exact { next with
        waits := fun waits => by
          rcases mem_append.1 waits with waits | waits
          · exact stands.waits waits
          · exact same (mem_singleton.1 waits).symm }
    · exact stands.decay_other same
    · exact stands

end Game.Stands

lemma Game.Stands.file_self (stands : game.Stands item duration none) (bucket : Int) :
  (game.file item bucket).Stands item duration (some (bucket % 16).toNat) :=
  { stands with
    filed := fun at' => by
      have none := stands.filed at'
      rw [if_neg (by simp)] at none
      dsimp only [file]
      rw [update_apply]
      by_cases same : at' = (bucket % 16).toNat
      · rw [if_pos same, if_pos (congrArg some same.symm), count_append, ← same, none,
          count_cons_self, count_nil]
      · rw [if_neg same, if_neg (fun other => same (Option.some.inj other).symm), none] }

lemma Game.Stands.cleanup (stands : game.Stands item duration place) :
  game.cleanup.Stands item duration place :=
  foldl_others (P := fun game => game.Stands item duration place)
    (fun _ _ ne stands => stands.fileWaiting_other ne)
    stands.waits { stands with waits := not_mem_nil }

lemma Game.Waits.cleanup (waits : game.Waits item duration) :
  game.cleanup.Stands item duration
    (some ((game.lastBucket + if 16000 ≤ duration then 0 else 1 + duration.tdiv 1000 : Int)
      % 16).toNat) := by
  refine foldl_once
    (P := fun next => next.Stands item duration none ∧ next.lastBucket = game.lastBucket)
    (Q := fun next => next.Stands item duration (some _))
    (fun next other ne before => ⟨before.1.fileWaiting_other ne, ?_⟩)
    (fun next before => ?_) (fun _ _ ne stands => stands.fileWaiting_other ne)
    waits.waits
    ⟨⟨waits.same, fun bucket => count_eq_zero.2 (waits.filed bucket), not_mem_nil,
      waits.decays⟩, rfl⟩
  · rw [← before.2, fileWaiting]
    split_ifs <;> rfl
  · rw [fileWaiting, before.1.same, before.2]
    dsimp only
    split_ifs
    · rw [Int.add_zero]
      exact before.1.file_self _
    · rw [← Int.add_assoc]
      exact before.1.file_self _

def tail (left : Int) : Int := if (left + 500) / 1000 = 16 then 0 else (left + 500) / 1000

/-- The passes until an item decays which stands so many buckets ahead. -/
def passesLeft (ahead duration : Int) : Int :=
  if duration < 16000 then ahead
  else ahead + 16 * (duration / 16000 - 1) + tail (duration % 16000)

def Game.Due (game : Game) (item : Nat) (left : Int) : Prop :=
  ∃ ahead duration, 1 ≤ ahead ∧ ahead ≤ 16 ∧ 0 < duration ∧
    left = passesLeft ahead duration ∧
    game.Stands item duration (some ((game.lastBucket + ahead) % 16).toNat)

/-- A visited item has decayed in time, or stands where it is to. -/
def Game.Visited (game : Game) (item bucket : Nat) (duration : Int) : Prop :=
  passesLeft 1 duration = 1 ∧ item ∈ game.decayed ∨
    ∃ ahead left, 1 ≤ ahead ∧ ahead ≤ 16 ∧ 0 < left ∧
      passesLeft 1 duration = passesLeft ahead left + 1 ∧
      game.Stands item left (some ((bucket + ahead) % 16).toNat)

lemma Game.Stands.visit_self
  (stands : game.Stands item duration none) (positive : 0 < duration) {bucket : Nat}
  (low : bucket < 16) : (game.visit item bucket).Visited item bucket duration := by
  obtain ⟨left, next, taken⟩ : ∃ left, (game.decrease item).Stands item left none ∧
      left = duration - if duration - 16000 < 0 then duration else 16000 := by
    refine ⟨_, { stands with same := ?_ }, rfl⟩
    rw [Game.decrease, stands.same]
    exact update_self ..
  have decays : item ∈ ((game.decrease item).decay item).decayed :=
    mem_append_right _ (mem_singleton_self item)
  rw [Game.visit]
  rw [next.same]
  dsimp only
  by_cases done : left ≤ 0
  · rw [if_pos done]
    refine .inl ⟨?_, decays⟩
    simp only [passesLeft, tail]
    split_ifs at * <;> omega
  rw [if_neg done]
  by_cases last : left < 16000
  · rw [if_pos last]
    by_cases here : (bucket + (left + 500) / 1000) % 16 = bucket
    · -- The last lap is rounded to nothing or to a whole one.
      rw [if_pos here]
      refine .inl ⟨?_, decays⟩
      simp only [passesLeft, tail]
      split_ifs at * <;> omega
    · rw [if_neg here]
      have filed := next.file_self ((bucket + (left + 500) / 1000) % 16)
      rw [Int.emod_emod] at filed
      refine .inr ⟨(left + 500) / 1000, left, by omega, by omega, by omega, ?_, filed⟩
      simp only [passesLeft, tail]
      split_ifs at * <;> omega
  · rw [if_neg last]
    have filed := next.file_self bucket
    have same : ((bucket : Int) + 16) % 16 = bucket % 16 := by omega
    refine .inr ⟨16, left, by decide, by decide, by omega, ?_, same ▸ filed⟩
    simp only [passesLeft, tail]
    split_ifs at * <;> omega

lemma visit_decayed (game : Game) (item bucket : Nat) :
  game.decayed ⊆ (game.visit item bucket).decayed := by
  rw [Game.visit]
  dsimp only
  split_ifs
  · exact Subset.refl _
  · exact subset_append_left _ _
  · exact subset_append_left _ _
  · exact Subset.refl _
  · exact Subset.refl _

lemma Game.Visited.visit_other {bucket : Nat} (visited : game.Visited item bucket duration)
  (ne : other ≠ item) : (game.visit other bucket).Visited item bucket duration := by
  rcases visited with done | ⟨ahead, left, first, most, more, same, next⟩
  · exact .inl ⟨done.1, visit_decayed _ _ _ done.2⟩
  · exact .inr ⟨ahead, left, first, most, more, same, next.visit_other ne _⟩

lemma cleanup_same (game : Game) :
  game.cleanup.decayed = game.decayed ∧ game.cleanup.lastBucket = game.lastBucket :=
  foldlRecOn (motive := fun next : Game => next.decayed = game.decayed ∧
      next.lastBucket = game.lastBucket) _ _ ⟨rfl, rfl⟩ fun next same item _ => by
    rw [← same.1, ← same.2, Game.fileWaiting]
    split_ifs <;> exact ⟨rfl, rfl⟩

lemma Game.Stands.due (bucket : Nat)
  (stands : game.Stands item duration (some ((bucket + ahead) % 16).toNat))
  (first : 1 ≤ ahead) (most : ahead ≤ 16) (positive : 0 < duration) :
  { game with lastBucket := bucket }.cleanup.Due item (passesLeft ahead duration) := by
  have turned : { game with lastBucket := bucket }.Stands item duration
      (some ((bucket + ahead) % 16).toNat) :=
    { stands with }
  refine ⟨ahead, duration, first, most, positive, rfl, ?_⟩
  rw [(cleanup_same _).2]
  exact turned.cleanup

lemma Game.Due.checkDecay (due : game.Due item left) :
  left = 1 ∧ item ∈ game.checkDecay.decayed ∨ game.checkDecay.Due item (left - 1) := by
  rcases due with ⟨ahead, duration, first, most, positive, rfl, stands⟩
  have low : (game.lastBucket + 1) % 16 < 16 := Nat.mod_lt _ (by decide)
  have filed := stands.filed ((game.lastBucket + 1) % 16)
  have out := stands.takeOut ((game.lastBucket + 1) % 16)
  by_cases here : ahead = 1
  · have place : ((game.lastBucket + ahead) % 16).toNat = (game.lastBucket + 1) % 16 := by
      omega
    rw [if_pos (congrArg some place)] at out filed
    have visited := foldl_once (P := fun next => next.Stands item duration none)
      (Q := fun next => next.Visited item ((game.lastBucket + 1) % 16) duration)
      (fun _ _ ne before => before.visit_other ne _)
      (fun _ before => before.visit_self positive low)
      (fun _ _ ne after => after.visit_other ne) filed out
    rcases visited with done | ⟨ahead, left, first, most, more, same, next⟩
    · exact .inl ⟨here ▸ done.1, (cleanup_same _).1.symm ▸ done.2⟩
    · rw [here, same, Int.add_sub_cancel]
      exact .inr (next.due _ first most more)
  · have away : some ((game.lastBucket + ahead) % 16).toNat ≠
        some ((game.lastBucket + 1) % 16) := by
      rw [Ne, Option.some_inj]
      omega
    rw [if_neg away] at out filed
    have next := foldl_others (P := fun next => next.Stands item duration _)
      (fun _ _ ne before => before.visit_other ne ((game.lastBucket + 1) % 16))
      (count_eq_zero.1 filed) out
    have sooner : passesLeft ahead duration - 1 = passesLeft (ahead - 1) duration := by
      simp only [passesLeft]
      split_ifs <;> omega
    have place : (game.lastBucket + ahead) % 16 =
        (((game.lastBucket + 1) % 16 : Nat) + (ahead - 1)) % 16 := by
      omega
    have first' : 1 ≤ ahead - 1 := by omega
    have most' : ahead - 1 ≤ 16 := by omega
    rw [place] at next
    rw [sooner]
    exact .inr (next.due _ first' most' positive)

/-! ## Runs -/

lemma apply_decayed (game : Game) (event : Event) :
  game.decayed ⊆ (game.apply event).decayed := by
  cases event with
  | checkDecay =>
    rw [Game.apply, Game.checkDecay, (cleanup_same _).1]
    exact foldlRecOn (motive := fun next : Game => game.decayed ⊆ next.decayed) _ _
      (Subset.refl _) fun next kept item _ _ mem => visit_decayed _ _ _ (kept mem)
  | cleanup => exact (cleanup_same game).1.symm ▸ Subset.refl _
  | startDecay item =>
    rw [Game.apply, Game.startDecay]
    split_ifs
    · exact Subset.refl _
    · exact Subset.refl _
    · exact subset_append_left _ _
    · exact Subset.refl _
  | change item it => exact Subset.refl _

lemma Game.Due.positive (due : game.Due item left) : 1 ≤ left := by
  rcases due with ⟨ahead, duration, first, most, more, rfl, stands⟩
  simp only [passesLeft, tail]
  split_ifs <;> omega

lemma Game.Due.apply {event : Event} (due : game.Due item left) (leaves : event.Leaves item)
  (other : event ≠ .checkDecay) : (game.apply event).Due item left := by
  rcases due with ⟨ahead, duration, first, most, positive, rfl, stands⟩
  cases event with
  | checkDecay => exact absurd rfl other
  | cleanup => exact stands.due _ first most positive
  | startDecay added =>
    have same : (game.startDecay added).lastBucket = game.lastBucket := by
      rw [Game.startDecay]
      split_ifs <;> rfl
    exact ⟨ahead, duration, first, most, positive, rfl, same.symm ▸ stands.startDecay added⟩
  | change changed it =>
    exact ⟨ahead, duration, first, most, positive, rfl, stands.update_other leaves it⟩

lemma Game.Due.run_iff {events : List Event}
  (due : game.Due item left) (leaves : ∀ event ∈ events, event.Leaves item) :
  item ∈ (game.run events).decayed ↔ left ≤ passes events := by
  induction events generalizing game left with
  | nil =>
    have positive := due.positive
    rcases due with ⟨ahead, duration, first, most, more, same, stands⟩
    exact iff_of_false stands.decays (by simp only [passes]; omega)
  | cons event events ih =>
    have rest (other : Event) (mem : other ∈ events) := leaves other (mem_cons_of_mem _ mem)
    by_cases pass : event = .checkDecay
    · subst pass
      rw [passes]
      rcases due.checkDecay with done | nearer
      · have kept : game.checkDecay.decayed ⊆ (game.checkDecay.run events).decayed :=
          foldlRecOn (motive := fun next : Game => game.checkDecay.decayed ⊆ next.decayed) _ _
            (Subset.refl _) fun next kept event _ _ mem => apply_decayed _ _ (kept mem)
        exact iff_of_true (kept done.2) (by omega)
      · exact (ih nearer rest).trans (by omega)
    · have same : passes (event :: events) = passes events := by
        cases event <;> first | rfl | exact absurd rfl pass
      rw [same]
      exact ih (due.apply (leaves _ mem_cons_self) pass) rest

/-- After the cleanup that files it, an item decays at most an interval too early or too
late, unless the last lap after a whole one is rounded up to a whole one. -/
theorem decays_in_time_iff (waits : game.Waits item duration) (positive : 0 < duration) :
  (∃ pass : Nat, duration ≤ 1000 * pass + 1000 ∧ 1000 * pass ≤ duration + 1000 ∧
    ∀ events, (∀ event ∈ events, Event.Leaves item event) →
      (item ∈ (game.cleanup.run events).decayed ↔ pass ≤ passes events)) ↔
    duration < 16000 ∨ duration % 16000 < 15500 := by
  obtain ⟨left, filed, due⟩ : ∃ left,
      left = (if duration < 16000 then 1 + duration / 1000 else passesLeft 16 duration) ∧
        game.cleanup.Due item left := by
    have stands := waits.cleanup
    rw [← (cleanup_same game).2, Int.tdiv_eq_ediv_of_nonneg (Int.le_of_lt positive)] at stands
    refine ⟨_, rfl, ?_⟩
    by_cases short : duration < 16000
    · rw [if_neg (by omega)] at stands
      rw [if_pos short]
      refine ⟨1 + duration / 1000, duration, by omega, by omega, positive, ?_, stands⟩
      rw [passesLeft, if_pos short]
    · rw [if_pos (by omega), Int.add_zero, ← Int.add_emod_right] at stands
      rw [if_neg short]
      exact ⟨16, duration, by decide, by decide, positive, rfl, stands⟩
  have passesOf (count : Nat) : passes (replicate count .checkDecay) = count := by
    induction count with
    | zero => rfl
    | succ count ih => exact congrArg (· + 1) ih
  have leaves (count : Nat) : ∀ event ∈ replicate count Event.checkDecay, event.Leaves item := by
    intro event member
    rw [eq_of_mem_replicate member]
    trivial
  have exact (pass : Nat) :
      (∀ events, (∀ event ∈ events, Event.Leaves item event) →
        (item ∈ (game.cleanup.run events).decayed ↔ pass ≤ passes events)) ↔
        left = pass := by
    have least := due.positive
    constructor
    · intro decays
      have one := (decays _ (leaves pass)).symm.trans (due.run_iff (leaves pass))
      have two := (decays _ (leaves left.toNat)).symm.trans (due.run_iff (leaves left.toNat))
      rw [passesOf] at one two
      omega
    · rintro rfl events alone
      rw [due.run_iff alone, Int.ofNat_le]
  simp only [exact]
  constructor
  · rintro ⟨pass, early, late, same⟩
    simp only [passesLeft, tail] at filed
    split_ifs at filed <;> omega
  · intro met
    have least := due.positive
    refine ⟨left.toNat, ?_, ?_, by omega⟩
    all_goals
      simp only [passesLeft, tail] at filed
      split_ifs at filed <;> omega

def waiting (duration : Int) : Game where
  items := fun _ => ⟨duration, true, true⟩
  decayItems := fun _ => []
  toDecayItems := [0]
  lastBucket := 0
  decayed := []

lemma waiting_waits (duration : Int) : (waiting duration).Waits 0 duration :=
  ⟨rfl, fun _ => not_mem_nil, rfl, not_mem_nil⟩

theorem waiting_decays_in_time :
  (∃ pass : Nat, (20000 : Int) ≤ 1000 * pass + 1000 ∧ 1000 * pass ≤ (20000 : Int) + 1000 ∧
    ∀ events, (∀ event ∈ events, Event.Leaves 0 event) →
      (0 ∈ ((waiting 20000).cleanup.run events).decayed ↔ pass ≤ passes events)) ↔
    (20000 : Int) < 16000 ∨ (20000 : Int) % 16000 < 15500 :=
  decays_in_time_iff (waiting_waits 20000) (by decide)

theorem waiting_decays_early :
  ¬ ∃ pass : Nat, (31500 : Int) ≤ 1000 * pass + 1000 ∧
    1000 * pass ≤ (31500 : Int) + 1000 ∧
    ∀ events, (∀ event ∈ events, Event.Leaves 0 event) →
      (0 ∈ ((waiting 31500).cleanup.run events).decayed ↔ pass ≤ passes events) := by
  rintro ⟨pass, early, -, decays⟩
  have sixteen := (decays (replicate 16 .checkDecay) fun event member => by
    rw [eq_of_mem_replicate member]
    trivial).1 (by decide +kernel)
  have count : passes (replicate 16 .checkDecay) = 16 := rfl
  omega

end OTServ.Scheduling.Decay
