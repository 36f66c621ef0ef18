import Mathlib.Algebra.GroupWithZero.Nat
import Mathlib.Algebra.BigOperators.Group.List.Basic
import Mathlib.Data.List.Sort

/-!
# Collecting the rent

`Houses::payHouses` goes through the houses and takes the rent from the balance
of the owner or from his depot.  An owner who cannot pay is warned, at most once
a day, and loses the house when he has been warned seven times.
-/

namespace OTServ.Rent

open List Function

/-- A number kept as `int32_t`. -/
def int32 (value : Int) : Int :=
  (value + 2147483648) % 4294967296 - 2147483648

/-- The worths of the stacks which `Game::addMoney` makes. -/
def addMoney (money : Nat) : List Nat :=
  let crys := money / 10000
  let plat := money % 10000 / 100
  let gold := money % 100
  List.replicate (crys / 100) 1000000 ++
    (if crys % 100 = 0 then [] else [crys % 100 * 10000]) ++
      (if plat = 0 then [] else [plat * 100]) ++ if gold = 0 then [] else [gold]

/--
The second loop of `Game::removeMoney`: stacks are removed until the sum is paid,
and the change is put back.
-/
def takeMoney : List Nat → Nat → List Nat
  | [], _ => []
  | worth :: rest, money =>
    if money = 0 then worth :: rest
    else if worth ≤ money then takeMoney rest (money - worth)
    else rest ++ addMoney (worth - money)

/--
`Game::removeMoney` on the worths of the coin stacks in a depot, in the order in
which the search finds them.  What is left is given in the order of the multimap.
-/
def removeMoney (coins : List Nat) (money : Int) : Option (List Nat) :=
  if money ≤ 0 then some coins
  else if int32 (coins.sum : Nat) < money then none
  else some (takeMoney (coins.mergeSort (· ≤ ·)) money.toNat)

/-! ## Houses and owners -/

inductive RentPeriod where
  | daily
  | weekly
  | monthly
  | yearly
  | never
deriving DecidableEq

/-- What `payHouses` adds to the time of a payment. -/
def RentPeriod.seconds : RentPeriod → Nat
  | .daily => 24 * 60 * 60
  | .weekly => 24 * 60 * 60 * 7
  | .monthly => 24 * 60 * 60 * 30
  | .yearly => 24 * 60 * 60 * 365
  | .never => 0

structure Config where
  rentPeriod : RentPeriod
  useAccBalance : Bool

/-- `House`, as far as the rent goes. -/
structure House where
  isLoaded : Bool
  houseOwner : Nat
  paidUntil : Nat
  rentWarnings : Nat
  lastWarning : Nat
  rent : Nat
  townId : Nat
deriving DecidableEq

/-- `House::setHouseOwner`; the name of the guid may not be found. -/
def House.setHouseOwner (house : House) (guid : Nat) (named : Bool) (now : Nat) : House :=
  if house.isLoaded && house.houseOwner == guid then house
  else
    let vacated :=
      if house.houseOwner ≠ 0 then
        { house with houseOwner := 0, paidUntil := 0, rentWarnings := 0 }
      else
        house
    { vacated with
      isLoaded := true
      houseOwner := if guid ≠ 0 ∧ named then guid else vacated.houseOwner
      -- so the new owner has one day before he starts the payment
      lastWarning := now }

/-- The money of a player: his balance and the coin stacks in his depots. -/
structure Player where
  balance : Nat
  depots : Nat → List Nat

def Player.pay (config : Config) (house : House) (player : Player) : Option Player :=
  if config.useAccBalance then
    if house.rent ≤ player.balance then
      some { player with balance := player.balance - house.rent }
    else
      none
  else
    (removeMoney (player.depots house.townId) (int32 house.rent)).map
      fun coins => { player with depots := update player.depots house.townId coins }

structure Scene where
  getTown : Nat → Bool
  getNameByGuid : Nat → Bool
  online : Nat → Bool
  loadPlayer : Nat → Bool
  getDepot : Nat → Nat → Bool
  savePlayer : Nat → Bool

inductive Outcome where
  | idle
  | collected
  | late
  | warned
  | evicted
deriving DecidableEq

structure Visit where
  house : House
  player : Player
  outcome : Outcome
  left : House
  paid : Player

def Visit.still (house : House) (player : Player) (outcome : Outcome) : Visit :=
  ⟨house, player, outcome, house, player⟩

def due (scene : Scene) (currentTime : Nat) (house : House) : Bool :=
  house.houseOwner != 0 && decide (house.paidUntil < currentTime) &&
    house.rent != 0 && scene.getTown house.townId &&
      scene.getNameByGuid house.houseOwner &&
        (scene.online house.houseOwner || scene.loadPlayer house.houseOwner) &&
          scene.getDepot house.houseOwner house.townId

/-- The body of the loop of `payHouses`. -/
def payHouse (config : Config) (scene : Scene) (now : Nat) (house : House) (player : Player) :
  Visit :=
  let currentTime := now % 4294967296
  if !due scene currentTime house then Visit.still house player .idle
  else
    match player.pay config house with
    | some paid =>
      { house := house
        player := player
        outcome := .collected
        left :=
          { house with
            paidUntil := (currentTime + config.rentPeriod.seconds) % 4294967296 }
        -- an offline player is loaded, and saved afterwards
        paid :=
          if scene.online house.houseOwner ||
              scene.savePlayer house.houseOwner then
            paid
          else
            player }
    | none =>
      if currentTime < house.lastWarning + 24 * 60 * 60 then
        Visit.still house player .late
      else if 7 ≤ house.rentWarnings then
        ⟨house, player, .evicted, house.setHouseOwner 0 true now, player⟩
      else
        ⟨house, player, .warned,
          { house with
            rentWarnings := house.rentWarnings + 1
            lastWarning := currentTime },
          player⟩

/-- The loop of `payHouses`; several houses may have one owner. -/
def visits (config : Config) (scene : Scene) (now : Nat) : List House → (Nat → Player) → List Visit
  | [], _ => []
  | house :: houses, players =>
    let visit := payHouse config scene now house (players house.houseOwner)
    visit :: visits config scene now houses (update players house.houseOwner visit.paid)

/-- `Houses::payHouses` -/
def payHouses (config : Config) (scene : Scene) (now : Nat) (houses : List House)
  (players : Nat → Player) : List Visit :=
  if config.rentPeriod = .never then
    houses.map fun house => Visit.still house (players house.houseOwner) .idle
  else
    visits config scene now houses players

lemma addMoney_sum (money : Nat) : (addMoney money).sum = money := by
  have crystals :
      (if money / 10000 % 100 = 0 then []
        else [money / 10000 % 100 * 10000]).sum =
        money / 10000 % 100 * 10000 := by
    split
    · rename_i none
      rw [none]
      rfl
    · exact sum_singleton
  have platinum :
      (if money % 10000 / 100 = 0 then []
        else [money % 10000 / 100 * 100]).sum =
        money % 10000 / 100 * 100 := by
    split
    · rename_i none
      rw [none]
      rfl
    · exact sum_singleton
  have gold : (if money % 100 = 0 then [] else [money % 100]).sum = money % 100 := by
    split
    · rename_i none
      rw [none]
      rfl
    · exact sum_singleton
  rw [addMoney, sum_append, sum_append, sum_append, crystals, platinum, gold, sum_replicate_nat]
  omega

lemma takeMoney_sum (coins : List Nat) (money : Nat) (enough : money ≤ coins.sum) :
  (takeMoney coins money).sum + money = coins.sum := by
  induction coins generalizing money with
  | nil =>
    rw [takeMoney]
    simpa using enough
  | cons worth rest ih =>
    rw [sum_cons] at enough ⊢
    rw [takeMoney]
    split
    · rename_i paid
      rw [paid, sum_cons, Nat.add_zero]
    · split
      · have left := ih (money - worth) (by omega)
        omega
      · rw [sum_append, addMoney_sum]
        omega

lemma removeMoney_sum {coins left : List Nat} {money : Int} (positive : 0 < money)
  (removed : removeMoney coins money = some left) : left.sum + money.toNat = coins.sum := by
  rw [removeMoney, if_neg (by omega)] at removed
  split at removed
  · cases removed
  · rename_i enough
    cases removed
    have sorted : (coins.mergeSort (· ≤ ·)).sum = coins.sum := (mergeSort_perm coins _).sum_eq
    rw [← sorted]
    apply takeMoney_sum
    unfold int32 at enough
    omega

def Player.worth (player : Player) (townId : Nat) : Nat :=
  player.balance + (player.depots townId).sum

/-- Exactly the rent is taken from the owner, and nothing else changes. -/
structure Paid (house : House) (before after : Player) : Prop where
  exactly : after.worth house.townId + house.rent = before.worth house.townId
  others : ∀ townId, townId ≠ house.townId → after.depots townId = before.depots townId

lemma pay_paid {config : Config} {house : House} {player paid : Player}
  (payable : config.useAccBalance = false → house.rent < 2147483648)
  (pays : player.pay config house = some paid) : Paid house player paid := by
  rw [Player.pay] at pays
  split at pays
  · split at pays
    · cases pays
      constructor
      · simp only [Player.worth]
        omega
      · exact fun _ _ => rfl
    · cases pays
  · rename_i fromDepot
    have small := payable (Bool.eq_false_iff.mpr fromDepot)
    rcases Option.map_eq_some_iff.mp pays with ⟨coins, removed, rfl⟩
    have same : int32 house.rent = house.rent := by
      unfold int32
      omega
    constructor
    · simp only [Player.worth, update_self]
      rw [same] at removed
      by_cases free : house.rent = 0
      · rw [free, removeMoney, if_pos (by omega)] at removed
        cases removed
        omega
      · have exact_sum := removeMoney_sum (by omega) removed
        omega
    · intro townId elsewhere
      exact update_of_ne elsewhere _ _

end OTServ.Rent
