import Mathlib.Tactic.TypeStar

/-!
# Return values

The part of `ReturnValue` of `thing.h` with which the operations on things and
the trade answer.
-/

namespace OTServ

/-- `ReturnValue`. -/
inductive ReturnValue where
  | noError
  | notPossible
  | notEnoughRoom
  | playerIsPzLocked
  | playerIsNotInvited
  | cannotThrow
  | thereIsNoWay
  | destinationOutOfReach
  | creatureBlock
  | notMoveable
  | dropTwoHandedItem
  | bothHandsNeedToBeFree
  | canOnlyUseOneWeapon
  | needExchange
  | cannotBeDressed
  | putThisObjectInYourHand
  | putThisObjectInBothHands
  | tooFarAway
  | firstGoDownStairs
  | firstGoUpStairs
  | containerNotEnoughRoom
  | notEnoughCapacity
  | cannotPickup
  | thisIsImpossible
  | depotIsFull
  | youAreAlreadyTrading
  | thisPlayerIsAlreadyTrading
  | playerIsPzLockedLeavePvpZone
  | playerIsPzLockedEnterPvpZone
  | actionNotPermittedInProtectionZone
  | actionNotPermittedInANoPvpZone
  | needPremiumToEquipItem
  | notRequiredLevel
  | notRequiredProfession
  | notEnoughMagicLevel
deriving DecidableEq

end OTServ
