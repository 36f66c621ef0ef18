import Mathlib.Data.List.Basic

/-!
# Script environments

A script runs in one of the environments of `m_scriptEnv`, which form a stack: an
event that a script triggers runs in the next one.  `doCreateItemEx` creates an item
without a parent and enters it under its environment into `m_tempItems`, which all
environments share; `doAddContainerItemEx` takes it out again when it has added the
item to a container.  When an environment is released, `resetEnv` hands the items
of the table to `FreeThing` which still have no parent.

The game itself hands an item over when it removes it from the world, and when it
merges it into a stack as it adds it.
-/

namespace OTServ.Scripts

open Function

/-- Who has called `FreeThing`. -/
inductive Cause where
  | game
  /-- the release of the environment of this run of a script -/
  | release (run : Nat)
deriving DecidableEq

/-- The environments, the items, and what has been handed to `FreeThing`. -/
structure Environments where
  /-- the runs of scripts which occupy the environments, from the first one -/
  running : List Nat
  nextRun : Nat
  /-- the table, by the place of the environment -/
  m_tempItems : Nat → List Nat
  nextItem : Nat
  parent : Nat → Option Nat
  freed : List (Nat × Cause)
  /-- the run which has created an item -/
  creator : Nat → Nat
  /-- the item has not been taken out of the table by a script -/
  temporary : Nat → Bool
  /-- the item has had a parent -/
  placed : Nat → Bool

def Environments.initial : Environments where
  running := []
  nextRun := 0
  m_tempItems _ := []
  nextItem := 0
  parent _ := none
  freed := []
  creator _ := 0
  temporary _ := false
  placed _ := false

namespace Environments

/-- The number of environments in `m_scriptEnv`. -/
def environments : Nat := 16

def m_scriptEnvIndex (system : Environments) : Int :=
  (system.running.length : Int) - 1

/-- `LuaScriptInterface::reserveScriptEnv` -/
def reserveScriptEnv (system : Environments) : Environments :=
  if system.m_scriptEnvIndex + 1 < 15 then
    { system with
      running := system.running ++ [system.nextRun]
      nextRun := system.nextRun + 1 }
  else
    system

def listed (system : Environments) : List Nat :=
  (List.range environments).flatMap system.m_tempItems

/-- `ScriptEnviroment::resetEnv` of the environment in which a run was. -/
def resetEnv (system : Environments) (run : Nat) : Environments :=
  { system with
    freed :=
      system.freed ++
        (system.listed.filter fun item => system.parent item = none).map
          fun item => (item, .release run)
    m_tempItems := fun _ => [] }

/-- `LuaScriptInterface::releaseScriptEnv` -/
def releaseScriptEnv (system : Environments) : Environments :=
  match system.running.getLast? with
  | none => system
  | some run =>
    { system.resetEnv run with running := system.running.dropLast }

def addTempItem (system : Environments) (env item : Nat) : Environments :=
  { system with
    m_tempItems := update system.m_tempItems env (system.m_tempItems env ++ [item]) }

/-- `doCreateItemEx` of the script in the last environment. -/
def doCreateItemEx (system : Environments) : Environments :=
  match system.running.getLast? with
  | none => system
  | some run =>
    { system.addTempItem (system.running.length - 1) system.nextItem with
      nextItem := system.nextItem + 1
      parent := update system.parent system.nextItem none
      creator := update system.creator system.nextItem run
      temporary := update system.temporary system.nextItem true
      placed := update system.placed system.nextItem false }

/-- The two-argument `removeTempItem`. -/
def removeTempItemOf (system : Environments) (env item : Nat) : Environments :=
  if item ∈ system.m_tempItems env then
    { system with
      m_tempItems := update system.m_tempItems env ((system.m_tempItems env).erase item)
      temporary := update system.temporary item false }
  else
    system

def environmentOf (system : Environments) (item : Nat) : Option Nat :=
  (List.range environments).find? fun env => item ∈ system.m_tempItems env

def removeTempItem (system : Environments) (item : Nat) : Environments :=
  match system.environmentOf item with
  | none => system
  | some env => system.removeTempItemOf env item

def freeThing (system : Environments) (item : Nat) : Environments :=
  { system with freed := system.freed ++ [(item, .game)] }

/-- A script can name the item and add it: its own script runs and it has no parent. -/
def CanAdd (system : Environments) (item : Nat) : Prop :=
  item < system.nextItem ∧ system.creator item ∈ system.running ∧ system.parent item = none

instance (system : Environments) (item : Nat) : Decidable (system.CanAdd item) :=
  inferInstanceAs (Decidable (_ ∧ _ ∧ _))

/-- What `internalAddItem` does with an item that has no parent. -/
inductive Adding where
  /-- it gets a place in a cylinder -/
  | into (cylinder : Nat)
  /-- all of it is merged into a stack -/
  | merged
  /-- nothing, because it cannot be added -/
  | refused
deriving DecidableEq

def internalAddItem (system : Environments) (item : Nat) : Adding → Environments
  | .into cylinder =>
    { system with
      parent := update system.parent item (some cylinder)
      placed := update system.placed item true }
  | .merged => system.freeThing item
  | .refused => system

def internalMoveItem (system : Environments) (item cylinder : Nat) : Environments :=
  if system.parent item = none then system
  else { system with parent := update system.parent item (some cylinder) }

def internalRemoveItem (system : Environments) (item : Nat) : Environments :=
  if system.parent item = none then system
  else
    ({ system with parent := update system.parent item none } : Environments).freeThing item

inductive Operation where
  | reserveScriptEnv
  | releaseScriptEnv
  | doCreateItemEx
  | removeTempItem (item : Nat)
  | removeTempItemOf (env item : Nat)
  | internalAddItem (item : Nat) (adding : Adding)
  | internalMoveItem (item cylinder : Nat)
  | internalRemoveItem (item : Nat)
deriving DecidableEq

def step (system : Environments) : Operation → Environments
  | .reserveScriptEnv => system.reserveScriptEnv
  | .releaseScriptEnv => system.releaseScriptEnv
  | .doCreateItemEx => system.doCreateItemEx
  | .removeTempItem item => system.removeTempItem item
  | .removeTempItemOf env item => system.removeTempItemOf env item
  | .internalAddItem item adding =>
    if system.CanAdd item then system.internalAddItem item adding else system
  | .internalMoveItem item cylinder => system.internalMoveItem item cylinder
  | .internalRemoveItem item => system.internalRemoveItem item

end Environments

end OTServ.Scripts
