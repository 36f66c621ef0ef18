import Mathlib.Data.List.Basic
import Mathlib.Data.List.TakeDrop

/-!
# Deferred tasks

Jobs which are to run later wait in a queue.  A job that is added gets the next
number, by which it can be stopped as long as it has not been handed over to the one
who runs it; a job that is added past the waiting has no number.

What a component knows about its jobs is a list selected from the queue: adding a
job appends to it, handing over changes nothing, and running a job takes one place
out of it.
-/

namespace OTServ.Library

open List

universe u v

structure DeferredTask (Job : Type u) where
  /-- 0 for a job that cannot be stopped -/
  id : Nat
  job : Job
  /-- it has left the place where it can be stopped -/
  handed : Bool
deriving DecidableEq

/-- The waiting jobs in the order they were added, and the last number. -/
structure DeferredTasks (Job : Type u) where
  lastId : Nat
  pending : List (DeferredTask Job)
deriving DecidableEq

namespace DeferredTasks

variable {Job : Type u} {Image : Type v}

def empty : DeferredTasks Job where
  lastId := 0
  pending := []

/-- Add a job, whose number is then the last one. -/
def add (tasks : DeferredTasks Job) (job : Job) : DeferredTasks Job where
  lastId := tasks.lastId + 1
  pending := tasks.pending ++ [⟨tasks.lastId + 1, job, false⟩]

def addHanded (tasks : DeferredTasks Job) (job : Job) : DeferredTasks Job where
  lastId := tasks.lastId
  pending := tasks.pending ++ [⟨0, job, true⟩]

def Stoppable (id : Nat) (task : DeferredTask Job) : Prop :=
  id ≠ 0 ∧ task.id = id ∧ task.handed = false

instance (id : Nat) (task : DeferredTask Job) : Decidable (Stoppable id task) :=
  inferInstanceAs (Decidable (_ ∧ _))

def stop (tasks : DeferredTasks Job) (id : Nat) : DeferredTasks Job where
  lastId := tasks.lastId
  pending := tasks.pending.filter fun task => ¬ Stoppable id task

def hand (tasks : DeferredTasks Job) (id : Nat) : DeferredTasks Job where
  lastId := tasks.lastId
  pending :=
    tasks.pending.map fun task => if task.id = id then { task with handed := true } else task

def remove (tasks : DeferredTasks Job) (index : Nat) : DeferredTasks Job where
  lastId := tasks.lastId
  pending := tasks.pending.eraseIdx index

def select (tasks : DeferredTasks Job) (view : Job → Option Image) : List Image :=
  tasks.pending.filterMap fun task => view task.job

@[simp]
lemma select_add (tasks : DeferredTasks Job) (job : Job) (view : Job → Option Image) :
  (tasks.add job).select view = tasks.select view ++ (view job).toList := by
  cases seen : view job <;> simp [select, add, seen]

@[simp]
lemma select_addHanded (tasks : DeferredTasks Job) (job : Job) (view : Job → Option Image) :
  (tasks.addHanded job).select view = tasks.select view ++ (view job).toList := by
  cases seen : view job <;> simp [select, addHanded, seen]

@[simp]
lemma select_hand (tasks : DeferredTasks Job) (id : Nat) (view : Job → Option Image) :
  (tasks.hand id).select view = tasks.select view := by
  simp only [select, hand, filterMap_map]
  congr 1
  funext task
  by_cases named : task.id = id <;> simp [named]

variable {tasks : DeferredTasks Job} {task : DeferredTask Job}

/-- Taking a task out takes what it shows out of its place. -/
lemma select_remove
  {index : Nat} (standing : tasks.pending[index]? = some task) (view : Job → Option Image) :
  ∃ before after,
    tasks.select view = before ++ (view task.job).toList ++ after ∧
    (tasks.remove index).select view = before ++ after := by
  obtain ⟨bound, rfl⟩ := List.getElem?_eq_some_iff.mp standing
  have split :
      tasks.pending =
        tasks.pending.take index ++ tasks.pending[index] :: tasks.pending.drop (index + 1) := by
    rw [← drop_eq_getElem_cons bound, take_append_drop]
  refine ⟨(tasks.pending.take index).filterMap fun task => view task.job,
    (tasks.pending.drop (index + 1)).filterMap fun task => view task.job, ?_, ?_⟩
  · calc
      tasks.select view
          = (tasks.pending.take index ++
              tasks.pending[index] :: tasks.pending.drop (index + 1)).filterMap
                fun task => view task.job := by
            rw [← split]
            rfl
      _ = _ := by
            rw [filterMap_append, filterMap_cons, append_assoc]
            cases view tasks.pending[index].job <;> rfl
  · rw [select, remove, eraseIdx_eq_take_drop_succ, filterMap_append]

/-- What a task in the queue shows is selected. -/
lemma mem_select {view : Job → Option Image} {image : Image} :
  image ∈ tasks.select view ↔ ∃ task ∈ tasks.pending, view task.job = some image :=
  mem_filterMap

lemma mem_stop {id : Nat} :
  task ∈ (tasks.stop id).pending ↔ task ∈ tasks.pending ∧ ¬ Stoppable id task := by
  simp [stop]

end DeferredTasks

end OTServ.Library
