import Mathlib.Order.Lattice
import Mathlib.Data.List.Pairwise
import Mathlib.Tactic.Common

/-!
# Finite maps with ordered keys

A finite map stored as a list of entries with strictly increasing keys, so that
it can be iterated in key order.  The order is a field of the map: no list of
entries with a repeated key is a map.

Lookups after insertion and removal are given by the usual equations, and an
entry belongs to the list exactly when looking up its key finds its value.
-/

namespace OTServ.Library

open List Option

universe u v w

/-- A finite map whose entries are kept in the order of their keys. -/
structure OrderedMap (Key : Type u) (Value : Type v) [LinearOrder Key] where
  entries : List (Key × Value)
  sorted : entries.Pairwise fun left right => left.1 < right.1

namespace OrderedMap

variable {Key : Type u} [LinearOrder Key] {Value : Type v} {Image : Type w}

def empty : OrderedMap Key Value :=
  ⟨[], List.Pairwise.nil⟩

instance : Inhabited (OrderedMap Key Value) :=
  ⟨empty⟩

/-- The value stored under a key in a list of entries. -/
def lookup (key : Key) : List (Key × Value) → Option Value
  | [] => none
  | entry :: rest =>
    if key = entry.1 then some entry.2 else lookup key rest

def find? (map : OrderedMap Key Value) (key : Key) : Option Value :=
  lookup key map.entries

def contains (map : OrderedMap Key Value) (key : Key) : Bool :=
  (map.find? key).isSome

/-- Put an entry at its place, replacing the one with the same key. -/
def place (key : Key) (value : Value) : List (Key × Value) → List (Key × Value)
  | [] => [(key, value)]
  | entry :: rest =>
    if key < entry.1 then
      (key, value) :: entry :: rest
    else if key = entry.1 then
      (key, value) :: rest
    else
      entry :: place key value rest

variable {key other : Key} {value : Value} {entries : List (Key × Value)}

lemma mem_place {entry : Key × Value} (mem : entry ∈ place key value entries) :
  entry = (key, value) ∨ entry ∈ entries := by
  induction entries with
  | nil => exact Or.inl (mem_singleton.mp mem)
  | cons first rest ih =>
    simp only [place] at mem
    split_ifs at mem with before same
    · rcases mem_cons.mp mem with new | old
      · exact Or.inl new
      · exact Or.inr old
    · rcases mem_cons.mp mem with new | old
      · exact Or.inl new
      · exact Or.inr (mem_cons_of_mem _ old)
    · rcases mem_cons.mp mem with new | old
      · exact Or.inr (new ▸ mem_cons_self)
      · rcases ih old with new | old
        · exact Or.inl new
        · exact Or.inr (mem_cons_of_mem _ old)

lemma place_sorted
  (key : Key) (value : Value) (sorted : entries.Pairwise fun left right => left.1 < right.1) :
  (place key value entries).Pairwise fun left right => left.1 < right.1 := by
  induction sorted with
  | nil => exact pairwise_singleton _ _
  | @cons first rest after sorted ih =>
    simp only [place]
    split_ifs with before same
    · refine pairwise_cons.mpr ⟨?_, pairwise_cons.mpr ⟨after, sorted⟩⟩
      intro entry mem
      rcases mem_cons.mp mem with rfl | old
      · exact before
      · exact lt_trans before (after entry old)
    · refine pairwise_cons.mpr ⟨?_, sorted⟩
      intro entry mem
      rw [same]
      exact after entry mem
    · refine pairwise_cons.mpr ⟨?_, ih⟩
      intro entry mem
      rcases mem_place mem with rfl | old
      · exact lt_of_le_of_ne (not_lt.mp before) (Ne.symm same)
      · exact after entry old

/-- Store a value under a key, replacing the value it had. -/
def insert (map : OrderedMap Key Value) (key : Key) (value : Value) : OrderedMap Key Value :=
  ⟨place key value map.entries, place_sorted key value map.sorted⟩

def erase (map : OrderedMap Key Value) (key : Key) : OrderedMap Key Value :=
  ⟨map.entries.filter fun entry => entry.1 ≠ key, map.sorted.filter _⟩

def mapValues (transform : Value → Image) (map : OrderedMap Key Value) : OrderedMap Key Image :=
  ⟨map.entries.map fun entry => (entry.1, transform entry.2), pairwise_map.mpr map.sorted⟩

@[simp]
lemma find?_empty (key : Key) : (empty : OrderedMap Key Value).find? key = none :=
  rfl

lemma lookup_place (key other : Key) (value : Value) (entries : List (Key × Value)) :
  lookup other (place key value entries) =
    if other = key then some value else lookup other entries := by
  induction entries with
  | nil => rfl
  | cons first rest ih =>
    simp only [place]
    by_cases before : key < first.1
    · simp [before, lookup]
    · by_cases same : key = first.1
      · subst same
        simp only [lt_irrefl, if_false, if_true, lookup]
        split_ifs <;> rfl
      · simp only [before, same, if_false, lookup, ih]
        split_ifs with atFirst equal
        · exact (same (equal.symm.trans atFirst)).elim
        · rfl
        · rfl
        · rfl

variable (map : OrderedMap Key Value)

lemma find?_insert (key other : Key) (value : Value) :
  (map.insert key value).find? other = if other = key then some value else map.find? other :=
  lookup_place key other value map.entries

@[simp]
lemma find?_insert_self (key : Key) (value : Value) :
  (map.insert key value).find? key = some value := by
  simp [find?_insert]

lemma find?_insert_ne (value : Value) (ne : other ≠ key) :
  (map.insert key value).find? other = map.find? other := by
  simp [find?_insert, ne]

lemma lookup_filter (key other : Key) (entries : List (Key × Value)) :
  lookup other (entries.filter fun entry => entry.1 ≠ key) =
    if other = key then none else lookup other entries := by
  induction entries with
  | nil => simp [lookup]
  | cons first rest ih =>
    by_cases removed : first.1 = key
    · simp only [removed, ne_eq, not_true, decide_false, filter_cons,
        Bool.false_eq_true, if_false, lookup]
      rw [ih]
      split_ifs <;> rfl
    · simp only [ne_eq, removed, not_false_iff, decide_true, filter_cons, if_true, lookup]
      simp only [ne_eq] at ih
      rw [ih]
      split_ifs with atFirst gone gone
      · exact (removed (atFirst.symm.trans gone)).elim
      · rfl
      · rfl
      · rfl

lemma find?_erase (key other : Key) :
  (map.erase key).find? other = if other = key then none else map.find? other :=
  lookup_filter key other map.entries

lemma find?_erase_ne (ne : other ≠ key) : (map.erase key).find? other = map.find? other := by
  simp [find?_erase, ne]

/-- A key found after a removal was there before and is another key. -/
lemma find?_of_erase
  {map : OrderedMap Key Value} (found : (map.erase key).find? other = some value) :
  other ≠ key ∧ map.find? other = some value := by
  rw [find?_erase] at found
  split_ifs at found with same
  exact ⟨same, found⟩

lemma contains_iff (key : Key) : map.contains key = true ↔ ∃ value, map.find? key = some value :=
  isSome_iff_exists

lemma contains_insert (key other : Key) (value : Value) :
  (map.insert key value).contains other = true ↔ other = key ∨ map.contains other = true := by
  simp only [contains, find?_insert]
  split_ifs with same
  · simp [same]
  · simp [same]

lemma contains_erase (key other : Key) :
  (map.erase key).contains other = true ↔ other ≠ key ∧ map.contains other = true := by
  simp only [contains, find?_erase]
  split_ifs with same
  · simp [same]
  · simp [same]

lemma mem_iff_lookup (sorted : entries.Pairwise fun left right => left.1 < right.1) (key : Key)
  (value : Value) : (key, value) ∈ entries ↔ lookup key entries = some value := by
  induction sorted with
  | nil => simp [lookup]
  | @cons first rest after sorted ih =>
    by_cases same : key = first.1
    · constructor
      · intro mem
        rcases mem_cons.mp mem with equal | later
        · rw [← equal]
          simp [lookup]
        · exact (lt_irrefl key (by simpa [same] using after _ later)).elim
      · intro found
        simp only [lookup, same, if_true, some.injEq] at found
        rw [same, ← found]
        exact mem_cons_self
    · have elsewhere : (key, value) ≠ first := by
        rintro rfl
        exact same rfl
      simp [lookup, same, elsewhere, ih]

/-- An entry is listed exactly when its key is looked up to its value. -/
lemma mem_entries_iff (key : Key) (value : Value) :
  (key, value) ∈ map.entries ↔ map.find? key = some value :=
  mem_iff_lookup map.sorted key value

end OrderedMap

end OTServ.Library
