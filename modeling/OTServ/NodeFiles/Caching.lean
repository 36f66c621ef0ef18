import OTServ.NodeFiles.Parsing

/-!
# The ring of blocks

A loader which reads through its blocks is compared with one which reads straight
from the file.  `Valid` says that a loaded block holds the bytes of the file from
its base on; `Aligned` that the two loaders stand at one position.  Reads, seeks
and whole parses keep them aligned, and after the parse `Twins` is enough: every
call gives one answer in both.
-/

namespace OTServ.NodeFiles

open Library.ByteStreams
open Library.Escaping
open List Function Option

variable {loader : Loader} {pos : Nat} {index : Fin 3}

namespace Loader

/-- A loaded block holds what the file holds from its base on. -/
def Valid (loader : Loader) : Prop :=
  ∀ index, (loader.blocks index).loaded = true →
    (loader.blocks index).data = slice loader.file (loader.blocks index).base loader.cacheSize

/-- A block for the position can be loaded, or it is in the ring. -/
def Reaches (loader : Loader) (pos : Nat) : Prop :=
  (pos ≤ loader.file.length ∨ pos = basePos loader.cacheSize pos) ∨
    ∃ index, (loader.blocks index).loaded = true ∧
      (loader.blocks index).base = basePos loader.cacheSize pos

/-- Only the ring and the place in it may differ, and the ring is valid. -/
structure Moved (loader after : Loader) : Prop where
  file : after.file = loader.file
  root : after.root = loader.root
  bufferSize : after.bufferSize = loader.bufferSize
  useCache : after.useCache = loader.useCache
  cacheSize : after.cacheSize = loader.cacheSize
  astray : after.astray = loader.astray
  valid : after.Valid

structure Holds (loader : Loader) (index : Fin 3) (pos : Nat) : Prop where
  loaded : (loader.blocks index).loaded = true
  base : (loader.blocks index).base = basePos loader.cacheSize pos

lemma Moved.refl (valid : loader.Valid) : Moved loader loader :=
  ⟨rfl, rfl, rfl, rfl, rfl, rfl, valid⟩

lemma Moved.trans {first second third : Loader} (moved : Moved first second)
  (next : Moved second third) : Moved first third :=
  ⟨next.file.trans moved.file, next.root.trans moved.root,
    next.bufferSize.trans moved.bufferSize,
    next.useCache.trans moved.useCache,
    next.cacheSize.trans moved.cacheSize,
    next.astray.trans moved.astray, next.valid⟩

lemma basePos_le (cacheSize pos : Nat) : basePos cacheSize pos ≤ pos :=
  Nat.sub_le _ _

lemma sub_basePos_lt {cacheSize : Nat} (positive : 0 < cacheSize) (pos : Nat) :
  pos - basePos cacheSize pos < cacheSize := by
  have low : pos &&& (cacheSize - 1) ≤ cacheSize - 1 := Nat.and_le_right
  have below : pos &&& (cacheSize - 1) ≤ pos := Nat.and_le_left
  rw [basePos, Nat.sub_sub_self below]
  omega

variable {loader : Loader}

lemma loadCacheBlock_spec (valid : loader.Valid) (positive : 0 < loader.cacheSize)
  (within : pos ≤ loader.file.length ∨ pos = basePos loader.cacheSize pos) :
  ∃ index after,
    loader.loadCacheBlock pos = (some index, after) ∧
      Moved loader after ∧ after.Holds index pos := by
  have low := sub_basePos_lt positive pos
  have enough :
      ¬ (slice loader.file (basePos loader.cacheSize pos)
          loader.cacheSize).length <
        pos - basePos loader.cacheSize pos := by
    rw [slice, length_take, length_drop]
    omega
  refine ⟨loader.loadingCache pos, _, if_neg enough, ⟨rfl, rfl, rfl, rfl, rfl, rfl, ?_⟩, ?_⟩
  · intro index loaded
    by_cases here : index = loader.loadingCache pos
    · subst here
      simp only [update_self]
      rfl
    · simp only [update_of_ne here] at loaded ⊢
      exact valid index loaded
  · constructor <;> simp only [update_self]

lemma getCacheBlock_spec
  (valid : loader.Valid) (positive : 0 < loader.cacheSize) (reaches : loader.Reaches pos) :
  ∃ index after,
    loader.getCacheBlock pos = (some index, after) ∧
      Moved loader after ∧ after.Holds index pos := by
  rw [getCacheBlock]
  cases found :
      [0, 1, 2].find? fun index =>
        (loader.blocks index).loaded &&
          (loader.blocks index).base == basePos loader.cacheSize pos with
  | some index =>
    have holds := List.find?_some found
    rw [Bool.and_eq_true, beq_iff_eq] at holds
    exact ⟨index, loader, rfl, Moved.refl valid, holds.1, holds.2⟩
  | none =>
    rcases reaches with within | ⟨index, loaded, base⟩
    · exact loadCacheBlock_spec valid positive within
    · have among : index ∈ ([0, 1, 2] : List (Fin 3)) := by
        exact mem_finRange index
      have missed := List.find?_eq_none.1 found index among
      rw [loaded, base, beq_self_eq_true] at missed
      exact absurd rfl missed

lemma getCacheBlock_lost (lost : ¬ loader.Reaches pos) :
  ∃ after, loader.getCacheBlock pos = (none, after) := by
  have beyond : loader.file.length < pos :=
    Nat.lt_of_not_le fun within => lost (.inl (.inl within))
  have inside : pos ≠ basePos loader.cacheSize pos := fun equal => lost (.inl (.inr equal))
  have low := basePos_le loader.cacheSize pos
  have missed :
      ([0, 1, 2].find? fun index =>
        (loader.blocks index).loaded &&
          (loader.blocks index).base == basePos loader.cacheSize pos) =
        none := by
    rw [List.find?_eq_none]
    intro index _ holds
    rw [Bool.and_eq_true, beq_iff_eq] at holds
    exact lost (.inr ⟨index, holds.1, holds.2⟩)
  have short :
      (slice loader.file (basePos loader.cacheSize pos)
          loader.cacheSize).length <
        pos - basePos loader.cacheSize pos := by
    rw [slice, length_take, length_drop]
    omega
  rw [getCacheBlock, missed]
  exact ⟨_, if_pos short⟩

end Loader

/-! ## Two loaders at one file -/

structure Twins (cached direct : Loader) : Prop where
  useCache : cached.useCache = true
  uncached : direct.useCache = false
  file : cached.file = direct.file
  root : cached.root = direct.root
  bufferSize : cached.bufferSize = direct.bufferSize
  astray : cached.astray = direct.astray
  positive : 0 < cached.cacheSize
  valid : cached.Valid

structure Aligned (cached direct : Loader) : Prop extends Twins cached direct where
  within : direct.filePos ≤ direct.file.length
  current :
    ∃ index, cached.cacheIndex = some index ∧
      (cached.blocks index).loaded = true ∧
      cached.cacheOffset ≤ (cached.blocks index).size ∧
      (cached.blocks index).base + cached.cacheOffset = direct.filePos

section Twins

variable {cached direct : Loader}

lemma Twins.moved (twins : Twins cached direct) {after : Loader} (moved : cached.Moved after) :
  Twins after direct :=
  ⟨moved.useCache.trans twins.useCache, twins.uncached,
    moved.file.trans twins.file, moved.root.trans twins.root,
    moved.bufferSize.trans twins.bufferSize,
    moved.astray.trans twins.astray,
    by rw [moved.cacheSize]; exact twins.positive, moved.valid⟩

lemma Twins.seek (twins : Twins cached direct) (pos : Nat) (error : LoaderError) :
  Twins cached { direct with filePos := pos, lastError := error } :=
  ⟨twins.useCache, twins.uncached, twins.file, twins.root, twins.bufferSize,
    twins.astray, twins.positive, twins.valid⟩

lemma Moved_atBlock (valid : loader.Valid) (index : Fin 3) (pos : Nat) :
  loader.Moved (loader.atBlock index pos) :=
  ⟨rfl, rfl, rfl, rfl, rfl, rfl, valid⟩

lemma Twins.aligned (twins : Twins cached direct) (error : LoaderError)
  (holds : cached.Holds index pos) (within : pos ≤ direct.file.length) :
  Aligned (cached.atBlock index pos) { direct with filePos := pos, lastError := error } := by
  have low := Loader.sub_basePos_lt twins.positive pos
  have below := Loader.basePos_le cached.cacheSize pos
  have data := twins.valid index holds.loaded
  rw [← twins.file] at within
  have size : pos - (cached.blocks index).base ≤ (cached.blocks index).size := by
    rw [Block.size, data, slice, length_take, length_drop, holds.base]
    omega
  have base : (cached.blocks index).base ≤ pos := by
    rw [holds.base]
    exact below
  refine ⟨(twins.moved (Moved_atBlock twins.valid index pos)).seek pos error,
    ?_, index, rfl, holds.loaded, size, Nat.add_sub_cancel' base⟩
  rw [← twins.file]
  exact within

section

variable (aligned : Aligned cached direct)
include aligned

section

variable (current : cached.cacheIndex = some index)
include current

lemma Aligned.byte (inside : cached.cacheOffset < (cached.blocks index).size) :
  (cached.blocks index).data[cached.cacheOffset]? = direct.file[direct.filePos]? := by
  rcases aligned.current with ⟨index', current', loaded, _, pos⟩
  rw [current] at current'
  obtain rfl := some.inj current'
  rw [Block.size] at inside
  have data := aligned.valid index loaded
  rw [data, slice, length_take] at inside
  rw [data, slice, List.getElem?_take_of_lt (by omega), List.getElem?_drop, pos, aligned.file]

lemma Aligned.step (inside : cached.cacheOffset < (cached.blocks index).size) {byte : UInt8}
  (stands : direct.file[direct.filePos]? = some byte) :
  cached.takeCached index =
      (some byte, { cached with cacheOffset := cached.cacheOffset + 1 }) ∧
    Aligned { cached with cacheOffset := cached.cacheOffset + 1 }
      (direct.at (direct.filePos + 1)) := by
  refine ⟨?_, ?_⟩
  · rw [Loader.takeCached, aligned.byte current inside, stands]
  · rcases aligned.current with ⟨index', current', loaded, _, pos⟩
    rw [current] at current'
    obtain rfl := some.inj current'
    refine ⟨⟨aligned.useCache, aligned.uncached, aligned.file, aligned.root,
      aligned.bufferSize, aligned.astray, aligned.positive, aligned.valid⟩,
      (List.getElem?_eq_some_iff.1 stands).1, index, current, loaded, inside,
      ?_⟩
    simp only [Loader.at_filePos]
    omega

lemma Aligned.ended (holds : cached.Holds index pos) (here : pos = direct.filePos)
  (outside : (cached.blocks index).size ≤ cached.cacheOffset) :
  direct.file[direct.filePos]? = none := by
  rcases aligned.current with ⟨index', current', loaded, _, position⟩
  rw [current] at current'
  obtain rfl := some.inj current'
  have low := Loader.sub_basePos_lt aligned.positive pos
  have data := aligned.valid index loaded
  rw [Block.size, data, slice, length_take, length_drop, aligned.file] at outside
  rw [holds.base] at outside position
  rw [List.getElem?_eq_none_iff]
  omega

end

lemma readByte_aligned :
  ∃ answer after after',
    cached.readByte = (answer, after) ∧
      direct.readByte = (answer, after') ∧ Aligned after after' := by
  rcases aligned.current with ⟨index, current, loaded, inside, pos⟩
  rw [Loader.readByte, if_pos aligned.useCache, current]
  by_cases behind : (cached.blocks index).size ≤ cached.cacheOffset
  · have place : cached.cacheOffset + (cached.blocks index).base = direct.filePos := by
      omega
    have within := aligned.within
    have reaches : cached.Reaches (cached.cacheOffset + (cached.blocks index).base) := by
      refine .inl (.inl ?_)
      rw [place, aligned.file]
      exact within
    rcases Loader.getCacheBlock_spec aligned.valid aligned.positive reaches
      with ⟨next, after, found, moved, holds⟩
    have twins := aligned.toTwins.moved moved
    rw [place] at found holds
    have sought :
        Aligned (after.atBlock next direct.filePos)
          { direct with lastError := direct.lastError } :=
      twins.aligned direct.lastError holds within
    simp only [if_pos behind, place, found]
    by_cases ended :
        ((after.atBlock next direct.filePos).blocks next).size ≤
          (after.atBlock next direct.filePos).cacheOffset
    · have stands :=
        sought.ended (show _ = some next from rfl)
          (show (after.atBlock next direct.filePos).Holds next
            direct.filePos from ⟨holds.loaded, holds.base⟩) rfl ended
      rw [if_pos ended]
      exact ⟨none, _, _, rfl, readByte_direct_none aligned.uncached stands,
        twins.aligned .eof holds within⟩
    · have inside := Nat.lt_of_not_le ended
      have byte := sought.byte (show _ = some next from rfl) inside
      have exists_byte :
          ((after.atBlock next direct.filePos).blocks next).data[
            (after.atBlock next direct.filePos).cacheOffset]? = some _ :=
        List.getElem?_eq_getElem inside
      have stands := byte.symm.trans exists_byte
      rcases sought.step (show _ = some next from rfl) inside stands with ⟨taken, stepped⟩
      rw [if_neg ended]
      exact ⟨_, _, _, taken, readByte_direct_some aligned.uncached stands, stepped⟩
  · have inside := Nat.lt_of_not_le behind
    have exists_byte : (cached.blocks index).data[cached.cacheOffset]? = some _ :=
      List.getElem?_eq_getElem inside
    have stands := (aligned.byte current inside).symm.trans exists_byte
    rcases aligned.step current inside stands with ⟨taken, stepped⟩
    simp only [if_neg behind]
    exact ⟨_, _, _, taken, readByte_direct_some aligned.uncached stands, stepped⟩

lemma safeTell_aligned : cached.safeTell = (some (direct.filePos - 1), cached) := by
  rcases aligned.current with ⟨index, current, _, _, pos⟩
  rw [Loader.safeTell, if_pos aligned.useCache, current, ← pos]

end

lemma safeSeek_twins (twins : Twins cached direct) (within : pos ≤ direct.file.length) :
  ∃ after, cached.safeSeek pos = (true, after) ∧ Aligned after (direct.at pos) := by
  have reaches : cached.Reaches pos := by
    refine .inl (.inl ?_)
    rw [twins.file]
    exact within
  rcases Loader.getCacheBlock_spec twins.valid twins.positive reaches with
    ⟨index, after, found, moved, holds⟩
  refine ⟨after.atBlock index pos, ?_, (twins.moved moved).aligned direct.lastError holds within⟩
  rw [Loader.safeSeek, if_pos twins.useCache, found]

end Twins

structure Alike (cached direct : Parsed) : Prop where
  ok : cached.ok = direct.ok
  node : cached.node = direct.node
  loader : Aligned cached.loader direct.loader

lemma Aligned.goAstray {cached direct : Loader} (aligned : Aligned cached direct) :
  Aligned cached.goAstray direct.goAstray :=
  ⟨⟨aligned.useCache, aligned.uncached, aligned.file, aligned.root,
    aligned.bufferSize, rfl, aligned.positive, aligned.valid⟩,
    aligned.within, aligned.current⟩

lemma Aligned.withError
  {cached direct : Loader} (aligned : Aligned cached direct) (error : LoaderError) :
  Aligned { cached with lastError := error } { direct with lastError := error } :=
  ⟨⟨aligned.useCache, aligned.uncached, aligned.file, aligned.root,
    aligned.bufferSize, aligned.astray, aligned.positive, aligned.valid⟩,
    aligned.within, aligned.current⟩

def ParseAlike (fuel : Nat) : Prop :=
  ∀ (start : Nat) (cached direct : Loader),
    Aligned cached direct →
    Alike (parseNode fuel start cached) (parseNode fuel start direct)

lemma parseRest_alike (fuel : Nat) (alike : ∀ smaller, smaller < fuel → ParseAlike smaller) :
  ∀ (start : Nat) (type : UInt8) (propsSize : Nat) (child : Node)
    (setPropsSize : Bool) (cached direct : Loader),
    Aligned cached direct →
    Alike (parseRest fuel start type propsSize child setPropsSize cached)
      (parseRest fuel start type propsSize child setPropsSize direct) := by
  induction fuel with
  | zero =>
    intro start type propsSize child setPropsSize cached direct aligned
    exact ⟨rfl, rfl, aligned.goAstray⟩
  | succ fuel ih =>
    intro start type propsSize child setPropsSize cached direct aligned
    have ih := ih fun smaller less => alike smaller (Nat.lt_succ_of_lt less)
    have parse_alike := alike fuel (Nat.lt_succ_self fuel)
    rcases readByte_aligned aligned with ⟨answer, cached', direct', read, read', aligned'⟩
    have told := safeTell_aligned aligned'
    have told' := safeTell_direct aligned'.uncached
    rw [parseRest, parseRest, read, read']
    cases answer with
    | none => exact ⟨rfl, rfl, aligned'⟩
    | some byte =>
      simp only [told, told']
      split
      · have inner := parse_alike (direct'.filePos - 1) cached' direct' aligned'
        rw [inner.ok, inner.node]
        split
        · exact ih _ _ _ _ _ _ _ inner.loader
        · exact ⟨rfl, rfl, inner.loader⟩
      · split
        · rcases readByte_aligned aligned' with
            ⟨answer, cached'', direct'', next, next', aligned''⟩
          have told := safeTell_aligned aligned''
          have told' := safeTell_direct aligned''.uncached
          rw [next, next']
          cases answer with
          | none => exact ⟨rfl, rfl, aligned''⟩
          | some byte =>
            simp only [told, told']
            split
            · have beside := parse_alike (direct''.filePos - 1) cached'' direct'' aligned''
              exact ⟨beside.ok, by rw [beside.node], beside.loader⟩
            · split
              · have within := aligned''.within
                have pos_within : direct''.filePos - 1 ≤ direct''.file.length := by
                  omega
                rcases safeSeek_twins aligned''.toTwins pos_within with
                  ⟨after, sought, sought_aligned⟩
                rw [sought, safeSeek_direct aligned''.uncached]
                exact ⟨rfl, rfl, sought_aligned⟩
              · exact ⟨rfl, rfl, aligned''.withError .invalidFormat⟩
        · split
          · rcases readByte_aligned aligned' with
              ⟨answer, cached'', direct'', next, next', aligned''⟩
            rw [next, next']
            cases answer with
            | none => exact ⟨rfl, rfl, aligned''⟩
            | some byte => exact ih _ _ _ _ _ _ _ aligned''
          · exact ih _ _ _ _ _ _ _ aligned'

lemma parseNode_alike (fuel : Nat) : ParseAlike fuel := by
  induction fuel using Nat.strongRecOn with
  | _ fuel alike =>
    intro start cached direct aligned
    cases fuel with
    | zero => exact ⟨rfl, rfl, aligned.goAstray⟩
    | succ fuel =>
      rcases readByte_aligned aligned with ⟨answer, cached', direct', read, read', aligned'⟩
      rw [parseNode, parseNode, read, read']
      cases answer with
      | none => exact ⟨rfl, rfl, aligned'⟩
      | some type =>
        exact parseRest_alike fuel
          (fun smaller less => alike smaller (Nat.lt_succ_of_lt less))
          start type 0 .null false cached' direct' aligned'

end OTServ.NodeFiles
