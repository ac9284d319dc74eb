import ViperChain.Node.Import

/-!
The summary of a closed epoch. It looks its blocks up in memory, while a checkpoint every
thousand blocks takes them out.
-/

namespace ViperChain

open Fallible

section Summary

def archivalEpochRootDomain : Bytes := ascii "VIPER-ARCHIVAL-V1"

def computeArchivalEpochRoot (env : Env) (epochNumber : Nat) (blockHashes : List BlockHash) : Bytes32 :=
  (((TaggedHasher.new env archivalEpochRootDomain).pushU64 epochNumber).pushChunks
    (blockHashes.map Bytes32.data)).finish env

structure ArchivalEpochSummary where
  epochNumber : Nat
  firstHeight : Nat
  lastHeight : Nat
  epochRoot : Bytes32
deriving DecidableEq

def epochForHeight (height epochDuration : Nat) : Nat := height / epochDuration

def summarizeClosedEpoch (env : Env) (chain : ChainStore) (boundaryHeight epochDuration : Nat) :
    Option ArchivalEpochSummary := do
  guard (isEpochBoundary boundaryHeight epochDuration)
  let currentEpoch := epochForHeight boundaryHeight epochDuration
  guard (currentEpoch ≠ 0)
  let closedEpoch := currentEpoch - 1
  let firstHeight := satMul64 closedEpoch epochDuration
  let lastHeight := satAdd64 firstHeight epochDuration - 1
  let hashes ← (List.range' firstHeight (lastHeight + 1 - firstHeight)).mapM fun height =>
    (chain.getMetadataByHeight height).map BlockMetadata.blockHash
  return ⟨closedEpoch, firstHeight, lastHeight, computeArchivalEpochRoot env closedEpoch hashes⟩

end Summary

section Growth

variable {env : Env} {chain next : ChainStore} {blocks : List StoredBlock} {stored : StoredBlock}

def growChain (env : Env) (chain : ChainStore) (stored : StoredBlock) :
    Except ChainError ChainStore := do
  let appended ← chain.appendStoredBlock env stored
  return if stored.metadata.height % checkpointInterval = 0 then
    appended.compactToCheckpoint appended.height appended.expectedPrevHash
  else appended

def lastCheckpoint (height : Nat) : Nat := height / checkpointInterval * checkpointInterval

/-- The chain after these blocks: those above the last checkpoint are in memory. -/
structure Grown (env : Env) (blocks : List StoredBlock) (chain : ChainStore) : Prop where
  linked : chain.Linked env Set.univ
  height : chain.height = blocks.length
  base : chain.baseHeight = lastCheckpoint blocks.length
  canonical : ∀ index stored, blocks[index]? = some stored →
    stored.metadata.height = index + 1 ∧ stored.metadata.blockHash = computeBlockHash env stored.block
  held : ∀ index stored, blocks[index]? = some stored → lastCheckpoint blocks.length < index + 1 →
    chain.getStoredBlockByHeight (index + 1) = some stored

theorem new_grown (env : Env) (anchor : BlockHash) : Grown env [] (.new anchor) where
  linked := ChainStore.newWithBase_linked anchor 0 (by decide)
  height := by simp [ChainStore.new, ChainStore.newWithBase, ChainStore.height, ChainStore.tip]
  base := rfl
  canonical := by simp
  held := by simp

theorem getStoredBlockByHeight_linkBlock (linked : chain.Linked env Set.univ)
    (extension : chain.Extends env Set.univ stored) (height : Nat) :
    (chain.linkBlock stored).getStoredBlockByHeight height =
      if stored.metadata.height = height then some stored
      else chain.getStoredBlockByHeight height := by
  simp only [ChainStore.getStoredBlockByHeight, ChainStore.linkBlock, Std.ExtTreeMap.getElem?_insert,
    compare_eq_iff_eq]
  split
  · simp
  · cases placed : chain.byHeight[height]? with
    | none => rfl
    | some hash =>
        obtain ⟨other, found, _⟩ := linked.indexed height hash placed
        have different : stored.metadata.blockHash ≠ hash := by
          rintro rfl
          simp [extension.fresh] at found
        simp [different]

theorem getStoredBlockByHeight_below (linked : chain.Linked env Set.univ) {height : Nat}
    (below : height ≤ chain.baseHeight) : chain.getStoredBlockByHeight height = none := by
  cases placed : chain.byHeight[height]? with
  | none => simp [ChainStore.getStoredBlockByHeight, placed]
  | some hash =>
      have range := (linked.heights height).mp ⟨hash, placed⟩
      omega

theorem lastCheckpoint_le (height : Nat) : lastCheckpoint height ≤ height :=
  Nat.div_mul_le_self height checkpointInterval

theorem lastCheckpoint_of_dvd {height : Nat} (due : height % checkpointInterval = 0) :
    lastCheckpoint height = height :=
  Nat.div_mul_cancel (Nat.dvd_of_mod_eq_zero due)

theorem lastCheckpoint_succ {height : Nat} (notDue : (height + 1) % checkpointInterval ≠ 0) :
    lastCheckpoint (height + 1) = lastCheckpoint height := by
  simp only [lastCheckpoint, checkpointInterval] at notDue ⊢
  omega

theorem getElem?_concat {Item : Type} {items : List Item} {item found : Item} {index : Nat}
    (place : (items ++ [item])[index]? = some found) :
    items[index]? = some found ∨ (index = items.length ∧ item = found) := by
  rw [List.getElem?_append] at place
  split at place
  case isTrue => exact .inl place
  case isFalse outside =>
    rw [List.getElem?_singleton] at place
    split at place
    case isTrue last => exact .inr ⟨by omega, Option.some.inj place⟩
    case isFalse => cases place

theorem Grown.link (grown : Grown env blocks chain)
    (extension : chain.Extends env Set.univ stored) {index : Nat} {found : StoredBlock}
    (place : (blocks ++ [stored])[index]? = some found) :
    (found.metadata.height = index + 1 ∧
        found.metadata.blockHash = computeBlockHash env found.block) ∧
      (lastCheckpoint blocks.length < index + 1 →
        (chain.linkBlock stored).getStoredBlockByHeight (index + 1) = some found) := by
  have height : stored.metadata.height = blocks.length + 1 := by
    rw [extension.height, grown.height]
  have linked := getStoredBlockByHeight_linkBlock grown.linked extension
  rcases getElem?_concat place with old | ⟨rfl, rfl⟩
  · refine ⟨grown.canonical index found old, fun above => ?_⟩
    have inside := (List.getElem?_eq_some_iff.mp old).1
    rw [linked, if_neg (by omega)]
    exact grown.held index found old above
  · exact ⟨⟨height, extension.genuine.hashed.symm⟩, fun _ => by rw [linked, if_pos height]⟩

theorem Grown.step (grown : Grown env blocks chain) (accepted : growChain env chain stored = .ok next) :
    Grown env (blocks ++ [stored]) next := by
  simp only [growChain, ChainStore.appendStoredBlock, bind_eq_ok, pure_eq_ok] at accepted
  obtain ⟨_, ⟨_, valid, rfl⟩, rfl⟩ := accepted
  have extension := grown.linked.extension (Set.mem_univ _) valid
  have linked := grown.linked.linkBlock extension
  have height : stored.metadata.height = blocks.length + 1 := by
    rw [extension.height, grown.height]
  have length : (blocks ++ [stored]).length = blocks.length + 1 := by simp
  have base : (chain.linkBlock stored).baseHeight = lastCheckpoint blocks.length := grown.base
  split
  case isTrue due =>
    rw [height] at due
    have checkpoint := lastCheckpoint_of_dvd due
    have below : (chain.linkBlock stored).height < u64Max := by
      have fits := extension.fits
      rw [ChainStore.height_linkBlock, height] at *
      simp only [checkpointInterval, u64Max] at *
      omega
    refine ⟨linked.compactToCheckpoint linked.bounded.1 le_rfl linked.tipped below, ?_, ?_,
      fun index found place => (grown.link extension place).1, fun index found place above => ?_⟩
    · rw [linked.height_compact linked.bounded.1 le_rfl, ChainStore.height_linkBlock, height, length]
    · rw [length, checkpoint, ← height, ← @ChainStore.height_linkBlock chain stored]
      rfl
    · -- nothing lies above a checkpoint at the tip
      have inside := (List.getElem?_eq_some_iff.mp place).1
      rw [length, checkpoint] at above
      omega
  case isFalse notDue =>
    rw [height] at notDue
    have same := lastCheckpoint_succ notDue
    refine ⟨linked, ?_, ?_, fun index found place => (grown.link extension place).1,
      fun index found place above => (grown.link extension place).2 ?_⟩
    · rw [ChainStore.height_linkBlock, height, length]
    · rw [length, same, base]
    · rwa [length, same] at above

theorem grown_of_run {anchor : BlockHash} (blocks : List StoredBlock)
    (run : blocks.foldlM (growChain env) (.new anchor) = .ok chain) : Grown env blocks chain := by
  induction blocks using List.reverseRecOn generalizing chain with
  | nil =>
      obtain rfl : ChainStore.new anchor = chain := by simpa using run
      exact new_grown env anchor
  | append_singleton blocks stored ih =>
      rw [List.foldlM_append, bind_eq_ok] at run
      obtain ⟨before, earlier, last⟩ := run
      rw [List.foldlM_cons, bind_eq_ok] at last
      obtain ⟨after, grows, same⟩ := last
      obtain rfl : after = chain := by simpa using same
      exact (ih earlier).step grows

end Growth

section Closing

variable {env : Env} {chain : ChainStore} {blocks : List StoredBlock}

theorem mapM_of_forall {Item Result : Type} {look : Item → Option Result} {result : Item → Result}
    (items : List Item) (found : ∀ item ∈ items, look item = some (result item)) :
    items.mapM look = some (items.map result) := by
  induction items with
  | nil => rfl
  | cons item items ih =>
      have head := found item List.mem_cons_self
      have tail := ih fun later member => found later (List.mem_cons_of_mem _ member)
      simp [List.mapM_cons, head, tail]

def epochSummary (env : Env) (blocks : List StoredBlock) (epoch duration : Nat) :
    ArchivalEpochSummary where
  epochNumber := epoch
  firstHeight := epoch * duration
  lastHeight := (epoch + 1) * duration - 1
  epochRoot := computeArchivalEpochRoot env epoch
    (((blocks.drop (epoch * duration - 1)).take duration).map fun stored => stored.metadata.blockHash)

theorem summarizeClosedEpoch_boundary {epoch duration : Nat} (positive : 0 < duration)
    (fits : (epoch + 1) * duration ≤ u64Max) :
    summarizeClosedEpoch env chain ((epoch + 1) * duration) duration =
      ((List.range' (epoch * duration) duration).mapM fun height =>
        (chain.getMetadataByHeight height).map BlockMetadata.blockHash).map fun hashes =>
          ⟨epoch, epoch * duration, (epoch + 1) * duration - 1,
            computeArchivalEpochRoot env epoch hashes⟩ := by
  have ends : (epoch + 1) * duration = epoch * duration + duration := by ring
  have boundary : isEpochBoundary ((epoch + 1) * duration) duration = true := by
    simp only [isEpochBoundary, Nat.mul_mod_left, decide_true, Bool.and_true, decide_eq_true_eq]
    omega
  have current : epochForHeight ((epoch + 1) * duration) duration = epoch + 1 :=
    Nat.mul_div_cancel _ positive
  have first : satMul64 epoch duration = epoch * duration := Nat.min_eq_left (by omega)
  have last : satAdd64 (epoch * duration) duration - 1 = (epoch + 1) * duration - 1 := by
    rw [satAdd64, Nat.min_eq_left (by omega), ends]
  have count : (epoch + 1) * duration - 1 + 1 - epoch * duration = duration := by omega
  simp only [summarizeClosedEpoch, boundary, current, first, Nat.add_sub_cancel, last, count]
  simp only [Option.map_eq_bind, Option.bind_eq_bind]
  rfl

theorem Grown.epoch_hashes (grown : Grown env blocks chain) {epoch duration : Nat}
    (later : 0 < epoch * duration) (closed : blocks.length = (epoch + 1) * duration)
    (early : lastCheckpoint blocks.length < epoch * duration) :
    (List.range' (epoch * duration) duration).mapM (fun height =>
        (chain.getMetadataByHeight height).map BlockMetadata.blockHash) =
      some (((blocks.drop (epoch * duration - 1)).take duration).map fun stored =>
        stored.metadata.blockHash) := by
  have start := Nat.sub_add_cancel later
  have ends : (epoch + 1) * duration = epoch * duration + duration := by ring
  let hashAt (height : Nat) : BlockHash :=
    (blocks[height - 1]?.map fun stored => stored.metadata.blockHash).getD nilHash
  have found : ∀ height ∈ List.range' (epoch * duration) duration,
      (chain.getMetadataByHeight height).map BlockMetadata.blockHash = some (hashAt height) := by
    intro height member
    obtain ⟨lower, upper⟩ := List.mem_range'_1.mp member
    have inside : height - 1 < blocks.length := by omega
    have held := grown.held (height - 1) blocks[height - 1] (List.getElem?_eq_getElem inside) (by omega)
    rw [Nat.sub_add_cancel (by omega)] at held
    simp [ChainStore.getMetadataByHeight, held, hashAt, inside]
  rw [mapM_of_forall _ found]
  congr 1
  refine List.ext_getElem (by simp; omega) fun index inRange inBlocks => ?_
  have inside : epoch * duration - 1 + index < blocks.length := by
    simp only [List.length_map, List.length_range'] at inRange
    omega
  have place : epoch * duration + index - 1 = epoch * duration - 1 + index := by omega
  simp [hashAt, place, inside]

theorem Grown.epoch_missing (grown : Grown env blocks chain) {epoch duration : Nat}
    (positive : 0 < duration) (late : epoch * duration ≤ lastCheckpoint blocks.length) :
    (List.range' (epoch * duration) duration).mapM (fun height =>
        (chain.getMetadataByHeight height).map BlockMetadata.blockHash) = none := by
  obtain ⟨rest, rfl⟩ : ∃ rest, duration = rest + 1 := ⟨duration - 1, by omega⟩
  have gone : chain.getStoredBlockByHeight (epoch * (rest + 1)) = none :=
    getStoredBlockByHeight_below grown.linked (by rw [grown.base]; exact late)
  simp [List.range'_succ, List.mapM_cons, ChainStore.getMetadataByHeight, gone]

theorem lastCheckpoint_lt_iff {first last : Nat} :
    lastCheckpoint last < first ↔
      ∀ height, first ≤ height → height ≤ last → ¬ checkpointInterval ∣ height := by
  constructor
  · rintro early height lower upper ⟨times, rfl⟩
    simp only [lastCheckpoint, checkpointInterval] at *
    omega
  · intro clear
    by_contra late
    exact clear (lastCheckpoint last) (by omega) (lastCheckpoint_le last) (Dvd.intro_left _ rfl)

/-- Every block of a run stands at its height under its own hash. The summary of a closed epoch
after the first is right just when no checkpoint falls between its first block and the
boundary, and missing otherwise. -/
theorem closedEpoch_summarised (env : Env) (anchor : BlockHash) (blocks : List StoredBlock)
    (chain : ChainStore) (run : blocks.foldlM (growChain env) (.new anchor) = .ok chain)
    (epoch duration : Nat) (later : 0 < epoch) (positive : 0 < duration)
    (closed : blocks.length = (epoch + 1) * duration) :
    (∀ index stored, blocks[index]? = some stored → stored.metadata.height = index + 1 ∧
      stored.metadata.blockHash = computeBlockHash env stored.block) ∧
    (summarizeClosedEpoch env chain blocks.length duration =
        some (epochSummary env blocks epoch duration) ↔
      ∀ height, epoch * duration ≤ height → height ≤ (epoch + 1) * duration →
        ¬ checkpointInterval ∣ height) := by
  have grown := grown_of_run blocks run
  refine ⟨grown.canonical, ?_⟩
  have first : 0 < epoch * duration := Nat.mul_pos later positive
  have fits : (epoch + 1) * duration ≤ u64Max := by
    rw [← closed, ← grown.height]
    exact grown.linked.bounded.2
  rw [← lastCheckpoint_lt_iff, closed, summarizeClosedEpoch_boundary positive fits,
    ← closed]
  by_cases early : lastCheckpoint blocks.length < epoch * duration
  · rw [grown.epoch_hashes first closed early]
    simp only [Option.map_some, epochSummary, early, iff_true, Option.some.injEq,
      ArchivalEpochSummary.mk.injEq, true_and, and_true]
    exact congrArg (· - 1) closed
  · rw [grown.epoch_missing positive (Nat.le_of_not_lt early)]
    simp [early]

end Closing

section Row

def readingEnv : Env :=
  { sampleEnv with
    shake256 := fun bytes => (Bytes32.ofBytes? ((bytes.drop (bytes.length - 48)).take 32)).getD default }

def rowBlock (height : Nat) : StoredBlock where
  block := ⟨⟨1, height, .ofNat (height - 1), default, default, 0, [], .ofNat height⟩, [], []⟩
  metadata :=
    { blockHash := .ofNat height, height, prevHash := .ofNat (height - 1), stateRoot := default,
      txRoot := default, timestamp := 0, bytesUsed := 0, includedCount := 0, deferredCount := 0,
      skippedCount := 0, vcBudgetConsumed := 0 }
  includedTransactions := []

def row (count : Nat) : List StoredBlock := (List.range count).map fun index => rowBlock (index + 1)

theorem readingEnv_shake256 (front : Bytes) (root : Bytes32) {rest : Bytes}
    (short : rest.length = 16) : readingEnv.shake256 (front ++ (root.data ++ rest)) = root := by
  have start : (front ++ (root.data ++ rest)).length - 48 = front.length := by
    simp only [List.length_append, root.length_eq, short]
    omega
  simp only [readingEnv, start, List.drop_left, List.take_left' root.length_eq, Bytes32.ofBytes?,
    root.length_eq, dite_true, Option.getD_some]

theorem finish_pushed (hasher : TaggedHasher) (root : Bytes32) (count : Nat) :
    ((hasher.pushChunk root.data).pushU64 count).finish readingEnv = root := by
  have read := @readingEnv_shake256 (hasher.absorbed ++ toBeBytes 8 root.data.length) root
    (toBeBytes 8 (toBeBytes 8 count).length ++ toBeBytes 8 count) (by simp)
  simpa only [TaggedHasher.finish, TaggedHasher.pushU64, TaggedHasher.pushChunk, List.append_assoc]
    using read

theorem computeBlockHash_row (height : Nat) :
    computeBlockHash readingEnv (rowBlock height).block = .ofNat height :=
  finish_pushed _ (.ofNat height) 0

theorem row_getElem? {count index : Nat} {stored : StoredBlock}
    (place : (row count)[index]? = some stored) : stored = rowBlock (index + 1) := by
  simp only [row, List.getElem?_map, Option.map_eq_some_iff] at place
  obtain ⟨_, found, rfl⟩ := place
  obtain ⟨_, rfl⟩ := List.getElem?_eq_some_iff.mp found
  simp

theorem row_fresh {count : Nat} {chain : ChainStore} (grown : Grown readingEnv (row count) chain)
    (small : count < u64Max) : chain.byHash[Bytes32.ofNat (count + 1)]? = none := by
  cases found : chain.byHash[Bytes32.ofNat (count + 1)]? with
  | none => rfl
  | some stored =>
      have range := grown.linked.in_range found
      rw [grown.height, grown.base] at range
      have length : (row count).length = count := by simp [row]
      have inside : stored.metadata.height - 1 < (row count).length := by omega
      have here := grown.held (stored.metadata.height - 1) _ (List.getElem?_eq_getElem inside) (by omega)
      rw [Nat.sub_add_cancel (by omega), ChainStore.getStoredBlockByHeight,
        grown.linked.placed _ stored found, Option.bind_some, found, Option.some_inj] at here
      have same := row_getElem? (List.getElem?_eq_getElem inside)
      rw [← here, Nat.sub_add_cancel (by omega)] at same
      have hashed := (grown.linked.genuine _ stored found).hashed
      rw [same, computeBlockHash_row] at hashed
      have equal := Bytes32.ofNat_injOn (by unfold u64Max at small; omega)
        (by unfold u64Max at small; omega) hashed
      omega

theorem growChain_expectedPrevHash {env : Env} {chain next : ChainStore} {stored : StoredBlock}
    (accepted : growChain env chain stored = .ok next) :
    next.expectedPrevHash = stored.metadata.blockHash := by
  simp only [growChain, ChainStore.appendStoredBlock, bind_eq_ok, pure_eq_ok] at accepted
  obtain ⟨_, ⟨_, _, rfl⟩, rfl⟩ := accepted
  split <;> rfl

theorem row_grows {count : Nat} (small : count ≤ u64Max) : ∃ chain,
    (row count).foldlM (growChain readingEnv) (.new (.ofNat 0)) = .ok chain ∧
      chain.expectedPrevHash = .ofNat count := by
  induction count with
  | zero => exact ⟨_, rfl, rfl⟩
  | succ count ih =>
      obtain ⟨chain, run, parent⟩ := ih (by omega)
      have grown := grown_of_run _ run
      have height : chain.height = count := by rw [grown.height]; simp [row]
      have unused : chain.byHeight[count + 1]? = none := by
        rw [Option.eq_none_iff_forall_ne_some]
        intro hash placed
        have range := (grown.linked.heights _).mp ⟨hash, placed⟩
        omega
      have valid : chain.validateStoredBlock readingEnv (rowBlock (count + 1)) = .ok () := by
        simp only [ChainStore.validateStoredBlock, bind_eq_ok, require_eq_ok, decide_eq_true_eq]
        have next : count + 1 = satAdd64 chain.height 1 := by
          rw [height, satAdd64, Nat.min_eq_left small]
        have hashed := computeBlockHash_row (count + 1)
        have fresh := row_fresh grown (by omega)
        refine ⟨(), rfl, (), rfl, (), rfl, (), rfl, (), rfl, (), rfl, (), hashed.symm, (), ?_, (), ?_,
          (), next, parent.symm⟩
        · rw [hashed, Std.ExtTreeMap.contains_eq_isSome_getElem?, fresh]
          rfl
        · rw [show (rowBlock (count + 1)).block.header.height = count + 1 from rfl,
            Std.ExtTreeMap.contains_eq_isSome_getElem?, unused]
          rfl
      have accepted : ∃ next, growChain readingEnv chain (rowBlock (count + 1)) = .ok next := by
        simp only [growChain, appendStoredBlock_of_valid valid]
        exact ⟨_, rfl⟩
      obtain ⟨next, grows⟩ := accepted
      have hash : (rowBlock (count + 1)).metadata.blockHash = .ofNat (count + 1) := by
        simp only [rowBlock]
      refine ⟨next, ?_, hash ▸ growChain_expectedPrevHash grows⟩
      have longer : row (count + 1) = row count ++ [rowBlock (count + 1)] := by
        simp [row, List.range_succ]
      rw [longer, List.foldlM_append, run]
      simp only [bind, Except.bind, List.foldlM_cons, grows, List.foldlM_nil]
      rfl

/-- With epochs of sixty blocks the checkpoint at height 1000 falls into epoch 16, which is
then never summarised. -/
theorem closedEpoch_unsummarised : ∃ chain,
    (row 1020).foldlM (growChain readingEnv) (.new (.ofNat 0)) = .ok chain ∧
      (row 1020).length = (16 + 1) * 60 ∧ summarizeClosedEpoch readingEnv chain 1020 60 = none := by
  obtain ⟨chain, run, _⟩ := @row_grows 1020 (by decide)
  have length : (row 1020).length = (16 + 1) * 60 := by simp [row]
  have late : 16 * 60 ≤ lastCheckpoint (row 1020).length := by rw [length]; decide
  have closing : summarizeClosedEpoch readingEnv chain ((16 + 1) * 60) 60 = none := by
    rw [summarizeClosedEpoch_boundary (by decide) (by decide),
      (grown_of_run _ run).epoch_missing (by decide) late, Option.map_none]
  exact ⟨chain, run, length, closing⟩

theorem closedEpoch_summarised_second : ∃ chain,
    (row 120).foldlM (growChain readingEnv) (.new (.ofNat 0)) = .ok chain ∧
      summarizeClosedEpoch readingEnv chain (row 120).length 60 =
        some (epochSummary readingEnv (row 120) 1 60) := by
  obtain ⟨chain, run, _⟩ := @row_grows 120 (by decide)
  have summarised := (closedEpoch_summarised readingEnv (.ofNat 0) (row 120) chain run 1 60 (by decide)
    (by decide) (by simp [row])).2
  refine ⟨chain, run, summarised.mpr fun height lower upper => ?_⟩
  unfold checkpointInterval
  omega

end Row

end ViperChain
