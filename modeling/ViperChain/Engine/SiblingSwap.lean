import ViperChain.Consensus.CommitCore
import ViperChain.Engine.ChainInvariant
import ViperChain.Engine.ImportedValue
import ViperChain.Tx.Canonical

/-!
Replacing the tip by a sibling: the three ways the call can end, and the replay of the chain it
leaves behind.
-/

namespace ViperChain

open Fallible Relation

variable {env : Env}

inductive TipReplacement where
  | panicked
  | failed (error : ChainError)
  | replaced (displaced : StoredBlock)
deriving DecidableEq

namespace ChainStore

/-- `replace_tip_block` with the store it leaves behind, whatever the outcome. -/
def replaceTip (env : Env) (chain : ChainStore) (canonical : StoredBlock) :
    ChainStore × TipReplacement :=
  match chain.tipHash with
  | none => (chain, .failed .replaceEmptyChain)
  | some tipHash =>
      match chain.byHash[tipHash]? with
      | none => (chain, .panicked)
      | some tip =>
          match validateReplacement env tip canonical with
          | .error error => (chain, .failed error)
          | .ok () =>
              let newHash := canonical.metadata.blockHash
              ({ chain with
                  byHeight := chain.byHeight.insert canonical.metadata.height newHash
                  byHash := (chain.byHash.erase tipHash).insert newHash canonical
                  tipHash := some newHash },
                .replaced tip)

theorem replaceTip_eq_replaced {chain next : ChainStore} {canonical displaced : StoredBlock} :
    chain.replaceTip env canonical = (next, .replaced displaced) ↔
      chain.replaceTipBlock env canonical = .ok (next, displaced) := by
  unfold replaceTip replaceTipBlock
  cases chain.tipHash with
  | none => simp [okOr]
  | some tipHash =>
      cases found : chain.byHash[tipHash]? with
      | none => simp [okOr, found]
      | some tip =>
          cases checked : validateReplacement env tip canonical with
          | error error => simp [okOr, found, checked]
          | ok _ => simp [okOr, found, checked]

def ReplacesAtomically (env : Env) (chain : ChainStore) (canonical : StoredBlock) : Prop :=
  (chain.replaceTip env canonical).2 ≠ .panicked ∧
    ∀ error, (chain.replaceTip env canonical).2 = .failed error →
      (chain.replaceTip env canonical).1 = chain

def TipEvicted (chain : ChainStore) : Prop :=
  ∃ hash, chain.tipHash = some hash ∧ chain.byHash[hash]? = none

theorem replacesAtomically_iff (chain : ChainStore) (canonical : StoredBlock) :
    chain.ReplacesAtomically env canonical ↔ ¬ chain.TipEvicted := by
  unfold ReplacesAtomically TipEvicted replaceTip
  cases chain.tipHash with
  | none => simp
  | some tipHash =>
      simp only [Option.some.injEq, exists_eq_left']
      cases found : chain.byHash[tipHash]? with
      | none => simp
      | some tip => cases checked : validateReplacement env tip canonical <;> simp [checked]

/-- A chain store as the calls on it make it from a new one. The flag says whether a
compaction has come after the last accepted append; calls that fail change nothing. -/
inductive Obtained (env : Env) (anchor : BlockHash) : ChainStore → Bool → Prop
  | new : Obtained env anchor (.new anchor) false
  | append {chain next : ChainStore} {compacted : Bool} (stored : StoredBlock) :
      Obtained env anchor chain compacted → chain.appendStoredBlock env stored = .ok next →
      Obtained env anchor next false
  | replace {chain next : ChainStore} {compacted : Bool} (canonical displaced : StoredBlock) :
      Obtained env anchor chain compacted →
      chain.replaceTip env canonical = (next, .replaced displaced) →
      Obtained env anchor next compacted
  | compact {chain : ChainStore} {compacted : Bool} {hash : BlockHash} :
      Obtained env anchor chain compacted → chain.tipHash = some hash →
      Obtained env anchor (chain.compactToCheckpoint chain.height hash) true

def TipPlaced (chain : ChainStore) : Prop :=
  ∀ hash, chain.tipHash = some hash → ∃ tip : StoredBlock,
    chain.byHash[hash]? = some tip ∧ chain.byHeight[tip.metadata.height]? = some hash

theorem tipPlaced_linkBlock (chain : ChainStore) (stored : StoredBlock) :
    (chain.linkBlock stored).TipPlaced := by
  intro hash top
  obtain rfl := Option.some.inj top
  exact ⟨stored, by simp [linkBlock], by simp [linkBlock]⟩

theorem tipPlaced_replaced {chain next : ChainStore} {canonical displaced : StoredBlock}
    (swapped : chain.replaceTip env canonical = (next, .replaced displaced)) :
    next.TipPlaced ∧ ¬ chain.TipEvicted := by
  rw [replaceTip_eq_replaced] at swapped
  simp only [replaceTipBlock, bind_eq_ok, okOr_eq_ok, pure_eq_ok] at swapped
  obtain ⟨tipHash, top, tip, found, _, _, same⟩ := swapped
  simp only [Prod.mk.injEq] at same
  obtain ⟨rfl, rfl⟩ := same
  constructor
  · intro hash newTop
    obtain rfl := Option.some.inj newTop
    exact ⟨canonical, by simp, by simp⟩
  · rintro ⟨hash, evictedTop, missing⟩
    rw [top] at evictedTop
    obtain rfl := Option.some.inj evictedTop
    simp [found] at missing

theorem byHash_compactToCheckpoint (chain : ChainStore) (checkpoint : Nat)
    (anchor other : BlockHash) :
    (chain.compactToCheckpoint checkpoint anchor).byHash[other]? =
      if ∃ height ≤ checkpoint, chain.byHeight[height]? = some other then none
      else chain.byHash[other]? := by
  simp only [compactToCheckpoint]
  rw [getElem?_foldl_erase (fun item : Nat × BlockHash => item.2)]
  congr 1
  simp only [List.mem_filter, Std.ExtTreeMap.mem_toList_iff_getElem?_eq_some, decide_eq_true_eq,
    Prod.exists, eq_iff_iff]
  constructor
  · rintro ⟨height, hash, ⟨placed, low⟩, rfl⟩
    exact ⟨height, low, placed⟩
  · rintro ⟨height, low, placed⟩
    exact ⟨height, other, ⟨placed, low⟩, rfl⟩

theorem tipEvicted_compact {chain : ChainStore} {hash : BlockHash}
    (top : chain.tipHash = some hash) (placed : chain.TipPlaced ∨ chain.TipEvicted) :
    (chain.compactToCheckpoint chain.height hash).TipEvicted := by
  refine ⟨hash, top, ?_⟩
  rw [byHash_compactToCheckpoint]
  rcases placed with placed | ⟨other, evictedTop, missing⟩
  · obtain ⟨tip, found, atHeight⟩ := placed hash top
    refine if_pos ⟨tip.metadata.height, ?_, atHeight⟩
    rw [height_of_tip top found]
  · rw [top] at evictedTop
    obtain rfl := Option.some.inj evictedTop
    split
    · rfl
    · exact missing

theorem Obtained.tip {anchor : BlockHash} {chain : ChainStore} {compacted : Bool}
    (obtained : Obtained env anchor chain compacted) :
    if compacted then chain.TipEvicted else chain.TipPlaced := by
  induction obtained with
  | new =>
      intro hash top
      simp [ChainStore.new, newWithBase] at top
  | append stored _ accepted _ =>
      simp only [appendStoredBlock, bind_eq_ok, pure_eq_ok] at accepted
      obtain ⟨_, _, rfl⟩ := accepted
      exact tipPlaced_linkBlock _ stored
  | @replace chain next compacted canonical displaced _ swapped ih =>
      obtain ⟨placed, present⟩ := tipPlaced_replaced swapped
      cases compacted with
      | true => exact absurd ih present
      | false => exact placed
  | @compact chain compacted hash _ top ih =>
      refine tipEvicted_compact top ?_
      cases compacted with
      | true => exact .inr ih
      | false => exact .inl ih

theorem TipPlaced.not_evicted {chain : ChainStore} (placed : chain.TipPlaced) :
    ¬ chain.TipEvicted := by
  rintro ⟨hash, top, missing⟩
  obtain ⟨tip, found, _⟩ := placed hash top
  simp [found] at missing

/-- A swap returns, and an error of it changes nothing, just when no compaction has come
after the last append. -/
theorem replaceTip_total_iff (env : Env) (anchor : BlockHash) (chain : ChainStore)
    (compacted : Bool) (obtained : Obtained env anchor chain compacted) :
    (∀ canonical, chain.ReplacesAtomically env canonical) ↔ compacted = false := by
  have tip := obtained.tip
  simp only [replacesAtomically_iff]
  cases compacted with
  | true => exact iff_of_false (fun kept => kept firstBlock tip) (by simp)
  | false => exact iff_of_true (fun _ => tip.not_evicted) rfl

theorem replaceTip_total_iff_compacted : ∃ chain compacted,
    Obtained sampleEnv (Bytes32.fill 0) chain compacted ∧ compacted = false ∧ chain.baseHeight = 1 ∧
      ∀ canonical, chain.ReplacesAtomically sampleEnv canonical := by
  have first : (ChainStore.new (Bytes32.fill 0)).validateStoredBlock sampleEnv
      (bareBlock 1 (Bytes32.fill 0) 0) = .ok () := by decide +kernel
  have second : (((ChainStore.new (Bytes32.fill 0)).linkBlock
      (bareBlock 1 (Bytes32.fill 0) 0)).compactToCheckpoint 1
        (bareBlock 1 (Bytes32.fill 0) 0).metadata.blockHash).validateStoredBlock sampleEnv
      (bareBlock 2 (bareBlock 1 (Bytes32.fill 0) 0).metadata.blockHash 0) = .ok () := by
    decide +kernel
  have started := Obtained.append _ (@Obtained.new sampleEnv (Bytes32.fill 0))
    (appendStoredBlock_of_valid first)
  have compacted := started.compact rfl
  have height : ((ChainStore.new (Bytes32.fill 0)).linkBlock
      (bareBlock 1 (Bytes32.fill 0) 0)).height = 1 := by decide +kernel
  rw [height] at compacted
  have extended := compacted.append _ (appendStoredBlock_of_valid second)
  exact ⟨_, false, extended, rfl, rfl,
    (replaceTip_total_iff sampleEnv (Bytes32.fill 0) _ false extended).mpr rfl⟩

theorem sibling_of_checkpoint_panics : ∃ chain compacted canonical,
    Obtained sampleEnv (Bytes32.fill 0) chain compacted ∧
      (chain.replaceTip sampleEnv canonical).2 = .panicked := by
  have first : (ChainStore.new (Bytes32.fill 0)).validateStoredBlock sampleEnv
      (bareBlock 1 (Bytes32.fill 0) 0) = .ok () := by decide +kernel
  have started := Obtained.append _ (@Obtained.new sampleEnv (Bytes32.fill 0))
    (appendStoredBlock_of_valid first)
  refine ⟨_, true, bareBlock 1 (Bytes32.fill 0) 1, started.compact rfl, ?_⟩
  decide +kernel

end ChainStore

/-! ### What a swap leaves to replay -/

inductive SwapError where
  | commitQuorum (error : CommitValidationError)
  | chain (error : ChainError)
  | storage
  | panicked

def checkCommitQuorum (env : Env) (block : Block) :
    Option CommitQuorumPolicy → Except CommitValidationError Unit
  | some policy => validateBlockCommitQuorum env block policy
  | none => .ok ()

/-- `replace_canonical_at_height`. Whether RocksDB takes the batch is `persisted`; the swap is
made on a copy of the chain, so nothing changes unless it succeeds. -/
def replaceCanonicalAtHeight (env : Env) (chain : ChainStore) (canonical : StoredBlock)
    (policy : Option CommitQuorumPolicy) (persisted : Bool) :
    Except SwapError (ChainStore × StoredBlock) := do
  (checkCommitQuorum env canonical.block policy).mapError .commitQuorum
  match chain.replaceTip env canonical with
  | (_, .panicked) => .error .panicked
  | (_, .failed error) => .error (.chain error)
  | (trial, .replaced displaced) => do
      require persisted .storage
      return (trial, displaced)

theorem replaceCanonicalAtHeight_ok {chain next : ChainStore} {canonical displaced : StoredBlock}
    {policy : Option CommitQuorumPolicy} {persisted : Bool}
    (swapped : replaceCanonicalAtHeight env chain canonical policy persisted =
      .ok (next, displaced)) :
    chain.replaceTipBlock env canonical = .ok (next, displaced) := by
  simp only [replaceCanonicalAtHeight, bind_eq_ok] at swapped
  obtain ⟨_, _, swapped⟩ := swapped
  rw [← ChainStore.replaceTip_eq_replaced]
  split at swapped
  · simp at swapped
  · simp at swapped
  · rename_i trial old replaced
    simp only [bind_eq_ok, pure_eq_ok, Prod.mk.injEq] at swapped
    obtain ⟨_, _, rfl, rfl⟩ := swapped
    exact replaced

section Order

variable {blocks : Set Block} {chain : ChainStore}

theorem ChainStore.blocksInOrder_eq (chain : ChainStore) :
    chain.blocksInOrder = chain.byHeight.keys.filterMap chain.getStoredBlockByHeight := by
  rw [blocksInOrder, ← Std.ExtTreeMap.map_fst_toList_eq_keys, List.filterMap_map,
    List.filterMap_map]
  refine List.filterMap_congr fun item member => ?_
  rw [Std.ExtTreeMap.mem_toList_iff_getElem?_eq_some] at member
  simp [getStoredBlockByHeight, member]

theorem ChainStore.Linked.keys_eq (linked : chain.Linked env blocks) :
    chain.byHeight.keys =
      List.range' (chain.baseHeight + 1) (chain.height - chain.baseHeight) := by
  have bounded := linked.bounded
  have members : ∀ height, height ∈ chain.byHeight.keys ↔
      height ∈ List.range' (chain.baseHeight + 1) (chain.height - chain.baseHeight) := by
    intro height
    rw [Std.ExtTreeMap.mem_keys, Std.ExtTreeMap.mem_iff_isSome_getElem?, Option.isSome_iff_exists,
      linked.heights, List.mem_range'_1]
    omega
  have sorted : chain.byHeight.keys.Pairwise (· < ·) := by
    refine Std.ExtTreeMap.ordered_keys.imp ?_
    intro left right before
    exact compare_lt_iff_lt.mp before
  refine List.Perm.eq_of_pairwise (fun left right _ _ before after => ?_) sorted
    List.pairwise_lt_range' ?_
  · omega
  · exact (List.perm_ext_iff_of_nodup Std.ExtTreeMap.nodup_keys List.nodup_range').mpr members

theorem ChainStore.Linked.blocksInOrder_swap (linked : chain.Linked env blocks)
    (injective : BlockHashInjective env blocks) {next : ChainStore}
    {canonical displaced : StoredBlock} (offered : canonical.block ∈ blocks)
    (swapped : chain.replaceTipBlock env canonical = .ok (next, displaced)) :
    ∃ front, chain.blocksInOrder = front ++ [displaced] ∧
      next.blocksInOrder = front ++ [canonical] ∧ next.anchorPrevHash = chain.anchorPrevHash := by
  have after := linked.replaceTipBlock injective offered swapped
  simp only [ChainStore.replaceTipBlock, ChainStore.validateReplacement, bind_eq_ok, okOr_eq_ok,
    require_eq_ok, pure_eq_ok, decide_eq_true_eq, Prod.mk.injEq] at swapped
  obtain ⟨hash, top, tip, present, _, ⟨_, sameHeight, _⟩, same, rfl⟩ := swapped
  have atTop : tip.metadata.height = chain.height := (height_of_tip top present).symm
  have range := linked.in_range present
  have placed := linked.placed hash tip present
  have base : next.baseHeight = chain.baseHeight := by rw [← same]
  have height : next.height = chain.height := by
    rw [← atTop, sameHeight, ← same]
    exact height_of_tip rfl (by simp)
  have split : List.range' (chain.baseHeight + 1) (chain.height - chain.baseHeight) =
      List.range' (chain.baseHeight + 1) (chain.height - chain.baseHeight - 1) ++
        [chain.height] := by
    obtain ⟨count, above⟩ : ∃ count, chain.height - chain.baseHeight = count + 1 :=
      ⟨chain.height - chain.baseHeight - 1, by omega⟩
    rw [above, List.range'_1_concat]
    simp only [Nat.add_sub_cancel]
    congr 2
    omega
  have below : ∀ lower ∈ List.range' (chain.baseHeight + 1) (chain.height - chain.baseHeight - 1),
      next.getStoredBlockByHeight lower = chain.getStoredBlockByHeight lower := by
    intro lower member
    rw [List.mem_range'_1] at member
    have different : canonical.metadata.height ≠ lower := by omega
    have kept : next.byHeight[lower]? = chain.byHeight[lower]? := by
      rw [← same, Std.ExtTreeMap.getElem?_insert, if_neg (by simpa using different)]
    obtain ⟨other, otherPlaced⟩ := (linked.heights lower).mpr ⟨by omega, by omega⟩
    have otherNext := otherPlaced
    rw [← kept] at otherNext
    obtain ⟨stored, found, itsHeight⟩ := linked.indexed lower other otherPlaced
    obtain ⟨storedNext, foundNext, itsHeightNext⟩ := after.indexed lower other otherNext
    -- the hash at a lower height is neither the old tip's nor the new one's
    have notOld : hash ≠ other := by
      rintro rfl
      rw [present, Option.some_inj] at found
      subst found
      omega
    have notNew : canonical.metadata.blockHash ≠ other := by
      rintro rfl
      rw [← same, Std.ExtTreeMap.getElem?_insert_self, Option.some_inj] at foundNext
      subst foundNext
      omega
    simp only [ChainStore.getStoredBlockByHeight, otherPlaced, otherNext, Option.bind_some]
    rw [← same, Std.ExtTreeMap.getElem?_insert, if_neg (by simpa using notNew),
      Std.ExtTreeMap.getElem?_erase, if_neg (by simpa using notOld)]
  have last : chain.getStoredBlockByHeight chain.height = some tip := by
    simp [ChainStore.getStoredBlockByHeight, ← atTop, placed, present]
  have lastNext : next.getStoredBlockByHeight chain.height = some canonical := by
    simp [ChainStore.getStoredBlockByHeight, ← same, ← atTop, sameHeight]
  refine ⟨(List.range' (chain.baseHeight + 1) (chain.height - chain.baseHeight - 1)).filterMap
    chain.getStoredBlockByHeight, ?_, ?_, by rw [← same]⟩
  · rw [ChainStore.blocksInOrder_eq, linked.keys_eq, split, List.filterMap_append]
    simp [last]
  · rw [ChainStore.blocksInOrder_eq, after.keys_eq, base, height, split, List.filterMap_append,
      List.filterMap_congr below]
    simp [lastNext]

end Order

section Replay

variable {params : ReplayParams} {baseState : StateStore} {anchor : BlockHash}

def lastHash (anchor : BlockHash) (front : List StoredBlock) : BlockHash :=
  (front.getLast?.map fun stored => stored.metadata.blockHash).getD anchor

theorem lastHash_cons (first : StoredBlock) (front : List StoredBlock) :
    lastHash anchor (first :: front) = lastHash first.metadata.blockHash front := by
  cases front with
  | nil => rfl
  | cons second front =>
      rw [lastHash, lastHash, List.getLast?_cons_cons]
      cases found : (second :: front).getLast? with
      | none => simp at found
      | some last => rfl

theorem verifyStoredBlocksStructure_append {front tail : List StoredBlock} {height : Nat} :
    verifyStoredBlocksStructure env height anchor (front ++ tail) = .ok () ↔
      verifyStoredBlocksStructure env height anchor front = .ok () ∧
        verifyStoredBlocksStructure env (height + front.length) (lastHash anchor front) tail =
          .ok () := by
  induction front generalizing height anchor with
  | nil =>
      rw [List.nil_append, List.length_nil, Nat.add_zero]
      exact ⟨fun checked => ⟨rfl, checked⟩, And.right⟩
  | cons first front ih =>
      simp only [List.cons_append, verifyStoredBlocksStructure, bind_eq_ok, ih, List.length_cons,
        lastHash_cons]
      rw [show height + 1 + front.length = height + (front.length + 1) by omega]
      constructor
      · rintro ⟨first, checked, rest, last⟩
        exact ⟨⟨first, checked, rest⟩, last⟩
      · rintro ⟨⟨first, checked, rest⟩, last⟩
        exact ⟨first, checked, rest, last⟩

theorem verifyStoredBlocksStructure_concat {front : List StoredBlock} {last : StoredBlock}
    {height : Nat} :
    verifyStoredBlocksStructure env height anchor (front ++ [last]) = .ok () ↔
      verifyStoredBlocksStructure env height anchor front = .ok () ∧
        verifyStoredBlock env (height + front.length) (lastHash anchor front) last = .ok () := by
  rw [verifyStoredBlocksStructure_append]
  simp only [verifyStoredBlocksStructure, bind_eq_ok, and_true, Unique.exists_iff]

theorem replayBlocksFromState_concat {front : List StoredBlock} {last : StoredBlock}
    {result : ReplayResult} :
    replayBlocksFromState env baseState anchor (front ++ [last]) params = .ok result ↔
      ∃ before, replayBlocksFromState env baseState anchor front params = .ok before ∧
        verifyStoredBlock env (satAdd64 baseState.blockHeight 1 + front.length)
          (lastHash anchor front) last = .ok () ∧
        replayBlock env params before last = .ok result := by
  simp only [replayBlocksFromState, bind_eq_ok, Unique.exists_iff, PUnit.default_eq_unit,
    verifyStoredBlocksStructure_concat, List.foldlM_append, List.foldlM_cons, List.foldlM_nil,
    pure_eq_ok, exists_eq_right]
  constructor
  · rintro ⟨⟨structured, linked⟩, before, ran, replayed⟩
    exact ⟨before, ⟨structured, ran⟩, linked, replayed⟩
  · rintro ⟨before, ⟨structured, ran⟩, linked, replayed⟩
    exact ⟨⟨structured, linked⟩, before, ran, replayed⟩

theorem replayTxs_hashed {feeParams : FeeParams} {height : Nat}
    (items : List (Transaction × TxHash)) (index : Nat) {progress after : ReplayProgress}
    (ran : (items.zipIdx index).foldlM (replayTx env feeParams height) progress = .ok after) :
    ∀ item ∈ items, ∃ raw, encodeTx env item.1 = .ok raw ∧ computeTxHash env raw = item.2 := by
  induction items generalizing index progress with
  | nil => simp
  | cons first items ih =>
      simp only [List.zipIdx_cons, List.foldlM_cons, bind_eq_ok] at ran
      obtain ⟨middle, one, rest⟩ := ran
      simp only [replayTx, bind_eq_ok, mapError_eq_ok, require_eq_ok, decide_eq_true_eq] at one
      obtain ⟨raw, encoded, _, hashed, _⟩ := one
      intro item member
      rcases List.mem_cons.mp member with rfl | later
      · exact ⟨raw, encoded, hashed⟩
      · exact ih (index + 1) rest item later

theorem replayTransactions_congr {state : StateStore} {left right : StoredBlock}
    (height : left.metadata.height = right.metadata.height)
    (hashes : left.block.txHashes = right.block.txHashes)
    (bodies : left.includedTransactions = right.includedTransactions) :
    replayTransactions env params state left = replayTransactions env params state right := by
  simp only [replayTransactions, height, hashes, bodies]

structure DigestsApart (env : Env) (tip canonical : StoredBlock) : Prop where
  txRoots : computeTxRoot env canonical.block.txHashes = computeTxRoot env tip.block.txHashes →
    canonical.block.txHashes = tip.block.txHashes
  bodies : ∀ left ∈ canonical.includedTransactions, ∀ right ∈ tip.includedTransactions,
    ∀ rawLeft rawRight, encodeTx env left = .ok rawLeft → encodeTx env right = .ok rawRight →
      computeTxHash env rawLeft = computeTxHash env rawRight → rawLeft = rawRight

theorem DigestsApart.bodies_eq (faithful : FaithfulCbor env) {tip canonical : StoredBlock}
    (apart : DigestsApart env tip canonical)
    (inRange : ∀ tx ∈ tip.includedTransactions ++ canonical.includedTransactions, tx.InRange)
    (hashes : canonical.block.txHashes = tip.block.txHashes)
    (countTip : tip.block.txHashes.length = tip.includedTransactions.length)
    (count : canonical.block.txHashes.length = canonical.includedTransactions.length)
    (hashedTip : ∀ item ∈ tip.includedTransactions.zip tip.block.txHashes,
      ∃ raw, encodeTx env item.1 = .ok raw ∧ computeTxHash env raw = item.2)
    (hashed : ∀ item ∈ canonical.includedTransactions.zip canonical.block.txHashes,
      ∃ raw, encodeTx env item.1 = .ok raw ∧ computeTxHash env raw = item.2) :
    canonical.includedTransactions = tip.includedTransactions := by
  have lengths : canonical.includedTransactions.length = tip.includedTransactions.length := by
    rw [← count, hashes, countTip]
  refine List.ext_getElem lengths fun index below belowTip => ?_
  have inside : index < canonical.block.txHashes.length := by omega
  have insideTip : index < tip.block.txHashes.length := by omega
  obtain ⟨raw, encoded, digest⟩ := hashed
    (canonical.includedTransactions[index], canonical.block.txHashes[index])
    (List.mem_iff_getElem.mpr ⟨index, by simp; omega, by simp⟩)
  obtain ⟨rawTip, encodedTip, digestTip⟩ := hashedTip
    (tip.includedTransactions[index], tip.block.txHashes[index])
    (List.mem_iff_getElem.mpr ⟨index, by simp; omega, by simp⟩)
  have member := List.getElem_mem below
  have memberTip := List.getElem_mem belowTip
  have sameHash : computeTxHash env raw = computeTxHash env rawTip := by
    rw [digest, digestTip]
    simp only [hashes]
  obtain rfl := apart.bodies _ member _ memberTip raw rawTip encoded encodedTip sameHash
  have decoded := decodeTx_encodeTx faithful (inRange _ (by simp [member])) encoded
  have decodedTip := decodeTx_encodeTx faithful (inRange _ (by simp [memberTip])) encodedTip
  rw [decoded] at decodedTip
  exact Except.ok.inj decodedTip

/-- What a sibling must share with the tip to be replayed in its place: none of it is checked by the
swap. -/
structure SameEffect (env : Env) (params : ReplayParams) (before : StateStore)
    (tip canonical : StoredBlock) : Prop where
  counted : canonical.metadata.includedCount = canonical.block.txHashes.length
  hashes : canonical.block.txHashes = tip.block.txHashes
  bodies : canonical.includedTransactions = tip.includedTransactions
  payout : canonical.block.header.proposer = tip.block.header.proposer ∨
    ∀ progress, replayTransactions env params before tip = .ok progress →
      (finishReplay env params canonical.block.header progress).stateRoot env =
        (finishReplay env params tip.block.header progress).stateRoot env

theorem replayBlock_ok {result after : ReplayResult} {stored : StoredBlock}
    (replayed : replayBlock env params result stored = .ok after) :
    ∃ progress, replayTransactions env params result.state stored = .ok progress ∧
      computeTxRoot env stored.block.txHashes = stored.block.header.txRoot ∧
      (finishReplay env params stored.block.header progress).stateRoot env =
        stored.block.header.stateRoot ∧
      after.state = finishReplay env params stored.block.header progress := by
  simp only [replayBlock, bind_eq_ok, require_eq_ok, pure_eq_ok, decide_eq_true_eq] at replayed
  obtain ⟨progress, ran, _, txRoot, _, stateRoot, _, _, rfl⟩ := replayed
  exact ⟨progress, ran, txRoot, stateRoot, rfl⟩

theorem validateReplacement_ok {tip canonical : StoredBlock}
    (checked : ChainStore.validateReplacement env tip canonical = .ok ()) :
    tip.metadata.height = canonical.metadata.height ∧
    tip.metadata.prevHash = canonical.metadata.prevHash ∧
    tip.metadata.stateRoot = canonical.metadata.stateRoot ∧
    tip.metadata.txRoot = canonical.metadata.txRoot ∧
    canonical.metadata.blockHash = computeBlockHash env canonical.block ∧
    (canonical.metadata.height = canonical.block.header.height ∧
      canonical.metadata.prevHash = canonical.block.header.prevHash ∧
      canonical.metadata.stateRoot = canonical.block.header.stateRoot ∧
      canonical.metadata.txRoot = canonical.block.header.txRoot) ∧
    canonical.block.txHashes.length = canonical.includedTransactions.length := by
  simp only [ChainStore.validateReplacement, bind_eq_ok, require_eq_ok, decide_eq_true_eq] at checked
  obtain ⟨_, height, _, _, _, prevHash, _, stateRoot, _, txRoot, _, hashed, _, agrees, bodies⟩ :=
    checked
  exact ⟨height, prevHash, stateRoot, txRoot, hashed, agrees, bodies⟩

theorem verifyStoredBlock_sibling {tip canonical : StoredBlock} {height : Nat}
    {parent : BlockHash} (checked : ChainStore.validateReplacement env tip canonical = .ok ())
    (verified : verifyStoredBlock env height parent tip = .ok ()) :
    verifyStoredBlock env height parent canonical = .ok () ↔
      canonical.metadata.includedCount = canonical.block.txHashes.length := by
  obtain ⟨sameHeight, samePrev, sameState, sameTx, hashed, ⟨ownHeight, ownPrev, ownState, ownTx⟩,
    bodies⟩ := validateReplacement_ok checked
  simp only [verifyStoredBlock, bind_eq_ok, require_eq_ok, decide_eq_true_eq, exists_const]
    at verified ⊢
  obtain ⟨tipHeight, tipParent, _, tipMetaHeight, tipMetaPrev, _, _, _, _⟩ := verified
  constructor
  · rintro ⟨_, _, _, _, _, _, _, counted, _⟩
    exact counted
  · intro counted
    refine ⟨?_, ?_, bodies, ownHeight, ownPrev, ownState, ownTx, counted, hashed⟩
    · rw [← ownHeight, ← sameHeight, tipMetaHeight, tipHeight]
    · rw [← ownPrev, ← samePrev, tipMetaPrev, tipParent]

end Replay

section Sample

def emptyDraft (timestamp : Nat) : BlockHeader :=
  { draftHeader sampleEnv sampleGenesis (Bytes32.fill 0) author.data [] with timestamp }

def emptyRoot : BlockHash where
  data := [
    252, 147, 211, 234, 106, 160, 12, 105, 243, 86, 100, 135, 115, 87, 241, 166,
    117, 67, 33, 230, 142, 11, 106, 241, 77, 12, 248, 154, 40, 220, 58, 28]
  length_eq := rfl

theorem emptyRoot_computed (timestamp : Nat) :
    (finishReplay sampleEnv pricedParams (emptyDraft timestamp)
      { state := sampleGenesis }).stateRoot sampleEnv = emptyRoot := by
  have first : (finishReplay sampleEnv pricedParams (emptyDraft 0)
      { state := sampleGenesis }).stateRoot sampleEnv = emptyRoot := by decide +kernel
  rw [← first]
  exact congrArg (StateStore.stateRoot sampleEnv) (finishReplay_congr pricedParams _ rfl rfl)

def emptyBlock (timestamp : Nat) : StoredBlock :=
  peerBlock sampleEnv (emptyDraft timestamp) emptyRoot [] []

def listingBlock : StoredBlock :=
  peerBlock sampleEnv (emptyDraft 1) emptyRoot [pricedBody] [pricedHash]

def emptyChain : ChainStore := (ChainStore.new (Bytes32.fill 0)).linkBlock (emptyBlock 0)

def emptyBlocks : List Block := [(emptyBlock 0).block, (emptyBlock 1).block, listingBlock.block]

theorem emptyChain_run : ReflTransGen (ChainStep sampleEnv {block | block ∈ emptyBlocks})
    (.newWithBase (Bytes32.fill 0) 0) emptyChain := by
  have valid : (ChainStore.new (Bytes32.fill 0)).validateStoredBlock sampleEnv (emptyBlock 0) =
      .ok () := by decide +kernel
  exact .single (.appendStored (emptyBlock 0) (by simp [emptyBlocks])
    (appendStoredBlock_of_valid valid))

def replayInMemory (chain : ChainStore) : Except ReplayError ReplayResult :=
  replayBlocksFromState sampleEnv sampleGenesis chain.anchorPrevHash chain.blocksInOrder pricedParams

theorem emptyChain_replays : ∃ result, replayInMemory emptyChain = .ok result := by
  have order : emptyChain.blocksInOrder = [emptyBlock 0] := by decide +kernel
  have structured : ((verifyStoredBlock sampleEnv (satAdd64 sampleGenesis.blockHeight 1)
      (Bytes32.fill 0) (emptyBlock 0)).toOption.map fun _ => ()) = some () := by decide +kernel
  obtain ⟨_, verified, _⟩ := exists_ok_of_toOption structured
  have replayed := replayBlock_eq_ok (.start sampleEnv sampleGenesis (Bytes32.fill 0))
    (show replayTransactions sampleEnv pricedParams sampleGenesis (emptyBlock 0) = .ok _ from rfl)
    rfl (emptyRoot_computed 0) rfl
  have replays := replayBlocksFromState_singleton.mpr ⟨verified, replayed⟩
  exact ⟨_, by rw [replayInMemory, order]; exact replays⟩

end Sample

end ViperChain
