import ViperChain.Node.Reception
import ViperChain.State.RootBinding

/-!
Draining the orphan cache: how far a drain follows a chain of cached blocks.
-/

namespace ViperChain

open Fallible Relation

variable {env : Env} {config : NodeConfig} {occasion : Occasion}

section Imports

variable {node next : LiveNodeState} {stored : StoredBlock}

theorem importRemoteBlock_core {other : LiveNodeState} (same : node.core = other.core)
    (stored : StoredBlock) :
    (importRemoteBlock env config occasion node stored).1.core =
        (importRemoteBlock env config occasion other stored).1.core ∧
      (importRemoteBlock env config occasion node stored).2 =
        (importRemoteBlock env config occasion other stored).2 := by
  simp only [importRemoteBlock, same]
  split
  · exact ⟨same, rfl⟩
  · exact ⟨same, rfl⟩
  · exact ⟨same, rfl⟩
  · exact ⟨rfl, rfl⟩
  · exact ⟨rfl, rfl⟩
  · split
    · exact ⟨same, rfl⟩
    · exact ⟨rfl, rfl⟩

theorem NodeCore.tipHash_checkpointAt (core : NodeCore) (height : Nat) :
    (core.checkpointAt env occasion height).chain.tipHash = core.chain.tipHash := by
  rcases @checkpointAt_eq env occasion core height with same | compacted
  · rw [same]
  · rw [compacted]
    rfl

theorem NodeCore.blocks_checkpointAt (core : NodeCore) (height : Nat) :
    (core.checkpointAt env occasion height).blocks = core.blocks := by
  rcases @checkpointAt_eq env occasion core height with same | compacted
  · rw [same]
  · rw [compacted]

theorem NodeCore.appendCanonicalLinkAtTip_tipHash {core after : NodeCore}
    (linked : core.appendCanonicalLinkAtTip env config occasion stored = .ok after) :
    after.chain.tipHash = some stored.metadata.blockHash := by
  obtain ⟨_, _, trial, _, _, _, accepted, _, rfl⟩ := appendCanonicalLinkAtTip_ok linked
  rw [tipHash_checkpointAt]
  simp only [ChainStore.appendStoredBlock, bind_eq_ok, pure_eq_ok] at accepted
  obtain ⟨_, _, rfl⟩ := accepted
  rfl

theorem NodeCore.resolveSiblingAtTip_tipHash {core : NodeCore} {tip : BlockMetadata}
    (resolved : (core.resolveSiblingAtTip env config occasion stored tip).2 = .ok ()) :
    (core.resolveSiblingAtTip env config occasion stored tip).1.chain.tipHash =
      some stored.metadata.blockHash := by
  unfold resolveSiblingAtTip at resolved ⊢
  split at resolved
  · cases resolved
  · split at resolved
    · rename_i equivalent
      simp only [equivalent, if_true]
      split at resolved
      · cases resolved
      · rename_i swapped
        simp only [swapSibling, bind_eq_ok, mapError_eq_ok, pure_eq_ok] at swapped
        obtain ⟨⟨chain, displaced⟩, replaced, rfl⟩ := swapped
        have replaced := replaceCanonicalAtHeight_ok replaced
        simp only [ChainStore.replaceTipBlock, bind_eq_ok, okOr_eq_ok, pure_eq_ok, Prod.mk.injEq]
          at replaced
        obtain ⟨_, _, _, _, _, _, rfl, _⟩ := replaced
        rfl
    · cases resolved

theorem importRemoteBlock_imported
    (imported : importRemoteBlock env config occasion node stored = (next, .ok .imported)) :
    next.orphanCache = node.orphanCache ∧
      next.core.chain.tipHash = some stored.metadata.blockHash := by
  unfold importRemoteBlock at imported
  split at imported
  · simp at imported
  · simp at imported
  · simp at imported
  · rename_i tip _
    obtain ⟨rfl, resolved⟩ := Prod.mk.inj imported
    refine ⟨rfl, NodeCore.resolveSiblingAtTip_tipHash ?_⟩
    cases outcome : (node.core.resolveSiblingAtTip env config occasion stored tip).2 with
    | error error => simp [outcome, Except.map] at resolved
    | ok _ => rfl
  · simp at imported
  · split at imported
    · simp at imported
    · rename_i linked
      obtain ⟨rfl, _⟩ := Prod.mk.inj imported
      exact ⟨rfl, NodeCore.appendCanonicalLinkAtTip_tipHash linked⟩

theorem importRemoteBlock_orphaned {parentHash : BlockHash}
    (orphaned : importRemoteBlock env config occasion node stored =
      (next, .ok (.orphanedNeedsParent parentHash))) :
    next = { node with orphanCache := node.orphanCache.insert occasion.now stored } ∧
      stored.Consistent env := by
  unfold importRemoteBlock at orphaned
  split at orphaned
  · simp at orphaned
  · simp at orphaned
  · simp at orphaned
  · rename_i tip _
    obtain ⟨_, resolved⟩ := Prod.mk.inj orphaned
    cases outcome : (node.core.resolveSiblingAtTip env config occasion stored tip).2 with
    | error error => simp [outcome, Except.map] at resolved
    | ok _ => simp [outcome, Except.map] at resolved
  · rename_i classified
    obtain ⟨rfl, _⟩ := Prod.mk.inj orphaned
    simp only [NodeCore.classify, classifyIncomingBlock, bind_eq_ok, require_eq_ok,
      decide_eq_true_eq] at classified
    obtain ⟨_, height, _, hash, _⟩ := classified
    exact ⟨rfl, height, hash⟩
  · split at orphaned
    · simp at orphaned
    · simp at orphaned

theorem importRemoteBlock_indexed (indexed : node.orphanCache.Indexed) (stored : StoredBlock) :
    (importRemoteBlock env config occasion node stored).1.orphanCache.Indexed := by
  unfold importRemoteBlock
  split
  · exact indexed
  · exact indexed
  · exact indexed
  · exact indexed
  · exact indexed.insert _ _
  · split
    · exact indexed
    · exact indexed

theorem ReceptionStep.indexed (step : ReceptionStep env config node next)
    (indexed : node.orphanCache.Indexed) : next.orphanCache.Indexed := by
  cases step with
  | imported occasion stored => exact importRemoteBlock_indexed indexed stored
  | drained now occasionOf parentHash =>
      exact drainChildren_invariant (fun node => node.orphanCache.Indexed)
        (fun _ _ stored indexed => importRemoteBlock_indexed indexed stored)
        (fun _ hash indexed => indexed.remove hash) occasionOf _ [] indexed

end Imports

/-! ### Chains of orphans -/

def Follows : BlockHash → List StoredBlock → Prop
  | _, [] => True
  | parent, stored :: rest =>
      stored.metadata.prevHash = parent ∧ Follows stored.metadata.blockHash rest

structure CachedChain (cache : BlockTreeCache) (now : Nat) (parent : BlockHash)
    (blocks : List StoredBlock) : Prop where
  cached : ∀ stored ∈ blocks, ∃ entry : Cached,
    cache.entries[stored.metadata.blockHash]? = some entry ∧ entry.stored = stored ∧
      cache.expired now entry = false
  distinct : (parent :: blocks.map fun stored => stored.metadata.blockHash).Nodup
  follows : Follows parent blocks
  alone : ∀ (hash : BlockHash) (entry : Cached), cache.entries[hash]? = some entry →
    entry.stored.metadata.prevHash ∈
      parent :: blocks.dropLast.map (fun stored => stored.metadata.blockHash) →
    entry.stored ∈ blocks

def ImportedInOrder (env : Env) (config : NodeConfig) (occasionOf : BlockHash → Occasion) :
    LiveNodeState → List StoredBlock → Prop
  | _, [] => True
  | node, stored :: rest => ∃ next,
      importRemoteBlock env config (occasionOf stored.metadata.blockHash) node stored =
        (next, .ok .imported) ∧
      ImportedInOrder env config occasionOf next rest

section Chains

variable {cache : BlockTreeCache} {now : Nat} {parent : BlockHash} {first : StoredBlock}
  {rest : List StoredBlock}

theorem Follows.parent_mem {blocks : List StoredBlock} (follows : Follows parent blocks)
    {stored : StoredBlock} (member : stored ∈ blocks) :
    stored.metadata.prevHash ∈
      parent :: blocks.map fun stored => stored.metadata.blockHash := by
  induction blocks generalizing parent with
  | nil => cases member
  | cons first rest ih =>
      rcases List.mem_cons.mp member with rfl | later
      · rw [follows.1]
        exact List.mem_cons_self
      · exact List.mem_cons_of_mem _ (ih follows.2 later)

theorem CachedChain.childrenOf_eq (indexed : cache.Indexed)
    (chain : CachedChain cache now parent (first :: rest)) :
    cache.childrenOf now parent = [first] := by
  have only : ∀ child ∈ cache.childrenOf now parent, child = first := by
    intro child member
    obtain ⟨entry, found, rfl, under, _⟩ := (BlockTreeCache.mem_childrenOf indexed).mp member
    have inside := chain.alone _ entry found (by rw [under]; exact List.mem_cons_self)
    rcases List.mem_cons.mp inside with same | later
    · exact same
    · have back := chain.follows.2.parent_mem later
      rw [under] at back
      exact absurd back (List.nodup_cons.mp chain.distinct).1
  have present : first ∈ cache.childrenOf now parent := by
    obtain ⟨entry, found, same, fresh⟩ := chain.cached first List.mem_cons_self
    exact (BlockTreeCache.mem_childrenOf indexed).mpr ⟨entry, found, same, chain.follows.1, fresh⟩
  have nodup := List.Nodup.of_map _ (BlockTreeCache.childrenOf_nodup indexed now parent)
  exact List.perm_singleton.mp ((List.perm_ext_iff_of_nodup nodup (List.nodup_singleton first)).mpr
    fun child => ⟨fun member => List.mem_singleton.mpr (only child member),
      fun member => List.mem_singleton.mp member ▸ present⟩)

theorem drainOrphanChildren_chain {node next : LiveNodeState}
    {occasionOf : BlockHash → Occasion} (indexed : node.orphanCache.Indexed)
    (chain : CachedChain node.orphanCache now parent (first :: rest))
    (imported : importRemoteBlock env config (occasionOf first.metadata.blockHash) node first =
      (next, .ok .imported)) :
    (drainOrphanChildren env config now occasionOf node parent).1 =
      { next with orphanCache := (node.orphanCache.remove first.metadata.blockHash).1 } := by
  have removed := @importRemoteBlock_core env config (occasionOf first.metadata.blockHash)
    { node with orphanCache := (node.orphanCache.remove first.metadata.blockHash).1 } node rfl first
  rw [imported] at removed
  rw [drainOrphanChildren, chain.childrenOf_eq indexed]
  cases outcome : importRemoteBlock env config (occasionOf first.metadata.blockHash)
    { node with orphanCache := (node.orphanCache.remove first.metadata.blockHash).1 } first with
  | mk after result =>
      rw [outcome] at removed
      obtain ⟨core, rfl⟩ := removed
      have kept := (importRemoteBlock_imported outcome).1
      simp only [drainChildren, outcome]
      cases after
      simp_all

end Chains

/-- Following a whole chain: its last block is the tip and none of it is cached any more. -/
def DrainsChain (after : LiveNodeState) (blocks : List StoredBlock) : Prop :=
  after.core.chain.tipHash = (blocks.getLast?.map fun stored => stored.metadata.blockHash) ∧
    ∀ stored ∈ blocks, stored.metadata.blockHash ∉ after.orphanCache.entries

theorem indexed_along {start node : LiveNodeState} {capacity ttl : Nat}
    (empty : start.orphanCache = .new capacity ttl)
    (run : ReflTransGen (ReceptionStep env config) start node) : node.orphanCache.Indexed := by
  refine Runs.invariant (fun node => node.orphanCache.Indexed) (fun _ _ step => step.indexed) run ?_
  rw [empty]
  exact BlockTreeCache.new_indexed capacity ttl

theorem drainsChain_iff {node : LiveNodeState} (indexed : node.orphanCache.Indexed)
    {parent : BlockHash} {now : Nat} {occasionOf : BlockHash → Occasion} {first : StoredBlock}
    {rest : List StoredBlock} (chain : CachedChain node.orphanCache now parent (first :: rest))
    (imports : ImportedInOrder env config occasionOf node (first :: rest)) :
    DrainsChain (drainOrphanChildren env config now occasionOf node parent).1 (first :: rest) ↔
      rest = [] := by
  obtain ⟨next, imported, _⟩ := imports
  rw [drainOrphanChildren_chain indexed chain imported]
  cases rest with
  | nil =>
      refine iff_of_true ⟨(importRemoteBlock_imported imported).2, ?_⟩ rfl
      intro stored member
      obtain rfl := List.mem_singleton.mp member
      rw [BlockTreeCache.mem_remove]
      exact fun kept => kept.1 rfl
  | cons second rest =>
      refine iff_of_false (fun drained => ?_) (by simp)
      obtain ⟨entry, found, _⟩ := chain.cached second (by simp)
      have different : second.metadata.blockHash ≠ first.metadata.blockHash := by
        have distinct := (List.nodup_cons.mp chain.distinct).2
        intro same
        simp [same] at distinct
      refine drained.2 second (by simp) (BlockTreeCache.mem_remove.mpr ⟨different, ?_⟩)
      rw [Std.ExtTreeMap.mem_iff_isSome_getElem?, found]
      rfl

/-- A drain follows a chain of cached blocks just when it is one block long. -/
theorem drain_follows_iff (env : Env) (config : NodeConfig) (capacity ttl : Nat)
    (start node : LiveNodeState) (empty : start.orphanCache = .new capacity ttl)
    (run : ReflTransGen (ReceptionStep env config) start node) (parent : BlockHash)
    (_tip : node.core.chain.tipHash = some parent) (now : Nat)
    (occasionOf : BlockHash → Occasion) (blocks : List StoredBlock) (nonempty : blocks ≠ [])
    (chain : CachedChain node.orphanCache now parent blocks)
    (imports : ImportedInOrder env config occasionOf node blocks) :
    DrainsChain (drainOrphanChildren env config now occasionOf node parent).1 blocks ↔
      blocks.length = 1 := by
  obtain _ | ⟨first, rest⟩ := blocks
  · exact absurd rfl nonempty
  · rw [drainsChain_iff (indexed_along empty run) chain imports]
    simp

section Quiet

def quietDraft (state : StateStore) (parent : BlockHash) : BlockHeader :=
  draftHeader sampleEnv state parent [] []

def quietState : Nat → StateStore
  | 0 => (StateStore.bareStore []).insertValidator sampleEnv {
      operator := author
      nodeId := []
      consensusAlgId := .mlDsa65
      consensusPk := []
      selfBond := 1
      status := .active
      registeredHeight := 0
      tombstoned := false }
  | count + 1 => finishReplay sampleEnv snapshotConfig.replayParams
      (quietDraft (quietState count) (Bytes32.fill 0)) { state := quietState count }

def quietRoot : Nat → BlockHash
  | 0 => ⟨[
      82, 253, 157, 13, 231, 253, 233, 129, 13, 53, 71, 64, 174, 97, 137, 200,
      168, 145, 212, 119, 5, 120, 81, 117, 154, 118, 68, 10, 232, 234, 253, 144], rfl⟩
  | 1 => ⟨[
      25, 215, 228, 150, 252, 173, 194, 15, 12, 142, 93, 2, 205, 223, 45, 207,
      201, 2, 236, 0, 226, 61, 10, 219, 32, 4, 33, 74, 204, 31, 185, 158], rfl⟩
  | _ => ⟨[
      138, 66, 27, 103, 143, 63, 127, 206, 53, 12, 229, 58, 54, 38, 36, 245,
      189, 172, 133, 127, 106, 117, 135, 14, 215, 74, 69, 69, 202, 101, 45, 23], rfl⟩

theorem quietRoot_computed {count : Nat} (few : count < 3) :
    (quietState (count + 1)).stateRoot sampleEnv = quietRoot count := by
  obtain rfl | rfl | rfl : count = 0 ∨ count = 1 ∨ count = 2 := by omega
  · decide +kernel
  · decide +kernel
  · decide +kernel

theorem quietState_height {count : Nat} (few : count < 3) : (quietState count).blockHeight = count := by
  obtain rfl | rfl | rfl : count = 0 ∨ count = 1 ∨ count = 2 := by omega
  · decide +kernel
  · decide +kernel
  · decide +kernel

def withCommits (stored : StoredBlock) (commits : List CommitSig) : StoredBlock :=
  { stored with block := { stored.block with commitSignatures := commits } }

def certify (stored : StoredBlock) : StoredBlock :=
  withCommits stored [{
    validatorAddress := author.data
    sigAlgId := .mlDsa65
    round := 0
    signature := commitPreimage sampleEnv (.viperResearch1 sampleEnv) stored.block.header.height
      (computeBlockHash sampleEnv stored.block) }]

def authorPolicy : CommitQuorumPolicy where
  validators := [⟨[], author.data, .mlDsa65, []⟩]
  quorumThreshold := 1
  preimageMode := .legacy
  forkDigest := .viperResearch1 sampleEnv
  distinct := by simp
  thresholdPositive := by simp
  thresholdBound := by simp

theorem certify_certified (stored : StoredBlock) :
    checkCommitQuorum sampleEnv (certify stored).block (some authorPolicy) = .ok () := by
  have hash : computeBlockHash sampleEnv (certify stored).block =
      computeBlockHash sampleEnv stored.block := rfl
  have listed : authorPolicy.validatorByAddress author.data =
      some ⟨[], author.data, .mlDsa65, []⟩ := by
    simp [CommitQuorumPolicy.validatorByAddress, authorPolicy]
  have signed (message : Bytes) :
      mlDsaVerifier sampleEnv ⟨.mlDsa65, []⟩ message ⟨.mlDsa65, message⟩ = .ok () := by
    simp [mlDsaVerifier, sampleEnv, appendedSignature]
  have preimage (commit : CommitSig) : commitSigPreimage sampleEnv authorPolicy
      stored.block.header.height (computeBlockHash sampleEnv stored.block) commit =
        commitPreimage sampleEnv (.viperResearch1 sampleEnv) stored.block.header.height
          (computeBlockHash sampleEnv stored.block) := rfl
  have enough : authorPolicy.quorumThreshold = 1 := rfl
  simp only [checkCommitQuorum, validateBlockCommitQuorum, hash]
  simp [certify, withCommits, validateCommits, listed, preimage, signed, enough]

def quietBlock : Nat → StoredBlock
  | 0 => certify (peerBlock sampleEnv (quietDraft (quietState 0) (Bytes32.fill 0)) (quietRoot 0) [] [])
  | count + 1 => certify (peerBlock sampleEnv
      (quietDraft (quietState (count + 1)) (quietBlock count).metadata.blockHash)
      (quietRoot (count + 1)) [] [])

def quietCore : Nat → NodeCore
  | 0 => {
      chain := .new (Bytes32.fill 0)
      blocks := ∅
      state := quietState 0
      proposerTip := none }
  | count + 1 => {
      chain := (quietCore count).chain.linkBlock (quietBlock count)
      blocks := (quietCore count).blocks.insert (quietBlock count).metadata.height (quietBlock count)
      state := quietState (count + 1)
      proposerTip := none }

theorem quietBlock_consistent (count : Nat) : (quietBlock count).Consistent sampleEnv := by
  cases count <;> exact ⟨rfl, rfl⟩

theorem quietBlock_height {count : Nat} (few : count < 3) :
    (quietBlock count).metadata.height = count + 1 := by
  have drafted : (quietBlock count).metadata.height = (quietState count).blockHeight + 1 := by
    cases count <;> rfl
  rw [drafted, quietState_height few]

theorem quietCore_parent (count : Nat) :
    (quietCore count).chain.expectedPrevHash = (quietBlock count).metadata.prevHash := by
  cases count <;> rfl

theorem quietCore_height {count : Nat} (few : count ≤ 3) : (quietCore count).chain.height = count := by
  cases count with
  | zero => rfl
  | succ count =>
      rw [quietCore, ChainStore.height_linkBlock, quietBlock_height (by omega)]

theorem replay_withCommits {state : StateStore} {parent : BlockHash} {params : ReplayParams}
    (stored : StoredBlock) (commits : List CommitSig) :
    replayBlocksFromState env state parent [withCommits stored commits] params =
      replayBlocksFromState env state parent [stored] params :=
  rfl

theorem quietCore_policy {count : Nat} (few : count < 3) :
    policyFromState sampleEnv snapshotConfig (quietCore count).state = .ok (some authorPolicy) := by
  obtain rfl | rfl | rfl : count = 0 ∨ count = 1 ∨ count = 2 := by omega
  · rfl
  · rfl
  · rfl

theorem quietCore_appends {count : Nat} (few : count < 3) {occasion : Occasion}
    (persisted : occasion.persisted = true) :
    (quietCore count).appendCanonicalLinkAtTip sampleEnv snapshotConfig occasion (quietBlock count) =
      .ok (quietCore (count + 1)) := by
  have drafted : quietBlock count = certify (peerBlock sampleEnv
      (quietDraft (quietState count) (quietCore count).chain.expectedPrevHash)
      (quietRoot count) [] []) := by
    cases count <;> rfl
  have state : (quietCore count).state = quietState count := by cases count <;> rfl
  have computed := quietRoot_computed few
  rw [quietState] at computed
  have next : (quietState count).blockHeight + 1 = satAdd64 (quietState count).blockHeight 1 := by
    rw [quietState_height few, satAdd64, u64Max]
    omega
  obtain ⟨_, result, _, replayed, after⟩ := @replay_peerBlock sampleEnv (quietState count)
    (quietCore count).chain.expectedPrevHash (quietRoot count) snapshotConfig.replayParams
    (quietDraft (quietState count) (quietCore count).chain.expectedPrevHash) [] [] _ next rfl rfl rfl rfl
    ((congrArg (StateStore.stateRoot sampleEnv) (finishReplay_congr _ _ rfl rfl)).trans computed)
  rw [← replay_withCommits, ← certify, ← drafted] at replayed
  have unused : (quietCore count).chain.byHash[(quietBlock count).metadata.blockHash]? = none ∧
      (quietCore count).chain.byHeight[(quietBlock count).metadata.height]? = none := by
    obtain rfl | rfl | rfl : count = 0 ∨ count = 1 ∨ count = 2 := by omega
    · decide +kernel
    · decide +kernel
    · decide +kernel
  have accepted := appendStoredBlock_of_replayed replayed
    (by rw [quietState_height few, quietCore_height (by omega)]) unused.1 unused.2
  rw [← state] at replayed
  have certified : checkCommitQuorum sampleEnv (quietBlock count).block (some authorPolicy) =
      .ok () := by
    rw [drafted]
    exact certify_certified _
  have appended := NodeCore.appendCanonicalLinkAtTip_eq replayed (quietCore_policy (by omega)) certified
    accepted persisted
  rw [appended, NodeCore.checkpointAt, if_neg (by rw [quietBlock_height few, checkpointInterval]; omega)]
  have proposer : (quietCore count).proposerTip = none := by cases count <;> rfl
  rw [quietCore, after, proposer, quietState]
  congr 2

theorem quietCore_tipKnown {count : Nat} (few : count ≤ 3) : (quietCore count).chain.TipKnown := by
  induction count with
  | zero => exact ChainStore.newWithBase_tipKnown (Bytes32.fill 0) (Nat.zero_le _)
  | succ count ih =>
      exact (NodeCore.appendCanonicalLinkAtTip_move
        (@quietCore_appends count (by omega) ⟨0, true, false⟩ rfl)).tipKnown (ih (by omega))

theorem quietCore_links {count : Nat} (few : count < 3) (cache : BlockTreeCache)
    {occasion : Occasion} (persisted : occasion.persisted = true) :
    importRemoteBlock sampleEnv snapshotConfig occasion ⟨quietCore count, cache⟩ (quietBlock count) =
      (⟨quietCore (count + 1), cache⟩, .ok .imported) := by
  have height : (quietBlock count).metadata.height = (quietCore count).chain.height + 1 := by
    rw [quietBlock_height few, quietCore_height (by omega)]
  have known : (quietCore count).chain.TipKnown := quietCore_tipKnown (by omega)
  have classified := NodeCore.classify_child known (quietBlock_consistent count) height
    (quietCore_parent count).symm
  exact importRemoteBlock_link classified (quietCore_appends few persisted)

theorem quietCore_buffers {stored : StoredBlock} (consistent : stored.Consistent sampleEnv)
    (ahead : 1 < stored.metadata.height) (cache : BlockTreeCache) (occasion : Occasion) :
    importRemoteBlock sampleEnv snapshotConfig occasion ⟨quietCore 0, cache⟩ stored =
      (⟨quietCore 0, cache.insert occasion.now stored⟩,
        .ok (.orphanedNeedsParent stored.metadata.prevHash)) := by
  have classified := NodeCore.classify_tipless (quietCore_tipKnown (Nat.zero_le 3)) rfl consistent
  rw [quietCore_height (Nat.zero_le 3), if_neg (by omega), if_neg (by omega)] at classified
  simp only [importRemoteBlock, classified]

def quietNode (orphans : List Nat) : LiveNodeState where
  core := quietCore 1
  orphanCache := orphans.foldl (fun cache count => cache.insert 0 (quietBlock count)) (.new 4 60)

theorem quietNode_run (orphans : List Nat) (few : ∀ count ∈ orphans, 0 < count ∧ count < 3) :
    ReflTransGen (ReceptionStep sampleEnv snapshotConfig) ⟨quietCore 0, .new 4 60⟩ (quietNode orphans) := by
  have buffered : ∀ cache : BlockTreeCache, ReflTransGen (ReceptionStep sampleEnv snapshotConfig)
      ⟨quietCore 0, cache⟩
      ⟨quietCore 0, orphans.foldl (fun cache count => cache.insert 0 (quietBlock count)) cache⟩ := by
    intro cache
    refine Runs.foldl (fun cache : BlockTreeCache => LiveNodeState.mk (quietCore 0) cache) _ orphans
      (fun current count member => ?_) cache
    have step := @ReceptionStep.imported sampleEnv snapshotConfig ⟨quietCore 0, current⟩ ⟨0, true, false⟩
      (quietBlock count)
    have ahead : 1 < (quietBlock count).metadata.height := by
      rw [quietBlock_height (few count member).2]
      have := (few count member).1
      omega
    rw [quietCore_buffers (quietBlock_consistent count) ahead] at step
    exact .single step
  refine (buffered _).tail ?_
  have step := @ReceptionStep.imported sampleEnv snapshotConfig
    ⟨quietCore 0, orphans.foldl (fun cache count => cache.insert 0 (quietBlock count)) (.new 4 60)⟩
    ⟨0, true, false⟩ (quietBlock 0)
  rw [quietCore_links (by decide) _ rfl] at step
  exact step

theorem quietNode_chain {orphans : List Nat} (orphaned : orphans = [1] ∨ orphans = [1, 2]) :
    CachedChain (quietNode orphans).orphanCache 0 (quietBlock 0).metadata.blockHash
      (orphans.map quietBlock) := by
  have cached : ∀ count ∈ orphans, ((quietNode orphans).orphanCache.entries[
      (quietBlock count).metadata.blockHash]?.map fun entry =>
        decide (entry.stored = quietBlock count ∧ (quietNode orphans).orphanCache.expired 0 entry = false))
        = some true := by
    rcases orphaned with rfl | rfl <;> decide +kernel
  have all : ∀ entry ∈ (quietNode orphans).orphanCache.entries.toList,
      entry.2.stored ∈ orphans.map quietBlock := by
    rcases orphaned with rfl | rfl <;> decide +kernel
  have distinct : ((quietBlock 0).metadata.blockHash ::
      (orphans.map quietBlock).map fun stored => stored.metadata.blockHash).Nodup := by
    rcases orphaned with rfl | rfl <;> decide +kernel
  refine ⟨?_, distinct, ?_, ?_⟩
  · intro stored member
    obtain ⟨count, listed, rfl⟩ := List.mem_map.mp member
    obtain ⟨entry, found, holds⟩ := Option.map_eq_some_iff.mp (cached count listed)
    exact ⟨entry, found, of_decide_eq_true holds⟩
  · rcases orphaned with rfl | rfl
    · exact ⟨rfl, trivial⟩
    · exact ⟨rfl, rfl, trivial⟩
  · intro hash entry found _
    exact all (hash, entry) (Std.ExtTreeMap.mem_toList_iff_getElem?_eq_some.mpr found)

def alwaysStored (_ : BlockHash) : Occasion := ⟨0, true, false⟩

theorem quietNode_imports {orphans : List Nat} (orphaned : orphans = [1] ∨ orphans = [1, 2]) :
    ImportedInOrder sampleEnv snapshotConfig alwaysStored (quietNode orphans)
      (orphans.map quietBlock) := by
  rcases orphaned with rfl | rfl
  · exact ⟨_, quietCore_links (by decide) _ rfl, trivial⟩
  · exact ⟨_, quietCore_links (by decide) _ rfl, _, quietCore_links (by decide) _ rfl, trivial⟩

/-- Two blocks wait for their parent: it comes, and the second is left behind. -/
theorem drain_leaves_grandchild : ∃ node parent blocks,
    ReflTransGen (ReceptionStep sampleEnv snapshotConfig) ⟨quietCore 0, .new 4 60⟩ node ∧
    node.core.chain.tipHash = some parent ∧
    CachedChain node.orphanCache 0 parent blocks ∧
    ImportedInOrder sampleEnv snapshotConfig alwaysStored node blocks ∧
    ¬ DrainsChain (drainOrphanChildren sampleEnv snapshotConfig 0 alwaysStored node parent).1
      blocks := by
  have run := quietNode_run [1, 2] (by decide)
  have chain := quietNode_chain (.inr rfl)
  have imports := quietNode_imports (.inr rfl)
  refine ⟨_, _, _, run, rfl, chain, imports, ?_⟩
  rw [List.map_cons, drainsChain_iff (indexed_along rfl run) chain imports]
  simp

theorem drain_follows_iff_single : ∃ node parent stored,
    node.core.chain.tipHash = some parent ∧
    DrainsChain (drainOrphanChildren sampleEnv snapshotConfig 0 alwaysStored node parent).1
      [stored] :=
  ⟨quietNode [1], (quietBlock 0).metadata.blockHash, quietBlock 1, rfl,
    (drain_follows_iff sampleEnv snapshotConfig 4 60 _ _ rfl (quietNode_run [1] (by decide)) _ rfl 0
      alwaysStored _ (by simp) (quietNode_chain (.inl rfl)) (quietNode_imports (.inl rfl))).mpr rfl⟩

end Quiet

end ViperChain
