import ViperChain.Node.Import

/-!
What the reception classes mean. The classifier sees the in-memory chain, and a checkpoint takes
the tip out of it.
-/

namespace ViperChain

open Fallible Relation

variable {env : Env} {config : NodeConfig} {occasion : Occasion}

namespace ChainStore

inductive ImportMove (env : Env) (chain : ChainStore) : ChainStore → Prop
  | kept : ImportMove env chain chain
  | appended {trial : ChainStore} (stored : StoredBlock) :
      chain.appendStoredBlock env stored = .ok trial → ImportMove env chain trial
  | checkpointed {trial : ChainStore} (stored : StoredBlock) :
      chain.appendStoredBlock env stored = .ok trial →
      ImportMove env chain (trial.compactToCheckpoint trial.height trial.expectedPrevHash)
  | swapped {next : ChainStore} {displaced : StoredBlock} (canonical : StoredBlock) :
      chain.replaceTipBlock env canonical = .ok (next, displaced) → ImportMove env chain next

structure TipKnown (chain : ChainStore) : Prop where
  range : chain.height ≤ u64Max
  bounded : ∀ (height : Nat) (hash : BlockHash), chain.byHeight[height]? = some hash →
    height ≤ chain.height
  placed : ∀ tip, chain.tip = some tip → chain.tipHash = some tip.metadata.blockHash ∧
    chain.byHeight[tip.metadata.height]? = some tip.metadata.blockHash
  bare : chain.tip = none → ∀ height : Nat, chain.byHeight[height]? = none

variable {chain : ChainStore}

theorem newWithBase_tipKnown (anchor : BlockHash) {base : Nat} (fits : base ≤ u64Max) :
    (newWithBase anchor base).TipKnown where
  range := by simpa [newWithBase, height, tip] using fits
  bounded := by simp [newWithBase]
  placed := by simp [newWithBase, tip]
  bare := by simp [newWithBase]

@[simp] theorem tip_linkBlock (stored : StoredBlock) :
    (chain.linkBlock stored).tip = some stored := by
  simp [tip, linkBlock]

theorem TipKnown.appendStoredBlock {next : ChainStore} {stored : StoredBlock}
    (known : chain.TipKnown) (accepted : chain.appendStoredBlock env stored = .ok next) :
    next.TipKnown := by
  simp only [ChainStore.appendStoredBlock, validateStoredBlock, bind_eq_ok, require_eq_ok,
    decide_eq_true_eq, pure_eq_ok] at accepted
  obtain ⟨_, ⟨_, own, _, _, _, _, _, _, _, _, _, _, _, _, _, _, _, _, _, top, _⟩, rfl⟩ := accepted
  have range := known.range
  rw [← own] at top
  have above : chain.height ≤ stored.metadata.height := by
    rw [top, satAdd64]
    omega
  constructor
  · rw [height_linkBlock, top, satAdd64]
    omega
  · intro height hash found
    rw [height_linkBlock]
    simp only [linkBlock, Std.ExtTreeMap.getElem?_insert, compare_eq_iff_eq] at found
    split at found
    · omega
    · exact (known.bounded height hash found).trans above
  · intro tip top
    rw [tip_linkBlock, Option.some_inj] at top
    subst top
    exact ⟨rfl, by simp [linkBlock]⟩
  · simp

theorem TipKnown.replaceTipBlock {next : ChainStore} {canonical displaced : StoredBlock}
    (known : chain.TipKnown) (swapped : chain.replaceTipBlock env canonical = .ok (next, displaced)) :
    next.TipKnown := by
  simp only [ChainStore.replaceTipBlock, bind_eq_ok, okOr_eq_ok, pure_eq_ok, Prod.mk.injEq]
    at swapped
  obtain ⟨tipHash, top, tip, found, _, checked, rfl, rfl⟩ := swapped
  obtain ⟨sameHeight, _⟩ := validateReplacement_ok checked
  have before : chain.height = canonical.metadata.height := by
    rw [height_of_tip top found, sameHeight]
  have after : ChainStore.height { chain with
      byHeight := chain.byHeight.insert canonical.metadata.height canonical.metadata.blockHash
      byHash := (chain.byHash.erase tipHash).insert canonical.metadata.blockHash canonical
      tipHash := some canonical.metadata.blockHash } = canonical.metadata.height :=
    height_of_tip rfl Std.ExtTreeMap.getElem?_insert_self
  constructor
  · rw [after, ← before]
    exact known.range
  · intro height hash placed
    rw [after, ← before]
    simp only [Std.ExtTreeMap.getElem?_insert, compare_eq_iff_eq] at placed
    split at placed
    · omega
    · exact known.bounded height hash placed
  · intro other newTop
    simp only [ChainStore.tip, Option.bind_some, Std.ExtTreeMap.getElem?_insert_self,
      Option.some_inj] at newTop
    subst newTop
    exact ⟨rfl, by simp⟩
  · simp [ChainStore.tip]

theorem TipKnown.checkpoint (known : chain.TipKnown) (hash : BlockHash) :
    (chain.compactToCheckpoint chain.height hash).TipKnown ∧
      (chain.compactToCheckpoint chain.height hash).tip = none := by
  have tipless : (chain.compactToCheckpoint chain.height hash).tip = none := by
    rw [tip, show (chain.compactToCheckpoint chain.height hash).tipHash = chain.tipHash from rfl]
    cases top : chain.tipHash with
    | none => rfl
    | some tipHash =>
        rw [Option.bind_some, byHash_compactToCheckpoint]
        cases found : chain.byHash[tipHash]? with
        | none => simp
        | some tip =>
            obtain ⟨same, placed⟩ := known.placed tip (by simp [ChainStore.tip, top, found])
            rw [top] at same
            obtain rfl := Option.some.inj same
            exact if_pos ⟨_, (height_of_tip top found).ge, placed⟩
  have height := height_of_tipless tipless
  have gone : ∀ height : Nat, (chain.compactToCheckpoint chain.height hash).byHeight[height]? = none := by
    intro height
    rw [byHeight_compact]
    split
    · rfl
    · rename_i above
      rw [Option.eq_none_iff_forall_ne_some]
      intro other found
      exact above (known.bounded height other found)
  refine ⟨⟨?_, ?_, ?_, fun _ => gone⟩, tipless⟩
  · rw [height]
    exact known.range
  · intro height other found
    rw [gone] at found
    cases found
  · intro tip top
    rw [tipless] at top
    cases top

theorem ImportMove.tipKnown {next : ChainStore} (move : ImportMove env chain next)
    (known : chain.TipKnown) : next.TipKnown := by
  cases move with
  | kept => exact known
  | appended stored accepted => exact known.appendStoredBlock accepted
  | checkpointed stored accepted => exact ((known.appendStoredBlock accepted).checkpoint _).1
  | swapped canonical replaced => exact known.replaceTipBlock replaced

end ChainStore

/-! ### The moves of the node -/

theorem writeTrustedCheckpoint_some {chain : ChainStore} {state : StateStore} {written : Bool}
    {checkpoint : Nat × BlockHash}
    (wrote : writeTrustedCheckpoint env chain state written = some checkpoint) :
    checkpoint = (chain.height, chain.expectedPrevHash) := by
  simp only [writeTrustedCheckpoint, Option.ite_none_right_eq_some, Option.some_inj] at wrote
  obtain ⟨⟨height, _⟩, rfl⟩ := wrote
  rw [height]

theorem NodeCore.checkpointAt_eq (core : NodeCore) (height : Nat) :
    core.checkpointAt env occasion height = core ∨
      core.checkpointAt env occasion height = { core with
        chain := core.chain.compactToCheckpoint core.chain.height core.chain.expectedPrevHash } := by
  unfold checkpointAt
  split
  · split
    · rename_i wrote
      obtain ⟨rfl, rfl⟩ := Prod.mk.inj (writeTrustedCheckpoint_some wrote)
      exact .inr rfl
    · exact .inl rfl
  · exact .inl rfl

theorem NodeCore.appendCanonicalLinkAtTip_ok {core next : NodeCore} {stored : StoredBlock}
    (linked : core.appendCanonicalLinkAtTip env config occasion stored = .ok next) :
    ∃ replay policy trial,
      replayBlocksFromState env core.state core.chain.expectedPrevHash [stored]
        config.replayParams = .ok replay ∧
      policyFromState env config core.state = .ok policy ∧
      checkCommitQuorum env stored.block policy = .ok () ∧
      core.chain.appendStoredBlock env stored = .ok trial ∧
      occasion.persisted = true ∧
      next = ({
        chain := trial
        blocks := core.blocks.insert stored.metadata.height stored
        state := replay.state
        proposerTip := core.proposerTip.map fun _ => stored.metadata.blockHash } : NodeCore).checkpointAt
          env occasion stored.metadata.height := by
  simp only [appendCanonicalLinkAtTip, appendToDisk, bind_eq_ok, mapError_eq_ok, require_eq_ok,
    pure_eq_ok] at linked
  obtain ⟨replay, replayed, policy, derived, chain, ⟨_, certified, trial, accepted, _, persisted,
    rfl⟩, rfl⟩ := linked
  exact ⟨replay, policy, _, replayed, derived, certified, accepted, persisted, rfl⟩

theorem NodeCore.appendCanonicalLinkAtTip_move {core next : NodeCore} {stored : StoredBlock}
    (linked : core.appendCanonicalLinkAtTip env config occasion stored = .ok next) :
    ChainStore.ImportMove env core.chain next.chain := by
  obtain ⟨replay, policy, trial, _, _, _, accepted, _, rfl⟩ := appendCanonicalLinkAtTip_ok linked
  rcases @checkpointAt_eq env occasion _ stored.metadata.height with same | compacted
  · rw [same]
    exact .appended stored accepted
  · rw [compacted]
    exact .checkpointed stored accepted

theorem NodeCore.reportDivergence_eq (core : NodeCore) (candidate : StoredBlock) :
    ∃ state, (core.reportDivergence env config candidate).1 = { core with state } := by
  cases found : core.readStoredBlockAtHeight candidate.metadata.height with
  | none => exact ⟨core.state, by simp [reportDivergence, found]⟩
  | some canonical => exact ⟨_, by simp only [reportDivergence, found]; rfl⟩

theorem NodeCore.resolveSiblingAtTip_move (core : NodeCore) (candidate : StoredBlock)
    (tip : BlockMetadata) :
    ChainStore.ImportMove env core.chain
      (core.resolveSiblingAtTip env config occasion candidate tip).1.chain := by
  unfold resolveSiblingAtTip
  split
  · exact .kept
  · split
    · split
      · exact .kept
      · rename_i swapped
        simp only [swapSibling, bind_eq_ok, mapError_eq_ok, pure_eq_ok] at swapped
        obtain ⟨⟨chain, displaced⟩, replaced, rfl⟩ := swapped
        exact .swapped candidate (replaceCanonicalAtHeight_ok replaced)
    · obtain ⟨state, reported⟩ := @reportDivergence_eq env config core candidate
      simp only [reported]
      exact .kept

theorem importRemoteBlock_move (node : LiveNodeState) (stored : StoredBlock) :
    ChainStore.ImportMove env node.core.chain
      (importRemoteBlock env config occasion node stored).1.core.chain := by
  unfold importRemoteBlock
  split
  · exact .kept
  · exact .kept
  · exact .kept
  · exact node.core.resolveSiblingAtTip_move stored _
  · exact .kept
  · split
    · exact .kept
    · rename_i linked
      exact NodeCore.appendCanonicalLinkAtTip_move linked

theorem importRemoteBlock_link {node : LiveNodeState} {stored : StoredBlock} {core : NodeCore}
    (received : node.core.classify env stored = .ok .linkAtTip)
    (linked : node.core.appendCanonicalLinkAtTip env config occasion stored = .ok core) :
    importRemoteBlock env config occasion node stored = ({ node with core }, .ok .imported) := by
  simp only [importRemoteBlock, received, linked]

inductive ReceptionStep (env : Env) (config : NodeConfig) : LiveNodeState → LiveNodeState → Prop
  | imported (node : LiveNodeState) (occasion : Occasion) (stored : StoredBlock) :
      ReceptionStep env config node (importRemoteBlock env config occasion node stored).1
  | drained (node : LiveNodeState) (now : Nat) (occasionOf : BlockHash → Occasion)
      (parentHash : BlockHash) :
      ReceptionStep env config node (drainOrphanChildren env config now occasionOf node parentHash).1

theorem drainChildren_invariant (holds : LiveNodeState → Prop)
    (imports : ∀ node occasion stored, holds node →
      holds (importRemoteBlock env config occasion node stored).1)
    (removes : ∀ (node : LiveNodeState) hash, holds node →
      holds { node with orphanCache := (node.orphanCache.remove hash).1 })
    (occasionOf : BlockHash → Occasion) (children : List StoredBlock) {node : LiveNodeState}
    (needsFetch : List BlockHash) (initial : holds node) :
    holds (drainChildren env config occasionOf children node needsFetch).1 := by
  induction children generalizing node needsFetch with
  | nil => exact initial
  | cons child rest ih =>
      have next := imports _ (occasionOf child.metadata.blockHash) child
        (removes node child.metadata.blockHash initial)
      simp only [drainChildren]
      split <;> rename_i step <;> rw [step] at next
      · exact next
      · exact ih _ next
      · exact ih _ next

theorem ReceptionStep.tipKnown {node next : LiveNodeState} (step : ReceptionStep env config node next)
    (known : node.core.chain.TipKnown) : next.core.chain.TipKnown := by
  cases step with
  | imported occasion stored => exact (importRemoteBlock_move node stored).tipKnown known
  | drained now occasionOf parentHash =>
      exact drainChildren_invariant (fun node => node.core.chain.TipKnown)
        (fun node _ stored => (importRemoteBlock_move node stored).tipKnown) (fun _ _ => id)
        occasionOf _ [] known

/-! ### The classes -/

/-- The classes as their names say. The parent of a link is the anchor on an empty chain. -/
structure MeansWhatItSays (chain : ChainStore) (stored : StoredBlock)
    (received : BlockReceptionClass) : Prop where
  duplicate : chain.tipHash = some stored.metadata.blockHash →
    stored.metadata.height = chain.height → received = .duplicate
  link : received = .linkAtTip ↔
    stored.metadata.height = chain.height + 1 ∧ stored.metadata.prevHash = chain.expectedPrevHash
  sibling : (∃ tip, received = .siblingAtTip tip) ↔ stored.metadata.height = chain.height ∧
    ∃ tipHash, chain.tipHash = some tipHash ∧ stored.metadata.blockHash ≠ tipHash
  below : received = .belowFinalized → stored.metadata.height < chain.height

/-- What must hold of a block that is classified without a tip in memory: it is not at the
height of an evicted tip, and one height above it names the right parent. -/
def RecognisedWithoutTip (chain : ChainStore) (stored : StoredBlock) : Prop :=
  chain.tip = none →
    (stored.metadata.height = chain.height → chain.tipHash = none) ∧
    (stored.metadata.height = chain.height + 1 → stored.metadata.prevHash = chain.expectedPrevHash)

structure StoredBlock.Consistent (env : Env) (stored : StoredBlock) : Prop where
  height : stored.metadata.height = stored.block.header.height
  hash : stored.metadata.blockHash = computeBlockHash env stored.block

section Classes

variable {core : NodeCore} {stored : StoredBlock}

theorem NodeCore.classify_consistent (consistent : stored.Consistent env) :
    core.classify env stored = .ok (receptionClass stored.metadata core.chain.height
      (core.chain.tipHash.bind core.chain.getMetadataByHash) core.chain.getMetadataByHeight) := by
  simp only [classify, classifyIncomingBlock, bind_eq_ok, require_eq_ok, decide_eq_true_eq,
    pure_eq_ok]
  exact ⟨(), consistent.height, (), consistent.hash, trivial⟩

theorem NodeCore.classify_below (consistent : stored.Consistent env)
    (low : stored.metadata.height < core.chain.height) :
    core.classify env stored = .ok .duplicate ∨ core.classify env stored = .ok .belowFinalized := by
  rw [classify_consistent consistent]
  simp only [receptionClass, low, if_true]
  split
  · exact .inl rfl
  · exact .inr rfl

theorem NodeCore.classify_tip (known : core.chain.TipKnown) {tip : StoredBlock}
    (inMemory : core.chain.tip = some tip) (consistent : stored.Consistent env)
    (high : core.chain.height ≤ stored.metadata.height) :
    core.classify env stored = .ok (
      if stored.metadata.height = core.chain.height then
        if tip.metadata.blockHash = stored.metadata.blockHash then .duplicate
        else .siblingAtTip tip.metadata
      else if stored.metadata.height = core.chain.height + 1 ∧
          stored.metadata.prevHash = tip.metadata.blockHash then .linkAtTip
      else .orphanFutureChild) := by
  obtain ⟨top, placed⟩ := known.placed tip inMemory
  have found : core.chain.byHash[tip.metadata.blockHash]? = some tip := by
    simpa [ChainStore.tip, top] using inMemory
  have height := ChainStore.height_of_tip top found
  have atTip : core.chain.getMetadataByHeight core.chain.height = some tip.metadata := by
    simp [ChainStore.getMetadataByHeight, ChainStore.getStoredBlockByHeight, height, placed, found]
  have localTip : core.chain.tipHash.bind core.chain.getMetadataByHash = some tip.metadata := by
    simp [top, ChainStore.getMetadataByHash, found]
  rw [classify_consistent consistent, localTip]
  simp only [receptionClass, Nat.not_lt.mpr high, if_false]
  by_cases same : stored.metadata.height = core.chain.height
  · by_cases twin : tip.metadata.blockHash = stored.metadata.blockHash
    · simp [same, atTip, twin]
    · simp [same, atTip, twin]
  · have above : core.chain.getMetadataByHeight stored.metadata.height = none := by
      rw [ChainStore.getMetadataByHeight, ChainStore.getStoredBlockByHeight]
      cases indexed : core.chain.byHeight[stored.metadata.height]? with
      | none => rfl
      | some hash =>
          have := known.bounded _ hash indexed
          omega
    rw [above]
    by_cases next : stored.metadata.height = core.chain.height + 1
    · by_cases parent : stored.metadata.prevHash = tip.metadata.blockHash
      · simp [next, parent]
      · simp [next, parent]
    · simp [same, next]

theorem NodeCore.classify_tipless (known : core.chain.TipKnown)
    (tipless : core.chain.tip = none) (consistent : stored.Consistent env) :
    core.classify env stored = .ok (
      if stored.metadata.height < core.chain.height then .belowFinalized
      else if stored.metadata.height = core.chain.height + 1 then .linkAtTip
      else .orphanFutureChild) := by
  have localTip : core.chain.tipHash.bind core.chain.getMetadataByHash = none := by
    cases top : core.chain.tipHash with
    | none => rfl
    | some hash =>
        have missing : core.chain.byHash[hash]? = none := by
          simpa [ChainStore.tip, top] using tipless
        simp only [Option.bind_some, ChainStore.getMetadataByHash, missing, Option.map_none]
  have unindexed : core.chain.getMetadataByHeight stored.metadata.height = none := by
    rw [ChainStore.getMetadataByHeight, ChainStore.getStoredBlockByHeight, known.bare tipless]
    rfl
  rw [classify_consistent consistent, localTip]
  simp only [receptionClass, unindexed, Option.any_none, Bool.false_eq_true, if_false]
  by_cases low : stored.metadata.height < core.chain.height
  · simp [low]
  · by_cases same : stored.metadata.height = core.chain.height
    · simp [same]
    · simp [low, same]

theorem NodeCore.meansWhatItSays_iff (known : core.chain.TipKnown)
    (consistent : stored.Consistent env) : ∃ received, core.classify env stored = .ok received ∧
      (MeansWhatItSays core.chain stored received ↔ RecognisedWithoutTip core.chain stored) := by
  by_cases low : stored.metadata.height < core.chain.height
  · have recognised : RecognisedWithoutTip core.chain stored :=
      fun _ => ⟨fun _ => by omega, fun _ => by omega⟩
    rcases classify_below consistent low with twin | finalized
    · refine ⟨_, twin, iff_of_true ⟨fun _ _ => rfl, ?_, ?_, by simp⟩ recognised⟩
      · simp; omega
      · simp; omega
    · refine ⟨_, finalized, iff_of_true ⟨fun _ _ => by omega, ?_, ?_, fun _ => low⟩ recognised⟩
      · simp; omega
      · simp; omega
  cases inMemory : core.chain.tip with
  | some tip =>
      have top := (known.placed tip inMemory).1
      have parent : core.chain.expectedPrevHash = tip.metadata.blockHash := by
        simp [ChainStore.expectedPrevHash, top]
      have recognised : RecognisedWithoutTip core.chain stored := by
        intro tipless
        rw [inMemory] at tipless
        cases tipless
      refine ⟨_, classify_tip known inMemory consistent (by omega), iff_of_true ?_ recognised⟩
      by_cases same : stored.metadata.height = core.chain.height
      · by_cases twin : tip.metadata.blockHash = stored.metadata.blockHash
        · constructor <;> simp [same, twin, top]
        · constructor <;> simp [same, twin, top, Ne.symm twin]
      · by_cases linked : stored.metadata.height = core.chain.height + 1 ∧
            stored.metadata.prevHash = tip.metadata.blockHash
        · constructor <;> simp [linked, parent]
        · constructor <;> simp [same, linked, parent]
  | none =>
      refine ⟨_, classify_tipless known inMemory consistent, ?_⟩
      simp only [low, if_false]
      by_cases same : stored.metadata.height = core.chain.height
      · cases top : core.chain.tipHash with
        | none =>
            refine iff_of_true ?_ fun _ => ⟨fun _ => top, fun _ => by omega⟩
            constructor <;> simp [same, top]
        | some hash =>
            refine iff_of_false (fun meant => ?_) fun recognised => ?_
            · by_cases twin : stored.metadata.blockHash = hash
              · have := meant.duplicate (by rw [top, twin]) same
                simp [same] at this
              · have := meant.sibling.mpr ⟨same, hash, top, twin⟩
                simp [same] at this
            · have := (recognised inMemory).1 same
              rw [top] at this
              cases this
      · by_cases next : stored.metadata.height = core.chain.height + 1
        · simp only [next, if_true]
          constructor
          · intro meant _
            exact ⟨fun at_ => absurd at_ (by omega), fun _ => (meant.link.mp rfl).2⟩
          · intro recognised
            have parent := (recognised inMemory).2 next
            constructor <;> simp [next, parent]
        · refine iff_of_true ?_ fun _ => ⟨fun at_ => absurd at_ same, fun at_ => absurd at_ next⟩
          constructor <;> simp [same, next]

theorem NodeCore.classify_child (known : core.chain.TipKnown) (consistent : stored.Consistent env)
    (height : stored.metadata.height = core.chain.height + 1)
    (parent : stored.metadata.prevHash = core.chain.expectedPrevHash) :
    core.classify env stored = .ok .linkAtTip := by
  obtain ⟨received, classified, meant⟩ := meansWhatItSays_iff known consistent
  have link := (meant.mpr fun _ => ⟨fun low => by omega, fun _ => parent⟩).link
  rw [classified, link.mpr ⟨height, parent⟩]

end Classes

/-- On every node that imports have led to, the class of a block that agrees with itself is what it
says just when the tip is in memory or the block is recognised without it. -/
theorem receptionClass_exact (env : Env) (config : NodeConfig) (anchor : BlockHash) (base : Nat)
    (fits : base ≤ u64Max) (start node : LiveNodeState)
    (fresh : start.core.chain = .newWithBase anchor base)
    (run : ReflTransGen (ReceptionStep env config) start node) (stored : StoredBlock)
    (consistent : stored.Consistent env) :
    ∃ received, node.core.classify env stored = .ok received ∧
      (MeansWhatItSays node.core.chain stored received ↔
        RecognisedWithoutTip node.core.chain stored) := by
  have known : node.core.chain.TipKnown := by
    refine Runs.invariant (fun node => node.core.chain.TipKnown) (fun _ _ step => step.tipKnown) run ?_
    rw [fresh]
    exact ChainStore.newWithBase_tipKnown anchor fits
  exact NodeCore.meansWhatItSays_iff known consistent

section Sample

theorem appendStoredBlock_of_replayed {chain : ChainStore} {state : StateStore}
    {stored : StoredBlock} {params : ReplayParams} {result : ReplayResult}
    (replayed : replayBlocksFromState env state chain.expectedPrevHash [stored] params = .ok result)
    (heights : state.blockHeight = chain.height)
    (fresh : chain.byHash[stored.metadata.blockHash]? = none)
    (free : chain.byHeight[stored.metadata.height]? = none) :
    chain.appendStoredBlock env stored = .ok (chain.linkBlock stored) := by
  obtain ⟨verified, _⟩ := replayBlocksFromState_singleton.mp replayed
  simp only [verifyStoredBlock, bind_eq_ok, require_eq_ok, decide_eq_true_eq, exists_const]
    at verified
  obtain ⟨height, parent, bodies, ownHeight, ownParent, ownState, ownTx, counted, hashed⟩ := verified
  simp only [ChainStore.appendStoredBlock, ChainStore.validateStoredBlock, bind_eq_ok, require_eq_ok,
    decide_eq_true_eq, exists_const, pure_eq_ok, and_true, Bool.not_eq_true']
  refine ⟨ownHeight, ownParent, ownState, ownTx, counted, bodies, hashed, ?_, ?_, ?_, parent⟩
  · rw [← hashed, ← Bool.not_eq_true, ← Std.ExtTreeMap.mem_iff_contains]
    simpa using fresh
  · rw [← ownHeight, ← Bool.not_eq_true, ← Std.ExtTreeMap.mem_iff_contains]
    simpa using free
  · rw [height, heights]

theorem NodeCore.appendCanonicalLinkAtTip_eq {core : NodeCore} {stored : StoredBlock}
    {replay : ReplayResult} {policy : Option CommitQuorumPolicy} {trial : ChainStore}
    (replayed : replayBlocksFromState env core.state core.chain.expectedPrevHash [stored]
      config.replayParams = .ok replay)
    (derived : policyFromState env config core.state = .ok policy)
    (certified : checkCommitQuorum env stored.block policy = .ok ())
    (accepted : core.chain.appendStoredBlock env stored = .ok trial)
    (persisted : occasion.persisted = true) :
    core.appendCanonicalLinkAtTip env config occasion stored = .ok
      (({
        chain := trial
        blocks := core.blocks.insert stored.metadata.height stored
        state := replay.state
        proposerTip := core.proposerTip.map fun _ => stored.metadata.blockHash } : NodeCore).checkpointAt
          env occasion stored.metadata.height) := by
  simp only [appendCanonicalLinkAtTip, appendToDisk, bind_eq_ok, mapError_eq_ok, require_eq_ok,
    pure_eq_ok]
  exact ⟨replay, replayed, policy, derived, trial, ⟨(), certified, trial, accepted, (), persisted, rfl⟩,
    rfl⟩

theorem writeTrustedCheckpoint_linkBlock {state : StateStore} {stored : StoredBlock}
    (height : state.blockHeight = stored.metadata.height)
    (root : state.stateRoot env = stored.metadata.stateRoot) (above : stored.metadata.height ≠ 0)
    (chain : ChainStore) :
    writeTrustedCheckpoint env (chain.linkBlock stored) state true =
      some (stored.metadata.height, stored.metadata.blockHash) := by
  have found : (chain.linkBlock stored).getMetadataByHeight stored.metadata.height =
      some stored.metadata := by
    simp [ChainStore.getMetadataByHeight, ChainStore.getStoredBlockByHeight, ChainStore.linkBlock]
  have parent : (chain.linkBlock stored).expectedPrevHash = stored.metadata.blockHash := rfl
  simp only [writeTrustedCheckpoint, height, if_neg above, found, Option.map_some, Option.getD_some,
    root, parent, ChainStore.height_linkBlock, and_self, if_true]

def snapshotState : StateStore := { StateStore.new sampleEnv with blockHeight := 999 }

def snapshotConfig : NodeConfig where
  feeParams := freeParams
  validatorPool := []
  distributedSigning := false
  verifier := fun _ _ _ => .ok ()

def snapshotNode : LiveNodeState where
  core := {
    chain := .newWithBase (Bytes32.fill 0) 999
    blocks := ∅
    state := snapshotState
    proposerTip := none }
  orphanCache := .new 4 60

theorem exists_snapshotBlock : ∃ (stored : StoredBlock) (state : StateStore),
    stored.Consistent sampleEnv ∧ stored.metadata.height = 1000 ∧
    state.blockHeight = 1000 ∧
    state.stateRoot sampleEnv = stored.metadata.stateRoot ∧
    snapshotNode.core.chain.appendStoredBlock sampleEnv stored =
      .ok (snapshotNode.core.chain.linkBlock stored) ∧
    ∀ occasion, occasion.persisted = true →
      snapshotNode.core.appendCanonicalLinkAtTip sampleEnv snapshotConfig occasion stored = .ok
        (({
          chain := snapshotNode.core.chain.linkBlock stored
          blocks := (∅ : Std.ExtTreeMap Nat StoredBlock).insert 1000 stored
          state
          proposerTip := none } : NodeCore).checkpointAt sampleEnv occasion 1000) := by
  obtain ⟨stored, replay, proposer, ran, first, replayed⟩ := exists_importable sampleEnv snapshotState
    (Bytes32.fill 0) snapshotConfig.replayParams [] [] [] { state := snapshotState } (by decide) rfl rfl
  have verified := (replayBlocksFromState_singleton.mp replayed).1
  simp only [verifyStoredBlock, bind_eq_ok, require_eq_ok, decide_eq_true_eq, exists_const]
    at verified
  obtain ⟨height, _, _, ownHeight, _, ownState, _, _, hashed⟩ := verified
  have headerHeight : stored.block.header.height = 1000 := by
    rw [height]
    decide
  have storedHeight : stored.metadata.height = 1000 := by rw [ownHeight, headerHeight]
  obtain ⟨progress, again, _, root, state⟩ := replayBlock_ok first
  rw [show (ReplayResult.start sampleEnv snapshotState (Bytes32.fill 0)).state = snapshotState from rfl,
    ran] at again
  obtain rfl := Except.ok.inj again
  have finished : finishReplay sampleEnv snapshotConfig.replayParams stored.block.header
      { state := snapshotState } = finishReplay sampleEnv snapshotConfig.replayParams
        (draftHeader sampleEnv snapshotState (Bytes32.fill 0) [] []) { state := snapshotState } :=
    finishReplay_congr _ _ proposer headerHeight
  have advanced : (finishReplay sampleEnv snapshotConfig.replayParams
      (draftHeader sampleEnv snapshotState (Bytes32.fill 0) [] []) { state := snapshotState }).blockHeight
        = 1000 := by decide +kernel
  have accepted := @appendStoredBlock_of_replayed sampleEnv snapshotNode.core.chain snapshotState
    stored snapshotConfig.replayParams replay replayed rfl
    (by simp [snapshotNode, ChainStore.newWithBase]) (by simp [snapshotNode, ChainStore.newWithBase])
  refine ⟨stored, replay.state, ⟨ownHeight, hashed⟩, storedHeight, ?_, ?_, accepted,
    fun occasion persisted => ?_⟩
  · rw [state, finished, advanced]
  · rw [state, root, ownState]
  · have linked := @NodeCore.appendCanonicalLinkAtTip_eq sampleEnv snapshotConfig occasion
      snapshotNode.core stored replay none _ replayed rfl rfl accepted persisted
    rw [storedHeight] at linked
    exact linked

theorem classify_snapshotNode {stored : StoredBlock} (consistent : stored.Consistent sampleEnv)
    (height : stored.metadata.height = 1000) :
    snapshotNode.core.classify sampleEnv stored = .ok .linkAtTip := by
  have tipless : snapshotNode.core.chain.tip = none := rfl
  rw [NodeCore.classify_tipless (ChainStore.newWithBase_tipKnown _ (by decide)) tipless consistent,
    height, show snapshotNode.core.chain.height = 999 from rfl]
  rfl

/-- A block is imported and its checkpoint written: sent again, it is an orphan. -/
theorem checkpointedTip_unrecognised : ∃ stored node,
    importRemoteBlock sampleEnv snapshotConfig ⟨0, true, true⟩ snapshotNode stored =
      (node, .ok .imported) ∧
    stored.Consistent sampleEnv ∧
    node.core.chain.tipHash = some stored.metadata.blockHash ∧
    stored.metadata.height = node.core.chain.height ∧
    node.core.classify sampleEnv stored = .ok .orphanFutureChild := by
  obtain ⟨stored, state, consistent, height, advanced, root, accepted, links⟩ := exists_snapshotBlock
  have linked := links ⟨0, true, true⟩ rfl
  have wrote := writeTrustedCheckpoint_linkBlock (advanced.trans height.symm) root (by omega)
    snapshotNode.core.chain
  have known : (snapshotNode.core.chain.linkBlock stored).TipKnown :=
    (ChainStore.newWithBase_tipKnown _ (by decide)).appendStoredBlock accepted
  obtain ⟨known, tipless⟩ := known.checkpoint stored.metadata.blockHash
  rw [ChainStore.height_linkBlock] at known tipless
  rw [NodeCore.checkpointAt, if_pos (by decide), wrote] at linked
  refine ⟨stored, _, importRemoteBlock_link (classify_snapshotNode consistent height) linked,
    consistent, rfl, ?_, ?_⟩
  · exact (ChainStore.height_of_tipless tipless).symm
  · rw [NodeCore.classify_tipless known tipless consistent,
      ChainStore.height_of_tipless tipless]
    simp [ChainStore.compactToCheckpoint]

theorem receptionClass_exact_imported : ∃ (stored : StoredBlock) (node : LiveNodeState),
    ReflTransGen (ReceptionStep sampleEnv snapshotConfig) snapshotNode node ∧
    node.core.chain.tipHash = some stored.metadata.blockHash ∧
    ∀ other : StoredBlock, other.Consistent sampleEnv → ∃ received,
      node.core.classify sampleEnv other = .ok received ∧
      MeansWhatItSays node.core.chain other received := by
  obtain ⟨stored, state, consistent, height, _, _, _, links⟩ := exists_snapshotBlock
  have linked := links ⟨0, true, false⟩ rfl
  have unwritten : writeTrustedCheckpoint sampleEnv (snapshotNode.core.chain.linkBlock stored) state
      false = none := by simp [writeTrustedCheckpoint]
  rw [NodeCore.checkpointAt, if_pos (by decide), unwritten] at linked
  have imported := importRemoteBlock_link (classify_snapshotNode consistent height) linked
  have step := @ReceptionStep.imported sampleEnv snapshotConfig snapshotNode ⟨0, true, false⟩ stored
  rw [imported] at step
  refine ⟨stored, _, .single step, rfl, fun other consistent => ?_⟩
  obtain ⟨received, classified, exact⟩ := receptionClass_exact sampleEnv snapshotConfig
    (Bytes32.fill 0) 999 (by decide) snapshotNode _ rfl (.single step) other consistent
  refine ⟨received, classified, exact.mpr fun tipless => ?_⟩
  rw [ChainStore.tip_linkBlock] at tipless
  cases tipless

end Sample

end ViperChain
