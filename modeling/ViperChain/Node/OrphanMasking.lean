import ViperChain.Node.OrphanDrain

/-!
Which of several blocks with one hash a drain tries. A good block stripped of its signatures
has the same hash and is buffered unchecked.
-/

namespace ViperChain

open Fallible Relation

variable {env : Env} {config : NodeConfig} {occasion : Occasion}

namespace BlockTreeCache

variable {cache : BlockTreeCache}

def held (cache : BlockTreeCache) (hash : BlockHash) : Option StoredBlock :=
  cache.entries[hash]?.map Cached.stored

def HasRoomFor (cache : BlockTreeCache) (stored : StoredBlock) : Prop :=
  stored.metadata.blockHash ∈ cache.entries ∨ cache.entries.size < cache.capacity

theorem held_insert (now : Nat) {stored : StoredBlock} (room : cache.HasRoomFor stored)
    (hash : BlockHash) :
    (cache.insert now stored).held hash =
      if hash = stored.metadata.blockHash then some ((cache.held hash).getD stored)
      else cache.held hash := by
  unfold held BlockTreeCache.insert
  split
  · rename_i cached found
    rw [Std.ExtTreeMap.getElem?_insert]
    by_cases same : hash = stored.metadata.blockHash
    · simp [same, found]
    · simp [same, Ne.symm same]
  · rename_i missing
    have fresh : stored.metadata.blockHash ∉ cache.entries := by simpa using missing
    rw [if_neg (Nat.not_le.mpr (room.resolve_left fresh)), getElem?_enter]
    by_cases same : hash = stored.metadata.blockHash
    · rw [if_pos same, if_pos same, same, missing]
      rfl
    · rw [if_neg same, if_neg same]

theorem insert_origin {now : Nat} {stored : StoredBlock} {hash : BlockHash} {entry : Cached}
    (found : (cache.insert now stored).entries[hash]? = some entry) (indexed : cache.Indexed) :
    entry.stored = stored ∨ ∃ old, cache.entries[hash]? = some old ∧ old.stored = entry.stored := by
  unfold BlockTreeCache.insert at found
  split at found
  · rename_i cached present
    rw [Std.ExtTreeMap.getElem?_insert] at found
    split at found
    · rename_i same
      obtain rfl := compare_eq_iff_eq.mp same
      obtain rfl := Option.some.inj found
      exact .inr ⟨cached, present, rfl⟩
    · exact .inr ⟨entry, found, rfl⟩
  · split at found
    all_goals rw [getElem?_enter] at found
    all_goals split at found
    · obtain rfl := Option.some.inj found
      exact .inl rfl
    · exact .inr ⟨entry, (evictFrom_spec cache.insertionOrder indexed).2 hash entry found, rfl⟩
    · obtain rfl := Option.some.inj found
      exact .inl rfl
    · exact .inr ⟨entry, found, rfl⟩

end BlockTreeCache

/-! ### Cached blocks agree with themselves -/

def CacheChecked (env : Env) (cache : BlockTreeCache) : Prop :=
  cache.Indexed ∧ ∀ (hash : BlockHash) (entry : Cached), cache.entries[hash]? = some entry →
    entry.stored.Consistent env

theorem CacheChecked.remove {cache : BlockTreeCache} (checked : CacheChecked env cache)
    (hash : BlockHash) : CacheChecked env (cache.remove hash).1 := by
  refine ⟨checked.1.remove hash, fun other entry found => ?_⟩
  rw [BlockTreeCache.getElem?_remove] at found
  split at found
  · cases found
  · exact checked.2 other entry found

theorem CacheChecked.insert {cache : BlockTreeCache} (checked : CacheChecked env cache) (now : Nat)
    {stored : StoredBlock} (consistent : stored.Consistent env) :
    CacheChecked env (cache.insert now stored) := by
  refine ⟨checked.1.insert now stored, fun hash entry found => ?_⟩
  rcases BlockTreeCache.insert_origin found checked.1 with same | ⟨old, before, same⟩
  · rwa [same]
  · rw [← same]
    exact checked.2 hash old before

theorem importRemoteBlock_checked {node : LiveNodeState}
    (checked : CacheChecked env node.orphanCache) (stored : StoredBlock) :
    CacheChecked env (importRemoteBlock env config occasion node stored).1.orphanCache := by
  cases outcome : importRemoteBlock env config occasion node stored with
  | mk next result =>
      by_cases orphaned : ∃ parentHash, result = .ok (.orphanedNeedsParent parentHash)
      · obtain ⟨parentHash, rfl⟩ := orphaned
        obtain ⟨rfl, consistent⟩ := importRemoteBlock_orphaned outcome
        exact checked.insert occasion.now consistent
      · have same : next.orphanCache = node.orphanCache := by
          unfold importRemoteBlock at outcome
          split at outcome
          all_goals try (obtain ⟨rfl, rfl⟩ := Prod.mk.inj outcome; rfl)
          · obtain ⟨rfl, rfl⟩ := Prod.mk.inj outcome
            exact absurd ⟨_, rfl⟩ orphaned
          · split at outcome
            all_goals obtain ⟨rfl, rfl⟩ := Prod.mk.inj outcome; rfl
        rwa [same]

theorem ReceptionStep.checked {node next : LiveNodeState} (step : ReceptionStep env config node next)
    (checked : CacheChecked env node.orphanCache) : CacheChecked env next.orphanCache := by
  cases step with
  | imported occasion stored => exact importRemoteBlock_checked checked stored
  | drained now occasionOf parentHash =>
      exact drainChildren_invariant (fun node => CacheChecked env node.orphanCache)
        (fun _ _ stored checked => importRemoteBlock_checked checked stored)
        (fun _ hash checked => checked.remove hash) occasionOf _ [] checked

/-! ### What the children of a block can do -/

def Acceptable (env : Env) (config : NodeConfig) (core : NodeCore) (stored : StoredBlock) : Prop :=
  ∃ next, core.appendCanonicalLinkAtTip env config ⟨0, true, false⟩ stored = .ok next

def Harmless (env : Env) (config : NodeConfig) (core : NodeCore) (good other : StoredBlock) : Prop :=
  other.metadata.height ≠ core.chain.height ∧
  (other.metadata.height = core.chain.height + 1 →
    (∀ policy, policyFromState env config core.state = .ok policy →
      checkCommitQuorum env other.block policy ≠ .ok ()) ∧
    (other.metadata.stateRoot ≠ good.block.header.stateRoot ∨
      other.metadata.txRoot ≠ good.block.header.txRoot))

section Children

variable {core next : NodeCore} {node : LiveNodeState} {stored good other : StoredBlock}

theorem acceptable_of_append
    (linked : core.appendCanonicalLinkAtTip env config occasion stored = .ok next) :
    Acceptable env config core stored := by
  obtain ⟨replay, policy, trial, replayed, derived, certified, accepted, _, _⟩ :=
    NodeCore.appendCanonicalLinkAtTip_ok linked
  exact ⟨_, NodeCore.appendCanonicalLinkAtTip_eq replayed derived certified accepted rfl⟩

theorem Acceptable.appends (acceptable : Acceptable env config core stored)
    (persisted : occasion.persisted = true) :
    ∃ (replay : ReplayResult) (policy : Option CommitQuorumPolicy),
      replayBlocksFromState env core.state core.chain.expectedPrevHash [stored]
        config.replayParams = .ok replay ∧
      policyFromState env config core.state = .ok policy ∧
      core.chain.validateStoredBlock env stored = .ok () ∧
      core.appendCanonicalLinkAtTip env config occasion stored = .ok
        (({
          chain := core.chain.linkBlock stored
          blocks := core.blocks.insert stored.metadata.height stored
          state := replay.state
          proposerTip := core.proposerTip.map fun _ => stored.metadata.blockHash } :
            NodeCore).checkpointAt env occasion stored.metadata.height) := by
  obtain ⟨next, linked⟩ := acceptable
  obtain ⟨replay, policy, trial, replayed, derived, certified, accepted, _, _⟩ :=
    NodeCore.appendCanonicalLinkAtTip_ok linked
  have validated := accepted
  simp only [ChainStore.appendStoredBlock, bind_eq_ok, pure_eq_ok] at validated
  obtain ⟨_, valid, rfl⟩ := validated
  exact ⟨replay, policy, replayed, derived, valid,
    NodeCore.appendCanonicalLinkAtTip_eq replayed derived certified accepted persisted⟩

theorem validateStoredBlock_links {chain : ChainStore}
    (valid : chain.validateStoredBlock env stored = .ok ()) :
    stored.Consistent env ∧ stored.metadata.prevHash = stored.block.header.prevHash ∧
      stored.metadata.prevHash = chain.expectedPrevHash ∧
      stored.metadata.height = satAdd64 chain.height 1 ∧
      stored.metadata.stateRoot = stored.block.header.stateRoot ∧
      stored.metadata.txRoot = stored.block.header.txRoot := by
  simp only [ChainStore.validateStoredBlock, bind_eq_ok, require_eq_ok, decide_eq_true_eq,
    exists_const] at valid
  obtain ⟨height, prev, stateRoot, txRoot, _, _, hash, _, _, above, parent⟩ := valid
  exact ⟨⟨height, hash⟩, prev, prev.trans parent, height.trans above, stateRoot, txRoot⟩

theorem NodeCore.classify_sibling {tip : BlockMetadata}
    (classified : core.classify env stored = .ok (.siblingAtTip tip)) :
    stored.metadata.height = core.chain.height ∧ core.chain.tip.map StoredBlock.metadata = some tip := by
  simp only [classify, classifyIncomingBlock, bind_eq_ok, require_eq_ok, decide_eq_true_eq,
    pure_eq_ok, exists_const] at classified
  obtain ⟨_, _, received⟩ := classified
  simp only [receptionClass] at received
  split at received
  · cases received
  · split at received
    · cases received
    · split at received
      · rename_i height
        refine ⟨height, ?_⟩
        split at received
        · rename_i found inMemory
          split at received
          · obtain rfl := BlockReceptionClass.siblingAtTip.inj received
            rw [← inMemory, ChainStore.tip, Option.map_bind]
            rfl
          · cases received
        · cases received
      · split at received
        · split at received
          · split at received <;> cases received
          · cases received
        · cases received

theorem NodeCore.classify_link (classified : core.classify env stored = .ok .linkAtTip) :
    stored.metadata.height = core.chain.height + 1 := by
  simp only [classify, classifyIncomingBlock, bind_eq_ok, require_eq_ok, decide_eq_true_eq,
    pure_eq_ok, exists_const] at classified
  obtain ⟨_, _, received⟩ := classified
  simp only [receptionClass] at received
  split at received
  · cases received
  · split at received
    · cases received
    · split at received
      · split at received
        · split at received <;> cases received
        · cases received
      · split at received
        · assumption
        · cases received

theorem NodeCore.appendCanonicalLinkAtTip_panicked
    (panicked : core.appendCanonicalLinkAtTip env config occasion stored = .error .panicked)
    (policy : Option CommitQuorumPolicy) : policyFromState env config core.state ≠ .ok policy := by
  intro derived
  unfold appendCanonicalLinkAtTip at panicked
  rw [derived] at panicked
  cases replayed : replayBlocksFromState env core.state core.chain.expectedPrevHash [stored]
    config.replayParams with
  | error error => simp [replayed, Except.mapError, bind, Except.bind] at panicked
  | ok replay =>
      cases appended : appendToDisk env core.chain stored policy occasion.persisted with
      | error error => simp [replayed, appended, Except.mapError, bind, Except.bind] at panicked
      | ok chain =>
          simp [replayed, appended, Except.mapError, bind, Except.bind, pure, Except.pure] at panicked

def Rejected (env : Env) (config : NodeConfig) (core : NodeCore) (stored : StoredBlock) : Prop :=
  stored.metadata.height ≠ core.chain.height ∧
    (stored.metadata.height = core.chain.height + 1 → ¬ Acceptable env config core stored)

theorem Harmless.rejected (harmless : Harmless env config core good other) :
    Rejected env config core other := by
  refine ⟨harmless.1, fun height acceptable => ?_⟩
  obtain ⟨_, linked⟩ := acceptable
  obtain ⟨_, policy, _, _, derived, certified, _⟩ := NodeCore.appendCanonicalLinkAtTip_ok linked
  exact (harmless.2 height).1 policy derived certified

theorem import_rejected (rejected : Rejected env config node.core other) :
    (importRemoteBlock env config occasion node other).1.core = node.core ∧
      ∀ policy, policyFromState env config node.core.state = .ok policy →
        (importRemoteBlock env config occasion node other).2 ≠ .error .panicked := by
  unfold importRemoteBlock
  split
  · exact ⟨rfl, fun _ _ => by simp⟩
  · exact ⟨rfl, fun _ _ => by simp⟩
  · exact ⟨rfl, fun _ _ => by simp⟩
  · rename_i classified
    exact absurd (NodeCore.classify_sibling classified).1 rejected.1
  · exact ⟨rfl, fun _ _ => by simp⟩
  · rename_i classified
    split
    · rename_i failed
      refine ⟨rfl, fun policy derived panicked => ?_⟩
      rw [Except.error.inj panicked] at failed
      exact NodeCore.appendCanonicalLinkAtTip_panicked failed policy derived
    · rename_i linked
      exact absurd (acceptable_of_append linked) (rejected.2 (NodeCore.classify_link classified))

def LeavesChain (chain : ChainStore) (stored : StoredBlock) : Prop :=
  stored.metadata.prevHash ≠ chain.expectedPrevHash ∧
    (stored.metadata.height = chain.height → ∀ tip, chain.tip = some tip →
      stored.metadata.stateRoot ≠ tip.metadata.stateRoot ∨
        stored.metadata.txRoot ≠ tip.metadata.txRoot)

theorem import_leavesChain (leaves : LeavesChain node.core.chain other) :
    (importRemoteBlock env config occasion node other).1.core.chain = node.core.chain ∧
      (importRemoteBlock env config occasion node other).1.core.blocks = node.core.blocks := by
  unfold importRemoteBlock
  split
  · exact ⟨rfl, rfl⟩
  · exact ⟨rfl, rfl⟩
  · exact ⟨rfl, rfl⟩
  · rename_i classified
    obtain ⟨height, top⟩ := NodeCore.classify_sibling classified
    obtain ⟨tip, inMemory, rfl⟩ := Option.map_eq_some_iff.mp top
    have divergent : NodeCore.stateEquivalent other tip.metadata = false := by
      rcases leaves.2 height tip inMemory with root | root <;> simp [NodeCore.stateEquivalent, root]
    unfold NodeCore.resolveSiblingAtTip
    split
    · exact ⟨rfl, rfl⟩
    · obtain ⟨state, reported⟩ := @NodeCore.reportDivergence_eq env config node.core other
      simp [divergent, reported]
  · exact ⟨rfl, rfl⟩
  · split
    · exact ⟨rfl, rfl⟩
    · rename_i linked
      obtain ⟨_, _, _, _, valid, _⟩ :=
        (acceptable_of_append linked).appends (show (⟨0, true, false⟩ : Occasion).persisted = true from rfl)
      exact absurd (validateStoredBlock_links valid).2.2.1 leaves.1

end Children

/-! ### The loop -/

section Loop

variable {occasionOf : BlockHash → Occasion} {node : LiveNodeState}

theorem drain_rejected (children : List StoredBlock) {node : LiveNodeState}
    (needsFetch : List BlockHash)
    (rejected : ∀ child ∈ children, Rejected env config node.core child) :
    (drainChildren env config occasionOf children node needsFetch).1.core = node.core := by
  induction children generalizing node needsFetch with
  | nil => rfl
  | cons child rest ih =>
      have kept := (@import_rejected env config (occasionOf child.metadata.blockHash)
        { node with orphanCache := (node.orphanCache.remove child.metadata.blockHash).1 } child
        (rejected child List.mem_cons_self)).1
      simp only [drainChildren]
      split <;> rename_i step <;> rw [step] at kept
      · exact kept
      all_goals
        rw [ih _ fun later member => ?_]
        · exact kept
        · rw [kept]
          exact rejected later (List.mem_cons_of_mem _ member)

theorem drain_past_rejected {policy : Option CommitQuorumPolicy} (front rest : List StoredBlock)
    {node : LiveNodeState} (needsFetch : List BlockHash)
    (derived : policyFromState env config node.core.state = .ok policy)
    (rejected : ∀ child ∈ front, Rejected env config node.core child) :
    ∃ (next : LiveNodeState) (fetch : List BlockHash), next.core = node.core ∧
      drainChildren env config occasionOf (front ++ rest) node needsFetch =
        drainChildren env config occasionOf rest next fetch := by
  induction front generalizing node needsFetch with
  | nil => exact ⟨node, needsFetch, rfl, rfl⟩
  | cons child front ih =>
      obtain ⟨kept, calm⟩ := @import_rejected env config (occasionOf child.metadata.blockHash)
        { node with orphanCache := (node.orphanCache.remove child.metadata.blockHash).1 } child
        (rejected child List.mem_cons_self)
      have calm := calm policy derived
      simp only [List.cons_append, drainChildren]
      split <;> rename_i step <;> rw [step] at kept calm
      · exact absurd rfl calm
      all_goals
        obtain ⟨next, fetch, same, drained⟩ := ih _ (by rw [kept]; exact derived)
          fun later member => by rw [kept]; exact rejected later (List.mem_cons_of_mem _ member)
        exact ⟨next, fetch, same.trans kept, drained⟩

theorem drain_leavesChain (children : List StoredBlock) {node : LiveNodeState}
    (needsFetch : List BlockHash)
    (leaves : ∀ child ∈ children, LeavesChain node.core.chain child) :
    (drainChildren env config occasionOf children node needsFetch).1.core.chain = node.core.chain ∧
      (drainChildren env config occasionOf children node needsFetch).1.core.blocks =
        node.core.blocks := by
  induction children generalizing node needsFetch with
  | nil => exact ⟨rfl, rfl⟩
  | cons child rest ih =>
      obtain ⟨chain, blocks⟩ := @import_leavesChain env config (occasionOf child.metadata.blockHash)
        { node with orphanCache := (node.orphanCache.remove child.metadata.blockHash).1 } child
        (leaves child List.mem_cons_self)
      simp only [drainChildren]
      split <;> rename_i step <;> rw [step] at chain blocks
      · exact ⟨chain, blocks⟩
      all_goals
        obtain ⟨laterChain, laterBlocks⟩ := ih _ fun later member => by
          rw [chain]
          exact leaves later (List.mem_cons_of_mem _ member)
        exact ⟨laterChain.trans chain, laterBlocks.trans blocks⟩

end Loop

/-! ### The block first seen under a hash -/

section First

variable {node : LiveNodeState} {parentHash : BlockHash} {good first : StoredBlock} {now : Nat}
  {occasionOf : BlockHash → Occasion}

structure Awaits (env : Env) (config : NodeConfig) (now : Nat) (node : LiveNodeState)
    (parentHash : BlockHash) (good first : StoredBlock) : Prop where
  known : node.core.chain.TipKnown
  checked : CacheChecked env node.orphanCache
  tip : node.core.chain.tipHash = some parentHash
  headroom : node.core.chain.height < u64Max
  valid : Acceptable env config node.core good
  different : good.metadata.blockHash ≠ parentHash
  held : ∃ entry : Cached, node.orphanCache.entries[good.metadata.blockHash]? = some entry ∧
    entry.stored = first ∧ node.orphanCache.expired now entry = false
  binds : computeBlockHash env first.block = computeBlockHash env good.block →
    first.block.header = good.block.header
  others : ∀ (hash : BlockHash) (entry : Cached), node.orphanCache.entries[hash]? = some entry →
    hash ≠ good.metadata.blockHash → entry.stored.metadata.prevHash = parentHash →
    Harmless env config node.core good entry.stored

namespace Awaits

theorem parent_eq (awaits : Awaits env config now node parentHash good first) :
    node.core.chain.expectedPrevHash = parentHash := by
  rw [ChainStore.expectedPrevHash, awaits.tip, Option.getD_some]

theorem good_links (awaits : Awaits env config now node parentHash good first) :
    good.Consistent env ∧ good.metadata.height = node.core.chain.height + 1 ∧
      good.metadata.prevHash = parentHash := by
  obtain ⟨_, _, _, _, valid, _⟩ := awaits.valid.appends
    (show (⟨0, true, false⟩ : Occasion).persisted = true from rfl)
  obtain ⟨consistent, _, parent, height, _⟩ := validateStoredBlock_links valid
  refine ⟨consistent, ?_, parent.trans awaits.parent_eq⟩
  have := awaits.headroom
  rw [height, satAdd64]
  omega

theorem first_header (awaits : Awaits env config now node parentHash good first) :
    first.Consistent env ∧ first.metadata.blockHash = good.metadata.blockHash ∧
      first.block.header = good.block.header ∧
      first.metadata.height = node.core.chain.height + 1 := by
  obtain ⟨entry, found, rfl, _⟩ := awaits.held
  have consistent := awaits.checked.2 _ entry found
  have hash := awaits.checked.1.keyed _ entry found
  obtain ⟨good, height, _⟩ := awaits.good_links
  have header := awaits.binds (by rw [← consistent.hash, hash, good.hash])
  refine ⟨consistent, hash, header, ?_⟩
  rw [consistent.height, header, ← good.height, height]

theorem child_cases (awaits : Awaits env config now node parentHash good first)
    {child : StoredBlock} (member : child ∈ node.orphanCache.childrenOf now parentHash) :
    child = first ∨ child.metadata.blockHash ≠ good.metadata.blockHash ∧
      child.metadata.prevHash = parentHash ∧ Harmless env config node.core good child := by
  obtain ⟨entry, found, rfl, under, _⟩ :=
    (BlockTreeCache.mem_childrenOf awaits.checked.1).mp member
  by_cases same : entry.stored.metadata.blockHash = good.metadata.blockHash
  · obtain ⟨held, there, stored, _⟩ := awaits.held
    rw [same, there] at found
    rw [← Option.some.inj found]
    exact .inl stored
  · exact .inr ⟨same, under, awaits.others _ entry found same under⟩

theorem drain_unacceptable (awaits : Awaits env config now node parentHash good first)
    (junk : ¬ Acceptable env config node.core first) :
    (drainOrphanChildren env config now occasionOf node parentHash).1.core = node.core := by
  refine drain_rejected _ [] fun child member => ?_
  rcases awaits.child_cases member with rfl | ⟨_, _, harmless⟩
  · have height := awaits.first_header.2.2.2
    exact ⟨by omega, fun _ => junk⟩
  · exact harmless.rejected

theorem leaves_appended (awaits : Awaits env config now node parentHash good first)
    (valid : node.core.chain.validateStoredBlock env first = .ok ()) {core : NodeCore}
    (linked : core.chain = node.core.chain.linkBlock first) (occasion : Occasion) (height : Nat)
    {child : StoredBlock} (foreign : child.metadata.blockHash ≠ good.metadata.blockHash ∧
      child.metadata.prevHash = parentHash ∧ Harmless env config node.core good child) :
    LeavesChain (core.checkpointAt env occasion height).chain child := by
  obtain ⟨_, hash, header, above⟩ := awaits.first_header
  obtain ⟨_, _, _, _, stateRoot, txRoot⟩ := validateStoredBlock_links valid
  have appended : (node.core.chain.linkBlock first).TipKnown :=
    awaits.known.appendStoredBlock (appendStoredBlock_of_valid valid)
  have parent : (core.checkpointAt env occasion height).chain.expectedPrevHash =
      good.metadata.blockHash := by
    rw [ChainStore.expectedPrevHash, NodeCore.tipHash_checkpointAt, linked, ← hash]
    rfl
  refine ⟨?_, ?_⟩
  · rw [parent, foreign.2.1]
    exact awaits.different.symm
  · intro level tip inMemory
    rcases @NodeCore.checkpointAt_eq env occasion core height with same | compacted
    · rw [same, linked] at level inMemory
      rw [ChainStore.tip_linkBlock] at inMemory
      obtain rfl := Option.some.inj inMemory
      rw [ChainStore.height_linkBlock, above] at level
      rw [stateRoot, txRoot, header]
      exact (foreign.2.2.2 level).2
    · rw [compacted, linked, (appended.checkpoint _).2] at inMemory
      cases inMemory

theorem drain_acceptable (awaits : Awaits env config now node parentHash good first)
    (acceptable : Acceptable env config node.core first)
    (persisted : (occasionOf good.metadata.blockHash).persisted = true) :
    let after := (drainOrphanChildren env config now occasionOf node parentHash).1.core
    after.chain.tipHash = some good.metadata.blockHash ∧
      after.blocks[good.metadata.height]? = some first := by
  obtain ⟨consistent, hash, header, above⟩ := awaits.first_header
  obtain ⟨replay, policy, _, derived, valid, appended⟩ := acceptable.appends persisted
  obtain ⟨_, _, parent, _⟩ := validateStoredBlock_links valid
  have member : first ∈ node.orphanCache.childrenOf now parentHash := by
    obtain ⟨entry, found, stored, fresh⟩ := awaits.held
    exact (BlockTreeCache.mem_childrenOf awaits.checked.1).mpr
      ⟨entry, by rw [hash]; exact found, stored, parent.trans awaits.parent_eq, fresh⟩
  obtain ⟨front, rest, split⟩ := List.append_of_mem member
  have nodup := BlockTreeCache.childrenOf_nodup awaits.checked.1 now parentHash
  rw [split, List.map_append, List.map_cons, List.nodup_middle, List.nodup_cons,
    ← List.map_append] at nodup
  -- the other children have another hash
  have foreign : ∀ child ∈ front ++ rest,
      child.metadata.blockHash ≠ good.metadata.blockHash ∧
        child.metadata.prevHash = parentHash ∧ Harmless env config node.core good child := by
    intro child listed
    have inside : child ∈ node.orphanCache.childrenOf now parentHash := by
      rw [split]
      rcases List.mem_append.mp listed with early | late
      · exact List.mem_append_left _ early
      · exact List.mem_append_right _ (List.mem_cons_of_mem _ late)
    rcases awaits.child_cases inside with rfl | cases
    · exact absurd (List.mem_map_of_mem listed) nodup.1
    · exact cases
  obtain ⟨next, fetch, same, drained⟩ := @drain_past_rejected env config occasionOf policy front
    (first :: rest) node [] derived fun child listed =>
      (foreign child (List.mem_append_left _ listed)).2.2.rejected
  simp only [drainOrphanChildren, split, drained, drainChildren]
  have imported := @importRemoteBlock_link env config (occasionOf first.metadata.blockHash)
    { next with orphanCache := (next.orphanCache.remove first.metadata.blockHash).1 } first _
    (by rw [same]; exact NodeCore.classify_child awaits.known consistent above parent)
    (by rw [same, hash]; exact appended)
  rw [imported]
  let linked : NodeCore := {
    chain := node.core.chain.linkBlock first
    blocks := node.core.blocks.insert first.metadata.height first
    state := replay.state
    proposerTip := node.core.proposerTip.map fun _ => first.metadata.blockHash }
  obtain ⟨chain, blocks⟩ := @drain_leavesChain env config occasionOf rest
    { core := linked.checkpointAt env (occasionOf good.metadata.blockHash) first.metadata.height
      orphanCache := (next.orphanCache.remove first.metadata.blockHash).1 } fetch
    fun child listed => awaits.leaves_appended valid (show linked.chain = _ from rfl) _ _
      (foreign child (List.mem_append_right _ listed))
  rw [chain, blocks, NodeCore.tipHash_checkpointAt, NodeCore.blocks_checkpointAt]
  refine ⟨congrArg some hash, ?_⟩
  rw [awaits.good_links.2.1, ← above]
  exact Std.ExtTreeMap.getElem?_insert_self

end Awaits

end First

/-! ### Runs -/

inductive Buffered (env : Env) (config : NodeConfig) :
    LiveNodeState → List (Occasion × StoredBlock) → LiveNodeState → Prop
  | nil (node : LiveNodeState) : Buffered env config node [] node
  | cons {node next last : LiveNodeState} {occasion : Occasion} {stored : StoredBlock}
      {parentHash : BlockHash} {rest : List (Occasion × StoredBlock)} :
      importRemoteBlock env config occasion node stored =
        (next, .ok (.orphanedNeedsParent parentHash)) →
      node.orphanCache.HasRoomFor stored → Buffered env config next rest last →
      Buffered env config node ((occasion, stored) :: rest) last

theorem Buffered.run {node last : LiveNodeState} {deliveries : List (Occasion × StoredBlock)}
    (buffered : Buffered env config node deliveries last) :
    ReflTransGen (ReceptionStep env config) node last := by
  induction buffered with
  | nil => exact .refl
  | @cons node next last occasion stored _ _ outcome _ _ ih =>
      have step := @ReceptionStep.imported env config node occasion stored
      rw [outcome] at step
      exact .head step ih

theorem Buffered.held {node last : LiveNodeState} {deliveries : List (Occasion × StoredBlock)}
    (buffered : Buffered env config node deliveries last) {hash : BlockHash} {first : StoredBlock}
    (held : node.orphanCache.held hash = some first) : last.orphanCache.held hash = some first := by
  induction buffered with
  | nil => exact held
  | cons outcome room _ ih =>
      obtain ⟨rfl, _⟩ := importRemoteBlock_orphaned outcome
      refine ih ?_
      rw [BlockTreeCache.held_insert _ room, held]
      split <;> rfl

theorem Buffered.held_delivered {node last : LiveNodeState} {occasion : Occasion}
    {good : StoredBlock} {after : List (Occasion × StoredBlock)}
    (buffered : Buffered env config node ((occasion, good) :: after) last) :
    last.orphanCache.held good.metadata.blockHash =
      some ((node.orphanCache.held good.metadata.blockHash).getD good) := by
  cases buffered with
  | cons outcome room rest =>
      obtain ⟨rfl, _⟩ := importRemoteBlock_orphaned outcome
      refine rest.held ?_
      rw [BlockTreeCache.held_insert _ room, if_pos rfl]

section Sample

def strippedBlock : StoredBlock := withCommits (quietBlock 1) []

theorem strippedBlock_consistent : strippedBlock.Consistent sampleEnv :=
  ⟨(quietBlock_consistent 1).height, (quietBlock_consistent 1).hash⟩

theorem strippedBlock_unacceptable :
    ¬ Acceptable sampleEnv snapshotConfig (quietCore 1) strippedBlock := by
  rintro ⟨_, linked⟩
  obtain ⟨_, policy, _, _, derived, certified, _⟩ := NodeCore.appendCanonicalLinkAtTip_ok linked
  rw [quietCore_policy (by decide)] at derived
  rw [← Except.ok.inj derived] at certified
  cases certified

theorem quietBlock_ahead {first : StoredBlock}
    (variant : first = quietBlock 1 ∨ first = strippedBlock) :
    first.Consistent sampleEnv ∧ 1 < first.metadata.height ∧
      first.metadata.blockHash = (quietBlock 1).metadata.blockHash := by
  have height := quietBlock_height (show 1 < 3 by decide)
  rcases variant with rfl | rfl
  · exact ⟨quietBlock_consistent 1, by omega, rfl⟩
  · exact ⟨strippedBlock_consistent, height.symm ▸ (by decide), rfl⟩

theorem quietBlocks_apart :
    (quietBlock 1).metadata.blockHash ≠ (quietBlock 0).metadata.blockHash := by decide +kernel

theorem quietCore_awaits {cache : BlockTreeCache} {first : StoredBlock}
    (variant : first = quietBlock 1 ∨ first = strippedBlock) (checked : CacheChecked sampleEnv cache)
    (held : ∀ hash, cache.held hash =
      if hash = (quietBlock 1).metadata.blockHash then some first else none) :
    Awaits sampleEnv snapshotConfig 0 ⟨quietCore 1, cache⟩ (quietBlock 0).metadata.blockHash
      (quietBlock 1) first where
  known := quietCore_tipKnown (by decide)
  checked
  tip := rfl
  headroom := by
    rw [quietCore_height (by decide)]
    decide
  valid := ⟨_, quietCore_appends (by decide) rfl⟩
  different := quietBlocks_apart
  held := by
    have present := held (quietBlock 1).metadata.blockHash
    rw [if_pos rfl] at present
    obtain ⟨entry, found, stored⟩ := Option.map_eq_some_iff.mp present
    exact ⟨entry, found, stored, by simp [BlockTreeCache.expired]⟩
  binds := by
    rcases variant with rfl | rfl
    · exact fun _ => rfl
    · exact fun _ => rfl
  others := by
    intro hash entry found different
    have absent := held hash
    rw [if_neg different, BlockTreeCache.held, found] at absent
    cases absent

theorem firstDelivered {first : StoredBlock}
    (variant : first = quietBlock 1 ∨ first = strippedBlock) :
    ∃ cache : BlockTreeCache,
      Buffered sampleEnv snapshotConfig ⟨quietCore 0, .new 4 60⟩ [(⟨0, true, false⟩, first)]
        ⟨quietCore 0, cache⟩ ∧
      cache.entries.size < cache.capacity ∧ CacheChecked sampleEnv cache ∧
      ∀ hash, cache.held hash =
        if hash = (quietBlock 1).metadata.blockHash then some first else none := by
  obtain ⟨consistent, ahead, hash⟩ := quietBlock_ahead variant
  have room : (BlockTreeCache.new 4 60).HasRoomFor first := .inr (by simp [BlockTreeCache.new])
  have empty : CacheChecked sampleEnv (.new 4 60) :=
    ⟨BlockTreeCache.new_indexed 4 60, by simp [BlockTreeCache.new]⟩
  refine ⟨(BlockTreeCache.new 4 60).insert 0 first,
    .cons (quietCore_buffers consistent ahead _ ⟨0, true, false⟩) room (.nil _), ?_,
    empty.insert 0 consistent, ?_⟩
  · rcases variant with rfl | rfl <;> decide +kernel
  · intro other
    rw [BlockTreeCache.held_insert 0 room, hash]
    simp [BlockTreeCache.held, BlockTreeCache.new]

end Sample

end ViperChain
