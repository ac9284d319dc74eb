import ViperChain.Library.Runs
import ViperChain.Assumptions
import ViperChain.Engine.Chain

/-!
What the in-memory chain is: the blocks above the base height, each under its own hash
and named by its height, linked from the anchor to the tip.
-/

namespace ViperChain

open Fallible Relation

variable {env : Env} {blocks : Set Block}

def BlockHashInjective (env : Env) (blocks : Set Block) : Prop :=
  ∀ left ∈ blocks, ∀ right ∈ blocks, computeBlockHash env left = computeBlockHash env right →
    left.header = right.header ∧ left.txHashes = right.txHashes

structure StoredBlock.Genuine (env : Env) (blocks : Set Block) (hash : BlockHash)
    (stored : StoredBlock) : Prop where
  offered : stored.block ∈ blocks
  hashed : computeBlockHash env stored.block = hash
  height : stored.metadata.height = stored.block.header.height
  prevHash : stored.metadata.prevHash = stored.block.header.prevHash

theorem getElem?_foldl_erase {K V I : Type} [LinearOrder K] (key : I → K) (items : List I)
    (map : Std.ExtTreeMap K V) (other : K) :
    (items.foldl (fun map item => map.erase (key item)) map)[other]? =
      if ∃ item ∈ items, key item = other then none else map[other]? := by
  induction items generalizing map with
  | nil => simp
  | cons item items ih =>
      rw [List.foldl_cons, ih, Std.ExtTreeMap.getElem?_erase]
      by_cases later : ∃ item ∈ items, key item = other
      · rw [if_pos later, if_pos]
        obtain ⟨found, member, same⟩ := later
        exact ⟨found, List.mem_cons_of_mem _ member, same⟩
      · rw [if_neg later]
        simp only [compare_eq_iff_eq, List.exists_mem_cons_iff, later, or_false]

namespace ChainStore

/-- The hash of the canonical block at a height. The anchor is the one at the base height. -/
def hashAt (chain : ChainStore) (height : Nat) : Option BlockHash :=
  if height = chain.baseHeight then some chain.anchorPrevHash else chain.byHeight[height]?

structure Linked (env : Env) (blocks : Set Block) (chain : ChainStore) : Prop where
  based : chain.baseHeight < u64Max
  bounded : chain.baseHeight ≤ chain.height ∧ chain.height ≤ u64Max
  heights : ∀ height, (∃ hash, chain.byHeight[height]? = some hash) ↔
    chain.baseHeight < height ∧ height ≤ chain.height
  indexed : ∀ height hash, chain.byHeight[height]? = some hash →
    ∃ stored : StoredBlock, chain.byHash[hash]? = some stored ∧ stored.metadata.height = height
  placed : ∀ (hash : BlockHash) (stored : StoredBlock), chain.byHash[hash]? = some stored →
    chain.byHeight[stored.metadata.height]? = some hash
  genuine : ∀ (hash : BlockHash) (stored : StoredBlock), chain.byHash[hash]? = some stored → stored.Genuine env blocks hash
  parents : ∀ (hash : BlockHash) (stored : StoredBlock), chain.byHash[hash]? = some stored →
    chain.hashAt (stored.metadata.height - 1) = some stored.metadata.prevHash
  tipped : chain.hashAt chain.height = some chain.expectedPrevHash

variable {chain next : ChainStore}

theorem newWithBase_linked (anchor : BlockHash) (base : Nat) (below : base < u64Max) :
    (newWithBase anchor base).Linked env blocks where
  based := below
  bounded := ⟨Nat.le_refl _, Nat.le_of_lt below⟩
  heights := by
    intro height
    simp only [newWithBase, ChainStore.height, tip, Option.bind_none, Option.map_none,
      Option.getD_none, Std.ExtTreeMap.getElem?_empty, reduceCtorEq, exists_const, false_iff]
    omega
  indexed := by simp [newWithBase]
  placed := by simp [newWithBase]
  genuine := by simp [newWithBase]
  parents := by simp [newWithBase]
  tipped := by simp [newWithBase, ChainStore.height, tip, hashAt, expectedPrevHash]

theorem Linked.in_range (linked : chain.Linked env blocks) {hash : BlockHash} {stored : StoredBlock}
    (found : chain.byHash[hash]? = some stored) :
    chain.baseHeight < stored.metadata.height ∧ stored.metadata.height ≤ chain.height :=
  (linked.heights _).mp ⟨hash, linked.placed hash stored found⟩

theorem Linked.byHeight_base (linked : chain.Linked env blocks) :
    chain.byHeight[chain.baseHeight]? = none := by
  rw [Option.eq_none_iff_forall_ne_some]
  intro hash found
  have range := (linked.heights chain.baseHeight).mp ⟨hash, found⟩
  omega

theorem height_of_tip {hash : BlockHash} {stored : StoredBlock} (tipHash : chain.tipHash = some hash)
    (found : chain.byHash[hash]? = some stored) : chain.height = stored.metadata.height := by
  simp [height, tip, tipHash, found]

theorem height_of_tipless (tipless : chain.tip = none) : chain.height = chain.baseHeight := by
  simp [height, tipless]

section Append

@[simp] theorem height_linkBlock (stored : StoredBlock) :
    (chain.linkBlock stored).height = stored.metadata.height := by
  simp [height, tip, linkBlock]

theorem hashAt_linkBlock {stored : StoredBlock} {height : Nat}
    (different : stored.metadata.height ≠ height) :
    (chain.linkBlock stored).hashAt height = chain.hashAt height := by
  simp [hashAt, linkBlock, Std.ExtTreeMap.getElem?_insert, different]

structure Extends (env : Env) (blocks : Set Block) (chain : ChainStore) (stored : StoredBlock) :
    Prop where
  genuine : stored.Genuine env blocks stored.metadata.blockHash
  fresh : chain.byHash[stored.metadata.blockHash]? = none
  height : stored.metadata.height = chain.height + 1
  fits : stored.metadata.height ≤ u64Max
  parent : stored.metadata.prevHash = chain.expectedPrevHash

theorem Linked.linkBlock {stored : StoredBlock} (linked : chain.Linked env blocks)
    (extension : chain.Extends env blocks stored) : (chain.linkBlock stored).Linked env blocks := by
  have top := extension.height
  have above := linked.bounded.1
  have byHash (hash : BlockHash) : (chain.linkBlock stored).byHash[hash]? =
      if stored.metadata.blockHash = hash then some stored else chain.byHash[hash]? := by
    simp [ChainStore.linkBlock, Std.ExtTreeMap.getElem?_insert]
  have byHeight (height : Nat) : (chain.linkBlock stored).byHeight[height]? =
      if stored.metadata.height = height then some stored.metadata.blockHash
      else chain.byHeight[height]? := by
    simp [ChainStore.linkBlock, Std.ExtTreeMap.getElem?_insert]
  constructor
  case based => exact linked.based
  case bounded =>
    rw [height_linkBlock]
    exact ⟨Nat.le_trans above (by omega), extension.fits⟩
  case heights =>
    intro height
    rw [byHeight, height_linkBlock]
    have before := linked.heights height
    simp only [ChainStore.linkBlock]
    split
    case isTrue same => simp; omega
    case isFalse different => rw [before]; omega
  case indexed =>
    intro height hash found
    rw [byHeight] at found
    rw [byHash]
    split at found
    case isTrue same =>
      cases found
      exact ⟨stored, if_pos rfl, same⟩
    case isFalse =>
      obtain ⟨old, present, oldHeight⟩ := linked.indexed height hash found
      have different : stored.metadata.blockHash ≠ hash := by
        rintro rfl
        rw [extension.fresh] at present
        cases present
      exact ⟨old, (if_neg different).trans present, oldHeight⟩
  case placed =>
    intro hash old found
    rw [byHash] at found
    rw [byHeight]
    split at found
    case isTrue same =>
      cases found
      exact (if_pos rfl).trans (congrArg some same)
    case isFalse =>
      have range := linked.in_range found
      rw [if_neg (by omega)]
      exact linked.placed hash old found
  case genuine =>
    intro hash old found
    rw [byHash] at found
    split at found
    case isTrue same =>
      cases found
      exact same ▸ extension.genuine
    case isFalse => exact linked.genuine hash old found
  case parents =>
    intro hash old found
    rw [byHash] at found
    split at found
    case isTrue same =>
      cases found
      rw [hashAt_linkBlock (by omega), top, Nat.add_sub_cancel, linked.tipped, extension.parent]
    case isFalse =>
      have range := linked.in_range found
      rw [hashAt_linkBlock (by omega)]
      exact linked.parents hash old found
  case tipped =>
    have off : stored.metadata.height ≠ chain.baseHeight := by omega
    rw [height_linkBlock]
    simp [hashAt, ChainStore.linkBlock, expectedPrevHash, off]

theorem Linked.next_height (linked : chain.Linked env blocks) {height : Nat}
    (unused : chain.byHeight.contains height = false) (expected : height = satAdd64 chain.height 1) :
    height = chain.height + 1 ∧ height ≤ u64Max := by
  have above := linked.based
  have bounded := linked.bounded
  by_cases full : chain.height = u64Max
  · -- at the last height the expected one saturates and is taken
    have taken := (linked.heights chain.height).mpr ⟨by omega, Nat.le_refl _⟩
    have same : height = chain.height := by
      unfold satAdd64 at expected
      omega
    rw [← Option.isSome_iff_exists, ← same] at taken
    simp only [Std.ExtTreeMap.contains_eq_isSome_getElem?, taken, Bool.true_eq_false] at unused
  · unfold satAdd64 at expected
    omega

theorem Linked.extension (linked : chain.Linked env blocks) {stored : StoredBlock}
    (offered : stored.block ∈ blocks) (valid : chain.validateStoredBlock env stored = .ok ()) :
    chain.Extends env blocks stored := by
  simp only [validateStoredBlock, bind_eq_ok, require_eq_ok, decide_eq_true_eq] at valid
  obtain ⟨_, height, _, prevHash, _, _, _, _, _, _, _, _, _, hashed, _, fresh, _, unused, _, expected, parent⟩ :=
    valid
  have top := linked.next_height (by simpa using unused) expected
  rw [← height] at top
  have absent : chain.byHash[stored.metadata.blockHash]? = none := by
    rw [hashed]
    exact Std.ExtTreeMap.getElem?_eq_none_of_contains_eq_false (by simpa using fresh)
  exact ⟨⟨offered, hashed.symm, height, prevHash⟩, absent, top.1, top.2, prevHash.trans parent⟩

theorem Linked.appendStoredBlock (linked : chain.Linked env blocks) {stored : StoredBlock}
    (offered : stored.block ∈ blocks) (accepted : chain.appendStoredBlock env stored = .ok next) :
    next.Linked env blocks := by
  simp only [ChainStore.appendStoredBlock, bind_eq_ok, pure_eq_ok] at accepted
  obtain ⟨_, valid, rfl⟩ := accepted
  exact linked.linkBlock (linked.extension offered valid)

end Append

section Replace

def withoutTip (chain : ChainStore) (hash : BlockHash) (tip : StoredBlock) : ChainStore :=
  { chain with
    byHeight := chain.byHeight.erase tip.metadata.height
    byHash := chain.byHash.erase hash
    tipHash := chain.byHeight[tip.metadata.height - 1]? }

variable {hash : BlockHash} {tip : StoredBlock}

theorem Linked.expectedPrevHash_withoutTip (linked : chain.Linked env blocks)
    (present : chain.byHash[hash]? = some tip) :
    (chain.withoutTip hash tip).expectedPrevHash = tip.metadata.prevHash := by
  have parent := linked.parents hash tip present
  simp only [withoutTip, expectedPrevHash]
  unfold hashAt at parent
  split at parent
  case isTrue first =>
    rw [first, linked.byHeight_base]
    exact Option.some_inj.mp parent
  case isFalse => rw [parent, Option.getD_some]

theorem below_tip (present : chain.byHash[hash]? = some tip)
    {below : StoredBlock} {other : BlockHash} (lower : below.metadata.height ≠ tip.metadata.height)
    (found : chain.byHash[other]? = some below) :
    (chain.withoutTip hash tip).byHash[other]? = some below := by
  have different : hash ≠ other := by
    rintro rfl
    rw [present, Option.some_inj] at found
    exact lower (congrArg (fun stored => stored.metadata.height) found.symm)
  simp [withoutTip, Std.ExtTreeMap.getElem?_erase, different, found]

theorem Linked.height_withoutTip (linked : chain.Linked env blocks)
    (present : chain.byHash[hash]? = some tip) (top : tip.metadata.height = chain.height) :
    (chain.withoutTip hash tip).height = chain.height - 1 := by
  have range := linked.in_range present
  by_cases first : chain.height - 1 = chain.baseHeight
  · have tipless : (chain.withoutTip hash tip).tip = none := by
      simp only [ChainStore.tip, withoutTip, top, first, linked.byHeight_base, Option.bind_none]
    rw [height_of_tipless tipless, first]
    rfl
  · obtain ⟨below, found⟩ := (linked.heights (chain.height - 1)).mpr ⟨by omega, by omega⟩
    obtain ⟨stored, presentBelow, heightBelow⟩ := linked.indexed _ below found
    have kept := below_tip present (by omega) presentBelow
    have tipHash : (chain.withoutTip hash tip).tipHash = some below := by
      simp only [withoutTip, top, found]
    rw [height_of_tip tipHash kept, heightBelow]

theorem Linked.withoutTip (linked : chain.Linked env blocks)
    (present : chain.byHash[hash]? = some tip) (top : tip.metadata.height = chain.height) :
    (chain.withoutTip hash tip).Linked env blocks := by
  have range := linked.in_range present
  have bounded := linked.bounded
  have height := linked.height_withoutTip present top
  have still {other : BlockHash} {stored : StoredBlock}
      (found : (chain.withoutTip hash tip).byHash[other]? = some stored) :
      chain.byHash[other]? = some stored ∧ stored.metadata.height ≠ tip.metadata.height := by
    simp only [ChainStore.withoutTip, Std.ExtTreeMap.getElem?_erase, compare_eq_iff_eq] at found
    split at found
    case isTrue => cases found
    case isFalse different =>
      refine ⟨found, fun same => different ?_⟩
      have placed := linked.placed other stored found
      rwa [same, linked.placed hash tip present, Option.some_inj] at placed
  have byHeight (height : Nat) : (chain.withoutTip hash tip).byHeight[height]? =
      if tip.metadata.height = height then none else chain.byHeight[height]? := by
    simp [ChainStore.withoutTip, Std.ExtTreeMap.getElem?_erase]
  have hashAt {height : Nat} (lower : height ≠ tip.metadata.height) :
      (chain.withoutTip hash tip).hashAt height = chain.hashAt height := by
    unfold ChainStore.hashAt
    rw [byHeight, if_neg lower.symm]
    rfl
  constructor
  case based => exact linked.based
  case bounded =>
    rw [height]
    exact ⟨show chain.baseHeight ≤ chain.height - 1 by omega, by omega⟩
  case heights =>
    intro other
    rw [byHeight, height]
    have before := linked.heights other
    have base : (chain.withoutTip hash tip).baseHeight = chain.baseHeight := rfl
    split
    case isTrue same => simp; omega
    case isFalse => rw [before]; omega
  case indexed =>
    intro other below found
    rw [byHeight] at found
    split at found
    case isTrue => cases found
    case isFalse different =>
      obtain ⟨stored, presentBelow, heightBelow⟩ := linked.indexed other below found
      exact ⟨stored, below_tip present (by omega) presentBelow, heightBelow⟩
  case placed =>
    intro other stored found
    obtain ⟨found, lower⟩ := still found
    rw [byHeight, if_neg lower.symm]
    exact linked.placed other stored found
  case genuine => exact fun other stored found => linked.genuine other stored (still found).1
  case parents =>
    intro other stored found
    have stays := (linked.in_range (still found).1)
    rw [hashAt (by omega)]
    exact linked.parents other stored (still found).1
  case tipped =>
    rw [height, linked.expectedPrevHash_withoutTip present, hashAt (by omega), ← top]
    exact linked.parents hash tip present

theorem Linked.replaceTipBlock (linked : chain.Linked env blocks)
    (injective : BlockHashInjective env blocks) {canonical replaced : StoredBlock}
    (offered : canonical.block ∈ blocks)
    (accepted : chain.replaceTipBlock env canonical = .ok (next, replaced)) :
    next.Linked env blocks := by
  simp only [ChainStore.replaceTipBlock, validateReplacement, bind_eq_ok, okOr_eq_ok, require_eq_ok,
    pure_eq_ok, decide_eq_true_eq, Prod.mk.injEq] at accepted
  obtain ⟨hash, tipHash, tip, present, _, ⟨_, sameHeight, _, different, _, samePrev, _, _, _, _, _,
    hashed, _, ⟨height, prevHash, _⟩, _⟩, rfl, rfl⟩ := accepted
  have top : tip.metadata.height = chain.height := (height_of_tip tipHash present).symm
  have range := linked.in_range present
  have bounded := linked.bounded
  have heightBelow := linked.height_withoutTip present top
  have fresh : (chain.withoutTip hash tip).byHash[canonical.metadata.blockHash]? = none := by
    rw [Option.eq_none_iff_forall_ne_some]
    intro other found
    -- the hash of the candidate in memory would be the hash of a block of the same height
    have below := (linked.withoutTip present top).genuine _ other found
    have same := (injective _ below.offered _ offered (below.hashed.trans hashed)).1
    have inRange := (linked.withoutTip present top).in_range found
    rw [heightBelow, below.height, same, ← height] at inRange
    omega
  have extension : (chain.withoutTip hash tip).Extends env blocks canonical :=
    { genuine := ⟨offered, hashed.symm, height, prevHash⟩
      fresh
      height := by omega
      fits := by omega
      parent := by rw [linked.expectedPrevHash_withoutTip present, samePrev] }
  have linkedNext := (linked.withoutTip present top).linkBlock extension
  have same : (chain.withoutTip hash tip).linkBlock canonical =
      { chain with
        byHeight := chain.byHeight.insert canonical.metadata.height canonical.metadata.blockHash
        byHash := (chain.byHash.erase hash).insert canonical.metadata.blockHash canonical
        tipHash := some canonical.metadata.blockHash } := by
    have heights : (chain.byHeight.erase tip.metadata.height).insert canonical.metadata.height
        canonical.metadata.blockHash =
          chain.byHeight.insert canonical.metadata.height canonical.metadata.blockHash := by
      apply Std.ExtTreeMap.ext_getElem?
      intro other
      simp only [Std.ExtTreeMap.getElem?_insert, Std.ExtTreeMap.getElem?_erase, sameHeight]
      split <;> rfl
    simp only [ChainStore.withoutTip, ChainStore.linkBlock, heights]
  rwa [same] at linkedNext

end Replace

section Compact

variable {checkpoint : Nat} {checkpointHash : BlockHash}

theorem mem_evicted {item : Nat × BlockHash} :
    item ∈ chain.byHeight.toList.filter (fun item => item.1 ≤ checkpoint) ↔
      chain.byHeight[item.1]? = some item.2 ∧ item.1 ≤ checkpoint := by
  rw [List.mem_filter, Std.ExtTreeMap.mem_toList_iff_getElem?_eq_some, decide_eq_true_eq]

theorem byHeight_compact (height : Nat) :
    (chain.compactToCheckpoint checkpoint checkpointHash).byHeight[height]? =
      if height ≤ checkpoint then none else chain.byHeight[height]? := by
  simp only [compactToCheckpoint]
  rw [getElem?_foldl_erase Prod.fst]
  split
  case isTrue evicted =>
    obtain ⟨item, member, rfl⟩ := evicted
    rw [if_pos (mem_evicted.mp member).2]
  case isFalse kept =>
    split
    case isTrue lower =>
      rw [Option.eq_none_iff_forall_ne_some]
      intro hash found
      exact kept ⟨(height, hash), mem_evicted.mpr ⟨found, lower⟩, rfl⟩
    case isFalse => rfl

theorem Linked.byHash_compact (linked : chain.Linked env blocks) (checkpointHash : BlockHash)
    {hash : BlockHash} {stored : StoredBlock} :
    (chain.compactToCheckpoint checkpoint checkpointHash).byHash[hash]? = some stored ↔
      chain.byHash[hash]? = some stored ∧ checkpoint < stored.metadata.height := by
  simp only [compactToCheckpoint]
  rw [getElem?_foldl_erase Prod.snd]
  constructor
  · intro found
    split at found
    case isTrue => cases found
    case isFalse kept =>
      refine ⟨found, ?_⟩
      by_contra lower
      have placed := linked.placed hash stored found
      exact kept ⟨(stored.metadata.height, hash), mem_evicted.mpr ⟨placed, by omega⟩, rfl⟩
  · rintro ⟨found, above⟩
    rw [if_neg, found]
    rintro ⟨item, member, rfl⟩
    obtain ⟨placed, evicted⟩ := mem_evicted.mp member
    obtain ⟨other, present, otherHeight⟩ := linked.indexed item.1 item.2 placed
    rw [found, Option.some_inj] at present
    rw [present] at above
    omega

theorem Linked.tip_in_memory (linked : chain.Linked env blocks)
    (above : chain.baseHeight < chain.height) :
    ∃ hash stored, chain.tipHash = some hash ∧ chain.byHash[hash]? = some stored ∧
      stored.metadata.height = chain.height := by
  cases tipHash : chain.tipHash with
  | none =>
      have atBase := @height_of_tipless chain (by simp [tip, tipHash])
      omega
  | some hash =>
      have placed := linked.tipped
      rw [hashAt, if_neg (by omega), expectedPrevHash, tipHash, Option.getD_some] at placed
      obtain ⟨stored, present, height⟩ := linked.indexed _ hash placed
      exact ⟨hash, stored, rfl, present, height⟩

theorem Linked.height_compact (linked : chain.Linked env blocks) (lower : chain.baseHeight ≤ checkpoint)
    (upper : checkpoint ≤ chain.height) :
    (chain.compactToCheckpoint checkpoint checkpointHash).height = chain.height := by
  by_cases below : checkpoint < chain.height
  · obtain ⟨hash, stored, tipHash, present, height⟩ := linked.tip_in_memory (by omega)
    have kept := (linked.byHash_compact checkpointHash).mpr ⟨present, height ▸ below⟩
    have tipHash : (chain.compactToCheckpoint checkpoint checkpointHash).tipHash = some hash := tipHash
    rw [height_of_tip tipHash kept, height]
  · have tipless : (chain.compactToCheckpoint checkpoint checkpointHash).tip = none := by
      rw [Option.eq_none_iff_forall_ne_some]
      intro stored found
      obtain ⟨hash, _, present⟩ := Option.bind_eq_some_iff.mp found
      obtain ⟨present, above⟩ := (linked.byHash_compact checkpointHash).mp present
      have range := linked.in_range present
      omega
    have base : (chain.compactToCheckpoint checkpoint checkpointHash).baseHeight = checkpoint := rfl
    rw [height_of_tipless tipless, base]
    omega

theorem Linked.compactToCheckpoint (linked : chain.Linked env blocks)
    (lower : chain.baseHeight ≤ checkpoint) (upper : checkpoint ≤ chain.height)
    (canonical : chain.hashAt checkpoint = some checkpointHash) (below : checkpoint < u64Max) :
    (chain.compactToCheckpoint checkpoint checkpointHash).Linked env blocks := by
  have bounded := linked.bounded
  have height := @Linked.height_compact _ _ _ checkpoint checkpointHash linked lower upper
  have hashAt {height : Nat} (above : checkpoint ≤ height) :
      (chain.compactToCheckpoint checkpoint checkpointHash).hashAt height = chain.hashAt height := by
    by_cases same : height = checkpoint
    · rw [same, canonical]
      exact if_pos rfl
    · have higher : height ≠ chain.baseHeight := by omega
      simp only [ChainStore.hashAt, byHeight_compact, if_neg higher]
      rw [if_neg (show ¬height ≤ checkpoint by omega)]
      exact if_neg same
  constructor
  case based => exact below
  case bounded =>
    rw [height]
    exact ⟨upper, bounded.2⟩
  case heights =>
    intro other
    rw [byHeight_compact, height]
    have before := linked.heights other
    have base : (chain.compactToCheckpoint checkpoint checkpointHash).baseHeight = checkpoint := rfl
    split
    case isTrue => simp; omega
    case isFalse => rw [before]; omega
  case indexed =>
    intro other hash found
    rw [byHeight_compact] at found
    split at found
    case isTrue => cases found
    case isFalse above =>
      obtain ⟨stored, present, storedHeight⟩ := linked.indexed other hash found
      exact ⟨stored, (linked.byHash_compact checkpointHash).mpr ⟨present, by omega⟩, storedHeight⟩
  case placed =>
    intro hash stored found
    obtain ⟨present, above⟩ := (linked.byHash_compact checkpointHash).mp found
    rw [byHeight_compact, if_neg (by omega)]
    exact linked.placed hash stored present
  case genuine => exact fun hash stored found => linked.genuine hash stored ((linked.byHash_compact checkpointHash).mp found).1
  case parents =>
    intro hash stored found
    obtain ⟨present, above⟩ := (linked.byHash_compact checkpointHash).mp found
    rw [hashAt (by omega)]
    exact linked.parents hash stored present
  case tipped =>
    rw [height, hashAt upper, linked.tipped]
    cases tipHash : chain.tipHash with
    | some hash => simp only [expectedPrevHash, ChainStore.compactToCheckpoint, tipHash, Option.getD_some]
    | none =>
        -- without a tip the checkpoint is the base, and its hash the anchor
        have atBase := @height_of_tipless chain (by simp [tip, tipHash])
        have same : checkpoint = chain.baseHeight := by omega
        rw [ChainStore.hashAt, if_pos same] at canonical
        simp only [expectedPrevHash, ChainStore.compactToCheckpoint, tipHash, Option.getD_none,
          canonical]

end Compact

end ChainStore

section Runs

inductive ChainStep (env : Env) (blocks : Set Block) : ChainStore → ChainStore → Prop
  | append {chain next : ChainStore} (execution : BlockExecutionResult)
      (offered : execution.block ∈ blocks) (accepted : chain.appendBlock env execution = .ok next) :
      ChainStep env blocks chain next
  | appendStored {chain next : ChainStore} (stored : StoredBlock) (offered : stored.block ∈ blocks)
      (accepted : chain.appendStoredBlock env stored = .ok next) : ChainStep env blocks chain next
  | replaceTip {chain next : ChainStore} (canonical replaced : StoredBlock)
      (offered : canonical.block ∈ blocks)
      (accepted : chain.replaceTipBlock env canonical = .ok (next, replaced)) :
      ChainStep env blocks chain next
  | compact {chain : ChainStore} (checkpoint : Nat) (hash : BlockHash)
      (lower : chain.baseHeight ≤ checkpoint) (upper : checkpoint ≤ chain.height)
      (canonical : chain.hashAt checkpoint = some hash) (below : checkpoint < u64Max) :
      ChainStep env blocks chain (chain.compactToCheckpoint checkpoint hash)

variable {chain next : ChainStore}

theorem appendBlock_stored {execution : BlockExecutionResult}
    (accepted : chain.appendBlock env execution = .ok next) :
    chain.appendStoredBlock env (storedBlock env execution) = .ok next := by
  simp only [ChainStore.appendBlock, bind_eq_ok] at accepted
  obtain ⟨_, _, accepted⟩ := accepted
  exact accepted

theorem ChainStep.linked (injective : BlockHashInjective env blocks)
    (step : ChainStep env blocks chain next) (linked : chain.Linked env blocks) :
    next.Linked env blocks := by
  cases step with
  | append execution offered accepted =>
      have stored : (storedBlock env execution).block ∈ blocks := offered
      exact linked.appendStoredBlock stored (appendBlock_stored accepted)
  | appendStored stored offered accepted => exact linked.appendStoredBlock offered accepted
  | replaceTip canonical replaced offered accepted =>
      exact linked.replaceTipBlock injective offered accepted
  | compact checkpoint hash lower upper canonical below =>
      exact linked.compactToCheckpoint lower upper canonical below

theorem appended_on_top {stored : StoredBlock}
    (accepted : chain.appendStoredBlock env stored = .ok next) :
    stored.block.header.height = satAdd64 chain.height 1 ∧
      stored.block.header.prevHash = chain.expectedPrevHash := by
  simp only [ChainStore.appendStoredBlock, ChainStore.validateStoredBlock, bind_eq_ok, require_eq_ok,
    pure_eq_ok, decide_eq_true_eq] at accepted
  obtain ⟨_, ⟨_, _, _, _, _, _, _, _, _, _, _, _, _, _, _, _, _, _, _, height, parent⟩, _⟩ := accepted
  exact ⟨height, parent⟩

theorem ChainStore.Linked.append_to_base (linked : chain.Linked env blocks)
    (empty : ∀ hash : BlockHash, chain.byHash[hash]? = none) {stored : StoredBlock}
    (accepted : chain.appendStoredBlock env stored = .ok next) :
    stored.block.header.height = chain.baseHeight + 1 ∧
      stored.block.header.prevHash = chain.anchorPrevHash := by
  have atBase : chain.height = chain.baseHeight := by
    refine ChainStore.height_of_tipless ?_
    simp only [ChainStore.tip, empty, Option.bind_fun_none]
  have tipped := linked.tipped
  have below := linked.based
  rw [ChainStore.hashAt, if_pos atBase, Option.some_inj] at tipped
  obtain ⟨height, parent⟩ := appended_on_top accepted
  rw [atBase, satAdd64] at height
  exact ⟨by omega, parent.trans tipped.symm⟩

/-- The two maps hold the same blocks, at the heights above the base up to the tip, linked
from the anchor on; an empty chain goes on at its anchor. `new` is `newWithBase` at 0. -/
theorem chainStore_linked (env : Env) (blocks : Set Block) (injective : BlockHashInjective env blocks)
    (anchor : BlockHash) (base : Nat) (below : base < u64Max) (chain : ChainStore)
    (run : ReflTransGen (ChainStep env blocks) (.newWithBase anchor base) chain) :
    (∀ height hash, chain.byHeight[height]? = some hash →
      ∃ stored : StoredBlock, chain.byHash[hash]? = some stored ∧ stored.metadata.height = height) ∧
    (∀ (hash : BlockHash) (stored : StoredBlock), chain.byHash[hash]? = some stored →
      chain.byHeight[stored.metadata.height]? = some hash ∧
        computeBlockHash env stored.block = hash) ∧
    (∀ height, (∃ hash, chain.byHeight[height]? = some hash) ↔
      chain.baseHeight < height ∧ height ≤ chain.height) ∧
    (∀ height stored, chain.getStoredBlockByHeight height = some stored →
      some stored.block.header.prevHash =
        if height = chain.baseHeight + 1 then some chain.anchorPrevHash
        else chain.byHeight[height - 1]?) ∧
    ((∀ hash : BlockHash, chain.byHash[hash]? = none) → ∀ next,
      (∀ stored, chain.appendStoredBlock env stored = .ok next →
        stored.block.header.height = chain.baseHeight + 1 ∧
          stored.block.header.prevHash = chain.anchorPrevHash) ∧
      ∀ execution, chain.appendBlock env execution = .ok next →
        execution.block.header.height = chain.baseHeight + 1 ∧
          execution.block.header.prevHash = chain.anchorPrevHash) := by
  have linked : chain.Linked env blocks :=
    Runs.invariant (ChainStore.Linked env blocks) (fun _ _ step => step.linked injective) run
      (ChainStore.newWithBase_linked anchor base below)
  refine ⟨linked.indexed, fun hash stored found => ⟨linked.placed hash stored found,
    (linked.genuine hash stored found).hashed⟩, linked.heights, ?_, ?_⟩
  · intro height stored found
    obtain ⟨hash, placed, present⟩ := Option.bind_eq_some_iff.mp found
    obtain ⟨other, presentOther, rfl⟩ := linked.indexed height hash placed
    rw [present, Option.some_inj] at presentOther
    subst presentOther
    have range := linked.in_range present
    have parent := linked.parents hash stored present
    rw [(linked.genuine hash stored present).prevHash, ChainStore.hashAt] at parent
    rw [← parent]
    by_cases first : stored.metadata.height = chain.baseHeight + 1
    · rw [if_pos first, if_pos (by omega)]
    · rw [if_neg first, if_neg (by omega)]
  · intro empty next
    exact ⟨fun stored accepted => linked.append_to_base empty accepted, fun execution accepted =>
      linked.append_to_base empty (appendBlock_stored accepted)⟩

def bareBlock (height : Nat) (prevHash : BlockHash) (timestamp : Nat) : StoredBlock :=
  let block : Block :=
    ⟨⟨1, height, prevHash, Bytes32.fill 0, Bytes32.fill 0, timestamp, [], Bytes32.fill 0⟩, [], []⟩
  { block
    metadata :=
      { blockHash := computeBlockHash sampleEnv block, height, prevHash, stateRoot := Bytes32.fill 0,
        txRoot := Bytes32.fill 0, timestamp, bytesUsed := 0, includedCount := 0, deferredCount := 0,
        skippedCount := 0, vcBudgetConsumed := 0 }
    includedTransactions := [] }

/-- At the last height there is no next one: a block is accepted at the base height itself. -/
theorem lastBase_repeats :
    ∃ next, (ChainStore.newWithBase (Bytes32.fill 0) u64Max).appendStoredBlock sampleEnv
        (bareBlock u64Max (Bytes32.fill 0) 0) = .ok next ∧
      next.baseHeight = u64Max ∧ (next.getStoredBlockByHeight u64Max).isSome := by
  have accepted : ((ChainStore.newWithBase (Bytes32.fill 0) u64Max).appendStoredBlock sampleEnv
      (bareBlock u64Max (Bytes32.fill 0) 0)).toOption.map (fun next =>
        (next.baseHeight, (next.getStoredBlockByHeight u64Max).isSome)) = some (u64Max, true) := by
    decide +kernel
  obtain ⟨next, accepted, observed⟩ := exists_ok_of_toOption accepted
  simp only [Prod.mk.injEq] at observed
  exact ⟨next, accepted, observed.1, observed.2⟩

theorem appendStoredBlock_of_valid {stored : StoredBlock}
    (valid : chain.validateStoredBlock env stored = .ok ()) :
    chain.appendStoredBlock env stored = .ok (chain.linkBlock stored) := by
  rw [ChainStore.appendStoredBlock, valid]
  rfl

def firstBlock : StoredBlock := bareBlock 6 (Bytes32.fill 0) 0

def tipBlock (timestamp : Nat) : StoredBlock := bareBlock 7 firstBlock.metadata.blockHash timestamp

def sampleBlocks : List Block := [firstBlock.block, (tipBlock 0).block, (tipBlock 1).block]

theorem chainStore_linked_sibling :
    ∃ chain, ReflTransGen (ChainStep sampleEnv {block | block ∈ sampleBlocks})
        (.newWithBase (Bytes32.fill 0) 5) chain ∧
      chain.baseHeight = 6 ∧ chain.height = 7 ∧
      ∀ height, (∃ hash, chain.byHeight[height]? = some hash) ↔ 6 < height ∧ height ≤ 7 := by
  let first := (ChainStore.newWithBase (Bytes32.fill 0) 5).linkBlock firstBlock
  let second := first.linkBlock (tipBlock 0)
  have firstAccepted : (ChainStore.newWithBase (Bytes32.fill 0) 5).validateStoredBlock sampleEnv
      firstBlock = .ok () := by decide +kernel
  have secondAccepted : first.validateStoredBlock sampleEnv (tipBlock 0) = .ok () := by decide +kernel
  have swapped : (second.replaceTipBlock sampleEnv (tipBlock 1)).toOption.map (fun result =>
      (result.1.baseHeight, result.1.height, result.1.hashAt 6,
        (result.1.compactToCheckpoint 6 firstBlock.metadata.blockHash).height)) =
      some (5, 7, some firstBlock.metadata.blockHash, 7) := by decide +kernel
  obtain ⟨⟨third, replaced⟩, swapAccepted, observed⟩ := exists_ok_of_toOption swapped
  simp only [Prod.mk.injEq] at observed
  obtain ⟨base, top, canonical, height⟩ := observed
  have appended : ChainStep sampleEnv {block | block ∈ sampleBlocks} (.newWithBase (Bytes32.fill 0) 5)
      first := .appendStored firstBlock (by simp [sampleBlocks]) (appendStoredBlock_of_valid firstAccepted)
  have appendedTip : ChainStep sampleEnv {block | block ∈ sampleBlocks} first second :=
    .appendStored (tipBlock 0) (by simp [sampleBlocks]) (appendStoredBlock_of_valid secondAccepted)
  have swap : ChainStep sampleEnv {block | block ∈ sampleBlocks} second third :=
    .replaceTip (tipBlock 1) replaced (by simp [sampleBlocks]) swapAccepted
  have compacted : ChainStep sampleEnv {block | block ∈ sampleBlocks} third _ :=
    .compact 6 _ (by omega) (by omega) canonical (by decide)
  have run := (((ReflTransGen.single appended).tail appendedTip).tail swap).tail compacted
  have injective : ∀ left ∈ sampleBlocks, ∀ right ∈ sampleBlocks,
      computeBlockHash sampleEnv left = computeBlockHash sampleEnv right →
        left.header = right.header ∧ left.txHashes = right.txHashes := by decide +kernel
  refine ⟨_, run, rfl, height, ?_⟩
  have heights := (chainStore_linked sampleEnv {block | block ∈ sampleBlocks} injective
    (Bytes32.fill 0) 5 (by decide) _ run).2.2.1
  rw [height] at heights
  exact heights

end Runs

end ViperChain
