import ViperChain.Library.OrderedMap
import ViperChain.State.Clock
import ViperChain.Storage.ReadBack

/-!
Recovery after a restart. Opening takes the newest checkpoint that decodes, recovery the newest
that verifies.
-/

namespace ViperChain.Storage

open Fallible OrderedMaps

variable {env : Env} {checkpoints : CheckpointFormat} {records : RecordFormat}
variable {genesis : StateStore} {params : ReplayParams} {anchor : BlockHash}

section Replay

variable {blocks front tail : List StoredBlock} {stored : StoredBlock} {parent : BlockHash}
variable {start : StateStore} {result : ReplayResult} {first : Nat}

@[simp] theorem lastHash_nil (parent : BlockHash) : lastHash parent [] = parent := rfl

@[simp] theorem lastHash_concat (parent : BlockHash) (front : List StoredBlock) (stored : StoredBlock) :
    lastHash parent (front ++ [stored]) = stored.metadata.blockHash := by
  simp [lastHash]

theorem lastHash_append (parent : BlockHash) (front tail : List StoredBlock) :
    lastHash parent (front ++ tail) = lastHash (lastHash parent front) tail := by
  cases tail using List.reverseRecOn with
  | nil => simp
  | append_singleton tail last => rw [lastHash_concat, ← List.append_assoc, lastHash_concat]

theorem verifyStoredBlock_eq_ok :
    verifyStoredBlock env first parent stored = .ok () ↔
      stored.block.header.height = first ∧ stored.block.header.prevHash = parent ∧
        WellFormed env stored := by
  simp only [verifyStoredBlock, bind_eq_ok, require_eq_ok, decide_eq_true_eq, exists_const]
  constructor
  · rintro ⟨height, prevHash, bodies, own, prev, stateRoot, txRoot, included, hashed⟩
    exact ⟨height, prevHash, own, prev, stateRoot, txRoot, included, bodies, hashed⟩
  · rintro ⟨height, prevHash, formed⟩
    exact ⟨height, prevHash, formed.bodies, formed.height, formed.prevHash, formed.stateRoot,
      formed.txRoot, formed.included, formed.hashed⟩

structure Paused (env : Env) (start : StateStore) (parent : BlockHash) (front : List StoredBlock)
    (result : ReplayResult) : Prop where
  resumed : result = .start env result.state result.tipHash
  tipHash : result.tipHash = lastHash parent front
  blockHeight : result.state.blockHeight = start.blockHeight + front.length
  chainId : result.state.chainId = start.chainId

theorem replayBlock_paused {after : ReplayResult} (paused : Paused env start parent front result)
    (ran : replayBlock env params result stored = .ok after) :
    Paused env start parent (front ++ [stored]) after := by
  obtain ⟨height, chain⟩ := replayBlock_clock ran
  simp only [replayBlock, bind_eq_ok, require_eq_ok, pure_eq_ok] at ran
  obtain ⟨progress, _, _, _, _, _, _, _, rfl⟩ := ran
  refine ⟨rfl, (lastHash_concat parent front stored).symm, ?_, chain.trans paused.chainId⟩
  rw [height, paused.blockHeight, List.length_append, List.length_singleton, Nat.add_assoc]

theorem replay_paused (ran : replayBlocksFromState env start parent blocks params = .ok result) :
    Paused env start parent blocks result := by
  induction blocks using List.reverseRecOn generalizing result with
  | nil =>
      simp only [replayBlocksFromState, verifyStoredBlocksStructure, bind_eq_ok, List.foldlM_nil,
        pure_eq_ok] at ran
      obtain ⟨_, _, rfl⟩ := ran
      exact ⟨rfl, rfl, rfl, rfl⟩
  | append_singleton front stored ih =>
      obtain ⟨before, ran, _, block⟩ := replayBlocksFromState_concat.mp ran
      exact replayBlock_paused (ih ran) block

theorem replay_append (room : start.blockHeight + (front ++ tail).length ≤ u64Max) :
    replayBlocksFromState env start parent (front ++ tail) params = .ok result ↔
      ∃ middle, replayBlocksFromState env start parent front params = .ok middle ∧
        replayBlocksFromState env middle.state middle.tipHash tail params = .ok result := by
  induction tail using List.reverseRecOn generalizing result with
  | nil =>
      rw [List.append_nil]
      constructor
      · intro ran
        refine ⟨result, ran, ?_⟩
        conv_rhs => rw [(replay_paused ran).resumed]
        rfl
      · rintro ⟨middle, ran, rest⟩
        simp only [replayBlocksFromState, verifyStoredBlocksStructure, bind_eq_ok, List.foldlM_nil,
          pure_eq_ok] at rest
        obtain ⟨_, _, rfl⟩ := rest
        rw [← (replay_paused ran).resumed]
        exact ran
  | append_singleton tail stored ih =>
      rw [← List.append_assoc] at room ⊢
      have shorter : start.blockHeight + (front ++ tail).length ≤ u64Max := by
        rw [List.length_append] at room
        omega
      rw [replayBlocksFromState_concat]
      have place : ∀ middle, replayBlocksFromState env start parent front params = .ok middle →
          satAdd64 middle.state.blockHeight 1 + tail.length =
            satAdd64 start.blockHeight 1 + (front ++ tail).length ∧
          lastHash middle.tipHash tail = lastHash parent (front ++ tail) := by
        intro middle ran
        have paused := replay_paused ran
        simp only [List.length_append, List.length_singleton] at room
        constructor
        · rw [paused.blockHeight, satAdd64, satAdd64, List.length_append]
          omega
        · rw [paused.tipHash, lastHash_append]
      constructor
      · rintro ⟨before, ran, linked, block⟩
        obtain ⟨middle, ranFront, ranTail⟩ := (ih shorter).mp ran
        obtain ⟨height, hash⟩ := place middle ranFront
        rw [← height, ← hash] at linked
        exact ⟨middle, ranFront, replayBlocksFromState_concat.mpr ⟨before, ranTail, linked, block⟩⟩
      · rintro ⟨middle, ranFront, ranTail⟩
        obtain ⟨before, ranTail, linked, block⟩ := replayBlocksFromState_concat.mp ranTail
        obtain ⟨height, hash⟩ := place middle ranFront
        rw [height, hash] at linked
        exact ⟨before, (ih shorter).mpr ⟨middle, ranFront, ranTail⟩, linked, block⟩

end Replay

section Chains

structure Holds (chain : ChainStore) (base : Nat) (blocks : List StoredBlock) : Prop where
  based : chain.baseHeight = base
  inOrder : chain.blocksInOrder = blocks
  height : chain.height = base + blocks.length
  parent : chain.expectedPrevHash = lastHash chain.anchorPrevHash blocks
  hashes : ∀ hash : BlockHash, chain.byHash.contains hash = true →
    ∃ stored ∈ blocks, stored.metadata.blockHash = hash
  heights : ∀ (height : Nat) (hash : BlockHash), chain.byHeight[height]? = some hash →
    height ≤ base + blocks.length ∧ chain.byHash.contains hash = true
  known : chain.height ≤ u64Max → chain.TipKnown

theorem newWithBase_holds (anchor : BlockHash) (base : Nat) :
    Holds (.newWithBase anchor base) base [] where
  based := rfl
  inOrder := rfl
  height := rfl
  parent := rfl
  hashes hash held := by simp [ChainStore.newWithBase] at held
  heights height hash found := by simp [ChainStore.newWithBase] at found
  known fits := ChainStore.newWithBase_tipKnown anchor fits

theorem Holds.linkBlock {chain : ChainStore} {base : Nat} {blocks : List StoredBlock}
    {stored : StoredBlock} (holds : Holds chain base blocks) (formed : WellFormed env stored)
    (fits : FitsOn env chain stored) (next : stored.metadata.height = base + blocks.length + 1) :
    Holds (chain.linkBlock stored) base (blocks ++ [stored]) where
  based := holds.based
  inOrder := by
    have fresh : chain.byHash.contains stored.metadata.blockHash = false :=
      formed.hashed ▸ fits.freshHash
    have above : ∀ (height : Nat) (hash : BlockHash), chain.byHeight[height]? = some hash →
        height < stored.metadata.height := by
      intro height hash found
      have := (holds.heights height hash found).1
      omega
    have kept : (chain.byHeight.toList.map Prod.snd).filterMap
        (fun hash => (chain.byHash.insert stored.metadata.blockHash stored)[hash]?) =
          chain.blocksInOrder := by
      refine List.filterMap_congr fun hash member => ?_
      obtain ⟨⟨height, held⟩, listed, rfl⟩ := List.mem_map.mp member
      have present := (holds.heights height held
        (Std.ExtTreeMap.mem_toList_iff_getElem?_eq_some.mp listed)).2
      have other : stored.metadata.blockHash ≠ held := by
        rintro rfl
        exact absurd present (by rw [fresh]; decide)
      rw [Std.ExtTreeMap.getElem?_insert, if_neg (by simpa using other)]
    rw [ChainStore.blocksInOrder, ChainStore.linkBlock, toList_insert_above _ above, List.map_append,
      List.filterMap_append, kept, holds.inOrder]
    simp
  height := by
    rw [ChainStore.height_linkBlock, next, List.length_append, List.length_singleton, Nat.add_assoc]
  parent := (lastHash_concat _ blocks stored).symm
  hashes hash held := by
    simp only [ChainStore.linkBlock, Std.ExtTreeMap.contains_insert, Bool.or_eq_true, beq_iff_eq,
      compare_eq_iff_eq] at held
    rcases held with rfl | held
    · exact ⟨stored, List.mem_append_right _ List.mem_cons_self, rfl⟩
    · obtain ⟨other, member, same⟩ := holds.hashes hash held
      exact ⟨other, List.mem_append_left _ member, same⟩
  heights height hash found := by
    simp only [ChainStore.linkBlock, Std.ExtTreeMap.getElem?_insert, compare_eq_iff_eq] at found
    simp only [ChainStore.linkBlock, Std.ExtTreeMap.contains_insert, Bool.or_eq_true, beq_iff_eq,
      compare_eq_iff_eq, List.length_append, List.length_singleton]
    split at found
    · next same =>
        refine ⟨by omega, Or.inl (Option.some.inj found)⟩
    · obtain ⟨low, held⟩ := holds.heights height hash found
      exact ⟨by omega, Or.inr held⟩
  known room := by
    rw [ChainStore.height_linkBlock, next] at room
    have accepted := appendStoredBlock_of_valid (validateStoredBlock_eq_ok.mpr ⟨formed, fits⟩)
    have before : chain.height ≤ u64Max := by
      rw [holds.height]
      omega
    exact (holds.known before).appendStoredBlock accepted

end Chains

section Loading

theorem Database.heights_cons {first last : Nat} (inside : first ≤ last) :
    heights first last = first :: heights (first + 1) last := by
  have longer : last + 1 - first = (last + 1 - (first + 1)) + 1 := by omega
  rw [heights, heights, longer, List.range'_succ]

def WrittenFrom (env : Env) (records : RecordFormat) (db : Database) (first : Nat)
    (blocks : List StoredBlock) : Prop :=
  ∀ index stored, blocks[index]? = some stored → ∃ bytes,
    encodeStoredBlockBytes env records stored = .ok bytes ∧ db.blocks[first + index]? = some bytes

theorem WrittenFrom.tail {db : Database} {first : Nat} {stored : StoredBlock}
    {rest : List StoredBlock} (written : WrittenFrom env records db first (stored :: rest)) :
    WrittenFrom env records db (first + 1) rest := by
  intro index later found
  obtain ⟨bytes, encoded, placed⟩ := written (index + 1) later (by simpa using found)
  exact ⟨bytes, encoded, by rwa [Nat.add_assoc, Nat.add_comm 1 index]⟩

theorem WrittenFrom.drop {db : Database} {first : Nat} {blocks : List StoredBlock}
    (written : WrittenFrom env records db first blocks) (count : Nat) :
    WrittenFrom env records db (first + count) (blocks.drop count) := by
  intro index later found
  rw [List.getElem?_drop] at found
  obtain ⟨bytes, encoded, placed⟩ := written (count + index) later found
  exact ⟨bytes, encoded, by rwa [Nat.add_assoc]⟩

theorem WrittenFrom.concat {db next : Database} {first : Nat} {blocks : List StoredBlock}
    {stored : StoredBlock} {bytes : Bytes} (written : WrittenFrom env records db first blocks)
    (encoded : encodeStoredBlockBytes env records stored = .ok bytes)
    (inserted : next.blocks = db.blocks.insert (first + blocks.length) bytes) :
    WrittenFrom env records next first (blocks ++ [stored]) := by
  intro index other found
  rw [inserted]
  by_cases last : index = blocks.length
  · subst last
    obtain rfl : stored = other := by simpa using found
    exact ⟨bytes, encoded, by simp⟩
  · have inside : index < blocks.length := by
      have bound := (List.getElem?_eq_some_iff.mp found).1
      simp only [List.length_append, List.length_singleton] at bound
      omega
    rw [List.getElem?_append_left inside] at found
    obtain ⟨old, oldEncoded, placed⟩ := written index other found
    refine ⟨old, oldEncoded, ?_⟩
    have apart : first + blocks.length ≠ first + index := by omega
    simpa [Std.ExtTreeMap.getElem?_insert, Ne.symm last] using placed

theorem loadBlocks_holds (faithful : records.Faithful) {db : Database} {base : Nat}
    {rest : List StoredBlock} :
    ∀ {chain : ChainStore} {done : List StoredBlock}, Holds chain base done →
      verifyStoredBlocksStructure env (base + done.length + 1) (lastHash chain.anchorPrevHash done) rest =
        .ok () →
      WrittenFrom env records db (base + done.length + 1) rest →
      (∀ stored ∈ rest, BodiesKept env stored) →
      ((done ++ rest).map fun stored => stored.metadata.blockHash).Nodup →
      base + (done ++ rest).length ≤ u64Max →
      ∃ last, (Database.heights (base + done.length + 1) (base + (done ++ rest).length)).foldlM
          (db.loadBlock env records) chain = .ok last ∧
        Holds last base (done ++ rest) ∧ last.anchorPrevHash = chain.anchorPrevHash := by
  induction rest with
  | nil =>
      intro chain done holds _ _ _ _ _
      have none : Database.heights (base + done.length + 1) (base + done.length) = [] := by
        rw [Database.heights, List.range'_eq_nil_iff]
        omega
      rw [List.append_nil, none]
      exact ⟨chain, rfl, holds, rfl⟩
  | cons stored rest ih =>
      intro chain done holds structured written kept distinct room
      simp only [verifyStoredBlocksStructure, bind_eq_ok] at structured
      obtain ⟨_, checked, structured⟩ := structured
      obtain ⟨height, parent, formed⟩ := verifyStoredBlock_eq_ok.mp checked
      obtain ⟨bytes, encoded, placed⟩ := written 0 stored rfl
      have split : done ++ stored :: rest = (done ++ [stored]) ++ rest := by simp
      have long : (done ++ [stored]).length = done.length + 1 := by simp
      simp only [List.length_append, List.length_cons] at room
      have unlisted : ∀ other ∈ done, other.metadata.blockHash ≠ stored.metadata.blockHash := by
        intro other member same
        rw [List.map_append, List.map_cons] at distinct
        have apart := List.disjoint_of_nodup_append distinct
        exact apart (List.mem_map.mpr ⟨other, member, rfl⟩) (same ▸ List.mem_cons_self)
      have fits : FitsOn env chain stored :=
        { freshHash := by
            rw [← formed.hashed]
            cases held : chain.byHash.contains stored.metadata.blockHash with
            | false => rfl
            | true =>
                obtain ⟨other, member, same⟩ := holds.hashes _ held
                exact absurd same (unlisted other member)
          freshHeight := by
            rw [Std.ExtTreeMap.contains_eq_isSome_getElem?]
            cases held : chain.byHeight[stored.block.header.height]? with
            | none => rfl
            | some hash =>
                have := (holds.heights _ hash held).1
                omega
          next := by
            rw [height, holds.height, satAdd64]
            omega
          parent := by rw [parent, holds.parent] }
      have next : stored.metadata.height = base + done.length + 1 := by rw [formed.height, height]
      have loaded : db.loadBlock env records chain (base + done.length + 1) =
          .ok (chain.linkBlock stored) :=
        Database.loadBlock_eq_ok.mpr ⟨stored,
          (readStoredBlockFromDb_written faithful encoded placed).mpr (kept stored List.mem_cons_self),
          appendStoredBlock_of_valid (validateStoredBlock_eq_ok.mpr ⟨formed, fits⟩)⟩
      have later := @ih (chain.linkBlock stored) (done ++ [stored]) (holds.linkBlock formed fits next)
      rw [← split, long, ← Nat.add_assoc] at later
      obtain ⟨last, ran, all, anchored⟩ := later
        (by rw [lastHash_concat]; exact structured) written.tail
        (fun other member => kept other (List.mem_cons_of_mem _ member)) distinct
        (by simp only [List.length_append, List.length_cons]; omega)
      refine ⟨last, ?_, all, anchored⟩
      rw [Database.heights_cons (by simp only [List.length_append, List.length_cons]; omega),
        List.foldlM_cons, loaded]
      exact ran

theorem opens_onBase (faithful : records.Faithful) {db : Database} {base : Nat} {parent : BlockHash}
    {rest : List StoredBlock} (anchored : db.genesisAnchor = some anchor)
    (started : ∀ pair ∈ db.snapshotBase, pair.1 < u64Max)
    (tip : db.tipHeight = some (base + rest.length)) (positive : 0 < base + rest.length)
    (based : db.memoryBase checkpoints anchor = .ok (parent, base))
    (structured : verifyStoredBlocksStructure env (base + 1) parent rest = .ok ())
    (written : WrittenFrom env records db (base + 1) rest)
    (kept : ∀ stored ∈ rest, BodiesKept env stored)
    (distinct : (rest.map fun stored => stored.metadata.blockHash).Nodup)
    (below : base < u64Max) (room : base + rest.length ≤ u64Max) (other : BlockHash) :
    ∃ chain, openInternal env checkpoints records db other = .ok ⟨db, chain, anchor⟩ ∧
      Holds chain base rest ∧ chain.anchorPrevHash = parent := by
  obtain ⟨chain, loaded, holds, same⟩ := @loadBlocks_holds env records faithful db base rest
    (.newWithBase parent base) [] (newWithBase_holds parent base) structured written kept distinct room
  rw [List.nil_append] at loaded holds
  exact ⟨chain, (openInternal_eq_ok anchored tip positive other).mpr
    ⟨started, chain, Database.loadTail_eq_ok.mpr ⟨parent, base, based, below, loaded, holds.height⟩, rfl⟩,
    holds, same⟩

structure ChainFrom (env : Env) (anchor : BlockHash) (blocks : List StoredBlock) : Prop where
  structured : verifyStoredBlocksStructure env 1 anchor blocks = .ok ()
  kept : ∀ stored ∈ blocks, BodiesKept env stored
  distinct : (blocks.map fun stored => stored.metadata.blockHash).Nodup
  room : blocks.length < u64Max

theorem ChainFrom.front {front : List StoredBlock} {stored : StoredBlock}
    (chained : ChainFrom env anchor (front ++ [stored])) :
    ChainFrom env anchor front ∧ stored.block.header.height = 1 + front.length := by
  obtain ⟨structured, kept, distinct, room⟩ := chained
  obtain ⟨before, linked⟩ := verifyStoredBlocksStructure_concat.mp structured
  rw [List.map_append] at distinct
  rw [List.length_append, List.length_singleton] at room
  refine ⟨⟨before, fun other member => kept other (List.mem_append_left _ member),
    distinct.of_append_left, by omega⟩, (verifyStoredBlock_eq_ok.mp linked).1⟩

theorem structured_drop {blocks : List StoredBlock} {base : Nat}
    (structured : verifyStoredBlocksStructure env 1 anchor blocks = .ok ())
    (inside : base ≤ blocks.length) :
    verifyStoredBlocksStructure env (base + 1) (lastHash anchor (blocks.take base)) (blocks.drop base) =
      .ok () := by
  rw [← List.take_append_drop base blocks, verifyStoredBlocksStructure_append,
    List.length_take_of_le inside, Nat.add_comm 1 base] at structured
  exact structured.2

structure OnDisk (env : Env) (records : RecordFormat) (anchor : BlockHash) (db : Database)
    (blocks : List StoredBlock) : Prop where
  anchored : db.genesisAnchor = some anchor
  unbased : db.snapshotBaseHeight.getD 0 = 0
  tip : db.tipHeight.getD 0 = blocks.length
  written : WrittenFrom env records db 1 blocks

theorem OnDisk.snapshotBase {db : Database} {blocks : List StoredBlock}
    (disk : OnDisk env records anchor db blocks) : db.snapshotBase = none := by
  have zero := disk.unbased
  rw [Database.snapshotBase]
  cases height : db.snapshotBaseHeight with
  | none => rfl
  | some base =>
      rw [height, Option.getD_some] at zero
      subst zero
      cases db.snapshotBaseHash with
      | none => rfl
      | some hash => rfl

theorem OnDisk.opens {db : Database} {blocks : List StoredBlock} {base : Nat}
    (disk : OnDisk env records anchor db blocks) (faithful : records.Faithful)
    (chained : ChainFrom env anchor blocks) (inside : base ≤ blocks.length)
    (based : db.memoryBase checkpoints anchor = .ok (lastHash anchor (blocks.take base), base))
    (other : BlockHash) :
    ∃ chain, openInternal env checkpoints records db other = .ok ⟨db, chain, anchor⟩ ∧
      Holds chain base (blocks.drop base) ∧
      chain.anchorPrevHash = lastHash anchor (blocks.take base) := by
  have unbased := disk.snapshotBase
  obtain ⟨structured, kept, distinct, room⟩ := chained
  by_cases empty : blocks = []
  · subst empty
    obtain rfl : base = 0 := by simpa using inside
    have tip : db.tipHeight.getD 0 = 0 := disk.tip
    refine ⟨.newWithBase anchor 0, ?_, newWithBase_holds anchor 0, rfl⟩
    obtain ⟨_, _, _, _, _, _⟩ := db
    obtain rfl := disk.anchored
    simp only [openInternal, Option.getD_some] at tip ⊢
    rw [show Database.snapshotBase _ = none from unbased, if_pos tip]
    rfl
  · have positive : 0 < blocks.length := List.length_pos_iff.mpr empty
    have tip : db.tipHeight = some blocks.length := by
      have := disk.tip
      cases height : db.tipHeight with
      | none => rw [height, Option.getD_none] at this; omega
      | some height' => rw [height, Option.getD_some] at this; rw [this]
    have length : base + (blocks.drop base).length = blocks.length := by
      rw [List.length_drop]
      omega
    rw [← length] at tip positive
    refine opens_onBase faithful disk.anchored (by simp [unbased]) tip positive based
      (structured_drop structured inside) ?_ (fun stored member => kept stored (List.mem_of_mem_drop member))
      ?_ (by omega) (by omega) other
    · rw [Nat.add_comm]
      exact disk.written.drop base
    · rw [List.map_drop]
      exact distinct.sublist (List.drop_sublist _ _)

end Loading

section Checkpoints

variable {blocks : List StoredBlock} {entries : List (Nat × Bytes)} {height : Nat} {bytes : Bytes}

def checkpointAt (env : Env) (anchor : BlockHash) (blocks : List StoredBlock) (height : Nat)
    (state : StateStore) : TrustedCheckpointRecord where
  version := stateFormatVersion
  metadata := ⟨height, lastHash anchor (blocks.take height), state.stateRoot env⟩
  state := stateIntoRecord state

structure CheckpointWritten (env : Env) (checkpoints : CheckpointFormat) (genesis : StateStore)
    (params : ReplayParams) (anchor : BlockHash) (blocks : List StoredBlock) (height : Nat)
    (bytes : Bytes) : Prop where
  inside : height ≤ blocks.length
  state : ∃ current, replayBlocksFromState env genesis anchor (blocks.take height) params = .ok current ∧
    checkpoints.write (checkpointAt env anchor blocks height current.state) = some bytes

def FirstDecoded (checkpoints : CheckpointFormat) (intact : Nat → Bytes → Prop) :
    List (Nat × Bytes) → Prop
  | [] => True
  | (height, bytes) :: older =>
      (checkpoints.read bytes = none ∧ FirstDecoded checkpoints intact older) ∨ intact height bytes

def ComesBack (env : Env) (state : StateStore) : Prop :=
  recordIntoState env (stateIntoRecord state) state.chainId = .ok state

theorem checkStateFormatVersion_current :
    checkStateFormatVersion stateFormatVersion = .ok () := rfl

theorem verifiedState_checkpointAt {state : StateStore} (comesBack : ComesBack env state)
    (at_height : state.blockHeight = height) :
    verifiedState env (checkpointAt env anchor blocks height state) state.chainId = some state := by
  unfold ComesBack at comesBack
  simp [verifiedState, checkpointAt, comesBack, Except.toOption, at_height]

theorem firstDecoded_found (readable : checkpoints.Faithful) (started : genesis.blockHeight = 0)
    (sorted : entries.Pairwise fun newer older => older.1 < newer.1)
    {intact : Nat → Bytes → Prop}
    (written : ∀ height bytes, intact height bytes →
      CheckpointWritten env checkpoints genesis params anchor blocks height bytes)
    (first : FirstDecoded checkpoints intact entries) :
    (findLatestCheckpointPair checkpoints entries = .ok none ∧
      findLatestCheckpointWithState env checkpoints genesis.chainId entries = .ok none) ∨
    ∃ height bytes current, 0 < height ∧ height ≤ blocks.length ∧ intact height bytes ∧
      replayBlocksFromState env genesis anchor (blocks.take height) params = .ok current ∧
      findLatestCheckpointPair checkpoints entries =
        .ok (some (height, lastHash anchor (blocks.take height))) ∧
      (ComesBack env current.state →
        findLatestCheckpointWithState env checkpoints genesis.chainId entries =
          .ok (some ((checkpointAt env anchor blocks height current.state).metadata, current.state))) := by
  induction entries with
  | nil => exact .inl ⟨rfl, rfl⟩
  | cons entry older ih =>
      obtain ⟨height, bytes⟩ := entry
      obtain ⟨newest, sorted⟩ := List.pairwise_cons.mp sorted
      simp only [findLatestCheckpointPair, findLatestCheckpointWithState]
      rcases first with ⟨unread, first⟩ | intactHere
      · rw [unread]
        exact ih sorted first
      · obtain ⟨inside, current, replayed, encoded⟩ := written height bytes intactHere
        rw [readable _ _ encoded]
        have version : ¬stateFormatVersion < (checkpointAt env anchor blocks height current.state).version :=
          lt_irrefl _
        by_cases zero : height = 0
        · subst zero
          have none : older = [] := by
            cases older with
            | nil => rfl
            | cons next rest => exact absurd (newest next List.mem_cons_self) (Nat.not_lt_zero _)
          subst none
          exact .inl ⟨rfl, rfl⟩
        · have paused := replay_paused replayed
          have at_height : current.state.blockHeight = height := by
            rw [paused.blockHeight, started, Nat.zero_add, List.length_take_of_le inside]
          refine .inr ⟨height, bytes, current, Nat.pos_of_ne_zero zero, inside, intactHere, replayed, ?_, ?_⟩
          · simp only [if_neg version]
            rw [if_neg (show ¬(checkpointAt env anchor blocks height current.state).metadata.height = 0
              from zero)]
            rfl
          · intro comesBack
            have verified := @verifiedState_checkpointAt env anchor blocks height _ comesBack at_height
            rw [paused.chainId] at verified
            simp only [verified]
            simp only [checkpointAt, checkStateFormatVersion_current, zero, if_false]
            rfl

end Checkpoints

section Runs

variable {store next : RocksDbStore} {blocks : List StoredBlock} {stored : StoredBlock}

/-- A store on its way from genesis, with all the blocks it was given. A checkpoint is written
from the state that replay has at the tip, and takes the blocks out of memory. -/
inductive Grown (env : Env) (checkpoints : CheckpointFormat) (records : RecordFormat)
    (genesis : StateStore) (params : ReplayParams) (anchor : BlockHash) :
    RocksDbStore → List StoredBlock → Prop where
  | fresh : Grown env checkpoints records genesis params anchor (.fresh anchor) []
  | append {store next : RocksDbStore} {blocks : List StoredBlock} {stored : StoredBlock} :
      Grown env checkpoints records genesis params anchor store blocks →
      store.appendStoredBlock env records stored = .ok next →
      Grown env checkpoints records genesis params anchor next (blocks ++ [stored])
  | checkpoint {store written : RocksDbStore} {blocks : List StoredBlock} {current : ReplayResult} :
      Grown env checkpoints records genesis params anchor store blocks →
      replayBlocksFromState env genesis anchor blocks params = .ok current →
      store.writeTrustedCheckpoint env checkpoints current.state = .ok written →
      Grown env checkpoints records genesis params anchor
        (written.compactChainToCheckpoint store.chain.height store.chain.expectedPrevHash) blocks
  | reopen {store again : RocksDbStore} {blocks : List StoredBlock} {other : BlockHash} :
      Grown env checkpoints records genesis params anchor store blocks →
      openInternal env checkpoints records store.db other = .ok again →
      Grown env checkpoints records genesis params anchor again blocks

structure Keeps (env : Env) (checkpoints : CheckpointFormat) (records : RecordFormat)
    (genesis : StateStore) (params : ReplayParams) (anchor : BlockHash) (store : RocksDbStore)
    (blocks : List StoredBlock) : Prop where
  disk : OnDisk env records anchor store.db blocks
  height : store.chain.height = blocks.length
  parent : store.chain.expectedPrevHash = lastHash anchor blocks
  known : store.chain.TipKnown
  checkpointed : ∀ height bytes, store.db.checkpoints[height]? = some bytes →
    CheckpointWritten env checkpoints genesis params anchor blocks height bytes

theorem fresh_keeps (anchor : BlockHash) :
    Keeps env checkpoints records genesis params anchor (.fresh anchor) [] where
  disk := ⟨rfl, rfl, rfl, by intro index stored found; simp at found⟩
  height := rfl
  parent := rfl
  known := ChainStore.newWithBase_tipKnown anchor (Nat.zero_le _)
  checkpointed height bytes found := by simp [RocksDbStore.fresh] at found

theorem CheckpointWritten.append {height : Nat} {bytes : Bytes}
    (written : CheckpointWritten env checkpoints genesis params anchor blocks height bytes)
    (stored : StoredBlock) :
    CheckpointWritten env checkpoints genesis params anchor (blocks ++ [stored]) height bytes := by
  obtain ⟨inside, current, replayed, encoded⟩ := written
  have same : (blocks ++ [stored]).take height = blocks.take height :=
    List.take_append_of_le_length inside
  refine ⟨by rw [List.length_append]; omega, current, by rw [same]; exact replayed, ?_⟩
  rw [checkpointAt, same]
  exact encoded

theorem Keeps.append (keeps : Keeps env checkpoints records genesis params anchor store blocks)
    (place : stored.block.header.height = 1 + blocks.length)
    (appended : store.appendStoredBlock env records stored = .ok next) :
    Keeps env checkpoints records genesis params anchor next (blocks ++ [stored]) := by
  obtain ⟨⟨formed, fits⟩, bytes, encoded, rfl⟩ := RocksDbStore.appendStoredBlock_eq_ok.mp appended
  have height : stored.metadata.height = 1 + blocks.length := by rw [formed.height, place]
  have long : (blocks ++ [stored]).length = 1 + blocks.length := by
    rw [List.length_append, List.length_singleton, Nat.add_comm]
  have accepted := appendStoredBlock_of_valid (validateStoredBlock_eq_ok.mpr ⟨formed, fits⟩)
  refine ⟨⟨keeps.disk.anchored, keeps.disk.unbased, ?_, ?_⟩, ?_, ?_, keeps.known.appendStoredBlock accepted, ?_⟩
  · rw [long]
    exact height
  · exact keeps.disk.written.concat encoded (by rw [height])
  · rw [long, ← height]
    exact ChainStore.height_linkBlock stored
  · exact (lastHash_concat anchor blocks stored).symm
  · intro height bytes found
    exact (keeps.checkpointed height bytes found).append stored

theorem Keeps.checkpoint (keeps : Keeps env checkpoints records genesis params anchor store blocks)
    {current : ReplayResult} {written : RocksDbStore}
    (replayed : replayBlocksFromState env genesis anchor blocks params = .ok current)
    (wrote : store.writeTrustedCheckpoint env checkpoints current.state = .ok written) :
    Keeps env checkpoints records genesis params anchor
      (written.compactChainToCheckpoint store.chain.height store.chain.expectedPrevHash) blocks := by
  simp only [RocksDbStore.writeTrustedCheckpoint, bind_eq_ok, okOr_eq_ok, pure_eq_ok] at wrote
  obtain ⟨⟨height, tip⟩, accepted, bytes, encoded, rfl⟩ := wrote
  have at_tip : current.state.blockHeight = store.chain.height := by
    simp only [ViperChain.writeTrustedCheckpoint, Option.ite_none_right_eq_some] at accepted
    exact accepted.1.1
  obtain ⟨rfl, rfl⟩ := Prod.mk.inj (writeTrustedCheckpoint_some accepted)
  obtain ⟨known, tipless⟩ := keeps.known.checkpoint store.chain.expectedPrevHash
  have whole : blocks.take blocks.length = blocks := List.take_length
  have record : checkpointRecord env store.chain current.state =
      checkpointAt env anchor blocks blocks.length current.state := by
    rw [checkpointRecord, checkpointAt, whole, at_tip, keeps.height, keeps.parent]
  refine ⟨⟨keeps.disk.anchored, keeps.disk.unbased, keeps.disk.tip, keeps.disk.written⟩, ?_, ?_, known, ?_⟩
  · exact (ChainStore.height_of_tipless tipless).trans keeps.height
  · rw [← keeps.parent]
    simp only [RocksDbStore.compactChainToCheckpoint, ChainStore.compactToCheckpoint,
      ChainStore.expectedPrevHash]
    cases store.chain.tipHash with
    | none => rfl
    | some hash => rfl
  · intro other otherBytes found
    simp only [RocksDbStore.compactChainToCheckpoint, Std.ExtTreeMap.getElem?_insert,
      compare_eq_iff_eq] at found
    split at found
    · next same =>
        subst same
        obtain rfl := Option.some.inj found
        rw [keeps.height]
        refine ⟨le_rfl, current, by rw [whole]; exact replayed, ?_⟩
        rw [← record]
        exact encoded
    · exact keeps.checkpointed other otherBytes found

theorem checkpointsNewestFirst_sorted (db : Database) :
    db.checkpointsNewestFirst.Pairwise fun newer older => older.1 < newer.1 :=
  List.pairwise_reverse.mpr (sorted_toList db.checkpoints)

theorem firstDecoded_of_all {intact : Nat → Bytes → Prop} {entries : List (Nat × Bytes)}
    (all : ∀ entry ∈ entries, intact entry.1 entry.2) : FirstDecoded checkpoints intact entries := by
  cases entries with
  | nil => trivial
  | cons newest older => exact .inr (all newest List.mem_cons_self)

theorem OnDisk.memoryBase {db : Database} {window : Option (Nat × BlockHash)}
    (disk : OnDisk env records anchor db blocks)
    (found : findLatestCheckpointPair checkpoints db.checkpointsNewestFirst = .ok window) :
    db.memoryBase checkpoints anchor = .ok ((window.map Prod.swap).getD (anchor, 0)) := by
  simp only [Database.memoryBase, found, disk.snapshotBase, bind_eq_ok, pure_eq_ok]
  refine ⟨window, rfl, ?_⟩
  cases window with
  | none => rfl
  | some pair => rfl

theorem Keeps.reopen (keeps : Keeps env checkpoints records genesis params anchor store blocks)
    (readable : checkpoints.Faithful) (faithful : records.Faithful) (started : genesis.blockHeight = 0)
    (chained : ChainFrom env anchor blocks) {again : RocksDbStore} {other : BlockHash}
    (opened : openInternal env checkpoints records store.db other = .ok again) :
    Keeps env checkpoints records genesis params anchor again blocks := by
  obtain ⟨base, inside, based⟩ : ∃ base ≤ blocks.length, store.db.memoryBase checkpoints anchor =
      .ok (lastHash anchor (blocks.take base), base) := by
    have all : FirstDecoded checkpoints (fun height bytes => store.db.checkpoints[height]? = some bytes)
        store.db.checkpointsNewestFirst := by
      refine firstDecoded_of_all fun entry member => ?_
      exact Std.ExtTreeMap.mem_toList_iff_getElem?_eq_some.mp (List.mem_reverse.mp member)
    rcases firstDecoded_found readable started (checkpointsNewestFirst_sorted store.db)
      keeps.checkpointed all with ⟨pair, _⟩ | ⟨height, _, _, _, inside, _, _, pair, _⟩
    · exact ⟨0, Nat.zero_le _, keeps.disk.memoryBase pair⟩
    · exact ⟨height, inside, keeps.disk.memoryBase pair⟩
  obtain ⟨chain, loaded, holds, anchored⟩ := keeps.disk.opens faithful chained inside based other
  obtain rfl := Except.ok.inj (loaded.symm.trans opened)
  have height : chain.height = blocks.length := by
    rw [holds.height, List.length_drop]
    omega
  refine ⟨keeps.disk, height, ?_, holds.known (by rw [height]; exact chained.room.le), keeps.checkpointed⟩
  rw [holds.parent, anchored, ← lastHash_append, List.take_append_drop]

theorem Grown.keeps (readable : checkpoints.Faithful) (faithful : records.Faithful)
    (started : genesis.blockHeight = 0)
    (grown : Grown env checkpoints records genesis params anchor store blocks) :
    ChainFrom env anchor blocks → Keeps env checkpoints records genesis params anchor store blocks := by
  induction grown with
  | fresh => exact fun _ => fresh_keeps anchor
  | append _ appended ih =>
      intro chained
      obtain ⟨front, place⟩ := chained.front
      exact (ih front).append place appended
  | checkpoint _ replayed wrote ih => exact fun chained => (ih chained).checkpoint replayed wrote
  | reopen _ opened ih =>
      exact fun chained => (ih chained).reopen readable faithful started chained opened

end Runs

section Tip

variable {db : Database} {chain : ChainStore} {blocks : List StoredBlock} {result : ReplayResult}
variable {base first : Nat} {parent : BlockHash}

theorem replayed_kept {start : StateStore} (cbor : FaithfulCbor env)
    (range : ∀ stored ∈ blocks, ∀ tx ∈ stored.includedTransactions, tx.InRange)
    (ran : replayBlocksFromState env start parent blocks params = .ok result) :
    ∀ stored ∈ blocks, BodiesKept env stored := by
  induction blocks using List.reverseRecOn generalizing result with
  | nil => exact fun stored member => absurd member List.not_mem_nil
  | append_singleton front last ih =>
      obtain ⟨before, ran, linked, block⟩ := replayBlocksFromState_concat.mp ran
      intro stored member
      rcases List.mem_append.mp member with earlier | only
      · exact ih (fun stored member => range stored (List.mem_append_left _ member)) ran stored earlier
      · obtain rfl := List.mem_singleton.mp only
        simp only [replayBlock, bind_eq_ok] at block
        obtain ⟨progress, executed, _⟩ := block
        have formed := (verifyStoredBlock_eq_ok.mp linked).2.2
        refine ⟨formed.bodies, fun item listed => ?_⟩
        obtain ⟨raw, encoded, hashed⟩ := replayTxs_hashed _ 0 executed item listed
        have inRange := range stored member item.1 (List.of_mem_zip listed).1
        exact ⟨raw, encoded, hashed, decodeTx_encodeTx cbor inRange encoded⟩

theorem replayed_structured (started : genesis.blockHeight = 0)
    (ran : replayBlocksFromState env genesis anchor blocks params = .ok result) :
    verifyStoredBlocksStructure env 1 anchor blocks = .ok () := by
  simp only [replayBlocksFromState, bind_eq_ok, started] at ran
  exact ran.choose_spec.1

theorem structured_heights
    (structured : verifyStoredBlocksStructure env first parent blocks = .ok ()) :
    ∀ stored ∈ blocks, first ≤ stored.metadata.height := by
  induction blocks generalizing first parent with
  | nil => exact fun stored member => absurd member List.not_mem_nil
  | cons head rest ih =>
      simp only [verifyStoredBlocksStructure, bind_eq_ok] at structured
      obtain ⟨_, checked, structured⟩ := structured
      obtain ⟨height, _, formed⟩ := verifyStoredBlock_eq_ok.mp checked
      intro stored member
      rcases List.mem_cons.mp member with rfl | later
      · rw [formed.height, height]
      · exact Nat.le_of_succ_le (ih structured stored later)

theorem structured_head {head : StoredBlock}
    (structured : verifyStoredBlocksStructure env first parent blocks = .ok ())
    (found : blocks.head? = some head) : head.metadata.height = first := by
  cases blocks with
  | nil => simp at found
  | cons other rest =>
      obtain rfl : other = head := by simpa using found
      simp only [verifyStoredBlocksStructure, bind_eq_ok] at structured
      obtain ⟨height, _, formed⟩ := verifyStoredBlock_eq_ok.mp structured.choose_spec.1
      rw [formed.height, height]

theorem recoverFromChain_of_holds (holds : Holds chain 0 blocks) (anchored : chain.anchorPrevHash = anchor)
    (structured : verifyStoredBlocksStructure env 1 anchor blocks = .ok ()) :
    recoverFromChain env chain genesis params = replayBlocksFromState env genesis anchor blocks params := by
  have consistent : verifyChainConsistency env chain = .ok () := by
    simp only [verifyChainConsistency, bind_eq_ok, require_eq_ok, decide_eq_true_eq, holds.inOrder,
      holds.parent, anchored]
    exact ⟨(), structured, rfl⟩
  rw [recoverFromChain, consistent, holds.inOrder, anchored]
  rfl

theorem readEvery_written {store : RocksDbStore} (faithful : records.Faithful)
    (written : WrittenFrom env records store.db first blocks)
    (kept : ∀ stored ∈ blocks, BodiesKept env stored) :
    store.readEvery env records (List.range' first blocks.length) = .ok blocks := by
  induction blocks generalizing first with
  | nil => rfl
  | cons stored rest ih =>
      obtain ⟨bytes, encoded, placed⟩ := written 0 stored rfl
      have read := (readStoredBlockFromDb_written faithful encoded placed).mpr
        (kept stored List.mem_cons_self)
      have later := ih written.tail fun other member => kept other (List.mem_cons_of_mem _ member)
      rw [RocksDbStore.readEvery] at later ⊢
      rw [List.length_cons, List.range'_succ, List.mapM_cons, later]
      rw [Nat.add_zero] at read
      rw [read]
      rfl

theorem OnDisk.recoverTip (disk : OnDisk env records anchor db blocks) (faithful : records.Faithful)
    (structured : verifyStoredBlocksStructure env 1 anchor blocks = .ok ())
    (kept : ∀ stored ∈ blocks, BodiesKept env stored) (holds : Holds chain base (blocks.drop base))
    (below : base = 0 ∨ base < blocks.length)
    (anchored : chain.anchorPrevHash = lastHash anchor (blocks.take base)) :
    (RocksDbStore.mk db chain anchor).recoverTip env records genesis params =
      (replayBlocksFromState env genesis anchor blocks params).mapError .replay := by
  have whole : base = 0 → recoverFromChain env chain genesis params =
      replayBlocksFromState env genesis anchor blocks params := by
    rintro rfl
    exact recoverFromChain_of_holds holds anchored structured
  have height : chain.height = blocks.length := by
    rw [holds.height, List.length_drop]
    omega
  have start : Database.nextHeight (db.snapshotBaseHeight.getD 0) = .ok 1 := by
    rw [disk.unbased]
    rfl
  simp only [RocksDbStore.recoverTip, height, start]
  by_cases empty : blocks.length = 0
  · rw [if_pos empty, whole (by omega)]
  · obtain ⟨head, found⟩ : ∃ head, (blocks.drop base).head? = some head := by
      cases rest : blocks.drop base with
      | nil =>
          have := List.drop_eq_nil_iff.mp rest
          omega
      | cons head rest => exact ⟨head, rfl⟩
    have first := structured_head (structured_drop structured (by omega)) found
    rw [if_neg empty]
    simp only [bind, Except.bind, holds.inOrder, found, Option.map_some, Option.getD_some, first]
    by_cases zero : base = 0
    · rw [if_neg (by omega), whole zero]
    · have read := @readEvery_written env records blocks 1 ⟨db, chain, anchor⟩ faithful disk.written kept
      rw [if_pos (by omega), Database.heights, Nat.add_sub_cancel, read]

end Tip

section Outcome

variable {db : Database} {chain : ChainStore} {blocks : List StoredBlock} {result : ReplayResult}
variable {entries : List (Nat × Bytes)} {base : Nat} {other : BlockHash} {store : RocksDbStore}

def Recovers (env : Env) (checkpoints : CheckpointFormat) (records : RecordFormat) (db : Database)
    (other : BlockHash) (genesis : StateStore) (params : ReplayParams) (height : Nat)
    (state : StateStore) : Prop :=
  ∃ store recovered, openInternal env checkpoints records db other = .ok store ∧
    store.recoverTipWithCheckpoint env checkpoints records genesis params = .ok recovered ∧
    recovered.height = height ∧ recovered.state = state

def tipHeight (blocks : List StoredBlock) : Nat :=
  (blocks.getLast?.map fun stored => stored.metadata.height).getD 0

structure Intact (env : Env) (genesis : StateStore) (params : ReplayParams) (anchor : BlockHash)
    (store : RocksDbStore) (blocks : List StoredBlock) (height : Nat) (bytes : Bytes) : Prop where
  kept : store.db.checkpoints[height]? = some bytes
  comesBack : 0 < height → ∀ current,
    replayBlocksFromState env genesis anchor (blocks.take height) params = .ok current →
      ComesBack env current.state

def NamesBlock (checkpoints : CheckpointFormat) (anchor : BlockHash) (blocks : List StoredBlock)
    (bytes : Bytes) : Prop :=
  ∃ record, checkpoints.read bytes = some record ∧ record.metadata.height < blocks.length ∧
    record.metadata.tipHash = lastHash anchor (blocks.take record.metadata.height)

def NoneVerifies (env : Env) (checkpoints : CheckpointFormat) (chainId : Bytes)
    (entries : List (Nat × Bytes)) : Prop :=
  ∀ entry ∈ entries, ∀ record, checkpoints.read entry.2 = some record →
    record.version = stateFormatVersion ∧ record.metadata.height ≠ 0 ∧
      verifiedState env record chainId = none

def Usable (env : Env) (checkpoints : CheckpointFormat) (genesis : StateStore) (params : ReplayParams)
    (anchor : BlockHash) (store : RocksDbStore) (blocks : List StoredBlock)
    (entries : List (Nat × Bytes)) : Prop :=
  FirstDecoded checkpoints (Intact env genesis params anchor store blocks) entries ∨
    NoneVerifies env checkpoints genesis.chainId entries ∧
      FirstDecoded checkpoints (fun _ => NamesBlock checkpoints anchor blocks) entries

theorem NoneVerifies.found (none : NoneVerifies env checkpoints genesis.chainId entries) :
    findLatestCheckpointWithState env checkpoints genesis.chainId entries = .ok Option.none := by
  induction entries with
  | nil => rfl
  | cons entry older ih =>
      have later := ih fun next member => none next (List.mem_cons_of_mem _ member)
      rw [findLatestCheckpointWithState]
      cases read : checkpoints.read entry.2 with
      | none => exact later
      | some record =>
          obtain ⟨version, positive, unverified⟩ := none entry List.mem_cons_self record read
          simp only [version, checkStateFormatVersion_current, unverified, if_neg positive]
          exact later

theorem NoneVerifies.stands (none : NoneVerifies env checkpoints genesis.chainId entries)
    (first : FirstDecoded checkpoints (fun _ => NamesBlock checkpoints anchor blocks) entries) :
    ∃ base window, (base = 0 ∨ base < blocks.length) ∧
      findLatestCheckpointPair checkpoints entries = .ok window ∧
      (window.map Prod.swap).getD (anchor, 0) = (lastHash anchor (blocks.take base), base) := by
  induction entries with
  | nil => exact ⟨0, Option.none, .inl rfl, rfl, rfl⟩
  | cons entry older ih =>
      obtain ⟨key, bytes⟩ := entry
      rcases first with ⟨unread, first⟩ | ⟨record, read, below, named⟩
      · obtain ⟨base, window, inside, found, same⟩ :=
          ih (fun next member => none next (List.mem_cons_of_mem _ member)) first
        refine ⟨base, window, inside, ?_, same⟩
        rw [findLatestCheckpointPair, unread]
        exact found
      · obtain ⟨version, positive, _⟩ := none _ List.mem_cons_self record read
        refine ⟨record.metadata.height, some (record.metadata.height, record.metadata.tipHash), .inr below,
          ?_, by rw [← named]; rfl⟩
        simp only [findLatestCheckpointPair, read, version, lt_irrefl, if_false, if_neg positive]

theorem recoverTipWithCheckpoint_none
    (found : findLatestCheckpointWithState env checkpoints genesis.chainId
      store.db.checkpointsNewestFirst = .ok none) :
    store.recoverTipWithCheckpoint env checkpoints records genesis params =
      store.recoverTip env records genesis params := by
  rw [RocksDbStore.recoverTipWithCheckpoint, found]
  rfl

theorem recoverTipWithCheckpoint_some {metadata : TrustedCheckpointMetadata} {state : StateStore}
    (holds : Holds store.chain base blocks) (height : metadata.height = base)
    (structured : verifyStoredBlocksStructure env (base + 1) metadata.tipHash blocks = .ok ())
    (found : findLatestCheckpointWithState env checkpoints genesis.chainId
      store.db.checkpointsNewestFirst = .ok (some (metadata, state))) :
    store.recoverTipWithCheckpoint env checkpoints records genesis params =
      (replayBlocksFromState env state metadata.tipHash blocks params).mapError .replay := by
  have tail : store.chain.blocksInOrder.filter
      (fun stored => metadata.height < stored.metadata.height) = blocks := by
    rw [holds.inOrder, List.filter_eq_self]
    intro stored member
    have above := structured_heights structured stored member
    rw [decide_eq_true_eq, height]
    omega
  simp only [RocksDbStore.recoverTipWithCheckpoint, found, bind, Except.bind, tail]

theorem replayed_height (started : genesis.blockHeight = 0)
    (ran : replayBlocksFromState env genesis anchor blocks params = .ok result) :
    result.height = tipHeight blocks := by
  have paused := replay_paused ran
  have height : result.height = blocks.length := by
    rw [paused.resumed]
    exact paused.blockHeight.trans (by rw [started, Nat.zero_add])
  rw [height]
  cases blocks using List.reverseRecOn with
  | nil => rfl
  | append_singleton front last =>
      have structured := replayed_structured started ran
      obtain ⟨place, _, formed⟩ :=
        verifyStoredBlock_eq_ok.mp (verifyStoredBlocksStructure_concat.mp structured).2
      simp only [tipHeight, List.getLast?_append, List.getLast?_singleton, Option.some_or,
        Option.map_some, Option.getD_some, formed.height, place, List.length_append, List.length_singleton]
      omega

theorem OnDisk.recovers (disk : OnDisk env records anchor db blocks) (readable : checkpoints.Faithful)
    (faithful : records.Faithful) (chained : ChainFrom env anchor blocks)
    (started : genesis.blockHeight = 0)
    (ran : replayBlocksFromState env genesis anchor blocks params = .ok result)
    (written : ∀ height bytes, store.db.checkpoints[height]? = some bytes →
      CheckpointWritten env checkpoints genesis params anchor blocks height bytes)
    (usable : Usable env checkpoints genesis params anchor store blocks db.checkpointsNewestFirst)
    (other : BlockHash) :
    Recovers env checkpoints records db other genesis params (tipHeight blocks) result.state := by
  suffices recovered : ∃ store, openInternal env checkpoints records db other = .ok store ∧
      store.recoverTipWithCheckpoint env checkpoints records genesis params = .ok result by
    obtain ⟨store, opened, tip⟩ := recovered
    exact ⟨store, result, opened, tip, replayed_height started ran, rfl⟩
  -- Without a verified checkpoint the blocks are replayed from genesis.
  have fromGenesis : ∀ base, (base = 0 ∨ base < blocks.length) →
      db.memoryBase checkpoints anchor = .ok (lastHash anchor (blocks.take base), base) →
      findLatestCheckpointWithState env checkpoints genesis.chainId db.checkpointsNewestFirst = .ok none →
      ∃ store, openInternal env checkpoints records db other = .ok store ∧
        store.recoverTipWithCheckpoint env checkpoints records genesis params = .ok result := by
    intro base below based unverified
    obtain ⟨chain, opened, holds, anchored⟩ := disk.opens faithful chained (by omega) based other
    refine ⟨_, opened, ?_⟩
    rw [recoverTipWithCheckpoint_none unverified]
    rw [disk.recoverTip faithful chained.structured chained.kept holds below anchored, ran]
    rfl
  rcases usable with first | ⟨none, first⟩
  · rcases firstDecoded_found readable started (checkpointsNewestFirst_sorted db)
      (fun height bytes intact => written height bytes intact.kept) first with
      ⟨pair, unverified⟩ | ⟨height, bytes, current, positive, inside, intact, before, pair, verified⟩
    · exact fromGenesis 0 (.inl rfl) (disk.memoryBase pair) unverified
    · obtain ⟨chain, opened, holds, _⟩ := disk.opens faithful chained inside (disk.memoryBase pair) other
      refine ⟨_, opened, ?_⟩
      have found := verified (intact.comesBack positive current before)
      have structured := structured_drop chained.structured inside
      rw [@recoverTipWithCheckpoint_some env checkpoints records genesis params (blocks.drop height) height
        ⟨db, chain, anchor⟩ _ _ holds rfl structured found]
      have room : genesis.blockHeight + (blocks.take height ++ blocks.drop height).length ≤ u64Max := by
        rw [List.take_append_drop, started, Nat.zero_add]
        exact chained.room.le
      rw [← List.take_append_drop height blocks] at ran
      obtain ⟨middle, again, rest⟩ := (replay_append room).mp ran
      obtain rfl := Except.ok.inj (before.symm.trans again)
      rw [(replay_paused before).tipHash] at rest
      simp only [checkpointAt]
      rw [rest]
      rfl
  · obtain ⟨base, window, below, found, same⟩ := none.stands first
    have based := disk.memoryBase found
    rw [same] at based
    exact fromGenesis base below based none.found

/-- Recovery reaches the tip of every store that has grown from genesis, as long as the damage
leaves opening and recovery a checkpoint in common, or none to either. -/
theorem recoverTipWithCheckpoint_reachesTip (env : Env) (cbor : FaithfulCbor env)
    (checkpoints : CheckpointFormat) (readable : checkpoints.Faithful) (records : RecordFormat)
    (faithful : records.Faithful) (genesis : StateStore) (started : genesis.blockHeight = 0)
    (params : ReplayParams) (anchor : BlockHash) (store : RocksDbStore) (blocks : List StoredBlock)
    (grown : Grown env checkpoints records genesis params anchor store blocks) (result : ReplayResult)
    (replayed : replayBlocksFromState env genesis anchor blocks params = .ok result)
    (range : ∀ stored ∈ blocks, ∀ tx ∈ stored.includedTransactions, tx.InRange)
    (distinct : (blocks.map fun stored => stored.metadata.blockHash).Nodup)
    (room : blocks.length < u64Max) (damaged : Std.ExtTreeMap Nat Bytes)
    (usable : Usable env checkpoints genesis params anchor store blocks damaged.toList.reverse)
    (other : BlockHash) :
    Recovers env checkpoints records { store.db with checkpoints := damaged } other genesis params
      (tipHeight blocks) result.state := by
  have chained : ChainFrom env anchor blocks :=
    ⟨replayed_structured started replayed, replayed_kept cbor range replayed, distinct, room⟩
  have keeps := grown.keeps readable faithful started chained
  have disk : OnDisk env records anchor { store.db with checkpoints := damaged } blocks :=
    ⟨keeps.disk.anchored, keeps.disk.unbased, keeps.disk.tip, keeps.disk.written⟩
  exact disk.recovers readable faithful chained started replayed keeps.checkpointed usable other

end Outcome

section Sample

theorem peerBlock_wellFormed {draft : BlockHeader} {root : BlockHash} {bodies : List Transaction}
    {hashes : List TxHash} (counted : hashes.length = bodies.length) :
    WellFormed env (peerBlock env draft root bodies hashes) :=
  ⟨rfl, rfl, rfl, rfl, rfl, counted, rfl⟩

def emptyOn (env : Env) (base : StateStore) (anchor : BlockHash) (params : ReplayParams) : StoredBlock :=
  let draft := draftHeader env base anchor [] []
  peerBlock env draft ((finishReplay env params draft { state := base }).stateRoot env) [] []

theorem peerBlock_stateRoot {draft : BlockHeader} {root : BlockHash} {bodies : List Transaction}
    {hashes : List TxHash} : (peerBlock env draft root bodies hashes).metadata.stateRoot = root := rfl

theorem emptyOn_replays (room : genesis.blockHeight + 1 ≤ u64Max) :
    ∃ result, replayBlocksFromState env genesis anchor [emptyOn env genesis anchor params] params =
        .ok result ∧
      result.state.stateRoot env = (emptyOn env genesis anchor params).metadata.stateRoot := by
  have height : (draftHeader env genesis anchor [] []).height = satAdd64 genesis.blockHeight 1 :=
    (min_eq_left room).symm
  obtain ⟨_, result, _, whole, finished⟩ := @replay_peerBlock env genesis anchor _ params
    (draftHeader env genesis anchor [] []) [] [] { state := genesis } height rfl rfl rfl rfl rfl
  exact ⟨result, whole, by rw [finished, emptyOn, peerBlock_stateRoot]⟩

theorem exists_checkpointed (started : genesis.blockHeight = 0) (bad : TrustedCheckpointRecord) :
    ∃ checkpoints : CheckpointFormat, ∃ records : RecordFormat, ∃ store result,
      checkpoints.Faithful ∧ records.Faithful ∧
      Grown env checkpoints records genesis params anchor store [emptyOn env genesis anchor params] ∧
      replayBlocksFromState env genesis anchor [emptyOn env genesis anchor params] params =
        .ok result ∧
      store.db.checkpoints = (∅ : Std.ExtTreeMap Nat Bytes).insert 1 [0] ∧
      checkpoints.read [1] = some bad ∧ checkpoints.read [2] = none := by
  classical
  let first := emptyOn env genesis anchor params
  obtain ⟨result, replayed, root⟩ :=
    @emptyOn_replays env genesis params anchor (by rw [started]; decide)
  let chain := (ChainStore.newWithBase anchor 0).linkBlock first
  let record := checkpointRecord env chain result.state
  let checkpoints : CheckpointFormat :=
    { write := fun other => if other = record then some [0] else none
      read := fun bytes => if bytes = [0] then some record else if bytes = [1] then some bad else none }
  have readable : checkpoints.Faithful := by
    intro other bytes written
    simp only [checkpoints, Option.ite_none_right_eq_some] at written
    obtain ⟨rfl, same⟩ := written
    obtain rfl := Option.some.inj same
    simp [checkpoints]
  have height : first.block.header.height = 1 := congrArg (· + 1) started
  have fits : FitsOn env (.newWithBase anchor 0) first :=
    ⟨Std.ExtTreeMap.contains_empty, Std.ExtTreeMap.contains_empty, height, rfl⟩
  obtain ⟨next, appended, held, none⟩ : ∃ next, (RocksDbStore.fresh anchor).appendStoredBlock env
      (tableFormat [bareRecord first]) first = .ok next ∧ next.chain = chain ∧
        next.db.checkpoints = ∅ :=
    ⟨_, RocksDbStore.appendStoredBlock_eq_ok.mpr
      ⟨⟨peerBlock_wellFormed rfl, fits⟩, [0], bareRecord_encoded rfl [], rfl⟩, rfl, rfl⟩
  have tip : result.state.blockHeight = 1 := by
    rw [(replay_paused replayed).blockHeight, started]
    rfl
  have own : first.metadata.height = 1 := by rw [← height]; rfl
  have found : chain.getMetadataByHeight 1 = some first.metadata := by
    simp [chain, ChainStore.getMetadataByHeight, ChainStore.getStoredBlockByHeight, ChainStore.linkBlock, own]
  have accepted : ViperChain.writeTrustedCheckpoint env chain result.state true =
      some (1, chain.expectedPrevHash) := by
    simp only [ViperChain.writeTrustedCheckpoint, tip, one_ne_zero, if_false, found, Option.map_some,
      Option.getD_some, root]
    exact if_pos ⟨own ▸ (ChainStore.height_linkBlock first).symm, rfl, rfl, trivial⟩
  obtain ⟨written, wrote, only⟩ : ∃ written,
      next.writeTrustedCheckpoint env checkpoints result.state = .ok written ∧
        written.db.checkpoints = (∅ : Std.ExtTreeMap Nat Bytes).insert 1 [0] := by
    simp only [RocksDbStore.writeTrustedCheckpoint, bind_eq_ok, okOr_eq_ok, pure_eq_ok, held]
    exact ⟨_, ⟨_, accepted, [0], if_pos rfl, rfl⟩, by rw [← none]⟩
  exact ⟨checkpoints, tableFormat [bareRecord first], _, result, readable, tableFormat_faithful _,
    .checkpoint (.append .fresh appended) replayed wrote, replayed, only, by simp [checkpoints],
    by simp [checkpoints]⟩

theorem recoverTip_emptyTail {db : Database} {chain : ChainStore} {height : Nat} (positive : 0 < height)
    (unbased : db.snapshotBaseHeight.getD 0 = 0) (holds : Holds chain height []) :
    (RocksDbStore.mk db chain anchor).recoverTip env records genesis params =
      .ok (.start env genesis chain.anchorPrevHash) := by
  have start : Database.nextHeight (db.snapshotBaseHeight.getD 0) = .ok 1 := by
    rw [unbased]
    rfl
  have tip : chain.height ≠ 0 := by
    rw [holds.height, List.length_nil]
    omega
  have empty : recoverFromChain env chain genesis params = .ok (.start env genesis chain.anchorPrevHash) := by
    simp only [recoverFromChain, verifyChainConsistency, holds.inOrder, holds.parent, lastHash_nil,
      List.getLast?_nil, Option.map_none, Option.getD_none, decide_true]
    rfl
  simp only [RocksDbStore.recoverTip, if_neg tip, start, holds.inOrder, empty]
  rfl

/-- A checkpoint at the tip that still decodes but does not verify: recovery reports success and
is back at genesis. -/
theorem unverifiedCheckpoint_losesTip : ∃ checkpoints : CheckpointFormat, ∃ records : RecordFormat,
    ∃ store blocks result, ∃ damaged : Std.ExtTreeMap Nat Bytes,
      checkpoints.Faithful ∧ records.Faithful ∧
      Grown sampleEnv checkpoints records sampleGenesis pricedParams (Bytes32.fill 0) store blocks ∧
      replayBlocksFromState sampleEnv sampleGenesis (Bytes32.fill 0) blocks pricedParams = .ok result ∧
      damaged.keys = store.db.checkpoints.keys ∧
      ¬Recovers sampleEnv checkpoints records { store.db with checkpoints := damaged } (Bytes32.fill 0)
        sampleGenesis pricedParams (tipHeight blocks) result.state := by
  let first := emptyOn sampleEnv sampleGenesis (Bytes32.fill 0) pricedParams
  let bad : TrustedCheckpointRecord :=
    ⟨stateFormatVersion, ⟨1, first.metadata.blockHash, Bytes32.fill 0⟩, stateIntoRecord sampleGenesis⟩
  obtain ⟨checkpoints, records, store, result, readable, faithful, grown, replayed, only, decodes, _⟩ :=
    @exists_checkpointed sampleEnv sampleGenesis pricedParams (Bytes32.fill 0) rfl bad
  let damaged : Std.ExtTreeMap Nat Bytes := (∅ : Std.ExtTreeMap Nat Bytes).insert 1 [1]
  refine ⟨checkpoints, records, store, [first], result, damaged, readable, faithful, grown, replayed,
    by rw [only]; rfl, ?_⟩
  have chained : ChainFrom sampleEnv (Bytes32.fill 0) [first] :=
    ⟨replayed_structured rfl replayed, replayed_kept sampleEnv_faithful (by simp [first, emptyOn, peerBlock, storedBlock])
      replayed, List.nodup_singleton _, by decide⟩
  have keeps := grown.keeps readable faithful rfl chained
  have disk : OnDisk sampleEnv records (Bytes32.fill 0) { store.db with checkpoints := damaged } [first] :=
    ⟨keeps.disk.anchored, keeps.disk.unbased, keeps.disk.tip, keeps.disk.written⟩
  have entries : ({ store.db with checkpoints := damaged } : Database).checkpointsNewestFirst = [(1, [1])] :=
    rfl
  obtain ⟨after, restored, same, _⟩ := sampleGenesis_representable.survives sampleGenesis_onChain
  have unverified : verifiedState sampleEnv bad sampleGenesis.chainId = none := by
    have other : after.blockHeight ≠ 1 := by rw [same.blockHeight]; decide
    simp only [verifiedState, bad, restored, Except.toOption]
    simp [Option.filter, other]
  have none : NoneVerifies sampleEnv checkpoints sampleGenesis.chainId [(1, [1])] := by
    intro entry member record read
    obtain rfl := List.mem_singleton.mp member
    obtain rfl := Option.some.inj (decodes.symm.trans read)
    exact ⟨rfl, by decide, unverified⟩
  have pair : findLatestCheckpointPair checkpoints [(1, [1])] =
      .ok (some (1, first.metadata.blockHash)) := by
    simp only [findLatestCheckpointPair, decodes]
    rfl
  rw [← entries] at pair none
  obtain ⟨chain, opened, holds, _⟩ := disk.opens faithful chained le_rfl (disk.memoryBase pair) (Bytes32.fill 0)
  rintro ⟨again, recovered, openedAgain, tip, height, _⟩
  obtain rfl := Except.ok.inj (opened.symm.trans openedAgain)
  rw [recoverTipWithCheckpoint_none none.found,
    recoverTip_emptyTail one_pos disk.unbased holds] at tip
  obtain rfl := Except.ok.inj tip
  exact absurd (show (0 : Nat) = 1 from height) zero_ne_one

theorem recoverTipWithCheckpoint_reachesTip_unread : ∃ checkpoints : CheckpointFormat,
    ∃ records : RecordFormat, ∃ store : RocksDbStore, ∃ result, ∃ damaged : Std.ExtTreeMap Nat Bytes,
      damaged.keys = store.db.checkpoints.keys ∧
      Recovers sampleEnv checkpoints records { store.db with checkpoints := damaged } (Bytes32.fill 1)
        sampleGenesis pricedParams 1 result := by
  let first := emptyOn sampleEnv sampleGenesis (Bytes32.fill 0) pricedParams
  obtain ⟨checkpoints, records, store, result, readable, faithful, grown, replayed, only, _, unread⟩ :=
    @exists_checkpointed sampleEnv sampleGenesis pricedParams (Bytes32.fill 0) rfl
      ⟨stateFormatVersion, ⟨1, first.metadata.blockHash, Bytes32.fill 0⟩, stateIntoRecord sampleGenesis⟩
  let damaged : Std.ExtTreeMap Nat Bytes := (∅ : Std.ExtTreeMap Nat Bytes).insert 1 [2]
  have entries : damaged.toList.reverse = [(1, [2])] := rfl
  have usable : Usable sampleEnv checkpoints sampleGenesis pricedParams (Bytes32.fill 0) store [first]
      damaged.toList.reverse := by
    rw [entries]
    exact .inl (.inl ⟨unread, trivial⟩)
  exact ⟨checkpoints, records, store, result.state, damaged, by rw [only]; rfl,
    recoverTipWithCheckpoint_reachesTip sampleEnv sampleEnv_faithful checkpoints readable records
      faithful sampleGenesis rfl pricedParams (Bytes32.fill 0) store [first] grown result replayed
      (by simp [first, emptyOn, peerBlock, storedBlock]) (List.nodup_singleton _) (by decide) damaged
      usable (Bytes32.fill 1)⟩

end Sample

end ViperChain.Storage
