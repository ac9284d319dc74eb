import ViperChain.Storage.ColdStorage

/-!
What an import of cold storage leaves in the store. `verifiedImport` is what its description
promises: a batch is checked and then written as a whole.
-/

namespace ViperChain.Storage

open Fallible TextDigits

section Promise

variable (env : Env) (tools : ColdTools) (directory : Directory)

def readFrames : Nat → Bytes → Option (List StoredBlock)
  | 0, _ => some []
  | fuel + 1, bytes =>
      if bytes.isEmpty then some []
      else match decodeBlockBytesFromReader env tools bytes with
        | .error _ => none
        | .ok (stored, rest) => (readFrames fuel rest).map (stored :: ·)

def verifyBatch (batch : BatchEntry) : Option (List StoredBlock) := do
  let (raw, expectedCount) ← (openBatch tools directory batch).toOption
  let blocks ← readFrames env tools raw.length raw
  let expectedAnchor ← (decodeBlockHashHex batch.anchorBlockHash batch.fileName).toOption
  if blocks.map (·.metadata.height) = List.range' batch.lowHeight expectedCount ∧
      (∀ stored ∈ blocks, stored.metadata.height ≤ u64Max) ∧
      blocks.getLast?.map (·.metadata.blockHash) = some expectedAnchor
  then some blocks else none

def appendBlocks (store : RocksDbChainStore) (blocks : List StoredBlock) :
    Except BlockStorageError RocksDbChainStore :=
  blocks.foldlM (fun store stored => store.appendStoredBlock env tools.records stored) store

def wholeBatch (batch : BatchEntry) (store : RocksDbChainStore) : Option RocksDbChainStore := do
  let blocks ← verifyBatch env tools directory batch
  (appendBlocks env tools store blocks).toOption

def wholeBatches : List BatchEntry → RocksDbChainStore → RocksDbChainStore
  | [], store => store
  | batch :: rest, store =>
      match wholeBatch env tools directory batch store with
      | none => store
      | some next => wholeBatches rest next

def verifiedImport (store : RocksDbChainStore) (opts : ImportOptions) : RocksDbChainStore :=
  match admitManifest env tools store directory opts with
  | .error _ => store
  | .ok (manifest, _) => wholeBatches env tools directory manifest.batches store

/-- Nothing of the batch is written: it cannot be opened, or its first frame cannot be read, is at
another height or does not go on top of the store. -/
def RefusedAtStart (batch : BatchEntry) (store : RocksDbChainStore) : Prop :=
  ∀ raw expectedCount stored rest, openBatch tools directory batch = .ok (raw, expectedCount) →
    raw ≠ [] → decodeBlockBytesFromReader env tools raw = .ok (stored, rest) →
    batch.lowHeight ≤ u64Max → stored.metadata.height = batch.lowHeight →
    ∀ next, store.appendStoredBlock env tools.records stored ≠ .ok next

def EndsBetweenBatches : List BatchEntry → RocksDbChainStore → Prop
  | [], _ => True
  | batch :: rest, store =>
      match wholeBatch env tools directory batch store with
      | none => RefusedAtStart env tools directory batch store
      | some next => EndsBetweenBatches rest next

end Promise

variable {env : Env} {tools : ColdTools} {directory : Directory} {batch : BatchEntry}
variable {store next : RocksDbChainStore}

section Growth

theorem appendStoredBlock_fresh {stored : StoredBlock}
    (appended : store.appendStoredBlock env tools.records stored = .ok next) :
    store.chain.byHash.contains stored.metadata.blockHash = false ∧
      next.chain.byHash = store.chain.byHash.insert stored.metadata.blockHash stored := by
  obtain ⟨⟨wellFormed, fits⟩, _, _, rfl⟩ := appendStoredBlock_eq_ok.mp appended
  exact ⟨wellFormed.hashed ▸ fits.freshHash, rfl⟩

theorem appendStoredBlock_keeps {stored : StoredBlock} {hash : BlockHash}
    (appended : store.appendStoredBlock env tools.records stored = .ok next)
    (present : store.chain.byHash.contains hash = true) :
    next.chain.byHash.contains hash = true := by
  rw [(appendStoredBlock_fresh appended).2, Std.ExtTreeMap.contains_insert, present, Bool.or_true]

theorem replayFrame_eq_ok {bytes rest : Bytes} {progress after : BatchProgress} :
    replayFrame env tools batch bytes progress = .ok (after, rest) ↔
      ∃ stored, decodeBlockBytesFromReader env tools bytes = .ok (stored, rest) ∧
        batch.lowHeight + progress.decodedInBatch ≤ u64Max ∧
        stored.metadata.height = batch.lowHeight + progress.decodedInBatch ∧
        progress.store.appendStoredBlock env tools.records stored = .ok after.store ∧
        after.decodedInBatch = progress.decodedInBatch + 1 ∧
        after.lastBlockHash = stored.metadata.blockHash := by
  simp only [replayFrame, bind_eq_ok, mapError_eq_ok, require_eq_ok, pure_eq_ok, decide_eq_true_eq,
    exists_const, Prod.mk.injEq, Prod.exists]
  constructor
  · rintro ⟨stored, _, decoded, bounded, placed, store, appended, rfl, rfl⟩
    exact ⟨stored, decoded, bounded, placed, appended, rfl, rfl⟩
  · obtain ⟨store, decodedInBatch, lastBlockHash⟩ := after
    rintro ⟨stored, decoded, bounded, placed, appended, rfl, rfl⟩
    exact ⟨stored, rest, decoded, bounded, placed, store, appended, rfl, rfl⟩

theorem replayFrames_keeps {hash : BlockHash} : ∀ (fuel : Nat) (bytes : Bytes) (progress : BatchProgress),
    progress.store.chain.byHash.contains hash = true →
    (replayFrames env tools batch fuel bytes progress).1.store.chain.byHash.contains hash = true := by
  intro fuel
  induction fuel with
  | zero => exact fun _ _ present => present
  | succ fuel ih =>
      intro bytes progress present
      rw [replayFrames]
      split
      · exact present
      · split
        · exact present
        · rename_i after rest replayed
          obtain ⟨_, _, _, _, appended, _⟩ := replayFrame_eq_ok.mp replayed
          exact ih rest after (appendStoredBlock_keeps appended present)

theorem replayFrames_store_eq {fuel : Nat} {bytes : Bytes} {progress : BatchProgress} :
    (replayFrames env tools batch (fuel + 1) bytes progress).1.store = progress.store ↔
      (bytes ≠ [] → ∀ after rest, replayFrame env tools batch bytes progress ≠ .ok (after, rest)) := by
  by_cases empty : bytes = []
  · simp [replayFrames, empty]
  · have occupied : bytes.isEmpty = false := by simpa using empty
    cases replayed : replayFrame env tools batch bytes progress with
    | error error => simp [replayFrames, occupied, replayed]
    | ok item =>
        obtain ⟨after, rest⟩ := item
        obtain ⟨stored, _, _, _, appended, _, last⟩ := replayFrame_eq_ok.mp replayed
        obtain ⟨fresh, inserted⟩ := appendStoredBlock_fresh appended
        have present : after.store.chain.byHash.contains stored.metadata.blockHash = true := by
          rw [inserted, Std.ExtTreeMap.contains_insert_self]
        have kept := @replayFrames_keeps env tools batch _ fuel rest after present
        constructor
        · intro same
          rw [replayFrames, occupied, if_neg (by simp), replayed] at same
          rw [same, fresh] at kept
          exact absurd kept (by simp)
        · intro never
          exact absurd rfl (never empty after rest)

end Growth

section Batches

def Replayed (env : Env) (tools : ColdTools) (batch : BatchEntry) :
    List StoredBlock → BatchProgress → BatchProgress → Prop
  | [], progress, after => after = progress
  | stored :: blocks, progress, after =>
      batch.lowHeight + progress.decodedInBatch ≤ u64Max ∧
      stored.metadata.height = batch.lowHeight + progress.decodedInBatch ∧
      ∃ store, progress.store.appendStoredBlock env tools.records stored = .ok store ∧
        Replayed env tools batch blocks
          ⟨store, progress.decodedInBatch + 1, stored.metadata.blockHash⟩ after

theorem replayFrames_ok_iff : ∀ (fuel : Nat) (bytes : Bytes) (progress after : BatchProgress),
    replayFrames env tools batch fuel bytes progress = (after, .ok ()) ↔
      ∃ blocks, readFrames env tools fuel bytes = some blocks ∧
        Replayed env tools batch blocks progress after := by
  intro fuel
  induction fuel with
  | zero =>
      intro bytes progress after
      simp [replayFrames, readFrames, Replayed, eq_comm]
  | succ fuel ih =>
      intro bytes progress after
      rw [replayFrames, readFrames]
      split
      · simp [Replayed, eq_comm]
      · cases decoded : decodeBlockBytesFromReader env tools bytes with
        | error error => simp [replayFrame, decoded, Except.mapError, bind, Except.bind]
        | ok item =>
            obtain ⟨stored, rest⟩ := item
            simp only [Option.map_eq_some_iff]
            constructor
            · intro ran
              split at ran
              · simp at ran
              · rename_i middle left replayed
                obtain ⟨read, same, bounded, placed, appended, counted, last⟩ :=
                  replayFrame_eq_ok.mp replayed
                rw [decoded, Except.ok.injEq, Prod.mk.injEq] at same
                obtain ⟨rfl, rfl⟩ := same
                obtain ⟨blocks, frames, done⟩ := (ih rest middle after).mp ran
                obtain ⟨store, count, hash⟩ := middle
                subst counted last
                exact ⟨_, ⟨blocks, frames, rfl⟩, bounded, placed, store, appended, done⟩
            · rintro ⟨_, ⟨blocks, frames, rfl⟩, bounded, placed, store, appended, done⟩
              have replayed : replayFrame env tools batch bytes progress =
                  .ok (⟨store, progress.decodedInBatch + 1, stored.metadata.blockHash⟩, rest) :=
                replayFrame_eq_ok.mpr ⟨stored, decoded, bounded, placed, appended, rfl, rfl⟩
              rw [replayed]
              exact (ih _ _ _).mpr ⟨blocks, frames, done⟩

theorem replayed_iff (blocks : List StoredBlock) : ∀ progress after : BatchProgress,
    Replayed env tools batch blocks progress after ↔
      blocks.map (·.metadata.height) =
          List.range' (batch.lowHeight + progress.decodedInBatch) blocks.length ∧
        (∀ stored ∈ blocks, stored.metadata.height ≤ u64Max) ∧
        appendBlocks env tools progress.store blocks = .ok after.store ∧
        after.decodedInBatch = progress.decodedInBatch + blocks.length ∧
        after.lastBlockHash =
          (blocks.getLast?.map (·.metadata.blockHash)).getD progress.lastBlockHash := by
  induction blocks with
  | nil =>
      intro progress after
      constructor
      · rintro rfl
        exact ⟨rfl, by simp, rfl, rfl, rfl⟩
      · obtain ⟨store, decoded, last⟩ := after
        rintro ⟨_, _, appended, rfl, rfl⟩
        obtain rfl := pure_eq_ok.mp appended
        rfl
  | cons stored blocks ih =>
      intro progress after
      have last : ∀ hash : BlockHash, ((stored :: blocks).getLast?.map (·.metadata.blockHash)).getD hash =
          (blocks.getLast?.map (·.metadata.blockHash)).getD stored.metadata.blockHash := by
        intro hash
        cases blocks with
        | nil => rfl
        | cons later blocks => simp [List.getLast?_cons]
      simp only [Replayed, ih, appendBlocks, List.foldlM_cons, bind_eq_ok, List.map_cons,
        List.length_cons, List.range'_succ, List.cons.injEq, List.forall_mem_cons, last]
      constructor
      · rintro ⟨bounded, placed, store, appended, heights, others, rest, counted, final⟩
        exact ⟨⟨placed, heights⟩, ⟨placed ▸ bounded, others⟩, ⟨store, appended, rest⟩,
          by omega, final⟩
      · rintro ⟨⟨placed, heights⟩, ⟨bounded, others⟩, ⟨store, appended, rest⟩, counted, final⟩
        exact ⟨placed ▸ bounded, placed, store, appended, heights, others, rest, by omega, final⟩

theorem closeBatch_eq_ok {expectedCount decoded : Nat} {last : BlockHash} {result : Nat × BlockHash} :
    closeBatch batch expectedCount decoded last = .ok result ↔
      decoded = expectedCount ∧ decodeBlockHashHex batch.anchorBlockHash batch.fileName = .ok last ∧
        result = (decoded, last) := by
  simp only [closeBatch, bind_eq_ok, require_eq_ok, pure_eq_ok, decide_eq_true_eq, exists_const]
  constructor
  · rintro ⟨counted, anchor, read, rfl, rfl⟩
    exact ⟨counted, read, rfl⟩
  · rintro ⟨counted, read, rfl⟩
    exact ⟨counted, last, read, rfl, rfl⟩

theorem verifyBatch_eq_some {blocks : List StoredBlock} :
    verifyBatch env tools directory batch = some blocks ↔
      ∃ raw expectedCount anchor, openBatch tools directory batch = .ok (raw, expectedCount) ∧
        readFrames env tools raw.length raw = some blocks ∧
        decodeBlockHashHex batch.anchorBlockHash batch.fileName = .ok anchor ∧
        blocks.map (·.metadata.height) = List.range' batch.lowHeight expectedCount ∧
        (∀ stored ∈ blocks, stored.metadata.height ≤ u64Max) ∧
        blocks.getLast?.map (·.metadata.blockHash) = some anchor := by
  simp only [verifyBatch, Option.bind_eq_bind, Option.bind_eq_some_iff, toOption_eq_some, Prod.exists,
    Option.ite_none_right_eq_some, Option.some.injEq]
  constructor
  · rintro ⟨raw, count, opened, found, frames, anchor, read, checks, rfl⟩
    exact ⟨raw, count, anchor, opened, frames, read, checks⟩
  · rintro ⟨raw, count, anchor, opened, frames, read, checks⟩
    exact ⟨raw, count, opened, blocks, frames, anchor, read, checks, rfl⟩

theorem openBatch_eq_ok {raw : Bytes} {expectedCount : Nat} :
    openBatch tools directory batch = .ok (raw, expectedCount) ↔
      ∃ zstBytes, directory[batch.fileName]? = some zstBytes ∧
        hexEncode (tools.sha256 zstBytes).data = batch.sha256 ∧ tools.decompress zstBytes = some raw ∧
        batch.lowHeight ≤ batch.highHeight ∧ batch.highHeight - batch.lowHeight < u64Max ∧
        batch.highHeight - batch.lowHeight + 1 = expectedCount := by
  simp only [openBatch, bind_eq_ok, okOr_eq_ok, require_eq_ok, pure_eq_ok, decide_eq_true_eq,
    exists_const, Prod.mk.injEq]
  constructor
  · rintro ⟨zstBytes, found, hashed, _, opened, ordered, bounded, rfl, counted⟩
    exact ⟨zstBytes, found, hashed, opened, ordered, bounded, counted⟩
  · rintro ⟨zstBytes, found, hashed, opened, ordered, bounded, counted⟩
    exact ⟨zstBytes, found, hashed, raw, opened, ordered, bounded, rfl, counted⟩

@[simp] theorem decodeBlockHashHex_hexEncode (hash : BlockHash) (fileName : String) :
    decodeBlockHashHex (hexEncode hash.data) fileName = .ok hash := by
  simp only [decodeBlockHashHex, bind_eq_ok, okOr_eq_ok, hexDecode_hexEncode, Option.some.injEq,
    exists_eq_left']
  exact dif_pos hash.length_eq

theorem replayBatch_ok_iff {result : Nat × BlockHash} :
    replayBatch env tools directory batch store = ⟨next, .ok result⟩ ↔
      ∃ blocks, verifyBatch env tools directory batch = some blocks ∧
        appendBlocks env tools store blocks = .ok next ∧ result.1 = blocks.length ∧
        blocks.getLast?.map (·.metadata.blockHash) = some result.2 := by
  rw [replayBatch]
  cases opened : openBatch tools directory batch with
  | error error => simp [verifyBatch_eq_some, opened]
  | ok item =>
      obtain ⟨raw, expectedCount⟩ := item
      obtain ⟨_, _, _, _, _, _, positive⟩ := openBatch_eq_ok.mp opened
      cases ran : replayFrames env tools batch raw.length raw ⟨store, 0, Bytes32.fill 0⟩ with
        | mk after ended
      simp only [ran, Outcome.mk.injEq, bind_eq_ok, closeBatch_eq_ok]
      constructor
      · rintro ⟨rfl, ⟨⟩, rfl, counted, read, rfl⟩
        obtain ⟨blocks, frames, replayed⟩ := (replayFrames_ok_iff _ _ _ _).mp ran
        obtain ⟨heights, bounded, appended, length, last⟩ := (replayed_iff _ _ _).mp replayed
        rw [Nat.zero_add] at length
        have anchored : blocks.getLast?.map (·.metadata.blockHash) = some after.lastBlockHash := by
          cases blocks with
          | nil => simp at length; omega
          | cons first blocks => simp [last, List.getLast?_cons]
        refine ⟨blocks, verifyBatch_eq_some.mpr ⟨raw, expectedCount, _, opened, frames, read, ?_, bounded,
          anchored⟩, appended, length, anchored⟩
        rw [heights, ← length, counted, Nat.add_zero]
      · rintro ⟨blocks, verified, appended, length, anchored⟩
        obtain ⟨_, _, anchor, same, frames, read, heights, bounded, last⟩ :=
          verifyBatch_eq_some.mp verified
        rw [opened, Except.ok.injEq, Prod.mk.injEq] at same
        obtain ⟨rfl, rfl⟩ := same
        have count : blocks.length = expectedCount := by simpa using congrArg List.length heights
        rw [last, Option.some.injEq] at anchored
        subst anchored
        have replayed : Replayed env tools batch blocks ⟨store, 0, Bytes32.fill 0⟩
            ⟨next, blocks.length, result.2⟩ := by
          refine (replayed_iff _ _ _).mpr ⟨?_, bounded, appended, (Nat.zero_add _).symm, ?_⟩
          · rw [heights, count, Nat.add_zero]
          · rw [last]
            rfl
        rw [(replayFrames_ok_iff _ _ _ _).mpr ⟨blocks, frames, replayed⟩, Prod.mk.injEq] at ran
        obtain ⟨rfl, rfl⟩ := ran
        exact ⟨rfl, (), rfl, count, read, Prod.ext length rfl⟩

theorem wholeBatch_eq_some :
    wholeBatch env tools directory batch store = some next ↔
      ∃ result, replayBatch env tools directory batch store = ⟨next, .ok result⟩ := by
  simp only [wholeBatch, Option.bind_eq_bind, Option.bind_eq_some_iff, toOption_eq_some,
    replayBatch_ok_iff]
  constructor
  · rintro ⟨blocks, verified, appended⟩
    obtain ⟨_, _, anchor, _, _, _, _, _, last⟩ := verifyBatch_eq_some.mp verified
    exact ⟨(blocks.length, anchor), blocks, verified, appended, rfl, last⟩
  · rintro ⟨_, blocks, verified, appended, _⟩
    exact ⟨blocks, verified, appended⟩

theorem wholeBatches_of_refused (rest : List BatchEntry)
    (refused : wholeBatch env tools directory batch store = none) :
    wholeBatches env tools directory (batch :: rest) store = store := by
  simp only [wholeBatches, refused]

theorem replayBatch_store {raw : Bytes} {expectedCount : Nat}
    (opened : openBatch tools directory batch = .ok (raw, expectedCount)) :
    (replayBatch env tools directory batch store).store =
      (replayFrames env tools batch raw.length raw ⟨store, 0, Bytes32.fill 0⟩).1.store := by
  simp only [replayBatch, opened]

theorem replayBatch_of_miscount {raw : Bytes} {expectedCount : Nat} {after : BatchProgress}
    (opened : openBatch tools directory batch = .ok (raw, expectedCount))
    (ran : replayFrames env tools batch raw.length raw ⟨store, 0, Bytes32.fill 0⟩ = (after, .ok ()))
    (miscount : after.decodedInBatch ≠ expectedCount) :
    replayBatch env tools directory batch store =
      ⟨after.store, .error (.blockCountMismatch batch.fileName after.decodedInBatch expectedCount)⟩ := by
  simp [replayBatch, opened, ran, closeBatch, require, miscount, bind, Except.bind]

theorem replayBatch_store_eq :
    (replayBatch env tools directory batch store).store = store ↔
      RefusedAtStart env tools directory batch store := by
  rw [RefusedAtStart]
  cases opened : openBatch tools directory batch with
  | error error => simp [replayBatch, opened]
  | ok item =>
      obtain ⟨raw, expectedCount⟩ := item
      rw [replayBatch_store opened]
      cases raw with
      | nil =>
          refine iff_of_true rfl ?_
          rintro raw _ _ _ ⟨⟩ occupied
          exact absurd rfl occupied
      | cons byte raw =>
          refine replayFrames_store_eq.trans ?_
          simp only [ne_eq, replayFrame_eq_ok, Except.ok.injEq, Prod.mk.injEq]
          constructor
          · rintro untouched _ _ stored rest ⟨rfl, rfl⟩ occupied decoded bounded placed next appended
            exact untouched occupied ⟨next, 1, stored.metadata.blockHash⟩ rest
              ⟨stored, decoded, bounded, placed, appended, rfl, rfl⟩
          · rintro refused occupied after rest ⟨stored, decoded, bounded, placed, appended, _⟩
            exact refused _ _ stored rest ⟨rfl, rfl⟩ occupied decoded bounded placed _ appended

theorem replayBatches_store_eq_iff : ∀ (batches : List BatchEntry) (store : RocksDbChainStore)
    (blocksReplayed : Nat) (lastAnchorHash : BlockHash),
    (replayBatches env tools directory batches store blocksReplayed lastAnchorHash).store =
        wholeBatches env tools directory batches store ↔
      EndsBetweenBatches env tools directory batches store := by
  intro batches
  induction batches with
  | nil => simp [replayBatches, wholeBatches, EndsBetweenBatches]
  | cons batch batches ih =>
      intro store blocksReplayed lastAnchorHash
      rw [replayBatches, wholeBatches, EndsBetweenBatches]
      cases whole : wholeBatch env tools directory batch store with
      | some next =>
          obtain ⟨result, replayed⟩ := wholeBatch_eq_some.mp whole
          simp only [replayed, ih]
      | none =>
          rw [← replayBatch_store_eq]
          cases replayed : replayBatch env tools directory batch store with
          | mk after result =>
              cases result with
              | error error => rfl
              | ok result =>
                  rw [wholeBatch_eq_some.mpr ⟨result, replayed⟩] at whole
                  exact absurd whole (by simp)

end Batches

/-- The import leaves what its description promises exactly if the first batch that does not go
in as a whole is refused before anything of it is written. -/
theorem importColdStorage_verifiesFirst_iff (env : Env) (tools : ColdTools) (store : RocksDbChainStore)
    (inputDir : Directory) (opts : ImportOptions) :
    (importColdStorage env tools store inputDir opts).store =
        verifiedImport env tools inputDir store opts ↔
      ∀ manifest signatureVerified,
        admitManifest env tools store inputDir opts = .ok (manifest, signatureVerified) →
          EndsBetweenBatches env tools inputDir manifest.batches store := by
  rw [importColdStorage, verifiedImport]
  cases admitted : admitManifest env tools store inputDir opts with
  | error error => simp
  | ok item =>
      obtain ⟨manifest, signatureVerified⟩ := item
      simp only [replayBatches_store_eq_iff]
      constructor
      · rintro ends _ _ ⟨⟩
        exact ends
      · intro ends
        exact ends manifest signatureVerified rfl

section Admission

theorem admitManifest_eq_ok {store : RocksDbChainStore} {directory : Directory} {opts : ImportOptions}
    (checked : opts.insecureNoVerify = false) {manifest : ColdStorageManifest} {verified : Bool} :
    admitManifest env tools store directory opts = .ok (manifest, verified) ↔
      directory["manifest.json"]?.bind tools.manifestFromSlice = some manifest ∧
      (manifest.schemaVersion = manifestSchemaVersionV1 ∨
        manifest.schemaVersion = manifestSchemaVersionV2) ∧
      manifest.batches.length % 2 ^ 32 = manifest.batchCount ∧
      (∃ key, verifyManifestSignature env tools manifest = .ok key) ∧
      (opts.requireTsa = true → manifest.tsaToken.isSome = true) ∧
      store.height < manifest.lowHeight ∧ verified = true := by
  simp only [admitManifest, signatureGate, checked, bind_eq_ok, okOr_eq_ok, require_eq_ok, pure_eq_ok,
    decide_eq_true_eq, Prod.mk.injEq, Option.bind_eq_some_iff, Bool.or_eq_true, Bool.not_eq_true',
    exists_const, Bool.false_eq_true, if_false]
  constructor
  · rintro ⟨bytes, found, parsed, read, known, counted, _, ⟨key, verified, rfl⟩, anchored, empty, rfl, rfl⟩
    refine ⟨⟨bytes, found, read⟩, known, counted, ⟨key, verified⟩, ?_, empty, rfl⟩
    rintro required
    simpa [required] using anchored
  · rintro ⟨⟨bytes, found, read⟩, known, counted, ⟨key, verified⟩, anchored, empty, rfl⟩
    refine ⟨bytes, found, manifest, read, known, counted, true, ⟨key, verified, rfl⟩, ?_, empty, rfl, rfl⟩
    cases required : opts.requireTsa with
    | false => exact Or.inl rfl
    | true => exact Or.inr (anchored required)

section Admitted

variable {opts : ImportOptions} {manifest : ColdStorageManifest} {signatureVerified : Bool}
variable (admitted : admitManifest env tools store directory opts = .ok (manifest, signatureVerified))
include admitted

theorem verifiedImport_of_admitted :
    verifiedImport env tools directory store opts =
      wholeBatches env tools directory manifest.batches store := by
  simp only [verifiedImport, admitted]

theorem importColdStorage_of_refused {after : RocksDbChainStore} {error : ColdError}
    (replayed : replayBatches env tools directory manifest.batches store 0 (Bytes32.fill 0) =
      ⟨after, .error error⟩) :
    importColdStorage env tools store directory opts = ⟨after, .error error⟩ := by
  simp only [importColdStorage, admitted, replayed]
  rfl

theorem importColdStorage_of_replayed {after : RocksDbChainStore} {result : Nat × BlockHash}
    (replayed : replayBatches env tools directory manifest.batches store 0 (Bytes32.fill 0) =
      ⟨after, .ok result⟩) :
    ∃ summary, importColdStorage env tools store directory opts = ⟨after, .ok summary⟩ := by
  simp only [importColdStorage, admitted, replayed]
  exact ⟨_, rfl⟩

end Admitted

theorem replayBatches_singleton {after : RocksDbChainStore} {blocksReplayed : Nat} {last : BlockHash}
    {result : Except ColdError (Nat × BlockHash)}
    (replayed : replayBatch env tools directory batch store = ⟨after, result⟩) :
    replayBatches env tools directory [batch] store blocksReplayed last =
      ⟨after, result.map fun replayed => (blocksReplayed + replayed.1, replayed.2)⟩ := by
  cases result <;> simp only [replayBatches, replayed] <;> rfl

end Admission

section Sample

def tableTools (blocks : List StoredBlock) (manifests : List ColdStorageManifest) : ColdTools where
  records := tableFormat (blocks.map bareRecord)
  sha256 := polynomialHash
  compress := some
  decompress := some
  manifestToVec manifest := (manifests.idxOf? manifest).map fun index => [Fin.ofNat 256 index]
  manifestFromSlice bytes := bytes.head?.bind fun byte => manifests[byte.val]?
  slhDsaShake256sSign key message := some (key.drop 64 ++ message)
  postTimestamp _ _ := none
  base64 := hexEncode

def shortBatch : BatchEntry where
  fileName := "blocks-00000001-00000002.zst"
  lowHeight := 1
  highHeight := 2
  anchorBlockHash := hexEncode (bareBlock 1 (Bytes32.fill 0) 0).metadata.blockHash.data
  sha256 := hexEncode (polynomialHash [0]).data
  uncompressedBytes := 1
  compressedBytes := 1

def shortManifest (signature : Option ManifestSignature) : ColdStorageManifest where
  schemaVersion := manifestSchemaVersionV2
  chainIdHex := ""
  exportedAtUnix := 0
  lowHeight := 1
  highHeight := 2
  batchCount := 1
  batches := [shortBatch]
  signature
  tsaToken := none

def operatorSignature (key : Bytes) (canonical : Bytes) : ManifestSignature where
  alg := manifestAlg
  signerAddressHex := hexEncode (Bytes32.fill 7).data
  signerPkHex := hexEncode key
  valueHex := hexEncode (key ++ (manifestSigningDomain ++ canonical))

theorem verify_operatorSignature {tools : ColdTools} {manifest : ColdStorageManifest}
    {key canonical : Bytes} (signed : manifest.signature = some (operatorSignature key canonical))
    (written : canonicalManifestBytes tools manifest = .ok canonical) :
    verifyManifestSignature sampleEnv tools manifest = .ok key := by
  have accepted : pqVerifier sampleEnv ⟨.slhDsaShake256s, key⟩ (manifestSigningDomain ++ canonical)
      ⟨.slhDsaShake256s, key ++ (manifestSigningDomain ++ canonical)⟩ = .ok () := if_pos rfl
  simp only [verifyManifestSignature, bind_eq_ok, okOr_eq_ok, require_eq_ok, mapError_eq_ok, pure_eq_ok,
    decide_eq_true_eq]
  exact ⟨_, signed, (), rfl, key, hexDecode_hexEncode key, _, hexDecode_hexEncode _, canonical, written,
    (), accepted, rfl⟩

theorem tableTools_canonical {blocks : List StoredBlock} {manifest : ColdStorageManifest}
    {manifests : List ColdStorageManifest} :
    canonicalManifestBytes
      (tableTools blocks ({ manifest with signature := none, tsaToken := none } :: manifests)) manifest =
        .ok [0] := by
  simp [canonicalManifestBytes, tableTools, okOr, List.idxOf?_cons]

def shortTools : ColdTools :=
  tableTools [bareBlock 1 (Bytes32.fill 0) 0]
    [shortManifest none, shortManifest (some (operatorSignature [9] [0]))]

def shortDirectory : Directory :=
  ((∅ : Directory).insert "manifest.json" [1]).insert shortBatch.fileName [0]

def shortImport : Outcome ImportSummary :=
  importColdStorage sampleEnv shortTools (.openEmpty (Bytes32.fill 0)) shortDirectory ⟨false, false⟩

theorem shortManifest_admitted :
    admitManifest sampleEnv shortTools (.openEmpty (Bytes32.fill 0)) shortDirectory ⟨false, false⟩ =
      .ok (shortManifest (some (operatorSignature [9] [0])), true) := by
  refine (admitManifest_eq_ok rfl).mpr ⟨?_, Or.inr rfl, rfl,
    ⟨[9], verify_operatorSignature rfl tableTools_canonical⟩, by simp, Nat.zero_lt_one, rfl⟩
  rw [shortDirectory, Std.ExtTreeMap.getElem?_insert, if_neg (by decide),
    Std.ExtTreeMap.getElem?_insert_self]
  rfl

theorem shortBatch_opened : openBatch shortTools shortDirectory shortBatch = .ok ([0], 2) :=
  openBatch_eq_ok.mpr ⟨[0], Std.ExtTreeMap.getElem?_insert_self, rfl, rfl, by decide, by decide, rfl⟩

theorem firstBare_decoded (manifests : List ColdStorageManifest) :
    decodeBlockBytesFromReader sampleEnv (tableTools [bareBlock 1 (Bytes32.fill 0) 0] manifests) [0] =
      .ok (bareBlock 1 (Bytes32.fill 0) 0, []) := rfl

theorem firstBare_appended :
    ∃ next, (RocksDbChainStore.openEmpty (Bytes32.fill 0)).appendStoredBlock sampleEnv
        (tableFormat [bareRecord (bareBlock 1 (Bytes32.fill 0) 0)]) (bareBlock 1 (Bytes32.fill 0) 0) =
      .ok next ∧ next.height = 1 := by
  refine ⟨_, appendStoredBlock_eq_ok.mpr ⟨⟨⟨rfl, rfl, rfl, rfl, rfl, rfl, rfl⟩, ?_⟩, [0],
    bareRecord_encoded rfl [], rfl⟩, ?_⟩
  · exact ⟨Std.ExtTreeMap.contains_empty, Std.ExtTreeMap.contains_empty, rfl, rfl⟩
  · exact ChainStore.height_linkBlock _

theorem shortBatch_replayed :
    ∃ after, replayBatch sampleEnv shortTools shortDirectory shortBatch (.openEmpty (Bytes32.fill 0)) =
      ⟨after, .error (.blockCountMismatch shortBatch.fileName 1 2)⟩ ∧ after.height = 1 := by
  obtain ⟨next, appended, written⟩ := firstBare_appended
  refine ⟨next, ?_, written⟩
  have ran : replayFrames sampleEnv shortTools shortBatch 1 [0]
      ⟨.openEmpty (Bytes32.fill 0), 0, Bytes32.fill 0⟩ =
        (⟨next, 1, (bareBlock 1 (Bytes32.fill 0) 0).metadata.blockHash⟩, .ok ()) := by
    refine (replayFrames_ok_iff _ _ _ _).mpr ⟨[bareBlock 1 (Bytes32.fill 0) 0], ?_, ?_⟩
    · simp [readFrames, shortTools, firstBare_decoded]
    · exact ⟨by decide, rfl, next, appended, rfl⟩
  exact replayBatch_of_miscount shortBatch_opened ran (show 1 ≠ 2 by decide)

/-- A batch announced with two blocks holds one. The import fails on the count, and the block stays. -/
theorem shortBatch_partlyWritten :
    shortImport.result = .error (.blockCountMismatch shortBatch.fileName 1 2) ∧
      shortImport.store ≠ verifiedImport sampleEnv shortTools shortDirectory
        (.openEmpty (Bytes32.fill 0)) ⟨false, false⟩ := by
  obtain ⟨after, replayed, written⟩ := shortBatch_replayed
  have imported : shortImport = ⟨after, .error (.blockCountMismatch shortBatch.fileName 1 2)⟩ :=
    importColdStorage_of_refused shortManifest_admitted (replayBatches_singleton replayed)
  have refused : wholeBatch sampleEnv shortTools shortDirectory shortBatch
      (.openEmpty (Bytes32.fill 0)) = none := by
    cases whole : wholeBatch sampleEnv shortTools shortDirectory shortBatch
        (.openEmpty (Bytes32.fill 0)) with
    | none => rfl
    | some next =>
        obtain ⟨result, ended⟩ := wholeBatch_eq_some.mp whole
        rw [replayed] at ended
        exact absurd (Outcome.mk.inj ended).2 (by simp)
  have promised : verifiedImport sampleEnv shortTools shortDirectory (.openEmpty (Bytes32.fill 0))
      ⟨false, false⟩ = .openEmpty (Bytes32.fill 0) :=
    (verifiedImport_of_admitted shortManifest_admitted).trans (wholeBatches_of_refused [] refused)
  rw [imported, promised]
  refine ⟨rfl, fun same => ?_⟩
  have empty := congrArg RocksDbChainStore.height same
  exact absurd (written.symm.trans empty) (by decide)

end Sample

end ViperChain.Storage
