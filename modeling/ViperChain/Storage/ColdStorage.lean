import ViperChain.Library.TextDigits
import ViperChain.Storage.BlockRecords

/-!
Cold storage. Import writes to the database as it goes, so it is a function to an `Outcome`: the
store it leaves is there also when it fails. A panic is the error `overflow`.
-/

namespace ViperChain.Storage

open Fallible TextDigits

section Manifest

structure BatchEntry where
  fileName : String
  lowHeight : Nat
  highHeight : Nat
  anchorBlockHash : String
  sha256 : String
  uncompressedBytes : Nat
  compressedBytes : Nat
deriving DecidableEq

structure ManifestSignature where
  alg : String
  signerAddressHex : String
  signerPkHex : String
  valueHex : String
deriving DecidableEq

structure ColdStorageManifest where
  schemaVersion : String
  chainIdHex : String
  exportedAtUnix : Nat
  lowHeight : Nat
  highHeight : Nat
  batchCount : Nat
  batches : List BatchEntry
  signature : Option ManifestSignature
  tsaToken : Option String
deriving DecidableEq

def manifestSchemaVersionV1 : String := "viper-cold-storage-v1"
def manifestSchemaVersionV2 : String := "viper-cold-storage-v2"
def manifestSigningDomain : Bytes := ascii "VIPER-COLD-STORAGE-MANIFEST-V1"
def manifestTsaDomain : Bytes := ascii "VIPER-COLD-STORAGE-TSA-V1"
def manifestAlg : String := "slh-dsa-shake-256s"
def slhDsaShake256sSkLen : Nat := 128

inductive ColdError where
  | cutoffZero
  | cutoffAboveTip (cutoff tip : Nat)
  | batchSizeZero
  | overflow
  | exportFailed (height : Nat) (source : BlockStorageError)
  | missingBlock (height : Nat)
  | compressionFailed
  | serialisationFailed
  | noKeystore
  | operatorHex
  | operatorLength (got : Nat)
  | noKeystoreEntry (operatorHex : String)
  | noArchivalKey (operatorHex : String)
  | signingFailed
  | archivalKeyLength (got : Nat)
  | tsaFailed
  | manifestMissing
  | manifestUnparsable
  | unknownSchema (schemaVersion : String)
  | batchCountMismatch (batchCount batches : Nat)
  | noSignature
  | unsupportedAlg (alg : String)
  | signerPkHex
  | signatureValueHex
  | signatureRefused (source : CryptoError)
  | noTsaToken
  | storeNotEmpty (liveTip lowHeight : Nat)
  | batchMissing (fileName : String)
  | sha256Mismatch (fileName manifest file : String)
  | decompressionFailed (fileName : String)
  | frameRefused (fileName : String) (source : BlockStorageError)
  | heightDrift (fileName : String) (got expected : Nat)
  | appendFailed (height : Nat) (source : BlockStorageError)
  | blockCountMismatch (fileName : String) (got expected : Nat)
  | anchorHex (fileName : String)
  | anchorLength (fileName : String) (got : Nat)
  | anchorMismatch (fileName manifest replayed : String)
deriving DecidableEq

/-- The libraries that export and import call. `postTimestamp` is the exchange with the
time-stamping server. -/
structure ColdTools where
  records : RecordFormat
  sha256 : Bytes → Bytes32
  compress : Bytes → Option Bytes
  decompress : Bytes → Option Bytes
  manifestToVec : ColdStorageManifest → Option Bytes
  manifestFromSlice : Bytes → Option ColdStorageManifest
  slhDsaShake256sSign : Bytes → Bytes → Option Bytes
  postTimestamp : String → Bytes32 → Option Bytes
  base64 : Bytes → String

abbrev Directory := Std.ExtTreeMap String Bytes

variable (env : Env) (tools : ColdTools)

def canonicalManifestBytes (manifest : ColdStorageManifest) : Except ColdError Bytes :=
  okOr (tools.manifestToVec { manifest with signature := none, tsaToken := none }) .serialisationFailed

def verifyManifestSignature (manifest : ColdStorageManifest) : Except ColdError Bytes := do
  let sig ← okOr manifest.signature .noSignature
  require (sig.alg = manifestAlg) (.unsupportedAlg sig.alg)
  let pkBytes ← okOr (hexDecode sig.signerPkHex) .signerPkHex
  let sigBytes ← okOr (hexDecode sig.valueHex) .signatureValueHex
  let canonical ← canonicalManifestBytes tools manifest
  (pqVerifier env ⟨.slhDsaShake256s, pkBytes⟩ (manifestSigningDomain ++ canonical)
    ⟨.slhDsaShake256s, sigBytes⟩).mapError .signatureRefused
  return pkBytes

end Manifest

section Export

variable (env : Env) (tools : ColdTools) (store : RocksDbChainStore)

/-- `Vec::with_capacity` refuses more than `isize::MAX` bytes. -/
def collectBatchBytes (low high : Nat) : Except ColdError Bytes := do
  require ((high - low + 1) * 1024 < 2 ^ 63) .overflow
  let blocks ← (List.range' low (high + 1 - low)).mapM fun height => do
    let found ← (store.exportBlockBytes env tools.records height).mapError (.exportFailed height)
    okOr found (.missingBlock height)
  return blocks.flatten

def readAnchorBlockHash (height : Nat) : Except ColdError BlockHash := do
  let found ← (store.readStoredBlockAtHeight env tools.records height).mapError (.exportFailed height)
  let stored ← okOr found (.missingBlock height)
  return stored.metadata.blockHash

def batchFileName (low high : Nat) : String :=
  String.ofList ("blocks-".toList ++ decimal 8 low ++ "-".toList ++ decimal 8 high ++ ".zst".toList)

def writeBatch (directory : Directory) (low high : Nat) :
    Except ColdError (BatchEntry × Directory) := do
  let raw ← collectBatchBytes env tools store low high
  let compressed ← okOr (tools.compress raw) .compressionFailed
  let anchor ← readAnchorBlockHash env tools store high
  let entry : BatchEntry :=
    { fileName := batchFileName low high
      lowHeight := low
      highHeight := high
      anchorBlockHash := hexEncode anchor.data
      sha256 := hexEncode (tools.sha256 compressed).data
      uncompressedBytes := raw.length
      compressedBytes := compressed.length }
  return (entry, directory.insert entry.fileName compressed)

/-- The `while h <= cutoff` loop. Every turn moves `h` on, so the cutoff bounds their number. -/
def writeBatches (cutoff batchSize : Nat) :
    Nat → Nat → List BatchEntry → Directory → Except ColdError (List BatchEntry × Directory)
  | 0, _, batches, directory => .ok (batches, directory)
  | fuel + 1, low, batches, directory =>
      if low ≤ cutoff then do
        require (low + batchSize ≤ u64Max) .overflow
        let high := min (low + batchSize - 1) cutoff
        let (entry, directory) ← writeBatch env tools store directory low high
        require (high < u64Max) .overflow
        writeBatches cutoff batchSize fuel (high + 1) (batches ++ [entry]) directory
      else .ok (batches, directory)

abbrev Keystore := Std.ExtTreeMap Address (Option Bytes)

def signManifestInPlace (manifest : ColdStorageManifest) (keystore : Keystore)
    (operatorHex : String) : Except ColdError ColdStorageManifest := do
  let addrBytes ← okOr (hexDecode operatorHex) .operatorHex
  let address ← okOr (Bytes32.ofBytes? addrBytes) (.operatorLength addrBytes.length)
  let entry ← okOr keystore[address]? (.noKeystoreEntry operatorHex)
  let sk ← okOr entry (.noArchivalKey operatorHex)
  let canonical ← canonicalManifestBytes tools manifest
  let sig ← okOr (tools.slhDsaShake256sSign sk (manifestSigningDomain ++ canonical)) .signingFailed
  require (sk.length = slhDsaShake256sSkLen) (.archivalKeyLength sk.length)
  return { manifest with
    signature := some
      { alg := manifestAlg
        signerAddressHex :=
          String.ofList ((trimHexMark operatorHex.toList).map Char.toLower)
        signerPkHex := hexEncode (sk.drop 64)
        valueHex := hexEncode sig } }

def anchorManifestWithTsa (manifest : ColdStorageManifest) (tsaUrl : String) :
    Except ColdError String := do
  let canonical ← canonicalManifestBytes tools manifest
  let body ← okOr (tools.postTimestamp tsaUrl (tools.sha256 (manifestTsaDomain ++ canonical))) .tsaFailed
  require (body.length ≤ 64 * 1024) .tsaFailed
  return tools.base64 body

structure ExportOptions where
  signWithOperatorHex : Option String
  anchorTsaUrl : Option String
  tsaBestEffort : Bool

def signStage (manifest : ColdStorageManifest) (keystore : Option Keystore) (opts : ExportOptions) :
    Except ColdError ColdStorageManifest :=
  match opts.signWithOperatorHex with
  | none => .ok manifest
  | some operatorHex => do
      let keystore ← okOr keystore .noKeystore
      signManifestInPlace tools manifest keystore operatorHex

def anchorStage (manifest : ColdStorageManifest) (opts : ExportOptions) :
    Except ColdError ColdStorageManifest :=
  match opts.anchorTsaUrl with
  | none => .ok manifest
  | some tsaUrl =>
      match anchorManifestWithTsa tools manifest tsaUrl with
      | .ok token => .ok { manifest with tsaToken := some token }
      | .error error => if opts.tsaBestEffort then .ok manifest else .error error

def exportColdStorage (chainIdHex : String) (cutoff batchSize : Nat) (outputDir : Directory)
    (keystore : Option Keystore) (opts : ExportOptions) (now : Nat) :
    Except ColdError (ColdStorageManifest × Directory) := do
  require (cutoff ≠ 0) .cutoffZero
  require (cutoff ≤ store.height) (.cutoffAboveTip cutoff store.height)
  require (batchSize ≠ 0) .batchSizeZero
  let (batches, directory) ← writeBatches env tools store cutoff batchSize cutoff 1 [] outputDir
  let manifest : ColdStorageManifest :=
    { schemaVersion := manifestSchemaVersionV2
      chainIdHex
      exportedAtUnix := now
      lowHeight := 1
      highHeight := cutoff
      batchCount := batches.length % 2 ^ 32
      batches
      signature := none
      tsaToken := none }
  let signed ← signStage tools manifest keystore opts
  let anchored ← anchorStage tools signed opts
  let manifestBytes ← okOr (tools.manifestToVec anchored) .serialisationFailed
  return (anchored, directory.insert "manifest.json" manifestBytes)

end Export

section Import

variable (env : Env) (tools : ColdTools)

structure ImportSummary where
  schemaVersion : String
  chainIdHex : String
  lowHeight : Nat
  highHeight : Nat
  batchesReplayed : Nat
  blocksReplayed : Nat
  signatureVerified : Bool
  tsaTokenPresent : Bool
  finalTipHashHex : String
deriving DecidableEq

structure ImportOptions where
  insecureNoVerify : Bool
  requireTsa : Bool
deriving DecidableEq

structure Outcome (A : Type) where
  store : RocksDbChainStore
  result : Except ColdError A

def decodeBlockBytesFromReader (bytes : Bytes) : Except BlockStorageError (StoredBlock × Bytes) := do
  let (record, rest) ← okOr (tools.records.read bytes) .decode
  let stored ← recordIntoStoredBlock env record record.metadata.height
  return (stored, rest)

def decodeBlockHashHex (text fileName : String) : Except ColdError BlockHash := do
  let bytes ← okOr (hexDecode text) (.anchorHex fileName)
  okOr (Bytes32.ofBytes? bytes) (.anchorLength fileName bytes.length)

def openBatch (directory : Directory) (batch : BatchEntry) : Except ColdError (Bytes × Nat) := do
  let zstBytes ← okOr directory[batch.fileName]? (.batchMissing batch.fileName)
  let actualSha := hexEncode (tools.sha256 zstBytes).data
  require (actualSha = batch.sha256) (.sha256Mismatch batch.fileName batch.sha256 actualSha)
  let raw ← okOr (tools.decompress zstBytes) (.decompressionFailed batch.fileName)
  require (batch.lowHeight ≤ batch.highHeight) .overflow
  require (batch.highHeight - batch.lowHeight < u64Max) .overflow
  return (raw, batch.highHeight - batch.lowHeight + 1)

structure BatchProgress where
  store : RocksDbChainStore
  decodedInBatch : Nat
  lastBlockHash : BlockHash

def replayFrame (batch : BatchEntry) (bytes : Bytes) (progress : BatchProgress) :
    Except ColdError (BatchProgress × Bytes) := do
  let (stored, rest) ←
    (decodeBlockBytesFromReader env tools bytes).mapError (.frameRefused batch.fileName)
  let expectedHeight := batch.lowHeight + progress.decodedInBatch
  require (expectedHeight ≤ u64Max) .overflow
  require (stored.metadata.height = expectedHeight)
    (.heightDrift batch.fileName stored.metadata.height expectedHeight)
  let store ← (progress.store.appendStoredBlock env tools.records stored).mapError
    (.appendFailed expectedHeight)
  return (⟨store, progress.decodedInBatch + 1, stored.metadata.blockHash⟩, rest)

def replayFrames (batch : BatchEntry) :
    Nat → Bytes → BatchProgress → BatchProgress × Except ColdError Unit
  | 0, _, progress => (progress, .ok ())
  | fuel + 1, bytes, progress =>
      if bytes.isEmpty then (progress, .ok ())
      else match replayFrame env tools batch bytes progress with
        | .error error => (progress, .error error)
        | .ok (next, rest) => replayFrames batch fuel rest next

def closeBatch (batch : BatchEntry) (expectedCount decodedInBatch : Nat) (lastBlockHash : BlockHash) :
    Except ColdError (Nat × BlockHash) := do
  require (decodedInBatch = expectedCount)
    (.blockCountMismatch batch.fileName decodedInBatch expectedCount)
  let expectedAnchor ← decodeBlockHashHex batch.anchorBlockHash batch.fileName
  require (lastBlockHash = expectedAnchor)
    (.anchorMismatch batch.fileName batch.anchorBlockHash (hexEncode lastBlockHash.data))
  return (decodedInBatch, lastBlockHash)

def replayBatch (directory : Directory) (batch : BatchEntry) (store : RocksDbChainStore) :
    Outcome (Nat × BlockHash) :=
  match openBatch tools directory batch with
  | .error error => ⟨store, .error error⟩
  | .ok (raw, expectedCount) =>
      let (progress, ended) := replayFrames env tools batch raw.length raw ⟨store, 0, Bytes32.fill 0⟩
      ⟨progress.store, do
        ended
        closeBatch batch expectedCount progress.decodedInBatch progress.lastBlockHash⟩

def replayBatches (directory : Directory) :
    List BatchEntry → RocksDbChainStore → Nat → BlockHash → Outcome (Nat × BlockHash)
  | [], store, blocksReplayed, lastAnchorHash => ⟨store, .ok (blocksReplayed, lastAnchorHash)⟩
  | batch :: rest, store, blocksReplayed, _ =>
      match replayBatch env tools directory batch store with
      | ⟨store, .error error⟩ => ⟨store, .error error⟩
      | ⟨store, .ok (decoded, anchor)⟩ =>
          replayBatches directory rest store (blocksReplayed + decoded) anchor

def signatureGate (manifest : ColdStorageManifest) (opts : ImportOptions) : Except ColdError Bool :=
  if opts.insecureNoVerify then .ok false
  else do
    let _ ← verifyManifestSignature env tools manifest
    return true

def admitManifest (store : RocksDbChainStore) (inputDir : Directory) (opts : ImportOptions) :
    Except ColdError (ColdStorageManifest × Bool) := do
  let manifestBytes ← okOr inputDir["manifest.json"]? .manifestMissing
  let manifest ← okOr (tools.manifestFromSlice manifestBytes) .manifestUnparsable
  require (manifest.schemaVersion = manifestSchemaVersionV1 ∨
      manifest.schemaVersion = manifestSchemaVersionV2) (.unknownSchema manifest.schemaVersion)
  require (manifest.batches.length % 2 ^ 32 = manifest.batchCount)
    (.batchCountMismatch manifest.batchCount manifest.batches.length)
  let signatureVerified ← signatureGate env tools manifest opts
  require (!opts.requireTsa || manifest.tsaToken.isSome) .noTsaToken
  require (store.height < manifest.lowHeight) (.storeNotEmpty store.height manifest.lowHeight)
  return (manifest, signatureVerified)

def importColdStorage (store : RocksDbChainStore) (inputDir : Directory) (opts : ImportOptions) :
    Outcome ImportSummary :=
  match admitManifest env tools store inputDir opts with
  | .error error => ⟨store, .error error⟩
  | .ok (manifest, signatureVerified) =>
      let replayed := replayBatches env tools inputDir manifest.batches store 0 (Bytes32.fill 0)
      ⟨replayed.store, do
        let (blocksReplayed, lastAnchorHash) ← replayed.result
        return {
          schemaVersion := manifest.schemaVersion
          chainIdHex := manifest.chainIdHex
          lowHeight := manifest.lowHeight
          highHeight := manifest.highHeight
          batchesReplayed := manifest.batchCount
          blocksReplayed
          signatureVerified
          tsaTokenPresent := manifest.tsaToken.isSome
          finalTipHashHex := hexEncode lastAnchorHash.data }⟩

end Import

end ViperChain.Storage
