import ViperChain.Storage.ColdImport

/-!
In whose name an archive is imported. The key that verifies a manifest comes from the manifest,
and nothing compares it with the address of the signer.
-/

namespace ViperChain.Storage

open Fallible TextDigits

/-- `serde_json` writes every manifest and reads it back. -/
structure ColdTools.FaithfulManifests (tools : ColdTools) : Prop where
  writes : ∀ manifest, ∃ bytes, tools.manifestToVec manifest = some bytes
  reads : ∀ manifest bytes, tools.manifestToVec manifest = some bytes →
    tools.manifestFromSlice bytes = some manifest

def SigningKey (env : Env) (key : Bytes) : Prop :=
  ∀ message, ∃ signature, env.slhDsa .slhDsaShake256s key message signature = .ok ()

structure ImportedInNameOf (env : Env) (tools : ColdTools) (directory : Directory) (address : String)
    (key : Bytes) (manifest : ColdStorageManifest) : Prop where
  parsed : directory["manifest.json"]?.bind tools.manifestFromSlice = some manifest
  named : manifest.signature.map ManifestSignature.signerAddressHex = some address
  verified : verifyManifestSignature env tools manifest = .ok key
  accepted : ∃ store opts summary, opts.insecureNoVerify = false ∧
    (importColdStorage env tools store directory opts).result = .ok summary

def AddressDeterminesKey (env : Env) (tools : ColdTools) (address : String) : Prop :=
  ∀ left right leftKey rightKey leftManifest rightManifest,
    ImportedInNameOf env tools left address leftKey leftManifest →
    ImportedInNameOf env tools right address rightKey rightManifest → leftKey = rightKey

variable {env : Env} {tools : ColdTools}

section Signing

theorem slhSigned {key message signature : Bytes}
    (signed : env.slhDsa .slhDsaShake256s key message signature = .ok ()) :
    pqVerifier env ⟨.slhDsaShake256s, key⟩ message ⟨.slhDsaShake256s, signature⟩ = .ok () := by
  simpa [pqVerifier] using signed

theorem exists_signature (faithful : tools.FaithfulManifests) {key : Bytes} (signing : SigningKey env key)
    (manifest : ColdStorageManifest) (address : String) :
    ∃ signature : ManifestSignature, signature.signerAddressHex = address ∧
      verifyManifestSignature env tools { manifest with signature := some signature } = .ok key := by
  obtain ⟨canonical, written⟩ := faithful.writes { manifest with signature := none, tsaToken := none }
  obtain ⟨value, signed⟩ := signing (manifestSigningDomain ++ canonical)
  refine ⟨⟨manifestAlg, address, hexEncode key, hexEncode value⟩, rfl, ?_⟩
  simp only [verifyManifestSignature, canonicalManifestBytes, bind_eq_ok, okOr_eq_ok, require_eq_ok,
    mapError_eq_ok, pure_eq_ok, decide_eq_true_eq]
  exact ⟨_, rfl, (), rfl, key, hexDecode_hexEncode key, value, hexDecode_hexEncode value, canonical,
    written, (), slhSigned signed, rfl⟩

end Signing

section Forging

theorem replayBatches_congr {left right : Directory} : ∀ (batches : List BatchEntry),
    (∀ batch ∈ batches, left[batch.fileName]? = right[batch.fileName]?) →
    ∀ store blocksReplayed lastAnchorHash,
      replayBatches env tools left batches store blocksReplayed lastAnchorHash =
        replayBatches env tools right batches store blocksReplayed lastAnchorHash := by
  intro batches
  induction batches with
  | nil => exact fun _ _ _ _ => rfl
  | cons batch batches ih =>
      intro same store blocksReplayed lastAnchorHash
      have opened : openBatch tools left batch = openBatch tools right batch := by
        rw [openBatch, openBatch, same batch List.mem_cons_self]
      have replayed : replayBatch env tools left batch store = replayBatch env tools right batch store := by
        rw [replayBatch, replayBatch, opened]
      rw [replayBatches, replayBatches, replayed]
      split
      · rfl
      · exact ih (fun later member => same later (List.mem_cons_of_mem _ member)) _ _ _

section Resigned

variable {directory : Directory} {manifest : ColdStorageManifest} {signature : ManifestSignature}
variable {bytes key mine : Bytes}
variable (parsed : directory["manifest.json"]?.bind tools.manifestFromSlice = some manifest)
variable (read : tools.manifestFromSlice bytes = some { manifest with signature := some signature })
variable (verified : verifyManifestSignature env tools manifest = .ok key)
variable (again :
  verifyManifestSignature env tools { manifest with signature := some signature } = .ok mine)
include parsed read verified again

theorem admitManifest_resigned (store : RocksDbChainStore) {opts : ImportOptions}
    (checked : opts.insecureNoVerify = false) :
    admitManifest env tools store (directory.insert "manifest.json" bytes) opts =
      (admitManifest env tools store directory opts).map fun admitted =>
        ({ admitted.1 with signature := some signature }, admitted.2) := by
  obtain ⟨original, found, parsed⟩ := Option.bind_eq_some_iff.mp parsed
  simp only [admitManifest, signatureGate, checked, Std.ExtTreeMap.getElem?_insert_self, found, okOr,
    read, parsed, verified, again, bind, Except.bind, Bool.false_eq_true, if_false]
  -- The gates left are the same on both sides: none of them reads the signature.
  unfold require
  split_ifs <;> rfl

theorem importColdStorage_resigned
    (ownFiles : ∀ batch ∈ manifest.batches, batch.fileName ≠ "manifest.json")
    (store : RocksDbChainStore) {opts : ImportOptions} (checked : opts.insecureNoVerify = false) :
    importColdStorage env tools store (directory.insert "manifest.json" bytes) opts =
      importColdStorage env tools store directory opts := by
  rw [importColdStorage, importColdStorage, admitManifest_resigned parsed read verified again store checked]
  cases admitted : admitManifest env tools store directory opts with
  | error error => rfl
  | ok item =>
      obtain ⟨other, passed⟩ := item
      obtain rfl : manifest = other := by
        have same := ((admitManifest_eq_ok checked).mp admitted).1
        rwa [parsed, Option.some.injEq] at same
      have files : ∀ batch ∈ manifest.batches,
          (directory.insert "manifest.json" bytes)[batch.fileName]? = directory[batch.fileName]? := by
        intro batch member
        rw [Std.ExtTreeMap.getElem?_insert, if_neg]
        simpa [compare_eq_iff_eq] using (ownFiles batch member).symm
      simp only [Except.map, replayBatches_congr manifest.batches files]

end Resigned

def emptyManifest (signature : Option ManifestSignature) : ColdStorageManifest where
  schemaVersion := manifestSchemaVersionV2
  chainIdHex := ""
  exportedAtUnix := 0
  lowHeight := 1
  highHeight := 0
  batchCount := 0
  batches := []
  signature
  tsaToken := none

theorem exists_importedInNameOf (faithful : tools.FaithfulManifests) {key : Bytes}
    (signing : SigningKey env key) (address : String) :
    ∃ directory manifest, ImportedInNameOf env tools directory address key manifest := by
  obtain ⟨signature, named, verified⟩ := exists_signature faithful signing (emptyManifest none) address
  obtain ⟨bytes, written⟩ := faithful.writes (emptyManifest (some signature))
  have read := faithful.reads _ _ written
  have parsed : ((∅ : Directory).insert "manifest.json" bytes)["manifest.json"]?.bind
      tools.manifestFromSlice = some (emptyManifest (some signature)) := by
    rw [Std.ExtTreeMap.getElem?_insert_self, Option.bind_some, read]
  have admitted : admitManifest env tools (.openEmpty (Bytes32.fill 0))
      ((∅ : Directory).insert "manifest.json" bytes) ⟨false, false⟩ =
        .ok (emptyManifest (some signature), true) := by
    refine (admitManifest_eq_ok rfl).mpr
      ⟨parsed, Or.inr rfl, rfl, ⟨key, verified⟩, by simp, Nat.zero_lt_one, rfl⟩
  obtain ⟨summary, imported⟩ := importColdStorage_of_replayed admitted rfl
  exact ⟨_, emptyManifest (some signature), parsed, by simp [emptyManifest, named], verified,
    _, _, summary, rfl, congrArg Outcome.result imported⟩

end Forging

/-- With two keys in the world every archive imported in a name can be signed again in that name
under any key there is, to the same effect on every store. -/
theorem coldImport_nameUnbound (env : Env) (tools : ColdTools) (faithful : tools.FaithfulManifests)
    (address : String) :
    (∀ first second, SigningKey env first → SigningKey env second → first ≠ second →
      ¬AddressDeterminesKey env tools address) ∧
    ∀ directory manifest key, ImportedInNameOf env tools directory address key manifest →
      (∀ batch ∈ manifest.batches, batch.fileName ≠ "manifest.json") →
      ∀ mine, SigningKey env mine → ∃ bytes forged,
        ImportedInNameOf env tools (directory.insert "manifest.json" bytes) address mine forged ∧
        ∀ store opts, opts.insecureNoVerify = false →
          importColdStorage env tools store (directory.insert "manifest.json" bytes) opts =
            importColdStorage env tools store directory opts := by
  refine ⟨?_, ?_⟩
  · intro first second signsFirst signsSecond distinct determines
    obtain ⟨left, leftManifest, leftImported⟩ := exists_importedInNameOf faithful signsFirst address
    obtain ⟨right, rightManifest, rightImported⟩ := exists_importedInNameOf faithful signsSecond address
    exact distinct (determines _ _ _ _ _ _ leftImported rightImported)
  · intro directory manifest key imported ownFiles mine signing
    obtain ⟨signature, named, verified⟩ := exists_signature faithful signing manifest address
    obtain ⟨bytes, written⟩ := faithful.writes { manifest with signature := some signature }
    have read := faithful.reads _ _ written
    have same : ∀ store opts, opts.insecureNoVerify = false →
        importColdStorage env tools store (directory.insert "manifest.json" bytes) opts =
          importColdStorage env tools store directory opts := fun store _ checked =>
      importColdStorage_resigned imported.parsed read imported.verified verified ownFiles store checked
    obtain ⟨store, opts, summary, checked, accepted⟩ := imported.accepted
    refine ⟨bytes, { manifest with signature := some signature }, ⟨?_, by simp [named], verified,
      store, opts, summary, checked, ?_⟩, same⟩
    · rw [Std.ExtTreeMap.getElem?_insert_self, Option.bind_some, read]
    · rw [same store opts checked, accepted]

section Sample

def soloBatch : BatchEntry :=
  { shortBatch with fileName := "blocks-00000001-00000001.zst", highHeight := 1 }

def soloManifest (signature : Option ManifestSignature) : ColdStorageManifest :=
  { shortManifest signature with highHeight := 1, batches := [soloBatch] }

def soloTools : ColdTools :=
  tableTools [bareBlock 1 (Bytes32.fill 0) 0]
    [soloManifest none, soloManifest (some (operatorSignature [1] [0])),
      soloManifest (some (operatorSignature [2] [0]))]

def soloDirectory (signer : Byte) : Directory :=
  ((∅ : Directory).insert "manifest.json" [signer]).insert soloBatch.fileName [0]

theorem soloBatch_replayed (signer : Byte) :
    ∃ next result, replayBatch sampleEnv soloTools (soloDirectory signer) soloBatch
      (.openEmpty (Bytes32.fill 0)) = ⟨next, .ok result⟩ := by
  obtain ⟨next, appended, _⟩ := firstBare_appended
  refine ⟨next, (1, (bareBlock 1 (Bytes32.fill 0) 0).metadata.blockHash),
    replayBatch_ok_iff.mpr ⟨[bareBlock 1 (Bytes32.fill 0) 0], verifyBatch_eq_some.mpr ?_, ?_, rfl, rfl⟩⟩
  · refine ⟨[0], 1, _, openBatch_eq_ok.mpr ⟨[0], Std.ExtTreeMap.getElem?_insert_self, rfl, rfl, by decide,
      by decide, rfl⟩, ?_, decodeBlockHashHex_hexEncode _ _, rfl, by decide, rfl⟩
    simp [readFrames, soloTools, firstBare_decoded]
  · simp only [appendBlocks, List.foldlM_cons, List.foldlM_nil, bind_eq_ok, pure_eq_ok]
    exact ⟨next, appended, rfl⟩

theorem soloDirectory_imported (signer : Byte) (known : signer = 1 ∨ signer = 2) :
    ImportedInNameOf sampleEnv soloTools (soloDirectory signer) (hexEncode (Bytes32.fill 7).data)
      [signer] (soloManifest (some (operatorSignature [signer] [0]))) := by
  have parsed : (soloDirectory signer)["manifest.json"]?.bind soloTools.manifestFromSlice =
      some (soloManifest (some (operatorSignature [signer] [0]))) := by
    rw [soloDirectory, Std.ExtTreeMap.getElem?_insert, if_neg (by decide),
      Std.ExtTreeMap.getElem?_insert_self]
    rcases known with rfl | rfl <;> rfl
  have verified : verifyManifestSignature sampleEnv soloTools
      (soloManifest (some (operatorSignature [signer] [0]))) = .ok [signer] :=
    verify_operatorSignature rfl tableTools_canonical
  have admitted : admitManifest sampleEnv soloTools (.openEmpty (Bytes32.fill 0)) (soloDirectory signer)
      ⟨false, false⟩ = .ok (soloManifest (some (operatorSignature [signer] [0])), true) :=
    (admitManifest_eq_ok rfl).mpr
      ⟨parsed, Or.inr rfl, rfl, ⟨[signer], verified⟩, by simp, Nat.zero_lt_one, rfl⟩
  obtain ⟨next, result, replayed⟩ := soloBatch_replayed signer
  obtain ⟨summary, imported⟩ :=
    importColdStorage_of_replayed admitted (replayBatches_singleton replayed)
  exact ⟨parsed, rfl, verified, _, _, summary, rfl, congrArg Outcome.result imported⟩

theorem operatorName_twoKeys :
    ¬AddressDeterminesKey sampleEnv soloTools (hexEncode (Bytes32.fill 7).data) := by
  intro determines
  have same := determines _ _ _ _ _ _ (soloDirectory_imported 1 (Or.inl rfl))
    (soloDirectory_imported 2 (Or.inr rfl))
  exact absurd same (by decide)

instance instEncodableString : Encodable String :=
  Encodable.ofLeftInverse (fun text => text.toList.map Char.toNat)
    (fun codes => String.ofList (codes.map Char.ofNat)) fun text => by
      simp [Function.comp_def, Char.ofNat_toNat]

deriving instance Encodable for BatchEntry
deriving instance Encodable for ManifestSignature
deriving instance Encodable for ColdStorageManifest

def numberingTools : ColdTools :=
  { tableTools [] [] with
    manifestToVec manifest := some (List.replicate (Encodable.encode manifest) 0)
    manifestFromSlice bytes := Encodable.decode bytes.length }

theorem numberingTools_faithful : numberingTools.FaithfulManifests where
  writes _ := ⟨_, rfl⟩
  reads manifest bytes written := by
    obtain rfl : List.replicate (Encodable.encode manifest) 0 = bytes := Option.some.inj written
    simp [numberingTools]

theorem sampleEnv_signingKey (key : Bytes) : SigningKey sampleEnv key :=
  fun message => ⟨key ++ message, if_pos rfl⟩

theorem coldImport_nameUnbound_operator :
    numberingTools.FaithfulManifests ∧ ¬AddressDeterminesKey sampleEnv numberingTools "07" :=
  ⟨numberingTools_faithful,
    (coldImport_nameUnbound sampleEnv numberingTools numberingTools_faithful "07").1 [1] [2]
      (sampleEnv_signingKey [1]) (sampleEnv_signingKey [2]) (by decide)⟩

end Sample

end ViperChain.Storage
