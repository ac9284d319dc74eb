import ViperChain.State.Apply.Payload

/-!
Handlers that write records: proof anchors, attestations, and the archival records
with the keys of their signers.
-/

namespace ViperChain

open Fallible Payload

variable (env : Env)

section ProofAnchors

structure ProofAnchorFields where
  claimType : Option Nat := none
  assetIdHash : Option Bytes32 := none
  proofHash : Option Bytes32 := none
  schemaId : Option Bytes32 := none

def proofAnchorField (key : Int) (value : Value) (fields : ProofAnchorFields) :
    Except ApplyError ProofAnchorFields :=
  match key with
  | 1 => do return { fields with claimType := some (← expectUint 16 "claim_type" value) }
  | 2 => do return { fields with assetIdHash := some (← expectHash32 value) }
  | 3 => do return { fields with proofHash := some (← expectHash32 value) }
  | 4 => do return { fields with schemaId := some (← expectHash32 value) }
  | _ => unknownKey key

def applyProofAnchor (store : StateStore) (tx : Transaction) : Except ApplyError StateStore := do
  let fields ← strictFields env tx.payload proofAnchorField {}
  let claimType ← required fields.claimType "1 (claim_type)"
  let assetIdHash ← required fields.assetIdHash "2 (asset_id_hash)"
  let proofHash ← required fields.proofHash "3 (proof_hash)"
  require (isSupportedClaimType claimType) .invalidClaimType
  let anchorId ← recordId env tx
  return store.insertProofAnchor env
    { anchorId, claimer := tx.sender, claimType, assetIdHash, proofHash,
      schemaId := fields.schemaId, anchorHeight := satAdd64 store.blockHeight 1 }

end ProofAnchors

section Attestations

structure AttestationCreateFields where
  subject : Option Bytes32 := none
  attestationType : Option Nat := none
  contentHash : Option Bytes32 := none
  schemaId : Option Bytes32 := none
  metadataHash : Option Bytes32 := none
  expiresAtHeight : Option Nat := none

def attestationCreateField (key : Int) (value : Value) (fields : AttestationCreateFields) :
    Except ApplyError AttestationCreateFields :=
  match key with
  | 1 => do return { fields with subject := some (← expectHash32 value) }
  | 2 => do return { fields with attestationType := some (← expectUint 16 "attestation_type" value) }
  | 3 => do return { fields with contentHash := some (← expectHash32 value) }
  | 4 => do return { fields with schemaId := some (← expectHash32 value) }
  | 5 => do return { fields with metadataHash := some (← expectHash32 value) }
  | 6 => do return { fields with expiresAtHeight := some (← expectUint 64 "expires_at_height" value) }
  | _ => unknownKey key

def applyAttestationCreate (store : StateStore) (tx : Transaction) :
    Except ApplyError StateStore := do
  let fields ← strictFields env tx.payload attestationCreateField {}
  let subject ← required fields.subject "1 (subject)"
  let attestationType ← required fields.attestationType "2 (attestation_type)"
  let contentHash ← required fields.contentHash "3 (content_hash)"
  let schemaId ← required fields.schemaId "4 (schema_id)"
  let anchorHeight := satAdd64 store.blockHeight 1
  require (isSupportedAttestationType attestationType) .invalidAttestationType
  require (fields.expiresAtHeight.all fun height => anchorHeight < height) .invalidExpiry
  let attestationId ← recordId env tx
  require (store.getAttestation attestationId).isNone .attestationExists
  return store.insertAttestation env
    { attestationId, attester := tx.sender, subject, attestationType, contentHash, schemaId,
      metadataHash := fields.metadataHash, anchorHeight,
      expiresAtHeight := fields.expiresAtHeight, status := .active, revocation := none }

structure AttestationRevokeFields where
  attestationId : Option Bytes32 := none
  revocationReasonHash : Option Bytes32 := none

def attestationRevokeField (key : Int) (value : Value) (fields : AttestationRevokeFields) :
    Except ApplyError AttestationRevokeFields :=
  match key with
  | 1 => do return { fields with attestationId := some (← expectHash32 value) }
  | 2 => do return { fields with revocationReasonHash := some (← expectHash32 value) }
  | _ => unknownKey key

def applyAttestationRevoke (store : StateStore) (tx : Transaction) :
    Except ApplyError StateStore := do
  let fields ← strictFields env tx.payload attestationRevokeField {}
  let attestationId ← required fields.attestationId "1 (attestation_id)"
  let attestation ← okOr (store.getAttestation attestationId) .attestationNotFound
  require (attestation.status ≠ .revoked) .attestationAlreadyRevoked
  require (attestation.attester = tx.sender) .unauthorizedRevoker
  let revocation : AttestationRevocation :=
    { revokedAtHeight := satAdd64 store.blockHeight 1, revoker := tx.sender,
      revocationReasonHash := fields.revocationReasonHash }
  return store.insertAttestation env { attestation with status := .revoked, revocation := some revocation }

end Attestations

section ArchivalPayloads

def archivalU64 (field : String) (value : Value) : Except ApplyError Nat := do
  let _ ← okOr value.asInteger? (.payloadDecode s!"{field} must be integer")
  okOr (value.asUint? 64) (.payloadDecode s!"{field} must be unsigned u64")

def archivalUint (width : Nat) (field : String) (value : Value) : Except ApplyError Nat := do
  let number ← archivalU64 field value
  require (number < 2 ^ width) (.payloadDecode s!"{field} overflow")
  return number

def archivalBytes (field : String) (value : Value) : Except ApplyError Bytes :=
  okOr value.asBytes? (.payloadDecode s!"{field} must be bytes")

def archivalHash32 (field : String) (value : Value) : Except ApplyError Bytes32 := do
  let bytes ← archivalBytes field value
  okOr (Bytes32.ofBytes? bytes) (.payloadDecode s!"{field} must be 32 bytes")

def decodeRegisterArchivalKeyPayload (payload : Bytes) : Except ApplyError (Nat × Bytes) := do
  let fields ← lenientFields env payload
    (fun key value (fields : Option Nat × Option Bytes) =>
      match key with
      | 1 => do return (some (← archivalUint 16 "archival_alg_id" value), fields.2)
      | 2 => do return (fields.1, some (← archivalBytes "archival_pk" value))
      | _ => .ok fields)
    (none, none)
  let archivalAlgId ← required fields.1 "1 (archival_alg_id)"
  let archivalPk ← required fields.2 "2 (archival_pk)"
  return (archivalAlgId, archivalPk)

def slhSigEntry (item : Value) : Except ApplyError (Address × Bytes) := do
  let pair ← okOr item.asArray? (.payloadDecode "slh_sig_set entries must be arrays")
  match pair with
  | [address, signature] => do
      let addressBytes ← archivalBytes "slh_sig_set[].addr" address
      let address ← okOr (Bytes32.ofBytes? addressBytes)
        (.payloadDecode "slh_sig_set addr must be 32 bytes")
      let signature ← archivalBytes "slh_sig_set[].sig" signature
      return (address, signature)
  | _ => .error (.payloadDecode "slh_sig_set entry must have 2 elements")

structure ArchivalRecordSubmitFields where
  epochNumber : Option Nat := none
  firstHeight : Option Nat := none
  lastHeight : Option Nat := none
  epochRoot : Option Bytes32 := none
  slhSigSet : Option (List (Address × Bytes)) := none

structure ArchivalRecordSubmitPayload where
  epochNumber : Nat
  epochRoot : Bytes32
  slhSigSet : List (Address × Bytes)

def archivalRecordSubmitField (key : Int) (value : Value) (fields : ArchivalRecordSubmitFields) :
    Except ApplyError ArchivalRecordSubmitFields :=
  match key with
  | 1 => do return { fields with epochNumber := some (← archivalU64 "epoch_number" value) }
  | 2 => do return { fields with firstHeight := some (← archivalU64 "first_height" value) }
  | 3 => do return { fields with lastHeight := some (← archivalU64 "last_height" value) }
  | 4 => do return { fields with epochRoot := some (← archivalHash32 "epoch_root" value) }
  | 5 => do
      let items ← okOr value.asArray? (.payloadDecode "slh_sig_set must be array")
      return { fields with slhSigSet := some (← items.mapM slhSigEntry) }
  | _ => .ok fields

def decodeArchivalRecordSubmitPayload (payload : Bytes) :
    Except ApplyError ArchivalRecordSubmitPayload := do
  let fields ← lenientFields env payload archivalRecordSubmitField {}
  let epochNumber ← required fields.epochNumber "1 (epoch_number)"
  -- the two heights must be present and are read by nothing
  let _ ← required fields.firstHeight "2 (first_height)"
  let _ ← required fields.lastHeight "3 (last_height)"
  let epochRoot ← required fields.epochRoot "4 (epoch_root)"
  let slhSigSet ← required fields.slhSigSet "5 (slh_sig_set)"
  return { epochNumber, epochRoot, slhSigSet }

structure ArchivalRecordAddAnchorFields where
  epochNumber : Option Nat := none
  anchorKind : Option Nat := none
  tstBytes : Option Bytes := none
  externalHash : Option Bytes := none

def archivalRecordAddAnchorField (key : Int) (value : Value)
    (fields : ArchivalRecordAddAnchorFields) : Except ApplyError ArchivalRecordAddAnchorFields :=
  match key with
  | 1 => do return { fields with epochNumber := some (← archivalU64 "epoch_number" value) }
  | 2 => do return { fields with anchorKind := some (← archivalUint 8 "anchor_kind" value) }
  | 3 => do return { fields with tstBytes := some (← archivalBytes "tst_bytes" value) }
  | 4 => do return { fields with externalHash := some (← archivalBytes "external_hash" value) }
  | 5 => do
      -- `created_at` is checked and dropped
      let _ ← archivalU64 "created_at" value
      return fields
  | _ => .ok fields

def decodeArchivalRecordRenewPayload (payload : Bytes) : Except ApplyError (Nat × Bytes32) := do
  let fields ← lenientFields env payload
    (fun key value (fields : Option Nat × Option Bytes32) =>
      match key with
      | 1 => do return (some (← archivalU64 "epoch_number" value), fields.2)
      | 2 => do return (fields.1, some (← archivalHash32 "ers_bundle_hash" value))
      | _ => .ok fields)
    (none, none)
  let epochNumber ← required fields.1 "1 (epoch_number)"
  let ersBundleHash ← required fields.2 "2 (ers_bundle_hash)"
  return (epochNumber, ersBundleHash)

end ArchivalPayloads

section Archival

def archivalSigPreimage (forkDigest : ForkDigest) (epochNumber : Nat) (epochRoot : Bytes32) : Bytes :=
  (taggedHash env (ascii "VIPER-ARCHIVAL-SIG-V1")
    (forkDigest.data ++ be64 epochNumber ++ epochRoot.data)).data

def currentEpochNumber (currentBlockHeight : Nat) : Nat :=
  currentBlockHeight / validatorEpochDurationDevnet

def applyValidatorRegisterArchivalKey (store : StateStore) (tx : Transaction) :
    Except ApplyError StateStore := do
  let (archivalAlgId, archivalPk) ← decodeRegisterArchivalKeyPayload env tx.payload
  let algId ← okOr (AlgId.fromU16 archivalAlgId) .archivalAlgorithmNotAllowed
  require (algId = .slhDsaShake256s) .archivalAlgorithmNotAllowed
  require (archivalPk.length = archivalPkSize) .archivalInvalidPkSize
  let record ← okOr (store.getValidator tx.sender) .archivalValidatorNotEligible
  require (record.status = .active || record.status = .candidate) .archivalValidatorNotEligible
  return store.insertArchivalKey env
    { operator := tx.sender, archivalAlgId, archivalPk, registeredAtHeight := store.blockHeight }

def verifyArchivalSignature (store : StateStore) (preimage : Bytes) (verifier : SignatureVerifier)
    (signer : Address × Bytes) : Except ApplyError Unit := do
  let key ← okOr (store.getArchivalKey signer.1) .archivalMissingKey
  let algId ← okOr (AlgId.fromU16 key.archivalAlgId) .archivalAlgorithmNotAllowed
  (verifier ⟨algId, key.archivalPk⟩ preimage ⟨algId, signer.2⟩).mapError fun _ =>
    ApplyError.archivalSignatureInvalid

def dedupSigners : List (Address × Bytes) → List (Address × Bytes)
  | [] => []
  | [signer] => [signer]
  | first :: second :: rest =>
      if first.1 = second.1 then dedupSigners (first :: rest)
      else first :: dedupSigners (second :: rest)
termination_by signers => signers.length

def applyArchivalRecordSubmit (store : StateStore) (tx : Transaction) (currentBlockHeight : Nat)
    (verifier : SignatureVerifier) : Except ApplyError StateStore := do
  let payload ← decodeArchivalRecordSubmitPayload env tx.payload
  require (payload.epochNumber ≤ currentEpochNumber currentBlockHeight) .archivalEpochInFuture
  require (store.getArchivalRecord payload.epochNumber).isNone .duplicateArchivalRecord
  let threshold := store.archivalThreshold.1
  require (threshold ≤ (payload.slhSigSet.map Prod.fst).dedup.length) .archivalThresholdNotMet
  require (payload.slhSigSet.all fun signer => store.isArchivalSigner signer.1)
    .archivalSignerNotAuthorized
  let preimage := archivalSigPreimage env (.viperResearch1 env) payload.epochNumber payload.epochRoot
  payload.slhSigSet.forM (verifyArchivalSignature store preimage verifier)
  require (threshold ≤ min payload.slhSigSet.length u32Max) .archivalThresholdNotMet
  let signers := dedupSigners (payload.slhSigSet.insertionSort fun left right => left.1 ≤ right.1)
  return store.insertArchivalRecord env
    { epochNumber := payload.epochNumber, epochRoot := payload.epochRoot,
      signerAddresses := signers.map Prod.fst, slhSignatures := signers.map Prod.snd,
      timestampAnchors := [], evidenceRecordVersion := 0 }

def applyArchivalRecordAddAnchor (store : StateStore) (tx : Transaction) (currentBlockHeight : Nat) :
    Except ApplyError StateStore := do
  let fields ← lenientFields env tx.payload archivalRecordAddAnchorField {}
  let epochNumber ← required fields.epochNumber "1 (epoch_number)"
  let anchorKind ← required fields.anchorKind "2 (anchor_kind)"
  let tstBytes ← required fields.tstBytes "3 (tst_bytes)"
  let externalHash ← required fields.externalHash "4 (external_hash)"
  let kind ← okOr (AnchorKind.fromU8 anchorKind) .archivalUnknownAnchorKind
  require (externalHash.length ≤ archivalAnchorMaxLen && tstBytes.length ≤ archivalAnchorMaxLen)
    .archivalAnchorTooLarge
  require (store.getArchivalRecord epochNumber).isSome .archivalRecordNotFound
  return store.pushArchivalAnchor env epochNumber ⟨kind, none, externalHash, currentBlockHeight⟩

def applyArchivalRecordRenew (store : StateStore) (tx : Transaction) (currentBlockHeight : Nat) :
    Except ApplyError StateStore := do
  let (epochNumber, ersBundleHash) ← decodeArchivalRecordRenewPayload env tx.payload
  require (store.isActiveValidator tx.sender || store.isArchivalRenewer tx.sender) .archivalNotRenewer
  require (store.getArchivalRecord epochNumber).isSome .archivalRecordNotFound
  return store.incrementArchivalRecordVersion env epochNumber ersBundleHash currentBlockHeight

end Archival

end ViperChain
