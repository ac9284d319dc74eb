import ViperChain.Crypto

/-!
The entities of the chain state. Integers are natural numbers: the release build aborts on
overflow, and where the source saturates or truncates the functions say so. Hash maps are
ordered maps; the source sorts them wherever their order can be seen.
-/

namespace ViperChain

section Keys

inductive KeyStatus where
  | pending | active | revoked
deriving DecidableEq, Repr

structure KeyEntry where
  algId : AlgId
  pkBytes : Bytes
  keyVersion : Nat
  validFromHeight : Nat
  status : KeyStatus
  allowedTxTypes : Nat
deriving DecidableEq

inductive KeyLookupError where
  | keyNotFound
  | algMismatch
  | keyRevoked
  | keyNotYetActive (validFromHeight : Nat)
  | permissionDenied
deriving DecidableEq, Repr

namespace AllowedTx

def vault : Nat := 1
def attestation : Nat := 2
def keyMgmt : Nat := 4
def governance : Nat := 8
def slhDsaOnly : Nat := keyMgmt

end AllowedTx

abbrev KeySet := List KeyEntry

namespace KeySet

def lookup (keys : KeySet) (algId : AlgId) (keyVersion txTypeBit currentHeight : Nat) :
    Except KeyLookupError KeyEntry :=
  match keys.find? fun key => key.keyVersion = keyVersion with
  | none => .error .keyNotFound
  | some entry =>
      if entry.algId ≠ algId then .error .algMismatch
      else if entry.status = .revoked then .error .keyRevoked
      else if currentHeight < entry.validFromHeight then
        .error (.keyNotYetActive entry.validFromHeight)
      else if entry.status ≠ .active then .error (.keyNotYetActive entry.validFromHeight)
      else if entry.allowedTxTypes &&& txTypeBit = 0 then .error .permissionDenied
      else .ok entry

def hasActiveKey (keys : KeySet) : Bool := keys.any fun key => key.status = .active

def hasDuplicateVersions (keys : KeySet) : Bool := !decide (keys.map KeyEntry.keyVersion).Nodup

def resolvePublicKey (entry : KeyEntry) : PublicKey := ⟨entry.algId, entry.pkBytes⟩

end KeySet

end Keys

section Accounts

def verifierTemplateIdEoa : Nat := 0x0001

def verifierTemplateCoreReservedMax : Nat := 0x000F

def verifierTemplateGovMin : Nat := 0x0010

structure Account where
  address : Address
  balance : Nat
  nonce : Nat
  keys : KeySet
  policyVersion : Nat
  policyHash : Option Bytes32
  verifierTemplateId : Nat
  authData : Bytes

def Account.credited (address : Address) (balance : Nat) : Account where
  address
  balance
  nonce := 0
  keys := []
  policyVersion := 0
  policyHash := none
  verifierTemplateId := verifierTemplateIdEoa
  authData := []

inductive AccountInvariant where
  | noActiveKey | duplicateVersions | eoaAuthData
deriving DecidableEq

def AccountInvariant.message : AccountInvariant → String
  | noActiveKey => "I-1: account has no active key"
  | duplicateVersions => "I-2: duplicate key_version values in KeySet"
  | eoaAuthData => "I-3: EOA verifier template requires empty auth_data"

def Account.checkInvariants (account : Account) : Except AccountInvariant Unit :=
  if !account.keys.hasActiveKey then .error .noActiveKey
  else if account.keys.hasDuplicateVersions then .error .duplicateVersions
  else if account.verifierTemplateId = verifierTemplateIdEoa ∧ account.authData ≠ [] then
    .error .eoaAuthData
  else .ok ()

end Accounts

section Validators

def validatorMaxActiveSetSize : Nat := 24
def validatorUnbondingPeriod : Nat := 120
def validatorEpochDurationDevnet : Nat := 60
def validatorPeerIdMaxLen : Nat := 64

inductive ValidatorStatus where
  | candidate | active | jailed
  | unbonding (startHeight : Nat)
  | exited
deriving DecidableEq, Repr

structure ValidatorRecord where
  operator : Address
  nodeId : Text
  consensusAlgId : AlgId
  consensusPk : Bytes
  selfBond : Nat
  status : ValidatorStatus
  registeredHeight : Nat
  tombstoned : Bool

structure ConsensusKeyRotation where
  operator : Address
  newAlgId : AlgId
  newPkBytes : Bytes
  rotationStartHeight : Nat
  recordedAtHeight : Nat

structure ChurnConfig where
  activationTargetBps : Nat
  activationMinStake : Nat
  exitTargetBps : Nat
  exitMinStake : Nat

def ChurnConfig.viperPq1 : ChurnConfig where
  activationTargetBps := 39
  activationMinStake := 0
  exitTargetBps := 313
  exitMinStake := 0

def stakeWeightedActivationLimit (activeStake : Nat) (config : ChurnConfig) : Nat :=
  max config.activationMinStake (satMul128 activeStake config.activationTargetBps / 10000)

structure RecentSlashEntry where
  height : Nat
  slashedStake : Nat

end Validators

section Records

inductive AttestationStatus where
  | active | revoked
deriving DecidableEq, Repr

structure AttestationRevocation where
  revokedAtHeight : Nat
  revoker : Address
  revocationReasonHash : Option Bytes32

structure Attestation where
  attestationId : Bytes32
  attester : Address
  subject : Bytes32
  attestationType : Nat
  contentHash : Bytes32
  schemaId : Bytes32
  metadataHash : Option Bytes32
  anchorHeight : Nat
  expiresAtHeight : Option Nat
  status : AttestationStatus
  revocation : Option AttestationRevocation

def isSupportedAttestationType (attestationType : Nat) : Bool :=
  0x0001 ≤ attestationType ∧ attestationType ≤ 0x0006

structure ProofAnchor where
  anchorId : Bytes32
  claimer : Address
  claimType : Nat
  assetIdHash : Bytes32
  proofHash : Bytes32
  schemaId : Option Bytes32
  anchorHeight : Nat

def isSupportedClaimType (claimType : Nat) : Bool := 0x0001 ≤ claimType ∧ claimType ≤ 0x0003

inductive AnchorKind where
  | rfc3161Tsa | bitcoinOpReturn | ethereumL1 | otherTsa
deriving DecidableEq, Repr

def AnchorKind.asU8 : AnchorKind → Nat
  | rfc3161Tsa => 0x01
  | bitcoinOpReturn => 0x02
  | ethereumL1 => 0x03
  | otherTsa => 0xFF

def AnchorKind.fromU8 : Nat → Option AnchorKind
  | 0x01 => some rfc3161Tsa
  | 0x02 => some bitcoinOpReturn
  | 0x03 => some ethereumL1
  | 0xFF => some otherTsa
  | _ => none

structure TsaRef where
  url : Text
  certFingerprintSha256 : Bytes32
  policyOid : Option Text

structure TimestampAnchor where
  kind : AnchorKind
  tsaRef : Option TsaRef
  externalHash : Bytes
  postedAtHeight : Nat

structure ValidatorArchivalKey where
  operator : Address
  archivalAlgId : Nat
  archivalPk : Bytes
  registeredAtHeight : Nat

structure ArchivalRecord where
  epochNumber : Nat
  epochRoot : Bytes32
  signerAddresses : List Address
  slhSignatures : List Bytes
  timestampAnchors : List TimestampAnchor
  evidenceRecordVersion : Nat

def archivalPkSize : Nat := 64
def archivalAnchorMaxLen : Nat := 16384

end Records

section Registries

structure AlgEntry where
  algId : AlgId
  specRef : Text
  pkSize : Nat
  sigSize : Nat
  sigClass : Option SigClass
  minFee : Nat
  lifecycle : Lifecycle
  benchmarkVerifyPerSec : Nat

def phase1Registry : List AlgEntry :=
  [ ⟨.mlDsa44, ascii "FIPS 204", 1312, 2420, some .standard, 0, .active, 89000⟩,
    ⟨.mlDsa65, ascii "FIPS 204", 1952, 3309, some .standard, 0, .active, 55000⟩,
    ⟨.mlDsa87, ascii "FIPS 204", 2592, 4627, some .standard, 0, .active, 37000⟩,
    ⟨.fnDsaPadded512, ascii "FIPS 206 (draft)", 897, 666, some .reduced, 0, .active, 62000⟩,
    ⟨.slhDsaSha2128s, ascii "FIPS 205", 32, 7856, some .premium, 0, .active, 951⟩,
    ⟨.slhDsaShake128s, ascii "FIPS 205", 32, 7856, some .premium, 0, .active, 951⟩,
    ⟨.slhDsaShake192s, ascii "FIPS 205", 48, 16224, some .premium, 0, .active, 312⟩,
    ⟨.slhDsaShake256s, ascii "FIPS 205", 64, 29792, some .premium, 0, .active, 132⟩,
    ⟨.mlKem768, ascii "FIPS 203", 1184, 0, none, 0, .active, 0⟩ ]

def hashIdSentinel : Nat := 0x00
def hashCoreReservedMax : Nat := 0x0F

structure HashEntry where
  hashId : Nat
  specRef : Text
  outputSizeBytes : Nat
  lifecycle : Lifecycle

def phase1HashRegistry : List HashEntry :=
  [⟨0x01, ascii "FIPS 202 (SHAKE-256)", 32, .active⟩]

structure SlashingVerifierEntry where
  evidenceType : Nat
  specRef : Text
  slashFractionBps : Nat
  jailDurationBlocks : Nat
  tombstone : Bool
  lifecycle : Lifecycle

end Registries

section Governance

inductive GovernanceProposalType where
  | registryUpdate | burnRateUpdate | feeParamUpdate | softwareUpgrade
  | addAlgorithm | addSlashingVerifier | addHash | addAuthTemplate
deriving DecidableEq, Repr

namespace GovernanceProposalType

def fromU8 : Nat → Option GovernanceProposalType
  | 0x01 => some registryUpdate
  | 0x02 => some burnRateUpdate
  | 0x03 => some feeParamUpdate
  | 0x04 => some softwareUpgrade
  | 0x05 => some addAlgorithm
  | 0x06 => some addSlashingVerifier
  | 0x07 => some addHash
  | 0x08 => some addAuthTemplate
  | _ => none

def asU8 : GovernanceProposalType → Nat
  | registryUpdate => 0x01
  | burnRateUpdate => 0x02
  | feeParamUpdate => 0x03
  | softwareUpgrade => 0x04
  | addAlgorithm => 0x05
  | addSlashingVerifier => 0x06
  | addHash => 0x07
  | addAuthTemplate => 0x08

end GovernanceProposalType

inductive ProposalStatus where
  | voting | executed | expired | rejected | executionFailed
deriving DecidableEq, Repr

structure AddAlgorithmProposal where
  algId : Nat
  specRef : Text
  pkSize : Nat
  sigSize : Nat
  sigClass : Option Nat
  minFee : Nat
  benchmarkVerifyPerSec : Nat
  initialLifecycle : Lifecycle

def AddAlgorithmProposal.decodeSigClass : Nat → Option (Option SigClass)
  | 0 => some none
  | 1 => some (some .reduced)
  | 2 => some (some .standard)
  | 3 => some (some .premium)
  | _ => none

structure SlashingVerifierProposal where
  evidenceType : Nat
  specRef : Text
  slashFractionBps : Nat
  jailDurationBlocks : Nat
  tombstone : Bool
  lifecycle : Lifecycle

structure AddHashProposal where
  hashId : Nat
  specRef : Text
  outputSizeBytes : Nat
  initialLifecycle : Lifecycle

structure AddAuthTemplateProposal where
  templateId : Nat
  specRef : Text
  lifecycle : Lifecycle

inductive ProposalEffect where
  | registryUpdate (algId : AlgId) (targetLifecycle : Option Lifecycle) (newMinFee : Option Nat)
  | burnRateUpdate (newBurnRateBps : Nat)
  | feeParamUpdate (newBlockGasLimit : Nat)
  | softwareUpgrade (activateAtTimestampNs expectedVersion : Nat)
  | addAlgorithm (proposal : AddAlgorithmProposal)
  | addSlashingVerifier (proposal : SlashingVerifierProposal)
  | addHash (proposal : AddHashProposal)
  | addAuthTemplate (proposal : AddAuthTemplateProposal)

structure PendingProposal where
  proposalId : Bytes32
  proposalType : GovernanceProposalType
  proposer : Address
  votingDeadline : Nat
  executeAfter : Nat
  effect : ProposalEffect
  votes : Std.ExtTreeMap Address Bool
  status : ProposalStatus
  rationaleHash : Bytes32

structure PendingUpgrade where
  proposalId : Bytes32
  activateAtTimestampNs : Nat
  expectedVersion : Nat

structure GovernanceReceipt where
  proposalId : Bytes32
  proposalType : GovernanceProposalType
  proposer : Address
  targetAlgId : AlgId
  lifecycleBefore : Lifecycle
  lifecycleAfter : Lifecycle
  minFeeBefore : Nat
  minFeeAfter : Nat
  rationaleHash : Bytes32
  executedAtHeight : Nat

end Governance

section Transactions

inductive MsgType where
  | vaultCreate | vaultPolicyUpdate | tokenTransfer
  | attestationCreate | attestationRevoke | proofAnchor
  | keyAdd | keyRotate | keyRevoke | consensusKeyRotate
  | governanceProposal | governanceVote
  | validatorRegister | validatorExit | validatorUnjail | submitEquivocationEvidence
  | validatorRotatePeerId | validatorRegisterArchivalKey
  | archivalRecordSubmit | archivalRecordAddAnchor | archivalRecordRenew
deriving DecidableEq, Repr

namespace MsgType

def asU16 : MsgType → Nat
  | vaultCreate => 0x0001
  | vaultPolicyUpdate => 0x0002
  | tokenTransfer => 0x0003
  | attestationCreate => 0x0100
  | attestationRevoke => 0x0101
  | proofAnchor => 0x0102
  | keyAdd => 0x0200
  | keyRotate => 0x0201
  | keyRevoke => 0x0202
  | consensusKeyRotate => 0x0203
  | governanceProposal => 0x0300
  | governanceVote => 0x0301
  | validatorRegister => 0x0400
  | validatorExit => 0x0401
  | validatorUnjail => 0x0402
  | submitEquivocationEvidence => 0x0403
  | validatorRotatePeerId => 0x0404
  | validatorRegisterArchivalKey => 0x0405
  | archivalRecordSubmit => 0x0700
  | archivalRecordAddAnchor => 0x0701
  | archivalRecordRenew => 0x0702

def fromU16 : Nat → Option MsgType
  | 0x0001 => some vaultCreate
  | 0x0002 => some vaultPolicyUpdate
  | 0x0003 => some tokenTransfer
  | 0x0100 => some attestationCreate
  | 0x0101 => some attestationRevoke
  | 0x0102 => some proofAnchor
  | 0x0200 => some keyAdd
  | 0x0201 => some keyRotate
  | 0x0202 => some keyRevoke
  | 0x0203 => some consensusKeyRotate
  | 0x0300 => some governanceProposal
  | 0x0301 => some governanceVote
  | 0x0400 => some validatorRegister
  | 0x0401 => some validatorExit
  | 0x0402 => some validatorUnjail
  | 0x0403 => some submitEquivocationEvidence
  | 0x0404 => some validatorRotatePeerId
  | 0x0405 => some validatorRegisterArchivalKey
  | 0x0700 => some archivalRecordSubmit
  | 0x0701 => some archivalRecordAddAnchor
  | 0x0702 => some archivalRecordRenew
  | _ => none

theorem fromU16_asU16 (msgType : MsgType) : fromU16 msgType.asU16 = some msgType := by
  cases msgType <;> rfl

def requiredPermissionBit : MsgType → Nat
  | vaultCreate | vaultPolicyUpdate | tokenTransfer => AllowedTx.vault
  | attestationCreate | attestationRevoke | proofAnchor => AllowedTx.attestation
  | keyAdd | keyRotate | keyRevoke | consensusKeyRotate => AllowedTx.keyMgmt
  | governanceProposal | governanceVote => AllowedTx.governance
  | validatorRegister | validatorExit | validatorUnjail | submitEquivocationEvidence
  | validatorRotatePeerId | validatorRegisterArchivalKey | archivalRecordSubmit
  | archivalRecordAddAnchor | archivalRecordRenew => AllowedTx.governance

end MsgType

structure Transaction where
  txVersion : Nat
  chainId : Bytes
  msgType : MsgType
  sender : Address
  nonce : Nat
  fee : Nat
  feeTip : Nat
  gasLimit : Nat
  payload : Bytes
  sigAlgId : AlgId
  sigKeyVersion : Nat
  signature : Bytes
deriving DecidableEq

end Transactions

end ViperChain
