import ViperChain.State.Apply.Payload

/-!
Handlers that write validators: registration, exit, unjail and peer identity,
consensus-key rotation, and equivocation evidence with its slash.
-/

namespace ViperChain

open Fallible Payload

variable (env : Env)

section Registration

structure ValidatorRegisterFields where
  nodeId : Option Text := none
  consensusAlgId : Option Nat := none
  consensusPk : Option Bytes := none
  selfBond : Option Nat := none
  peerId : Option Bytes := none

structure ValidatorRegisterPayload where
  nodeId : Text
  consensusAlgId : Nat
  consensusPk : Bytes
  selfBond : Nat
  peerId : Bytes

def validUtf8 (bytes : Bytes) : Bool :=
  (ByteArray.mk (bytes.map fun byte => UInt8.ofNat byte.val).toArray).validateUTF8

def bytesField (key : Nat) (value : Value) : Except ApplyError Bytes :=
  okOr value.asBytes? (.payloadDecode s!"field {key} must be bytes")

def validatorRegisterField (key : Int) (value : Value) (fields : ValidatorRegisterFields) :
    Except ApplyError ValidatorRegisterFields :=
  match key with
  | 1 => do
      let bytes ← bytesField 1 value
      require (validUtf8 bytes) (.payloadDecode "node_id must be UTF-8")
      return { fields with nodeId := some bytes }
  | 2 => do
      let _ ← okOr value.asInteger? (.payloadDecode "field 2 must be integer")
      let algId ← okOr (value.asUint? 16) (.payloadDecode "alg_id overflow")
      return { fields with consensusAlgId := some algId }
  | 3 => do return { fields with consensusPk := some (← bytesField 3 value) }
  | 4 =>
      match value with
      | .bytes content =>
          if content.length = 16 then .ok { fields with selfBond := some (ofBeBytes content) }
          else .error (.payloadDecode "field 4 must be 16-byte bstr")
      | _ => .error (.payloadDecode "field 4 must be 16-byte bstr")
  | 5 => do return { fields with peerId := some (← bytesField 5 value) }
  | _ => .ok fields

def decodeRegisterPayload (payload : Bytes) : Except ApplyError ValidatorRegisterPayload := do
  let fields ← lenientFields env payload validatorRegisterField {}
  let nodeId ← required fields.nodeId "1 (node_id)"
  let consensusAlgId ← required fields.consensusAlgId "2 (alg_id)"
  let consensusPk ← required fields.consensusPk "3 (consensus_pk)"
  let selfBond ← required fields.selfBond "4 (self_bond)"
  -- a payload without field 5 is accepted as one from before peer identities
  return { nodeId, consensusAlgId, consensusPk, selfBond, peerId := fields.peerId.getD [] }

def admittedStatus (store : StateStore) : ValidatorStatus :=
  if store.activeValidatorCount < validatorMaxActiveSetSize then .active else .candidate

def isExited (record : ValidatorRecord) : Bool := record.status = .exited

def newValidatorRecord (bonded : StateStore) (operator : Address) (consensusAlgId : AlgId)
    (payload : ValidatorRegisterPayload) : ValidatorRecord where
  operator
  nodeId := payload.nodeId
  consensusAlgId
  consensusPk := payload.consensusPk
  selfBond := payload.selfBond
  status := admittedStatus bonded
  registeredHeight := bonded.blockHeight
  tombstoned := false

def admitValidator (bonded : StateStore) (record : ValidatorRecord) (peerId : Bytes) : StateStore :=
  let registered := bonded.insertValidator env record
  if peerId.isEmpty then registered else registered.setValidatorPeerId env record.operator peerId

def applyValidatorRegister (store : StateStore) (tx : Transaction) :
    Except ApplyError StateStore := do
  let payload ← decodeRegisterPayload env tx.payload
  let consensusAlgId ← okOr (AlgId.fromU16 payload.consensusAlgId) .algorithmNotAllowedForConsensusKey
  require consensusAlgId.allowedForConsensus .algorithmNotAllowedForConsensusKey
  let entry ← okOr (store.algEntry consensusAlgId) .unsupportedAlgorithm
  require (payload.consensusPk.length = entry.pkSize) .invalidKeySize
  require (payload.selfBond ≠ 0) .validatorBondZero
  require ((store.getValidator tx.sender).all isExited) .validatorAlreadyRegistered
  require (!store.consensusKeyInUse payload.consensusPk) .validatorConsensusKeyConflict
  require (payload.peerId.length ≤ validatorPeerIdMaxLen) .validatorPeerIdTooLarge
  require (payload.peerId.isEmpty || !store.peerIdInUse payload.peerId) .validatorPeerIdConflict
  let operator ← okOr (store.getAccount tx.sender) .validatorNotFound
  require (payload.selfBond ≤ operator.balance) .insufficientFunds
  let bonded := withdraw env store tx.sender payload.selfBond
  return admitValidator env bonded (newValidatorRecord bonded tx.sender consensusAlgId payload)
    payload.peerId

end Registration

section Lifecycle

def setValidatorStatus (store : StateStore) (operator : Address) (status : ValidatorStatus) :
    StateStore :=
  (store.modifyValidator operator fun record => { record with status })
    |>.commitValidatorMutation env operator

def applyValidatorExit (store : StateStore) (tx : Transaction) : Except ApplyError StateStore := do
  let record ← okOr (store.getValidator tx.sender) .validatorNotFound
  require (record.status = .active) .validatorNotActive
  require (1 < store.activeValidatorCount) .validatorExitWouldEmptySet
  return setValidatorStatus env store tx.sender (.unbonding store.blockHeight)

def applyValidatorUnjail (store : StateStore) (tx : Transaction) : Except ApplyError StateStore := do
  let record ← okOr (store.getValidator tx.sender) .validatorNotFound
  require (!record.tombstoned) .alreadyTombstoned
  require (record.status = .jailed) .validatorNotJailed
  return setValidatorStatus env store tx.sender (admittedStatus store)

def isRotatable : ValidatorStatus → Bool
  | .active | .candidate | .jailed => true
  | .unbonding _ | .exited => false

def decodeRotatePeerIdPayload (payload : Bytes) : Except ApplyError Bytes := do
  let newPeerId ← lenientFields env payload
    (fun key value newPeerId =>
      match key with
      | 1 => do return some (← bytesField 1 value)
      | _ => .ok newPeerId)
    none
  required newPeerId "1 (new_peer_id)"

def applyValidatorRotatePeerId (store : StateStore) (tx : Transaction) :
    Except ApplyError StateStore := do
  let newPeerId ← decodeRotatePeerIdPayload env tx.payload
  require (!newPeerId.isEmpty) .validatorPeerIdEmpty
  require (newPeerId.length ≤ validatorPeerIdMaxLen) .validatorPeerIdTooLarge
  let record ← okOr (store.getValidator tx.sender) .validatorNotFound
  require (isRotatable record.status) .validatorPeerIdNotRotatable
  require (store.getValidatorPeerId tx.sender = some newPeerId || !store.peerIdInUse newPeerId)
    .validatorPeerIdConflict
  return store.setValidatorPeerId env tx.sender newPeerId

end Lifecycle

section Rotation

def rotationWindow : Nat := 100

structure ConsensusKeyRotateFields where
  newConsensusAlgId : Option Nat := none
  newConsensusPkBytes : Option Bytes := none
  rotationStartHeight : Option Nat := none

def consensusKeyRotateField (key : Int) (value : Value) (fields : ConsensusKeyRotateFields) :
    Except ApplyError ConsensusKeyRotateFields :=
  match key with
  | 1 => do
      return { fields with newConsensusAlgId := some (← expectUint 16 "new_consensus_alg_id" value) }
  | 2 => do return { fields with newConsensusPkBytes := some (← expectBytes value) }
  | 3 => do
      return { fields with
        rotationStartHeight := some (← expectUint 64 "rotation_start_height" value) }
  | _ => unknownKey key

def decodeConsensusKeyRotatePayload (payload : Bytes) : Except ApplyError (Nat × Bytes × Nat) := do
  let fields ← strictFields env payload consensusKeyRotateField {}
  let newConsensusAlgId ← required fields.newConsensusAlgId "1 (new_consensus_alg_id)"
  let newConsensusPkBytes ← required fields.newConsensusPkBytes "2 (new_consensus_pk_bytes)"
  let rotationStartHeight ← required fields.rotationStartHeight "3 (rotation_start_height)"
  return (newConsensusAlgId, newConsensusPkBytes, rotationStartHeight)

def applyConsensusKeyRotate (store : StateStore) (tx : Transaction) :
    Except ApplyError StateStore := do
  let (newAlgIdRaw, newPkBytes, rotationStartHeight) ← decodeConsensusKeyRotatePayload env tx.payload
  let newAlgId ← okOr (AlgId.fromU16 newAlgIdRaw) .unsupportedAlgorithm
  require newAlgId.allowedForConsensus .algorithmNotAllowedForConsensus
  let entry ← okOr (store.algEntry newAlgId) .unsupportedAlgorithm
  require (newPkBytes.length = entry.pkSize) .invalidKeySize
  require (satAdd64 store.blockHeight rotationWindow ≤ rotationStartHeight) .invalidRotationHeight
  return store.insertConsensusKeyRotation env
    { operator := tx.sender, newAlgId, newPkBytes, rotationStartHeight,
      recordedAtHeight := store.blockHeight }

end Rotation

namespace Slashing

structure EquivocationVote where
  height : Nat
  round : Nat
  blockHash : Bytes32
  step : Nat
  signature : Bytes
deriving DecidableEq

structure EquivocationEvidence where
  validatorAddress : Address
  height : Nat
  voteA : EquivocationVote
  voteB : EquivocationVote
deriving DecidableEq

section Decoding

inductive EvidenceDecodeError where
  | invalidFormat (detail : String)
  | missingField (key : Nat)
  | invalidField (key : Nat) (detail : String)
  | invalidStep (step : Nat)
deriving DecidableEq, Repr

def hexByte (number : Nat) : String :=
  let digits := String.ofList (Nat.toDigits 16 number)
  if number < 16 then s!"0x0{digits}" else s!"0x{digits}"

def EvidenceDecodeError.message : EvidenceDecodeError → String
  | invalidFormat detail => s!"INVALID_EVIDENCE_FORMAT: {detail}"
  | missingField key => s!"INVALID_EVIDENCE_FORMAT: missing field {key}"
  | invalidField key detail => s!"INVALID_EVIDENCE_FORMAT: field {key}: {detail}"
  | invalidStep step =>
      s!"INVALID_EVIDENCE_FORMAT: step {hexByte step} is not 0x01 or 0x02"

def evidenceKey (key : Value) : Except EvidenceDecodeError Int := do
  let number ← okOr key.asInteger? (.invalidFormat "map key must be integer")
  require (-(2 ^ 63) ≤ number && number < 2 ^ 63) (.invalidFormat "key out of i64 range")
  return number

def uintField (width key : Nat) (value : Value) : Except EvidenceDecodeError Nat := do
  let _ ← okOr value.asInteger? (.invalidField key "must be integer")
  okOr (value.asUint? width) (.invalidField key s!"u{width} overflow")

def evidenceBytes (key : Nat) (value : Value) : Except EvidenceDecodeError Bytes :=
  okOr value.asBytes? (.invalidField key "must be bytes")

def hashField (key : Nat) (name : String) (value : Value) : Except EvidenceDecodeError Bytes32 := do
  let bytes ← evidenceBytes key value
  okOr (Bytes32.ofBytes? bytes) (.invalidField key s!"{name} must be 32 bytes, got {bytes.length}")

structure VoteFields where
  height : Option Nat := none
  round : Option Nat := none
  blockHash : Option Bytes32 := none
  step : Option Nat := none
  signature : Option Bytes := none

def voteField (key : Int) (value : Value) (fields : VoteFields) :
    Except EvidenceDecodeError VoteFields :=
  match key with
  | 1 => do return { fields with height := some (← uintField 64 1 value) }
  | 2 => do return { fields with round := some (← uintField 32 2 value) }
  | 3 => do return { fields with blockHash := some (← hashField 3 "block_hash" value) }
  | 4 => do
      let step ← uintField 8 4 value
      require (step = 1 || step = 2) (.invalidStep step)
      return { fields with step := some step }
  | 5 => do return { fields with signature := some (← evidenceBytes 5 value) }
  | _ => .error (.invalidFormat s!"unknown key {key} in EquivocationVote")

def decodeEquivocationVote (value : Value) : Except EvidenceDecodeError EquivocationVote := do
  let map ← okOr value.asMap? (.invalidFormat "vote must be a CBOR map")
  let fields ← map.foldlM (fun fields entry => do
    let key ← evidenceKey entry.1
    voteField key entry.2 fields) ({} : VoteFields)
  let height ← okOr fields.height (.missingField 1)
  let round ← okOr fields.round (.missingField 2)
  let blockHash ← okOr fields.blockHash (.missingField 3)
  let step ← okOr fields.step (.missingField 4)
  let signature ← okOr fields.signature (.missingField 5)
  return { height, round, blockHash, step, signature }

structure EvidenceFields where
  validatorAddress : Option Address := none
  height : Option Nat := none
  voteA : Option EquivocationVote := none
  voteB : Option EquivocationVote := none

def evidenceField (key : Int) (value : Value) (fields : EvidenceFields) :
    Except EvidenceDecodeError EvidenceFields :=
  match key with
  | 1 => do return { fields with validatorAddress := some (← hashField 1 "validator_address" value) }
  | 2 => do return { fields with height := some (← uintField 64 2 value) }
  | 3 => do return { fields with voteA := some (← decodeEquivocationVote value) }
  | 4 => do return { fields with voteB := some (← decodeEquivocationVote value) }
  | _ => .error (.invalidFormat s!"unknown key {key} in EquivocationEvidence")

def decodeEquivocationEvidence (payload : Bytes) :
    Except EvidenceDecodeError EquivocationEvidence := do
  let value ← (env.cborDecode payload).mapError fun error =>
    EvidenceDecodeError.invalidFormat s!"CBOR parse error: {error}"
  let map ← okOr value.asMap? (.invalidFormat "payload must be a CBOR map")
  let fields ← map.foldlM (fun fields entry => do
    let key ← evidenceKey entry.1
    evidenceField key entry.2 fields) ({} : EvidenceFields)
  let validatorAddress ← okOr fields.validatorAddress (.missingField 1)
  let height ← okOr fields.height (.missingField 2)
  let voteA ← okOr fields.voteA (.missingField 3)
  let voteB ← okOr fields.voteB (.missingField 4)
  return { validatorAddress, height, voteA, voteB }

end Decoding

def evidenceValidityWindowBlocks : Nat := 2419200
def slashFractionBps : Nat := 500
def basisPointsTotal : Nat := 10000
def treasuryAddress : Address := Bytes32.fill 1
def correlationWindowBlocks : Nat := 6220800
def maxMultBoost : Nat := 19
def correlationBaseMult : Nat := 3

def computeVotePreimage (forkDigest : ForkDigest) (vote : EquivocationVote) : Bytes32 :=
  taggedHash env (ascii "VIPER-VOTE-V1")
    (forkDigest.data ++ be64 vote.height ++ be32 vote.round ++ byteChunk vote.step ++
      vote.blockHash.data)

def verifyVoteSignature (verifier : SignatureVerifier) (pk : PublicKey) (vote : EquivocationVote) :
    Except CryptoError Unit :=
  verifier pk (computeVotePreimage env (.viperResearch1 env) vote).data ⟨pk.algId, vote.signature⟩

def correlationAdjustedSlashFractionBps (baseFractionBps windowSlashedStake activeStake : Nat) : Nat :=
  if activeStake = 0 then baseFractionBps
  else
    let ratioBps := min (satMul128 windowSlashedStake basisPointsTotal / activeStake) basisPointsTotal
    let multiplierBps := min (satMul128 ratioBps correlationBaseMult) basisPointsTotal
    let boostBps := satAdd128 basisPointsTotal (satMul128 multiplierBps maxMultBoost)
    min (satMul128 baseFractionBps boostBps / basisPointsTotal) basisPointsTotal

def computeSlashAmount (selfBond fractionBps : Nat) : Nat :=
  satMul128 selfBond fractionBps / basisPointsTotal

def creditTreasury (store : StateStore) (amount : Nat) : StateStore :=
  creditAccount env store treasuryAddress amount

def checkEvidence (evidence : EquivocationEvidence) (currentBlockHeight : Nat) :
    Except ApplyError Unit := do
  require (evidence.voteA.height = evidence.height && evidence.voteB.height = evidence.height)
    .evidenceHeightMismatch
  require (evidence.voteA.round = evidence.voteB.round) .evidenceRoundMismatch
  require (evidence.voteA.step = evidence.voteB.step) .evidenceStepMismatch
  require (evidence.voteA.blockHash ≠ evidence.voteB.blockHash) .equivocationNotProven
  require (!(evidence.voteA.blockHash = nilHash && evidence.voteB.blockHash = nilHash))
    .equivocationNotProven
  require (evidence.height ≤ currentBlockHeight) .evidenceExpired
  require (currentBlockHeight - evidence.height ≤ evidenceValidityWindowBlocks) .evidenceExpired

def slashAmount (store : StateStore) (selfBond currentBlockHeight : Nat) : Nat :=
  computeSlashAmount selfBond (correlationAdjustedSlashFractionBps slashFractionBps
    (store.recentSlashedStakeInWindow currentBlockHeight correlationWindowBlocks)
    store.totalActiveSelfBond)

def slashRecord (amount : Nat) (record : ValidatorRecord) : ValidatorRecord :=
  { record with selfBond := record.selfBond - amount, status := .jailed, tombstoned := true }

/-- The slash of a proven equivocation: the window is pruned, the bond is cut by the
correlation-adjusted fraction, the validator is tombstoned and the treasury credited. -/
def applySubmitEquivocationEvidence (store : StateStore) (payloadBytes : Bytes)
    (currentBlockHeight : Nat) (verifier : SignatureVerifier) : Except ApplyError StateStore := do
  let evidence ← (decodeEquivocationEvidence env payloadBytes).mapError fun error =>
    ApplyError.payloadDecode s!"INVALID_EVIDENCE_FORMAT: {error.message}"
  checkEvidence evidence currentBlockHeight
  let record ← okOr (store.getValidator evidence.validatorAddress) .notAValidator
  require (!record.tombstoned) .alreadyTombstoned
  let pk : PublicKey := ⟨record.consensusAlgId, record.consensusPk⟩
  (verifyVoteSignature env verifier pk evidence.voteA).mapError fun _ => ApplyError.invalidSignature
  (verifyVoteSignature env verifier pk evidence.voteB).mapError fun _ => ApplyError.invalidSignature
  let pruned := store.pruneRecentSlashesBefore env (currentBlockHeight - correlationWindowBlocks)
  let amount := slashAmount pruned record.selfBond currentBlockHeight
  let slashed := (pruned.modifyValidator evidence.validatorAddress (slashRecord amount))
    |>.commitValidatorMutation env evidence.validatorAddress
  return (creditTreasury env slashed amount).recordRecentSlash env ⟨currentBlockHeight, amount⟩

end Slashing

end ViperChain
