import ViperChain.Types

/-!
Leaf hashes of the state tree: tagged hashes over length-prefixed chunks.
-/

namespace ViperChain

section Chunks

def be16 (number : Nat) : Bytes := toBeBytes 2 number
def be32 (number : Nat) : Bytes := toBeBytes 4 number
def be64 (number : Nat) : Bytes := toBeBytes 8 number
def be128 (number : Nat) : Bytes := toBeBytes 16 number

def byteChunk (number : Nat) : Bytes := [Fin.ofNat 256 number]

def optionChunks {A : Type} (encode : A → Bytes) : Option A → List Bytes
  | some value => [byteChunk 1, encode value]
  | none => [byteChunk 0]

def sizedChunks (content : Bytes) : List Bytes := [be64 content.length, content]

def flagChunk (flag : Bool) : Bytes := byteChunk (if flag then 1 else 0)

end Chunks

section Codes

def encodeLifecycleByte : Lifecycle → Nat
  | .active => 0
  | .discouraged => 1
  | .deprecated => 2
  | .banned => 3

def KeyStatus.code : KeyStatus → Nat
  | pending => 0
  | active => 1
  | revoked => 2

def SigClass.code : Option SigClass → Nat
  | some .reduced => 1
  | some .standard => 2
  | some .premium => 3
  | none => 0

def AttestationStatus.code : AttestationStatus → Nat
  | active => 0
  | revoked => 1

def ValidatorStatus.code : ValidatorStatus → Nat
  | candidate => 0
  | active => 1
  | jailed => 2
  | unbonding _ => 3
  | exited => 4

def ProposalStatus.code : ProposalStatus → Nat
  | voting => 0
  | executed => 1
  | expired => 2
  | rejected => 3
  | executionFailed => 4

end Codes

section FeeMarket

structure FeeMarketDimension where
  baseFee : Nat
  limit : Nat
  target : Nat
  excess : Nat
  reserveFloor : Nat
  updateFraction : Nat
deriving DecidableEq

structure FeeMarketState where
  compute : FeeMarketDimension
  storage : FeeMarketDimension
  witness : FeeMarketDimension
  contention : FeeMarketDimension
  burnRateBps : Nat
deriving DecidableEq

structure StorageFundState where
  balance : Nat
  perpetualCostPerByte : Nat
  rebateFractionBps : Nat
deriving DecidableEq

def FeeMarketDimension.chunks (dimension : FeeMarketDimension) : List Bytes :=
  [be64 dimension.baseFee, be64 dimension.limit, be64 dimension.target, be64 dimension.excess,
    be64 dimension.reserveFloor, be64 dimension.updateFraction]

end FeeMarket

variable (env : Env)

def leafHash (tag : String) (chunks : List Bytes) : Bytes32 :=
  ((TaggedHasher.new env (ascii tag)).pushChunks chunks).finish env

def keyChunks (key : KeyEntry) : List Bytes :=
  [be16 key.algId.asU16, be32 key.keyVersion, be64 key.validFromHeight,
    byteChunk key.status.code, be32 key.allowedTxTypes, key.pkBytes]

def computeAccountLeafHash (account : Account) : Bytes32 :=
  -- a stable sort: equal versions keep their order in the key set
  let keys := account.keys.insertionSort fun left right => left.keyVersion ≤ right.keyVersion
  leafHash env "PQC-ACCOUNT-LEAF-V1" <| List.flatten
    [ [account.address.data, be128 account.balance, be64 account.nonce, be64 keys.length],
      keys.flatMap keyChunks,
      [be32 account.policyVersion],
      optionChunks Bytes32.data account.policyHash,
      [be16 account.verifierTemplateId, account.authData] ]

def revocationChunks : Option AttestationRevocation → List Bytes
  | some revocation =>
      [byteChunk 1, be64 revocation.revokedAtHeight, revocation.revoker.data] ++
        optionChunks Bytes32.data revocation.revocationReasonHash
  | none => [byteChunk 0]

def computeAttestationLeafHash (attestation : Attestation) : Bytes32 :=
  leafHash env "PQC-ATTESTATION-LEAF-V1" <| List.flatten
    [ [attestation.attestationId.data, attestation.attester.data, attestation.subject.data,
        be16 attestation.attestationType, attestation.contentHash.data,
        attestation.schemaId.data],
      optionChunks Bytes32.data attestation.metadataHash,
      [be64 attestation.anchorHeight],
      optionChunks be64 attestation.expiresAtHeight,
      [byteChunk attestation.status.code],
      revocationChunks attestation.revocation ]

def computeAlgLeafHash (entry : AlgEntry) : Bytes32 :=
  leafHash env "PQC-ALG-LEAF-V1"
    [be16 entry.algId.asU16, entry.specRef, be64 entry.pkSize, be64 entry.sigSize,
      be64 entry.minFee, byteChunk (encodeLifecycleByte entry.lifecycle),
      byteChunk (SigClass.code entry.sigClass), be32 entry.benchmarkVerifyPerSec]

def computeProofAnchorLeafHash (anchor : ProofAnchor) : Bytes32 :=
  leafHash env "PQC-PROOF-ANCHOR-LEAF-V1" <| List.flatten
    [ [anchor.anchorId.data, anchor.claimer.data, be16 anchor.claimType,
        anchor.assetIdHash.data, anchor.proofHash.data],
      optionChunks Bytes32.data anchor.schemaId,
      [be64 anchor.anchorHeight] ]

def computeConsensusRotationLeafHash (rotation : ConsensusKeyRotation) : Bytes32 :=
  leafHash env "PQC-CONSENSUS-ROTATE-LEAF-V1" <| List.flatten
    [ [rotation.operator.data, be16 rotation.newAlgId.asU16],
      sizedChunks rotation.newPkBytes,
      [be64 rotation.rotationStartHeight, be64 rotation.recordedAtHeight] ]

def computeReceiptLeafHash (receipt : GovernanceReceipt) : Bytes32 :=
  leafHash env "PQC-RECEIPT-LEAF-V1"
    [receipt.proposalId.data, byteChunk receipt.proposalType.asU8, receipt.proposer.data,
      be16 receipt.targetAlgId.asU16, byteChunk (encodeLifecycleByte receipt.lifecycleBefore),
      byteChunk (encodeLifecycleByte receipt.lifecycleAfter), be64 receipt.minFeeBefore,
      be64 receipt.minFeeAfter, receipt.rationaleHash.data, be64 receipt.executedAtHeight]

def computePeerIdBindingLeafHash (operator : Address) (peerId : Bytes) : Bytes32 :=
  leafHash env "PQC-PEER-ID-BINDING-LEAF-V1" (operator.data :: sizedChunks peerId)

def computeValidatorLeafHash (record : ValidatorRecord) : Bytes32 :=
  let unbonding :=
    match record.status with
    | .unbonding startHeight => [be64 startHeight]
    | _ => []
  leafHash env "PQC-VALIDATOR-LEAF-V1" <| List.flatten
    [ [record.operator.data, record.nodeId, be16 record.consensusAlgId.asU16],
      sizedChunks record.consensusPk,
      [be128 record.selfBond, be64 record.registeredHeight, byteChunk record.status.code],
      unbonding,
      [flagChunk record.tombstoned] ]

def computeStorageFundLeafHash (fund : StorageFundState) : Bytes32 :=
  leafHash env "VIPER-STORAGE-FUND-V1"
    [be128 fund.balance, be64 fund.perpetualCostPerByte, be64 fund.rebateFractionBps]

def computeFeeMarketLeafHash (market : FeeMarketState) : Bytes32 :=
  leafHash env "VIPER-FEE-MARKET-V1" <| List.flatten
    [ market.compute.chunks, market.storage.chunks, market.witness.chunks,
      market.contention.chunks, [be64 market.burnRateBps] ]

def computeRecentSlashesLeafHash (slashes : List RecentSlashEntry) : Bytes32 :=
  leafHash env "VIPER-RECENT-SLASHES-V1" <|
    be64 slashes.length ::
      slashes.flatMap fun entry => [be64 entry.height, be128 entry.slashedStake]

def effectChunks : ProposalEffect → List Bytes
  | .registryUpdate algId targetLifecycle newMinFee => List.flatten
      [ [byteChunk 0x01, be16 algId.asU16],
        (match targetLifecycle with
          | some lifecycle => [byteChunk 1 ++ byteChunk (encodeLifecycleByte lifecycle)]
          | none => [byteChunk 0]),
        optionChunks be64 newMinFee ]
  | .burnRateUpdate newBurnRateBps => [byteChunk 0x02, be16 newBurnRateBps]
  | .feeParamUpdate newBlockGasLimit => [byteChunk 0x03, be64 newBlockGasLimit]
  | .softwareUpgrade activateAtTimestampNs expectedVersion =>
      [byteChunk 0x04, be64 activateAtTimestampNs, be16 expectedVersion]
  | .addAlgorithm proposal => List.flatten
      [ [byteChunk 0x05, be16 proposal.algId],
        sizedChunks proposal.specRef,
        [be32 proposal.pkSize, be32 proposal.sigSize, byteChunk (proposal.sigClass.getD 0),
          be64 proposal.minFee, be32 proposal.benchmarkVerifyPerSec,
          byteChunk (encodeLifecycleByte proposal.initialLifecycle)] ]
  | .addSlashingVerifier proposal => List.flatten
      [ [byteChunk 0x06, byteChunk proposal.evidenceType],
        sizedChunks proposal.specRef,
        [be16 proposal.slashFractionBps, be64 proposal.jailDurationBlocks,
          flagChunk proposal.tombstone, byteChunk (encodeLifecycleByte proposal.lifecycle)] ]
  | .addHash proposal => List.flatten
      [ [byteChunk 0x07, byteChunk proposal.hashId],
        sizedChunks proposal.specRef,
        [be32 proposal.outputSizeBytes,
          byteChunk (encodeLifecycleByte proposal.initialLifecycle)] ]
  | .addAuthTemplate proposal => List.flatten
      [ [byteChunk 0x08, be16 proposal.templateId],
        sizedChunks proposal.specRef,
        [byteChunk (encodeLifecycleByte proposal.lifecycle)] ]

def computeProposalLeafHash (proposal : PendingProposal) : Bytes32 :=
  let votes := proposal.votes.toList
  leafHash env "PQC-PROPOSAL-LEAF-V1" <| List.flatten
    [ [proposal.proposalId.data, byteChunk proposal.proposalType.asU8,
        byteChunk proposal.status.code, be64 proposal.votingDeadline,
        be64 proposal.executeAfter, be64 votes.length],
      votes.flatMap fun vote => [vote.1.data, flagChunk vote.2],
      effectChunks proposal.effect,
      [proposal.rationaleHash.data] ]

def computeUpgradeLeafHash (upgrade : PendingUpgrade) : Bytes32 :=
  leafHash env "PQC-UPGRADE-LEAF-V1"
    [upgrade.proposalId.data, be64 upgrade.activateAtTimestampNs, be16 upgrade.expectedVersion]

def computeHashRegistryLeafHash (entry : HashEntry) : Bytes32 :=
  leafHash env "VIPER-HASH-REGISTRY-V1" <| List.flatten
    [ [byteChunk entry.hashId], sizedChunks entry.specRef,
      [be32 entry.outputSizeBytes, byteChunk (encodeLifecycleByte entry.lifecycle)] ]

def computeSlashingVerifierLeafHash (entry : SlashingVerifierEntry) : Bytes32 :=
  leafHash env "VIPER-SLASHING-REGISTRY-V1" <| List.flatten
    [ [byteChunk entry.evidenceType], sizedChunks entry.specRef,
      [be16 entry.slashFractionBps, be64 entry.jailDurationBlocks, flagChunk entry.tombstone,
        byteChunk (encodeLifecycleByte entry.lifecycle)] ]

def tsaRefChunks : Option TsaRef → List Bytes
  | some tsaRef => List.flatten
      [ [byteChunk 1], sizedChunks tsaRef.url, [tsaRef.certFingerprintSha256.data],
        (match tsaRef.policyOid with
          | some oid => byteChunk 1 :: sizedChunks oid
          | none => [byteChunk 0]) ]
  | none => [byteChunk 0]

def timestampAnchorChunks (anchor : TimestampAnchor) : List Bytes := List.flatten
  [ [byteChunk anchor.kind.asU8], tsaRefChunks anchor.tsaRef, sizedChunks anchor.externalHash,
    [be64 anchor.postedAtHeight] ]

def computeArchivalRecordLeafHash (record : ArchivalRecord) : Bytes32 :=
  leafHash env "VIPER-ARCHIVAL-RECORDS-V1" <| List.flatten
    [ [be64 record.epochNumber, record.epochRoot.data, be64 record.signerAddresses.length],
      record.signerAddresses.map Bytes32.data,
      [be64 record.slhSignatures.length],
      record.slhSignatures.flatMap sizedChunks,
      [be64 record.timestampAnchors.length],
      record.timestampAnchors.flatMap timestampAnchorChunks,
      [be64 record.evidenceRecordVersion] ]

def computeArchivalKeyLeafHash (key : ValidatorArchivalKey) : Bytes32 :=
  leafHash env "VIPER-ARCHIVAL-KEYS-V1" <| List.flatten
    [ [key.operator.data, be16 key.archivalAlgId], sizedChunks key.archivalPk,
      [be64 key.registeredAtHeight] ]

end ViperChain
