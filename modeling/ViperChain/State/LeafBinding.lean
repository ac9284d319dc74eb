import ViperChain.Assumptions
import ViperChain.Library.PrefixCode
import ViperChain.State.Leaves

/-!
What a leaf says about its entity: its chunks can be read off again one by one.
-/

namespace ViperChain

open PrefixCode

section Frames

def frames (chunks : List Bytes) : Bytes := chunks.flatMap fun chunk => be64 chunk.length ++ chunk

theorem pushChunks_absorbed (hasher : TaggedHasher) (chunks : List Bytes) :
    (hasher.pushChunks chunks).absorbed = hasher.absorbed ++ frames chunks := by
  induction chunks generalizing hasher with
  | nil => simp [TaggedHasher.pushChunks, frames]
  | cons chunk chunks ih =>
      have rest := ih (hasher.pushChunk chunk)
      simp only [TaggedHasher.pushChunks, List.foldl_cons] at rest ⊢
      rw [rest]
      simp [TaggedHasher.pushChunk, frames, be64]

theorem finish_pushChunks (env : Env) (tag : Bytes) (chunks : List Bytes) :
    ((TaggedHasher.new env tag).pushChunks chunks).finish env = taggedHash env tag (frames chunks) := by
  rw [TaggedHasher.finish, pushChunks_absorbed]
  rfl

theorem leafHash_eq (env : Env) (tag : String) (chunks : List Bytes) :
    leafHash env tag chunks = taggedHash env (ascii tag) (frames chunks) :=
  finish_pushChunks env (ascii tag) chunks

theorem be64_injective {left right : Nat} (fitsLeft : left < 2 ^ 64) (fitsRight : right < 2 ^ 64)
    (same : be64 left = be64 right) : left = right :=
  toBeBytes_injective fitsLeft fitsRight same

theorem be128_injective {left right : Nat} (fitsLeft : left < 2 ^ 128) (fitsRight : right < 2 ^ 128)
    (same : be128 left = be128 right) : left = right :=
  toBeBytes_injective fitsLeft fitsRight same

theorem be32_injective {left right : Nat} (fitsLeft : left < 2 ^ 32) (fitsRight : right < 2 ^ 32)
    (same : be32 left = be32 right) : left = right :=
  toBeBytes_injective fitsLeft fitsRight same

theorem be16_injective {left right : Nat} (fitsLeft : left < 2 ^ 16) (fitsRight : right < 2 ^ 16)
    (same : be16 left = be16 right) : left = right :=
  toBeBytes_injective fitsLeft fitsRight same

theorem byteChunk_injective {left right : Nat} (fitsLeft : left < 256) (fitsRight : right < 256)
    (same : byteChunk left = byteChunk right) : left = right := by
  simp only [byteChunk, Fin.ofNat, List.cons.injEq, and_true, Fin.mk.injEq] at same
  rwa [Nat.mod_eq_of_lt fitsLeft, Nat.mod_eq_of_lt fitsRight] at same

theorem frames_injective {left right : List Bytes}
    (shortLeft : ∀ chunk ∈ left, chunk.length < 2 ^ 64)
    (shortRight : ∀ chunk ∈ right, chunk.length < 2 ^ 64)
    (same : frames left = frames right) : left = right := by
  have reads : Reads (fun chunk : Bytes => be64 chunk.length ++ chunk)
      (fun chunk => chunk.length < 2 ^ 64) :=
    Reads.framed (fun number => toBeBytes_length 8 number) fun _ _ => be64_injective
  refine reads.stream (fun chunk empty => ?_) shortLeft shortRight same
  have width := congrArg List.length empty
  simp [be64] at width

end Frames

section Chunks

theorem code_injective {A : Type} {code : A → Nat} (small : ∀ value, code value < 256)
    (distinct : Function.Injective code) {left right : A}
    (same : byteChunk (code left) = byteChunk (code right)) : left = right :=
  distinct (byteChunk_injective (small left) (small right) same)

theorem lifecycle_injective {left right : Lifecycle}
    (same : byteChunk (encodeLifecycleByte left) = byteChunk (encodeLifecycleByte right)) :
    left = right :=
  code_injective (by rintro (_ | _) <;> decide)
    (by rintro (_ | _) (_ | _) <;> simp [encodeLifecycleByte]) same

theorem keyStatus_injective {left right : KeyStatus}
    (same : byteChunk left.code = byteChunk right.code) : left = right :=
  code_injective (by rintro (_ | _) <;> decide)
    (by rintro (_ | _) (_ | _) <;> simp [KeyStatus.code]) same

theorem sigClass_injective {left right : Option SigClass}
    (same : byteChunk (SigClass.code left) = byteChunk (SigClass.code right)) : left = right :=
  code_injective (by rintro (_ | _ | _) <;> decide)
    (by rintro (_ | _ | _) (_ | _ | _) <;> simp [SigClass.code]) same

theorem attestationStatus_injective {left right : AttestationStatus}
    (same : byteChunk left.code = byteChunk right.code) : left = right :=
  code_injective (by rintro (_ | _) <;> decide)
    (by rintro (_ | _) (_ | _) <;> simp [AttestationStatus.code]) same

theorem proposalStatus_injective {left right : ProposalStatus}
    (same : byteChunk left.code = byteChunk right.code) : left = right :=
  code_injective (by rintro (_ | _) <;> decide)
    (by rintro (_ | _) (_ | _) <;> simp [ProposalStatus.code]) same

theorem proposalType_injective {left right : GovernanceProposalType}
    (same : byteChunk left.asU8 = byteChunk right.asU8) : left = right :=
  code_injective (by rintro (_ | _) <;> decide)
    (by rintro (_ | _) (_ | _) <;> simp [GovernanceProposalType.asU8]) same

theorem flag_injective {left right : Bool} (same : flagChunk left = flagChunk right) :
    left = right := by
  revert same
  cases left <;> cases right <;> decide

theorem algId_injective {left right : AlgId} (same : be16 left.asU16 = be16 right.asU16) :
    left = right := by
  have small : ∀ alg : AlgId, alg.asU16 < 2 ^ 16 := by rintro (_ | _) <;> decide
  have numbers := congrArg AlgId.fromU16 (be16_injective (small left) (small right) same)
  rwa [AlgId.fromU16_asU16, AlgId.fromU16_asU16, Option.some.injEq] at numbers

theorem optionChunks_reads {A : Type} {encode : A → Bytes} {valid : A → Prop}
    (injective : ∀ left right, valid left → valid right → encode left = encode right →
      left = right) :
    Reads (optionChunks encode) fun value => ∀ content, value = some content → valid content := by
  have written : optionChunks encode =
      fun value => value.elim [byteChunk 0] fun content => byteChunk 1 :: [encode content] := by
    funext value
    cases value <;> rfl
  rw [written]
  exact Reads.option (by decide) (Reads.single injective)

theorem hashOption_injective {left right : Option Bytes32} {restLeft restRight : List Bytes}
    (same : optionChunks Bytes32.data left ++ restLeft =
      optionChunks Bytes32.data right ++ restRight) : left = right ∧ restLeft = restRight := by
  have reads : Reads (optionChunks Bytes32.data) fun value => ∀ content, value = some content → True :=
    optionChunks_reads fun _ _ _ _ equal => Bytes32.data_injective equal
  exact reads left right (fun _ _ => trivial) (fun _ _ => trivial) _ _ same

theorem be64Option_injective {left right : Option Nat} {restLeft restRight : List Bytes}
    (fitsLeft : ∀ number, left = some number → number < 2 ^ 64)
    (fitsRight : ∀ number, right = some number → number < 2 ^ 64)
    (same : optionChunks be64 left ++ restLeft = optionChunks be64 right ++ restRight) :
    left = right ∧ restLeft = restRight :=
  optionChunks_reads (fun _ _ => be64_injective) left right fitsLeft fitsRight _ _ same

end Chunks

section Accounts

def KeyEntry.InRange (key : KeyEntry) : Prop :=
  key.keyVersion < 2 ^ 32 ∧ key.validFromHeight < 2 ^ 64 ∧ key.allowedTxTypes < 2 ^ 32

structure Account.InRange (account : Account) : Prop where
  balance : account.balance < 2 ^ 128
  nonce : account.nonce < 2 ^ 64
  count : account.keys.length < 2 ^ 64
  keys : ∀ key ∈ account.keys, key.InRange
  policyVersion : account.policyVersion < 2 ^ 32
  verifierTemplateId : account.verifierTemplateId < 2 ^ 16

def Account.SameUpToKeyOrder (left right : Account) : Prop :=
  left.keys.Perm right.keys ∧ { left with keys := right.keys } = right

def Account.sortedKeys (account : Account) : List KeyEntry :=
  account.keys.insertionSort fun left right => left.keyVersion ≤ right.keyVersion

def Account.leafChunks (account : Account) : List Bytes := List.flatten
  [ [account.address.data, be128 account.balance, be64 account.nonce,
      be64 account.sortedKeys.length],
    account.sortedKeys.flatMap keyChunks,
    [be32 account.policyVersion],
    optionChunks Bytes32.data account.policyHash,
    [be16 account.verifierTemplateId, account.authData] ]

theorem keyChunks_injective (left right : KeyEntry) (fitsLeft : left.InRange)
    (fitsRight : right.InRange) (same : keyChunks left = keyChunks right) : left = right := by
  obtain ⟨versionLeft, heightLeft, typesLeft⟩ := fitsLeft
  obtain ⟨versionRight, heightRight, typesRight⟩ := fitsRight
  simp only [keyChunks, List.cons.injEq, and_true] at same
  obtain ⟨alg, version, height, status, types, key⟩ := same
  cases left
  cases right
  simp only [KeyEntry.mk.injEq]
  exact ⟨algId_injective alg, key, be32_injective versionLeft versionRight version,
    be64_injective heightLeft heightRight height, keyStatus_injective status,
    be32_injective typesLeft typesRight types⟩

theorem keyChunks_read : Reads (fun keys : List KeyEntry => be64 keys.length :: keys.flatMap keyChunks)
    fun keys => keys.length < 2 ^ 64 ∧ ∀ key ∈ keys, key.InRange :=
  Reads.counted (fun _ _ => be64_injective)
    (Reads.fixed (fun key _ => show (keyChunks key).length = 6 from rfl) keyChunks_injective)

theorem Account.InRange.sorted {account : Account} (fits : account.InRange) :
    account.sortedKeys.length < 2 ^ 64 ∧ ∀ key ∈ account.sortedKeys, key.InRange := by
  have sorted : account.sortedKeys.Perm account.keys := List.perm_insertionSort _ _
  exact ⟨sorted.length_eq ▸ fits.count, fun key member => fits.keys key (sorted.mem_iff.mp member)⟩

theorem Account.leafChunks_injective {left right : Account} (fitsLeft : left.InRange)
    (fitsRight : right.InRange) (same : left.leafChunks = right.leafChunks) :
    left.SameUpToKeyOrder right := by
  simp only [leafChunks, List.flatten_cons, List.flatten_nil, List.append_nil, List.cons_append,
    List.nil_append, List.cons.injEq] at same
  obtain ⟨address, balance, nonce, count, keys⟩ := same
  obtain ⟨sorted, rest⟩ := keyChunks_read _ _ fitsLeft.sorted fitsRight.sorted _ _
    (List.cons_eq_cons.mpr ⟨count, keys⟩)
  obtain ⟨version, rest⟩ := List.cons.inj rest
  obtain ⟨hash, rest⟩ := hashOption_injective rest
  simp only [List.cons.injEq, and_true] at rest
  have order : left.keys.Perm right.keys := by
    have sortedLeft : left.sortedKeys.Perm left.keys := List.perm_insertionSort _ _
    have sortedRight : right.sortedKeys.Perm right.keys := List.perm_insertionSort _ _
    exact sortedLeft.symm.trans (sorted ▸ sortedRight)
  refine ⟨order, ?_⟩
  have balances := be128_injective fitsLeft.balance fitsRight.balance balance
  have nonces := be64_injective fitsLeft.nonce fitsRight.nonce nonce
  have versions := be32_injective fitsLeft.policyVersion fitsRight.policyVersion version
  have templates :=
    be16_injective fitsLeft.verifierTemplateId fitsRight.verifierTemplateId rest.1
  cases left
  cases right
  simp only [Account.mk.injEq]
  exact ⟨Bytes32.data_injective address, balances, nonces, trivial, versions, hash, templates, rest.2⟩

end Accounts

section Records

def AttestationRevocation.InRange (revocation : AttestationRevocation) : Prop :=
  revocation.revokedAtHeight < 2 ^ 64

structure Attestation.InRange (attestation : Attestation) : Prop where
  attestationType : attestation.attestationType < 2 ^ 16
  anchorHeight : attestation.anchorHeight < 2 ^ 64
  expiresAtHeight : ∀ height, attestation.expiresAtHeight = some height → height < 2 ^ 64
  revocation : ∀ revocation, attestation.revocation = some revocation → revocation.InRange

def Attestation.leafChunks (attestation : Attestation) : List Bytes := List.flatten
  [ [attestation.attestationId.data, attestation.attester.data, attestation.subject.data,
      be16 attestation.attestationType, attestation.contentHash.data, attestation.schemaId.data],
    optionChunks Bytes32.data attestation.metadataHash,
    [be64 attestation.anchorHeight],
    optionChunks be64 attestation.expiresAtHeight,
    [byteChunk attestation.status.code],
    revocationChunks attestation.revocation ]

theorem revocationChunks_injective {left right : Option AttestationRevocation}
    (fitsLeft : ∀ revocation, left = some revocation → revocation.InRange)
    (fitsRight : ∀ revocation, right = some revocation → revocation.InRange)
    (same : revocationChunks left = revocationChunks right) : left = right := by
  have written : ∀ value : Option AttestationRevocation, revocationChunks value =
      value.elim [byteChunk 0] fun revocation => byteChunk 1 ::
        (be64 revocation.revokedAtHeight :: revocation.revoker.data ::
          optionChunks Bytes32.data revocation.revocationReasonHash) := by
    intro value
    cases value <;> rfl
  have reads : Reads (fun revocation : AttestationRevocation =>
      be64 revocation.revokedAtHeight :: revocation.revoker.data ::
        optionChunks Bytes32.data revocation.revocationReasonHash)
      AttestationRevocation.InRange := by
    intro left right fitsLeft fitsRight restLeft restRight same
    simp only [List.cons_append, List.cons.injEq] at same
    obtain ⟨height, revoker, rest⟩ := same
    obtain ⟨reason, tails⟩ := hashOption_injective rest
    have heights := be64_injective fitsLeft fitsRight height
    cases left
    cases right
    simp only [AttestationRevocation.mk.injEq]
    exact ⟨⟨heights, Bytes32.data_injective revoker, reason⟩, tails⟩
  rw [written, written] at same
  exact (Reads.option (by decide) reads).injective fitsLeft fitsRight same

theorem Attestation.leafChunks_injective {left right : Attestation} (fitsLeft : left.InRange)
    (fitsRight : right.InRange) (same : left.leafChunks = right.leafChunks) : left = right := by
  simp only [leafChunks, List.flatten_cons, List.flatten_nil, List.append_nil, List.cons_append,
    List.nil_append, List.cons.injEq] at same
  obtain ⟨identifier, attester, subject, kind, content, schema, rest⟩ := same
  obtain ⟨metadata, rest⟩ := hashOption_injective rest
  obtain ⟨anchor, rest⟩ := List.cons.inj rest
  obtain ⟨expiry, rest⟩ :=
    be64Option_injective fitsLeft.expiresAtHeight fitsRight.expiresAtHeight rest
  obtain ⟨status, rest⟩ := List.cons.inj rest
  have revocations := revocationChunks_injective fitsLeft.revocation fitsRight.revocation rest
  have kinds := be16_injective fitsLeft.attestationType fitsRight.attestationType kind
  have anchors := be64_injective fitsLeft.anchorHeight fitsRight.anchorHeight anchor
  cases left
  cases right
  simp only [Attestation.mk.injEq]
  exact ⟨Bytes32.data_injective identifier, Bytes32.data_injective attester,
    Bytes32.data_injective subject, kinds, Bytes32.data_injective content,
    Bytes32.data_injective schema, metadata, anchors, expiry, attestationStatus_injective status,
    revocations⟩

def ProofAnchor.InRange (anchor : ProofAnchor) : Prop :=
  anchor.claimType < 2 ^ 16 ∧ anchor.anchorHeight < 2 ^ 64

def ProofAnchor.leafChunks (anchor : ProofAnchor) : List Bytes := List.flatten
  [ [anchor.anchorId.data, anchor.claimer.data, be16 anchor.claimType, anchor.assetIdHash.data,
      anchor.proofHash.data],
    optionChunks Bytes32.data anchor.schemaId,
    [be64 anchor.anchorHeight] ]

theorem ProofAnchor.leafChunks_injective {left right : ProofAnchor} (fitsLeft : left.InRange)
    (fitsRight : right.InRange) (same : left.leafChunks = right.leafChunks) : left = right := by
  simp only [leafChunks, List.flatten_cons, List.flatten_nil, List.append_nil, List.cons_append,
    List.nil_append, List.cons.injEq] at same
  obtain ⟨identifier, claimer, kind, asset, proof, rest⟩ := same
  obtain ⟨schema, rest⟩ := hashOption_injective rest
  have kinds := be16_injective fitsLeft.1 fitsRight.1 kind
  have heights := be64_injective fitsLeft.2 fitsRight.2 (List.cons.inj rest).1
  cases left
  cases right
  simp only [ProofAnchor.mk.injEq]
  exact ⟨Bytes32.data_injective identifier, Bytes32.data_injective claimer, kinds,
    Bytes32.data_injective asset, Bytes32.data_injective proof, schema, heights⟩

end Records

section Validators

def ConsensusKeyRotation.InRange (rotation : ConsensusKeyRotation) : Prop :=
  rotation.rotationStartHeight < 2 ^ 64 ∧ rotation.recordedAtHeight < 2 ^ 64

def ConsensusKeyRotation.leafChunks (rotation : ConsensusKeyRotation) : List Bytes := List.flatten
  [ [rotation.operator.data, be16 rotation.newAlgId.asU16],
    sizedChunks rotation.newPkBytes,
    [be64 rotation.rotationStartHeight, be64 rotation.recordedAtHeight] ]

theorem ConsensusKeyRotation.leafChunks_injective {left right : ConsensusKeyRotation}
    (fitsLeft : left.InRange) (fitsRight : right.InRange)
    (same : left.leafChunks = right.leafChunks) : left = right := by
  simp only [leafChunks, sizedChunks, List.flatten_cons, List.flatten_nil, List.append_nil,
    List.cons_append, List.nil_append, List.cons.injEq, and_true] at same
  obtain ⟨operator, alg, _, key, start, recorded⟩ := same
  have starts := be64_injective fitsLeft.1 fitsRight.1 start
  have recordings := be64_injective fitsLeft.2 fitsRight.2 recorded
  cases left
  cases right
  simp only [ConsensusKeyRotation.mk.injEq]
  exact ⟨Bytes32.data_injective operator, algId_injective alg, key, starts, recordings⟩

structure ValidatorRecord.InRange (record : ValidatorRecord) : Prop where
  selfBond : record.selfBond < 2 ^ 128
  registeredHeight : record.registeredHeight < 2 ^ 64
  startHeight : ∀ height, record.status = .unbonding height → height < 2 ^ 64

def ValidatorStatus.startChunks : ValidatorStatus → List Bytes
  | .unbonding startHeight => [be64 startHeight]
  | _ => []

def ValidatorRecord.leafChunks (record : ValidatorRecord) : List Bytes := List.flatten
  [ [record.operator.data, record.nodeId, be16 record.consensusAlgId.asU16],
    sizedChunks record.consensusPk,
    [be128 record.selfBond, be64 record.registeredHeight, byteChunk record.status.code],
    record.status.startChunks,
    [flagChunk record.tombstoned] ]

theorem validatorStatus_injective {left right : ValidatorStatus} {restLeft restRight : List Bytes}
    (fitsLeft : ∀ height, left = .unbonding height → height < 2 ^ 64)
    (fitsRight : ∀ height, right = .unbonding height → height < 2 ^ 64)
    (code : byteChunk left.code = byteChunk right.code)
    (same : left.startChunks ++ restLeft = right.startChunks ++ restRight) :
    left = right ∧ restLeft = restRight := by
  have small : ∀ status : ValidatorStatus, status.code < 256 := by
    rintro (_ | _) <;> simp [ValidatorStatus.code]
  have codes := byteChunk_injective (small left) (small right) code
  cases left <;> cases right <;>
    simp only [ValidatorStatus.code, Nat.reduceEqDiff, OfNat.zero_ne_ofNat, OfNat.ofNat_ne_zero,
      zero_ne_one, one_ne_zero, OfNat.one_ne_ofNat, OfNat.ofNat_ne_one] at codes
  case unbonding.unbonding heightLeft heightRight =>
    obtain ⟨height, rest⟩ := List.cons.inj same
    exact ⟨congrArg _ (be64_injective (fitsLeft _ rfl) (fitsRight _ rfl) height), rest⟩
  all_goals exact ⟨rfl, same⟩

theorem ValidatorRecord.leafChunks_injective {left right : ValidatorRecord}
    (fitsLeft : left.InRange) (fitsRight : right.InRange)
    (same : left.leafChunks = right.leafChunks) : left = right := by
  simp only [leafChunks, sizedChunks, List.flatten_cons, List.flatten_nil, List.append_nil,
    List.cons_append, List.nil_append, List.cons.injEq] at same
  obtain ⟨operator, node, alg, _, key, bond, registered, code, rest⟩ := same
  obtain ⟨status, rest⟩ :=
    validatorStatus_injective fitsLeft.startHeight fitsRight.startHeight code rest
  have bonds := be128_injective fitsLeft.selfBond fitsRight.selfBond bond
  have heights := be64_injective fitsLeft.registeredHeight fitsRight.registeredHeight registered
  have tombstones := flag_injective (List.cons.inj rest).1
  cases left
  cases right
  simp only [ValidatorRecord.mk.injEq]
  exact ⟨Bytes32.data_injective operator, node, algId_injective alg, key, bonds, status, heights,
    tombstones⟩

def RecentSlashEntry.InRange (entry : RecentSlashEntry) : Prop :=
  entry.height < 2 ^ 64 ∧ entry.slashedStake < 2 ^ 128

def recentSlashesChunks (slashes : List RecentSlashEntry) : List Bytes :=
  be64 slashes.length :: slashes.flatMap fun entry => [be64 entry.height, be128 entry.slashedStake]

theorem recentSlashesChunks_read : Reads recentSlashesChunks
    fun slashes => slashes.length < 2 ^ 64 ∧ ∀ entry ∈ slashes, entry.InRange := by
  refine Reads.counted (fun _ _ => be64_injective)
    (Reads.fixed (fun entry _ => show [be64 entry.height, be128 entry.slashedStake].length = 2 from rfl)
      fun left right fitsLeft fitsRight same => ?_)
  simp only [List.cons.injEq, and_true] at same
  have heights := be64_injective fitsLeft.1 fitsRight.1 same.1
  have stakes := be128_injective fitsLeft.2 fitsRight.2 same.2
  cases left
  cases right
  simp only [RecentSlashEntry.mk.injEq]
  exact ⟨heights, stakes⟩

end Validators

section Registries

structure AlgEntry.InRange (entry : AlgEntry) : Prop where
  pkSize : entry.pkSize < 2 ^ 64
  sigSize : entry.sigSize < 2 ^ 64
  minFee : entry.minFee < 2 ^ 64
  benchmarkVerifyPerSec : entry.benchmarkVerifyPerSec < 2 ^ 32

def AlgEntry.leafChunks (entry : AlgEntry) : List Bytes :=
  [be16 entry.algId.asU16, entry.specRef, be64 entry.pkSize, be64 entry.sigSize,
    be64 entry.minFee, byteChunk (encodeLifecycleByte entry.lifecycle),
    byteChunk (SigClass.code entry.sigClass), be32 entry.benchmarkVerifyPerSec]

theorem AlgEntry.leafChunks_injective {left right : AlgEntry} (fitsLeft : left.InRange)
    (fitsRight : right.InRange) (same : left.leafChunks = right.leafChunks) : left = right := by
  simp only [leafChunks, List.cons.injEq, and_true] at same
  obtain ⟨alg, spec, key, signature, fee, lifecycle, sigClass, benchmark⟩ := same
  have keys := be64_injective fitsLeft.pkSize fitsRight.pkSize key
  have signatures := be64_injective fitsLeft.sigSize fitsRight.sigSize signature
  have fees := be64_injective fitsLeft.minFee fitsRight.minFee fee
  have benchmarks :=
    be32_injective fitsLeft.benchmarkVerifyPerSec fitsRight.benchmarkVerifyPerSec benchmark
  cases left
  cases right
  simp only [AlgEntry.mk.injEq]
  exact ⟨algId_injective alg, spec, keys, signatures, sigClass_injective sigClass, fees,
    lifecycle_injective lifecycle, benchmarks⟩

def HashEntry.InRange (entry : HashEntry) : Prop :=
  entry.hashId < 256 ∧ entry.outputSizeBytes < 2 ^ 32

def HashEntry.leafChunks (entry : HashEntry) : List Bytes := List.flatten
  [ [byteChunk entry.hashId], sizedChunks entry.specRef,
    [be32 entry.outputSizeBytes, byteChunk (encodeLifecycleByte entry.lifecycle)] ]

theorem HashEntry.leafChunks_injective {left right : HashEntry} (fitsLeft : left.InRange)
    (fitsRight : right.InRange) (same : left.leafChunks = right.leafChunks) : left = right := by
  simp only [leafChunks, sizedChunks, List.flatten_cons, List.flatten_nil, List.append_nil,
    List.cons_append, List.nil_append, List.cons.injEq, and_true] at same
  obtain ⟨identifier, _, spec, size, lifecycle⟩ := same
  have identifiers := byteChunk_injective fitsLeft.1 fitsRight.1 identifier
  have sizes := be32_injective fitsLeft.2 fitsRight.2 size
  cases left
  cases right
  simp only [HashEntry.mk.injEq]
  exact ⟨identifiers, spec, sizes, lifecycle_injective lifecycle⟩

structure SlashingVerifierEntry.InRange (entry : SlashingVerifierEntry) : Prop where
  evidenceType : entry.evidenceType < 256
  slashFractionBps : entry.slashFractionBps < 2 ^ 16
  jailDurationBlocks : entry.jailDurationBlocks < 2 ^ 64

def SlashingVerifierEntry.leafChunks (entry : SlashingVerifierEntry) : List Bytes := List.flatten
  [ [byteChunk entry.evidenceType], sizedChunks entry.specRef,
    [be16 entry.slashFractionBps, be64 entry.jailDurationBlocks, flagChunk entry.tombstone,
      byteChunk (encodeLifecycleByte entry.lifecycle)] ]

theorem SlashingVerifierEntry.leafChunks_injective {left right : SlashingVerifierEntry}
    (fitsLeft : left.InRange) (fitsRight : right.InRange)
    (same : left.leafChunks = right.leafChunks) : left = right := by
  simp only [leafChunks, sizedChunks, List.flatten_cons, List.flatten_nil, List.append_nil,
    List.cons_append, List.nil_append, List.cons.injEq, and_true] at same
  obtain ⟨kind, _, spec, fraction, jail, tombstone, lifecycle⟩ := same
  have kinds := byteChunk_injective fitsLeft.evidenceType fitsRight.evidenceType kind
  have fractions := be16_injective fitsLeft.slashFractionBps fitsRight.slashFractionBps fraction
  have jails := be64_injective fitsLeft.jailDurationBlocks fitsRight.jailDurationBlocks jail
  cases left
  cases right
  simp only [SlashingVerifierEntry.mk.injEq]
  exact ⟨kinds, spec, fractions, jails, flag_injective tombstone, lifecycle_injective lifecycle⟩

structure FeeMarketDimension.InRange (dimension : FeeMarketDimension) : Prop where
  baseFee : dimension.baseFee < 2 ^ 64
  limit : dimension.limit < 2 ^ 64
  target : dimension.target < 2 ^ 64
  excess : dimension.excess < 2 ^ 64
  reserveFloor : dimension.reserveFloor < 2 ^ 64
  updateFraction : dimension.updateFraction < 2 ^ 64

structure FeeMarketState.InRange (market : FeeMarketState) : Prop where
  compute : market.compute.InRange
  storage : market.storage.InRange
  witness : market.witness.InRange
  contention : market.contention.InRange
  burnRateBps : market.burnRateBps < 2 ^ 64

def FeeMarketState.leafChunks (market : FeeMarketState) : List Bytes := List.flatten
  [ market.compute.chunks, market.storage.chunks, market.witness.chunks,
    market.contention.chunks, [be64 market.burnRateBps] ]

theorem dimensionChunks_read : Reads FeeMarketDimension.chunks FeeMarketDimension.InRange := by
  refine Reads.fixed (fun dimension _ => show dimension.chunks.length = 6 from rfl)
    fun left right fitsLeft fitsRight same => ?_
  simp only [FeeMarketDimension.chunks, List.cons.injEq, and_true] at same
  obtain ⟨baseFee, limit, target, excess, floor, fraction⟩ := same
  have baseFees := be64_injective fitsLeft.baseFee fitsRight.baseFee baseFee
  have limits := be64_injective fitsLeft.limit fitsRight.limit limit
  have targets := be64_injective fitsLeft.target fitsRight.target target
  have excesses := be64_injective fitsLeft.excess fitsRight.excess excess
  have floors := be64_injective fitsLeft.reserveFloor fitsRight.reserveFloor floor
  have fractions := be64_injective fitsLeft.updateFraction fitsRight.updateFraction fraction
  cases left
  cases right
  simp only [FeeMarketDimension.mk.injEq]
  exact ⟨baseFees, limits, targets, excesses, floors, fractions⟩

theorem FeeMarketState.leafChunks_injective {left right : FeeMarketState}
    (fitsLeft : left.InRange) (fitsRight : right.InRange)
    (same : left.leafChunks = right.leafChunks) : left = right := by
  simp only [leafChunks, List.flatten_cons, List.flatten_nil, List.append_nil] at same
  obtain ⟨compute, rest⟩ := dimensionChunks_read _ _ fitsLeft.compute fitsRight.compute _ _ same
  obtain ⟨storage, rest⟩ := dimensionChunks_read _ _ fitsLeft.storage fitsRight.storage _ _ rest
  obtain ⟨witness, rest⟩ := dimensionChunks_read _ _ fitsLeft.witness fitsRight.witness _ _ rest
  obtain ⟨contention, rest⟩ :=
    dimensionChunks_read _ _ fitsLeft.contention fitsRight.contention _ _ rest
  have rates := be64_injective fitsLeft.burnRateBps fitsRight.burnRateBps (List.cons.inj rest).1
  cases left
  cases right
  simp only [FeeMarketState.mk.injEq]
  exact ⟨compute, storage, witness, contention, rates⟩

structure StorageFundState.InRange (fund : StorageFundState) : Prop where
  balance : fund.balance < 2 ^ 128
  perpetualCostPerByte : fund.perpetualCostPerByte < 2 ^ 64
  rebateFractionBps : fund.rebateFractionBps < 2 ^ 64

def StorageFundState.leafChunks (fund : StorageFundState) : List Bytes :=
  [be128 fund.balance, be64 fund.perpetualCostPerByte, be64 fund.rebateFractionBps]

theorem StorageFundState.leafChunks_injective {left right : StorageFundState}
    (fitsLeft : left.InRange) (fitsRight : right.InRange)
    (same : left.leafChunks = right.leafChunks) : left = right := by
  simp only [leafChunks, List.cons.injEq, and_true] at same
  have balances := be128_injective fitsLeft.balance fitsRight.balance same.1
  have costs := be64_injective fitsLeft.perpetualCostPerByte fitsRight.perpetualCostPerByte same.2.1
  have rebates := be64_injective fitsLeft.rebateFractionBps fitsRight.rebateFractionBps same.2.2
  cases left
  cases right
  simp only [StorageFundState.mk.injEq]
  exact ⟨balances, costs, rebates⟩

end Registries

section Governance

structure GovernanceReceipt.InRange (receipt : GovernanceReceipt) : Prop where
  minFeeBefore : receipt.minFeeBefore < 2 ^ 64
  minFeeAfter : receipt.minFeeAfter < 2 ^ 64
  executedAtHeight : receipt.executedAtHeight < 2 ^ 64

def GovernanceReceipt.leafChunks (receipt : GovernanceReceipt) : List Bytes :=
  [receipt.proposalId.data, byteChunk receipt.proposalType.asU8, receipt.proposer.data,
    be16 receipt.targetAlgId.asU16, byteChunk (encodeLifecycleByte receipt.lifecycleBefore),
    byteChunk (encodeLifecycleByte receipt.lifecycleAfter), be64 receipt.minFeeBefore,
    be64 receipt.minFeeAfter, receipt.rationaleHash.data, be64 receipt.executedAtHeight]

theorem GovernanceReceipt.leafChunks_injective {left right : GovernanceReceipt}
    (fitsLeft : left.InRange) (fitsRight : right.InRange)
    (same : left.leafChunks = right.leafChunks) : left = right := by
  simp only [leafChunks, List.cons.injEq, and_true] at same
  obtain ⟨identifier, kind, proposer, alg, before, after, feeBefore, feeAfter, same⟩ := same
  obtain ⟨rationale, height⟩ := same
  have feesBefore := be64_injective fitsLeft.minFeeBefore fitsRight.minFeeBefore feeBefore
  have feesAfter := be64_injective fitsLeft.minFeeAfter fitsRight.minFeeAfter feeAfter
  have heights := be64_injective fitsLeft.executedAtHeight fitsRight.executedAtHeight height
  cases left
  cases right
  simp only [GovernanceReceipt.mk.injEq]
  exact ⟨Bytes32.data_injective identifier, proposalType_injective kind,
    Bytes32.data_injective proposer, algId_injective alg, lifecycle_injective before,
    lifecycle_injective after, feesBefore, feesAfter, Bytes32.data_injective rationale, heights⟩

def PendingUpgrade.InRange (upgrade : PendingUpgrade) : Prop :=
  upgrade.activateAtTimestampNs < 2 ^ 64 ∧ upgrade.expectedVersion < 2 ^ 16

def PendingUpgrade.leafChunks (upgrade : PendingUpgrade) : List Bytes :=
  [upgrade.proposalId.data, be64 upgrade.activateAtTimestampNs, be16 upgrade.expectedVersion]

theorem PendingUpgrade.leafChunks_injective {left right : PendingUpgrade}
    (fitsLeft : left.InRange) (fitsRight : right.InRange)
    (same : left.leafChunks = right.leafChunks) : left = right := by
  simp only [leafChunks, List.cons.injEq, and_true] at same
  have times := be64_injective fitsLeft.1 fitsRight.1 same.2.1
  have versions := be16_injective fitsLeft.2 fitsRight.2 same.2.2
  cases left
  cases right
  simp only [PendingUpgrade.mk.injEq]
  exact ⟨Bytes32.data_injective same.1, times, versions⟩

structure AddAlgorithmProposal.InRange (proposal : AddAlgorithmProposal) : Prop where
  algId : proposal.algId < 2 ^ 16
  pkSize : proposal.pkSize < 2 ^ 32
  sigSize : proposal.sigSize < 2 ^ 32
  sigClass : proposal.sigClass.getD 0 < 256
  minFee : proposal.minFee < 2 ^ 64
  benchmarkVerifyPerSec : proposal.benchmarkVerifyPerSec < 2 ^ 32

structure SlashingVerifierProposal.InRange (proposal : SlashingVerifierProposal) : Prop where
  evidenceType : proposal.evidenceType < 256
  slashFractionBps : proposal.slashFractionBps < 2 ^ 16
  jailDurationBlocks : proposal.jailDurationBlocks < 2 ^ 64

namespace ProposalEffect

def InRange : ProposalEffect → Prop
  | registryUpdate _ _ newMinFee => ∀ fee, newMinFee = some fee → fee < 2 ^ 64
  | burnRateUpdate newBurnRateBps => newBurnRateBps < 2 ^ 16
  | feeParamUpdate newBlockGasLimit => newBlockGasLimit < 2 ^ 64
  | softwareUpgrade activateAtTimestampNs expectedVersion =>
      activateAtTimestampNs < 2 ^ 64 ∧ expectedVersion < 2 ^ 16
  | addAlgorithm proposal => proposal.InRange
  | addSlashingVerifier proposal => proposal.InRange
  | addHash proposal => proposal.hashId < 256 ∧ proposal.outputSizeBytes < 2 ^ 32
  | addAuthTemplate proposal => proposal.templateId < 2 ^ 16

def sigClass : ProposalEffect → Option Nat
  | addAlgorithm proposal => proposal.sigClass
  | _ => none

def tag : ProposalEffect → Nat
  | registryUpdate _ _ _ => 0x01
  | burnRateUpdate _ => 0x02
  | feeParamUpdate _ => 0x03
  | softwareUpgrade _ _ => 0x04
  | addAlgorithm _ => 0x05
  | addSlashingVerifier _ => 0x06
  | addHash _ => 0x07
  | addAuthTemplate _ => 0x08

theorem head_effectChunks (effect : ProposalEffect) (rest : List Bytes) :
    (effectChunks effect ++ rest).head? = some (byteChunk effect.tag) := by
  cases effect <;> rfl

theorem tag_eq {left right : ProposalEffect} {restLeft restRight : List Bytes}
    (same : effectChunks left ++ restLeft = effectChunks right ++ restRight) :
    left.tag = right.tag := by
  have small : ∀ effect : ProposalEffect, effect.tag < 256 := by
    rintro (_ | _) <;> simp [tag]
  have heads := congrArg List.head? same
  rw [head_effectChunks, head_effectChunks, Option.some.injEq] at heads
  exact byteChunk_injective (small left) (small right) heads

end ProposalEffect

theorem targetLifecycle_injective {left right : Option Lifecycle} {restLeft restRight : List Bytes}
    (same : (match left with
        | some lifecycle => [byteChunk 1 ++ byteChunk (encodeLifecycleByte lifecycle)]
        | none => [byteChunk 0]) ++ restLeft =
      (match right with
        | some lifecycle => [byteChunk 1 ++ byteChunk (encodeLifecycleByte lifecycle)]
        | none => [byteChunk 0]) ++ restRight) :
    left = right ∧ restLeft = restRight := by
  cases left <;> cases right <;> simp only [List.cons_append, List.nil_append, List.cons.injEq,
    byteChunk] at same
  case none.none => exact ⟨rfl, same.2⟩
  case some.some left right =>
    exact ⟨congrArg some (lifecycle_injective (List.cons_eq_cons.mpr ⟨same.1.2.1, rfl⟩)), same.2⟩
  all_goals simp at same

section Effects

variable {restLeft restRight : List Bytes}

theorem registryUpdate_read {algLeft algRight : AlgId} {targetLeft targetRight : Option Lifecycle}
    {feeLeft feeRight : Option Nat} (fitsLeft : ∀ fee, feeLeft = some fee → fee < 2 ^ 64)
    (fitsRight : ∀ fee, feeRight = some fee → fee < 2 ^ 64)
    (same : effectChunks (.registryUpdate algLeft targetLeft feeLeft) ++ restLeft =
      effectChunks (.registryUpdate algRight targetRight feeRight) ++ restRight) :
    (algLeft = algRight ∧ targetLeft = targetRight ∧ feeLeft = feeRight) ∧ restLeft = restRight := by
  simp only [effectChunks, List.flatten_cons, List.flatten_nil, List.append_nil, List.cons_append,
    List.nil_append, List.append_assoc, List.cons.injEq, true_and] at same
  obtain ⟨alg, rest⟩ := same
  obtain ⟨target, rest⟩ := targetLifecycle_injective rest
  obtain ⟨fee, rest⟩ := be64Option_injective fitsLeft fitsRight rest
  exact ⟨⟨algId_injective alg, target, fee⟩, rest⟩

theorem addAlgorithm_read {left right : AddAlgorithmProposal} (fitsLeft : left.InRange)
    (fitsRight : right.InRange)
    (same : effectChunks (.addAlgorithm left) ++ restLeft =
      effectChunks (.addAlgorithm right) ++ restRight) :
    (left = right ↔ left.sigClass = right.sigClass) ∧ restLeft = restRight := by
  simp only [effectChunks, sizedChunks, List.flatten_cons, List.flatten_nil, List.append_nil,
    List.cons_append, List.nil_append, List.cons.injEq, true_and] at same
  obtain ⟨alg, _, spec, key, signature, _, fee, benchmark, lifecycle, rest⟩ := same
  refine ⟨⟨fun equal => by rw [equal], fun classes => ?_⟩, rest⟩
  have algs := be16_injective fitsLeft.algId fitsRight.algId alg
  have keys := be32_injective fitsLeft.pkSize fitsRight.pkSize key
  have signatures := be32_injective fitsLeft.sigSize fitsRight.sigSize signature
  have fees := be64_injective fitsLeft.minFee fitsRight.minFee fee
  have benchmarks :=
    be32_injective fitsLeft.benchmarkVerifyPerSec fitsRight.benchmarkVerifyPerSec benchmark
  cases left
  cases right
  simp only [AddAlgorithmProposal.mk.injEq]
  exact ⟨algs, spec, keys, signatures, classes, fees, benchmarks, lifecycle_injective lifecycle⟩

theorem addSlashingVerifier_read {left right : SlashingVerifierProposal} (fitsLeft : left.InRange)
    (fitsRight : right.InRange)
    (same : effectChunks (.addSlashingVerifier left) ++ restLeft =
      effectChunks (.addSlashingVerifier right) ++ restRight) :
    left = right ∧ restLeft = restRight := by
  simp only [effectChunks, sizedChunks, List.flatten_cons, List.flatten_nil, List.append_nil,
    List.cons_append, List.nil_append, List.cons.injEq, true_and] at same
  obtain ⟨kind, _, spec, fraction, jail, tombstone, lifecycle, rest⟩ := same
  have kinds := byteChunk_injective fitsLeft.evidenceType fitsRight.evidenceType kind
  have fractions := be16_injective fitsLeft.slashFractionBps fitsRight.slashFractionBps fraction
  have jails := be64_injective fitsLeft.jailDurationBlocks fitsRight.jailDurationBlocks jail
  cases left
  cases right
  simp only [SlashingVerifierProposal.mk.injEq]
  exact ⟨⟨kinds, spec, fractions, jails, flag_injective tombstone,
    lifecycle_injective lifecycle⟩, rest⟩

theorem addHash_read {left right : AddHashProposal}
    (fitsLeft : (ProposalEffect.addHash left).InRange)
    (fitsRight : (ProposalEffect.addHash right).InRange)
    (same : effectChunks (.addHash left) ++ restLeft = effectChunks (.addHash right) ++ restRight) :
    left = right ∧ restLeft = restRight := by
  simp only [effectChunks, sizedChunks, List.flatten_cons, List.flatten_nil, List.append_nil,
    List.cons_append, List.nil_append, List.cons.injEq, true_and] at same
  obtain ⟨identifier, _, spec, size, lifecycle, rest⟩ := same
  have identifiers := byteChunk_injective fitsLeft.1 fitsRight.1 identifier
  have sizes := be32_injective fitsLeft.2 fitsRight.2 size
  cases left
  cases right
  simp only [AddHashProposal.mk.injEq]
  exact ⟨⟨identifiers, spec, sizes, lifecycle_injective lifecycle⟩, rest⟩

theorem addAuthTemplate_read {left right : AddAuthTemplateProposal}
    (fitsLeft : (ProposalEffect.addAuthTemplate left).InRange)
    (fitsRight : (ProposalEffect.addAuthTemplate right).InRange)
    (same : effectChunks (.addAuthTemplate left) ++ restLeft =
      effectChunks (.addAuthTemplate right) ++ restRight) :
    left = right ∧ restLeft = restRight := by
  simp only [effectChunks, sizedChunks, List.flatten_cons, List.flatten_nil, List.append_nil,
    List.cons_append, List.nil_append, List.cons.injEq, true_and] at same
  obtain ⟨identifier, _, spec, lifecycle, rest⟩ := same
  have identifiers := be16_injective fitsLeft fitsRight identifier
  cases left
  cases right
  simp only [AddAuthTemplateProposal.mk.injEq]
  exact ⟨⟨identifiers, spec, lifecycle_injective lifecycle⟩, rest⟩

theorem effectChunks_read {left right : ProposalEffect} (fitsLeft : left.InRange)
    (fitsRight : right.InRange)
    (same : effectChunks left ++ restLeft = effectChunks right ++ restRight) :
    (left = right ↔ left.sigClass = right.sigClass) ∧ restLeft = restRight := by
  have tags := ProposalEffect.tag_eq same
  -- only effects of one kind have the same tag
  cases left <;> cases right <;>
    simp only [ProposalEffect.tag, Nat.reduceEqDiff, OfNat.ofNat_ne_one, OfNat.one_ne_ofNat] at tags
  case registryUpdate.registryUpdate =>
    obtain ⟨⟨rfl, rfl, rfl⟩, rest⟩ := registryUpdate_read fitsLeft fitsRight same
    exact ⟨by simp, rest⟩
  case burnRateUpdate.burnRateUpdate =>
    simp only [effectChunks, List.cons_append, List.nil_append, List.cons.injEq, true_and] at same
    obtain rfl := be16_injective fitsLeft fitsRight same.1
    exact ⟨by simp, same.2⟩
  case feeParamUpdate.feeParamUpdate =>
    simp only [effectChunks, List.cons_append, List.nil_append, List.cons.injEq, true_and] at same
    obtain rfl := be64_injective fitsLeft fitsRight same.1
    exact ⟨by simp, same.2⟩
  case softwareUpgrade.softwareUpgrade =>
    simp only [effectChunks, List.cons_append, List.nil_append, List.cons.injEq, true_and] at same
    obtain rfl := be64_injective fitsLeft.1 fitsRight.1 same.1
    obtain rfl := be16_injective fitsLeft.2 fitsRight.2 same.2.1
    exact ⟨by simp, same.2.2⟩
  case addAlgorithm.addAlgorithm =>
    obtain ⟨classes, rest⟩ := addAlgorithm_read fitsLeft fitsRight same
    exact ⟨by simpa [ProposalEffect.sigClass] using classes, rest⟩
  case addSlashingVerifier.addSlashingVerifier =>
    obtain ⟨rfl, rest⟩ := addSlashingVerifier_read fitsLeft fitsRight same
    exact ⟨by simp, rest⟩
  case addHash.addHash =>
    obtain ⟨rfl, rest⟩ := addHash_read fitsLeft fitsRight same
    exact ⟨by simp, rest⟩
  case addAuthTemplate.addAuthTemplate =>
    obtain ⟨rfl, rest⟩ := addAuthTemplate_read fitsLeft fitsRight same
    exact ⟨by simp, rest⟩

end Effects

structure PendingProposal.InRange (proposal : PendingProposal) : Prop where
  votingDeadline : proposal.votingDeadline < 2 ^ 64
  executeAfter : proposal.executeAfter < 2 ^ 64
  votes : proposal.votes.toList.length < 2 ^ 64
  effect : proposal.effect.InRange

def PendingProposal.leafChunks (proposal : PendingProposal) : List Bytes := List.flatten
  [ [proposal.proposalId.data, byteChunk proposal.proposalType.asU8,
      byteChunk proposal.status.code, be64 proposal.votingDeadline,
      be64 proposal.executeAfter, be64 proposal.votes.toList.length],
    proposal.votes.toList.flatMap fun vote => [vote.1.data, flagChunk vote.2],
    effectChunks proposal.effect,
    [proposal.rationaleHash.data] ]

def PendingProposal.AgreeOutsideLeaf (left right : PendingProposal) : Prop :=
  left.proposer = right.proposer ∧ left.effect.sigClass = right.effect.sigClass

theorem votes_read : Reads (fun votes : List (Address × Bool) =>
      be64 votes.length :: votes.flatMap fun vote => [vote.1.data, flagChunk vote.2])
    fun votes => votes.length < 2 ^ 64 ∧ ∀ vote ∈ votes, True := by
  refine Reads.counted (fun _ _ => be64_injective)
    (Reads.fixed (fun vote _ => show [vote.1.data, flagChunk vote.2].length = 2 from rfl)
      fun left right _ _ same => ?_)
  simp only [List.cons.injEq, and_true] at same
  exact Prod.ext (Bytes32.data_injective same.1) (flag_injective same.2)

theorem PendingProposal.leafChunks_injective {left right : PendingProposal}
    (fitsLeft : left.InRange) (fitsRight : right.InRange)
    (same : left.leafChunks = right.leafChunks) :
    left = right ↔ left.AgreeOutsideLeaf right := by
  simp only [leafChunks, List.flatten_cons, List.flatten_nil, List.append_nil, List.cons_append,
    List.nil_append, List.cons.injEq] at same
  obtain ⟨identifier, kind, status, deadline, execution, count, rest⟩ := same
  obtain ⟨votes, rest⟩ := votes_read _ _ ⟨fitsLeft.votes, fun _ _ => trivial⟩
    ⟨fitsRight.votes, fun _ _ => trivial⟩ _ _ (List.cons_eq_cons.mpr ⟨count, rest⟩)
  obtain ⟨effects, rest⟩ := effectChunks_read fitsLeft.effect fitsRight.effect rest
  refine ⟨fun equal => by rw [equal]; exact ⟨rfl, rfl⟩, fun ⟨proposers, classes⟩ => ?_⟩
  have deadlines := be64_injective fitsLeft.votingDeadline fitsRight.votingDeadline deadline
  have executions := be64_injective fitsLeft.executeAfter fitsRight.executeAfter execution
  have effectEq := effects.mpr classes
  have tables := Std.ExtTreeMap.toList_inj.mp votes
  cases left
  cases right
  simp only [PendingProposal.mk.injEq]
  exact ⟨Bytes32.data_injective identifier, proposalType_injective kind, proposers, deadlines,
    executions, effectEq, tables, proposalStatus_injective status,
    Bytes32.data_injective (List.cons.inj rest).1⟩

end Governance

inductive LeafKind where
  | account | attestation | algorithm | proofAnchor | consensusRotation | receipt | peerIdBinding
  | validator | storageFund | feeMarket | recentSlashes | proposal | upgrade | hashEntry
  | slashingVerifier
deriving DecidableEq

def LeafKind.domain : LeafKind → String
  | account => "PQC-ACCOUNT-LEAF-V1"
  | attestation => "PQC-ATTESTATION-LEAF-V1"
  | algorithm => "PQC-ALG-LEAF-V1"
  | proofAnchor => "PQC-PROOF-ANCHOR-LEAF-V1"
  | consensusRotation => "PQC-CONSENSUS-ROTATE-LEAF-V1"
  | receipt => "PQC-RECEIPT-LEAF-V1"
  | peerIdBinding => "PQC-PEER-ID-BINDING-LEAF-V1"
  | validator => "PQC-VALIDATOR-LEAF-V1"
  | storageFund => "VIPER-STORAGE-FUND-V1"
  | feeMarket => "VIPER-FEE-MARKET-V1"
  | recentSlashes => "VIPER-RECENT-SLASHES-V1"
  | proposal => "PQC-PROPOSAL-LEAF-V1"
  | upgrade => "PQC-UPGRADE-LEAF-V1"
  | hashEntry => "VIPER-HASH-REGISTRY-V1"
  | slashingVerifier => "VIPER-SLASHING-REGISTRY-V1"

def LeafKind.all : List LeafKind :=
  [account, attestation, algorithm, proofAnchor, consensusRotation, receipt, peerIdBinding,
    validator, storageFund, feeMarket, recentSlashes, proposal, upgrade, hashEntry,
    slashingVerifier]

theorem LeafKind.domain_injective {left right : LeafKind}
    (same : ascii left.domain = ascii right.domain) : left = right := by
  have distinct : (all.map fun kind => ascii kind.domain).Nodup := by decide +kernel
  have listed : ∀ kind : LeafKind, kind ∈ all := by rintro (_ | _) <;> decide
  exact List.inj_on_of_nodup_map distinct (listed left) (listed right) same

inductive LeafEntity where
  | account (account : Account)
  | attestation (attestation : Attestation)
  | algorithm (entry : AlgEntry)
  | proofAnchor (anchor : ProofAnchor)
  | consensusRotation (rotation : ConsensusKeyRotation)
  | receipt (receipt : GovernanceReceipt)
  | peerIdBinding (operator : Address) (peerId : Bytes)
  | validator (record : ValidatorRecord)
  | storageFund (fund : StorageFundState)
  | feeMarket (market : FeeMarketState)
  | recentSlashes (slashes : List RecentSlashEntry)
  | proposal (proposal : PendingProposal)
  | upgrade (upgrade : PendingUpgrade)
  | hashEntry (entry : HashEntry)
  | slashingVerifier (entry : SlashingVerifierEntry)

namespace LeafEntity

def leafHash (env : Env) : LeafEntity → Bytes32
  | account entity => computeAccountLeafHash env entity
  | attestation entity => computeAttestationLeafHash env entity
  | algorithm entity => computeAlgLeafHash env entity
  | proofAnchor entity => computeProofAnchorLeafHash env entity
  | consensusRotation entity => computeConsensusRotationLeafHash env entity
  | receipt entity => computeReceiptLeafHash env entity
  | peerIdBinding operator peerId => computePeerIdBindingLeafHash env operator peerId
  | validator entity => computeValidatorLeafHash env entity
  | storageFund entity => computeStorageFundLeafHash env entity
  | feeMarket entity => computeFeeMarketLeafHash env entity
  | recentSlashes entities => computeRecentSlashesLeafHash env entities
  | proposal entity => computeProposalLeafHash env entity
  | upgrade entity => computeUpgradeLeafHash env entity
  | hashEntry entity => computeHashRegistryLeafHash env entity
  | slashingVerifier entity => computeSlashingVerifierLeafHash env entity

def kind : LeafEntity → LeafKind
  | account _ => .account
  | attestation _ => .attestation
  | algorithm _ => .algorithm
  | proofAnchor _ => .proofAnchor
  | consensusRotation _ => .consensusRotation
  | receipt _ => .receipt
  | peerIdBinding _ _ => .peerIdBinding
  | validator _ => .validator
  | storageFund _ => .storageFund
  | feeMarket _ => .feeMarket
  | recentSlashes _ => .recentSlashes
  | proposal _ => .proposal
  | upgrade _ => .upgrade
  | hashEntry _ => .hashEntry
  | slashingVerifier _ => .slashingVerifier

def chunks : LeafEntity → List Bytes
  | account entity => entity.leafChunks
  | attestation entity => entity.leafChunks
  | algorithm entity => entity.leafChunks
  | proofAnchor entity => entity.leafChunks
  | consensusRotation entity => entity.leafChunks
  | receipt entity => entity.leafChunks
  | peerIdBinding operator peerId => operator.data :: sizedChunks peerId
  | validator entity => entity.leafChunks
  | storageFund entity => entity.leafChunks
  | feeMarket entity => entity.leafChunks
  | recentSlashes entities => recentSlashesChunks entities
  | proposal entity => entity.leafChunks
  | upgrade entity => entity.leafChunks
  | hashEntry entity => entity.leafChunks
  | slashingVerifier entity => entity.leafChunks

def InRange : LeafEntity → Prop
  | account entity => entity.InRange
  | attestation entity => entity.InRange
  | algorithm entity => entity.InRange
  | proofAnchor entity => entity.InRange
  | consensusRotation entity => entity.InRange
  | receipt entity => entity.InRange
  | peerIdBinding _ _ => True
  | validator entity => entity.InRange
  | storageFund entity => entity.InRange
  | feeMarket entity => entity.InRange
  | recentSlashes entities => entities.length < 2 ^ 64 ∧ ∀ entity ∈ entities, entity.InRange
  | proposal entity => entity.InRange
  | upgrade entity => entity.InRange
  | hashEntry entity => entity.InRange
  | slashingVerifier entity => entity.InRange

def Representable (entity : LeafEntity) : Prop :=
  entity.InRange ∧ ∀ chunk ∈ entity.chunks, chunk.length < 2 ^ 64

def query (entity : LeafEntity) : Bytes × Bytes := (ascii entity.kind.domain, frames entity.chunks)

def Same : LeafEntity → LeafEntity → Prop
  | account left, account right => left.SameUpToKeyOrder right
  | left, right => left = right

def AgreeOutsideLeaf : LeafEntity → LeafEntity → Prop
  | proposal left, proposal right => left.AgreeOutsideLeaf right
  | _, _ => True

theorem leafHash_eq_taggedHash (env : Env) (entity : LeafEntity) :
    entity.leafHash env = taggedHash env entity.query.1 entity.query.2 := by
  rw [query, ← leafHash_eq]
  cases entity <;> rfl

theorem same_iff_of_chunks {left right : LeafEntity} (fitsLeft : left.InRange)
    (fitsRight : right.InRange) (kinds : left.kind = right.kind)
    (same : left.chunks = right.chunks) : left.Same right ↔ left.AgreeOutsideLeaf right := by
  cases left <;> cases right <;> simp only [kind, reduceCtorEq] at kinds
  case account.account =>
    exact iff_of_true (Account.leafChunks_injective fitsLeft fitsRight same) trivial
  case attestation.attestation =>
    exact iff_of_true (congrArg _ (Attestation.leafChunks_injective fitsLeft fitsRight same)) trivial
  case algorithm.algorithm =>
    exact iff_of_true (congrArg _ (AlgEntry.leafChunks_injective fitsLeft fitsRight same)) trivial
  case proofAnchor.proofAnchor =>
    exact iff_of_true (congrArg _ (ProofAnchor.leafChunks_injective fitsLeft fitsRight same)) trivial
  case consensusRotation.consensusRotation =>
    exact iff_of_true
      (congrArg _ (ConsensusKeyRotation.leafChunks_injective fitsLeft fitsRight same)) trivial
  case receipt.receipt =>
    exact iff_of_true
      (congrArg _ (GovernanceReceipt.leafChunks_injective fitsLeft fitsRight same)) trivial
  case peerIdBinding.peerIdBinding =>
    simp only [chunks, sizedChunks, List.cons.injEq, and_true] at same
    obtain ⟨operator, _, peerId⟩ := same
    exact iff_of_true (congrArg₂ _ (Bytes32.data_injective operator) peerId) trivial
  case validator.validator =>
    exact iff_of_true
      (congrArg _ (ValidatorRecord.leafChunks_injective fitsLeft fitsRight same)) trivial
  case storageFund.storageFund =>
    exact iff_of_true
      (congrArg _ (StorageFundState.leafChunks_injective fitsLeft fitsRight same)) trivial
  case feeMarket.feeMarket =>
    exact iff_of_true
      (congrArg _ (FeeMarketState.leafChunks_injective fitsLeft fitsRight same)) trivial
  case recentSlashes.recentSlashes =>
    exact iff_of_true
      (congrArg _ (recentSlashesChunks_read.injective fitsLeft fitsRight same)) trivial
  case proposal.proposal left right =>
    simpa [Same, AgreeOutsideLeaf] using
      PendingProposal.leafChunks_injective fitsLeft fitsRight same
  case upgrade.upgrade =>
    exact iff_of_true
      (congrArg _ (PendingUpgrade.leafChunks_injective fitsLeft fitsRight same)) trivial
  case hashEntry.hashEntry =>
    exact iff_of_true (congrArg _ (HashEntry.leafChunks_injective fitsLeft fitsRight same)) trivial
  case slashingVerifier.slashingVerifier =>
    exact iff_of_true
      (congrArg _ (SlashingVerifierEntry.leafChunks_injective fitsLeft fitsRight same)) trivial

/-- Two entities with the same leaf are equal exactly when they agree in what the leaf of a
proposal leaves out; for the other kinds there is nothing left out. -/
theorem leafHash_binds (env : Env) (left right : LeafEntity)
    (fitsLeft : left.Representable) (fitsRight : right.Representable)
    (free : CollisionFree env [left.query, right.query])
    (same : left.leafHash env = right.leafHash env) :
    left.Same right ↔ left.AgreeOutsideLeaf right := by
  rw [leafHash_eq_taggedHash, leafHash_eq_taggedHash] at same
  have queries := free left.query (by simp) right.query (by simp) same
  obtain ⟨domains, bodies⟩ := Prod.mk.inj queries
  exact same_iff_of_chunks fitsLeft.1 fitsRight.1 (LeafKind.domain_injective domains)
    (frames_injective fitsLeft.2 fitsRight.2 bodies)

def proposalBy (proposer : Address) : PendingProposal where
  proposalId := Bytes32.fill 3
  proposalType := .burnRateUpdate
  proposer
  votingDeadline := 5
  executeAfter := 5
  effect := .burnRateUpdate 100
  votes := ∅
  status := .voting
  rationaleHash := Bytes32.fill 6

theorem proposalBy_representable (proposer : Address) :
    (proposal (proposalBy proposer)).Representable := by
  have chunks : (proposal (proposalBy proposer)).chunks =
      (proposal (proposalBy (Bytes32.fill 1))).chunks := rfl
  refine ⟨⟨by simp [proposalBy], by simp [proposalBy], by simp [proposalBy],
    show 100 < 2 ^ 16 by norm_num⟩, ?_⟩
  rw [chunks]
  decide +kernel

theorem leafHash_binds_proposers :
    (proposal (proposalBy (Bytes32.fill 1))).leafHash sampleEnv =
        (proposal (proposalBy (Bytes32.fill 2))).leafHash sampleEnv ∧
      ¬ (proposal (proposalBy (Bytes32.fill 1))).Same (proposal (proposalBy (Bytes32.fill 2))) := by
  have bound := leafHash_binds sampleEnv (proposal (proposalBy (Bytes32.fill 1)))
    (proposal (proposalBy (Bytes32.fill 2))) (proposalBy_representable _)
    (proposalBy_representable _) (by decide +kernel) rfl
  refine ⟨rfl, fun same => ?_⟩
  exact absurd (bound.mp same).1 (ne_of_beq_false rfl)

end LeafEntity

end ViperChain
