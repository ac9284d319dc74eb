import Mathlib.Data.List.Nodup
import ViperChain.Block
import ViperChain.Consensus.RoundCore

/-!
Commit certificates. In distributed mode every signature is checked against the preimage of
its own round, so one certificate may combine several.
-/

namespace ViperChain

structure CommitValidator where
  nodeId : Text
  address : Bytes
  sigAlgId : AlgId
  publicKey : Bytes
deriving DecidableEq

inductive CommitPreimageMode where
  | legacy
  | distributed (round : Nat)
deriving DecidableEq

/-- A policy is only built by `CommitQuorumPolicy.new`, whose checks are its last fields. -/
structure CommitQuorumPolicy where
  validators : List CommitValidator
  quorumThreshold : Nat
  preimageMode : CommitPreimageMode
  forkDigest : ForkDigest
  distinct : (validators.map CommitValidator.address).Nodup
  thresholdPositive : 0 < quorumThreshold
  thresholdBound : quorumThreshold ≤ validators.length

inductive CommitValidationError where
  | emptyValidatorSet
  | invalidQuorumThreshold (quorumThreshold validatorCount : Nat)
  | duplicateValidatorConfig (validatorAddress : Bytes)
  | missingCommitSignatures
  | unauthorizedSigner (validatorAddress : Bytes)
  | duplicateSigner (validatorAddress : Bytes)
  | invalidSignature (validatorAddress : Bytes) (detail : CryptoError)
  | insufficientQuorum (required got : Nat)
deriving DecidableEq

def firstDuplicate : List Bytes → List Bytes → Option Bytes
  | _, [] => none
  | seen, address :: rest =>
      if address ∈ seen then some address else firstDuplicate (address :: seen) rest

theorem firstDuplicate_none {seen addresses : List Bytes} (fresh : seen.Nodup)
    (none : firstDuplicate seen addresses = none) : (addresses.reverse ++ seen).Nodup := by
  induction addresses generalizing seen with
  | nil => simpa using fresh
  | cons address rest ih =>
      simp only [firstDuplicate] at none
      split at none
      · simp at none
      · rename_i unseen
        simpa using ih (List.nodup_cons.mpr ⟨unseen, fresh⟩) none

namespace CommitQuorumPolicy

/-- `defaultForkDigest` is `ForkDigest::viper_research_1()`. -/
def new (defaultForkDigest : ForkDigest) (validators : List CommitValidator)
    (quorumThreshold : Option Nat) : Except CommitValidationError CommitQuorumPolicy :=
  if validators.isEmpty then .error .emptyValidatorSet
  else match duplicates : firstDuplicate [] (validators.map CommitValidator.address) with
    | some address => .error (.duplicateValidatorConfig address)
    | none =>
        let threshold := quorumThreshold.getD (quorumSize validators.length)
        if invalid : threshold = 0 ∨ validators.length < threshold then
          .error (.invalidQuorumThreshold threshold validators.length)
        else
          .ok { validators
                quorumThreshold := threshold
                preimageMode := .legacy
                forkDigest := defaultForkDigest
                distinct := by
                  have unique := firstDuplicate_none List.nodup_nil duplicates
                  rw [List.append_nil] at unique
                  exact List.nodup_reverse.mp unique
                thresholdPositive := by omega
                thresholdBound := by omega }

def withForkDigest (policy : CommitQuorumPolicy) (forkDigest : ForkDigest) : CommitQuorumPolicy :=
  { policy with forkDigest }

def withDistributedPreimage (policy : CommitQuorumPolicy) (round : Nat) : CommitQuorumPolicy :=
  { policy with preimageMode := .distributed round }

def validatorByAddress (policy : CommitQuorumPolicy) (address : Bytes) : Option CommitValidator :=
  policy.validators.find? fun validator => validator.address = address

end CommitQuorumPolicy

section Validation

variable (env : Env)

def legacyCommitDomainTag : Bytes := ascii "PQC-COMMIT-V1"

def commitPreimage (forkDigest : ForkDigest) (height : Nat) (blockHash : BlockHash) : Bytes :=
  (taggedHash env legacyCommitDomainTag
    (forkDigest.data ++ toBeBytes 8 height ++ blockHash.data)).data

def commitPreimageForMode (forkDigest : ForkDigest) (mode : CommitPreimageMode) (height : Nat)
    (blockHash : BlockHash) : Bytes :=
  match mode with
  | .legacy => commitPreimage env forkDigest height blockHash
  | .distributed round => (votePreimage env forkDigest height round .precommit blockHash).data

/-- The bytes one commit signature must sign: the mode's round is not used, only its own. -/
def commitSigPreimage (policy : CommitQuorumPolicy) (height : Nat) (blockHash : BlockHash)
    (commit : CommitSig) : Bytes :=
  match policy.preimageMode with
  | .legacy => commitPreimage env policy.forkDigest height blockHash
  | .distributed _ =>
      (votePreimage env policy.forkDigest height commit.round .precommit blockHash).data

def validateCommits (policy : CommitQuorumPolicy) (height : Nat) (blockHash : BlockHash) :
    List Bytes → Nat → List CommitSig → Except CommitValidationError Nat
  | _, validCommits, [] => .ok validCommits
  | seen, validCommits, commit :: rest =>
      if commit.validatorAddress ∈ seen then .error (.duplicateSigner commit.validatorAddress)
      else match policy.validatorByAddress commit.validatorAddress with
        | none => .error (.unauthorizedSigner commit.validatorAddress)
        | some validator =>
            match mlDsaVerifier env ⟨validator.sigAlgId, validator.publicKey⟩
                (commitSigPreimage env policy height blockHash commit)
                ⟨commit.sigAlgId, commit.signature⟩ with
            | .error detail => .error (.invalidSignature commit.validatorAddress detail)
            | .ok () =>
                validateCommits policy height blockHash (commit.validatorAddress :: seen)
                  (validCommits + 1) rest

def validateBlockCommitQuorum (block : Block) (policy : CommitQuorumPolicy) :
    Except CommitValidationError Unit :=
  if block.commitSignatures.isEmpty then .error .missingCommitSignatures
  else
    match validateCommits env policy block.header.height (computeBlockHash env block) [] 0
        block.commitSignatures with
    | .error failure => .error failure
    | .ok validCommits =>
        if validCommits < policy.quorumThreshold then
          .error (.insufficientQuorum policy.quorumThreshold validCommits)
        else .ok ()

theorem validateCommits_ok {policy : CommitQuorumPolicy} {height : Nat} {blockHash : BlockHash}
    {seen : List Bytes} {before after : Nat} {commits : List CommitSig} (fresh : seen.Nodup)
    (accepted : validateCommits env policy height blockHash seen before commits = .ok after) :
    after = before + commits.length ∧
    ((commits.map CommitSig.validatorAddress).reverse ++ seen).Nodup ∧
    ∀ commit ∈ commits, ∃ validator,
      policy.validatorByAddress commit.validatorAddress = some validator ∧
      mlDsaVerifier env ⟨validator.sigAlgId, validator.publicKey⟩
        (commitSigPreimage env policy height blockHash commit)
        ⟨commit.sigAlgId, commit.signature⟩ = .ok () := by
  induction commits generalizing seen before with
  | nil =>
      simp only [validateCommits, Except.ok.injEq] at accepted
      simpa [accepted] using fresh
  | cons commit rest ih =>
      simp only [validateCommits] at accepted
      split at accepted
      · simp at accepted
      rename_i unseen
      split at accepted
      · simp at accepted
      rename_i validator found
      split at accepted
      · simp at accepted
      rename_i verified
      obtain ⟨count, distinct, checked⟩ := ih (List.nodup_cons.mpr ⟨unseen, fresh⟩) accepted
      refine ⟨by simp only [List.length_cons]; omega, by simpa using distinct, ?_⟩
      intro other member
      rcases List.mem_cons.mp member with rfl | later
      · exact ⟨validator, found, verified⟩
      · exact checked other later

theorem validateBlockCommitQuorum_ok {block : Block} {policy : CommitQuorumPolicy}
    (accepted : validateBlockCommitQuorum env block policy = .ok ()) :
    policy.quorumThreshold ≤ block.commitSignatures.length ∧
    (block.commitSignatures.map CommitSig.validatorAddress).Nodup ∧
    ∀ commit ∈ block.commitSignatures, ∃ validator,
      policy.validatorByAddress commit.validatorAddress = some validator ∧
      mlDsaVerifier env ⟨validator.sigAlgId, validator.publicKey⟩
        (commitSigPreimage env policy block.header.height (computeBlockHash env block) commit)
        ⟨commit.sigAlgId, commit.signature⟩ = .ok () := by
  unfold validateBlockCommitQuorum at accepted
  split at accepted
  · simp at accepted
  split at accepted
  · simp at accepted
  rename_i validCommits counted
  split at accepted
  · simp at accepted
  rename_i enough
  obtain ⟨count, distinct, checked⟩ := validateCommits_ok env List.nodup_nil counted
  rw [List.append_nil] at distinct
  exact ⟨by omega, List.nodup_reverse.mp distinct, checked⟩

end Validation

end ViperChain
