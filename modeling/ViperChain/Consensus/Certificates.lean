import ViperChain.Consensus.CommitCore
import ViperChain.Consensus.RoundAgreement

/-!
Certified blocks. A certificate with a quorum of signatures from one round is a commit quorum
of the voting history.
-/

namespace ViperChain

open LockingVotes

structure PolicyFor (validators : ValidatorSet) (policy : CommitQuorumPolicy) : Prop where
  addresses : ∀ address, address ∈ policy.validators.map CommitValidator.address ↔
    ∃ member ∈ validators.members, member.data = address
  distributed : ∃ round, policy.preimageMode = .distributed round
  threshold : policy.quorumThreshold = quorumSize validators.members.card

/-- Signatures of correct validators are not forged: one that verifies was asked for by the
signer's round machine, for this block hash and in the round the signature names. -/
def Unforged (env : Env) (validators : ValidatorSet) (network : RoundNetwork)
    (policy : CommitQuorumPolicy) (block : Block) : Prop :=
  ∀ commit ∈ block.commitSignatures, ∀ signer, validators.Correct signer →
    signer.data = commit.validatorAddress →
    ∀ validator, policy.validatorByAddress commit.validatorAddress = some validator →
    mlDsaVerifier env ⟨validator.sigAlgId, validator.publicKey⟩
      (commitSigPreimage env policy block.header.height (computeBlockHash env block) commit)
      ⟨commit.sigAlgId, commit.signature⟩ = .ok () →
    (⟨signer, block.header.height, commit.round, .precommit⟩, computeBlockHash env block) ∈
      network.signed

def Block.QuorumInOneRound (block : Block) (quorum : Nat) : Prop :=
  ∃ round, quorum ≤ (block.commitSignatures.filter fun commit => commit.round = round).length

section Agreement

variable {env : Env} {validators : ValidatorSet} {network : RoundNetwork}
  {policy : CommitQuorumPolicy} {block : Block}

local instance lawfulBEqBytes : LawfulBEq Bytes := inferInstance

def roundSigners (validators : ValidatorSet) (block : Block) (round : Nat) : Finset Address :=
  validators.members.filter fun member =>
    member.data ∈ (block.commitSignatures.filter fun commit => commit.round = round).map
      CommitSig.validatorAddress

theorem roundSigners_card (policyFor : PolicyFor validators policy)
    (accepted : validateBlockCommitQuorum env block policy = .ok ()) (round : Nat) :
    (block.commitSignatures.filter fun commit => commit.round = round).length ≤
      (roundSigners validators block round).card := by
  obtain ⟨_, distinct, checked⟩ := validateBlockCommitQuorum_ok env accepted
  have signers : ((block.commitSignatures.filter fun commit => commit.round = round).map
      CommitSig.validatorAddress).Nodup :=
    distinct.sublist (List.filter_sublist.map _)
  have covered : ((block.commitSignatures.filter fun commit => commit.round = round).map
      CommitSig.validatorAddress).toFinset ⊆
      (roundSigners validators block round).image Bytes32.data := by
    intro address signed
    rw [List.mem_toFinset] at signed
    obtain ⟨commit, kept, rfl⟩ := List.mem_map.mp signed
    obtain ⟨validator, found, _⟩ := checked commit (List.mem_filter.mp kept).1
    have listed : commit.validatorAddress ∈ policy.validators.map CommitValidator.address := by
      have same := List.find?_some found
      simp only [decide_eq_true_eq] at same
      exact List.mem_map.mpr ⟨validator, List.mem_of_find?_eq_some found, same⟩
    obtain ⟨member, isMember, same⟩ := (policyFor.addresses _).mp listed
    refine Finset.mem_image.mpr ⟨member, Finset.mem_filter.mpr ⟨isMember, ?_⟩, same⟩
    rw [same]
    exact signed
  calc (block.commitSignatures.filter fun commit => commit.round = round).length
      = ((block.commitSignatures.filter fun commit => commit.round = round).map
          CommitSig.validatorAddress).toFinset.card := by
        rw [List.toFinset_card_of_nodup signers, List.length_map]
    _ ≤ ((roundSigners validators block round).image Bytes32.data).card :=
        Finset.card_le_card covered
    _ ≤ (roundSigners validators block round).card := Finset.card_image_le

theorem certificate_backed (policyFor : PolicyFor validators policy)
    (accepted : validateBlockCommitQuorum env block policy = .ok ())
    (unforged : Unforged env validators network policy block)
    (proper : computeBlockHash env block ≠ nilHash)
    (oneRound : block.QuorumInOneRound policy.quorumThreshold) :
    ∃ round, Backed validators.committee (Precommitted block.header.height network.signed) round
      (computeBlockHash env block) := by
  obtain ⟨round, quorum⟩ := oneRound
  refine ⟨round, roundSigners validators block round, Finset.filter_subset _ _, ?_, ?_⟩
  · have counted := roundSigners_card policyFor accepted round
    rw [policyFor.threshold] at quorum
    exact Nat.le_trans quorum counted
  · intro signer member honest
    obtain ⟨isMember, signed⟩ := Finset.mem_filter.mp member
    obtain ⟨commit, kept, address⟩ := List.mem_map.mp signed
    obtain ⟨listed, atRound⟩ := List.mem_filter.mp kept
    simp only [decide_eq_true_eq] at atRound
    obtain ⟨_, _, checked⟩ := validateBlockCommitQuorum_ok env accepted
    obtain ⟨validator, found, verified⟩ := checked commit listed
    have asked := unforged commit listed signer ⟨isMember, honest⟩ address.symm validator found
      verified
    rw [atRound] at asked
    exact ⟨proper, asked⟩

/-- Two accepted certificates of one height certify the same block, if each has a quorum of
signatures from a single round. -/
theorem certifiedBlocks_agree {height : Nat} (run : RoundRun validators height network)
    (policyFor : PolicyFor validators policy) (left right : Block)
    (leftHeight : left.header.height = height) (rightHeight : right.header.height = height)
    (leftProper : computeBlockHash env left ≠ nilHash)
    (rightProper : computeBlockHash env right ≠ nilHash)
    (leftUnforged : Unforged env validators network policy left)
    (rightUnforged : Unforged env validators network policy right)
    (leftAccepted : validateBlockCommitQuorum env left policy = .ok ())
    (rightAccepted : validateBlockCommitQuorum env right policy = .ok ())
    (leftOneRound : left.QuorumInOneRound policy.quorumThreshold)
    (rightOneRound : right.QuorumInOneRound policy.quorumThreshold) :
    computeBlockHash env left = computeBlockHash env right := by
  obtain ⟨_, leftBacked⟩ :=
    certificate_backed policyFor leftAccepted leftUnforged leftProper leftOneRound
  obtain ⟨_, rightBacked⟩ :=
    certificate_backed policyFor rightAccepted rightUnforged rightProper rightOneRound
  rw [leftHeight] at leftBacked
  rw [rightHeight] at rightBacked
  exact run.inv.discipline.agreement leftBacked rightBacked

end Agreement

/-! A schedule of four validators after which two different blocks are certified. -/

def summingEnv : Env where
  shake256 bytes := Bytes32.fill (Fin.ofNat 256 (bytes.map Fin.val).sum)
  mlDsa _ key message signature :=
    if signature = key ++ message then .ok () else .error .verificationFailed
  slhDsa _ key message signature :=
    if signature = key ++ message then .ok () else .error .verificationFailed
  cborDecode _ := .error ""
  cborEncode _ := .ok []
  tokenEconomics := true
  pqVerifierFeature := true

def fourPolicy : CommitQuorumPolicy where
  validators := [firstValidator, faultyValidator, thirdValidator, fourthValidator].map
    fun validator =>
      { nodeId := [], address := validator.data, sigAlgId := .mlDsa65,
        publicKey := validator.data }
  quorumThreshold := 3
  preimageMode := .distributed 0
  forkDigest := ⟨[0, 0, 0, 0], rfl⟩
  distinct := by decide
  thresholdPositive := by decide
  thresholdBound := by decide

def stampedBlock (timestamp : Nat) : Block where
  header :=
    { headerVersion := headerVersionV1, height := 7, prevHash := nilHash, stateRoot := nilHash,
      txRoot := nilHash, timestamp, proposer := [], extensionRoot := nilHash }
  txHashes := []
  commitSignatures := []

def certified (block : Block) (blockHash : BlockHash) (signers : List (Address × Nat)) : Block :=
  { block with
    commitSignatures := signers.map fun signer =>
      { validatorAddress := signer.1.data
        sigAlgId := .mlDsa65
        round := signer.2
        signature := signer.1.data ++ (votePreimage summingEnv fourPolicy.forkDigest
          block.header.height signer.2 .precommit blockHash).data } }

theorem certified_hash {block : Block} {blockHash : BlockHash} (signers : List (Address × Nat))
    (hash : computeBlockHash summingEnv block = blockHash) :
    computeBlockHash summingEnv (certified block blockHash signers) = blockHash := hash

theorem stampedBlock_hash : computeBlockHash summingEnv (stampedBlock 1) = Bytes32.fill 105 ∧
    computeBlockHash summingEnv (stampedBlock 2) = Bytes32.fill 106 ∧
    computeBlockHash summingEnv (stampedBlock 169) = Bytes32.fill 17 := by
  decide +kernel

theorem fourPolicy_for : PolicyFor fourValidators fourPolicy where
  addresses address := by
    simp [fourPolicy, fourValidators, eq_comm]
  distributed := ⟨0, rfl⟩
  threshold := by decide

theorem unforged_of_signed {env : Env} {validators : ValidatorSet}
    {network : RoundNetwork} {policy : CommitQuorumPolicy} {block : Block} {blockHash : BlockHash}
    (hash : computeBlockHash env block = blockHash)
    (signed : ∀ commit ∈ block.commitSignatures, ∀ signer ∈ validators.members,
      signer ∉ validators.byzantine → signer.data = commit.validatorAddress →
      (⟨signer, block.header.height, commit.round, .precommit⟩, blockHash) ∈ network.signed) :
    Unforged env validators network policy block := by
  intro commit listed signer correct address _ _ _
  rw [hash]
  exact signed commit listed signer correct.1 correct.2 address

def mixedRoundSchedule (first second : Bytes32) : List (Address × ConsensusRound.Event) :=
  List.flatten [
    sameEvent correctThree (.proposal first),
    prevotesArrive [firstValidator] correctThree 0 first,
    sameEvent correctThree .precommitTimeout,
    sameEvent correctThree (.proposal second),
    prevotesArrive [firstValidator] [faultyValidator, thirdValidator, fourthValidator] 1 second,
    sameEvent correctThree .precommitTimeout,
    sameEvent [thirdValidator, fourthValidator] (.proposal first),
    prevotesArrive [fourthValidator] [faultyValidator, thirdValidator, fourthValidator] 2 first,
    sameEvent correctThree .precommitTimeout,
    sameEvent [firstValidator, thirdValidator] (.proposal second),
    prevotesArrive [thirdValidator] [firstValidator, faultyValidator, thirdValidator] 3 second]

def mixedRoundNetwork : RoundNetwork :=
  ((RoundNetwork.start 7 fourValidators.members.card).play fourValidators 7
    (mixedRoundSchedule (Bytes32.fill 105) (Bytes32.fill 106))).get (by decide +kernel)

/-- With rounds combined, two blocks of one height are both certified although no validator
but the Byzantine one ever signed against the round machine. -/
theorem mixedRoundCertificates_disagree : ∃ (env : Env) (validators : ValidatorSet)
    (network : RoundNetwork) (policy : CommitQuorumPolicy) (left right : Block),
    RoundRun validators 7 network ∧ PolicyFor validators policy ∧
    left.header.height = 7 ∧ right.header.height = 7 ∧
    computeBlockHash env left ≠ nilHash ∧ computeBlockHash env right ≠ nilHash ∧
    Unforged env validators network policy left ∧
    Unforged env validators network policy right ∧
    validateBlockCommitQuorum env left policy = .ok () ∧
    validateBlockCommitQuorum env right policy = .ok () ∧
    computeBlockHash env left ≠ computeBlockHash env right := by
  have leftHash := certified_hash
    [(firstValidator, 0), (faultyValidator, 0), (fourthValidator, 2)] stampedBlock_hash.1
  have rightHash := certified_hash
    [(firstValidator, 1), (faultyValidator, 0), (thirdValidator, 3)] stampedBlock_hash.2.1
  refine ⟨summingEnv, fourValidators, mixedRoundNetwork, fourPolicy, _, _,
    RoundNetwork.play_run .start (Option.some_get _).symm, fourPolicy_for, rfl, rfl,
    ?_, ?_, unforged_of_signed leftHash ?_, unforged_of_signed rightHash ?_, ?_, ?_, ?_⟩
  · rw [leftHash]
    decide
  · rw [rightHash]
    decide
  · decide +kernel
  · decide +kernel
  · decide +kernel
  · decide +kernel
  · rw [leftHash, rightHash]
    decide

def twoRoundNetwork : RoundNetwork :=
  ((RoundNetwork.start 7 fourValidators.members.card).play fourValidators 7
    (twoRoundSchedule (Bytes32.fill 17))).get (by decide +kernel)

theorem certifiedBlocks_agree_twoRounds :
    computeBlockHash summingEnv (certified (stampedBlock 169) (Bytes32.fill 17)
      [(firstValidator, 0), (thirdValidator, 0), (fourthValidator, 0)]) =
    computeBlockHash summingEnv (certified (stampedBlock 169) (Bytes32.fill 17)
      [(faultyValidator, 1), (thirdValidator, 1), (fourthValidator, 1)]) := by
  have run : RoundRun fourValidators 7 twoRoundNetwork :=
    RoundNetwork.play_run .start (Option.some_get _).symm
  have leftHash := certified_hash
    [(firstValidator, 0), (thirdValidator, 0), (fourthValidator, 0)] stampedBlock_hash.2.2
  have rightHash := certified_hash
    [(faultyValidator, 1), (thirdValidator, 1), (fourthValidator, 1)] stampedBlock_hash.2.2
  refine certifiedBlocks_agree run fourPolicy_for _ _ rfl rfl ?_ ?_
    (unforged_of_signed leftHash ?_) (unforged_of_signed rightHash ?_) ?_ ?_ ⟨0, ?_⟩ ⟨1, ?_⟩
  · rw [leftHash]
    decide
  · rw [rightHash]
    decide
  all_goals decide +kernel

end ViperChain
