import ViperChain.State.Apply.Validators
import ViperChain.Tx.Canonical

/-!
What is signed: votes, proposals and transactions, each hashed under a tag of its own. Every
body determines what it was written from.
-/

namespace ViperChain

open Fallible

def proposalDomainTag : Bytes := ascii "VIPER-PROPOSAL-V1"

def beI32 (number : Int) : Bytes := toBeBytes 4 (number % 2 ^ 32).toNat

def proposalPreimage (env : Env) (forkDigest : ForkDigest) (height round : Nat) (polRound : Int)
    (blockHash : Bytes32) : Bytes32 :=
  taggedHash env proposalDomainTag
    (forkDigest.data ++ toBeBytes 8 height ++ toBeBytes 4 round ++ beI32 polRound ++ blockHash.data)

theorem beI32_injective {left right : Int} (lowLeft : -2 ^ 31 ≤ left) (highLeft : left < 2 ^ 31)
    (lowRight : -2 ^ 31 ≤ right) (highRight : right < 2 ^ 31) (same : beI32 left = beI32 right) :
    left = right := by
  have fits : ∀ number : Int, (number % 2 ^ 32).toNat < 256 ^ 4 := by
    intro number
    omega
  have numbers := toBeBytes_injective (fits left) (fits right) same
  omega

section Messages

inductive SignedMessage where
  | vote (forkDigest : ForkDigest) (height round : Nat) (step : VoteStep) (blockHash : Bytes32)
  | proposal (forkDigest : ForkDigest) (height round : Nat) (polRound : Int) (blockHash : Bytes32)
  | transaction (forkDigest : ForkDigest) (tx : Transaction)

namespace SignedMessage

def InRange : SignedMessage → Prop
  | vote _ height round _ _ => height < 2 ^ 64 ∧ round < 2 ^ 32
  | proposal _ height round polRound _ =>
      height < 2 ^ 64 ∧ round < 2 ^ 32 ∧ -2 ^ 31 ≤ polRound ∧ polRound < 2 ^ 31
  | transaction _ tx => tx.InRange

def preimage (env : Env) : SignedMessage → Except String Bytes
  | vote forkDigest height round step blockHash =>
      .ok (votePreimage env forkDigest height round step blockHash).data
  | proposal forkDigest height round polRound blockHash =>
      .ok (proposalPreimage env forkDigest height round polRound blockHash).data
  | transaction forkDigest tx => buildPreimage env forkDigest tx

def query (env : Env) : SignedMessage → Except String (Bytes × Bytes)
  | vote forkDigest height round step blockHash =>
      .ok (voteDomainTag, forkDigest.data ++ toBeBytes 8 height ++ toBeBytes 4 round ++
        [step.asU8] ++ blockHash.data)
  | proposal forkDigest height round polRound blockHash =>
      .ok (proposalDomainTag, forkDigest.data ++ toBeBytes 8 height ++ toBeBytes 4 round ++
        beI32 polRound ++ blockHash.data)
  | transaction forkDigest tx => do
      let cbor ← env.cborEncode (.map (envelopeEntries tx true))
      return (ascii "PQC-TX-V1", forkDigest.data ++ cbor)

def Same : SignedMessage → SignedMessage → Prop
  | transaction forkDigest tx, transaction forkDigest' tx' =>
      forkDigest = forkDigest' ∧ { tx with signature := [] } = { tx' with signature := [] }
  | left, right => left = right

variable {env : Env} {left right : SignedMessage}

theorem preimage_of_query (message : SignedMessage) {asked : Bytes × Bytes}
    (written : message.query env = .ok asked) :
    message.preimage env = .ok (taggedHash env asked.1 asked.2).data := by
  cases message with
  | vote => cases written; rfl
  | proposal => cases written; rfl
  | transaction forkDigest tx =>
      simp only [query, bind_eq_ok, pure_eq_ok] at written
      obtain ⟨cbor, encoded, rfl⟩ := written
      simp only [preimage, buildPreimage, bind_eq_ok, pure_eq_ok]
      exact ⟨cbor, encoded, rfl⟩

end SignedMessage

end Messages

section Parsing

theorem round_header_inj {forkLeft forkRight : ForkDigest} {heightLeft heightRight roundLeft roundRight : Nat}
    {restLeft restRight : Bytes} (heights : heightLeft < 2 ^ 64 ∧ heightRight < 2 ^ 64)
    (rounds : roundLeft < 2 ^ 32 ∧ roundRight < 2 ^ 32)
    (same : forkLeft.data ++ (toBeBytes 8 heightLeft ++ (toBeBytes 4 roundLeft ++ restLeft)) =
      forkRight.data ++ (toBeBytes 8 heightRight ++ (toBeBytes 4 roundRight ++ restRight))) :
    forkLeft = forkRight ∧ heightLeft = heightRight ∧ roundLeft = roundRight ∧
      restLeft = restRight := by
  obtain ⟨fork, same⟩ := List.append_inj same (by rw [forkLeft.length_eq, forkRight.length_eq])
  obtain ⟨height, same⟩ := List.append_inj same (by simp)
  obtain ⟨round, rest⟩ := List.append_inj same (by simp)
  refine ⟨?_, toBeBytes_injective heights.1 heights.2 height,
    toBeBytes_injective rounds.1 rounds.2 round, rest⟩
  cases forkLeft
  cases forkRight
  cases fork
  rfl

theorem asU8_injective : Function.Injective VoteStep.asU8 := by
  rintro (_ | _) (_ | _) same <;> first | rfl | cases same

theorem asU16_injective : Function.Injective AlgId.asU16 := by
  intro left right same
  have read := left.fromU16_asU16
  rw [same, right.fromU16_asU16] at read
  exact (Option.some.inj read).symm

theorem msgTypeAsU16_injective : Function.Injective MsgType.asU16 := by
  intro left right same
  have read := left.fromU16_asU16
  rw [same, right.fromU16_asU16] at read
  exact (Option.some.inj read).symm

theorem envelopeEntries_inj {left right : Transaction}
    (same : envelopeEntries left true = envelopeEntries right true) :
    { left with signature := [] } = { right with signature := [] } := by
  simp only [envelopeEntries, TxCodec.entry, if_true, List.cons_append, List.nil_append,
    List.cons.injEq, Prod.mk.injEq, Value.integer.injEq, Value.bytes.injEq, Nat.cast_inj, true_and,
    and_true] at same
  obtain ⟨version, chain, msgType, sender, nonce, fee, feeTip, gas, payload, alg, keyVersion⟩ := same
  have senders := Bytes32.data_injective sender
  have types := msgTypeAsU16_injective msgType
  have algorithms := asU16_injective alg
  cases left
  cases right
  simp_all

namespace SignedMessage

variable {env : Env} {left right : SignedMessage}

theorem query_injective (faithful : FaithfulCbor env) (rangeLeft : left.InRange)
    (rangeRight : right.InRange) {asked : Bytes × Bytes} (queryLeft : left.query env = .ok asked)
    (queryRight : right.query env = .ok asked) : left.Same right := by
  have voteProposal : voteDomainTag ≠ proposalDomainTag := by decide
  have voteTx : voteDomainTag ≠ ascii "PQC-TX-V1" := by decide
  have proposalTx : proposalDomainTag ≠ ascii "PQC-TX-V1" := by decide
  obtain ⟨tag, body⟩ := asked
  cases left <;> cases right <;>
    simp only [query, bind_eq_ok, pure_eq_ok, Except.ok.injEq, Prod.mk.injEq] at queryLeft queryRight
  case vote.vote fork height round step hash fork' height' round' step' hash' =>
    have bodies := queryLeft.2.trans queryRight.2.symm
    simp only [List.append_assoc] at bodies
    obtain ⟨rfl, rfl, rfl, rest⟩ := round_header_inj ⟨rangeLeft.1, rangeRight.1⟩
      ⟨rangeLeft.2, rangeRight.2⟩ bodies
    obtain ⟨steps, hashes⟩ := List.cons.inj rest
    obtain rfl := asU8_injective steps
    obtain rfl := Bytes32.data_injective hashes
    rfl
  case proposal.proposal fork height round pol hash fork' height' round' pol' hash' =>
    have bodies := queryLeft.2.trans queryRight.2.symm
    simp only [List.append_assoc] at bodies
    obtain ⟨rfl, rfl, rfl, rest⟩ := round_header_inj ⟨rangeLeft.1, rangeRight.1⟩
      ⟨rangeLeft.2.1, rangeRight.2.1⟩ bodies
    obtain ⟨pols, hashes⟩ := List.append_inj rest (by simp [beI32])
    obtain rfl := beI32_injective rangeLeft.2.2.1 rangeLeft.2.2.2 rangeRight.2.2.1
      rangeRight.2.2.2 pols
    obtain rfl := Bytes32.data_injective hashes
    rfl
  case transaction.transaction fork tx fork' tx' =>
    obtain ⟨cbor, encoded, _, body⟩ := queryLeft
    obtain ⟨cbor', encoded', _, body'⟩ := queryRight
    obtain ⟨forks, texts⟩ := List.append_inj (body.trans body'.symm)
      (by rw [fork.length_eq, fork'.length_eq])
    rw [texts] at encoded
    have entries := Value.map.inj (faithful.encode_injective encoded encoded')
    refine ⟨?_, envelopeEntries_inj entries⟩
    cases fork
    cases fork'
    cases forks
    rfl
  case vote.proposal => exact absurd (queryLeft.1.trans queryRight.1.symm) voteProposal
  case proposal.vote => exact absurd (queryRight.1.trans queryLeft.1.symm) voteProposal
  case vote.transaction =>
    obtain ⟨_, _, tags, _⟩ := queryRight
    exact absurd (queryLeft.1.trans tags.symm) voteTx
  case transaction.vote =>
    obtain ⟨_, _, tags, _⟩ := queryLeft
    exact absurd (queryRight.1.trans tags.symm) voteTx
  case proposal.transaction =>
    obtain ⟨_, _, tags, _⟩ := queryRight
    exact absurd (queryLeft.1.trans tags.symm) proposalTx
  case transaction.proposal =>
    obtain ⟨_, _, tags, _⟩ := queryLeft
    exact absurd (queryRight.1.trans tags.symm) proposalTx

end SignedMessage

end Parsing

theorem computeVotePreimage_eq (env : Env) (forkDigest : ForkDigest)
    (vote : Slashing.EquivocationVote) {step : VoteStep} (steps : vote.step = step.asU8.val) :
    Slashing.computeVotePreimage env forkDigest vote =
      votePreimage env forkDigest vote.height vote.round step vote.blockHash := by
  have byte : byteChunk vote.step = [step.asU8] := by
    rw [byteChunk, steps]
    cases step <;> rfl
  rw [Slashing.computeVotePreimage, votePreimage, byte]
  rfl

/-- Two messages with one preimage are the same message, whatever kinds they are of. Slashing
checks the preimage that was signed for the vote. -/
theorem preimages_unambiguous (env : Env) (faithful : FaithfulCbor env) (left right : SignedMessage)
    (rangeLeft : left.InRange) (rangeRight : right.InRange) (askedLeft askedRight : Bytes × Bytes)
    (queryLeft : left.query env = .ok askedLeft) (queryRight : right.query env = .ok askedRight)
    (free : CollisionFree env [askedLeft, askedRight]) :
    (left.preimage env = right.preimage env → left.Same right) ∧
    (∀ accepts : Bytes → Prop, (∀ first second, accepts first → accepts second → first = second) →
      ∀ signedLeft signedRight, left.preimage env = .ok signedLeft →
        right.preimage env = .ok signedRight → accepts signedLeft → accepts signedRight →
        left.Same right) ∧
    ∀ (forkDigest : ForkDigest) (vote : Slashing.EquivocationVote) (step : VoteStep),
      vote.step = step.asU8.val →
      Slashing.computeVotePreimage env forkDigest vote =
        votePreimage env forkDigest vote.height vote.round step vote.blockHash := by
  have unambiguous : left.preimage env = right.preimage env → left.Same right := by
    intro same
    rw [left.preimage_of_query queryLeft, right.preimage_of_query queryRight] at same
    have digests := Bytes32.data_injective (Except.ok.inj same)
    have queries := free askedLeft (by simp) askedRight (by simp) digests
    rw [← queries] at queryRight
    exact SignedMessage.query_injective faithful rangeLeft rangeRight queryLeft queryRight
  refine ⟨unambiguous, ?_, fun forkDigest vote step => computeVotePreimage_eq env forkDigest vote⟩
  intro accepts bound signedLeft signedRight signsLeft signsRight validLeft validRight
  rw [signsLeft, signsRight, bound signedLeft signedRight validLeft validRight] at unambiguous
  exact unambiguous rfl

theorem preimages_unambiguous_round :
    let digest := ForkDigest.viperResearch1 sampleEnv
    let vote := SignedMessage.vote digest 7 0 .precommit (Bytes32.fill 9)
    let proposal := SignedMessage.proposal digest 7 0 (-1) (Bytes32.fill 9)
    FaithfulCbor sampleEnv ∧ vote.preimage sampleEnv ≠ proposal.preimage sampleEnv := by
  intro digest vote proposal
  have free : CollisionFree sampleEnv
      [(voteDomainTag, digest.data ++ toBeBytes 8 7 ++ toBeBytes 4 0 ++
          [VoteStep.precommit.asU8] ++ (Bytes32.fill 9).data),
        (proposalDomainTag, digest.data ++ toBeBytes 8 7 ++ toBeBytes 4 0 ++ beI32 (-1) ++
          (Bytes32.fill 9).data)] := by
    decide +kernel
  have apart := (preimages_unambiguous sampleEnv sampleEnv_faithful vote proposal
    ⟨by decide, by decide⟩ ⟨by decide, by decide, by decide, by decide⟩ _ _ rfl rfl free).1
  refine ⟨sampleEnv_faithful, fun same => ?_⟩
  have equal : vote = proposal := apart same
  simp [vote, proposal] at equal

end ViperChain
