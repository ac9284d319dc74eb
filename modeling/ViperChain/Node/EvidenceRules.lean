import ViperChain.Node.Import

/-!
Which evidence is accepted: one validator signed two hashes at one height, round and step, not
too long ago, and has not been slashed for it yet.
-/

namespace ViperChain

open Fallible CachedTables CachedTable

namespace Slashing

variable {env : Env} {verifier : SignatureVerifier} {store : StateStore}

section Wire

structure EquivocationVote.InRange (vote : EquivocationVote) : Prop where
  height : vote.height < 2 ^ 64
  round : vote.round < 2 ^ 32
  step : vote.step < 2 ^ 8

structure EquivocationEvidence.InRange (evidence : EquivocationEvidence) : Prop where
  height : evidence.height < 2 ^ 64
  voteA : evidence.voteA.InRange
  voteB : evidence.voteB.InRange

theorem evidenceKey_integer {key : Int} (low : -(2 ^ 63) ≤ key) (high : key < 2 ^ 63) :
    evidenceKey (.integer key) = .ok key := by
  simp only [evidenceKey, bind_eq_ok, okOr_eq_ok, require_eq_ok, pure_eq_ok, Bool.and_eq_true,
    decide_eq_true_eq]
  exact ⟨key, rfl, (), ⟨low, high⟩, rfl⟩

theorem uintField_nat {width key number : Nat} (small : number < 2 ^ width) :
    uintField width key (.integer number) = .ok number := by
  have read : Value.asUint? width (.integer (number : Int)) = some number :=
    Value.asUint?_eq_some.mpr ⟨rfl, small⟩
  simp only [uintField, Value.asInteger?, okOr, bind, Except.bind, read]

theorem hashField_data (key : Nat) (name : String) (hash : Bytes32) :
    hashField key name (.bytes hash.data) = .ok hash := by
  simp [hashField, evidenceBytes, Value.asBytes?, okOr, bind, Except.bind, Bytes32.ofBytes?,
    hash.length_eq]

theorem voteKeys : evidenceKey (.integer 1) = .ok 1 ∧ evidenceKey (.integer 2) = .ok 2 ∧
    evidenceKey (.integer 3) = .ok 3 ∧ evidenceKey (.integer 4) = .ok 4 ∧
    evidenceKey (.integer 5) = .ok 5 := by
  refine ⟨?_, ?_, ?_, ?_, ?_⟩ <;> exact evidenceKey_integer (by norm_num) (by norm_num)

variable {value : Value} {fields : VoteFields}

theorem voteField_height {number : Nat} (read : uintField 64 1 value = .ok number) :
    voteField 1 value fields = .ok { fields with height := some number } := by
  simp only [voteField, read, bind, Except.bind, pure, Except.pure]

theorem voteField_round {number : Nat} (read : uintField 32 2 value = .ok number) :
    voteField 2 value fields = .ok { fields with round := some number } := by
  simp only [voteField, read, bind, Except.bind, pure, Except.pure]

theorem voteField_blockHash {hash : Bytes32} (read : hashField 3 "block_hash" value = .ok hash) :
    voteField 3 value fields = .ok { fields with blockHash := some hash } := by
  simp only [voteField, read, bind, Except.bind, pure, Except.pure]

theorem voteField_step {number : Nat} (read : uintField 8 4 value = .ok number)
    {next : VoteFields} :
    voteField 4 value fields = .ok next ↔
      (number = 1 ∨ number = 2) ∧ next = { fields with step := some number } := by
  simp only [voteField, read, bind_eq_ok, require_eq_ok, pure_eq_ok, Except.ok.injEq,
    Bool.or_eq_true, decide_eq_true_eq]
  constructor
  · rintro ⟨_, rfl, _, known, rfl⟩
    exact ⟨known, rfl⟩
  · rintro ⟨known, rfl⟩
    exact ⟨number, rfl, (), known, rfl⟩

theorem voteField_signature {content : Bytes} :
    voteField 5 (.bytes content) fields = .ok { fields with signature := some content } := by
  simp only [voteField, evidenceBytes, Value.asBytes?, okOr, bind, Except.bind, pure, Except.pure]

theorem decodeEquivocationVote_encode {vote other : EquivocationVote} (inRange : vote.InRange) :
    decodeEquivocationVote (encodeEquivocationVote vote) = .ok other ↔
      (vote.step = 1 ∨ vote.step = 2) ∧ other = vote := by
  obtain ⟨one, two, three, four, five⟩ := voteKeys
  have height := @voteField_height _ {} _ (@uintField_nat 64 1 _ inRange.height)
  have hash := hashField_data 3 "block_hash" vote.blockHash
  simp only [decodeEquivocationVote, encodeEquivocationVote, Value.asMap?, okOr_eq_ok, bind_eq_ok,
    pure_eq_ok, Option.some.injEq, exists_eq_left', List.foldlM_cons, List.foldlM_nil, one, two,
    three, four, five, Except.ok.injEq, height, voteField_round (@uintField_nat 32 2 _ inRange.round),
    voteField_blockHash hash, voteField_step (@uintField_nat 8 4 _ inRange.step),
    voteField_signature]
  constructor
  · rintro ⟨_, ⟨_, ⟨known, rfl⟩, rfl⟩, read⟩
    simp only [Option.some.injEq, exists_eq_left'] at read
    exact ⟨known, read.symm⟩
  · rintro ⟨known, rfl⟩
    exact ⟨_, ⟨_, ⟨known, rfl⟩, rfl⟩, _, rfl, _, rfl, _, rfl, _, rfl, _, rfl, rfl⟩

theorem decodeEquivocationEvidence_encode {evidence other : EquivocationEvidence} {payload : Bytes}
    (faithful : FaithfulCbor env) (inRange : evidence.InRange)
    (encoded : env.cborEncode (encodeEquivocationEvidence evidence) = .ok payload) :
    decodeEquivocationEvidence env payload = .ok other ↔
      (evidence.voteA.step = 1 ∨ evidence.voteA.step = 2) ∧
        (evidence.voteB.step = 1 ∨ evidence.voteB.step = 2) ∧ other = evidence := by
  obtain ⟨one, two, three, four, _⟩ := voteKeys
  have read := faithful.decode_encode _ _ encoded
  simp only [decodeEquivocationEvidence, read, encodeEquivocationEvidence, Value.asMap?, okOr_eq_ok,
    mapError_eq_ok, bind_eq_ok, pure_eq_ok, Option.some.injEq, exists_eq_left', List.foldlM_cons,
    List.foldlM_nil, one, two, three, four, Except.ok.injEq, evidenceField,
    hashField_data 1 "validator_address", @uintField_nat 64 2 _ inRange.height,
    decodeEquivocationVote_encode inRange.voteA, decodeEquivocationVote_encode inRange.voteB]
  constructor
  · rintro ⟨_, ⟨_, ⟨_, ⟨knownA, rfl⟩, rfl⟩, _, ⟨_, ⟨knownB, rfl⟩, rfl⟩, rfl⟩, whole⟩
    simp only [Option.some.injEq, exists_eq_left'] at whole
    exact ⟨knownA, knownB, whole.symm⟩
  · rintro ⟨knownA, knownB, rfl⟩
    exact ⟨_, ⟨_, ⟨_, ⟨knownA, rfl⟩, rfl⟩, _, ⟨_, ⟨knownB, rfl⟩, rfl⟩, rfl⟩, _, rfl, _, rfl, _, rfl,
      _, rfl, rfl⟩

theorem voteField_known {key : Int} {next : VoteFields}
    (known : ∀ step, fields.step = some step → step = 1 ∨ step = 2)
    (read : voteField key value fields = .ok next) :
    ∀ step, next.step = some step → step = 1 ∨ step = 2 := by
  unfold voteField at read
  split at read
  case h_4 =>
    simp only [bind_eq_ok, require_eq_ok, pure_eq_ok, Bool.or_eq_true, decide_eq_true_eq] at read
    obtain ⟨step, _, _, valid, rfl⟩ := read
    rintro other ⟨⟩
    exact valid
  case h_6 => cases read
  all_goals
    simp only [bind_eq_ok, pure_eq_ok] at read
    obtain ⟨_, _, rfl⟩ := read
    exact known

theorem decodeEquivocationVote_known {vote : EquivocationVote}
    (decoded : decodeEquivocationVote value = .ok vote) : vote.step = 1 ∨ vote.step = 2 := by
  simp only [decodeEquivocationVote, okOr_eq_ok, bind_eq_ok, pure_eq_ok] at decoded
  obtain ⟨entries, _, fields, ran, _, _, _, _, _, _, step, found, _, _, rfl⟩ := decoded
  refine foldlM_invariant (fun fields : VoteFields =>
    ∀ step, fields.step = some step → step = 1 ∨ step = 2) entries {} fields (by simp) ?_ ran step
    found
  intro fields entry next _ known stepped
  simp only [bind_eq_ok] at stepped
  obtain ⟨key, _, read⟩ := stepped
  exact voteField_known known read

theorem decodeEquivocationEvidence_known {evidence : EquivocationEvidence} {payload : Bytes}
    (decoded : decodeEquivocationEvidence env payload = .ok evidence) :
    (evidence.voteA.step = 1 ∨ evidence.voteA.step = 2) ∧
      (evidence.voteB.step = 1 ∨ evidence.voteB.step = 2) := by
  simp only [decodeEquivocationEvidence, okOr_eq_ok, mapError_eq_ok, bind_eq_ok, pure_eq_ok] at decoded
  obtain ⟨_, _, entries, _, fields, ran, _, _, _, _, voteA, foundA, voteB, foundB, rfl⟩ := decoded
  have known := foldlM_invariant (fun fields : EvidenceFields =>
    (∀ vote, fields.voteA = some vote → vote.step = 1 ∨ vote.step = 2) ∧
      ∀ vote, fields.voteB = some vote → vote.step = 1 ∨ vote.step = 2) entries {} fields (by simp)
    (fun fields entry next _ known stepped => ?_) ran
  · exact ⟨known.1 voteA foundA, known.2 voteB foundB⟩
  · simp only [bind_eq_ok] at stepped
    obtain ⟨key, _, read⟩ := stepped
    unfold evidenceField at read
    split at read
    case h_5 => cases read
    all_goals
      simp only [bind_eq_ok, pure_eq_ok] at read
      obtain ⟨content, parsed, rfl⟩ := read
    case h_1 => exact known
    case h_2 => exact known
    case h_3 =>
      refine ⟨?_, known.2⟩
      rintro vote ⟨⟩
      exact decodeEquivocationVote_known parsed
    case h_4 =>
      refine ⟨known.1, ?_⟩
      rintro vote ⟨⟩
      exact decodeEquivocationVote_known parsed

end Wire

section Rules

def SignedBy (env : Env) (verifier : SignatureVerifier) (record : ValidatorRecord) (step : VoteStep)
    (vote : EquivocationVote) : Prop :=
  verifier ⟨record.consensusAlgId, record.consensusPk⟩
    (votePreimage env (.viperResearch1 env) vote.height vote.round step vote.blockHash).data
    ⟨record.consensusAlgId, vote.signature⟩ = .ok ()

theorem verifyVoteSignature_iff {record : ValidatorRecord} {vote : EquivocationVote}
    {step : VoteStep} (same : vote.step = step.asU8.val) :
    verifyVoteSignature env verifier ⟨record.consensusAlgId, record.consensusPk⟩ vote = .ok () ↔
      SignedBy env verifier record step vote := by
  have preimage : computeVotePreimage env (.viperResearch1 env) vote =
      votePreimage env (.viperResearch1 env) vote.height vote.round step vote.blockHash := by
    have byte : byteChunk vote.step = [step.asU8] := by
      rw [same]
      cases step <;> rfl
    simp only [computeVotePreimage, votePreimage, byte, be64, be32, voteDomainTag]
  rw [verifyVoteSignature, preimage, SignedBy]

structure DoubleVote (env : Env) (verifier : SignatureVerifier) (store : StateStore)
    (evidence : EquivocationEvidence) (currentHeight : Nat) : Prop where
  heights : evidence.voteA.height = evidence.height ∧ evidence.voteB.height = evidence.height
  rounds : evidence.voteA.round = evidence.voteB.round
  hashes : evidence.voteA.blockHash ≠ evidence.voteB.blockHash
  recent : evidence.height ≤ currentHeight ∧
    currentHeight ≤ evidence.height + evidenceValidityWindowBlocks
  accused : ∃ record step, store.getValidator evidence.validatorAddress = some record ∧
    record.tombstoned = false ∧
    evidence.voteA.step = step.asU8.val ∧ evidence.voteB.step = step.asU8.val ∧
    SignedBy env verifier record step evidence.voteA ∧
    SignedBy env verifier record step evidence.voteB

theorem checkEvidence_eq_ok {evidence : EquivocationEvidence} {currentHeight : Nat} :
    checkEvidence evidence currentHeight = .ok () ↔
      (evidence.voteA.height = evidence.height ∧ evidence.voteB.height = evidence.height) ∧
      evidence.voteA.round = evidence.voteB.round ∧ evidence.voteA.step = evidence.voteB.step ∧
      evidence.voteA.blockHash ≠ evidence.voteB.blockHash ∧ evidence.height ≤ currentHeight ∧
      currentHeight ≤ evidence.height + evidenceValidityWindowBlocks := by
  simp only [checkEvidence, bind_eq_ok, require_eq_ok, Unique.exists_iff, Bool.and_eq_true,
    Bool.not_eq_true', Bool.and_eq_false_iff, decide_eq_true_eq, decide_eq_false_iff_not]
  constructor
  · rintro ⟨heights, rounds, steps, hashes, _, past, window⟩
    exact ⟨heights, rounds, steps, hashes, past, by omega⟩
  · rintro ⟨heights, rounds, steps, hashes, past, window⟩
    refine ⟨heights, rounds, steps, hashes, ?_, past, by omega⟩
    -- Two different hashes are not both nil.
    by_cases nilA : evidence.voteA.blockHash = nilHash
    · exact .inr fun nilB => hashes (nilA.trans nilB.symm)
    · exact .inl nilA

theorem step_of_known {step : Nat} (known : step = 1 ∨ step = 2) :
    ∃ named : VoteStep, step = named.asU8.val := by
  rcases known with rfl | rfl
  · exact ⟨.prevote, rfl⟩
  · exact ⟨.precommit, rfl⟩

theorem applySubmitEquivocationEvidence_iff {payload : Bytes} {currentHeight : Nat} :
    (∃ next, applySubmitEquivocationEvidence env store payload currentHeight verifier = .ok next) ↔
      ∃ evidence, decodeEquivocationEvidence env payload = .ok evidence ∧
        DoubleVote env verifier store evidence currentHeight := by
  simp only [applySubmitEquivocationEvidence, bind_eq_ok, okOr_eq_ok, require_eq_ok, pure_eq_ok,
    mapError_eq_ok, Bool.not_eq_true', Unique.exists_iff]
  constructor
  · rintro ⟨_, evidence, decoded, checked, record, found, alive, signedA, signedB, _⟩
    obtain ⟨heights, rounds, steps, hashes, recent⟩ := checkEvidence_eq_ok.mp checked
    obtain ⟨step, stepA⟩ := step_of_known (decodeEquivocationEvidence_known decoded).1
    have stepB : evidence.voteB.step = step.asU8.val := steps ▸ stepA
    exact ⟨evidence, decoded, heights, rounds, hashes, recent, record, step, found, alive, stepA,
      stepB, (verifyVoteSignature_iff stepA).mp signedA, (verifyVoteSignature_iff stepB).mp signedB⟩
  · rintro ⟨evidence, decoded, double⟩
    obtain ⟨record, step, found, alive, stepA, stepB, signedA, signedB⟩ := double.accused
    have checked := checkEvidence_eq_ok.mpr ⟨double.heights, double.rounds, stepA.trans stepB.symm,
      double.hashes, double.recent⟩
    exact ⟨_, evidence, decoded, checked, record, found, alive,
      (verifyVoteSignature_iff stepA).mpr signedA, (verifyVoteSignature_iff stepB).mpr signedB, rfl⟩

end Rules

section Honesty

/-- The holder of the consensus key of a record has not signed two hashes at one height, round
and step. `signed` says which messages were signed with which key. -/
def SignsOnce (env : Env) (signed : PublicKey → Bytes → Prop) (record : ValidatorRecord) : Prop :=
  ∀ height round step left right,
    signed ⟨record.consensusAlgId, record.consensusPk⟩
      (votePreimage env (.viperResearch1 env) height round step left).data →
    signed ⟨record.consensusAlgId, record.consensusPk⟩
      (votePreimage env (.viperResearch1 env) height round step right).data → left = right

theorem DoubleVote.not_signsOnce {signed : PublicKey → Bytes → Prop}
    (unforgeable : ∀ key message signature, verifier key message signature = .ok () →
      signed key message) {evidence : EquivocationEvidence} {currentHeight : Nat}
    (double : DoubleVote env verifier store evidence currentHeight) {record : ValidatorRecord}
    (found : store.getValidator evidence.validatorAddress = some record) :
    ¬ SignsOnce env signed record := by
  intro once
  obtain ⟨_, step, present, _, _, _, signedA, signedB⟩ := double.accused
  obtain rfl := Option.some.inj (present.symm.trans found)
  have left := unforgeable _ _ _ signedA
  have right := unforgeable _ _ _ signedB
  rw [double.heights.1] at left
  rw [double.heights.2, ← double.rounds] at right
  exact double.hashes (once _ _ _ _ _ left right)

theorem applySubmitEquivocationEvidence_spares {payload : Bytes} {currentHeight : Nat}
    {next : StateStore}
    (applied : applySubmitEquivocationEvidence env store payload currentHeight verifier = .ok next) :
    ∃ evidence, decodeEquivocationEvidence env payload = .ok evidence ∧
      ∀ operator, operator ≠ evidence.validatorAddress →
        next.getValidator operator = store.getValidator operator := by
  simp only [applySubmitEquivocationEvidence, bind_eq_ok, okOr_eq_ok, require_eq_ok, pure_eq_ok,
    mapError_eq_ok] at applied
  obtain ⟨evidence, decoded, _, _, record, _, _, _, _, _, _, _, rfl⟩ := applied
  refine ⟨evidence, decoded, fun operator other => ?_⟩
  have credited : ∀ (slashed : StateStore) (amount : Nat),
      (creditTreasury env slashed amount).validators = slashed.validators := fun slashed amount =>
    (creditAccount_grows slashed treasuryAddress amount).validators
  have pruned : ∀ cutoff, (store.pruneRecentSlashesBefore env cutoff).validators =
      store.validators := by
    intro cutoff
    unfold StateStore.pruneRecentSlashesBefore
    dsimp only
    split <;> rfl
  simp only [StateStore.getValidator, StateStore.recordRecentSlash, credited,
    StateStore.commitValidatorMutation, StateStore.modifyValidator, get?_commit, get?_modify,
    if_neg other.symm, pruned]

end Honesty

/-- Evidence is accepted exactly when it proves a double vote; so whoever signs one hash at a
height, round and step is never slashed, whatever is submitted. -/
theorem equivocationEvidence_accepted_iff (env : Env) (faithful : FaithfulCbor env)
    (store : StateStore) (verifier : SignatureVerifier) (evidence : EquivocationEvidence)
    (inRange : evidence.InRange) (currentHeight : Nat) (payload : Bytes)
    (encoded : env.cborEncode (encodeEquivocationEvidence evidence) = .ok payload) :
    ((∃ next, applySubmitEquivocationEvidence env store payload currentHeight verifier = .ok next) ↔
      DoubleVote env verifier store evidence currentHeight) ∧
    ∀ signed : PublicKey → Bytes → Prop,
      (∀ key message signature, verifier key message signature = .ok () → signed key message) →
      ∀ operator record, store.getValidator operator = some record → SignsOnce env signed record →
        ∀ submitted height next,
          applySubmitEquivocationEvidence env store submitted height verifier = .ok next →
            next.getValidator operator = some record := by
  constructor
  · rw [applySubmitEquivocationEvidence_iff]
    constructor
    · rintro ⟨read, decoded, double⟩
      obtain ⟨_, _, rfl⟩ := (decodeEquivocationEvidence_encode faithful inRange encoded).mp decoded
      exact double
    · intro double
      obtain ⟨_, step, _, _, stepA, stepB, _⟩ := double.accused
      have known : step.asU8.val = 1 ∨ step.asU8.val = 2 := by cases step <;> decide
      exact ⟨evidence, (decodeEquivocationEvidence_encode faithful inRange encoded).mpr
        ⟨stepA ▸ known, stepB ▸ known, rfl⟩, double⟩
  · intro signed unforgeable operator record found once submitted height next applied
    obtain ⟨accusing, decoded, double⟩ := applySubmitEquivocationEvidence_iff.mp ⟨next, applied⟩
    obtain ⟨_, same, spares⟩ := applySubmitEquivocationEvidence_spares applied
    obtain rfl := Except.ok.inj (same.symm.trans decoded)
    rw [spares operator, found]
    rintro rfl
    exact double.not_signsOnce unforgeable found once

section Sample

def forgetfulVote (blockHash : Bytes32) : EquivocationVote where
  height := 3
  round := 1
  blockHash
  step := 2
  signature := (votePreimage sampleEnv (.viperResearch1 sampleEnv) 3 1 .precommit blockHash).data

def forgetfulEvidence : EquivocationEvidence :=
  ⟨author, 3, forgetfulVote (Bytes32.fill 1), forgetfulVote (Bytes32.fill 2)⟩

theorem equivocationEvidence_accepted_iff_sample :
    ∃ payload next, sampleEnv.cborEncode (encodeEquivocationEvidence forgetfulEvidence) = .ok payload ∧
      applySubmitEquivocationEvidence sampleEnv sampleGenesis payload 7 (pqVerifier sampleEnv) =
        .ok next := by
  have encoded : sampleEnv.cborEncode (encodeEquivocationEvidence forgetfulEvidence) =
      .ok (CborFormat.write (encodeEquivocationEvidence forgetfulEvidence)) := by decide +kernel
  have votes : ∀ blockHash, (forgetfulVote blockHash).InRange := fun blockHash =>
    ⟨show 3 < 2 ^ 64 by decide, show 1 < 2 ^ 32 by decide, show 2 < 2 ^ 8 by decide⟩
  have double : DoubleVote sampleEnv (pqVerifier sampleEnv) sampleGenesis forgetfulEvidence 7 := by
    refine ⟨⟨rfl, rfl⟩, rfl, by decide, ⟨by decide, by decide⟩,
      GenesisValidator.record ⟨author, [], .mlDsa65, []⟩, .precommit, ?_, rfl, rfl, rfl, ?_, ?_⟩
    · simp [sampleGenesis, forgetfulEvidence, StateStore.getValidator, StateStore.insertValidator,
        GenesisValidator.record]
    · unfold SignedBy
      decide +kernel
    · unfold SignedBy
      decide +kernel
  obtain ⟨next, applied⟩ := (equivocationEvidence_accepted_iff sampleEnv sampleEnv_faithful
    sampleGenesis (pqVerifier sampleEnv) forgetfulEvidence
    ⟨show 3 < 2 ^ 64 by decide, votes _, votes _⟩ 7 _ encoded).1.mpr double
  exact ⟨_, next, encoded, applied⟩

end Sample

end Slashing

end ViperChain
