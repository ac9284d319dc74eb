import ViperChain.State.Apply

/-!
What a successful payload can do to the store. The invariants of the state are proved against
`PayloadEffect` instead of against the handlers.
-/

namespace ViperChain

open Fallible

structure KeepsIdentity (change : Account → Account) : Prop where
  address : ∀ account, (change account).address = account.address
  balance : ∀ account, (change account).balance = account.balance
  nonce : ∀ account, (change account).nonce = account.nonce

structure NewKey (height : Nat) (keys : KeySet) (key : KeyEntry) : Prop where
  newer : maxKeyVersion keys < key.keyVersion
  started : key.status = initialKeyStatus height key.validFromHeight

inductive KeyChange (height : Nat) (keys : KeySet) : KeySet → Prop
  | kept : KeyChange height keys keys
  | added (key : KeyEntry) (new : NewKey height keys key) : KeyChange height keys (keys ++ [key])
  | rotated (version : Nat) (key : KeyEntry) (new : NewKey height keys key) :
      KeyChange height keys (revokeKey version keys ++ [key])
  | revoked (version : Nat) : KeyChange height keys (revokeKey version keys)

def ProposalEffect.BurnBounded : ProposalEffect → Prop
  | burnRateUpdate newBurnRateBps => newBurnRateBps ≤ 10000
  | _ => True

def slash (env : Env) (store : StateStore) (operator : Address) (amount height : Nat) : StateStore :=
  let slashed := (store.modifyValidator operator (Slashing.slashRecord amount))
    |>.commitValidatorMutation env operator
  (Slashing.creditTreasury env slashed amount).recordRecentSlash env ⟨height, amount⟩

def joinsActiveSet (tx : Transaction) : Bool :=
  tx.msgType = .validatorRegister || tx.msgType = .validatorUnjail

def namedAmount (env : Env) (tx : Transaction) : Nat :=
  match tx.msgType with
  | .tokenTransfer => ((decodeTokenTransferPayload env tx.payload).toOption.map Prod.snd).getD 0
  | .validatorRegister =>
      ((decodeRegisterPayload env tx.payload).toOption.map ValidatorRegisterPayload.selfBond).getD 0
  | _ => 0

def namedConsensusKey (env : Env) (tx : Transaction) : Option Bytes :=
  match tx.msgType with
  | .validatorRegister =>
      (decodeRegisterPayload env tx.payload).toOption.map ValidatorRegisterPayload.consensusPk
  | .consensusKeyRotate =>
      (decodeConsensusKeyRotatePayload env tx.payload).toOption.map fun payload => payload.2.1
  | _ => none

def registeredPeerId (env : Env) (tx : Transaction) : Option Bytes :=
  match tx.msgType with
  | .validatorRegister =>
      (decodeRegisterPayload env tx.payload).toOption.map ValidatorRegisterPayload.peerId
  | _ => none

structure RegistrationChecked (env : Env) (store : StateStore) (tx : Transaction)
    (record : ValidatorRecord) (peerId : Bytes) : Prop where
  kind : tx.msgType = .validatorRegister
  keyFree : store.consensusKeyInUse record.consensusPk = false
  peerFree : peerId.isEmpty = false → store.peerIdInUse peerId = false
  untombstoned : record.tombstoned = false
  key : namedConsensusKey env tx = some record.consensusPk
  peer : registeredPeerId env tx = some peerId

inductive StatusChecked (store : StateStore) (tx : Transaction) (record : ValidatorRecord) :
    ValidatorStatus → Prop
  | exit (start : Nat) (kind : tx.msgType = .validatorExit) (active : record.status = .active)
      (others : 1 < store.activeValidatorCount) : StatusChecked store tx record (.unbonding start)
  | unjail (jailed : record.status = .jailed) (untombstoned : record.tombstoned = false) :
      StatusChecked store tx record (admittedStatus store)

structure BindingChecked (store : StateStore) (tx : Transaction) (peerId : Bytes) : Prop where
  nonempty : peerId.isEmpty = false
  live : ∃ record, store.getValidator tx.sender = some record ∧ isRotatable record.status = true
  free : store.getValidatorPeerId tx.sender = some peerId ∨ store.peerIdInUse peerId = false

structure ProposalChecked (store : StateStore) (proposal : PendingProposal) : Prop where
  fresh : store.getPendingProposal proposal.proposalId = none
  voting : proposal.status = .voting
  unvoted : proposal.votes = ∅
  deadline : proposal.votingDeadline = satAdd64 store.blockHeight governanceVotingPeriod

structure VoteChecked (env : Env) (store : StateStore) (tx : Transaction) (id : Bytes32)
    (change : PendingProposal → PendingProposal) : Prop where
  kind : tx.msgType = .governanceVote
  cast : ∃ yes, decodeVotePayload env tx.payload = .ok (id, yes) ∧
    change = fun proposal => { proposal with votes := proposal.votes.insert tx.sender yes }
  ballot : ∃ proposal, store.getPendingProposal id = some proposal ∧ proposal.status = .voting ∧
    store.blockHeight ≤ proposal.votingDeadline ∧ proposal.votes.contains tx.sender = false
  active : store.isActiveValidator tx.sender = true

inductive PayloadEffect (env : Env) (store : StateStore) (tx : Transaction) : StateStore → Prop
  | createAccount (account : Account) (fresh : store.getAccount account.address = none)
      (empty : account.balance = 0) (unused : account.nonce = 0)
      (key : KeyEntry) (keyed : account.keys = [key])
      (started : key.status = initialKeyStatus store.blockHeight key.validFromHeight)
      (sound : account.checkInvariants = .ok ()) :
      PayloadEffect env store tx (store.insertAccount env account)
  | updateSender (change : Account → Account) (keeps : KeepsIdentity change) (sender : Account)
      (present : store.getAccount tx.sender = some sender)
      (keyed : KeyChange store.blockHeight sender.keys (change sender).keys)
      (sound : (change sender).checkInvariants = .ok () ∨ (change sender).keys = sender.keys ∧
        (change sender).checkInvariants = sender.checkInvariants) :
      PayloadEffect env store tx
        ((store.modifyAccount tx.sender change).commitAccountMutation env tx.sender)
  | transfer (sender : Account) (recipient : Address) (amount : Nat)
      (present : store.getAccount tx.sender = some sender) (covered : amount ≤ sender.balance)
      (different : tx.sender ≠ recipient) (named : amount = namedAmount env tx) :
      PayloadEffect env store tx
        (creditRecipient env (withdraw env store tx.sender amount) recipient amount)
  | register (sender : Account) (record : ValidatorRecord) (peerId : Bytes)
      (present : store.getAccount tx.sender = some sender)
      (covered : record.selfBond ≤ sender.balance) (operator : record.operator = tx.sender)
      (standing : record.status ≠ .exited)
      (available : (store.getValidator tx.sender).all isExited = true)
      (joins : joinsActiveSet tx = true) (placed : record.status = admittedStatus store)
      (named : record.selfBond = namedAmount env tx)
      (checked : RegistrationChecked env store tx record peerId) :
      PayloadEffect env store tx
        (admitValidator env (withdraw env store tx.sender record.selfBond) record peerId)
  | setStatus (record : ValidatorRecord) (status : ValidatorStatus)
      (present : store.getValidator tx.sender = some record) (standing : record.status ≠ .exited)
      (stays : status ≠ .exited)
      (placed : (∃ start, status = .unbonding start) ∨
        joinsActiveSet tx = true ∧ status = admittedStatus store)
      (checked : StatusChecked store tx record status) :
      PayloadEffect env store tx (setValidatorStatus env store tx.sender status)
  | bindPeer (peerId : Bytes) (checked : BindingChecked store tx peerId) :
      PayloadEffect env store tx (store.setValidatorPeerId env tx.sender peerId)
  | scheduleRotation (rotation : ConsensusKeyRotation) (kind : tx.msgType = .consensusKeyRotate)
      (operator : rotation.operator = tx.sender)
      (key : namedConsensusKey env tx = some rotation.newPkBytes) :
      PayloadEffect env store tx (store.insertConsensusKeyRotation env rotation)
  | slashed (record : ValidatorRecord) (evidence : Slashing.EquivocationEvidence) (cutoff : Nat)
      (kind : tx.msgType = .submitEquivocationEvidence)
      (decoded : Slashing.decodeEquivocationEvidence env tx.payload = .ok evidence)
      (present : store.getValidator evidence.validatorAddress = some record)
      (amount : Nat)
      (amount_eq : amount = Slashing.slashAmount (store.pruneRecentSlashesBefore env cutoff)
        record.selfBond store.blockHeight)
      (economics : env.tokenEconomics = true) (untombstoned : record.tombstoned = false)
      (window : cutoff = store.blockHeight - Slashing.correlationWindowBlocks) :
      PayloadEffect env store tx
        (slash env (store.pruneRecentSlashesBefore env cutoff) evidence.validatorAddress amount
          store.blockHeight)
  | anchor (record : ProofAnchor) : PayloadEffect env store tx (store.insertProofAnchor env record)
  | attest (record : Attestation) : PayloadEffect env store tx (store.insertAttestation env record)
  | archivalKey (key : ValidatorArchivalKey) :
      PayloadEffect env store tx (store.insertArchivalKey env key)
  | archive (record : ArchivalRecord) :
      PayloadEffect env store tx (store.insertArchivalRecord env record)
  | pushAnchor (epochNumber : Nat) (anchor : TimestampAnchor) :
      PayloadEffect env store tx (store.pushArchivalAnchor env epochNumber anchor)
  | renew (epochNumber : Nat) (ersBundleHash : Bytes32) (height : Nat) :
      PayloadEffect env store tx
        (store.incrementArchivalRecordVersion env epochNumber ersBundleHash height)
  | propose (proposal : PendingProposal) (bounded : proposal.effect.BurnBounded)
      (checked : ProposalChecked store proposal) :
      PayloadEffect env store tx (store.insertPendingProposal env proposal)
  | vote (id : Bytes32) (change : PendingProposal → PendingProposal)
      (keeps : ∀ proposal, (change proposal).effect = proposal.effect)
      (names : ∀ proposal, (change proposal).proposalId = proposal.proposalId)
      (checked : VoteChecked env store tx id change) :
      PayloadEffect env store tx
        ((store.modifyPendingProposal id change).commitProposalMutation env id)

variable {env : Env} {store next : StateStore} {tx : Transaction}

section Accounts

theorem applyVaultCreate_effect (applied : applyVaultCreate env store tx = .ok next) :
    PayloadEffect env store tx next := by
  simp only [applyVaultCreate, bind_eq_ok, okOr_eq_ok, require_eq_ok, pure_eq_ok,
    mapError_eq_ok] at applied
  obtain ⟨payload, _, algId, _, _, _, _, _, _, _, _, _, _, fresh, _, sound, rfl⟩ := applied
  exact .createAccount _ (Option.isNone_iff_eq_none.mp fresh) rfl rfl _ rfl rfl sound

theorem applyVaultPolicyUpdate_effect (applied : applyVaultPolicyUpdate env store tx = .ok next) :
    PayloadEffect env store tx next := by
  simp only [applyVaultPolicyUpdate, bind_eq_ok, okOr_eq_ok, require_eq_ok, pure_eq_ok] at applied
  obtain ⟨⟨policyVersion, policyHash⟩, _, sender, present, _, _, rfl⟩ := applied
  exact .updateSender _ ⟨fun _ => rfl, fun _ => rfl, fun _ => rfl⟩ sender present .kept
    (.inr ⟨rfl, rfl⟩)

theorem applyTokenTransfer_effect (kind : tx.msgType = .tokenTransfer)
    (applied : applyTokenTransfer env store tx = .ok next) :
    PayloadEffect env store tx next := by
  simp only [applyTokenTransfer, bind_eq_ok, okOr_eq_ok, require_eq_ok, pure_eq_ok,
    decide_eq_true_eq] at applied
  obtain ⟨⟨recipient, amount⟩, decoded, _, _, _, different, sender, present, _, covered, rfl⟩ :=
    applied
  exact .transfer sender recipient amount present covered different
    (by simp [namedAmount, kind, decoded, Except.toOption])

theorem replaceKeys_effect {sender : Account} {keys : KeySet}
    (present : store.getAccount tx.sender = some sender)
    (keyed : KeyChange store.blockHeight sender.keys keys)
    (applied : replaceKeys env store sender tx.sender keys = .ok next) :
    PayloadEffect env store tx next := by
  simp only [replaceKeys, ensureAccountInvariants, bind_eq_ok, mapError_eq_ok, pure_eq_ok] at applied
  obtain ⟨_, sound, rfl⟩ := applied
  exact .updateSender _ ⟨fun _ => rfl, fun _ => rfl, fun _ => rfl⟩ sender present keyed (.inl sound)

theorem buildNewKeyEntry_started {payload : NewKeyPayload} {key : KeyEntry}
    (built : buildNewKeyEntry store payload = .ok key) :
    key.status = initialKeyStatus store.blockHeight key.validFromHeight := by
  simp only [buildNewKeyEntry, bind_eq_ok, pure_eq_ok] at built
  obtain ⟨_, _, _, _, _, _, _, _, _, _, _, _, rfl⟩ := built
  rfl

theorem applyKeyAdd_effect (applied : applyKeyAdd env store tx = .ok next) :
    PayloadEffect env store tx next := by
  simp only [applyKeyAdd, bind_eq_ok, okOr_eq_ok, require_eq_ok, Bool.and_eq_true,
    decide_eq_true_eq] at applied
  obtain ⟨_, _, key, built, sender, present, _, ⟨_, newer⟩, replaced⟩ := applied
  exact replaceKeys_effect present (.added key ⟨newer, buildNewKeyEntry_started built⟩) replaced

theorem applyKeyRotate_effect (applied : applyKeyRotate env store tx = .ok next) :
    PayloadEffect env store tx next := by
  simp only [applyKeyRotate, bind_eq_ok, okOr_eq_ok, require_eq_ok, Bool.and_eq_true,
    decide_eq_true_eq] at applied
  obtain ⟨⟨payload, revokeKeyVersion⟩, _, key, built, sender, present, _, ⟨_, newer⟩, _, _, _, _, _, _, _,
    _, replaced⟩ := applied
  exact replaceKeys_effect present
    (.rotated revokeKeyVersion key ⟨newer, buildNewKeyEntry_started built⟩) replaced

theorem applyKeyRevoke_effect (applied : applyKeyRevoke env store tx = .ok next) :
    PayloadEffect env store tx next := by
  simp only [applyKeyRevoke, bind_eq_ok, okOr_eq_ok] at applied
  obtain ⟨version, _, _, _, sender, present, _, _, _, _, replaced⟩ := applied
  exact replaceKeys_effect present (.revoked version) replaced

end Accounts

section Validators

theorem admittedStatus_ne_exited (store : StateStore) : admittedStatus store ≠ .exited := by
  unfold admittedStatus
  split <;> simp

theorem applyValidatorRegister_effect (kind : tx.msgType = .validatorRegister)
    (applied : applyValidatorRegister env store tx = .ok next) :
    PayloadEffect env store tx next := by
  simp only [applyValidatorRegister, bind_eq_ok, okOr_eq_ok, require_eq_ok, pure_eq_ok,
    decide_eq_true_eq] at applied
  obtain ⟨payload, decoded, algId, _, _, _, _, _, _, _, _, _, _, available, _, keyFree, _, _, _,
    peerFree, sender, present, _, covered, rfl⟩ := applied
  refine .register sender (newValidatorRecord _ tx.sender algId payload) payload.peerId present
    covered rfl (admittedStatus_ne_exited _) available (by simp [joinsActiveSet, kind]) rfl
    (by simp [namedAmount, kind, decoded, Except.toOption, newValidatorRecord]) ?_
  exact
    { kind
      keyFree := by simpa [newValidatorRecord] using keyFree
      peerFree := fun named => by simpa [named] using peerFree
      untombstoned := rfl
      key := by simp [namedConsensusKey, kind, decoded, Except.toOption, newValidatorRecord]
      peer := by simp [registeredPeerId, kind, decoded, Except.toOption] }

theorem applyValidatorExit_effect (kind : tx.msgType = .validatorExit)
    (applied : applyValidatorExit env store tx = .ok next) :
    PayloadEffect env store tx next := by
  simp only [applyValidatorExit, bind_eq_ok, okOr_eq_ok, require_eq_ok, pure_eq_ok,
    decide_eq_true_eq] at applied
  obtain ⟨record, present, _, active, _, others, rfl⟩ := applied
  exact .setStatus record _ present (by simp [active]) (by simp) (.inl ⟨_, rfl⟩)
    (.exit _ kind active others)

theorem applyValidatorUnjail_effect (kind : tx.msgType = .validatorUnjail)
    (applied : applyValidatorUnjail env store tx = .ok next) :
    PayloadEffect env store tx next := by
  simp only [applyValidatorUnjail, bind_eq_ok, okOr_eq_ok, require_eq_ok, pure_eq_ok,
    decide_eq_true_eq] at applied
  obtain ⟨record, present, _, untombstoned, _, jailed, rfl⟩ := applied
  exact .setStatus record _ present (by simp [jailed]) (admittedStatus_ne_exited _)
    (.inr ⟨by simp [joinsActiveSet, kind], rfl⟩) (.unjail jailed (by simpa using untombstoned))

theorem applyValidatorRotatePeerId_effect
    (applied : applyValidatorRotatePeerId env store tx = .ok next) :
    PayloadEffect env store tx next := by
  simp only [applyValidatorRotatePeerId, bind_eq_ok, okOr_eq_ok, require_eq_ok, pure_eq_ok,
    Bool.or_eq_true, decide_eq_true_eq, Bool.not_eq_true'] at applied
  obtain ⟨peerId, _, _, nonempty, _, _, record, present, _, rotatable, _, free, rfl⟩ := applied
  exact .bindPeer peerId ⟨nonempty, ⟨record, present, rotatable⟩, free⟩

theorem applyConsensusKeyRotate_effect (kind : tx.msgType = .consensusKeyRotate)
    (applied : applyConsensusKeyRotate env store tx = .ok next) :
    PayloadEffect env store tx next := by
  simp only [applyConsensusKeyRotate, bind_eq_ok, pure_eq_ok] at applied
  obtain ⟨⟨algIdRaw, pkBytes, startHeight⟩, decoded, _, _, _, _, _, _, _, _, _, _, rfl⟩ := applied
  exact .scheduleRotation _ kind rfl (by simp [namedConsensusKey, kind, decoded, Except.toOption])

theorem applySubmitEquivocationEvidence_effect {verifier : SignatureVerifier}
    (kind : tx.msgType = .submitEquivocationEvidence) (economics : env.tokenEconomics = true)
    (applied : Slashing.applySubmitEquivocationEvidence env store tx.payload store.blockHeight
      verifier = .ok next) :
    PayloadEffect env store tx next := by
  simp only [Slashing.applySubmitEquivocationEvidence, bind_eq_ok, okOr_eq_ok, require_eq_ok,
    pure_eq_ok, mapError_eq_ok] at applied
  obtain ⟨evidence, decoded, _, _, record, present, _, untombstoned, _, _, _, _, rfl⟩ := applied
  exact .slashed record evidence _ kind decoded present _ rfl economics (by simpa using untombstoned)
    rfl

end Validators

section Records

theorem applyProofAnchor_effect (applied : applyProofAnchor env store tx = .ok next) :
    PayloadEffect env store tx next := by
  simp only [applyProofAnchor, bind_eq_ok, pure_eq_ok] at applied
  obtain ⟨_, _, _, _, _, _, _, _, _, _, _, _, rfl⟩ := applied
  exact .anchor _

theorem applyAttestationCreate_effect (applied : applyAttestationCreate env store tx = .ok next) :
    PayloadEffect env store tx next := by
  simp only [applyAttestationCreate, bind_eq_ok, pure_eq_ok] at applied
  obtain ⟨_, _, _, _, _, _, _, _, _, _, _, _, _, _, _, _, _, _, rfl⟩ := applied
  exact .attest _

theorem applyAttestationRevoke_effect (applied : applyAttestationRevoke env store tx = .ok next) :
    PayloadEffect env store tx next := by
  simp only [applyAttestationRevoke, bind_eq_ok, pure_eq_ok] at applied
  obtain ⟨_, _, _, _, _, _, _, _, _, _, rfl⟩ := applied
  exact .attest _

theorem applyValidatorRegisterArchivalKey_effect
    (applied : applyValidatorRegisterArchivalKey env store tx = .ok next) :
    PayloadEffect env store tx next := by
  simp only [applyValidatorRegisterArchivalKey, bind_eq_ok, pure_eq_ok] at applied
  obtain ⟨⟨archivalAlgId, archivalPk⟩, _, _, _, _, _, _, _, _, _, _, _, rfl⟩ := applied
  exact .archivalKey _

theorem applyArchivalRecordSubmit_effect {verifier : SignatureVerifier} {height : Nat}
    (applied : applyArchivalRecordSubmit env store tx height verifier = .ok next) :
    PayloadEffect env store tx next := by
  simp only [applyArchivalRecordSubmit, bind_eq_ok, pure_eq_ok] at applied
  obtain ⟨_, _, _, _, _, _, _, _, _, _, _, _, _, _, rfl⟩ := applied
  exact .archive _

theorem applyArchivalRecordAddAnchor_effect {height : Nat}
    (applied : applyArchivalRecordAddAnchor env store tx height = .ok next) :
    PayloadEffect env store tx next := by
  simp only [applyArchivalRecordAddAnchor, bind_eq_ok, pure_eq_ok] at applied
  obtain ⟨_, _, _, _, _, _, _, _, _, _, _, _, _, _, _, _, rfl⟩ := applied
  exact .pushAnchor _ _

theorem applyArchivalRecordRenew_effect {height : Nat}
    (applied : applyArchivalRecordRenew env store tx height = .ok next) :
    PayloadEffect env store tx next := by
  simp only [applyArchivalRecordRenew, bind_eq_ok, pure_eq_ok] at applied
  obtain ⟨⟨epochNumber, ersBundleHash⟩, _, _, _, _, _, rfl⟩ := applied
  exact .renew _ _ _

end Records

section Governance

theorem proposalField_burnRate {key : Int} {value : Value} {fields next : ProposalFields}
    (bounded : ∀ bps, fields.newBurnRateBps = some bps → bps ≤ 10000)
    (stepped : proposalField key value fields = .ok next) :
    ∀ bps, next.newBurnRateBps = some bps → bps ≤ 10000 := by
  intro bps asked
  -- field 7 checks the rate itself; every other field leaves it alone
  unfold proposalField at stepped
  split at stepped <;>
    simp only [burnRateField, bind_eq_ok, require_eq_ok, pure_eq_ok, Payload.unknownKey,
      decide_eq_true_eq, reduceCtorEq] at stepped
  all_goals first
    | exact (stepped : False).elim
    | (subst stepped; exact bounded bps asked)
    | (obtain ⟨_, _, rfl⟩ := stepped; exact bounded bps asked)
    | (obtain ⟨_, _, _, _, rfl⟩ := stepped; exact bounded bps asked)
    | (obtain ⟨_, ⟨_, _, _, checked, rfl⟩, rfl⟩ := stepped; cases asked; exact checked)

theorem decodeProposalPayload_burnBounded {payload : Bytes} {decoded : ProposalPayload}
    (accepted : decodeProposalPayload env payload = .ok decoded) : decoded.effect.BurnBounded := by
  simp only [decodeProposalPayload, bind_eq_ok, pure_eq_ok] at accepted
  obtain ⟨fields, walked, _, _, _, _, proposalType, _, effect, built, rfl⟩ := accepted
  have bounded : ∀ bps, fields.newBurnRateBps = some bps → bps ≤ 10000 :=
    Payload.strictFields_invariant (by simp)
      (fun _ _ _ _ holding stepped => proposalField_burnRate holding stepped) walked
  cases proposalType with
  | burnRateUpdate =>
      simp only [proposalEffect, Payload.required, bind_eq_ok, okOr_eq_ok, pure_eq_ok] at built
      obtain ⟨bps, asked, rfl⟩ := built
      exact bounded bps asked
  | registryUpdate =>
      simp only [proposalEffect, registryUpdateEffect, bind_eq_ok, pure_eq_ok] at built
      obtain ⟨_, _, _, _, _, _, rfl⟩ := built
      trivial
  | feeParamUpdate =>
      simp only [proposalEffect, bind_eq_ok, pure_eq_ok] at built
      obtain ⟨_, _, rfl⟩ := built
      trivial
  | softwareUpgrade =>
      simp only [proposalEffect, bind_eq_ok, pure_eq_ok] at built
      obtain ⟨_, _, _, _, rfl⟩ := built
      trivial
  | addAlgorithm =>
      simp only [proposalEffect, addAlgorithmEffect, bind_eq_ok, pure_eq_ok] at built
      obtain ⟨_, _, _, _, _, _, _, _, _, _, _, _, _, _, rfl⟩ := built
      trivial
  | addSlashingVerifier =>
      simp only [proposalEffect, addSlashingVerifierEffect, bind_eq_ok, pure_eq_ok] at built
      obtain ⟨_, _, _, _, _, _, _, _, _, _, rfl⟩ := built
      trivial
  | addHash =>
      simp only [proposalEffect, addHashEffect, bind_eq_ok, pure_eq_ok] at built
      obtain ⟨_, _, _, _, _, _, _, _, _, _, _, _, rfl⟩ := built
      trivial
  | addAuthTemplate => simp [proposalEffect] at built

theorem applyGovernanceProposal_effect (applied : applyGovernanceProposal env store tx = .ok next) :
    PayloadEffect env store tx next := by
  simp only [applyGovernanceProposal, bind_eq_ok, require_eq_ok, pure_eq_ok] at applied
  obtain ⟨_, _, _, fresh, payload, decoded, rfl⟩ := applied
  exact .propose _ (decodeProposalPayload_burnBounded decoded)
    ⟨Option.isNone_iff_eq_none.mp fresh, rfl, rfl, rfl⟩

theorem applyGovernanceVote_effect (kind : tx.msgType = .governanceVote)
    (applied : applyGovernanceVote env store tx = .ok next) :
    PayloadEffect env store tx next := by
  simp only [applyGovernanceVote, bind_eq_ok, okOr_eq_ok, require_eq_ok, pure_eq_ok,
    decide_eq_true_eq, Bool.not_eq_true'] at applied
  obtain ⟨⟨id, voteYes⟩, decoded, proposal, present, _, voting, _, inTime, _, active, _, unvoted,
    rfl⟩ := applied
  exact .vote id _ (fun _ => rfl) (fun _ => rfl)
    ⟨kind, ⟨voteYes, decoded, rfl⟩, ⟨proposal, present, voting, inTime, unvoted⟩, active⟩

end Governance

section Execution

theorem applyPayload_effect (applied : applyPayload env store tx = .ok next) :
    PayloadEffect env store tx next := by
  unfold applyPayload at applied
  cases kind : tx.msgType <;> simp only [kind] at applied
  case vaultCreate => exact applyVaultCreate_effect applied
  case vaultPolicyUpdate => exact applyVaultPolicyUpdate_effect applied
  case tokenTransfer =>
    split at applied
    · exact applyTokenTransfer_effect kind applied
    · cases applied
  case attestationCreate => exact applyAttestationCreate_effect applied
  case attestationRevoke => exact applyAttestationRevoke_effect applied
  case proofAnchor => exact applyProofAnchor_effect applied
  case keyAdd => exact applyKeyAdd_effect applied
  case keyRotate => exact applyKeyRotate_effect applied
  case keyRevoke => exact applyKeyRevoke_effect applied
  case consensusKeyRotate => exact applyConsensusKeyRotate_effect kind applied
  case governanceProposal => exact applyGovernanceProposal_effect applied
  case governanceVote => exact applyGovernanceVote_effect kind applied
  case validatorRegister => exact applyValidatorRegister_effect kind applied
  case validatorExit => exact applyValidatorExit_effect kind applied
  case validatorUnjail => exact applyValidatorUnjail_effect kind applied
  case submitEquivocationEvidence =>
    split at applied
    case isTrue economics => exact applySubmitEquivocationEvidence_effect kind economics applied
    case isFalse => cases applied
  case validatorRotatePeerId => exact applyValidatorRotatePeerId_effect applied
  case validatorRegisterArchivalKey => exact applyValidatorRegisterArchivalKey_effect applied
  case archivalRecordSubmit => exact applyArchivalRecordSubmit_effect applied
  case archivalRecordAddAnchor => exact applyArchivalRecordAddAnchor_effect applied
  case archivalRecordRenew => exact applyArchivalRecordRenew_effect applied

structure Settled (env : Env) (working : StateStore) (tx : Transaction) (debit : Nat)
    (next : StateStore) : Prop where
  covered : ∃ sender, working.getAccount tx.sender = some sender ∧ debit ≤ sender.balance
  next_eq : next =
    (working.modifyAccount tx.sender (Account.settle debit)).commitAccountMutation env tx.sender

theorem settleSender_settled {working : StateStore} {fee : Nat}
    (settled : settleSender env working tx fee = .ok next) :
    Settled env working tx (satAdd128 fee tx.feeTip) next := by
  simp only [settleSender, bind_eq_ok, okOr_eq_ok, require_eq_ok, pure_eq_ok,
    decide_eq_true_eq] at settled
  obtain ⟨sender, present, _, covered, rfl⟩ := settled
  exact ⟨⟨sender, present, covered⟩, rfl⟩

/-- An executed transaction ran its payload, or ran out of gas and changed nothing, and
then its sender was settled. -/
theorem applyTx_cases {context : ExecutionContext} {result : ExecutionResult}
    (executed : applyTx env store tx context = .ok (next, result)) :
    ∃ working, Settled env working tx (satAdd128 result.feeCharged tx.feeTip) next ∧
      (working = store ∨ PayloadEffect env store tx working) := by
  simp only [applyTx] at executed
  split at executed
  · simp only [bind_eq_ok, pure_eq_ok, Prod.mk.injEq] at executed
    obtain ⟨settled, ran, rfl, rfl⟩ := executed
    exact ⟨store, settleSender_settled ran, .inl rfl⟩
  · simp only [bind_eq_ok, pure_eq_ok, Prod.mk.injEq] at executed
    obtain ⟨working, applied, settled, ran, rfl, rfl⟩ := executed
    exact ⟨working, settleSender_settled ran, .inr (applyPayload_effect applied)⟩

end Execution

section Frames

def StateStore.governed (store next : StateStore) : StateStore :=
  { store with
    algRegistry := next.algRegistry
    governanceReceipts := next.governanceReceipts
    pendingProposals := next.pendingProposals
    pendingUpgrades := next.pendingUpgrades
    slashingRegistry := next.slashingRegistry
    hashRegistry := next.hashRegistry
    feeMarket := next.feeMarket
    feeMarketLeafHash := next.feeMarketLeafHash }

structure SameTerms (store next : StateStore) : Prop where
  blockHeight : next.blockHeight = store.blockHeight
  chainId : next.chainId = store.chainId
  feeMarket : next.feeMarket = store.feeMarket
  algRegistry : next.algRegistry = store.algRegistry

theorem creditAccount_frame (store : StateStore) (address : Address) (amount : Nat) :
    ∃ accounts, creditAccount env store address amount = { store with accounts } := by
  unfold creditAccount
  repeat' split
  all_goals exact ⟨_, rfl⟩

theorem creditRecipient_frame (store : StateStore) (recipient : Address) (amount : Nat) :
    ∃ accounts, creditRecipient env store recipient amount = { store with accounts } := by
  unfold creditRecipient
  split <;> exact ⟨_, rfl⟩

theorem setValidatorPeerId_frame (store : StateStore) (operator : Address) (peerId : Bytes) :
    ∃ peerIdBindings, store.setValidatorPeerId env operator peerId =
      { store with peerIdBindings } := by
  unfold StateStore.setValidatorPeerId
  split <;> exact ⟨_, rfl⟩

theorem admitValidator_frame (store : StateStore) (record : ValidatorRecord) (peerId : Bytes) :
    ∃ validators peerIdBindings, admitValidator env store record peerId =
      { store with validators, peerIdBindings } := by
  unfold admitValidator
  split
  · exact ⟨_, _, rfl⟩
  · obtain ⟨_, bound⟩ := @setValidatorPeerId_frame env (store.insertValidator env record)
      record.operator peerId
    exact ⟨_, _, bound⟩

theorem pruneRecentSlashesBefore_frame (store : StateStore) (cutoff : Nat) :
    ∃ recentSlashes recentSlashesLeafHash, store.pruneRecentSlashesBefore env cutoff =
      { store with recentSlashes, recentSlashesLeafHash } := by
  simp only [StateStore.pruneRecentSlashesBefore]
  split <;> exact ⟨_, _, rfl⟩

theorem slash_frame (store : StateStore) (operator : Address) (amount height cutoff : Nat) :
    ∃ accounts validators recentSlashes recentSlashesLeafHash,
      slash env (store.pruneRecentSlashesBefore env cutoff) operator amount height =
        { store with accounts, validators, recentSlashes, recentSlashesLeafHash } := by
  obtain ⟨_, _, pruned⟩ := @pruneRecentSlashesBefore_frame env store cutoff
  obtain ⟨_, credited⟩ := @creditAccount_frame env
    (((store.pruneRecentSlashesBefore env cutoff).modifyValidator operator
      (Slashing.slashRecord amount)).commitValidatorMutation env operator)
    Slashing.treasuryAddress amount
  simp only [slash, Slashing.creditTreasury, credited]
  rw [pruned]
  exact ⟨_, _, _, _, rfl⟩

theorem PayloadEffect.sameTerms (effect : PayloadEffect env store tx next) :
    SameTerms store next := by
  cases effect with
  | transfer sender recipient amount =>
      obtain ⟨_, credited⟩ := @creditRecipient_frame env (withdraw env store tx.sender amount)
        recipient amount
      exact credited ▸ ⟨rfl, rfl, rfl, rfl⟩
  | register sender record peerId =>
      obtain ⟨_, _, admitted⟩ := @admitValidator_frame env
        (withdraw env store tx.sender record.selfBond) record peerId
      exact admitted ▸ ⟨rfl, rfl, rfl, rfl⟩
  | bindPeer peerId =>
      obtain ⟨_, bound⟩ := @setValidatorPeerId_frame env store tx.sender peerId
      exact bound ▸ ⟨rfl, rfl, rfl, rfl⟩
  | slashed record evidence cutoff _ _ _ amount =>
      obtain ⟨_, _, _, _, cut⟩ := @slash_frame env store evidence.validatorAddress amount
        store.blockHeight cutoff
      exact cut ▸ ⟨rfl, rfl, rfl, rfl⟩
  | createAccount | updateSender | setStatus | scheduleRotation | anchor | attest | archivalKey
  | archive | pushAnchor | renew | propose | vote => exact ⟨rfl, rfl, rfl, rfl⟩

theorem applyTx_sameTerms {context : ExecutionContext} {result : ExecutionResult}
    (executed : applyTx env store tx context = .ok (next, result)) : SameTerms store next := by
  obtain ⟨working, settled, ran⟩ := applyTx_cases executed
  obtain rfl := settled.next_eq
  rcases ran with rfl | effect
  · exact ⟨rfl, rfl, rfl, rfl⟩
  · have same := effect.sameTerms
    exact ⟨same.blockHeight, same.chainId, same.feeMarket, same.algRegistry⟩

theorem distributeBlockFees_invariant {motive : StateStore → Prop}
    (credited : ∀ current address amount, motive current →
      motive (creditAccount env current address amount))
    (start : motive store) (proposer : Address) (fees : Nat) (pool : List Address)
    (params : FeeDistributionParams) :
    motive (distributeBlockFees env store proposer fees pool params) := by
  simp only [distributeBlockFees, distributeToPool]
  have burnt : motive (if burnAmount store fees > 0 then
      creditAccount env store zeroAddress (burnAmount store fees) else store) := by
    split
    · exact credited _ _ _ start
    · exact start
  split
  · exact start
  · split
    · exact burnt
    · split
      · exact credited _ _ _ burnt
      · split
        · exact List.foldlRecOn pool _ (credited _ _ _ burnt) fun _ paid _ _ => credited _ _ _ paid
        · exact credited _ _ _ burnt

theorem distributeBlockFees_frame (store : StateStore) (proposer : Address) (fees : Nat)
    (pool : List Address) (params : FeeDistributionParams) :
    ∃ accounts, distributeBlockFees env store proposer fees pool params =
      { store with accounts } := by
  refine distributeBlockFees_invariant (motive := fun current =>
    ∃ accounts, current = { store with accounts }) ?_ ⟨_, rfl⟩ proposer fees pool params
  rintro _ address amount ⟨_, rfl⟩
  obtain ⟨_, credited⟩ := @creditAccount_frame env _ address amount
  exact ⟨_, credited⟩

theorem executeEffect_frame (store : StateStore) (proposal : PendingProposal) (height : Nat) :
    (executeEffect env store proposal height).1 =
      store.governed (executeEffect env store proposal height).1 := by
  unfold executeEffect executeRegistryUpdate executeAddAlgorithm executeAddSlashingVerifier
    executeAddHash executeAddAuthTemplate
  repeat' split
  all_goals rfl

theorem tallyOne_frame (store : StateStore) (id : Bytes32) (height : Nat) :
    tallyOne env store id height = store.governed (tallyOne env store id height) := by
  unfold tallyOne
  split
  · rfl
  · simp only
    split
    · rw [executeEffect_frame]
      rfl
    · rfl

theorem processGovernanceTallies_frame (store : StateStore) (height : Nat) :
    processGovernanceTallies env store height =
      store.governed (processGovernanceTallies env store height) :=
  List.foldlRecOn _ _ (motive := fun current : StateStore => current = store.governed current) rfl
    fun current same id _ => by rw [tallyOne_frame, same]; rfl

theorem refundExpirations_frame (store : StateStore) (height : Nat) :
    ∃ accounts validators, refundExpirations env store height =
      { store with accounts, validators } := by
  refine List.foldlRecOn _ (refundExit env) (motive := fun current : StateStore =>
    ∃ accounts validators, current = { store with accounts, validators }) ⟨_, _, rfl⟩ ?_
  rintro _ ⟨_, _, rfl⟩ exit _
  exact ⟨_, _, rfl⟩

theorem activateRotations_frame (store : StateStore) (height : Nat) :
    ∃ validators consensusKeyRotations, store.activatePendingConsensusKeyRotations env height =
      { store with validators, consensusKeyRotations } := by
  refine List.foldlRecOn _ _ (motive := fun current : StateStore =>
    ∃ validators consensusKeyRotations, current = { store with validators, consensusKeyRotations })
    ⟨_, _, rfl⟩ ?_
  rintro _ ⟨_, _, rfl⟩ operator _
  unfold StateStore.activateRotation
  split <;> exact ⟨_, _, rfl⟩

theorem processEpochTransitions_frame (store : StateStore) (churn : ChurnConfig) :
    ∃ validators, store.processEpochTransitions env churn = { store with validators } := by
  refine List.foldlRecOn _ _ (motive := fun current : StateStore =>
    ∃ validators, current = { store with validators }) ⟨_, rfl⟩ ?_
  rintro _ ⟨_, rfl⟩ operator _
  unfold StateStore.activateValidator
  repeat' split
  all_goals exact ⟨_, rfl⟩

end Frames

end ViperChain
