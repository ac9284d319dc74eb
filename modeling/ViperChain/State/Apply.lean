import ViperChain.State.Apply.Accounts
import ViperChain.State.Apply.Validators
import ViperChain.State.Apply.Records
import ViperChain.State.Apply.Governance
import ViperChain.Tx.Validate

/-!
Execution of one transaction and the distribution of fees. `apply_tx` works on a copy, so a
failed call leaves the store; the envelope is checked by admission.
-/

namespace ViperChain

open Fallible

variable (env : Env)

structure FeeDistributionParams where
  proposerShareBps : Nat

inductive ExecutionStatus where
  | applied | revertedOutOfGas
deriving DecidableEq, Repr

structure ExecutionContext where
  txBytesLen : Nat
  feeParams : FeeParams

structure ExecutionResult where
  status : ExecutionStatus
  gasUsed : Nat
  feeCharged : Nat
  feeRefund : Nat
deriving DecidableEq

def scheduledGasForMsgType : MsgType → Nat
  | .tokenTransfer => 5
  | .vaultCreate => 10
  | .vaultPolicyUpdate => 6
  | .attestationCreate => 8
  | .attestationRevoke => 6
  | .proofAnchor => 7
  | .keyAdd => 12
  | .keyRotate => 15
  | .keyRevoke => 10
  | .governanceProposal => 18
  | .consensusKeyRotate => 15
  | .validatorRegister => 20
  | .validatorExit => 10
  | .validatorUnjail => 10
  | .validatorRotatePeerId => 10
  | .submitEquivocationEvidence => 30
  | .governanceVote => 5
  | .validatorRegisterArchivalKey => 15
  | .archivalRecordSubmit => 50
  | .archivalRecordAddAnchor => 8
  | .archivalRecordRenew => 12

/-- The verifier compiled into the handlers: without `pq-verifier` it accepts everything. -/
def handlerVerifier : SignatureVerifier :=
  if env.pqVerifierFeature then pqVerifier env else fun _ _ _ => .ok ()

def applyPayload (store : StateStore) (tx : Transaction) : Except ApplyError StateStore :=
  match tx.msgType with
  | .vaultCreate => applyVaultCreate env store tx
  | .vaultPolicyUpdate => applyVaultPolicyUpdate env store tx
  | .attestationCreate => applyAttestationCreate env store tx
  | .attestationRevoke => applyAttestationRevoke env store tx
  | .proofAnchor => applyProofAnchor env store tx
  | .tokenTransfer =>
      if env.tokenEconomics then applyTokenTransfer env store tx else .error .tokenEconomicsDisabled
  | .keyAdd => applyKeyAdd env store tx
  | .keyRotate => applyKeyRotate env store tx
  | .keyRevoke => applyKeyRevoke env store tx
  | .governanceProposal => applyGovernanceProposal env store tx
  | .governanceVote => applyGovernanceVote env store tx
  | .consensusKeyRotate => applyConsensusKeyRotate env store tx
  | .validatorRegister => applyValidatorRegister env store tx
  | .validatorExit => applyValidatorExit env store tx
  | .validatorUnjail => applyValidatorUnjail env store tx
  | .validatorRotatePeerId => applyValidatorRotatePeerId env store tx
  | .submitEquivocationEvidence =>
      if env.tokenEconomics then
        Slashing.applySubmitEquivocationEvidence env store tx.payload store.blockHeight
          (handlerVerifier env)
      else .error .tokenEconomicsDisabled
  | .validatorRegisterArchivalKey => applyValidatorRegisterArchivalKey env store tx
  | .archivalRecordSubmit =>
      applyArchivalRecordSubmit env store tx store.blockHeight (handlerVerifier env)
  | .archivalRecordAddAnchor => applyArchivalRecordAddAnchor env store tx store.blockHeight
  | .archivalRecordRenew => applyArchivalRecordRenew env store tx store.blockHeight

def Account.settle (totalDebit : Nat) (account : Account) : Account :=
  { account with balance := account.balance - totalDebit, nonce := account.nonce + 1 }

def settleSender (store : StateStore) (tx : Transaction) (feeCharged : Nat) :
    Except ApplyError StateStore := do
  let totalDebit := satAdd128 feeCharged tx.feeTip
  let sender ← okOr (store.getAccount tx.sender) .insufficientFunds
  require (totalDebit ≤ sender.balance) .insufficientFunds
  return (store.modifyAccount tx.sender (Account.settle totalDebit))
    |>.commitAccountMutation env tx.sender

def actualFee (store : StateStore) (tx : Transaction) (context : ExecutionContext) : Nat :=
  (actualFeeBreakdown tx context.txBytesLen (scheduledGasForMsgType tx.msgType) context.feeParams
    ((store.algMinFee tx.sigAlgId).getD 0)).total

def applyTx (store : StateStore) (tx : Transaction) (context : ExecutionContext) :
    Except ApplyError (StateStore × ExecutionResult) :=
  let scheduledGas := scheduledGasForMsgType tx.msgType
  if tx.gasLimit < scheduledGas then do
    let settled ← settleSender env store tx tx.fee
    return (settled, ⟨.revertedOutOfGas, tx.gasLimit, tx.fee, 0⟩)
  else do
    let working ← applyPayload env store tx
    let fee := actualFee store tx context
    let settled ← settleSender env working tx fee
    return (settled, ⟨.applied, scheduledGas, fee, tx.fee - fee⟩)

section Fees

def zeroAddress : Address := Bytes32.fill 0

def burnAmount (store : StateStore) (feesCollected : Nat) : Nat :=
  if store.feeMarket.burnRateBps > 0 then
    satMul128 feesCollected store.feeMarket.burnRateBps / 10000
  else 0

def distributeToPool (store : StateStore) (proposer : Address) (validatorFees : Nat)
    (poolValidators : List Address) (params : FeeDistributionParams) : StateStore :=
  let proposerBps := min params.proposerShareBps 10000
  let proposerPriority := satMul128 validatorFees proposerBps / 10000
  let poolTotal := validatorFees - proposerPriority
  let perValidator := poolTotal / poolValidators.length
  let poolDistributed := satMul128 perValidator poolValidators.length
  let remainder := poolTotal - poolDistributed
  let paid := creditAccount env store proposer (satAdd128 proposerPriority remainder)
  if perValidator > 0 then
    poolValidators.foldl (fun current address => creditAccount env current address perValidator) paid
  else paid

def distributeBlockFees (store : StateStore) (proposer : Address) (feesCollected : Nat)
    (poolValidators : List Address) (params : FeeDistributionParams) : StateStore :=
  if feesCollected = 0 then store
  else
    let burned := burnAmount store feesCollected
    let burnt := if burned > 0 then creditAccount env store zeroAddress burned else store
    let validatorFees := feesCollected - burned
    if validatorFees = 0 then burnt
    else if poolValidators.isEmpty then creditAccount env burnt proposer validatorFees
    else distributeToPool env burnt proposer validatorFees poolValidators params

end Fees

section Unbonding

def refundExit (store : StateStore) (exit : Address × Nat) : StateStore :=
  (store.modifyAccount exit.1 fun account =>
      { account with balance := satAdd128 account.balance exit.2 })
    |>.commitAccountMutation env exit.1

def refundExpirations (store : StateStore) (height : Nat) : StateStore :=
  let (expired, exits) := store.processValidatorUnbondingExpirations env height
  exits.foldl (refundExit env) expired

end Unbonding

end ViperChain
