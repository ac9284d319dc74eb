import ViperChain.Tx.Codec

/-!
Envelope validation at admission and the fee arithmetic shared with execution.
-/

namespace ViperChain

open Fallible

structure FeeParams where
  baseFee : Nat
  byteFee : Nat
  sigverifyFeeVA : Nat
  sigverifyFeeVB : Nat
  sigverifyFeeVC : Nat
  execFeePerGas : Nat
  baseFeeDynamic : Nat
deriving DecidableEq

structure FeeBreakdown where
  base : Nat
  bytes : Nat
  sigverify : Nat
  exec : Nat
deriving DecidableEq

def FeeBreakdown.total (fees : FeeBreakdown) : Nat :=
  satAdd64 (satAdd64 (satAdd64 fees.base fees.bytes) fees.sigverify) fees.exec

def laneMultiplierBps : MsgType → Nat
  | .validatorRegister | .validatorExit | .governanceProposal => 20000
  | _ => 10000

/-- The final cast to `u64` truncates. -/
def effectiveBaseFee (params : FeeParams) (msgType : MsgType) : Nat :=
  let dynamic := if params.baseFeeDynamic > 0 then params.baseFeeDynamic else params.baseFee
  satMul128 dynamic (laneMultiplierBps msgType) / 10000 % 2 ^ 64

def sigverifyFeeForAlg (algId : AlgId) (params : FeeParams) (registryMinFee : Nat) : Nat :=
  let classFee :=
    match algId with
    | .fnDsaPadded512 => params.sigverifyFeeVA
    | .slhDsaSha2128s => params.sigverifyFeeVC
    | _ => params.sigverifyFeeVB
  max classFee registryMinFee

def feeBreakdown (tx : Transaction) (rawBytesLen gas : Nat) (params : FeeParams)
    (registryMinFee : Nat) : FeeBreakdown where
  base := effectiveBaseFee params tx.msgType
  bytes := satMul64 params.byteFee rawBytesLen
  sigverify := sigverifyFeeForAlg tx.sigAlgId params registryMinFee
  exec := satMul64 params.execFeePerGas gas

def requiredFeeBreakdown (tx : Transaction) (rawBytesLen : Nat) (params : FeeParams)
    (registryMinFee : Nat) : FeeBreakdown :=
  feeBreakdown tx rawBytesLen tx.gasLimit params registryMinFee

def actualFeeBreakdown (tx : Transaction) (rawBytesLen gasUsed : Nat) (params : FeeParams)
    (registryMinFee : Nat) : FeeBreakdown :=
  feeBreakdown tx rawBytesLen (min gasUsed tx.gasLimit) params registryMinFee

structure ValidationContext where
  chainId : Bytes
  forkDigest : ForkDigest
  currentHeight : Nat
  senderAccount : Option Account
  feeParams : FeeParams
  verifier : SignatureVerifier
  algLifecycle : AlgId → Option Lifecycle
  algMinFee : AlgId → Option Nat

def maxTxBytes : Nat := 1048576

/-- The envelope checks of `validate_tx` that tie a transaction to its sender: the key the
sender registered under the claimed version, and the signature over the preimage. -/
def checkSignature (env : Env) (tx : Transaction) (forkDigest : ForkDigest) (currentHeight : Nat)
    (account : Account) (verifier : SignatureVerifier) : Except TxError Unit := do
  let keyEntry ← (account.keys.lookup tx.sigAlgId tx.sigKeyVersion
    tx.msgType.requiredPermissionBit currentHeight).mapError .keyLookupFailed
  let preimage ← (buildPreimage env forkDigest tx).mapError fun _ => TxError.encodingInvalid
  (verifier (KeySet.resolvePublicKey keyEntry) preimage ⟨tx.sigAlgId, tx.signature⟩).mapError
    fun _ => TxError.signatureInvalid

def validateTx (env : Env) (tx : Transaction) (rawBytes : Bytes) (context : ValidationContext) :
    Except TxError Unit := do
  require (rawBytes.length ≤ maxTxBytes) (.txTooLarge rawBytes.length)
  require (tx.txVersion = 1) (.versionUnsupported tx.txVersion)
  require (tx.chainId = context.chainId) .chainIdMismatch
  let lifecycle ← okOr (context.algLifecycle tx.sigAlgId) (.algorithmNotFound tx.sigAlgId.asU16)
  require lifecycle.admitsTransactions (.algorithmBanned tx.sigAlgId.asU16)
  let account ← okOr context.senderAccount .senderNotFound
  checkSignature env tx context.forkDigest context.currentHeight account context.verifier
  require (tx.nonce = account.nonce) (.nonceInvalid account.nonce tx.nonce)
  let registryMinFee ← okOr (context.algMinFee tx.sigAlgId) (.algorithmNotFound tx.sigAlgId.asU16)
  let fees := requiredFeeBreakdown tx rawBytes.length context.feeParams registryMinFee
  require (fees.total ≤ tx.fee)
    (.feeInsufficient tx.fee fees.total fees.base fees.bytes fees.sigverify fees.exec)
  let maxDebit := satAdd128 tx.fee tx.feeTip
  require (maxDebit ≤ account.balance) (.balanceInsufficient account.balance maxDebit)

theorem validateTx_authorised {env : Env} {tx : Transaction} {rawBytes : Bytes}
    {context : ValidationContext} (accepted : validateTx env tx rawBytes context = .ok ()) :
    ∃ account, context.senderAccount = some account ∧ tx.nonce = account.nonce ∧
      checkSignature env tx context.forkDigest context.currentHeight account context.verifier
        = .ok () := by
  simp only [validateTx, bind_eq_ok, require_eq_ok, okOr_eq_ok, decide_eq_true_eq] at accepted
  obtain ⟨_, _, _, _, _, _, _, _, _, _, account, present, _, signed, _, nonce, _⟩ := accepted
  exact ⟨account, present, nonce, signed⟩

end ViperChain
