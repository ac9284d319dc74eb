import ViperChain.Tx.Canonical

/-!
The wire form of a transaction. `encode_tx` leaves out a zero tip and wraps the signature;
`decode_tx` puts both back.
-/

namespace ViperChain

open Fallible TxCodec

variable {env : Env}

/-- The CBOR writer writes whatever CBOR can hold: integers of 65 bits with their sign, and
strings and collections of up to `2^64` parts. -/
structure CompleteCbor (env : Env) : Prop where
  writes : ∀ value, CborFormat.fits value = true → ∃ bytes, env.cborEncode value = .ok bytes

theorem sampleEnv_complete : CompleteCbor sampleEnv where
  writes value fitting := ⟨CborFormat.write value, by simp [sampleEnv, CborFormat.encode, fitting]⟩

theorem encodeSigEnvelope_ok {algId : AlgId} {signature : Bytes}
    (short : signature.length ≤ 65535) :
    ∃ envelope, encodeSigEnvelope algId signature = .ok envelope ∧
      envelope.length = signature.length + 5 := by
  unfold encodeSigEnvelope
  rw [if_neg (by omega)]
  refine ⟨_, rfl, ?_⟩
  simp only [toLeBytes, List.cons_append, List.length_cons, List.length_append, List.length_reverse,
    toBeBytes_length]
  omega

theorem fitsEntries_cons (key : Nat) (value : Value) (rest : List (Value × Value))
    (small : key < 2 ^ 64) :
    CborFormat.fitsEntries (entry key value :: rest) =
      (CborFormat.fits value && CborFormat.fitsEntries rest) := by
  have key_fits : CborFormat.fits (.integer (key : Int)) = true := by
    simp only [CborFormat.fits, Bool.and_eq_true, decide_eq_true_eq]
    omega
  simp [CborFormat.fitsEntries, entry, key_fits]

theorem fits_nat {number width : Nat} (small : number < 2 ^ width) (narrow : width ≤ 64) :
    CborFormat.fits (.integer (number : Int)) = true := by
  have bound : number < 2 ^ 64 := small.trans_le (Nat.pow_le_pow_right (by decide) narrow)
  simp only [CborFormat.fits, Bool.and_eq_true, decide_eq_true_eq]
  omega

theorem fits_envelope {tx : Transaction} {envelope : Bytes} (withTip : Bool) (inRange : tx.InRange)
    (chainId : tx.chainId.length < 2 ^ 64) (payload : tx.payload.length < 2 ^ 64)
    (sealed : envelope.length < 2 ^ 64) :
    CborFormat.fits (.map (envelopeEntries tx withTip ++ [entry 12 (.bytes envelope)])) = true := by
  have few : (envelopeEntries tx withTip ++ [entry 12 (.bytes envelope)]).length < 2 ^ 64 := by
    cases withTip <;> simp [envelopeEntries]
  have sender : tx.sender.data.length < 2 ^ 64 := by simp [tx.sender.length_eq]
  have txVersion := fits_nat inRange.txVersion (by decide)
  have nonce := fits_nat inRange.nonce (by decide)
  have fee := fits_nat inRange.fee (by decide)
  have feeTip := fits_nat inRange.feeTip (by decide)
  have gasLimit := fits_nat inRange.gasLimit (by decide)
  have sigKeyVersion := fits_nat inRange.sigKeyVersion (by decide)
  have msgType := fits_nat tx.msgType.asU16_lt (by decide)
  have sigAlgId := fits_nat tx.sigAlgId.asU16_lt (by decide)
  have string : ∀ content : Bytes, content.length < 2 ^ 64 →
      CborFormat.fits (.bytes content) = true := fun content short => by
    simpa [CborFormat.fits] using short
  rw [CborFormat.fits, Bool.and_eq_true, decide_eq_true_eq]
  refine ⟨few, ?_⟩
  have nothing : CborFormat.fitsEntries [] = true := rfl
  cases withTip <;>
    simp [envelopeEntries, fitsEntries_cons, nothing, txVersion, nonce, fee, feeTip, gasLimit,
      sigKeyVersion, msgType, sigAlgId, string _ chainId, string _ payload, string _ sealed,
      string _ sender]

/-- Every transaction whose signature and strings fit is written, and read back unchanged. -/
theorem transaction_roundTrip (env : Env) (faithful : FaithfulCbor env) (complete : CompleteCbor env)
    (tx : Transaction) (inRange : tx.InRange) (signature : tx.signature.length ≤ 65535)
    (chainId : tx.chainId.length < 2 ^ 64) (payload : tx.payload.length < 2 ^ 64) :
    ∃ bytes, encodeTx env tx = .ok bytes ∧ decodeTx env bytes = .ok tx := by
  obtain ⟨envelope, sealed, length⟩ := encodeSigEnvelope_ok signature
  obtain ⟨bytes, written⟩ := complete.writes _
    (fits_envelope (tx.feeTip ≠ 0) inRange chainId payload (show envelope.length < 2 ^ 64 by omega))
  have encoded : encodeTx env tx = .ok bytes := by
    simp only [encodeTx, bind_eq_ok, mapError_eq_ok]
    exact ⟨envelope, sealed, written⟩
  exact ⟨bytes, encoded, decodeTx_encodeTx faithful inRange encoded⟩

def tippedTx : Transaction := { sampleTx with feeTip := 7, payload := [1, 2, 3] }

theorem transaction_roundTrip_tipped :
    tippedTx.InRange ∧ tippedTx.signature.length ≤ 65535 ∧
      ∃ bytes, encodeTx sampleEnv tippedTx = .ok bytes ∧ decodeTx sampleEnv bytes = .ok tippedTx := by
  have inRange : tippedTx.InRange := by constructor <;> decide
  have short : tippedTx.signature.length ≤ 65535 := by decide
  exact ⟨inRange, short, transaction_roundTrip sampleEnv sampleEnv_faithful sampleEnv_complete
    tippedTx inRange short (by decide) (by decide)⟩

theorem encodeTx_injective (faithful : FaithfulCbor env) {left right : Transaction} {bytes : Bytes}
    (leftRange : left.InRange) (rightRange : right.InRange)
    (leftWritten : encodeTx env left = .ok bytes) (rightWritten : encodeTx env right = .ok bytes) :
    left = right := by
  have read := decodeTx_encodeTx faithful leftRange leftWritten
  rw [decodeTx_encodeTx faithful rightRange rightWritten] at read
  exact (Except.ok.inj read).symm

end ViperChain
