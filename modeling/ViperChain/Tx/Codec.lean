import ViperChain.Library.Fallible
import ViperChain.Types
import ViperChain.Consensus.RoundCore

/-!
The transaction codec: the canonical CBOR encoding, the decoder with its round-trip
test on the raw map, the transaction hash and the signed preimage.
-/

namespace ViperChain

open Fallible

inductive TxError where
  | encodingInvalid
  | versionUnsupported (version : Nat)
  | chainIdMismatch
  | msgTypeUnknown (code : Nat)
  | algorithmNotFound (code : Nat)
  | algorithmBanned (code : Nat)
  | senderNotFound
  | keyLookupFailed (error : KeyLookupError)
  | signatureInvalid
  | nonceInvalid (expected got : Nat)
  | feeInsufficient (paid required base bytes sigverify exec : Nat)
  | balanceInsufficient (balance fee : Nat)
  | verifyBudgetExceeded
  | txTooLarge (size : Nat)
  | feeBelowMarket (required provided : Nat)
deriving DecidableEq, Repr

namespace TxCodec

def fromPairs : List (Value × Value) → List (Int × Value) → Except TxError (List (Int × Value))
  | [], fields => .ok fields
  | (key, value) :: rest, fields =>
      match key.asInteger? with
      | none => .error .encodingInvalid
      | some number =>
          if fields.any fun field => field.1 = number then .error .encodingInvalid
          else fromPairs rest (fields ++ [(number, value)])

def getField (fields : List (Int × Value)) (key : Int) : Option Value :=
  (fields.find? fun field => field.1 = key).map Prod.snd

def getUint (width : Nat) (fields : List (Int × Value)) (key : Int) : Except TxError Nat :=
  okOr ((getField fields key).bind (Value.asUint? width)) .encodingInvalid

def getU64Optional (fields : List (Int × Value)) (key : Int) : Except TxError (Option Nat) :=
  match getField fields key with
  | none => .ok none
  | some _ => (getUint 64 fields key).map some

def getBytes (fields : List (Int × Value)) (key : Int) : Except TxError Bytes :=
  okOr ((getField fields key).bind Value.asBytes?) .encodingInvalid

def entry (key : Nat) (value : Value) : Value × Value := (.integer key, value)

end TxCodec

open TxCodec

variable (env : Env)

def decodeTx (bytes : Bytes) : Except TxError Transaction := do
  let value ← (env.cborDecode bytes).mapError fun _ => TxError.encodingInvalid
  let map ← okOr value.asMap? .encodingInvalid
  let reencoded ← (env.cborEncode (.map map)).mapError fun _ => TxError.encodingInvalid
  require (reencoded = bytes) .encodingInvalid
  let fields ← fromPairs map []
  let txVersion ← getUint 8 fields 1
  let chainId ← getBytes fields 2
  let msgTypeRaw ← getUint 16 fields 3
  let senderBytes ← getBytes fields 4
  let nonce ← getUint 64 fields 5
  let fee ← getUint 64 fields 6
  let feeTip ← getU64Optional fields 7
  let gasLimit ← getUint 64 fields 8
  let payload ← getBytes fields 9
  let sigAlgIdRaw ← getUint 16 fields 10
  let sigKeyVersion ← getUint 32 fields 11
  let envelope ← getBytes fields 12
  let msgType ← okOr (MsgType.fromU16 msgTypeRaw) (.msgTypeUnknown msgTypeRaw)
  let sigAlgId ← okOr (AlgId.fromU16 sigAlgIdRaw) (.algorithmNotFound sigAlgIdRaw)
  let (envelopeAlgId, signature) ←
    (decodeSigEnvelope envelope).mapError fun _ => TxError.encodingInvalid
  require (envelopeAlgId = sigAlgId) .encodingInvalid
  let sender ← okOr (Bytes32.ofBytes? senderBytes) .encodingInvalid
  return { txVersion, chainId, msgType, sender, nonce, fee, feeTip := feeTip.getD 0, gasLimit,
           payload, sigAlgId, sigKeyVersion, signature }

def envelopeEntries (tx : Transaction) (withTip : Bool) : List (Value × Value) :=
  [ entry 1 (.integer tx.txVersion), entry 2 (.bytes tx.chainId),
    entry 3 (.integer tx.msgType.asU16), entry 4 (.bytes tx.sender.data),
    entry 5 (.integer tx.nonce), entry 6 (.integer tx.fee) ] ++
  (if withTip then [entry 7 (.integer tx.feeTip)] else []) ++
  [ entry 8 (.integer tx.gasLimit), entry 9 (.bytes tx.payload),
    entry 10 (.integer tx.sigAlgId.asU16), entry 11 (.integer tx.sigKeyVersion) ]

def encodeTx (tx : Transaction) : Except TxError Bytes := do
  let envelope ← (encodeSigEnvelope tx.sigAlgId tx.signature).mapError fun _ => TxError.encodingInvalid
  (env.cborEncode (.map (envelopeEntries tx (tx.feeTip ≠ 0) ++ [entry 12 (.bytes envelope)]))).mapError
    fun _ => TxError.encodingInvalid

def computeTxHash (rawBytes : Bytes) : Bytes32 := env.shake256 rawBytes

def buildPreimage (forkDigest : ForkDigest) (tx : Transaction) : Except String Bytes := do
  let cbor ← env.cborEncode (.map (envelopeEntries tx true))
  return (taggedHash env (ascii "PQC-TX-V1") (forkDigest.data ++ cbor)).data

end ViperChain
