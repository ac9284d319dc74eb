import ViperChain.Cbor

/-!
The cryptographic interface. SHAKE-256, the signature schemes and the CBOR codec are code
outside the repository; they enter as the fields of `Env`, next to the Cargo features of a
build.
-/

namespace ViperChain

inductive AlgId where
  | mlDsa44 | mlDsa65 | mlDsa87 | fnDsaPadded512
  | slhDsaSha2128s | slhDsaShake192s | slhDsaShake256s | slhDsaShake128s | mlKem768
deriving DecidableEq, Repr

namespace AlgId

def asU16 : AlgId → Nat
  | mlDsa44 => 0x0001
  | mlDsa65 => 0x0002
  | mlDsa87 => 0x0003
  | fnDsaPadded512 => 0x0010
  | slhDsaSha2128s => 0x0020
  | slhDsaShake192s => 0x0021
  | slhDsaShake256s => 0x0022
  | slhDsaShake128s => 0x0023
  | mlKem768 => 0x0100

def fromU16 : Nat → Option AlgId
  | 0x0001 => some mlDsa44
  | 0x0002 => some mlDsa65
  | 0x0003 => some mlDsa87
  | 0x0010 => some fnDsaPadded512
  | 0x0020 => some slhDsaSha2128s
  | 0x0021 => some slhDsaShake192s
  | 0x0022 => some slhDsaShake256s
  | 0x0023 => some slhDsaShake128s
  | 0x0100 => some mlKem768
  | _ => none

def allowedForConsensus : AlgId → Bool
  | mlDsa65 | mlDsa87 | slhDsaShake192s => true
  | _ => false

def allowedForArchival : AlgId → Bool
  | slhDsaShake192s | slhDsaShake256s => true
  | _ => false

theorem fromU16_asU16 (alg : AlgId) : fromU16 alg.asU16 = some alg := by
  cases alg <;> rfl

end AlgId

inductive Lifecycle where
  | active | discouraged | deprecated | banned
deriving DecidableEq, Repr

def Lifecycle.admitsTransactions : Lifecycle → Bool
  | .active | .discouraged => true
  | .deprecated | .banned => false

inductive SigClass where
  | reduced | standard | premium
deriving DecidableEq, Repr

inductive CryptoError where
  | notASigningAlgorithm (alg : AlgId)
  | verificationFailed
  | invalidKeySize
  | invalidSignatureSize
deriving DecidableEq, Repr

structure PublicKey where
  algId : AlgId
  bytes : Bytes
deriving DecidableEq

structure Signature where
  algId : AlgId
  bytes : Bytes
deriving DecidableEq

abbrev SignatureVerifier := PublicKey → Bytes → Signature → Except CryptoError Unit

/-- What a build links against. `mlDsa` and `slhDsa` take the parameter set, the encoded
key, the message and the encoded signature; `cborDecode` is `ciborium::from_reader` and
`cborEncode` is `ciborium::into_writer` into a fresh vector. -/
structure Env where
  shake256 : Bytes → Bytes32
  mlDsa : AlgId → Bytes → Bytes → Bytes → Except CryptoError Unit
  slhDsa : AlgId → Bytes → Bytes → Bytes → Except CryptoError Unit
  cborDecode : Bytes → Except String Value
  cborEncode : Value → Except String Bytes
  tokenEconomics : Bool
  pqVerifierFeature : Bool

section Hashing

variable (env : Env)

def taggedHash (tag body : Bytes) : Bytes32 :=
  let tagHash := (env.shake256 tag).data
  env.shake256 (tagHash ++ tagHash ++ body)

structure TaggedHasher where
  absorbed : Bytes

namespace TaggedHasher

def new (tag : Bytes) : TaggedHasher :=
  let tagHash := (env.shake256 tag).data
  ⟨tagHash ++ tagHash⟩

def pushChunk (hasher : TaggedHasher) (bytes : Bytes) : TaggedHasher :=
  ⟨hasher.absorbed ++ toBeBytes 8 bytes.length ++ bytes⟩

def pushU64 (hasher : TaggedHasher) (value : Nat) : TaggedHasher :=
  hasher.pushChunk (toBeBytes 8 value)

def pushRaw (hasher : TaggedHasher) (bytes : Bytes) : TaggedHasher :=
  ⟨hasher.absorbed ++ bytes⟩

def pushChunks (hasher : TaggedHasher) (chunks : List Bytes) : TaggedHasher :=
  chunks.foldl pushChunk hasher

def finish (hasher : TaggedHasher) : Bytes32 := env.shake256 hasher.absorbed

end TaggedHasher

def merkleLayer (branchDomain : Bytes) : List Bytes32 → List Bytes32
  | [] => []
  | [last] => [taggedHash env branchDomain (last.data ++ last.data)]
  | left :: right :: rest =>
      taggedHash env branchDomain (left.data ++ right.data) :: merkleLayer branchDomain rest

/-- The `while layer.len() > 1` loop. Every layer is shorter than the one below it, so the
number of leaves bounds the number of layers. -/
def merkleLoop (branchDomain : Bytes) : Nat → List Bytes32 → List Bytes32
  | 0, layer => layer
  | fuel + 1, layer =>
      if layer.length ≤ 1 then layer else merkleLoop branchDomain fuel (merkleLayer env branchDomain layer)

def binaryMerkleRoot (leaves : List Bytes32) (branchDomain : Bytes) : Bytes32 :=
  match merkleLoop env branchDomain leaves.length leaves with
  | [] => taggedHash env branchDomain []
  | root :: _ => root

theorem merkleLayer_length (branchDomain : Bytes) (layer : List Bytes32) :
    (merkleLayer env branchDomain layer).length = (layer.length + 1) / 2 := by
  induction layer using merkleLayer.induct with
  | case1 => simp [merkleLayer]
  | case2 last => simp [merkleLayer]
  | case3 left right rest ih => simp only [merkleLayer, List.length_cons, ih]; omega

theorem merkleLoop_length (branchDomain : Bytes) (fuel : Nat) (layer : List Bytes32)
    (enough : layer.length ≤ fuel) (nonempty : layer ≠ []) :
    (merkleLoop env branchDomain fuel layer).length = 1 := by
  induction fuel generalizing layer with
  | zero => exact absurd (List.length_eq_zero_iff.mp (by omega)) nonempty
  | succ fuel ih =>
      have positive : 0 < layer.length := List.length_pos_iff.mpr nonempty
      simp only [merkleLoop]
      split
      · omega
      · have shrunk := merkleLayer_length env branchDomain layer
        exact ih _ (by omega) (List.length_pos_iff.mp (by omega))

end Hashing

section Envelope

def envelopeVersion : Byte := 1

def encodeSigEnvelope (alg : AlgId) (signature : Bytes) : Except CryptoError Bytes :=
  if signature.length > 65535 then .error .invalidSignatureSize
  else .ok (envelopeVersion :: toLeBytes 2 alg.asU16 ++ toLeBytes 2 signature.length ++ signature)

def decodeSigEnvelope : Bytes → Except CryptoError (AlgId × Bytes)
  | version :: algLow :: algHigh :: lenLow :: lenHigh :: payload =>
      if version ≠ envelopeVersion then .error .invalidSignatureSize
      else if payload.length ≠ lenLow.val + 256 * lenHigh.val then .error .invalidSignatureSize
      else match AlgId.fromU16 (algLow.val + 256 * algHigh.val) with
        | none => .error .invalidSignatureSize
        | some alg => .ok (alg, payload)
  | _ => .error .invalidSignatureSize

end Envelope

section Verifiers

variable (env : Env)

def mlDsaVerifier : SignatureVerifier := fun publicKey preimage signature =>
  if publicKey.algId ≠ signature.algId then .error (.notASigningAlgorithm signature.algId)
  else match signature.algId with
    | .mlDsa44 | .mlDsa65 | .mlDsa87 =>
        env.mlDsa signature.algId publicKey.bytes preimage signature.bytes
    | other => .error (.notASigningAlgorithm other)

def pqVerifier : SignatureVerifier := fun publicKey preimage signature =>
  if publicKey.algId ≠ signature.algId then .error (.notASigningAlgorithm signature.algId)
  else match signature.algId with
    | .mlDsa44 | .mlDsa65 | .mlDsa87 => mlDsaVerifier env publicKey preimage signature
    | .slhDsaSha2128s | .slhDsaShake128s | .slhDsaShake192s | .slhDsaShake256s =>
        env.slhDsa signature.algId publicKey.bytes preimage signature.bytes
    | other => .error (.notASigningAlgorithm other)

end Verifiers

end ViperChain
