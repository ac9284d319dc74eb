import ViperChain.Crypto
import ViperChain.Library.CborFormat

/-!
What is assumed of the code outside the repository, and a build that meets it. No hash is
injective on all inputs; collision freedom is asked of the finitely many preimages at hand.
-/

namespace ViperChain

structure FaithfulCbor (env : Env) : Prop where
  decode_encode : ∀ value bytes, env.cborEncode value = .ok bytes → env.cborDecode bytes = .ok value

theorem FaithfulCbor.encode_injective {env : Env} (faithful : FaithfulCbor env) {left right : Value}
    {bytes : Bytes} (encodedLeft : env.cborEncode left = .ok bytes)
    (encodedRight : env.cborEncode right = .ok bytes) : left = right := by
  have decodedLeft := faithful.decode_encode left bytes encodedLeft
  rw [faithful.decode_encode right bytes encodedRight] at decodedLeft
  exact (Except.ok.inj decodedLeft).symm

def CollisionFree (env : Env) (queries : List (Bytes × Bytes)) : Prop :=
  ∀ left ∈ queries, ∀ right ∈ queries,
    taggedHash env left.1 left.2 = taggedHash env right.1 right.2 → left = right

instance (env : Env) (queries : List (Bytes × Bytes)) : Decidable (CollisionFree env queries) :=
  inferInstanceAs (Decidable (∀ left ∈ queries, ∀ right ∈ queries, _ → _))

theorem CollisionFree.mono {env : Env} {queries more : List (Bytes × Bytes)}
    (free : CollisionFree env more) (included : queries ⊆ more) : CollisionFree env queries :=
  fun left memberLeft right memberRight =>
    free left (included memberLeft) right (included memberRight)

section Sample

def polynomialHash (bytes : Bytes) : Bytes32 where
  data := toBeBytes 32 <|
    bytes.foldl (fun total byte => (total * 257 + byte.val + 1) % (2 ^ 256 - 189)) 1
  length_eq := toBeBytes_length _ _

def appendedSignature (key message signature : Bytes) : Except CryptoError Unit :=
  if signature = key ++ message then .ok () else .error .verificationFailed

def sampleEnv : Env where
  shake256 := polynomialHash
  mlDsa _ key message signature := appendedSignature key message signature
  slhDsa _ key message signature := appendedSignature key message signature
  cborDecode bytes := (CborFormat.decode bytes).elim (.error "unexpected end of input") .ok
  cborEncode value := (CborFormat.encode value).elim (.error "value out of range") .ok
  tokenEconomics := false
  pqVerifierFeature := true

theorem sampleEnv_faithful : FaithfulCbor sampleEnv where
  decode_encode value bytes encoded := by
    cases written : CborFormat.encode value with
    | none => simp [sampleEnv, written] at encoded
    | some output =>
        simp only [sampleEnv, written, Option.elim_some, Except.ok.injEq] at encoded
        simp [sampleEnv, ← encoded, CborFormat.decode_encode written]

end Sample

end ViperChain
