import ViperChain.Crypto

/-!
Blocks, commit signatures and the two hashes that bind them: the transaction
root and the block hash. Commit signatures and transaction bodies are in neither.
-/

namespace ViperChain

abbrev BlockHash := Bytes32

abbrev TxHash := Bytes32

def headerVersionV1 : Nat := 1

structure BlockHeader where
  headerVersion : Nat
  height : Nat
  prevHash : BlockHash
  stateRoot : BlockHash
  txRoot : BlockHash
  timestamp : Nat
  proposer : Bytes
  extensionRoot : Bytes32
deriving DecidableEq

structure CommitSig where
  validatorAddress : Bytes
  sigAlgId : AlgId
  round : Nat
  signature : Bytes
deriving DecidableEq

structure Block where
  header : BlockHeader
  txHashes : List TxHash
  commitSignatures : List CommitSig
deriving DecidableEq

section Hashing

variable (env : Env)

def emptyExtensionRoot : Bytes32 := taggedHash env (ascii "VIPER-EXT-EMPTY-V1") []

def computeTxRoot (txHashes : List TxHash) : BlockHash :=
  (((TaggedHasher.new env (ascii "PQC-TX-ROOT-V1")).pushU64 txHashes.length).pushChunks
    (txHashes.map Bytes32.data)).finish env

def computeBlockHash (block : Block) : BlockHash :=
  (((((((((((TaggedHasher.new env (ascii "VIPER-BLOCK-HASH-V1")).pushU64
    block.header.headerVersion).pushU64
    block.header.height).pushChunk
    block.header.prevHash.data).pushChunk
    block.header.stateRoot.data).pushChunk
    block.header.txRoot.data).pushU64
    block.header.timestamp).pushChunk
    block.header.proposer).pushChunk
    block.header.extensionRoot.data).pushU64
    block.txHashes.length).pushChunks
    (block.txHashes.map Bytes32.data)).finish env

theorem computeBlockHash_commitSignatures (block : Block) (signatures : List CommitSig) :
    computeBlockHash env { block with commitSignatures := signatures } =
      computeBlockHash env block := rfl

end Hashing

end ViperChain
