import ViperChain.Block
import ViperChain.State.Store
import ViperChain.Tx.Validate

/-!
The mempool: entries by transaction hash, with an index that gives each `(sender, nonce)`
slot to one of them, and admission.
-/

namespace ViperChain

open Fallible

structure PendingEntry where
  tx : Transaction
  rawBytes : Bytes
  txHash : TxHash
  fee : Nat
  feeTip : Nat
deriving DecidableEq

structure Mempool where
  byHash : Std.ExtTreeMap TxHash PendingEntry
  bySenderNonce : Std.ExtTreeMap (Lex (Address × Nat)) TxHash
  vcAdmittedCount : Nat
  vcPerBlockCap : Nat

def PendingEntry.slot (entry : PendingEntry) : Lex (Address × Nat) :=
  toLex (entry.tx.sender, entry.tx.nonce)

namespace Mempool

def new : Mempool where
  byHash := ∅
  bySenderNonce := ∅
  vcAdmittedCount := 0
  vcPerBlockCap := 10

variable (pool : Mempool)

def get (txHash : TxHash) : Option PendingEntry := pool.byHash[txHash]?

def pendingForSlot (sender : Address) (nonce : Nat) : Option TxHash :=
  pool.bySenderNonce[toLex (sender, nonce)]?

def insert (entry : PendingEntry) : Mempool :=
  { pool with
    bySenderNonce := pool.bySenderNonce.insert entry.slot entry.txHash
    byHash := pool.byHash.insert entry.txHash entry }

def evict (txHash : TxHash) : Mempool :=
  match pool.byHash[txHash]? with
  | some entry =>
      { pool with
        byHash := pool.byHash.erase txHash
        bySenderNonce := pool.bySenderNonce.erase entry.slot }
  | none => pool

def allPending : List PendingEntry := pool.byHash.toList.map Prod.snd

def evictStale (sender : Address) (committedNonce : Nat) : Mempool :=
  let stale := pool.allPending.filter fun entry =>
    entry.tx.sender = sender && entry.tx.nonce < committedNonce
  (stale.map PendingEntry.txHash).foldl evict pool

def incrementVcCount : Mempool := { pool with vcAdmittedCount := pool.vcAdmittedCount + 1 }

def resetVcCount : Mempool := { pool with vcAdmittedCount := 0 }

end Mempool

section Admission

inductive MempoolError where
  | validationFailed (error : TxError)
  | duplicate
  | replacementUnderpriced (existingFee existingTip minRequiredFee : Nat)
  | alreadyIncluded
  | rateLimited
  | vcCapReached
deriving DecidableEq, Repr

structure AdmissionResult where
  txHash : TxHash
  replaced : Option TxHash

def replacementFeeBumpNum : Nat := 110

def replacementFeeBumpDen : Nat := 100

variable (env : Env)

def StateStore.algSigClass (store : StateStore) (algId : AlgId) : Option SigClass :=
  (store.algEntry algId).bind AlgEntry.sigClass

def isPremium (state : StateStore) (tx : Transaction) : Bool :=
  state.algSigClass tx.sigAlgId = some .premium

def admissionFeeParams (state : StateStore) (feeParams : FeeParams) : FeeParams :=
  if state.baseFeeDynamic > 0 then { feeParams with baseFeeDynamic := state.baseFeeDynamic }
  else feeParams

def admissionContext (state : StateStore) (tx : Transaction) (verifier : SignatureVerifier)
    (feeParams : FeeParams) : ValidationContext where
  chainId := state.chainId
  forkDigest := .viperResearch1 env
  currentHeight := state.blockHeight
  senderAccount := state.getAccount tx.sender
  feeParams := admissionFeeParams state feeParams
  verifier
  algLifecycle := state.algLifecycle
  algMinFee := state.algMinFee

def minReplacementFee (existing : PendingEntry) : Nat :=
  satMul64 existing.fee replacementFeeBumpNum / replacementFeeBumpDen

/-- The pool in which the slot of `tx` is free, and the hash that had to leave it. A slot
whose hash is missing from the pool is an index error the source recovers from. -/
def vacateSlot (pool : Mempool) (tx : Transaction) : Except MempoolError (Mempool × Option TxHash) :=
  match pool.pendingForSlot tx.sender tx.nonce with
  | none => .ok (pool, none)
  | some existingHash =>
      match pool.get existingHash with
      | none => .ok (pool.evict existingHash, none)
      | some existing =>
          if tx.fee < minReplacementFee existing || tx.feeTip < existing.feeTip then
            .error (.replacementUnderpriced existing.fee existing.feeTip (minReplacementFee existing))
          else .ok (pool.evict existingHash, some existingHash)

def pendingEntry (tx : Transaction) (rawBytes : Bytes) : PendingEntry where
  tx
  rawBytes
  txHash := computeTxHash env rawBytes
  fee := tx.fee
  feeTip := tx.feeTip

def tryAdmit (pool : Mempool) (rawBytes : Bytes) (state : StateStore) (verifier : SignatureVerifier)
    (feeParams : FeeParams) : Except MempoolError (Mempool × AdmissionResult) := do
  let tx ← (decodeTx env rawBytes).mapError .validationFailed
  let txHash := computeTxHash env rawBytes
  require (pool.get txHash).isNone .duplicate
  let lifecycle ← okOr (state.algLifecycle tx.sigAlgId)
    (.validationFailed (.algorithmNotFound tx.sigAlgId.asU16))
  require lifecycle.admitsTransactions (.validationFailed (.algorithmBanned tx.sigAlgId.asU16))
  require (!(isPremium state tx && pool.vcPerBlockCap ≤ pool.vcAdmittedCount)) .vcCapReached
  (validateTx env tx rawBytes (admissionContext env state tx verifier feeParams)).mapError
    .validationFailed
  let (vacated, replaced) ← vacateSlot pool tx
  let admitted := vacated.insert (pendingEntry env tx rawBytes)
  return (if isPremium state tx then admitted.incrementVcCount else admitted, ⟨txHash, replaced⟩)

end Admission

namespace Mempool

/-- Every entry sits under its own hash and owns its `(sender, nonce)` slot. -/
structure Indexed (pool : Mempool) : Prop where
  keyed : ∀ hash entry, pool.get hash = some entry → entry.txHash = hash
  slotted : ∀ hash entry, pool.get hash = some entry →
    pool.pendingForSlot entry.tx.sender entry.tx.nonce = some hash

variable {pool : Mempool}

@[simp] theorem mem_allPending {entry : PendingEntry} :
    entry ∈ pool.allPending ↔ ∃ hash, pool.get hash = some entry := by
  simp only [allPending, get, List.mem_map, Prod.exists, Std.ExtTreeMap.mem_toList_iff_getElem?_eq_some,
    exists_eq_right]

@[simp] theorem allPending_new : new.allPending = [] := by simp [allPending, new]

@[simp] theorem get_insert (pool : Mempool) (entry : PendingEntry) (hash : TxHash) :
    (pool.insert entry).get hash = if entry.txHash = hash then some entry else pool.get hash := by
  simp [get, insert, Std.ExtTreeMap.getElem?_insert]

@[simp] theorem pendingForSlot_insert (pool : Mempool) (entry : PendingEntry) (sender : Address)
    (nonce : Nat) :
    (pool.insert entry).pendingForSlot sender nonce =
      if entry.slot = toLex (sender, nonce) then some entry.txHash
      else pool.pendingForSlot sender nonce := by
  simp [pendingForSlot, insert, Std.ExtTreeMap.getElem?_insert, compare_eq_iff_eq]

@[simp] theorem get_evict (pool : Mempool) (txHash hash : TxHash) :
    (pool.evict txHash).get hash = if txHash = hash then none else pool.get hash := by
  unfold evict
  split
  case h_1 entry found => simp [get, Std.ExtTreeMap.getElem?_erase]
  case h_2 missing =>
    split
    case isTrue same => exact same ▸ missing
    case isFalse => rfl

theorem Indexed.slot_unique (indexed : pool.Indexed) {left right : PendingEntry}
    (leftPending : left ∈ pool.allPending) (rightPending : right ∈ pool.allPending)
    (same : left.slot = right.slot) : left = right := by
  obtain ⟨leftHash, leftFound⟩ := mem_allPending.mp leftPending
  obtain ⟨rightHash, rightFound⟩ := mem_allPending.mp rightPending
  have leftSlot := indexed.slotted leftHash left leftFound
  have rightSlot := indexed.slotted rightHash right rightFound
  simp only [PendingEntry.slot, EmbeddingLike.apply_eq_iff_eq, Prod.mk.injEq] at same
  rw [same.1, same.2, rightSlot, Option.some_inj] at leftSlot
  rwa [← leftSlot, rightFound, Option.some_inj, eq_comm] at leftFound

theorem Indexed.insert (indexed : pool.Indexed) (entry : PendingEntry)
    (vacant : ∀ pending ∈ pool.allPending, pending.slot ≠ entry.slot) :
    (pool.insert entry).Indexed where
  keyed := by
    intro hash pending found
    rw [get_insert] at found
    split at found
    · cases found
      assumption
    · exact indexed.keyed hash pending found
  slotted := by
    intro hash pending found
    rw [get_insert] at found
    rw [pendingForSlot_insert]
    split at found
    case isTrue same =>
      cases found
      exact (if_pos rfl).trans (congrArg some same)
    case isFalse =>
      have apart := vacant pending (mem_allPending.mpr ⟨hash, found⟩)
      exact (if_neg apart.symm).trans (indexed.slotted hash pending found)

theorem Indexed.evict (indexed : pool.Indexed) (txHash : TxHash) : (pool.evict txHash).Indexed where
  keyed := by
    intro hash pending found
    rw [get_evict] at found
    split at found
    · cases found
    · exact indexed.keyed hash pending found
  slotted := by
    intro hash pending found
    rw [get_evict] at found
    split at found
    case isTrue => cases found
    case isFalse different =>
      have owner := indexed.slotted hash pending found
      unfold Mempool.evict
      split
      case h_2 => exact owner
      case h_1 entry evicted =>
        have apart : entry.slot ≠ toLex (pending.tx.sender, pending.tx.nonce) := by
          intro same
          have same : entry = pending := indexed.slot_unique (mem_allPending.mpr ⟨txHash, evicted⟩)
            (mem_allPending.mpr ⟨hash, found⟩) same
          have keyed := indexed.keyed txHash entry evicted
          rw [same, indexed.keyed hash pending found] at keyed
          exact different keyed.symm
        simpa [pendingForSlot, Std.ExtTreeMap.getElem?_erase, compare_eq_iff_eq, apart] using owner

theorem evictStale_induction {holds : Mempool → Prop} (pool : Mempool) (sender : Address)
    (committedNonce : Nat) (kept : ∀ pool hash, holds pool → holds (pool.evict hash))
    (initial : holds pool) : holds (pool.evictStale sender committedNonce) :=
  List.foldlRecOn _ _ initial fun current holding hash _ => kept current hash holding

theorem get_of_get_evict {txHash hash : TxHash} {entry : PendingEntry}
    (found : (pool.evict txHash).get hash = some entry) : pool.get hash = some entry := by
  rw [get_evict] at found
  split at found
  · cases found
  · exact found

theorem get_of_get_evictStale {sender : Address} {committedNonce : Nat} {hash : TxHash}
    {entry : PendingEntry} (found : (pool.evictStale sender committedNonce).get hash = some entry) :
    pool.get hash = some entry := by
  have kept := @evictStale_induction
    (fun current => current.get hash = some entry → pool.get hash = some entry)
    pool sender committedNonce (fun _ _ holding found => holding (get_of_get_evict found)) id
  exact kept found

end Mempool

end ViperChain
