import ViperChain.Engine.Reach
import ViperChain.Tx.Canonical

/-!
The replacement rule of the mempool: what a transaction has to sign to take the slot of
a pending one.
-/

namespace ViperChain

open Fallible

variable {env : Env} {pool admitted : Mempool} {old new : PendingEntry}

inductive Replaces (env : Env) (pool : Mempool) (old : PendingEntry) (admitted : Mempool)
    (new : PendingEntry) : Prop
  | admission (rawBytes : Bytes) (state : StateStore) (verifier : SignatureVerifier)
      (feeParams : FeeParams) (result : AdmissionResult) (hash : TxHash)
      (accepted : tryAdmit env pool rawBytes state verifier feeParams = .ok (admitted, result))
      (replaced : result.replaced = some hash) (pending : pool.get hash = some old)
      (inserted : admitted.get result.txHash = some new)

/-- A number of replacements of one slot, one after the other, each of an entry whose fee is
`priced`. Between two of them the pool may change in other places. -/
inductive Bidding (env : Env) (priced : Nat → Prop) (first : PendingEntry) :
    Nat → Mempool → PendingEntry → Prop
  | start (pool : Mempool) : Bidding env priced first 0 pool first
  | elsewhere {count : Nat} {pool next : Mempool} {last : PendingEntry}
      (bids : Bidding env priced first count pool last) : Bidding env priced first count next last
  | raise {count : Nat} {pool next : Mempool} {last new : PendingEntry}
      (bids : Bidding env priced first count pool last) (price : priced last.fee)
      (raised : Replaces env pool last next new) : Bidding env priced first (count + 1) next new

def ExactBump (old : Nat) : Prop :=
  10 ∣ old ∧ old * replacementFeeBumpNum ≤ u64Max

instance (old : Nat) : Decidable (ExactBump old) := inferInstanceAs (Decidable (_ ∧ _))

section Rule

theorem vacateSlot_replaced {tx : Transaction} {vacated : Mempool} {hash : TxHash}
    (vacates : vacateSlot pool tx = .ok (vacated, some hash)) (pending : pool.get hash = some old) :
    minReplacementFee old ≤ tx.fee ∧ old.feeTip ≤ tx.feeTip := by
  simp only [vacateSlot] at vacates
  split at vacates
  case h_1 => cases vacates
  case h_2 existingHash _ =>
    split at vacates
    case h_1 => cases vacates
    case h_2 existing found =>
      split at vacates
      case isTrue => cases vacates
      case isFalse priced =>
        obtain ⟨_, rfl⟩ : pool.evict existingHash = vacated ∧ existingHash = hash := by
          simpa using vacates
        rw [found, Option.some_inj] at pending
        subst pending
        simpa [not_or] using priced

theorem Replaces.priced (raised : Replaces env pool old admitted new) :
    minReplacementFee old ≤ new.fee ∧ old.feeTip ≤ new.feeTip ∧ new.fee ≤ u64Max := by
  obtain ⟨rawBytes, state, verifier, feeParams, result, hash, accepted, replaced, pending, inserted⟩ :=
    raised
  simp only [tryAdmit, bind_eq_ok, require_eq_ok, okOr_eq_ok, pure_eq_ok, mapError_eq_ok,
    Prod.mk.injEq] at accepted
  obtain ⟨tx, decoded, _, _, _, _, _, _, _, _, _, _, ⟨vacated, gone⟩, vacates, rfl, rfl⟩ := accepted
  obtain rfl : gone = some hash := replaced
  obtain rfl : pendingEntry env tx rawBytes = new := by
    have found : (vacated.insert (pendingEntry env tx rawBytes)).get (computeTxHash env rawBytes) =
        some new := by
      split at inserted <;> exact inserted
    rw [Mempool.get_insert] at found
    exact Option.some_inj.mp ((if_pos rfl).symm.trans found)
  obtain ⟨fee, tip⟩ := vacateSlot_replaced vacates pending
  have fits : tx.fee < 2 ^ 64 := (decodeTx_inRange decoded).fee
  exact ⟨fee, tip, show tx.fee ≤ u64Max by unfold u64Max; omega⟩

theorem minReplacementFee_exact (exact : ExactBump old.fee) :
    old.fee * 110 ≤ minReplacementFee old * 100 := by
  obtain ⟨⟨tens, whole⟩, small⟩ := exact
  simp only [minReplacementFee, satMul64, replacementFeeBumpNum, replacementFeeBumpDen] at small ⊢
  omega

theorem minReplacementFee_short (short : ¬ ExactBump old.fee) :
    minReplacementFee old * 100 < old.fee * 110 := by
  simp only [ExactBump, not_and_or, replacementFeeBumpNum] at short
  simp only [minReplacementFee, satMul64, replacementFeeBumpNum, replacementFeeBumpDen]
  rcases Nat.le_total (old.fee * 110) u64Max with fits | saturated
  · rw [min_eq_left fits]
    omega
  · rw [min_eq_right saturated]
    unfold u64Max at short saturated ⊢
    omega

theorem Bidding.growth {first last : PendingEntry} {count : Nat}
    (bids : Bidding env ExactBump first count pool last) :
    first.fee * 11 ^ count ≤ last.fee * 10 ^ count := by
  induction bids with
  | start => exact le_refl _
  | elsewhere _ ih => exact ih
  | @raise count _ _ last new _ price raised ih =>
      have step : last.fee * 11 ≤ new.fee * 10 := by
        have exact := minReplacementFee_exact price
        have paid := raised.priced.1
        omega
      calc first.fee * 11 ^ (count + 1) = first.fee * 11 ^ count * 11 := by ring
        _ ≤ last.fee * 10 ^ count * 11 := Nat.mul_le_mul_right _ ih
        _ = last.fee * 11 * 10 ^ count := by ring
        _ ≤ new.fee * 10 * 10 ^ count := Nat.mul_le_mul_right _ step
        _ = new.fee * 10 ^ (count + 1) := by ring

theorem Bidding.last_le {first last : PendingEntry} {count : Nat} {priced : Nat → Prop}
    (bids : Bidding env priced first (count + 1) pool last) : last.fee ≤ u64Max := by
  generalize total : count + 1 = steps at bids
  induction bids with
  | start => cases total
  | elsewhere _ ih => exact ih total
  | raise _ _ raised => exact raised.priced.2.2

theorem Bidding.count_le {first last : PendingEntry} {count : Nat} (positive : 0 < first.fee)
    (bids : Bidding env ExactBump first count pool last) : count ≤ 465 := by
  by_contra many
  obtain ⟨more, rfl⟩ : ∃ more, count = 466 + more := ⟨count - 466, by omega⟩
  have growth := bids.growth
  have bounded : last.fee ≤ u64Max :=
    @Bidding.last_le env pool first last (465 + more) ExactBump (by convert bids using 1; omega)
  have large : u64Max * 10 ^ 466 < 11 ^ 466 := by decide +kernel
  have ratio : 10 ^ more ≤ 11 ^ more := Nat.pow_le_pow_left (by omega) more
  have contradiction : last.fee * 10 ^ (466 + more) < first.fee * 11 ^ (466 + more) :=
    calc last.fee * 10 ^ (466 + more) ≤ u64Max * 10 ^ (466 + more) := Nat.mul_le_mul_right _ bounded
      _ = u64Max * 10 ^ 466 * 10 ^ more := by rw [pow_add, mul_assoc]
      _ ≤ u64Max * 10 ^ 466 * 11 ^ more := Nat.mul_le_mul_left _ ratio
      _ < 11 ^ 466 * 11 ^ more := Nat.mul_lt_mul_of_pos_right large (by positivity)
      _ = 11 ^ (466 + more) := (pow_add 11 466 more).symm
      _ ≤ first.fee * 11 ^ (466 + more) := Nat.le_mul_of_pos_left _ positive
  omega

end Rule

section Bids

def richAuthor : Account := { authorAccount with balance := 2 ^ 70 }

def richStore : StateStore := (StateStore.new sampleEnv).insertAccount sampleEnv richAuthor

def unsignedBid (fee : Nat) (mark : Byte) : Transaction :=
  { gaslessTx 0 with
    msgType := .proofAnchor, sender := author, fee, gasLimit := 100, payload := [mark] }

def bidPreimage (fee : Nat) (mark : Byte) : Bytes :=
  (taggedHash sampleEnv (ascii "PQC-TX-V1") ((ForkDigest.viperResearch1 sampleEnv).data ++
    CborFormat.write (.map (envelopeEntries (unsignedBid fee mark) true)))).data

def bid (fee : Nat) (mark : Byte) : Transaction :=
  { unsignedBid fee mark with signature := [5] ++ bidPreimage fee mark }

def bidEnvelope (fee : Nat) (mark : Byte) : Bytes :=
  envelopeVersion :: toLeBytes 2 AlgId.mlDsa65.asU16 ++ toLeBytes 2 33 ++ ([5] ++ bidPreimage fee mark)

def bidBytes (fee : Nat) (mark : Byte) : Bytes :=
  CborFormat.write (.map (envelopeEntries (bid fee mark) false ++
    [TxCodec.entry 12 (.bytes (bidEnvelope fee mark))]))

variable {fee : Nat} {mark : Byte}

theorem bidPreimage_length : (bidPreimage fee mark).length = 32 := Bytes32.length_eq _

theorem bidEnvelope_length : (bidEnvelope fee mark).length = 38 := by
  simp [bidEnvelope, bidPreimage_length, toLeBytes]

theorem author_length : author.data.length = 32 := author.length_eq

theorem buildPreimage_bid (small : fee < 2 ^ 64) :
    buildPreimage sampleEnv (.viperResearch1 sampleEnv) (bid fee mark) = .ok (bidPreimage fee mark) := by
  have fits : CborFormat.fits (.map (envelopeEntries (bid fee mark) true)) = true := by
    simpa [envelopeEntries, bid, unsignedBid, gaslessTx, TxCodec.entry, MsgType.asU16, AlgId.asU16,
      CborFormat.fits, CborFormat.fitsEntries, author_length] using small
  simp only [buildPreimage, sampleEnv, CborFormat.encode, fits, if_true, Option.elim_some]
  rfl

theorem encodeTx_bid (small : fee < 2 ^ 64) :
    encodeTx sampleEnv (bid fee mark) = .ok (bidBytes fee mark) := by
  have sealed : encodeSigEnvelope AlgId.mlDsa65 (bid fee mark).signature =
      .ok (bidEnvelope fee mark) := by
    simp [encodeSigEnvelope, bid, bidEnvelope, bidPreimage_length]
  have fits : CborFormat.fits (.map (envelopeEntries (bid fee mark) false ++
      [TxCodec.entry 12 (.bytes (bidEnvelope fee mark))])) = true := by
    simpa [envelopeEntries, bid, unsignedBid, gaslessTx, TxCodec.entry, MsgType.asU16, AlgId.asU16,
      CborFormat.fits, CborFormat.fitsEntries, author_length, bidEnvelope_length] using small
  have written : sampleEnv.cborEncode (.map (envelopeEntries (bid fee mark) false ++
      [TxCodec.entry 12 (.bytes (bidEnvelope fee mark))])) = .ok (bidBytes fee mark) := by
    simp only [sampleEnv, CborFormat.encode, fits, if_true, Option.elim_some, bidBytes]
  simp only [encodeTx, bind_eq_ok, mapError_eq_ok]
  exact ⟨_, sealed, written⟩

theorem decodeTx_bid (small : fee < 2 ^ 64) :
    decodeTx sampleEnv (bidBytes fee mark) = .ok (bid fee mark) :=
  have inRange : (bid fee mark).InRange :=
    ⟨show 1 < 2 ^ 8 by decide, show 0 < 2 ^ 64 by decide, small, show 0 < 2 ^ 64 by decide,
      show 100 < 2 ^ 64 by decide, show 1 < 2 ^ 32 by decide⟩
  decodeTx_encodeTx sampleEnv_faithful inRange (encodeTx_bid small)

theorem bidBytes_length_le : (bidBytes fee mark).length ≤ maxTxBytes := by
  have amount := CborFormat.head_length_le 0 fee
  simp only [bidBytes, envelopeEntries, bid, unsignedBid, gaslessTx, TxCodec.entry, CborFormat.write,
    MsgType.asU16, AlgId.asU16, Bool.false_eq_true, if_false, List.append_nil, List.cons_append,
    List.nil_append, CborFormat.writeEntries, List.length_append, Int.natCast_nonneg, if_true,
    Int.toNat_natCast, bidEnvelope_length, author_length, maxTxBytes]
  generalize CborFormat.head 0 fee = written at amount
  simp only [CborFormat.head]
  simp
  omega

theorem checkSignature_bid (small : fee < 2 ^ 64) :
    checkSignature sampleEnv (bid fee mark) (.viperResearch1 sampleEnv) 0 richAuthor
      (pqVerifier sampleEnv) = .ok () := by
  have held : richAuthor.keys.lookup .mlDsa65 1 MsgType.proofAnchor.requiredPermissionBit 0 =
      .ok authorKey := by decide +kernel
  have verified : pqVerifier sampleEnv (KeySet.resolvePublicKey authorKey) (bidPreimage fee mark)
      ⟨.mlDsa65, (bid fee mark).signature⟩ = .ok () := by
    simp [pqVerifier, mlDsaVerifier, sampleEnv, appendedSignature, KeySet.resolvePublicKey, authorKey,
      bid]
  simp only [checkSignature, bind_eq_ok, mapError_eq_ok]
  exact ⟨authorKey, held, _, buildPreimage_bid small, verified⟩

theorem validateTx_bid (small : fee < 2 ^ 64) :
    validateTx sampleEnv (bid fee mark) (bidBytes fee mark)
      (admissionContext sampleEnv richStore (bid fee mark) (pqVerifier sampleEnv) freeParams) =
      .ok () := by
  have listed : richStore.algLifecycle .mlDsa65 = some .active := by decide +kernel
  have present : richStore.getAccount author = some richAuthor := by
    simp [richStore, richAuthor, authorAccount, Account.credited]
  have priced : richStore.algMinFee .mlDsa65 = some 0 := by decide +kernel
  have free : admissionFeeParams richStore freeParams = freeParams := by decide +kernel
  simp only [validateTx, bind_eq_ok, require_eq_ok, okOr_eq_ok, decide_eq_true_eq]
  refine ⟨(), bidBytes_length_le, (), rfl, (), rfl, .active, listed, (), rfl, richAuthor,
    present, (), checkSignature_bid small, (), rfl, 0, priced, (), ?_, ?_⟩
  · have nothing : (requiredFeeBreakdown (bid fee mark) (bidBytes fee mark).length freeParams 0).total
        = 0 := by
      simp [requiredFeeBreakdown, feeBreakdown, FeeBreakdown.total, effectiveBaseFee,
        sigverifyFeeForAlg, freeParams, satMul64, satMul128, satAdd64, bid, unsignedBid, gaslessTx]
    have charged : (requiredFeeBreakdown (bid fee mark) (bidBytes fee mark).length
        (admissionFeeParams richStore freeParams) 0).total = 0 := free.symm ▸ nothing
    exact charged.trans_le (Nat.zero_le _)
  · have cheap : fee + 0 ≤ 2 ^ 70 := by omega
    exact (Nat.min_le_left _ _).trans cheap

def bidEntry (fee : Nat) (mark : Byte) : PendingEntry :=
  pendingEntry sampleEnv (bid fee mark) (bidBytes fee mark)

theorem evict_insert_new (entry : PendingEntry) :
    (Mempool.new.insert entry).evict entry.txHash = .new := by
  have erased : ∀ {Key Item : Type} [LinearOrder Key] [Std.TransOrd Key] (key : Key) (item : Item),
      ((∅ : Std.ExtTreeMap Key Item).insert key item).erase key = ∅ := by
    intro Key Item _ _ key item
    apply Std.ExtTreeMap.ext_getElem?
    intro other
    simp
  simp only [Mempool.evict, Mempool.insert, Mempool.new, Std.ExtTreeMap.getElem?_insert_self, erased]

theorem replaces_bid {existing : PendingEntry} (small : fee < 2 ^ 64)
    (slot : existing.slot = toLex (author, 0)) (tip : existing.feeTip = 0)
    (priced : minReplacementFee existing ≤ fee)
    (other : existing.txHash ≠ (bidEntry fee mark).txHash) :
    Replaces sampleEnv (Mempool.new.insert existing) existing
      (Mempool.new.insert (bidEntry fee mark)) (bidEntry fee mark) := by
  have listed : richStore.algLifecycle .mlDsa65 = some .active := by decide +kernel
  have standard : isPremium richStore (bid fee mark) = false := by
    have sigClass : (decide (richStore.algSigClass .mlDsa65 = some .premium)) = false := by
      decide +kernel
    exact sigClass
  have held : (Mempool.new.insert existing).get existing.txHash = some existing := by simp
  have owner : (Mempool.new.insert existing).pendingForSlot author 0 = some existing.txHash := by
    simp [slot]
  have vacates : vacateSlot (Mempool.new.insert existing) (bid fee mark) =
      .ok (.new, some existing.txHash) := by
    have enough : ¬ (bid fee mark).fee < minReplacementFee existing := Nat.not_lt.mpr priced
    have noTip : ¬ (bid fee mark).feeTip < existing.feeTip := by rw [tip]; exact Nat.not_lt_zero _
    unfold vacateSlot
    rw [show (Mempool.new.insert existing).pendingForSlot (bid fee mark).sender (bid fee mark).nonce =
      some existing.txHash from owner]
    simp only [held, enough, noTip, decide_false, Bool.or_false, Bool.false_eq_true, if_false,
      evict_insert_new]
  refine .admission (bidBytes fee mark) richStore (pqVerifier sampleEnv) freeParams
    ⟨(bidEntry fee mark).txHash, some existing.txHash⟩ existing.txHash ?_ rfl held (by simp)
  simp only [tryAdmit, bind_eq_ok, require_eq_ok, okOr_eq_ok, pure_eq_ok, mapError_eq_ok]
  have fresh : ((Mempool.new.insert existing).get (computeTxHash sampleEnv (bidBytes fee mark))).isNone
      = true := by
    have apart : existing.txHash ≠ computeTxHash sampleEnv (bidBytes fee mark) := other
    rw [Mempool.get_insert, if_neg apart]
    simp [Mempool.new, Mempool.get]
  refine ⟨bid fee mark, decodeTx_bid small, (), fresh, .active, listed, (), rfl, (), ?_, (),
    validateTx_bid small, _, vacates, ?_⟩
  · simp [standard]
  · simp [standard, bidEntry, pendingEntry]

end Bids

section Rise

def RaisesByTenth (old : Nat) : Prop :=
  ∀ env pool existing admitted new, existing.fee = old → Replaces env pool existing admitted new →
    old * 110 ≤ new.fee * 100

def rivalEntry (old : Nat) (txHash : TxHash) : PendingEntry where
  tx := bid old 0
  rawBytes := bidBytes old 0
  txHash
  fee := old
  feeTip := 0

theorem exists_other_hash (taken : TxHash) : ∃ hash : TxHash, hash ≠ taken := by
  have distinct : Bytes32.fill 1 ≠ Bytes32.fill 0 := by decide
  by_cases same : Bytes32.fill 0 = taken
  · exact ⟨Bytes32.fill 1, same ▸ distinct⟩
  · exact ⟨Bytes32.fill 0, same⟩

theorem minReplacementFee_le (entry : PendingEntry) : minReplacementFee entry ≤ u64Max :=
  (Nat.div_le_self _ _).trans (Nat.min_le_right _ _)

theorem exactBump_of_raises {old : Nat} (raises : RaisesByTenth old) : ExactBump old := by
  by_contra short
  have bounded := minReplacementFee_le (rivalEntry old (Bytes32.fill 0))
  obtain ⟨least, equal⟩ : ∃ least, least = minReplacementFee (rivalEntry old (Bytes32.fill 0)) :=
    ⟨_, rfl⟩
  rw [← equal] at bounded
  obtain ⟨hash, other⟩ := exists_other_hash (bidEntry least 0).txHash
  have taken := @replaces_bid least 0 (rivalEntry old hash) (by unfold u64Max at bounded; omega) rfl rfl
    (Nat.le_of_eq equal.symm) other
  have rise := raises sampleEnv _ _ _ _ rfl taken
  have tooLittle := minReplacementFee_short (show ¬ ExactBump (rivalEntry old hash).fee from short)
  have lower : least * 100 < old * 110 := equal ▸ tooLittle
  have paid : old * 110 ≤ least * 100 := rise
  omega

/-- Replacement raises the fee by ten percent for exactly the fees that are multiples of ten and
whose product does not saturate. The tip never falls, and there are at most 465 replacements of
such fees. -/
theorem replacement_raises_fee (old : Nat) :
    (RaisesByTenth old ↔ ExactBump old) ∧
      (∀ env pool old admitted new, Replaces env pool old admitted new → old.feeTip ≤ new.feeTip) ∧
      ∀ env pool first last count, 0 < first.fee → Bidding env ExactBump first count pool last →
        first.fee * 11 ^ count ≤ last.fee * 10 ^ count ∧ count ≤ 465 := by
  refine ⟨⟨exactBump_of_raises, ?_⟩, fun _ _ _ _ _ raised => raised.priced.2.1,
    fun _ _ _ _ _ positive bids => ⟨bids.growth, bids.count_le positive⟩⟩
  rintro exact env pool existing admitted new rfl raised
  exact (minReplacementFee_exact exact).trans (Nat.mul_le_mul_right 100 raised.priced.1)

theorem replaces_atSameFee (mark : Byte) (turn : mark = 0 ∨ mark = 1) :
    Replaces sampleEnv (Mempool.new.insert (bidEntry 5 mark)) (bidEntry 5 mark)
      (Mempool.new.insert (bidEntry 5 (1 - mark))) (bidEntry 5 (1 - mark)) := by
  have apart : (bidEntry 5 mark).txHash ≠ (bidEntry 5 (1 - mark)).txHash := by
    rcases turn with rfl | rfl <;> decide +kernel
  have least : minReplacementFee (bidEntry 5 mark) ≤ 5 := by
    change satMul64 5 replacementFeeBumpNum / replacementFeeBumpDen ≤ 5
    decide
  exact replaces_bid (by decide) rfl rfl least apart

/-- A fee of five is replaced by a fee of five and the other way round, without end. -/
theorem replacement_cycles :
    Replaces sampleEnv (Mempool.new.insert (bidEntry 5 0)) (bidEntry 5 0)
        (Mempool.new.insert (bidEntry 5 1)) (bidEntry 5 1) ∧
      Replaces sampleEnv (Mempool.new.insert (bidEntry 5 1)) (bidEntry 5 1)
        (Mempool.new.insert (bidEntry 5 0)) (bidEntry 5 0) ∧
      (bidEntry 5 0).fee = 5 ∧ (bidEntry 5 1).fee = 5 :=
  ⟨replaces_atSameFee 0 (.inl rfl), replaces_atSameFee 1 (.inr rfl), rfl, rfl⟩

theorem replaces_ten : Replaces sampleEnv (Mempool.new.insert (bidEntry 10 0)) (bidEntry 10 0)
    (Mempool.new.insert (bidEntry 11 0)) (bidEntry 11 0) := by
  have least : minReplacementFee (bidEntry 10 0) ≤ 11 := by
    change satMul64 10 replacementFeeBumpNum / replacementFeeBumpDen ≤ 11
    decide
  exact replaces_bid (by decide) rfl rfl least (by decide +kernel)

theorem replacement_raises_fee_ten : RaisesByTenth 10 ∧ ¬ RaisesByTenth 5 ∧
    (bidEntry 10 0).feeTip ≤ (bidEntry 11 0).feeTip ∧
    (bidEntry 10 0).fee * 11 ^ 1 ≤ (bidEntry 11 0).fee * 10 ^ 1 := by
  have bids : Bidding sampleEnv ExactBump (bidEntry 10 0) 1 _ (bidEntry 11 0) :=
    (Bidding.start _).raise (show ExactBump 10 by decide) replaces_ten
  have rise := replacement_raises_fee 10
  refine ⟨rise.1.mpr (by decide), fun raises => ?_, rise.2.1 _ _ _ _ _ replaces_ten,
    (rise.2.2 _ _ _ _ _ (show 0 < 10 by decide) bids).1⟩
  exact absurd ((replacement_raises_fee 5).1.mp raises) (by decide)

end Rise

end ViperChain
