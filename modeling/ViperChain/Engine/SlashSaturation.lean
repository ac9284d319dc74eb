import ViperChain.Engine.ImportedValue
import ViperChain.Engine.SlashRuns

/-!
A chain on which more is slashed within the window than a `u128` holds: ten thousand slashes of
saturated size fit, the next one does not.
-/

namespace ViperChain

open Fallible Relation Slashing

section Bodies

variable (env : Env)

def bodyHash (tx : Transaction) : TxHash :=
  match encodeTx env tx with
  | .ok raw => computeTxHash env raw
  | .error _ => Bytes32.fill 0

inductive Executes (feeParams : FeeParams) (start : ReplayProgress) :
    List Transaction → ReplayProgress → Prop
  | nil : Executes feeParams start [] start
  | snoc {ran : List Transaction} {progress : ReplayProgress} {tx : Transaction} {raw : Bytes}
      {state : StateStore} {result : ExecutionResult} (before : Executes feeParams start ran progress)
      (encoded : encodeTx env tx = .ok raw)
      (executed : applyTx env progress.state tx ⟨raw.length, feeParams⟩ = .ok (state, result)) :
      Executes feeParams start (ran ++ [tx])
        { state
          feesCollected := satAdd128 (satAdd128 progress.feesCollected result.feeCharged) tx.feeTip
          blockGasUsed := satAdd64 progress.blockGasUsed result.gasUsed }

variable {env}

theorem Executes.replays {feeParams : FeeParams} {start progress : ReplayProgress}
    {bodies : List Transaction} (executes : Executes env feeParams start bodies progress)
    (height : Nat) :
    (bodies.zip (bodies.map (bodyHash env))).zipIdx.foldlM (replayTx env feeParams height) start =
      .ok progress := by
  induction executes with
  | nil => rfl
  | @snoc ran progress tx raw state result _ encoded executed ih =>
      have hashed : bodyHash env tx = computeTxHash env raw := by simp [bodyHash, encoded]
      rw [List.map_append, List.zip_append (by simp), List.zipIdx_append, List.foldlM_append, ih]
      simp [replayTx, encoded, executed, hashed, Except.mapError, require, bind, Except.bind, pure,
        Except.pure]

theorem Executes.calls {feeParams : FeeParams} {start progress : ReplayProgress}
    {bodies : List Transaction} (executes : Executes env feeParams start bodies progress) :
    ReflTransGen (BlockCall env) start.state progress.state := by
  induction executes with
  | nil => exact .refl
  | snoc _ _ executed ih => exact ih.tail (.applied _ _ _ executed)

end Bodies

section Equivocators

def slashEnv : Env := { sampleEnv with tokenEconomics := true, pqVerifierFeature := false }

def equivocator (index : Nat) : Address := Bytes32.ofNat index

def equivocatorBond : Nat := 2 ^ 120

def equivocatorAccount (index : Nat) : Account :=
  { Account.credited (equivocator index) equivocatorBond with keys := [authorKey] }

def registrationValue : Value :=
  .map
    [ (.integer 1, .bytes []), (.integer 2, .integer AlgId.slhDsaShake192s.asU16),
      (.integer 3, .bytes (List.replicate 48 7)), (.integer 4, .bytes (toBeBytes 16 equivocatorBond)) ]

def voteValue (blockHash : Bytes32) : Value :=
  .map
    [ (.integer 1, .integer 0), (.integer 2, .integer 0), (.integer 3, .bytes blockHash.data),
      (.integer 4, .integer 1), (.integer 5, .bytes []) ]

def accusation (accused : Address) : Value :=
  .map
    [ (.integer 1, .bytes accused.data), (.integer 2, .integer 0),
      (.integer 3, voteValue (Bytes32.fill 1)), (.integer 4, voteValue (Bytes32.fill 2)) ]

def equivocatorTx (sender : Address) (msgType : MsgType) (nonce : Nat) (payload : Value) :
    Transaction :=
  { gaslessTx nonce with msgType, sender, gasLimit := 100, payload := CborFormat.write payload }

def registerTx (operator : Address) : Transaction :=
  equivocatorTx operator .validatorRegister 0 registrationValue

def accuseTx (operator : Address) : Transaction :=
  equivocatorTx operator .submitEquivocationEvidence 1 (accusation operator)

def accusationVote (blockHash : Bytes32) : EquivocationVote := ⟨0, 0, blockHash, 1, []⟩

theorem decode_registration : decodeRegisterPayload slashEnv (CborFormat.write registrationValue) =
    .ok ⟨[], AlgId.slhDsaShake192s.asU16, List.replicate 48 7, equivocatorBond, []⟩ := by
  rfl

theorem slashEnv_decodes {value : Value} (fitting : CborFormat.fits value = true) :
    slashEnv.cborDecode (CborFormat.write value) = .ok value := by
  have written : CborFormat.encode value = some (CborFormat.write value) := by
    rw [CborFormat.encode, if_pos fitting]
  simp [slashEnv, sampleEnv, CborFormat.decode_encode written]

theorem decode_accusation (accused : Address) :
    decodeEquivocationEvidence slashEnv (CborFormat.write (accusation accused)) =
      .ok ⟨accused, 0, accusationVote (Bytes32.fill 1), accusationVote (Bytes32.fill 2)⟩ := by
  have fitting : CborFormat.fits (accusation accused) = true := by
    simp [accusation, voteValue, CborFormat.fits, CborFormat.fitsEntries, Bytes32.length_eq]
  rw [decodeEquivocationEvidence, slashEnv_decodes fitting]
  simp [accusation, voteValue, Except.mapError, bind, Except.bind, okOr, require, pure, Except.pure,
    Value.asMap?, Value.asInteger?, Value.asUint?, Value.asBytes?, evidenceKey, evidenceField, hashField,
    evidenceBytes, uintField, decodeEquivocationVote, voteField, Bytes32.ofBytes?, Bytes32.length_eq,
    accusationVote, List.foldlM]

theorem slashEnv_encodes {value : Value} (fitting : CborFormat.fits value = true) :
    slashEnv.cborEncode value = .ok (CborFormat.write value) := by
  simp [slashEnv, sampleEnv, CborFormat.encode, fitting]

def emptySeal : Bytes := envelopeVersion :: toLeBytes 2 AlgId.mlDsa65.asU16 ++ toLeBytes 2 0 ++ []

theorem encodeTx_equivocator (sender : Address) (msgType : MsgType) {nonce : Nat} {payload : Value}
    (small : nonce < 2 ^ 64) (short : (CborFormat.write payload).length < 2 ^ 64) :
    ∃ raw, encodeTx slashEnv (equivocatorTx sender msgType nonce payload) = .ok raw := by
  have sealed : encodeSigEnvelope AlgId.mlDsa65 [] = .ok emptySeal := by
    simp [encodeSigEnvelope, emptySeal]
  have kind : msgType.asU16 < 2 ^ 64 := by cases msgType <;> decide
  have fitting : CborFormat.fits (.map (envelopeEntries (equivocatorTx sender msgType nonce payload)
      false ++ [TxCodec.entry 12 (.bytes emptySeal)])) = true := by
    simpa [envelopeEntries, equivocatorTx, gaslessTx, TxCodec.entry, AlgId.asU16, emptySeal,
      CborFormat.fits, CborFormat.fitsEntries, Bytes32.length_eq, toLeBytes] using
      And.intro kind (And.intro small short)
  have encoded : encodeTx slashEnv (equivocatorTx sender msgType nonce payload) =
      .ok (CborFormat.write (.map (envelopeEntries (equivocatorTx sender msgType nonce payload)
        false ++ [TxCodec.entry 12 (.bytes emptySeal)]))) := by
    simp only [encodeTx, bind_eq_ok, mapError_eq_ok]
    exact ⟨_, sealed, slashEnv_encodes fitting⟩
  exact ⟨_, encoded⟩

theorem encodeTx_register (operator : Address) :
    ∃ raw, encodeTx slashEnv (registerTx operator) = .ok raw :=
  encodeTx_equivocator operator _ (by decide) (by decide +kernel)

theorem encodeTx_accuse (operator : Address) :
    ∃ raw, encodeTx slashEnv (accuseTx operator) = .ok raw := by
  refine encodeTx_equivocator operator _ (by decide) ?_
  simp [accusation, voteValue, CborFormat.write, CborFormat.writeEntries, CborFormat.head,
    Bytes32.length_eq]

end Equivocators

section Steps

def largestSlash : Nat := u128Max / 10000

structure Calm (store : StateStore) : Prop where
  rules : SameRules (StateStore.new slashEnv) store
  jailed : ∀ operator record, store.getValidator operator = some record → record.status = .jailed

def Funded (store : StateStore) (operator : Address) : Prop :=
  ∃ account, store.getAccount operator = some account ∧ equivocatorBond ≤ account.balance

variable {store : StateStore}

theorem SameRules.trans {next last : StateStore} (first : SameRules store next)
    (second : SameRules next last) : SameRules store last :=
  ⟨second.blockHeight.trans first.blockHeight, second.algRegistry.trans first.algRegistry⟩

theorem algEntry_eq (rules : SameRules (StateStore.new slashEnv) store) (algId : AlgId) :
    store.algEntry algId = (StateStore.new slashEnv).algEntry algId := by
  rw [StateStore.algEntry, StateStore.algEntry, rules.algRegistry]

theorem actualFee_free (rules : SameRules (StateStore.new slashEnv) store) (sender : Address)
    (msgType : MsgType) (nonce : Nat) (payload : Value) (length : Nat) :
    actualFee store (equivocatorTx sender msgType nonce payload) ⟨length, freeParams⟩ = 0 := by
  have minFee : store.algMinFee .mlDsa65 = some 0 := by
    rw [StateStore.algMinFee, algEntry_eq rules]
    decide +kernel
  simp [actualFee, actualFeeBreakdown, feeBreakdown, FeeBreakdown.total, effectiveBaseFee,
    sigverifyFeeForAlg, freeParams, equivocatorTx, gaslessTx, minFee, satMul64, satAdd64, satMul128]

theorem slashAmount_equivocator (store : StateStore) (height : Nat) :
    slashAmount store equivocatorBond height = largestSlash := by
  unfold slashAmount computeSlashAmount largestSlash
  generalize fraction_eq : correlationAdjustedSlashFractionBps slashFractionBps _ _ = fraction
  have enough : 500 ≤ fraction := by
    rw [← fraction_eq]
    exact le_fraction (by decide) _ _
  have saturated : satMul128 equivocatorBond fraction = u128Max := by
    refine Nat.min_eq_right ?_
    calc u128Max ≤ equivocatorBond * 500 := by decide
      _ ≤ equivocatorBond * fraction := Nat.mul_le_mul_left _ enough
  rw [saturated]
  rfl

theorem settle_free {working : StateStore} {sender : Address} {msgType : MsgType} {nonce : Nat}
    {payload : Value} {account : Account} (present : working.getAccount sender = some account) :
    settleSender slashEnv working (equivocatorTx sender msgType nonce payload) 0 =
      .ok ((working.modifyAccount sender (Account.settle 0)).commitAccountMutation slashEnv sender) := by
  simp [settleSender, equivocatorTx, gaslessTx, present, okOr, require, bind, Except.bind, pure,
    Except.pure, satAdd128]

theorem Calm.keyFree (calm : Calm store) (pk : Bytes) : store.consensusKeyInUse pk = false := by
  simp only [StateStore.consensusKeyInUse, List.any_eq_false]
  intro record stored
  obtain ⟨operator, present⟩ := store.validators.mem_values.mp stored
  simp [calm.jailed operator record present]

def equivocatorPayload : ValidatorRegisterPayload :=
  ⟨[], AlgId.slhDsaShake192s.asU16, List.replicate 48 7, equivocatorBond, []⟩

def equivocatorRecord (store : StateStore) (operator : Address) : ValidatorRecord :=
  newValidatorRecord (withdraw slashEnv store operator equivocatorBond) operator .slhDsaShake192s
    equivocatorPayload

theorem register_applies (calm : Calm store) {operator : Address} {account : Account}
    (absent : store.getValidator operator = none) (present : store.getAccount operator = some account)
    (covered : equivocatorBond ≤ account.balance) :
    applyPayload slashEnv store (registerTx operator) =
      .ok ((withdraw slashEnv store operator equivocatorBond).insertValidator slashEnv
        (equivocatorRecord store operator)) := by
  have listed : (store.algEntry .slhDsaShake192s).map AlgEntry.pkSize = some 48 := by
    rw [algEntry_eq calm.rules]
    decide +kernel
  obtain ⟨entry, found, size⟩ := Option.map_eq_some_iff.mp listed
  have applied : applyValidatorRegister slashEnv store (registerTx operator) =
      .ok ((withdraw slashEnv store operator equivocatorBond).insertValidator slashEnv
        (equivocatorRecord store operator)) := by
    simp only [applyValidatorRegister, bind_eq_ok, okOr_eq_ok, require_eq_ok, pure_eq_ok]
    refine ⟨equivocatorPayload, decode_registration, .slhDsaShake192s, rfl, (), rfl, entry, found, (),
      ?_, (), rfl, (), ?_, (), ?_, (), rfl, (), rfl, account, present, (), ?_, rfl⟩
    · simp [equivocatorPayload, size]
    · simp [registerTx, equivocatorTx, absent]
    · simp [calm.keyFree]
    · exact decide_eq_true covered
  exact applied

theorem prune_zero (env : Env) (store : StateStore) : store.pruneRecentSlashesBefore env 0 = store := by
  have all : (store.recentSlashes.dropWhile fun entry => entry.height < 0) = store.recentSlashes := by
    cases store.recentSlashes <;> simp
  simp only [StateStore.pruneRecentSlashesBefore, all, if_true]

theorem accuse_applies (rules : SameRules (StateStore.new slashEnv) store) {operator : Address}
    {record : ValidatorRecord} (present : store.getValidator operator = some record)
    (bonded : record.selfBond = equivocatorBond) (untombstoned : record.tombstoned = false) :
    applyPayload slashEnv store (accuseTx operator) =
      .ok (slash slashEnv store operator largestSlash 0) := by
  have height : store.blockHeight = 0 := rules.blockHeight
  have checked : checkEvidence ⟨operator, 0, accusationVote (Bytes32.fill 1),
      accusationVote (Bytes32.fill 2)⟩ 0 = .ok () := rfl
  have applied : applySubmitEquivocationEvidence slashEnv store (accuseTx operator).payload 0
      (handlerVerifier slashEnv) = .ok (slash slashEnv store operator largestSlash 0) := by
    simp only [applySubmitEquivocationEvidence, bind_eq_ok, okOr_eq_ok, require_eq_ok, pure_eq_ok,
      mapError_eq_ok]
    refine ⟨_, decode_accusation operator, (), checked, record, present, (), by simp [untombstoned], (),
      rfl, (), rfl, ?_⟩
    rw [Nat.zero_sub, prune_zero, bonded, slashAmount_equivocator]
    rfl
  rw [← height] at applied
  have enabled : applyPayload slashEnv store (accuseTx operator) =
      applySubmitEquivocationEvidence slashEnv store (accuseTx operator).payload store.blockHeight
        (handlerVerifier slashEnv) := rfl
  rw [enabled, applied, height]

theorem applyTx_free (rules : SameRules (StateStore.new slashEnv) store) {working : StateStore}
    {sender : Address} {msgType : MsgType} {nonce : Nat} {payload : Value} {account : Account}
    (applied : applyPayload slashEnv store (equivocatorTx sender msgType nonce payload) = .ok working)
    (present : working.getAccount sender = some account) (length : Nat) :
    ∃ result, applyTx slashEnv store (equivocatorTx sender msgType nonce payload)
        ⟨length, freeParams⟩ =
      .ok ((working.modifyAccount sender (Account.settle 0)).commitAccountMutation slashEnv sender,
        result) := by
  have enough : ¬ (equivocatorTx sender msgType nonce payload).gasLimit <
      scheduledGasForMsgType (equivocatorTx sender msgType nonce payload).msgType := by
    have covered : scheduledGasForMsgType msgType ≤ 100 := by cases msgType <;> decide
    exact Nat.not_lt.mpr covered
  simp only [applyTx, if_neg enough, applied, actualFee_free rules, settle_free present, bind,
    Except.bind, pure, Except.pure]
  exact ⟨_, rfl⟩

structure Stage (limit done : Nat) (store : StateStore) : Prop extends Calm store where
  absent : ∀ index, done ≤ index → index ≤ limit → store.getValidator (equivocator index) = none
  funded : ∀ index, done ≤ index → index ≤ limit → Funded store (equivocator index)
  ledger : store.recentSlashes = List.replicate done ⟨0, largestSlash⟩

structure Accusable (limit done : Nat) (store : StateStore) : Prop where
  rules : SameRules (StateStore.new slashEnv) store
  bonded : ∃ record, store.getValidator (equivocator done) = some record ∧
    record.selfBond = equivocatorBond ∧ record.tombstoned = false
  signs : ∃ account, store.getAccount (equivocator done) = some account
  jailed : ∀ operator record, operator ≠ equivocator done →
    store.getValidator operator = some record → record.status = .jailed
  absent : ∀ index, done < index → index ≤ limit → store.getValidator (equivocator index) = none
  funded : ∀ index, done < index → index ≤ limit → Funded store (equivocator index)
  ledger : store.recentSlashes = List.replicate done ⟨0, largestSlash⟩

variable {limit done : Nat}

theorem equivocator_ne (small : limit < 256 ^ 32) {left right : Nat} (below : left < right)
    (bound : right ≤ limit) : equivocator right ≠ equivocator left := by
  intro same
  have equal := Bytes32.ofNat_injOn (bound.trans_lt small) ((below.trans_le bound).trans small) same
  omega

theorem getValidator_insertValidator (env : Env) (store : StateStore) (record : ValidatorRecord)
    (other : Address) :
    (store.insertValidator env record).getValidator other =
      if record.operator = other then some record else store.getValidator other := by
  simp [StateStore.getValidator, StateStore.insertValidator]

theorem getValidator_updateAccount (env : Env) (store : StateStore) (address other : Address)
    (change : Account → Account) :
    ((store.modifyAccount address change).commitAccountMutation env address).getValidator other =
      store.getValidator other := rfl

theorem recentSlashes_updateAccount (env : Env) (store : StateStore) (address : Address)
    (change : Account → Account) :
    ((store.modifyAccount address change).commitAccountMutation env address).recentSlashes =
      store.recentSlashes := rfl

theorem getAccount_registered (env : Env) (store : StateStore) (operator other : Address)
    (amount : Nat) (record : ValidatorRecord) :
    ((withdraw env store operator amount).insertValidator env record).getAccount other =
      if operator = other then (store.getAccount other).map fun account =>
        { account with balance := account.balance - amount } else store.getAccount other :=
  getAccount_updateAccount store operator other _

theorem getValidator_registered (env : Env) (store : StateStore) (operator other : Address)
    (amount : Nat) (record : ValidatorRecord) :
    ((withdraw env store operator amount).insertValidator env record).getValidator other =
      if record.operator = other then some record else store.getValidator other :=
  getValidator_insertValidator env (withdraw env store operator amount) record other

theorem recentSlashes_registered (env : Env) (store : StateStore) (operator : Address)
    (amount : Nat) (record : ValidatorRecord) :
    ((withdraw env store operator amount).insertValidator env record).recentSlashes =
      store.recentSlashes := rfl

theorem Stage.register (stage : Stage limit done store) (small : limit < 256 ^ 32)
    (within : done ≤ limit) (length : Nat) :
    ∃ next result, applyTx slashEnv store (registerTx (equivocator done)) ⟨length, freeParams⟩ =
      .ok (next, result) ∧ Accusable limit done next := by
  have absent := stage.absent done le_rfl within
  obtain ⟨account, present, covered⟩ := stage.funded done le_rfl within
  have applied := register_applies stage.toCalm absent present covered
  have operator : (equivocatorRecord store (equivocator done)).operator = equivocator done := rfl
  obtain ⟨result, executed⟩ := applyTx_free stage.rules applied
    (by rw [getAccount_registered, if_pos rfl, present, Option.map_some]) length
  have later : ∀ index, done < index → index ≤ limit →
      equivocator done ≠ equivocator index := fun index after bound =>
    (equivocator_ne small after bound).symm
  refine ⟨_, result, executed, ?_⟩
  constructor
  case rules => exact stage.rules.trans (applyTx_sameRules executed)
  case bonded =>
    refine ⟨equivocatorRecord store (equivocator done), ?_, rfl, rfl⟩
    rw [getValidator_updateAccount, getValidator_registered, if_pos operator]
  case signs =>
    rw [getAccount_updateAccount, if_pos rfl, getAccount_registered, if_pos rfl, present]
    exact ⟨_, rfl⟩
  case jailed =>
    intro other record different found
    rw [getValidator_updateAccount, getValidator_registered, operator, if_neg different.symm] at found
    exact stage.jailed other record found
  case absent =>
    intro index after bound
    rw [getValidator_updateAccount, getValidator_registered, operator,
      if_neg (later index after bound)]
    exact stage.absent index after.le bound
  case funded =>
    intro index after bound
    obtain ⟨other, found, rich⟩ := stage.funded index after.le bound
    refine ⟨other, ?_, rich⟩
    rw [getAccount_updateAccount, if_neg (later index after bound), getAccount_registered,
      if_neg (later index after bound), found]
  case ledger => rw [recentSlashes_updateAccount, recentSlashes_registered, stage.ledger]

theorem Funded.credit {operator : Address} (funded : Funded store operator) (env : Env)
    (address : Address) (amount : Nat) : Funded (creditAccount env store address amount) operator := by
  obtain ⟨account, present, rich⟩ := funded
  unfold creditAccount
  split
  · exact ⟨account, present, rich⟩
  · split
    case isTrue =>
      by_cases same : address = operator
      · refine ⟨_, by rw [getAccount_updateAccount, if_pos same, present, Option.map_some], ?_⟩
        have small : equivocatorBond ≤ u128Max := by decide
        exact Nat.le_min.mpr ⟨rich.trans (Nat.le_add_right _ _), small⟩
      · exact ⟨account, by rw [getAccount_updateAccount, if_neg same, present], rich⟩
    case isFalse unknown =>
      have different : address ≠ operator := by
        rintro rfl
        simp [present] at unknown
      refine ⟨account, ?_, rich⟩
      rw [getAccount_insertAccount]
      exact (if_neg different).trans present

theorem getValidator_slash (env : Env) (store : StateStore) (operator other : Address)
    (amount height : Nat) :
    (slash env store operator amount height).getValidator other =
      if other = operator then (store.getValidator other).map (slashRecord amount)
      else store.getValidator other := by
  have roster := congrArg (fun roster => roster.validator other)
    (@roster_slash env store operator amount height)
  simp only [Roster.perform, Roster.validator_revise] at roster
  exact roster

theorem Funded.slash {operator : Address} (funded : Funded store operator) (env : Env)
    (accused : Address) (amount height : Nat) :
    Funded (slash env store accused amount height) operator :=
  have cut : Funded ((store.modifyValidator accused (slashRecord amount)).commitValidatorMutation env
    accused) operator := funded
  cut.credit env treasuryAddress amount

theorem getAccount_slash (env : Env) {account : Account} {operator : Address}
    (present : store.getAccount operator = some account) (accused : Address) (amount height : Nat) :
    ∃ kept, (slash env store accused amount height).getAccount operator = some kept := by
  have grows := @creditAccount_grows env ((store.modifyValidator accused
    (slashRecord amount)).commitValidatorMutation env accused) treasuryAddress amount
  obtain ⟨kept, found, _⟩ := grows.accounts operator account present
  exact ⟨kept, found⟩

theorem Accusable.accuse (accusable : Accusable limit done store) (small : limit < 256 ^ 32)
    (length : Nat) :
    ∃ next result, applyTx slashEnv store (accuseTx (equivocator done)) ⟨length, freeParams⟩ =
      .ok (next, result) ∧ Stage limit (done + 1) next := by
  obtain ⟨record, present, bonded, untombstoned⟩ := accusable.bonded
  obtain ⟨account, signs⟩ := accusable.signs
  have applied := accuse_applies accusable.rules present bonded untombstoned
  obtain ⟨kept, found⟩ := getAccount_slash slashEnv signs (equivocator done) largestSlash 0
  obtain ⟨result, executed⟩ := applyTx_free accusable.rules applied found length
  have later : ∀ index, done + 1 ≤ index → index ≤ limit →
      equivocator index ≠ equivocator done := fun index after bound =>
    equivocator_ne small after bound
  refine ⟨_, result, executed, ?_⟩
  constructor
  case toCalm =>
    refine ⟨accusable.rules.trans (applyTx_sameRules executed), fun other buried found => ?_⟩
    rw [getValidator_updateAccount, getValidator_slash] at found
    split at found
    case isTrue =>
      obtain ⟨old, _, rfl⟩ := Option.map_eq_some_iff.mp found
      rfl
    case isFalse different => exact accusable.jailed other buried different found
  case absent =>
    intro index after bound
    rw [getValidator_updateAccount, getValidator_slash, if_neg (later index after bound)]
    exact accusable.absent index after bound
  case funded =>
    intro index after bound
    obtain ⟨other, found, rich⟩ :=
      (accusable.funded index after bound).slash slashEnv (equivocator done) largestSlash 0
    refine ⟨other, ?_, rich⟩
    rw [getAccount_updateAccount, if_neg (later index after bound).symm, found]
  case ledger =>
    rw [recentSlashes_updateAccount, slash_recentSlashes, accusable.ledger, List.replicate_succ']

def equivocations : Nat → List Transaction
  | 0 => []
  | count + 1 =>
      equivocations count ++ [registerTx (equivocator count)] ++ [accuseTx (equivocator count)]

theorem Stage.executes (start : ReplayProgress) (stage : Stage limit 0 start.state)
    (small : limit < 256 ^ 32) (done : Nat) (within : done ≤ limit + 1) :
    ∃ progress, Executes slashEnv freeParams start (equivocations done) progress ∧
      Stage limit done progress.state := by
  induction done with
  | zero => exact ⟨start, .nil, stage⟩
  | succ done ih =>
      obtain ⟨progress, executes, stage⟩ := ih (by omega)
      obtain ⟨raw, encoded⟩ := encodeTx_register (equivocator done)
      obtain ⟨registered, result, executed, accusable⟩ :=
        stage.register small (by omega) raw.length
      obtain ⟨evidence, written⟩ := encodeTx_accuse (equivocator done)
      obtain ⟨slashed, outcome, accused, next⟩ := accusable.accuse small evidence.length
      exact ⟨_, .snoc (.snoc executes encoded executed) written accused, next⟩

end Steps

section Saturation

def equivocatorAccounts (count : Nat) : List Account := (List.range count).map equivocatorAccount

def equivocatorGenesis (count : Nat) : StateStore :=
  StateStore.fromSnapshotAccounts slashEnv (equivocatorAccounts count) 0 []

theorem equivocatorGenesis_built (count : Nat) :
    buildGenesisState slashEnv [] (equivocatorAccounts count) [] = .ok (equivocatorGenesis count) := by
  have sound : (equivocatorAccounts count).forM checkGenesisAccount = .ok () := by
    unfold equivocatorAccounts
    induction List.range count with
    | nil => rfl
    | cons index rest ih =>
        have checked : checkGenesisAccount (equivocatorAccount index) = .ok () := rfl
        rw [List.map_cons, List.forM, checked]
        exact ih
  simp only [buildGenesisState, sound, bind, Except.bind]
  rfl

structure Unstarted (store : StateStore) : Prop where
  rules : SameRules (StateStore.new slashEnv) store
  validators : store.validators = .empty
  recentSlashes : store.recentSlashes = []
  feeMarket : store.feeMarket = .default

theorem Unstarted.insertAccount {store : StateStore} (unstarted : Unstarted store) (env : Env)
    (account : Account) : Unstarted (store.insertAccount env account) :=
  ⟨⟨unstarted.rules.blockHeight, unstarted.rules.algRegistry⟩, unstarted.validators,
    unstarted.recentSlashes, unstarted.feeMarket⟩

theorem equivocatorGenesis_unstarted (count : Nat) : Unstarted (equivocatorGenesis count) := by
  have filled : Unstarted ((equivocatorAccounts count).foldl (StateStore.insertAccount slashEnv)
      (StateStore.new slashEnv)) :=
    List.foldlRecOn _ _ ⟨⟨rfl, rfl⟩, rfl, rfl, rfl⟩ fun _ unstarted account _ =>
      unstarted.insertAccount slashEnv account
  exact ⟨⟨rfl, filled.rules.algRegistry⟩, filled.validators, filled.recentSlashes, filled.feeMarket⟩

theorem equivocatorGenesis_funded {count index : Nat} (small : count < 256 ^ 32)
    (within : index < count) : Funded (equivocatorGenesis count) (equivocator index) := by
  refine ⟨equivocatorAccount index, ?_, le_rfl⟩
  have inserted : ∀ bound, bound ≤ count → index < bound →
      ((equivocatorAccounts bound).foldl (StateStore.insertAccount slashEnv)
        (StateStore.new slashEnv)).getAccount (equivocator index) = some (equivocatorAccount index) := by
    intro bound
    induction bound with
    | zero => intro _ impossible; omega
    | succ bound ih =>
        intro below within
        rw [equivocatorAccounts, List.range_succ, List.map_append, List.foldl_append, List.map_singleton,
          List.foldl_cons, List.foldl_nil, getAccount_insertAccount]
        have address : (equivocatorAccount bound).address = equivocator bound := rfl
        rcases Nat.lt_succ_iff_lt_or_eq.mp within with earlier | rfl
        · rw [address, if_neg (equivocator_ne small earlier (by omega))]
          exact ih (by omega) earlier
        · rw [if_pos address]
  exact inserted count le_rfl within

theorem equivocatorGenesis_stage {limit : Nat} (small : limit + 1 < 256 ^ 32) :
    Stage limit 0 (equivocatorGenesis (limit + 1)) := by
  have unstarted := equivocatorGenesis_unstarted (limit + 1)
  have none : ∀ operator, (equivocatorGenesis (limit + 1)).getValidator operator = none := by
    intro operator
    rw [StateStore.getValidator, unstarted.validators]
    rfl
  exact
    { rules := unstarted.rules
      jailed := fun operator record found => by rw [none operator] at found; cases found
      absent := fun index _ _ => none (equivocator index)
      funded := fun index _ bound => equivocatorGenesis_funded small (by omega)
      ledger := unstarted.recentSlashes }

def freeReplay : ReplayParams := ⟨freeParams, ⟨5000⟩, []⟩

theorem windowTotal_replicate (count amount : Nat) :
    windowTotal 0 (List.replicate count ⟨0, amount⟩) = count * amount := by
  simp [windowTotal]

theorem windowSum_ne {store : StateStore} {log : List RecentSlashEntry} {count : Nat}
    (exceeds : u128Max < count * largestSlash) (ends : EndsLog store log)
    (height : store.blockHeight = 0)
    (ledger : store.recentSlashes = List.replicate count ⟨0, largestSlash⟩) :
    (store.pruneRecentSlashesBefore slashEnv
        (store.blockHeight - correlationWindowBlocks)).recentSlashedStakeInWindow
          store.blockHeight correlationWindowBlocks ≠ windowTotal store.blockHeight log := by
  have applied : windowTotal store.blockHeight log = count * largestSlash := by
    rw [← ends.windowTotal_eq, height, ledger, windowTotal_replicate]
  have computed : store.recentSlashedStakeInWindow 0 correlationWindowBlocks ≤ u128Max := by
    rw [recentSlashedStake_eq]
    exact Nat.min_le_right _ _
  rw [applied, height, Nat.zero_sub, prune_zero]
  omega

theorem appliedSlash_ne_nil {store next : StateStore} {tx : Transaction} {context : ExecutionContext}
    {result : ExecutionResult} (executed : applyTx slashEnv store tx context = .ok (next, result))
    (grown : next.recentSlashes ≠ store.recentSlashes) :
    appliedSlash slashEnv store next tx ≠ [] := by
  cases applyTx_ledgerMove executed with
  | kept same none => exact absurd same grown
  | recorded _ _ _ _ _ _ _ one => simp [one]

structure Missummed (env : Env) (genesis : StateStore) (stored : StoredBlock)
    (params : ReplayParams) : Prop where
  accepted : ∃ result,
    replayBlocksFromState env genesis (Bytes32.fill 0) [stored] params = .ok result
  met : ∃ ran evidence progress log context next result,
    stored.includedTransactions = ran ++ [evidence] ∧
    Executes env params.feeParams { state := genesis } ran progress ∧
    SlashRun env genesis progress.state log ∧
    applyTx env progress.state evidence context = .ok (next, result) ∧
    appliedSlash env progress.state next evidence ≠ [] ∧
    (progress.state.pruneRecentSlashesBefore env
        (progress.state.blockHeight - correlationWindowBlocks)).recentSlashedStakeInWindow
          progress.state.blockHeight correlationWindowBlocks ≠
      windowTotal progress.state.blockHeight log

theorem missummed_of_many {count : Nat} (small : count + 1 < 256 ^ 32)
    (exceeds : u128Max < count * largestSlash) :
    ∃ stored, Missummed slashEnv (equivocatorGenesis (count + 1)) stored freeReplay := by
  obtain ⟨before, executes, stage⟩ := Stage.executes { state := equivocatorGenesis (count + 1) }
    (equivocatorGenesis_stage small) (by omega) count (by omega)
  obtain ⟨raw, encoded⟩ := encodeTx_register (equivocator count)
  obtain ⟨registered, registration, executed, accusable⟩ :=
    stage.register (by omega) le_rfl raw.length
  obtain ⟨proof, written⟩ := encodeTx_accuse (equivocator count)
  obtain ⟨slashed, outcome, accused, last⟩ := accusable.accuse (by omega) proof.length
  have ran := executes.snoc encoded executed
  have whole := ran.snoc written accused
  obtain ⟨log, run⟩ := exists_slashRun ran.calls
  have unstarted := equivocatorGenesis_unstarted (count + 1)
  have grown : slashed.recentSlashes ≠ registered.recentSlashes := by
    rw [last.ledger, accusable.ledger]
    intro same
    simpa using congrArg List.length same
  have params : { freeReplay.feeParams with
      baseFeeDynamic := (equivocatorGenesis (count + 1)).baseFeeDynamic } = freeParams := by
    rw [StateStore.baseFeeDynamic, unstarted.feeMarket]
    decide +kernel
  have height : (equivocatorGenesis (count + 1)).blockHeight = 0 := unstarted.rules.blockHeight
  obtain ⟨_, accepted, _, replayed, _⟩ := @replay_peerBlock slashEnv (equivocatorGenesis (count + 1))
    (Bytes32.fill 0) _ freeReplay
    (draftHeader slashEnv (equivocatorGenesis (count + 1)) (Bytes32.fill 0) []
      ((equivocations (count + 1)).map (bodyHash slashEnv)))
    (equivocations (count + 1)) ((equivocations (count + 1)).map (bodyHash slashEnv)) _
    (by simp only [draftHeader, height]; rfl) rfl rfl (List.length_map _)
    (by rw [params]; exact whole.replays _) rfl
  exact ⟨_, ⟨accepted, replayed⟩, ⟨_, _, _, log, _, slashed, outcome, rfl, ran, run, accused,
    appliedSlash_ne_nil accused grown, windowSum_ne exceeds (run.endsLog unstarted.recentSlashes)
      accusable.rules.blockHeight accusable.ledger⟩⟩

/-- One block registers and accuses ten thousand and two operators. When the last of them is
accused, the window holds more than the sum that the code can compute. -/
theorem windowSum_saturates : ∃ accounts genesis stored,
    buildGenesisState slashEnv [] accounts [] = .ok genesis ∧
      Missummed slashEnv genesis stored freeReplay := by
  obtain ⟨stored, missummed⟩ := @missummed_of_many 10001 (by decide) (by decide)
  exact ⟨_, _, stored, equivocatorGenesis_built _, missummed⟩

/-- Every state of a chain has a log of applied slashes, against which its window is exact up
to the cap; and the fraction is bounded and monotone, and never takes more than the bond. -/
theorem correlatedSlashing_capped (env : Env) (genesis : StateStore) (chainId : Bytes)
    (accounts : List Account) (validators : List GenesisValidator)
    (built : buildGenesisState env chainId accounts validators = .ok genesis) :
    (∀ guard store, ReflTransGen (BlockStep env guard) genesis store →
      ∃ log, SlashRun env genesis store log) ∧
    (∀ store log, SlashRun env genesis store log → ExactWindow env store log) ∧
    ∀ base, base ≤ 10000 → BoundedFraction base :=
  ⟨fun _ _ reached => exists_slashRun (blocks_calls reached),
    fun _ _ run => (run.endsLog (genesis_recentSlashes built)).exactWindow,
    fun _ bounded => boundedFraction bounded⟩

theorem correlatedSlashing_capped_twice : ∃ store log,
    SlashRun slashEnv (equivocatorGenesis 2) store log ∧
      windowTotal store.blockHeight log = 2 * largestSlash ∧ ExactWindow slashEnv store log := by
  obtain ⟨progress, executes, stage⟩ := Stage.executes { state := equivocatorGenesis 2 }
    (@equivocatorGenesis_stage 1 (by decide)) (by decide) 2 (by decide)
  obtain ⟨log, run⟩ := exists_slashRun executes.calls
  have ends := run.endsLog (equivocatorGenesis_unstarted 2).recentSlashes
  refine ⟨progress.state, log, run, ?_, (correlatedSlashing_capped slashEnv (equivocatorGenesis 2) []
    (equivocatorAccounts 2) [] (equivocatorGenesis_built 2)).2.1 _ _ run⟩
  rw [← ends.windowTotal_eq, stage.rules.blockHeight, stage.ledger]
  exact windowTotal_replicate 2 largestSlash

end Saturation

end ViperChain
