import ViperChain.Tx.Codec
import ViperChain.Assumptions

/-!
Which byte strings the transaction decoder accepts. Its round-trip test leaves open the order of
the keys, the keys it does not read, and a tip of zero that is spelled out.
-/

namespace ViperChain

open Fallible TxCodec

section Codes

theorem MsgType.asU16_of_fromU16 {code : Nat} {msgType : MsgType}
    (known : MsgType.fromU16 code = some msgType) : msgType.asU16 = code := by
  unfold MsgType.fromU16 at known
  split at known <;> first | (cases known; rfl) | simp at known

theorem AlgId.asU16_of_fromU16 {code : Nat} {algId : AlgId}
    (known : AlgId.fromU16 code = some algId) : algId.asU16 = code := by
  unfold AlgId.fromU16 at known
  split at known <;> first | (cases known; rfl) | simp at known

theorem MsgType.asU16_lt (msgType : MsgType) : msgType.asU16 < 2 ^ 16 := by
  cases msgType <;> decide

theorem AlgId.asU16_lt (algId : AlgId) : algId.asU16 < 2 ^ 16 := by
  cases algId <;> decide

theorem toLeBytes_two (low high : Byte) : toLeBytes 2 (low.val + 256 * high.val) = [low, high] := by
  simp only [toLeBytes, toBeBytes, List.nil_append, List.cons_append, List.reverse_cons,
    List.reverse_nil, List.cons.injEq, and_true]
  constructor <;> ext <;> simp only [Fin.ofNat] <;> omega

theorem encodeSigEnvelope_of_decode {envelope signature : Bytes} {algId : AlgId}
    (opened : decodeSigEnvelope envelope = .ok (algId, signature)) :
    encodeSigEnvelope algId signature = .ok envelope := by
  unfold decodeSigEnvelope at opened
  split at opened
  case h_2 => simp at opened
  case h_1 version algLow algHigh lenLow lenHigh payload =>
    split_ifs at opened with versioned sized
    split at opened
    · simp at opened
    · rename_i known
      obtain ⟨rfl, rfl⟩ := Prod.mk.inj (Except.ok.inj opened)
      have short : ¬payload.length > 65535 := by omega
      rw [encodeSigEnvelope, if_neg short, AlgId.asU16_of_fromU16 known, not_not.mp sized,
        toLeBytes_two, toLeBytes_two, not_not.mp versioned]
      rfl

theorem decodeSigEnvelope_encode {envelope signature : Bytes} {algId : AlgId}
    (sealed : encodeSigEnvelope algId signature = .ok envelope) :
    decodeSigEnvelope envelope = .ok (algId, signature) := by
  unfold encodeSigEnvelope at sealed
  split_ifs at sealed with long
  obtain rfl := Except.ok.inj sealed
  have lengthBytes : (Fin.ofNat 256 signature.length).val +
      256 * (Fin.ofNat 256 (signature.length / 256)).val = signature.length := by
    simp only [Fin.ofNat]
    omega
  have algBytes : (Fin.ofNat 256 algId.asU16).val +
      256 * (Fin.ofNat 256 (algId.asU16 / 256)).val = algId.asU16 := by
    cases algId <;> rfl
  simp only [toLeBytes, toBeBytes, List.nil_append, List.cons_append, List.reverse_cons,
    List.reverse_nil, decodeSigEnvelope, ne_eq, not_true_eq_false, if_false, lengthBytes, algBytes,
    AlgId.fromU16_asU16]

end Codes

section Fields

theorem Value.asInteger?_eq_some {value : Value} {number : Int} :
    value.asInteger? = some number ↔ value = .integer number := by
  cases value <;> simp [Value.asInteger?]

theorem Value.asUint?_eq_some {value : Value} {width number : Nat} :
    value.asUint? width = some number ↔ value = .integer number ∧ number < 2 ^ width := by
  cases value <;> simp only [Value.asUint?, reduceCtorEq, false_and]
  have bound : ((2 ^ width : Nat) : Int) = 2 ^ width := by push_cast; rfl
  split_ifs with fits
  · simp only [Option.some.injEq, Value.integer.injEq]
    omega
  · simp only [Value.integer.injEq, false_iff, not_and]
    omega

theorem Value.asBytes?_eq_some {value : Value} {content : Bytes} :
    value.asBytes? = some content ↔ value = .bytes content := by
  cases value <;> simp [Value.asBytes?]

variable {fields : List (Int × Value)} {key : Int}

theorem getUint_eq_ok {width number : Nat} :
    getUint width fields key = .ok number ↔
      getField fields key = some (.integer number) ∧ number < 2 ^ width := by
  simp only [getUint, okOr_eq_ok, Option.bind_eq_some_iff, Value.asUint?_eq_some]
  constructor
  · rintro ⟨_, found, rfl, fits⟩
    exact ⟨found, fits⟩
  · rintro ⟨found, fits⟩
    exact ⟨_, found, rfl, fits⟩

theorem getBytes_eq_ok {content : Bytes} :
    getBytes fields key = .ok content ↔ getField fields key = some (.bytes content) := by
  simp only [getBytes, okOr_eq_ok, Option.bind_eq_some_iff, Value.asBytes?_eq_some]
  constructor
  · rintro ⟨_, found, rfl⟩
    exact found
  · exact fun found => ⟨_, found, rfl⟩

def toEntry (field : Int × Value) : Value × Value := (.integer field.1, field.2)

theorem fromPairs_eq_ok {entries : List (Value × Value)} {seen : List (Int × Value)}
    (collected : fromPairs entries seen = .ok fields) :
    ∃ added, fields = seen ++ added ∧ entries = added.map toEntry := by
  induction entries generalizing seen with
  | nil => exact ⟨[], by simpa [fromPairs] using collected.symm, rfl⟩
  | cons entry entries ih =>
      obtain ⟨key, value⟩ := entry
      simp only [fromPairs] at collected
      split at collected
      · simp at collected
      · rename_i number integer
        split_ifs at collected
        obtain ⟨added, rfl, rfl⟩ := ih collected
        refine ⟨(number, value) :: added, by simp, ?_⟩
        simp [toEntry, Value.asInteger?_eq_some.mp integer]

theorem getField_of_mem {field : Int × Value} (distinct : (fields.map Prod.fst).Nodup)
    (member : field ∈ fields) : getField fields field.1 = some field.2 := by
  induction fields with
  | nil => simp at member
  | cons first fields ih =>
      simp only [List.map_cons, List.nodup_cons, List.mem_map, not_exists, not_and] at distinct
      rcases List.mem_cons.mp member with rfl | later
      · simp [getField]
      · have other : first.1 ≠ field.1 := fun same => distinct.1 field later same.symm
        have found := ih distinct.2 later
        simpa [getField, List.find?_cons, other] using found

theorem getField_eq_none (absent : key ∉ fields.map Prod.fst) : getField fields key = none := by
  simp only [getField, Option.map_eq_none_iff, List.find?_eq_none, decide_eq_true_eq]
  exact fun field member same => absent (List.mem_map.mpr ⟨field, member, same⟩)

theorem fields_eq_of_getField (expected : List (Int × Value))
    (keys : fields.map Prod.fst = expected.map Prod.fst) (distinct : (fields.map Prod.fst).Nodup)
    (found : ∀ field ∈ expected, getField fields field.1 = some field.2) : fields = expected := by
  have injective : Function.Injective fun field : Int × Value => (field.1, some field.2) := by
    rintro ⟨leftKey, leftValue⟩ ⟨rightKey, rightValue⟩ same
    simpa using same
  refine List.map_injective_iff.mpr injective ?_
  calc fields.map (fun field => (field.1, some field.2))
      = (fields.map Prod.fst).map fun key => (key, getField fields key) := by
        rw [List.map_map]
        exact List.map_congr_left fun field member => by
          simp [getField_of_mem distinct member]
    _ = expected.map fun field => (field.1, some field.2) := by
        rw [keys, List.map_map]
        exact List.map_congr_left fun field member => by simp [found field member]

end Fields

section Decoding

variable {env : Env} {bytes : Bytes} {tx : Transaction}

structure DecodedFrom (env : Env) (bytes : Bytes) (fields : List (Int × Value)) (tx : Transaction) :
    Prop where
  parsed : env.cborDecode bytes = .ok (.map (fields.map toEntry))
  printed : env.cborEncode (.map (fields.map toEntry)) = .ok bytes
  txVersion : getUint 8 fields 1 = .ok tx.txVersion
  chainId : getBytes fields 2 = .ok tx.chainId
  msgType : getUint 16 fields 3 = .ok tx.msgType.asU16
  sender : getBytes fields 4 = .ok tx.sender.data
  nonce : getUint 64 fields 5 = .ok tx.nonce
  fee : getUint 64 fields 6 = .ok tx.fee
  feeTip : (getU64Optional fields 7).map (·.getD 0) = .ok tx.feeTip
  gasLimit : getUint 64 fields 8 = .ok tx.gasLimit
  payload : getBytes fields 9 = .ok tx.payload
  sigAlgId : getUint 16 fields 10 = .ok tx.sigAlgId.asU16
  sigKeyVersion : getUint 32 fields 11 = .ok tx.sigKeyVersion
  signature : ∃ envelope, getBytes fields 12 = .ok envelope ∧
    encodeSigEnvelope tx.sigAlgId tx.signature = .ok envelope

theorem decodeTx_eq_ok (decoded : decodeTx env bytes = .ok tx) :
    ∃ fields, DecodedFrom env bytes fields tx := by
  simp only [decodeTx, bind_eq_ok, okOr_eq_ok, require_eq_ok, pure_eq_ok, mapError_eq_ok,
    decide_eq_true_eq] at decoded
  obtain ⟨value, parsed, entries, map, reencoded, printed, _, rfl, fields, collected, decoded⟩ := decoded
  obtain ⟨version, txVersion, chain, chainId, msgCode, msgType, senderBytes, sender, decoded⟩ := decoded
  obtain ⟨nonceRead, nonce, feeRead, fee, tip, feeTip, gas, gasLimit, decoded⟩ := decoded
  obtain ⟨payloadRead, payload, algCode, sigAlgId, keyVersion, sigKeyVersion, decoded⟩ := decoded
  obtain ⟨envelope, sealed, msg, msgKnown, alg, algKnown, ⟨innerAlg, signature⟩, decoded⟩ := decoded
  obtain ⟨opened, _, matching, address, senderSized, rfl⟩ := decoded
  have entriesEq : value = .map entries := by
    cases value <;> simp_all [Value.asMap?]
  obtain ⟨added, rfl, rfl⟩ := fromPairs_eq_ok collected
  subst entriesEq
  have senderEq : address.data = senderBytes := by
    unfold Bytes32.ofBytes? at senderSized
    split_ifs at senderSized
    exact congrArg Bytes32.data (Option.some.inj senderSized).symm
  obtain rfl : innerAlg = alg := matching
  refine ⟨fields, ?_⟩
  exact {
    parsed
    printed
    txVersion
    chainId
    msgType := by rw [msgType, MsgType.asU16_of_fromU16 msgKnown]
    sender := by rw [sender, senderEq]
    nonce
    fee
    feeTip := by rw [feeTip]; rfl
    gasLimit
    payload
    sigAlgId := by rw [sigAlgId, AlgId.asU16_of_fromU16 algKnown]
    sigKeyVersion
    signature := ⟨envelope, sealed, encodeSigEnvelope_of_decode opened⟩ }

def envelopeKeys (withTip : Bool) : List (Option Int) :=
  ([1, 2, 3, 4, 5, 6] ++ (if withTip then [7] else []) ++ [8, 9, 10, 11, 12]).map some

def canonicalEntries (entries : List (Value × Value)) : Bool :=
  let keys := entries.map fun entry => entry.1.asInteger?
  keys = envelopeKeys false ||
    (keys = envelopeKeys true &&
      entries.all fun entry =>
        !(entry.1.asInteger? = some 7 && entry.2.asInteger? = some 0))

def CanonicalInput (env : Env) (bytes : Bytes) : Prop :=
  ∃ entries, env.cborDecode bytes = .ok (.map entries) ∧ canonicalEntries entries = true

theorem canonicalEntries_envelope (tx : Transaction) (envelope : Bytes) :
    canonicalEntries (envelopeEntries tx (tx.feeTip ≠ 0) ++ [entry 12 (.bytes envelope)]) = true := by
  by_cases tip : tx.feeTip = 0
  · simp [canonicalEntries, envelopeEntries, envelopeKeys, entry, tip, Value.asInteger?]
  · simp [canonicalEntries, envelopeEntries, envelopeKeys, entry, tip, Value.asInteger?]

def leadingFields (tx : Transaction) : List (Int × Value) :=
  [ (1, .integer tx.txVersion), (2, .bytes tx.chainId), (3, .integer tx.msgType.asU16),
    (4, .bytes tx.sender.data), (5, .integer tx.nonce), (6, .integer tx.fee) ]

def trailingFields (tx : Transaction) (envelope : Bytes) : List (Int × Value) :=
  [ (8, .integer tx.gasLimit), (9, .bytes tx.payload), (10, .integer tx.sigAlgId.asU16),
    (11, .integer tx.sigKeyVersion), (12, .bytes envelope) ]

def tipFields (tx : Transaction) (withTip : Bool) : List (Int × Value) :=
  if withTip then [(7, .integer tx.feeTip)] else []

def envelopeFields (tx : Transaction) (withTip : Bool) (envelope : Bytes) : List (Int × Value) :=
  leadingFields tx ++ tipFields tx withTip ++ trailingFields tx envelope

theorem envelopeFields_toEntry (tx : Transaction) (withTip : Bool) (envelope : Bytes) :
    (envelopeFields tx withTip envelope).map toEntry =
      envelopeEntries tx withTip ++ [entry 12 (.bytes envelope)] := by
  cases withTip <;>
    simp [envelopeFields, leadingFields, tipFields, trailingFields, envelopeEntries, toEntry, entry]

theorem envelopeFields_keys (tx : Transaction) (withTip : Bool) (envelope : Bytes) :
    (envelopeFields tx withTip envelope).map Prod.fst =
      if withTip then [1, 2, 3, 4, 5, 6, 7, 8, 9, 10, 11, 12]
      else [1, 2, 3, 4, 5, 6, 8, 9, 10, 11, 12] := by
  cases withTip <;> simp [envelopeFields, leadingFields, tipFields, trailingFields]

theorem DecodedFrom.entries_eq {fields : List (Int × Value)} (decoded : DecodedFrom env bytes fields tx)
    (canonical : canonicalEntries (fields.map toEntry) = true) :
    ∃ envelope, encodeSigEnvelope tx.sigAlgId tx.signature = .ok envelope ∧
      fields.map toEntry =
        envelopeEntries tx (tx.feeTip ≠ 0) ++ [entry 12 (.bytes envelope)] := by
  obtain ⟨envelope, sealed, opened⟩ := decoded.signature
  refine ⟨envelope, opened, ?_⟩
  have integerKeys : (fields.map toEntry).map (fun entry => entry.1.asInteger?) =
      (fields.map Prod.fst).map some := by
    simp [toEntry, Value.asInteger?]
  simp only [canonicalEntries, integerKeys, envelopeKeys, Bool.or_eq_true, Bool.and_eq_true,
    decide_eq_true_eq, (List.map_injective_iff.mpr (Option.some_injective _)).eq_iff] at canonical
  have fixedFields : ∀ field ∈ envelopeFields tx false envelope,
      getField fields field.1 = some field.2 := by
    simp [envelopeFields, leadingFields, tipFields, trailingFields, (getUint_eq_ok.mp decoded.txVersion).1, getBytes_eq_ok.mp decoded.chainId,
      (getUint_eq_ok.mp decoded.msgType).1, getBytes_eq_ok.mp decoded.sender,
      (getUint_eq_ok.mp decoded.nonce).1, (getUint_eq_ok.mp decoded.fee).1,
      (getUint_eq_ok.mp decoded.gasLimit).1, getBytes_eq_ok.mp decoded.payload,
      (getUint_eq_ok.mp decoded.sigAlgId).1, (getUint_eq_ok.mp decoded.sigKeyVersion).1,
      getBytes_eq_ok.mp sealed]
  rcases canonical with keys | ⟨keys, tips⟩
  · have noTip : tx.feeTip = 0 := by
      have absent : getField fields 7 = none := getField_eq_none (by simp [keys])
      simpa [getU64Optional, absent, Except.map] using decoded.feeTip.symm
    rw [fields_eq_of_getField (envelopeFields tx false envelope)
      (keys.trans (by simp [envelopeFields_keys])) (by rw [keys]; decide) fixedFields,
      envelopeFields_toEntry]
    simp [noTip]
  · obtain ⟨tipField, member, tipKey⟩ : ∃ field ∈ fields, field.1 = 7 :=
      List.mem_map.mp (by simp [keys])
    have distinct : (fields.map Prod.fst).Nodup := by rw [keys]; decide
    have tipFound : getField fields 7 = some (.integer tx.feeTip) := by
      have present := getField_of_mem distinct member
      rw [tipKey] at present
      have read := decoded.feeTip
      simp only [getU64Optional, present] at read
      cases number : getUint 64 fields 7 with
      | error error => simp [number, Except.map] at read
      | ok content =>
          obtain rfl : content = tx.feeTip := by simpa [number, Except.map] using read
          exact (getUint_eq_ok.mp number).1
    have tip : tx.feeTip ≠ 0 := by
      have checked := List.all_eq_true.mp tips (toEntry tipField) (List.mem_map_of_mem member)
      have content : tipField.2 = .integer tx.feeTip := by
        have present := getField_of_mem distinct member
        rw [tipKey, tipFound] at present
        exact (Option.some.inj present).symm
      simpa [toEntry, tipKey, content, Value.asInteger?] using checked
    rw [fields_eq_of_getField (envelopeFields tx true envelope)
      (keys.trans (by simp [envelopeFields_keys])) distinct]
    · simp [envelopeFields_toEntry, tip]
    · intro field known
      by_cases isTip : field = (7, .integer tx.feeTip)
      · rw [isTip, tipFound]
      · refine fixedFields field ?_
        simp only [envelopeFields, tipFields, if_true, Bool.false_eq_true, if_false,
          List.append_nil] at known ⊢
        rcases List.mem_append.mp known with front | back
        · rcases List.mem_append.mp front with front | tipped
          · exact List.mem_append_left _ front
          · exact absurd (List.mem_singleton.mp tipped) isTip
        · exact List.mem_append_right _ back

theorem encodeTx_iff_canonical (faithful : FaithfulCbor env) (decoded : decodeTx env bytes = .ok tx) :
    encodeTx env tx = .ok bytes ↔ CanonicalInput env bytes := by
  obtain ⟨fields, found⟩ := decodeTx_eq_ok decoded
  constructor
  · intro encoded
    simp only [encodeTx, bind_eq_ok, mapError_eq_ok] at encoded
    obtain ⟨envelope, _, written⟩ := encoded
    have same := faithful.encode_injective found.printed written
    refine ⟨_, found.parsed, ?_⟩
    rw [Value.map.inj same]
    exact canonicalEntries_envelope tx envelope
  · rintro ⟨entries, parsed, canonical⟩
    rw [found.parsed] at parsed
    obtain rfl := Value.map.inj (Except.ok.inj parsed)
    obtain ⟨envelope, opened, same⟩ := found.entries_eq canonical
    simp only [encodeTx, bind_eq_ok, mapError_eq_ok]
    refine ⟨envelope, opened, ?_⟩
    rw [← same]
    exact found.printed

structure Transaction.InRange (tx : Transaction) : Prop where
  txVersion : tx.txVersion < 2 ^ 8
  nonce : tx.nonce < 2 ^ 64
  fee : tx.fee < 2 ^ 64
  feeTip : tx.feeTip < 2 ^ 64
  gasLimit : tx.gasLimit < 2 ^ 64
  sigKeyVersion : tx.sigKeyVersion < 2 ^ 32

theorem decodeTx_inRange (decoded : decodeTx env bytes = .ok tx) : tx.InRange := by
  obtain ⟨fields, found⟩ := decodeTx_eq_ok decoded
  refine ⟨(getUint_eq_ok.mp found.txVersion).2, (getUint_eq_ok.mp found.nonce).2,
    (getUint_eq_ok.mp found.fee).2, ?_, (getUint_eq_ok.mp found.gasLimit).2,
    (getUint_eq_ok.mp found.sigKeyVersion).2⟩
  have tip := found.feeTip
  unfold getU64Optional at tip
  split at tip
  · have zero : 0 = tx.feeTip := by simpa [Except.map] using tip
    omega
  · cases number : getUint 64 fields 7 with
    | error error => simp [number, Except.map] at tip
    | ok content =>
        obtain rfl : content = tx.feeTip := by simpa [number, Except.map] using tip
        exact (getUint_eq_ok.mp number).2

theorem fromPairs_toEntry {fields : List (Int × Value)} (seen : List (Int × Value))
    (distinct : ((seen ++ fields).map Prod.fst).Nodup) :
    fromPairs (fields.map toEntry) seen = .ok (seen ++ fields) := by
  induction fields generalizing seen with
  | nil => simp [fromPairs]
  | cons field fields ih =>
      have fresh : (seen.any fun other => other.1 = field.1) = false := by
        simp only [List.map_append, List.map_cons, List.nodup_append, List.mem_cons] at distinct
        simp only [List.any_eq_false, decide_eq_true_eq]
        exact fun other member => distinct.2.2 _ (List.mem_map_of_mem member) _ (.inl rfl)
      have rest := ih (seen ++ [field]) (by simpa using distinct)
      simpa [fromPairs, toEntry, Value.asInteger?, fresh] using rest

theorem getU64Optional_envelope {envelope : Bytes} (small : tx.feeTip < 2 ^ 64)
    (distinct : ((envelopeFields tx (tx.feeTip ≠ 0) envelope).map Prod.fst).Nodup) :
    getU64Optional (envelopeFields tx (tx.feeTip ≠ 0) envelope) 7 =
      .ok (if tx.feeTip = 0 then none else some tx.feeTip) := by
  by_cases zero : tx.feeTip = 0
  · have absent : getField (envelopeFields tx (tx.feeTip ≠ 0) envelope) 7 = none :=
      getField_eq_none (by simp [envelopeFields_keys, zero])
    rw [getU64Optional, absent, if_pos zero]
  · have present : getField (envelopeFields tx (tx.feeTip ≠ 0) envelope) 7 =
        some (.integer tx.feeTip) :=
      getField_of_mem distinct (show (7, .integer tx.feeTip) ∈ _ by
        simp [envelopeFields, tipFields, zero])
    rw [getU64Optional, present, if_neg zero]
    simp only [getUint_eq_ok.mpr ⟨present, small⟩, Except.map]

theorem decodeTx_encodeTx (faithful : FaithfulCbor env) (inRange : tx.InRange)
    (encoded : encodeTx env tx = .ok bytes) : decodeTx env bytes = .ok tx := by
  simp only [encodeTx, bind_eq_ok, mapError_eq_ok] at encoded
  obtain ⟨envelope, sealed, written⟩ := encoded
  rw [← envelopeFields_toEntry] at written
  have keys := envelopeFields_keys tx (tx.feeTip ≠ 0) envelope
  have distinct : ((envelopeFields tx (tx.feeTip ≠ 0) envelope).map Prod.fst).Nodup := by
    rw [keys]
    split <;> decide
  have collected := fromPairs_toEntry [] distinct
  have known : ∀ field ∈ leadingFields tx ++ trailingFields tx envelope,
      getField (envelopeFields tx (tx.feeTip ≠ 0) envelope) field.1 = some field.2 := by
    intro field member
    refine getField_of_mem distinct ?_
    rcases List.mem_append.mp member with front | back
    · exact List.mem_append_left _ (List.mem_append_left _ front)
    · exact List.mem_append_right _ back
  simp only [leadingFields, trailingFields, List.cons_append, List.nil_append,
    List.forall_mem_cons] at known
  obtain ⟨version, chain, msg, sender, nonce, fee, gas, payload, alg, keyVersion, content, _⟩ := known
  simp only [decodeTx, bind_eq_ok, okOr_eq_ok, require_eq_ok, pure_eq_ok, mapError_eq_ok,
    decide_eq_true_eq]
  refine ⟨_, faithful.decode_encode _ _ written, _, rfl, bytes, written, (), rfl, _, collected, ?_⟩
  refine ⟨_, getUint_eq_ok.mpr ⟨version, inRange.txVersion⟩, _, getBytes_eq_ok.mpr chain, _,
    getUint_eq_ok.mpr ⟨msg, tx.msgType.asU16_lt⟩, _, getBytes_eq_ok.mpr sender, ?_⟩
  refine ⟨_, getUint_eq_ok.mpr ⟨nonce, inRange.nonce⟩, _, getUint_eq_ok.mpr ⟨fee, inRange.fee⟩, _,
    getU64Optional_envelope inRange.feeTip distinct, _, getUint_eq_ok.mpr ⟨gas, inRange.gasLimit⟩, ?_⟩
  refine ⟨_, getBytes_eq_ok.mpr payload, _, getUint_eq_ok.mpr ⟨alg, tx.sigAlgId.asU16_lt⟩, _,
    getUint_eq_ok.mpr ⟨keyVersion, inRange.sigKeyVersion⟩, _, getBytes_eq_ok.mpr content, ?_⟩
  refine ⟨_, tx.msgType.fromU16_asU16, _, tx.sigAlgId.fromU16_asU16, _,
    decodeSigEnvelope_encode sealed, (), rfl, tx.sender, ?_, ?_⟩
  · simp [Bytes32.ofBytes?, tx.sender.length_eq]
  · by_cases zero : tx.feeTip = 0
    · cases tx
      simp_all
    · simp [zero]

/-- The decoder is canonical on the inputs that have their keys in order, and only there. -/
theorem decodeTx_canonical (env : Env) (faithful : FaithfulCbor env) (bytes : Bytes)
    (tx : Transaction) (decoded : decodeTx env bytes = .ok tx) :
    (encodeTx env tx = .ok bytes ↔ CanonicalInput env bytes) ∧
      (CanonicalInput env bytes → ∀ other, decodeTx env other = .ok tx → CanonicalInput env other →
        other = bytes) := by
  refine ⟨encodeTx_iff_canonical faithful decoded, fun canonical other decodedOther otherCanonical => ?_⟩
  have encoded := (encodeTx_iff_canonical faithful decoded).mpr canonical
  rw [(encodeTx_iff_canonical faithful decodedOther).mpr otherCanonical] at encoded
  exact Except.ok.inj encoded

end Decoding

section Malleability

def sampleTx : Transaction where
  txVersion := 1
  chainId := []
  msgType := .tokenTransfer
  sender := Bytes32.fill 1
  nonce := 0
  fee := 100
  feeTip := 0
  gasLimit := 100
  payload := []
  sigAlgId := .mlDsa65
  sigKeyVersion := 1
  signature := [9]

def sampleEntries (withTip : Bool) : List (Value × Value) :=
  envelopeEntries sampleTx withTip ++ [entry 12 (.bytes [1, 2, 0, 1, 0, 9])]

def canonicalBytes : Bytes := CborFormat.write (.map (sampleEntries false))

def reversedBytes : Bytes := CborFormat.write (.map (sampleEntries false).reverse)

def extendedBytes : Bytes := CborFormat.write (.map (sampleEntries false ++ [entry 13 .null]))

def zeroTipBytes : Bytes := CborFormat.write (.map (sampleEntries true))

/-- One transaction has four encodings that the decoder accepts, with four hashes. -/
theorem transactionBytes_malleable :
    FaithfulCbor sampleEnv ∧ encodeTx sampleEnv sampleTx = .ok canonicalBytes ∧
      (∀ bytes ∈ [canonicalBytes, reversedBytes, extendedBytes, zeroTipBytes],
        decodeTx sampleEnv bytes = .ok sampleTx) ∧
      ([canonicalBytes, reversedBytes, extendedBytes, zeroTipBytes].map
        (computeTxHash sampleEnv)).Nodup := by
  exact ⟨sampleEnv_faithful, by decide +kernel, by decide +kernel, by decide +kernel⟩

theorem decodeTx_canonical_sample :
    encodeTx sampleEnv sampleTx = .ok canonicalBytes ∧ CanonicalInput sampleEnv canonicalBytes := by
  have canonical := decodeTx_canonical sampleEnv sampleEnv_faithful canonicalBytes sampleTx
    (by decide +kernel)
  have encoded : encodeTx sampleEnv sampleTx = .ok canonicalBytes := by decide +kernel
  exact ⟨encoded, canonical.1.mp encoded⟩

end Malleability

end ViperChain
