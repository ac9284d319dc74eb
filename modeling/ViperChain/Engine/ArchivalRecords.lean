import ViperChain.Engine.RosterRuns

/-!
Archival records. The signatures of a submission are checked as they are listed; what is
stored is sorted by signer, with one signature for each.
-/

namespace ViperChain

open Fallible

variable {env : Env} {store next : StateStore}

section StoredSigners

variable {signers : List (Address × Bytes)}

theorem dedupSigners_sublist (signers : List (Address × Bytes)) :
    (dedupSigners signers).Sublist signers := by
  induction signers using dedupSigners.induct with
  | case1 => simp [dedupSigners]
  | case2 signer => simp [dedupSigners]
  | case3 first second rest same ih =>
      rw [dedupSigners, if_pos same]
      exact ih.trans ((List.sublist_cons_self second rest).cons_cons first)
  | case4 first second rest different ih =>
      rw [dedupSigners, if_neg different]
      exact ih.cons_cons first

theorem below_rest {first second : Address × Bytes} {rest : List (Address × Bytes)}
    (sorted : (first :: second :: rest).Pairwise fun left right => left.1 ≤ right.1)
    (different : first.1 ≠ second.1) : ∀ other ∈ second :: rest, first.1 < other.1 := by
  obtain ⟨first_le, sorted⟩ := List.pairwise_cons.mp sorted
  have lower : first.1 < second.1 := lt_of_le_of_ne (first_le second List.mem_cons_self) different
  intro other member
  rcases List.mem_cons.mp member with rfl | member
  · exact lower
  · exact lower.trans_le (List.rel_of_pairwise_cons sorted member)

theorem dedupSigners_increasing
    (sorted : signers.Pairwise fun left right => left.1 ≤ right.1) :
    (dedupSigners signers).Pairwise fun left right => left.1 < right.1 := by
  induction signers using dedupSigners.induct with
  | case1 => simp [dedupSigners]
  | case2 signer => simp [dedupSigners]
  | case3 first second rest same ih =>
      rw [dedupSigners, if_pos same]
      exact ih (sorted.sublist ((List.sublist_cons_self second rest).cons_cons first))
  | case4 first second rest different ih =>
      rw [dedupSigners, if_neg different, List.pairwise_cons]
      refine ⟨fun other member => ?_, ih sorted.of_cons⟩
      exact below_rest sorted different other ((dedupSigners_sublist _).subset member)

theorem mem_dedupSigners {signer : Address × Bytes}
    (sorted : signers.Pairwise fun left right => left.1 ≤ right.1) :
    signer ∈ dedupSigners signers ↔
      signers.find? (fun other => other.1 = signer.1) = some signer := by
  induction signers using dedupSigners.induct with
  | case1 => simp [dedupSigners]
  | case2 other =>
      simp only [dedupSigners, List.mem_singleton, List.find?_cons, List.find?_nil]
      split <;> grind
  | case3 first second rest same ih =>
      rw [dedupSigners, if_pos same, ih (sorted.sublist
        ((List.sublist_cons_self second rest).cons_cons first))]
      simp only [List.find?_cons, same]
      split <;> simp_all
  | case4 first second rest different ih =>
      rw [dedupSigners, if_neg different, List.mem_cons, ih sorted.of_cons]
      by_cases found : first.1 = signer.1
      · have absent : (second :: rest).find? (fun other => other.1 = signer.1) = none := by
          rw [List.find?_eq_none]
          intro other member
          have lower := below_rest sorted different other member
          simp [← found, lower.ne']
        rw [absent, List.find?_cons_of_pos (by simpa using found)]
        simp [eq_comm]
      · rw [@List.find?_cons_of_neg _ _ first _ (by simpa using found)]
        constructor
        · rintro (rfl | later)
          · exact absurd rfl found
          · exact later
        · exact .inr

def storedSigners (listed : List (Address × Bytes)) : List (Address × Bytes) :=
  dedupSigners (listed.insertionSort fun left right => left.1 ≤ right.1)

theorem sorted_insertionSort (listed : List (Address × Bytes)) :
    (listed.insertionSort fun left right => left.1 ≤ right.1).Pairwise
      fun left right => left.1 ≤ right.1 := by
  have : Std.Total fun left right : Address × Bytes => left.1 ≤ right.1 :=
    ⟨fun left right => le_total left.1 right.1⟩
  have : IsTrans (Address × Bytes) fun left right => left.1 ≤ right.1 :=
    ⟨fun _ _ _ => le_trans⟩
  exact List.pairwise_insertionSort _ listed

theorem storedSigners_increasing (listed : List (Address × Bytes)) :
    (storedSigners listed).Pairwise fun left right => left.1 < right.1 :=
  dedupSigners_increasing (sorted_insertionSort listed)

theorem find?_insertionSort (listed : List (Address × Bytes)) (address : Address) :
    (listed.insertionSort fun left right => left.1 ≤ right.1).find? (fun other => other.1 = address) =
      listed.find? fun other => other.1 = address := by
  induction listed with
  | nil => rfl
  | cons signer listed ih =>
      rw [List.insertionSort_cons_eq_take_drop]
      by_cases found : signer.1 = address
      · have skipped : ((listed.insertionSort fun left right => left.1 ≤ right.1).takeWhile
            fun other => ¬signer.1 ≤ other.1).find? (fun other => other.1 = address) = none := by
          rw [List.find?_eq_none]
          intro other member
          have lower := List.mem_takeWhile_imp member
          simp only [not_le, decide_eq_true_eq] at lower
          simp [← found, lower.ne]
        rw [List.find?_append, skipped, Option.none_or,
          List.find?_cons_of_pos (by simpa using found), List.find?_cons_of_pos (by simpa using found)]
      · rw [List.find?_append, List.find?_cons_of_neg (by simpa using found), ← List.find?_append,
          List.takeWhile_append_dropWhile, ih, List.find?_cons_of_neg (by simpa using found)]

theorem mem_storedSigners {listed : List (Address × Bytes)} {signer : Address × Bytes} :
    signer ∈ storedSigners listed ↔
      listed.find? (fun other => other.1 = signer.1) = some signer := by
  rw [storedSigners, mem_dedupSigners (sorted_insertionSort listed), find?_insertionSort]

theorem storedSigners_subset {listed : List (Address × Bytes)} {signer : Address × Bytes}
    (stored : signer ∈ storedSigners listed) : signer ∈ listed :=
  List.mem_of_find?_eq_some (mem_storedSigners.mp stored)

theorem first_listed {listed : List (Address × Bytes)} {signer : Address × Bytes}
    (member : signer ∈ listed) :
    ∃ first, listed.find? (fun other => other.1 = signer.1) = some first ∧ first.1 = signer.1 := by
  obtain ⟨first, found⟩ : ∃ first, listed.find? (fun other => other.1 = signer.1) = some first :=
    Option.isSome_iff_exists.mp (List.find?_isSome.mpr ⟨signer, member, by simp⟩)
  exact ⟨first, found, by simpa using List.find?_some found⟩

theorem storedSigners_count (listed : List (Address × Bytes)) :
    (storedSigners listed).length = (listed.map Prod.fst).dedup.length := by
  have distinct : ((storedSigners listed).map Prod.fst).Nodup :=
    List.pairwise_map.mpr ((storedSigners_increasing listed).imp fun lower => lower.ne)
  have same : ((storedSigners listed).map Prod.fst).Perm (listed.map Prod.fst).dedup := by
    rw [List.perm_ext_iff_of_nodup distinct (List.nodup_dedup _)]
    intro address
    simp only [List.mem_map, List.mem_dedup]
    constructor
    · rintro ⟨signer, stored, rfl⟩
      exact ⟨signer, storedSigners_subset stored, rfl⟩
    · rintro ⟨signer, member, rfl⟩
      obtain ⟨first, found, address⟩ := first_listed member
      exact ⟨first, mem_storedSigners.mpr (by rw [address, found]), address⟩
  rw [← same.length_eq, List.length_map]

def SignsOnce (listed : List (Address × Bytes)) : Prop :=
  ∀ left ∈ listed, ∀ right ∈ listed, left.1 = right.1 → left.2 = right.2

theorem SignsOnce.mem_storedSigners {listed : List (Address × Bytes)} (once : SignsOnce listed)
    {signer : Address × Bytes} : signer ∈ storedSigners listed ↔ signer ∈ listed := by
  refine ⟨storedSigners_subset, fun member => ?_⟩
  obtain ⟨first, found, address⟩ := first_listed member
  have signature := once first (List.mem_of_find?_eq_some found) signer member address
  rw [ViperChain.mem_storedSigners, found, Prod.ext address signature]

theorem storedSigners_perm_iff (listed : List (Address × Bytes)) :
    (∀ other, other.Perm listed → storedSigners other = storedSigners listed) ↔ SignsOnce listed := by
  constructor
  · intro stable left leftListed right rightListed address
    have first {signer : Address × Bytes} (member : signer ∈ listed) :
        signer ∈ storedSigners listed := by
      rw [← stable _ (List.perm_cons_erase member).symm, mem_storedSigners,
        List.find?_cons_of_pos (by simp)]
    have found := mem_storedSigners.mp (first leftListed)
    rw [address, mem_storedSigners.mp (first rightListed), Option.some_inj] at found
    rw [found]
  · intro once other perm
    have onceOther : SignsOnce other := fun left leftListed right rightListed =>
      once left (perm.mem_iff.mp leftListed) right (perm.mem_iff.mp rightListed)
    have : Std.Antisymm fun left right : Address × Bytes => left.1 < right.1 :=
      ⟨fun _ _ lower upper => absurd upper lower.not_gt⟩
    have : Std.Irrefl fun left right : Address × Bytes => left.1 < right.1 := ⟨fun _ => lt_irrefl _⟩
    refine (storedSigners_increasing other).eq_of_mem_iff (storedSigners_increasing listed)
      fun signer => ?_
    rw [onceOther.mem_storedSigners, once.mem_storedSigners, perm.mem_iff]

end StoredSigners

section Submission

def submittedRecord (payload : ArchivalRecordSubmitPayload) : ArchivalRecord where
  epochNumber := payload.epochNumber
  epochRoot := payload.epochRoot
  signerAddresses := (storedSigners payload.slhSigSet).map Prod.fst
  slhSignatures := (storedSigners payload.slhSigSet).map Prod.snd
  timestampAnchors := []
  evidenceRecordVersion := 0

def recordSubmission (env : Env) (store : StateStore) (payload : ArchivalRecordSubmitPayload)
    (height : Nat) (verifier : SignatureVerifier) : Except ApplyError StateStore := do
  require (payload.epochNumber ≤ currentEpochNumber height) .archivalEpochInFuture
  require (store.getArchivalRecord payload.epochNumber).isNone .duplicateArchivalRecord
  let threshold := store.archivalThreshold.1
  require (threshold ≤ (payload.slhSigSet.map Prod.fst).dedup.length) .archivalThresholdNotMet
  require (payload.slhSigSet.all fun signer => store.isArchivalSigner signer.1)
    .archivalSignerNotAuthorized
  let preimage := archivalSigPreimage env (.viperResearch1 env) payload.epochNumber payload.epochRoot
  payload.slhSigSet.forM (verifyArchivalSignature store preimage verifier)
  require (threshold ≤ min payload.slhSigSet.length u32Max) .archivalThresholdNotMet
  return store.insertArchivalRecord env (submittedRecord payload)

theorem applyArchivalRecordSubmit_eq (store : StateStore) (tx : Transaction) (height : Nat)
    (verifier : SignatureVerifier) :
    applyArchivalRecordSubmit env store tx height verifier =
      (decodeArchivalRecordSubmitPayload env tx.payload >>= fun payload =>
        recordSubmission env store payload height verifier) := rfl

structure SubmissionChecked (env : Env) (store : StateStore) (payload : ArchivalRecordSubmitPayload)
    (height : Nat) (verifier : SignatureVerifier) : Prop where
  due : payload.epochNumber ≤ currentEpochNumber height
  first : store.getArchivalRecord payload.epochNumber = none
  enough : store.archivalThreshold.1 ≤ (payload.slhSigSet.map Prod.fst).dedup.length
  authorized : ∀ signer ∈ payload.slhSigSet, store.isArchivalSigner signer.1 = true
  verified : ∀ signer ∈ payload.slhSigSet, verifyArchivalSignature store
    (archivalSigPreimage env (.viperResearch1 env) payload.epochNumber payload.epochRoot) verifier
    signer = .ok ()
  counted : store.archivalThreshold.1 ≤ min payload.slhSigSet.length u32Max

theorem recordSubmission_eq_ok {payload : ArchivalRecordSubmitPayload} {height : Nat}
    {verifier : SignatureVerifier} :
    recordSubmission env store payload height verifier = .ok next ↔
      SubmissionChecked env store payload height verifier ∧
        next = store.insertArchivalRecord env (submittedRecord payload) := by
  simp only [recordSubmission, bind_eq_ok, require_eq_ok, pure_eq_ok, decide_eq_true_eq,
    Option.isNone_iff_eq_none, List.all_eq_true, forM_eq_ok, exists_const]
  constructor
  · rintro ⟨due, first, enough, authorized, verified, counted, rfl⟩
    exact ⟨⟨due, first, enough, authorized, verified, counted⟩, rfl⟩
  · rintro ⟨checked, rfl⟩
    exact ⟨checked.due, checked.first, checked.enough, checked.authorized, checked.verified,
      checked.counted, rfl⟩

theorem SubmissionChecked.perm {payload : ArchivalRecordSubmitPayload} {height : Nat}
    {verifier : SignatureVerifier} (checked : SubmissionChecked env store payload height verifier)
    {listed : List (Address × Bytes)} (perm : listed.Perm payload.slhSigSet) :
    SubmissionChecked env store { payload with slhSigSet := listed } height verifier where
  due := checked.due
  first := checked.first
  enough := by
    rw [(perm.map Prod.fst).dedup.length_eq]
    exact checked.enough
  authorized := fun signer member => checked.authorized signer (perm.mem_iff.mp member)
  verified := fun signer member => checked.verified signer (perm.mem_iff.mp member)
  counted := by
    rw [perm.length_eq]
    exact checked.counted

structure ArchivalRecord.Authentic (env : Env) (store : StateStore) (verifier : SignatureVerifier)
    (record : ArchivalRecord) : Prop where
  signed : record.signerAddresses ≠ []
  threshold : store.archivalThreshold.1 ≤ record.signerAddresses.length
  increasing : record.signerAddresses.Pairwise (· < ·)
  verified : List.Forall₂ (fun address signature =>
      store.isArchivalSigner address = true ∧
      ∃ key algId, store.getArchivalKey address = some key ∧
        AlgId.fromU16 key.archivalAlgId = some algId ∧
        verifier ⟨algId, key.archivalPk⟩
          (archivalSigPreimage env (.viperResearch1 env) record.epochNumber record.epochRoot)
          ⟨algId, signature⟩ = .ok ())
    record.signerAddresses record.slhSignatures

theorem storedSigners_ne_nil {listed : List (Address × Bytes)} :
    storedSigners listed ≠ [] ↔ listed ≠ [] := by
  constructor
  · rintro stored rfl
    exact stored (by simp [storedSigners, dedupSigners])
  · intro signed
    obtain ⟨signer, member⟩ := List.exists_mem_of_ne_nil listed signed
    obtain ⟨first, found, address⟩ := first_listed member
    exact List.ne_nil_of_mem (mem_storedSigners.mpr (by rw [address, found]) : first ∈ _)

theorem SubmissionChecked.authentic_iff {payload : ArchivalRecordSubmitPayload} {height : Nat}
    {verifier : SignatureVerifier} (checked : SubmissionChecked env store payload height verifier) :
    (submittedRecord payload).Authentic env store verifier ↔ payload.slhSigSet ≠ [] := by
  constructor
  · intro authentic
    have signed := authentic.signed
    simp only [submittedRecord, ne_eq, List.map_eq_nil_iff] at signed
    exact storedSigners_ne_nil.mp signed
  · intro signed
    constructor
    case signed =>
      simp only [submittedRecord, ne_eq, List.map_eq_nil_iff]
      exact storedSigners_ne_nil.mpr signed
    case threshold =>
      rw [submittedRecord, List.length_map, storedSigners_count]
      exact checked.enough
    case increasing => exact List.pairwise_map.mpr (storedSigners_increasing payload.slhSigSet)
    case verified =>
      simp only [submittedRecord, List.forall₂_map_left_iff, List.forall₂_map_right_iff,
        List.forall₂_same]
      intro signer stored
      have listed := storedSigners_subset stored
      have verified := checked.verified signer listed
      simp only [verifyArchivalSignature, bind_eq_ok, okOr_eq_ok, mapError_eq_ok] at verified
      obtain ⟨key, registered, algId, known, signature⟩ := verified
      exact ⟨checked.authorized signer listed, key, algId, registered, known, signature⟩

theorem getArchivalRecord_submitted (payload : ArchivalRecordSubmitPayload) :
    (store.insertArchivalRecord env (submittedRecord payload)).getArchivalRecord payload.epochNumber =
      some (submittedRecord payload) := by
  simp [StateStore.getArchivalRecord, StateStore.insertArchivalRecord, submittedRecord]

/-- An accepted submission stores an authentic record, whatever order its pairs were listed
in, exactly when somebody has signed and nobody has signed in two ways. -/
theorem archivalRecords_authentic (env : Env) (store : StateStore) (tx : Transaction) (height : Nat)
    (verifier : SignatureVerifier) (next : StateStore)
    (accepted : applyArchivalRecordSubmit env store tx height verifier = .ok next) :
    ∃ payload record, decodeArchivalRecordSubmitPayload env tx.payload = .ok payload ∧
      next.getArchivalRecord payload.epochNumber = some record ∧
      record.epochNumber = payload.epochNumber ∧ record.epochRoot = payload.epochRoot ∧
      (record.Authentic env store verifier ∧
          (∀ listed, listed.Perm payload.slhSigSet → ∃ other,
            recordSubmission env store { payload with slhSigSet := listed } height verifier = .ok other ∧
            other.getArchivalRecord payload.epochNumber = some record) ↔
        payload.slhSigSet ≠ [] ∧ SignsOnce payload.slhSigSet) := by
  rw [applyArchivalRecordSubmit_eq, bind_eq_ok] at accepted
  obtain ⟨payload, decoded, submitted⟩ := accepted
  obtain ⟨checked, rfl⟩ := recordSubmission_eq_ok.mp submitted
  refine ⟨payload, submittedRecord payload, decoded, getArchivalRecord_submitted payload, rfl, rfl, ?_⟩
  refine and_congr checked.authentic_iff ?_
  rw [← storedSigners_perm_iff]
  constructor
  · intro stable listed perm
    obtain ⟨other, submitted, found⟩ := stable listed perm
    obtain ⟨_, rfl⟩ := recordSubmission_eq_ok.mp submitted
    have stored := @getArchivalRecord_submitted env store { payload with slhSigSet := listed }
    rw [found, Option.some_inj] at stored
    have addresses := congrArg ArchivalRecord.signerAddresses stored
    have signatures := congrArg ArchivalRecord.slhSignatures stored
    exact (List.zip_of_prod addresses.symm signatures.symm).trans (List.zip_of_prod rfl rfl).symm
  · intro stable listed perm
    refine ⟨_, recordSubmission_eq_ok.mpr ⟨checked.perm perm, rfl⟩, ?_⟩
    rw [getArchivalRecord_submitted { payload with slhSigSet := listed }]
    simp only [submittedRecord, stable listed perm]

def submission (signers : List (Address × Bytes)) : Value :=
  .map
    [ (.integer 1, .integer 0), (.integer 2, .integer 0), (.integer 3, .integer 0),
      (.integer 4, .bytes (List.replicate 32 6)),
      (.integer 5, .array (signers.map fun signer => .array [.bytes signer.1.data, .bytes signer.2])) ]

def archivalPk : Bytes := List.replicate 64 2

def keyed : StateStore :=
  produceWith sampleGenesis (authorTx .validatorRegisterArchivalKey 0 1000 (.map
    [(.integer 1, .integer AlgId.slhDsaShake256s.asU16), (.integer 2, .bytes archivalPk)]))

def saltedVerifier : SignatureVerifier := fun publicKey message signature =>
  if signature.bytes.dropLast = publicKey.bytes ++ message then .ok ()
  else .error .verificationFailed

def saltedSignature (salt : Byte) : Bytes :=
  archivalPk ++ archivalSigPreimage sampleEnv (.viperResearch1 sampleEnv) 0 (Bytes32.fill 6) ++ [salt]

def submitTx (signers : List (Address × Bytes)) : Transaction :=
  authorTx .archivalRecordSubmit 1 0 (submission signers)

def storedFor (store : StateStore) (signers : List (Address × Bytes)) :
    Option (List Address × List Bytes) :=
  ((applyArchivalRecordSubmit sampleEnv store (submitTx signers) store.blockHeight
    saltedVerifier).toOption.bind fun next => next.getArchivalRecord 0).map fun record =>
      (record.signerAddresses, record.slhSignatures)

/-- Before the first archival key a record without signatures is accepted; afterwards a signer may
sign twice, and the order of the list decides. -/
theorem archivalRecord_unsigned_or_reordered :
    sampleGenesis.OnChain sampleEnv ∧ storedFor sampleGenesis [] = some ([], []) ∧
      keyed.OnChain sampleEnv ∧
      storedFor keyed [(author, saltedSignature 0), (author, saltedSignature 1)] =
        some ([author], [saltedSignature 0]) ∧
      storedFor keyed [(author, saltedSignature 1), (author, saltedSignature 0)] =
        some ([author], [saltedSignature 1]) :=
  ⟨sampleGenesis_onChain, by decide +kernel, produce_onChain sampleGenesis_onChain _,
    by decide +kernel, by decide +kernel⟩

theorem archivalRecords_authentic_keyed :
    ∃ next record, applyArchivalRecordSubmit sampleEnv keyed
        (submitTx [(author, saltedSignature 0)]) 1 saltedVerifier = .ok next ∧
      next.getArchivalRecord 0 = some record ∧ record.Authentic sampleEnv keyed saltedVerifier := by
  have ran : (applyArchivalRecordSubmit sampleEnv keyed (submitTx [(author, saltedSignature 0)]) 1
      saltedVerifier).toOption.map (fun _ => ()) = some () := by decide +kernel
  have read : (decodeArchivalRecordSubmitPayload sampleEnv
      (submitTx [(author, saltedSignature 0)]).payload).toOption.map
      (fun payload => (payload.epochNumber, payload.slhSigSet)) =
        some (0, [(author, saltedSignature 0)]) := by decide +kernel
  obtain ⟨next, accepted, _⟩ := exists_ok_of_toOption ran
  obtain ⟨payload, record, decoded, found, _, _, authentic⟩ :=
    archivalRecords_authentic sampleEnv keyed _ 1 saltedVerifier next accepted
  rw [decoded] at read
  simp only [Except.toOption, Option.map_some, Option.some_inj, Prod.mk.injEq] at read
  obtain ⟨epoch, signers⟩ := read
  refine ⟨next, record, accepted, epoch ▸ found, (authentic.mpr ⟨by simp [signers], ?_⟩).1⟩
  rw [signers]
  intro left leftListed right rightListed _
  rw [List.mem_singleton.mp leftListed, List.mem_singleton.mp rightListed]

end Submission

end ViperChain
