import ViperChain.State.LeafBinding

/-!
The genesis validators root, from which the fork digest of a network is derived: a hash
over one leaf for each validator, in the order of their addresses.
-/

namespace ViperChain

def genesisValidatorLeafDomain : Bytes := ascii "VIPER-VALIDATOR-GENESIS-LEAF-V1"

def genesisValidatorsRootDomain : Bytes := ascii "VIPER-VALIDATORS-ROOT-V1"

def computeGenesisValidatorLeaf (env : Env) (address : Address) (algId : AlgId)
    (consensusPk : Bytes) : Bytes32 :=
  (((((TaggedHasher.new env genesisValidatorLeafDomain).pushChunk address.data).pushChunk
    (be16 algId.asU16)).pushU64 consensusPk.length).pushChunk consensusPk).finish env

section Order

variable {A : Type}

def ByAddress (left right : Address × A) : Prop := left.1 ≤ right.1

instance : DecidableRel (@ByAddress A) := fun left right =>
  inferInstanceAs (Decidable (left.1 ≤ right.1))

instance : Std.Total (@ByAddress A) where
  total left right := le_total left.1 right.1

instance : IsTrans (Address × A) ByAddress where
  trans _ _ _ := le_trans

theorem sort_eq_of_perm {left right : List (Address × A)} (perm : left.Perm right)
    (distinct : (right.map Prod.fst).Nodup) :
    left.insertionSort ByAddress = right.insertionSort ByAddress := by
  have sortedPerm : (left.insertionSort ByAddress).Perm (right.insertionSort ByAddress) :=
    (List.perm_insertionSort _ _).trans (perm.trans (List.perm_insertionSort _ _).symm)
  refine List.Perm.eq_of_pairwise ?_ (List.pairwise_insertionSort _ _)
    (List.pairwise_insertionSort _ _) sortedPerm
  intro first second firstListed secondListed before after
  have firstMember : first ∈ right :=
    (List.mem_insertionSort _).mp (sortedPerm.mem_iff.mp firstListed)
  have secondMember : second ∈ right := (List.mem_insertionSort _).mp secondListed
  exact List.inj_on_of_nodup_map distinct firstMember secondMember (le_antisymm before after)

end Order

def computeGenesisValidatorsRoot (env : Env) (validators : List (Address × AlgId × Bytes)) :
    Bytes32 :=
  let entries := validators.map fun validator =>
    (validator.1, computeGenesisValidatorLeaf env validator.1 validator.2.1 validator.2.2)
  let sorted := entries.insertionSort ByAddress
  (sorted.foldl (fun hasher entry => hasher.pushChunk entry.2.data)
    (TaggedHasher.new env genesisValidatorsRootDomain)).finish env

variable {env : Env}

section Binding

def genesisLeafChunks (validator : Address × AlgId × Bytes) : List Bytes :=
  [validator.1.data, be16 validator.2.1.asU16, be64 validator.2.2.length, validator.2.2]

def genesisLeaf (env : Env) (validator : Address × AlgId × Bytes) : Bytes32 :=
  computeGenesisValidatorLeaf env validator.1 validator.2.1 validator.2.2

theorem genesisLeaf_eq (validator : Address × AlgId × Bytes) :
    genesisLeaf env validator =
      taggedHash env genesisValidatorLeafDomain (frames (genesisLeafChunks validator)) := by
  rw [← finish_pushChunks]
  rfl

def genesisOrder (validators : List (Address × AlgId × Bytes)) : List (Address × AlgId × Bytes) :=
  validators.insertionSort ByAddress

def genesisRootFrames (env : Env) (validators : List (Address × AlgId × Bytes)) : Bytes :=
  frames ((genesisOrder validators).map fun validator => (genesisLeaf env validator).data)

theorem computeGenesisValidatorsRoot_eq (validators : List (Address × AlgId × Bytes)) :
    computeGenesisValidatorsRoot env validators =
      taggedHash env genesisValidatorsRootDomain (genesisRootFrames env validators) := by
  let entry : Address × AlgId × Bytes → Address × Bytes32 :=
    fun validator => (validator.1, genesisLeaf env validator)
  have order : (validators.map entry).insertionSort ByAddress = (genesisOrder validators).map entry :=
    (List.map_insertionSort ByAddress ByAddress entry validators fun _ _ _ _ => Iff.rfl).symm
  change (((validators.map entry).insertionSort ByAddress).foldl
    (fun hasher entry => TaggedHasher.pushChunk hasher entry.2.data) _).finish env = _
  rw [genesisRootFrames, ← finish_pushChunks, order, List.foldl_map, TaggedHasher.pushChunks,
    List.foldl_map]

def genesisLeafQuery (validator : Address × AlgId × Bytes) : Bytes × Bytes :=
  (genesisValidatorLeafDomain, frames (genesisLeafChunks validator))

def genesisQueries (env : Env) (validators : List (Address × AlgId × Bytes)) :
    List (Bytes × Bytes) :=
  (genesisValidatorsRootDomain, genesisRootFrames env validators) ::
    validators.map genesisLeafQuery

variable {left right : Address × AlgId × Bytes}

theorem genesisLeafChunks_injective (same : genesisLeafChunks left = genesisLeafChunks right) :
    left = right := by
  obtain ⟨leftAddress, leftAlg, leftKey⟩ := left
  obtain ⟨rightAddress, rightAlg, rightKey⟩ := right
  simp only [genesisLeafChunks, List.cons.injEq, and_true] at same
  obtain ⟨address, alg, _, rfl⟩ := same
  obtain rfl := Bytes32.data_injective address
  obtain rfl := algId_injective alg
  rfl

theorem genesisLeafChunks_short (validator : Address × AlgId × Bytes)
    (short : validator.2.2.length < 2 ^ 64) :
    ∀ chunk ∈ genesisLeafChunks validator, chunk.length < 2 ^ 64 := by
  have address := validator.1.length_eq
  simp only [genesisLeafChunks, List.forall_mem_cons, List.not_mem_nil, false_implies, implies_true,
    and_true, be16, be64, toBeBytes_length, address]
  exact ⟨by decide, by decide, by decide, short⟩

theorem genesisLeaf_injective {queries : List (Bytes × Bytes)} (free : CollisionFree env queries)
    (leftAsked : genesisLeafQuery left ∈ queries) (rightAsked : genesisLeafQuery right ∈ queries)
    (leftShort : left.2.2.length < 2 ^ 64) (rightShort : right.2.2.length < 2 ^ 64)
    (same : genesisLeaf env left = genesisLeaf env right) : left = right := by
  rw [genesisLeaf_eq, genesisLeaf_eq] at same
  have absorbed := free _ leftAsked _ rightAsked same
  exact genesisLeafChunks_injective (frames_injective (genesisLeafChunks_short left leftShort)
    (genesisLeafChunks_short right rightShort) (Prod.mk.inj absorbed).2)

end Binding

section Identity

variable {left right : List (Address × AlgId × Bytes)}

theorem computeGenesisValidatorsRoot_perm (perm : left.Perm right)
    (distinct : (right.map Prod.fst).Nodup) :
    computeGenesisValidatorsRoot env left = computeGenesisValidatorsRoot env right := by
  have order : genesisOrder left = genesisOrder right := sort_eq_of_perm perm distinct
  simp only [computeGenesisValidatorsRoot_eq, genesisRootFrames, order]

theorem genesisOrder_eq_of_root (leftShort : ∀ validator ∈ left, validator.2.2.length < 2 ^ 64)
    (rightShort : ∀ validator ∈ right, validator.2.2.length < 2 ^ 64)
    (free : CollisionFree env (genesisQueries env left ++ genesisQueries env right))
    (same : computeGenesisValidatorsRoot env left = computeGenesisValidatorsRoot env right) :
    genesisOrder left = genesisOrder right := by
  rw [computeGenesisValidatorsRoot_eq, computeGenesisValidatorsRoot_eq] at same
  have absorbed := free (genesisValidatorsRootDomain, genesisRootFrames env left)
    (by simp [genesisQueries]) (genesisValidatorsRootDomain, genesisRootFrames env right)
    (by simp [genesisQueries]) same
  have short : ∀ validators : List (Address × AlgId × Bytes),
      ∀ chunk ∈ validators.map (fun validator => (genesisLeaf env validator).data),
        chunk.length < 2 ^ 64 := by
    intro validators chunk member
    obtain ⟨validator, _, rfl⟩ := List.mem_map.mp member
    simp [Bytes32.length_eq]
  have leaves := frames_injective (short _) (short _) (Prod.mk.inj absorbed).2
  -- The leaves stand in the same order, so validators at the same place have the same leaf.
  have lengths : (genesisOrder left).length = (genesisOrder right).length := by
    simpa using congrArg List.length leaves
  refine List.ext_getElem lengths fun index leftInside rightInside => ?_
  have leaf : (genesisLeaf env (genesisOrder left)[index]).data =
      (genesisLeaf env (genesisOrder right)[index]).data := by
    have both := congrArg (fun chunks => chunks[index]?) leaves
    simpa [List.getElem?_eq_getElem leftInside, List.getElem?_eq_getElem rightInside] using both
  have leftMember : (genesisOrder left)[index] ∈ left :=
    (List.mem_insertionSort _).mp (List.getElem_mem leftInside)
  have rightMember : (genesisOrder right)[index] ∈ right :=
    (List.mem_insertionSort _).mp (List.getElem_mem rightInside)
  refine genesisLeaf_injective free ?_ ?_ (leftShort _ leftMember) (rightShort _ rightMember)
    (Bytes32.data_injective leaf)
  · exact List.mem_append_left _ (List.mem_cons_of_mem _ (List.mem_map_of_mem leftMember))
  · exact List.mem_append_right _ (List.mem_cons_of_mem _ (List.mem_map_of_mem rightMember))

/-- A list of genesis validators has one root in every order, and no other list has it. -/
theorem genesisValidatorsRoot_identifies (env : Env) (left right : List (Address × AlgId × Bytes))
    (distinct : (right.map Prod.fst).Nodup)
    (leftShort : ∀ validator ∈ left, validator.2.2.length < 2 ^ 64)
    (rightShort : ∀ validator ∈ right, validator.2.2.length < 2 ^ 64) :
    (left.Perm right →
      computeGenesisValidatorsRoot env left = computeGenesisValidatorsRoot env right) ∧
    (CollisionFree env (genesisQueries env left ++ genesisQueries env right) →
      computeGenesisValidatorsRoot env left = computeGenesisValidatorsRoot env right →
        left.Perm right) := by
  constructor
  · exact fun perm => computeGenesisValidatorsRoot_perm perm distinct
  · intro free same
    have order := genesisOrder_eq_of_root leftShort rightShort free same
    have leftPerm : (genesisOrder left).Perm left := List.perm_insertionSort _ _
    exact leftPerm.symm.trans (order ▸ List.perm_insertionSort _ _)

def launchValidators : List (Address × AlgId × Bytes) :=
  [(Bytes32.fill 2, .mlDsa65, [1, 2]), (Bytes32.fill 1, .mlDsa87, [3])]

theorem genesisValidatorsRoot_identifies_two :
    computeGenesisValidatorsRoot sampleEnv launchValidators =
        computeGenesisValidatorsRoot sampleEnv launchValidators.reverse ∧
      CollisionFree sampleEnv (genesisQueries sampleEnv launchValidators ++
        genesisQueries sampleEnv launchValidators.reverse) ∧
      launchValidators.Perm launchValidators.reverse := by
  have identifies := genesisValidatorsRoot_identifies sampleEnv launchValidators
    launchValidators.reverse (by decide) (by decide) (by decide)
  have free : CollisionFree sampleEnv (genesisQueries sampleEnv launchValidators ++
      genesisQueries sampleEnv launchValidators.reverse) := by decide +kernel
  have same := identifies.1 (by decide)
  exact ⟨same, free, identifies.2 free same⟩

end Identity

end ViperChain
