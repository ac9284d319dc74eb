import ViperChain.Assumptions
import ViperChain.Library.MerkleFold
import ViperChain.Library.PrefixCode
import ViperChain.State.Store

/-!
The state root binds every cached leaf: one Merkle fold stands over the leaves of all
categories, and the width of a key depends on the category alone.
-/

namespace ViperChain

open CachedTables

section Fold

variable (env : Env) (domain : Bytes)

def branchNode (pair : Bytes32 × Bytes32) : Bytes32 :=
  taggedHash env domain (pair.1.data ++ pair.2.data)

theorem merkleLayer_eq (nodes : List Bytes32) :
    merkleLayer env domain nodes = MerkleFold.layer (branchNode env domain) nodes := by
  induction nodes using merkleLayer.induct with
  | case1 => rfl
  | case2 last => rfl
  | case3 left right rest ih =>
      simp only [merkleLayer, ih, MerkleFold.layer, MerkleFold.pairs, List.map_cons, branchNode]

theorem merkleLoop_eq (fuel : Nat) (nodes : List Bytes32) :
    merkleLoop env domain fuel nodes = MerkleFold.loop (branchNode env domain) fuel nodes := by
  induction fuel generalizing nodes with
  | zero => rfl
  | succ fuel ih => simp only [merkleLoop, MerkleFold.loop, merkleLayer_eq, ih]

theorem merkleLoop_eq_root {leaves : List Bytes32} (nonempty : leaves ≠ []) :
    merkleLoop env domain leaves.length leaves = [binaryMerkleRoot env leaves domain] := by
  obtain ⟨root, single⟩ := List.length_eq_one_iff.mp
    (merkleLoop_length env domain leaves.length leaves le_rfl nonempty)
  rw [binaryMerkleRoot, single]

def foldQueries (leaves : List Bytes32) : List (Bytes × Bytes) :=
  (MerkleFold.loopPairs (branchNode env domain) leaves.length leaves).map fun pair =>
    (domain, pair.1.data ++ pair.2.data)

variable {env domain}

theorem pair_of_data {left right : Bytes32 × Bytes32}
    (same : left.1.data ++ left.2.data = right.1.data ++ right.2.data) : left = right := by
  obtain ⟨first, second⟩ := List.append_inj same (by rw [left.1.length_eq, right.1.length_eq])
  exact Prod.ext (Bytes32.ext first) (Bytes32.ext second)

theorem binaryMerkleRoot_injective {left right : List Bytes32} (nonemptyLeft : left ≠ [])
    (nonemptyRight : right ≠ []) (distinctLeft : left.Nodup) (distinctRight : right.Nodup)
    (free : CollisionFree env (foldQueries env domain left ++ foldQueries env domain right))
    (separate : ∀ query ∈ foldQueries env domain left ++ foldQueries env domain right,
      taggedHash env query.1 query.2 ∉ left ++ right)
    (same : binaryMerkleRoot env left domain = binaryMerkleRoot env right domain) : left = right := by
  have query : ∀ pair ∈ MerkleFold.loopPairs (branchNode env domain) left.length left ++
      MerkleFold.loopPairs (branchNode env domain) right.length right,
      (domain, pair.1.data ++ pair.2.data) ∈
        foldQueries env domain left ++ foldQueries env domain right := by
    intro pair member
    rw [foldQueries, foldQueries, ← List.map_append]
    exact List.mem_map_of_mem member
  refine MerkleFold.loop_injective (branchNode env domain) distinctLeft distinctRight ?_ ?_ ?_
  · intro first memberFirst second memberSecond collide
    exact pair_of_data (Prod.ext_iff.mp
      (free _ (query first memberFirst) _ (query second memberSecond) collide)).2
  · exact fun pair member => separate _ (query pair member)
  · rw [← merkleLoop_eq, ← merkleLoop_eq, merkleLoop_eq_root env domain nonemptyLeft,
      merkleLoop_eq_root env domain nonemptyRight, same]

end Fold

namespace StateStore

section Preimages

def leafDomain : Bytes := ascii "VIPER-STATE-LEAF-V1"

def branchDomain : Bytes := ascii "VIPER-STATE-BRANCH-V1"

def StateCategory.byte (category : StateCategory) : Byte := Fin.ofNat 256 category.code

def keyedBodies {K : Type} [LinearOrder K] (encodeKey : K → Bytes)
    (leaves : Std.ExtTreeMap K Bytes32) : List Bytes :=
  leaves.toList.map fun leaf => encodeKey leaf.1 ++ leaf.2.data

variable (env : Env) (store : StateStore)

def leafSections : List (StateCategory × List Bytes) :=
  [ (.blockHeight, [be64 store.blockHeight]),
    (.account, keyedBodies Bytes32.data store.accounts.leaves),
    (.attestation, keyedBodies Bytes32.data store.attestations.leaves),
    (.proofAnchor, keyedBodies Bytes32.data store.proofAnchors.leaves),
    (.consensusRotation, keyedBodies Bytes32.data store.consensusKeyRotations.leaves),
    (.algRegistry, keyedBodies be16 store.algRegistry.leaves),
    (.receipt, keyedBodies Bytes32.data store.governanceReceipts.leaves),
    (.validator, keyedBodies Bytes32.data store.validators.leaves),
    (.proposal, keyedBodies Bytes32.data store.pendingProposals.leaves),
    (.upgrade, keyedBodies Bytes32.data store.pendingUpgrades.leaves),
    (.feeMarket, [store.feeMarketLeafHash.data]),
    (.storageFund, if env.tokenEconomics then [store.storageFundLeafHash.data] else []),
    (.recentSlashes, [store.recentSlashesLeafHash.data]),
    (.peerIdBinding, keyedBodies Bytes32.data store.peerIdBindings.leaves),
    (.slashingRegistry, keyedBodies byteChunk store.slashingRegistry.leaves),
    (.hashRegistry, keyedBodies byteChunk store.hashRegistry.leaves),
    (.archivalRecord, keyedBodies be64 store.archivalRecords.leaves),
    (.archivalKey, keyedBodies Bytes32.data store.archivalKeys.leaves) ]

def leafPreimages : List Bytes :=
  ((store.leafSections env).map fun content => (content.1.byte, content.2)).flatMap
    PrefixCode.labelled

variable {env store}

theorem singleLeaf_eq (category : StateCategory) (leaf : Bytes) :
    [stateMerkleLeaf env category [] leaf] =
      (PrefixCode.labelled (category.byte, [leaf])).map (taggedHash env leafDomain) := rfl

theorem categoryLeaves_eq {K : Type} [LinearOrder K] (category : StateCategory)
    (encodeKey : K → Bytes) (leaves : Std.ExtTreeMap K Bytes32) :
    categoryLeaves env category encodeKey leaves =
      (PrefixCode.labelled (category.byte, keyedBodies encodeKey leaves)).map
        (taggedHash env leafDomain) := by
  simp only [categoryLeaves, PrefixCode.labelled, keyedBodies, List.map_map]
  rfl

theorem stateRoot_eq (store : StateStore) :
    store.stateRoot env =
      binaryMerkleRoot env ((store.leafPreimages env).map (taggedHash env leafDomain))
        branchDomain := by
  have fund : (if env.tokenEconomics then
        [stateMerkleLeaf env .storageFund [] store.storageFundLeafHash.data] else []) =
      (PrefixCode.labelled (StateCategory.storageFund.byte,
        if env.tokenEconomics then [store.storageFundLeafHash.data] else [])).map
          (taggedHash env leafDomain) := by
    split <;> rfl
  simp only [stateRoot, fund]
  simp only [singleLeaf_eq, categoryLeaves_eq, leafPreimages, leafSections, List.map_cons,
    List.map_nil, List.flatMap_cons, List.flatMap_nil, List.flatten_cons, List.flatten_nil,
    List.map_append, branchDomain]

def rootQueries (env : Env) (store : StateStore) : List (Bytes × Bytes) :=
  (store.leafPreimages env).map (leafDomain, ·) ++
    foldQueries env branchDomain ((store.leafPreimages env).map (taggedHash env leafDomain))

end Preimages

section Binding

variable {env : Env} {left right : StateStore}

structure KeysFit (store : StateStore) : Prop where
  blockHeight : store.blockHeight < 2 ^ 64
  algRegistry : ∀ key ∈ store.algRegistry.leaves, key < 2 ^ 16
  slashingRegistry : ∀ key ∈ store.slashingRegistry.leaves, key < 2 ^ 8
  hashRegistry : ∀ key ∈ store.hashRegistry.leaves, key < 2 ^ 8
  archivalRecords : ∀ key ∈ store.archivalRecords.leaves, key < 2 ^ 64

structure SameLeaves (env : Env) (left right : StateStore) : Prop where
  blockHeight : left.blockHeight = right.blockHeight
  accounts : left.accounts.leaves = right.accounts.leaves
  attestations : left.attestations.leaves = right.attestations.leaves
  proofAnchors : left.proofAnchors.leaves = right.proofAnchors.leaves
  consensusKeyRotations : left.consensusKeyRotations.leaves = right.consensusKeyRotations.leaves
  algRegistry : left.algRegistry.leaves = right.algRegistry.leaves
  governanceReceipts : left.governanceReceipts.leaves = right.governanceReceipts.leaves
  validators : left.validators.leaves = right.validators.leaves
  pendingProposals : left.pendingProposals.leaves = right.pendingProposals.leaves
  pendingUpgrades : left.pendingUpgrades.leaves = right.pendingUpgrades.leaves
  feeMarket : left.feeMarketLeafHash = right.feeMarketLeafHash
  storageFund : env.tokenEconomics = true → left.storageFundLeafHash = right.storageFundLeafHash
  recentSlashes : left.recentSlashesLeafHash = right.recentSlashesLeafHash
  peerIdBindings : left.peerIdBindings.leaves = right.peerIdBindings.leaves
  slashingRegistry : left.slashingRegistry.leaves = right.slashingRegistry.leaves
  hashRegistry : left.hashRegistry.leaves = right.hashRegistry.leaves
  archivalRecords : left.archivalRecords.leaves = right.archivalRecords.leaves
  archivalKeys : left.archivalKeys.leaves = right.archivalKeys.leaves

variable {K : Type} [LinearOrder K] {encodeKey : K → Bytes} {leaves others : Std.ExtTreeMap K Bytes32}

structure KeyCode (encodeKey : K → Bytes) (valid : K → Prop) : Prop where
  width : ∃ width, ∀ key, (encodeKey key).length = width
  injective : ∀ left right, valid left → valid right → encodeKey left = encodeKey right → left = right

variable {valid : K → Prop}

omit [LinearOrder K] in
theorem KeyCode.body_injective (code : KeyCode encodeKey valid) {first second : K × Bytes32}
    (validFirst : valid first.1) (validSecond : valid second.1)
    (same : encodeKey first.1 ++ first.2.data = encodeKey second.1 ++ second.2.data) :
    first = second := by
  obtain ⟨width, fixed⟩ := code.width
  obtain ⟨keys, digests⟩ := List.append_inj same (by rw [fixed, fixed])
  exact Prod.ext (code.injective _ _ validFirst validSecond keys) (Bytes32.ext digests)

theorem valid_of_mem_toList [Std.LawfulEqOrd K] (fits : ∀ key ∈ leaves, valid key)
    {leaf : K × Bytes32} (member : leaf ∈ leaves.toList) : valid leaf.1 := by
  refine fits leaf.1 ?_
  rw [← Std.ExtTreeMap.mem_keys, ← Std.ExtTreeMap.map_fst_toList_eq_keys]
  exact List.mem_map_of_mem member

theorem keyedBodies_injective [Std.LawfulEqOrd K] (code : KeyCode encodeKey valid)
    (fits : ∀ key ∈ leaves, valid key) (fitsOthers : ∀ key ∈ others, valid key)
    (same : keyedBodies encodeKey leaves = keyedBodies encodeKey others) : leaves = others := by
  have whole : ∀ leaf ∈ leaves.toList ++ others.toList, valid leaf.1 := by
    intro leaf member
    rcases List.mem_append.mp member with member | member
    · exact valid_of_mem_toList fits member
    · exact valid_of_mem_toList fitsOthers member
  refine Std.ExtTreeMap.toList_inj.mp (MerkleFold.map_injOn ?_ same)
  exact fun first memberFirst second memberSecond =>
    code.body_injective (whole first memberFirst) (whole second memberSecond)

theorem keyedBodies_nodup [Std.LawfulEqOrd K] (code : KeyCode encodeKey valid)
    (fits : ∀ key ∈ leaves, valid key) : (keyedBodies encodeKey leaves).Nodup := by
  have distinct : leaves.toList.Nodup :=
    Std.ExtTreeMap.distinct_keys_toList.imp fun different same => different (by simp [same])
  refine distinct.map_on fun first memberFirst second memberSecond =>
    code.body_injective (valid_of_mem_toList fits memberFirst) (valid_of_mem_toList fits memberSecond)

theorem keyCode_bytes32 : KeyCode Bytes32.data fun _ => True where
  width := ⟨32, Bytes32.length_eq⟩
  injective _ _ _ _ same := Bytes32.ext same

theorem keyCode_be (width : Nat) : KeyCode (toBeBytes width) (· < 256 ^ width) where
  width := ⟨width, toBeBytes_length width⟩
  injective _ _ fitsLeft fitsRight same := toBeBytes_injective fitsLeft fitsRight same

theorem keyCode_byte : KeyCode byteChunk (· < 2 ^ 8) where
  width := ⟨1, fun _ => rfl⟩
  injective left right fitsLeft fitsRight same := by
    simp only [byteChunk, List.cons.injEq, and_true, Fin.ofNat, Fin.mk.injEq] at same
    omega

theorem leafSections_labels (store : StateStore) :
    (((store.leafSections env).map fun content => (content.1.byte, content.2)).map Prod.fst) =
      [0, 1, 2, 3, 4, 5, 6, 7, 8, 9, 10, 11, 12, 13, 14, 15, 16, 17] := rfl

theorem leafSections_nodup {store : StateStore} (fits : store.KeysFit) :
    ∀ content ∈ store.leafSections env, content.2.Nodup := by
  have addressed : ∀ leaves : Std.ExtTreeMap Bytes32 Bytes32,
      (keyedBodies Bytes32.data leaves).Nodup := fun leaves =>
    keyedBodies_nodup keyCode_bytes32 fun _ _ => trivial
  have fund : (if env.tokenEconomics then [store.storageFundLeafHash.data] else []).Nodup := by
    split <;> simp
  simp only [leafSections, List.forall_mem_cons, List.nodup_singleton, addressed, fund, true_and,
    List.not_mem_nil, false_implies, implies_true, and_true]
  exact ⟨keyedBodies_nodup (keyCode_be 2) fits.algRegistry,
    keyedBodies_nodup keyCode_byte fits.slashingRegistry,
    keyedBodies_nodup keyCode_byte fits.hashRegistry,
    keyedBodies_nodup (keyCode_be 8) fits.archivalRecords⟩

theorem leafPreimages_nodup {store : StateStore} (fits : store.KeysFit) :
    (store.leafPreimages env).Nodup := by
  refine PrefixCode.labelled_nodup (by rw [leafSections_labels]; decide) fun content member => ?_
  obtain ⟨section', present, rfl⟩ := List.mem_map.mp member
  exact leafSections_nodup fits section' present

theorem leafPreimages_ne_nil (store : StateStore) : store.leafPreimages env ≠ [] := by
  simp [leafPreimages, leafSections, PrefixCode.labelled]

theorem sameLeaves_of_preimages (fitsLeft : left.KeysFit) (fitsRight : right.KeysFit)
    (same : left.leafPreimages env = right.leafPreimages env) : SameLeaves env left right := by
  have sections := PrefixCode.labelled_injective
    (by rw [leafSections_labels, leafSections_labels]) (by rw [leafSections_labels]; decide) same
  simp only [leafSections, List.map_cons, List.map_nil, List.cons.injEq, Prod.mk.injEq, true_and,
    and_true] at sections
  have addressed : ∀ {leaves others : Std.ExtTreeMap Bytes32 Bytes32},
      keyedBodies Bytes32.data leaves = keyedBodies Bytes32.data others → leaves = others :=
    keyedBodies_injective keyCode_bytes32 (fun _ _ => trivial) fun _ _ => trivial
  obtain ⟨height, accounts, attestations, anchors, rotations, algs, receipts, validators, proposals,
    sections⟩ := sections
  obtain ⟨upgrades, market, fund, slashes, peers, slashing, hashes, records, keys⟩ := sections
  exact {
    blockHeight := toBeBytes_injective fitsLeft.blockHeight fitsRight.blockHeight height
    accounts := addressed accounts
    attestations := addressed attestations
    proofAnchors := addressed anchors
    consensusKeyRotations := addressed rotations
    algRegistry := keyedBodies_injective (keyCode_be 2) fitsLeft.algRegistry fitsRight.algRegistry algs
    governanceReceipts := addressed receipts
    validators := addressed validators
    pendingProposals := addressed proposals
    pendingUpgrades := addressed upgrades
    feeMarket := Bytes32.ext market
    storageFund := fun on => by simpa [on, Bytes32.ext_iff] using fund
    recentSlashes := Bytes32.ext slashes
    peerIdBindings := addressed peers
    slashingRegistry := keyedBodies_injective keyCode_byte fitsLeft.slashingRegistry
      fitsRight.slashingRegistry slashing
    hashRegistry := keyedBodies_injective keyCode_byte fitsLeft.hashRegistry fitsRight.hashRegistry
      hashes
    archivalRecords := keyedBodies_injective (keyCode_be 8) fitsLeft.archivalRecords
      fitsRight.archivalRecords records
    archivalKeys := addressed keys }

def bareStore (chainId : Bytes) : StateStore :=
  { new sampleEnv with
    algRegistry := .empty, slashingRegistry := .empty, hashRegistry := .empty, chainId }

theorem bareStore_keysFit (chainId : Bytes) : (bareStore chainId).KeysFit := by
  constructor <;> simp [bareStore, new, CachedTable.empty]

end Binding

end StateStore

end ViperChain
