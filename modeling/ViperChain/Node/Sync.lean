import ViperChain.Node.History

/-!
Catching up. A block announced far above the tip makes a node ask its publisher for the heights
between, sixteen at most, and import them in order.
-/

namespace ViperChain

open Fallible Relation Storage

/-! ### The protocol -/

inductive BlockInboundClass where
  | behind
  | next
  | gap (aheadBy : Nat)
deriving DecidableEq

def classifyInboundHeight (localTip received : Nat) : BlockInboundClass :=
  if received ≤ localTip then .behind
  else if received = localTip + 1 then .next
  else .gap (received - localTip - 1)

structure BlockFetchRequest where
  fromHeight : Nat
  toHeight : Nat
deriving DecidableEq

inductive BlockFetchRequestError where
  | emptyRange (fromHeight toHeight : Nat)
  | rangeTooLarge (len max : Nat)
deriving DecidableEq

def maxBlocksPerRequest : Nat := 16

def BlockFetchRequest.validate (request : BlockFetchRequest) : Except BlockFetchRequestError Unit := do
  require (request.fromHeight ≤ request.toHeight) (.emptyRange request.fromHeight request.toHeight)
  let len := request.toHeight - request.fromHeight + 1
  require (len ≤ maxBlocksPerRequest) (.rangeTooLarge len maxBlocksPerRequest)

/-- What `handle_inbound_block` asks the publisher of a block for. The block itself is kept
only when it is the next one. -/
def gapRequest (localTip received : Nat) : Option BlockFetchRequest :=
  match classifyInboundHeight localTip received with
  | .behind | .next => none
  | .gap _ =>
      let first := localTip + 1
      let request : BlockFetchRequest := ⟨first, min (received - 1) (first + maxBlocksPerRequest - 1)⟩
      if request.validate.isOk then some request else none

section Handlers

variable (env : Env) (records : RecordFormat)

/-- The bytes on disk are those the block was written as. -/
def NodeCore.exportBlockBytes (core : NodeCore) (height : Nat) :
    Except BlockStorageError (Option Bytes) :=
  match core.readStoredBlockAtHeight height with
  | none => .ok none
  | some stored => (encodeStoredBlockBytes env records stored).map some

def NodeCore.exportFrom (core : NodeCore) : Nat → Nat → List Bytes
  | _, 0 => []
  | height, count + 1 =>
      match core.exportBlockBytes env records height with
      | .ok (some bytes) => bytes :: core.exportFrom (height + 1) count
      | _ => []

def handleInboundBlockFetchRequest (core : NodeCore) (request : BlockFetchRequest) :
    Option (List Bytes) :=
  if request.validate.isOk then
    some (core.exportFrom env records request.fromHeight (request.toHeight + 1 - request.fromHeight))
  else none

variable (config : NodeConfig) (now : Nat) (occasionOf : BlockHash → Occasion)

/-- The import of a response, with the parents to be fetched afterwards. -/
def handleInboundBlockFetchResponse :
    List Bytes → LiveNodeState → List BlockHash → LiveNodeState × List BlockHash
  | [], node, parents => (node, parents)
  | bytes :: rest, node, parents =>
      match decodeBlockBytes env records bytes with
      | .error _ => (node, parents)
      | .ok stored =>
          let hash := stored.metadata.blockHash
          match importRemoteBlock env config (occasionOf hash) node stored with
          | (next, .ok .imported) =>
              let drained := drainOrphanChildren env config now occasionOf next hash
              handleInboundBlockFetchResponse rest drained.1 (parents ++ drained.2)
          | (next, .ok .duplicate) => handleInboundBlockFetchResponse rest next parents
          | (next, .ok (.orphanedNeedsParent parent)) =>
              handleInboundBlockFetchResponse rest next (parents ++ [parent])
          | (next, .error _) => (next, parents)

/-- The peer announces its block at `received`, the node asks for what it lacks and takes the
answer. -/
def exchange (peer : NodeCore) (received : Nat) (node : LiveNodeState) : LiveNodeState :=
  match gapRequest node.core.chain.height received with
  | none => node
  | some request =>
      match handleInboundBlockFetchRequest env records peer request with
      | none => node
      | some blocks =>
          (handleInboundBlockFetchResponse env records config now occasionOf blocks node []).1

end Handlers

/-! ### Levelling -/

variable {env : Env} {records : RecordFormat} {config : NodeConfig} {now : Nat}
  {occasionOf : BlockHash → Occasion}

namespace NodeCore

/-- Blocks go onto the chain one after the other. -/
inductive Grows (env : Env) (config : NodeConfig) (occasionOf : BlockHash → Occasion) :
    NodeCore → List StoredBlock → NodeCore → Prop
  | done (core : NodeCore) : Grows env config occasionOf core [] core
  | more {core next last : NodeCore} {stored : StoredBlock} {rest : List StoredBlock} :
      core.appendCanonicalLinkAtTip env config (occasionOf stored.metadata.blockHash) stored =
        .ok next →
      Grows env config occasionOf next rest last →
      Grows env config occasionOf core (stored :: rest) last

/-- Every block in memory is also on disk. -/
structure Mirrored (core : NodeCore) : Prop where
  known : core.chain.TipKnown
  memory : ∀ (height : Nat) (hash : BlockHash), core.chain.byHeight[height]? = some hash →
    ∃ stored, core.chain.byHash[hash]? = some stored ∧ core.blocks[height]? = some stored

variable {core next last : NodeCore} {stored : StoredBlock} {blocks : List StoredBlock}

theorem Mirrored.read (mirrored : core.Mirrored) (height : Nat) :
    core.readStoredBlockAtHeight height = core.blocks[height]? := by
  simp only [readStoredBlockAtHeight, ChainStore.getStoredBlockByHeight]
  cases placed : core.chain.byHeight[height]? with
  | none => rfl
  | some hash =>
      obtain ⟨stored, found, onDisk⟩ := mirrored.memory height hash placed
      rw [Option.bind_some, found, onDisk, Option.some_or]

theorem Mirrored.append {occasion : Occasion} (mirrored : core.Mirrored)
    (linked : core.appendCanonicalLinkAtTip env config occasion stored = .ok next) :
    next.Mirrored := by
  have appended := appendCanonicalLinkAtTip_appended mirrored.known linked
  refine ⟨(appendCanonicalLinkAtTip_move linked).tipKnown mirrored.known, fun height hash placed => ?_⟩
  rcases appended.chain with same | ⟨bare, _⟩
  · rw [same, ChainStore.linkBlock, Std.ExtTreeMap.getElem?_insert] at placed
    rw [same, ChainStore.linkBlock, appended.blocks, Std.ExtTreeMap.getElem?_insert,
      Std.ExtTreeMap.getElem?_insert]
    simp only [compare_eq_iff_eq] at placed ⊢
    split at placed
    case isTrue own =>
      obtain rfl := Option.some.inj placed
      exact ⟨stored, by simp, by simp [own]⟩
    case isFalse other =>
      obtain ⟨old, found, onDisk⟩ := mirrored.memory height hash placed
      -- the hash of the new block was not in use
      have different : stored.metadata.blockHash ≠ hash := by
        rintro rfl
        have fresh := appended.fits.freshHash
        rw [← appended.formed.hashed, Std.ExtTreeMap.contains_eq_isSome_getElem?, found] at fresh
        cases fresh
      exact ⟨old, by simpa [different] using found, by simpa [other] using onDisk⟩
  · rw [bare] at placed
    cases placed

theorem Grows.mirrored (grows : Grows env config occasionOf core blocks last)
    (mirrored : core.Mirrored) : last.Mirrored ∧ core.chain.height ≤ last.chain.height := by
  induction grows with
  | done core => exact ⟨mirrored, le_rfl⟩
  | more linked grows ih =>
      have appended := appendCanonicalLinkAtTip_appended mirrored.known linked
      obtain ⟨levelled, higher⟩ := ih (mirrored.append linked)
      exact ⟨levelled, (appended.higher mirrored.known.range).trans higher⟩

theorem Grows.heights (grows : Grows env config occasionOf core blocks last)
    (mirrored : core.Mirrored) (room : last.chain.height < u64Max) :
    last.chain.height = core.chain.height + blocks.length ∧
      ∀ height ≤ core.chain.height, last.blocks[height]? = core.blocks[height]? := by
  induction grows with
  | done core => exact ⟨rfl, fun _ _ => rfl⟩
  | more linked grows ih =>
      have appended := appendCanonicalLinkAtTip_appended mirrored.known linked
      obtain ⟨height, kept⟩ := ih (mirrored.append linked) room
      have top := appended.next_height (by omega)
      have above := appended.height
      exact ⟨by rw [height, List.length_cons]; omega, fun other lower =>
        (kept other (by omega)).trans (appended.kept (by omega) other lower)⟩

theorem Grows.split {more : List StoredBlock} (grows : Grows env config occasionOf core (blocks ++ more) last) :
    ∃ middle, Grows env config occasionOf core blocks middle ∧
      Grows env config occasionOf middle more last := by
  induction blocks generalizing core with
  | nil => exact ⟨core, .done core, grows⟩
  | cons stored blocks ih =>
      cases grows with
      | more linked grows =>
          obtain ⟨middle, first, second⟩ := ih grows
          exact ⟨middle, .more linked first, second⟩

theorem Grows.join {more : List StoredBlock} {end_ : NodeCore}
    (first : Grows env config occasionOf core blocks last)
    (second : Grows env config occasionOf last more end_) :
    Grows env config occasionOf core (blocks ++ more) end_ := by
  induction first with
  | done core => exact second
  | more linked grows ih => exact .more linked (ih second)

/-- The block comes out of its own encoding. -/
def Sendable (env : Env) (records : RecordFormat) (stored : StoredBlock) : Prop :=
  ∃ bytes, encodeStoredBlockBytes env records stored = .ok bytes ∧
    decodeBlockBytes env records bytes = .ok stored

theorem Grows.exported {peer : NodeCore} {more : List StoredBlock}
    (grows : Grows env config occasionOf core blocks last)
    (ahead : Grows env config occasionOf last more peer) (mirrored : core.Mirrored)
    (room : peer.chain.height < u64Max) (sendable : ∀ stored ∈ blocks, Sendable env records stored) :
    List.Forall₂ (fun bytes stored => decodeBlockBytes env records bytes = .ok stored)
      (peer.exportFrom env records (core.chain.height + 1) blocks.length) blocks := by
  induction grows with
  | done core => exact .nil
  | @more core next last stored rest linked grows ih =>
      have levelled := ((grows.join ahead).mirrored (mirrored.append linked)).1
      obtain ⟨height, kept⟩ := (grows.join ahead).heights (mirrored.append linked) room
      have appended := appendCanonicalLinkAtTip_appended mirrored.known linked
      have top := appended.next_height (by omega)
      obtain ⟨bytes, encoded, decoded⟩ := sendable stored List.mem_cons_self
      have served : peer.exportBlockBytes env records (core.chain.height + 1) = .ok (some bytes) := by
        rw [exportBlockBytes, levelled.read, kept _ (by rw [appended.height, top]), appended.blocks,
          ← top, Std.ExtTreeMap.getElem?_insert_self]
        simp [encoded, Except.map]
      rw [List.length_cons, exportFrom, served]
      refine .cons decoded ?_
      have rest := ih ahead (mirrored.append linked) fun other member =>
        sendable other (List.mem_cons_of_mem _ member)
      rwa [appended.height, top] at rest

theorem Grows.taken {cache : BlockTreeCache} {sent : List Bytes} {parents : List BlockHash}
    (grows : Grows env config occasionOf core blocks last) (mirrored : core.Mirrored)
    (room : last.chain.height < u64Max)
    (decoded : List.Forall₂ (fun bytes stored => decodeBlockBytes env records bytes = .ok stored)
      sent blocks)
    (childless : ∀ stored ∈ blocks, cache.childrenOf now stored.metadata.blockHash = []) :
    handleInboundBlockFetchResponse env records config now occasionOf sent ⟨core, cache⟩ parents =
      (⟨last, cache⟩, parents) := by
  induction grows generalizing sent with
  | done core =>
      cases decoded
      rfl
  | @more core next last stored rest linked grows ih =>
      cases decoded with
      | cons first decoded =>
          have appended := appendCanonicalLinkAtTip_appended mirrored.known linked
          have higher := (grows.mirrored (mirrored.append linked)).2
          have classified := classify_child mirrored.known
            ⟨appended.formed.height, appended.formed.hashed⟩ (appended.next_height (by omega))
            (appended.formed.prevHash.trans appended.fits.parent)
          have imported := @importRemoteBlock_link env config _ ⟨core, cache⟩ stored next classified linked
          have drained : drainOrphanChildren env config now occasionOf ⟨next, cache⟩
              stored.metadata.blockHash = (⟨next, cache⟩, []) := by
            rw [drainOrphanChildren, childless stored List.mem_cons_self, drainChildren]
          simp only [handleInboundBlockFetchResponse, first, imported, drained, List.append_nil]
          exact ih (mirrored.append linked) room decoded fun other member =>
            childless other (List.mem_cons_of_mem _ member)

end NodeCore

theorem BlockFetchRequest.validate_isOk {first count : Nat} (some_ : 0 < count)
    (few : count ≤ maxBlocksPerRequest) :
    (BlockFetchRequest.mk (first + 1) (first + count)).validate.isOk = true := by
  have valid : (BlockFetchRequest.mk (first + 1) (first + count)).validate = .ok () := by
    simp only [validate, bind_eq_ok, require_eq_ok, decide_eq_true_eq, exists_const]
    omega
  rw [valid]
  rfl

theorem gapRequest_eq {localTip missing : Nat} (gap : 0 < missing) :
    gapRequest localTip (localTip + missing + 1) =
      some ⟨localTip + 1, localTip + min missing maxBlocksPerRequest⟩ := by
  have far : classifyInboundHeight localTip (localTip + missing + 1) = .gap missing := by
    rw [classifyInboundHeight, if_neg (by omega), if_neg (by omega)]
    congr 1
    omega
  have last : min (localTip + missing + 1 - 1) (localTip + 1 + maxBlocksPerRequest - 1) =
      localTip + min missing maxBlocksPerRequest := by
    unfold maxBlocksPerRequest
    omega
  have valid := @BlockFetchRequest.validate_isOk localTip (min missing maxBlocksPerRequest)
    (lt_min gap (by decide)) (min_le_right _ _)
  simp only [gapRequest, far, last, valid, if_true]

section Levelling

variable {core level peer : NodeCore} {blocks more : List StoredBlock} {cache : BlockTreeCache}

theorem exchange_advances (grows : NodeCore.Grows env config occasionOf core blocks level)
    (ahead : NodeCore.Grows env config occasionOf level more peer) (mirrored : core.Mirrored)
    (room : peer.chain.height < u64Max)
    (sendable : ∀ stored ∈ blocks, NodeCore.Sendable env records stored)
    (childless : ∀ stored ∈ blocks, cache.childrenOf now stored.metadata.blockHash = []) :
    ∃ next, exchange env records config now occasionOf peer (core.chain.height + blocks.length + 1)
        ⟨core, cache⟩ = ⟨next, cache⟩ ∧
      NodeCore.Grows env config occasionOf core (blocks.take maxBlocksPerRequest) next ∧
      NodeCore.Grows env config occasionOf next (blocks.drop maxBlocksPerRequest) level := by
  by_cases gap : 0 < blocks.length
  case neg =>
    obtain rfl : blocks = [] := List.eq_nil_of_length_eq_zero (by omega)
    refine ⟨core, ?_, .done core, grows⟩
    rw [exchange, List.length_nil, Nat.add_zero, show gapRequest core.chain.height _ = none by
      simp [gapRequest, classifyInboundHeight]]
  case pos =>
    rw [← List.take_append_drop maxBlocksPerRequest blocks] at grows
    obtain ⟨next, first, second⟩ := grows.split
    refine ⟨next, ?_, first, second⟩
    have within : ∀ stored ∈ blocks.take maxBlocksPerRequest, stored ∈ blocks :=
      fun _ member => List.mem_of_mem_take member
    have served := first.exported (second.join ahead) mirrored room
      fun stored member => sendable stored (within stored member)
    have higher := ((second.join ahead).mirrored (first.mirrored mirrored).1).2
    have taken := @NodeCore.Grows.taken _ records _ now _ _ _ _ cache _ [] first mirrored
      (lt_of_le_of_lt higher room) served fun stored member => childless stored (within stored member)
    have valid := @BlockFetchRequest.validate_isOk core.chain.height
      (min blocks.length maxBlocksPerRequest) (lt_min gap (by decide)) (min_le_right _ _)
    rw [List.length_take, min_comm] at taken
    simp only [exchange, gapRequest_eq gap, handleInboundBlockFetchRequest, valid, if_true]
    rw [show core.chain.height + min blocks.length maxBlocksPerRequest + 1 - (core.chain.height + 1) =
      min blocks.length maxBlocksPerRequest by omega, taken]

theorem quietBlock_sendable :
    NodeCore.Sendable sampleEnv (tableFormat [bareRecord (quietBlock 0)]) (quietBlock 0) := by
  have bare : (quietBlock 0).includedTransactions = [] := rfl
  have encoded := @bareRecord_encoded sampleEnv (quietBlock 0) bare []
  have kept : BodiesKept sampleEnv (quietBlock 0) := ⟨rfl, by simp [bare]⟩
  exact ⟨[0], encoded, (decodeBlockBytes_encoded (tableFormat_faithful _) sampleEnv_faithful
    (by simp [bare]) encoded).mpr ⟨rfl, kept⟩⟩

end Levelling

end ViperChain
