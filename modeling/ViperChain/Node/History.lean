import ViperChain.Storage.Bootstrap

/-!
What imports leave alone: the blocks below the tip stay on disk, and the tip only gives way to a
sibling of the same outcome.
-/

namespace ViperChain

open Fallible Relation Storage

variable {env : Env} {config : NodeConfig} {occasion : Occasion}

namespace NodeCore

variable {core next : NodeCore} {stored : StoredBlock}

theorem height_checkpointAt (known : core.chain.TipKnown) (height : Nat) :
    (core.checkpointAt env occasion height).chain.height = core.chain.height := by
  rcases @checkpointAt_eq env occasion core height with same | compacted
  · rw [same]
  · rw [compacted, ChainStore.height_of_tipless (known.checkpoint _).2]
    rfl

/-- A block that was put on top of the chain. -/
structure Appended (env : Env) (core : NodeCore) (stored : StoredBlock) (next : NodeCore) : Prop where
  formed : WellFormed env stored
  fits : FitsOn env core.chain stored
  height : next.chain.height = stored.metadata.height
  blocks : next.blocks = core.blocks.insert stored.metadata.height stored
  chain : next.chain = core.chain.linkBlock stored ∨
    (∀ height : Nat, next.chain.byHeight[height]? = none) ∧ next.chain.tip = none

theorem appendCanonicalLinkAtTip_appended (known : core.chain.TipKnown)
    (linked : core.appendCanonicalLinkAtTip env config occasion stored = .ok next) :
    Appended env core stored next := by
  obtain ⟨replay, policy, trial, _, _, _, accepted, _, rfl⟩ := appendCanonicalLinkAtTip_ok linked
  have grown := known.appendStoredBlock accepted
  simp only [ChainStore.appendStoredBlock, bind_eq_ok, validateStoredBlock_eq_ok, pure_eq_ok,
    exists_const] at accepted
  obtain ⟨⟨formed, fits⟩, rfl⟩ := accepted
  refine ⟨formed, fits, ?_, blocks_checkpointAt _ _, ?_⟩
  · rw [height_checkpointAt grown, ChainStore.height_linkBlock]
  · rcases @checkpointAt_eq env occasion _ stored.metadata.height with same | compacted
    · rw [same]
      exact .inl rfl
    · rw [compacted]
      have bare := grown.checkpoint (core.chain.linkBlock stored).expectedPrevHash
      exact .inr ⟨bare.1.bare bare.2, bare.2⟩

theorem Appended.next_height (appended : Appended env core stored next)
    (room : next.chain.height < u64Max) : stored.metadata.height = core.chain.height + 1 := by
  have expected := appended.fits.next
  rw [← appended.formed.height, satAdd64] at expected
  rw [appended.height] at room
  omega

theorem Appended.higher (appended : Appended env core stored next)
    (range : core.chain.height ≤ u64Max) : core.chain.height ≤ next.chain.height := by
  have expected := appended.fits.next
  rw [← appended.formed.height, satAdd64] at expected
  rw [appended.height]
  omega

theorem Appended.kept (appended : Appended env core stored next) (room : next.chain.height < u64Max)
    (height : Nat) (lower : height ≤ core.chain.height) :
    next.blocks[height]? = core.blocks[height]? := by
  have top := appended.next_height room
  rw [appended.blocks, Std.ExtTreeMap.getElem?_insert, if_neg]
  rw [compare_eq_iff_eq]
  omega

/-- The tip in memory is the block on disk at its height. -/
structure TipStored (core : NodeCore) : Prop where
  known : core.chain.TipKnown
  stored : ∀ tip, core.chain.tip = some tip → core.blocks[core.chain.height]? = some tip

/-- The blocks below the tip are still there, and in the place of the tip there is a block
with the same parent and the same roots. -/
structure Prolongs (before after : NodeCore) : Prop where
  height : before.chain.height ≤ after.chain.height
  below : ∀ height < before.chain.height, after.blocks[height]? = before.blocks[height]?
  tip : ∀ stored, before.blocks[before.chain.height]? = some stored → ∃ kept,
    after.blocks[before.chain.height]? = some kept ∧
      kept.metadata.prevHash = stored.metadata.prevHash ∧
      kept.metadata.stateRoot = stored.metadata.stateRoot ∧
      kept.metadata.txRoot = stored.metadata.txRoot

theorem Prolongs.refl (core : NodeCore) : core.Prolongs core :=
  ⟨le_rfl, fun _ _ => rfl, fun stored found => ⟨stored, found, rfl, rfl, rfl⟩⟩

theorem Prolongs.trans {last : NodeCore} (first : core.Prolongs next)
    (second : next.Prolongs last) : core.Prolongs last where
  height := first.height.trans second.height
  below height lower := by
    rw [second.below height (lt_of_lt_of_le lower first.height), first.below height lower]
  tip stored found := by
    obtain ⟨kept, present, parent, stateRoot, txRoot⟩ := first.tip stored found
    rcases first.height.lt_or_eq with higher | level
    · exact ⟨kept, (second.below _ higher).trans present, parent, stateRoot, txRoot⟩
    · rw [level] at present ⊢
      obtain ⟨still, found, sameParent, sameState, sameTx⟩ := second.tip kept present
      exact ⟨still, found, sameParent.trans parent, sameState.trans stateRoot, sameTx.trans txRoot⟩

theorem replaceTipBlock_swaps {chain : ChainStore} {canonical displaced : StoredBlock}
    (replaced : core.chain.replaceTipBlock env canonical = .ok (chain, displaced)) :
    core.chain.tip = some displaced ∧ chain.tip = some canonical ∧
      chain.height = core.chain.height ∧ canonical.metadata.height = core.chain.height ∧
      displaced.metadata.prevHash = canonical.metadata.prevHash ∧
      displaced.metadata.stateRoot = canonical.metadata.stateRoot ∧
      displaced.metadata.txRoot = canonical.metadata.txRoot := by
  simp only [ChainStore.replaceTipBlock, bind_eq_ok, okOr_eq_ok, pure_eq_ok, Prod.mk.injEq]
    at replaced
  obtain ⟨tipHash, top, tip, found, _, checked, rfl, rfl⟩ := replaced
  obtain ⟨level, parent, stateRoot, txRoot, _⟩ := validateReplacement_ok checked
  have before := ChainStore.height_of_tip top found
  refine ⟨by simp [ChainStore.tip, top, found], by simp [ChainStore.tip], ?_,
    level.symm.trans before.symm, parent, stateRoot, txRoot⟩
  rw [before, level]
  exact ChainStore.height_of_tip rfl Std.ExtTreeMap.getElem?_insert_self

/-- What a change of the core keeps. At the last height of `u64` an append may overwrite. -/
structure Leads (core next : NodeCore) : Prop where
  held : next.TipStored
  higher : core.chain.height ≤ next.chain.height
  prolongs : next.chain.height < u64Max → core.Prolongs next

theorem Leads.refl (held : core.TipStored) : core.Leads core := ⟨held, le_rfl, fun _ => .refl core⟩

theorem Leads.trans {last : NodeCore} (first : core.Leads next) (second : next.Leads last) :
    core.Leads last where
  held := second.held
  higher := first.higher.trans second.higher
  prolongs room := (first.prolongs (lt_of_le_of_lt second.higher room)).trans (second.prolongs room)

theorem leads_judged (held : core.TipStored) (state : StateStore) :
    core.Leads { core with state } :=
  ⟨⟨held.known, held.stored⟩, le_rfl, fun _ => ⟨le_rfl, fun _ _ => rfl,
    fun stored found => ⟨stored, found, rfl, rfl, rfl⟩⟩⟩

theorem leads_linked (held : core.TipStored)
    (linked : core.appendCanonicalLinkAtTip env config occasion stored = .ok next) :
    core.Leads next := by
  have appended := appendCanonicalLinkAtTip_appended held.known linked
  refine ⟨⟨(appendCanonicalLinkAtTip_move linked).tipKnown held.known, fun tip top => ?_⟩,
    appended.higher held.known.range, fun room => ?_⟩
  · rcases appended.chain with same | ⟨_, bare⟩
    · rw [same, ChainStore.tip_linkBlock] at top
      rw [appended.height, appended.blocks, Std.ExtTreeMap.getElem?_insert_self, top]
    · rw [bare] at top
      cases top
  · have others := appended.kept room
    refine ⟨appended.higher held.known.range, fun height lower => others height lower.le, ?_⟩
    exact fun stored found => ⟨stored, (others _ le_rfl).trans found, rfl, rfl, rfl⟩

theorem leads_swapped {chain : ChainStore} {canonical displaced : StoredBlock} (held : core.TipStored)
    (replaced : core.chain.replaceTipBlock env canonical = .ok (chain, displaced))
    (proposerTip : Option BlockHash) :
    core.Leads { core with
      chain
      blocks := core.blocks.insert canonical.metadata.height canonical
      proposerTip } := by
  obtain ⟨oldTop, newTop, level, placed, roots⟩ := replaceTipBlock_swaps replaced
  refine ⟨⟨held.known.replaceTipBlock replaced, fun tip top => ?_⟩, level.ge, fun _ =>
    ⟨level.ge, fun height lower => ?_, fun stored found => ⟨canonical, ?_, ?_⟩⟩⟩ <;> dsimp only at *
  · rw [level, ← placed, Std.ExtTreeMap.getElem?_insert_self, ← newTop, top]
  · rw [Std.ExtTreeMap.getElem?_insert, if_neg]
    rw [compare_eq_iff_eq]
    omega
  · rw [← placed, Std.ExtTreeMap.getElem?_insert_self]
  · rw [held.stored displaced oldTop, Option.some_inj] at found
    subst found
    exact ⟨roots.1.symm, roots.2.1.symm, roots.2.2.symm⟩

theorem leads_resolved (held : core.TipStored) (candidate : StoredBlock) (tip : BlockMetadata) :
    core.Leads (core.resolveSiblingAtTip env config occasion candidate tip).1 := by
  unfold resolveSiblingAtTip
  split
  · exact .refl held
  · split
    · split
      · exact .refl held
      · rename_i swapped
        simp only [swapSibling, bind_eq_ok, mapError_eq_ok, pure_eq_ok] at swapped
        obtain ⟨⟨chain, displaced⟩, replaced, rfl⟩ := swapped
        exact leads_swapped held (replaceCanonicalAtHeight_ok replaced) _
    · obtain ⟨state, reported⟩ := @reportDivergence_eq env config core candidate
      rw [reported]
      exact leads_judged held state

end NodeCore

theorem importRemoteBlock_leads {node : LiveNodeState} (held : node.core.TipStored)
    (occasion : Occasion) (stored : StoredBlock) :
    node.core.Leads (importRemoteBlock env config occasion node stored).1.core := by
  unfold importRemoteBlock
  split
  · exact .refl held
  · exact .refl held
  · exact .refl held
  · exact NodeCore.leads_resolved held stored _
  · exact .refl held
  · split
    · exact .refl held
    · rename_i linked
      exact NodeCore.leads_linked held linked

/-- However blocks arrive, what is below the tip stays on disk, and the tip only gives way to
a sibling with the same parent and the same roots. -/
theorem history_stays (env : Env) (config : NodeConfig) (start node : LiveNodeState)
    (held : start.core.TipStored) (run : ReflTransGen (ReceptionStep env config) start node)
    (room : node.core.chain.height < u64Max) : start.core.Prolongs node.core := by
  have imports : ∀ (node : LiveNodeState) (occasion : Occasion) (stored : StoredBlock),
      start.core.Leads node.core →
      start.core.Leads (importRemoteBlock env config occasion node stored).1.core :=
    fun node occasion stored leads => leads.trans (importRemoteBlock_leads leads.held occasion stored)
  have leads := Runs.invariant (fun node : LiveNodeState => start.core.Leads node.core)
    (fun before after step leads => by
      cases step with
      | imported occasion stored => exact imports before occasion stored leads
      | drained now occasionOf parentHash =>
          exact drainChildren_invariant _ imports (fun _ _ leads => leads) occasionOf _ [] leads)
    run (.refl held)
  exact leads.prolongs room

theorem history_stays_quiet : (quietCore 1).Prolongs (quietCore 2) := by
  have held : (quietCore 1).TipStored := by
    refine ⟨quietCore_tipKnown (by omega), fun tip top => ?_⟩
    rw [quietCore, ChainStore.tip_linkBlock] at top
    rw [quietCore_height (by omega), ← top, quietCore, quietBlock_height (by omega)]
    exact Std.ExtTreeMap.getElem?_insert_self
  have step := @ReceptionStep.imported sampleEnv snapshotConfig ⟨quietCore 1, .new 4 60⟩
    ⟨0, true, false⟩ (quietBlock 1)
  rw [quietCore_links (by omega) _ rfl] at step
  exact history_stays sampleEnv snapshotConfig _ _ held (.single step)
    (by rw [quietCore_height (by omega)]; decide)

end ViperChain
