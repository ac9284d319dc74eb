import ViperChain.Library.Runs
import ViperChain.Engine.Chain

/-!
The cache of orphan blocks, by hash and by parent, with a queue for eviction. A removal leaves
its hash in the queue. Time is an argument.
-/

namespace ViperChain

structure Cached where
  stored : StoredBlock
  insertedAt : Nat

abbrev ChildIndex := Std.ExtTreeMap BlockHash (Std.ExtTreeSet BlockHash)

def ChildIndex.setOf (index : ChildIndex) (parent : BlockHash) : Std.ExtTreeSet BlockHash :=
  index[parent]?.getD ∅

structure BlockTreeCache where
  capacity : Nat
  ttl : Nat
  entries : Std.ExtTreeMap BlockHash Cached
  byParent : ChildIndex
  insertionOrder : List BlockHash

namespace BlockTreeCache

def new (capacity ttl : Nat) : BlockTreeCache where
  capacity := max capacity 1
  ttl
  entries := ∅
  byParent := ∅
  insertionOrder := []

variable (cache : BlockTreeCache)

def expired (now : Nat) (cached : Cached) : Bool := cache.ttl < now - cached.insertedAt

def get (now : Nat) (hash : BlockHash) : Option StoredBlock :=
  (cache.entries[hash]?.filter fun cached => !cache.expired now cached).map Cached.stored

def childrenOf (now : Nat) (parent : BlockHash) : List StoredBlock :=
  (((cache.byParent.setOf parent).toList.filterMap fun hash => cache.entries[hash]?).filter
    fun cached => !cache.expired now cached).map Cached.stored

def unlinkChild (byParent : ChildIndex) (parent hash : BlockHash) : ChildIndex :=
  match byParent[parent]? with
  | some set =>
      if (set.erase hash).isEmpty then byParent.erase parent
      else byParent.insert parent (set.erase hash)
  | none => byParent

def remove (hash : BlockHash) : BlockTreeCache × Option StoredBlock :=
  match cache.entries[hash]? with
  | some cached =>
      ({ cache with
          entries := cache.entries.erase hash
          byParent := unlinkChild cache.byParent cached.stored.metadata.prevHash hash },
        some cached.stored)
  | none => (cache, none)

def pruneExpired (now : Nat) : BlockTreeCache × Nat :=
  let victims := (cache.entries.toList.filter fun entry => cache.expired now entry.2).map Prod.fst
  (victims.foldl (fun cache hash => (cache.remove hash).1) cache, victims.length)

def evictFrom : List BlockHash → BlockTreeCache
  | [] => { cache with insertionOrder := [] }
  | hash :: rest =>
      if cache.entries.contains hash then ({ cache with insertionOrder := rest }.remove hash).1
      else evictFrom rest

def evictOldest : BlockTreeCache := cache.evictFrom cache.insertionOrder

def enter (now : Nat) (stored : StoredBlock) : BlockTreeCache :=
  let hash := stored.metadata.blockHash
  let parent := stored.metadata.prevHash
  { cache with
    entries := cache.entries.insert hash { stored, insertedAt := now }
    byParent := cache.byParent.insert parent ((cache.byParent.setOf parent).insert hash)
    insertionOrder := cache.insertionOrder ++ [hash] }

def insert (now : Nat) (stored : StoredBlock) : BlockTreeCache :=
  match cache.entries[stored.metadata.blockHash]? with
  | some cached =>
      -- The block first seen under this hash stays; only its time is renewed.
      { cache with
        entries := cache.entries.insert stored.metadata.blockHash
          { cached with insertedAt := now } }
  | none =>
      if cache.capacity ≤ cache.entries.size then cache.evictOldest.enter now stored
      else cache.enter now stored

/-! ### The two indices -/

structure Indexed : Prop where
  keyed : ∀ hash (cached : Cached), cache.entries[hash]? = some cached →
    cached.stored.metadata.blockHash = hash
  children : ∀ parent hash, hash ∈ cache.byParent.setOf parent ↔
    ∃ cached : Cached, cache.entries[hash]? = some cached ∧ cached.stored.metadata.prevHash = parent
  inhabited : ∀ (parent : BlockHash) (set : Std.ExtTreeSet BlockHash),
    cache.byParent[parent]? = some set → set.isEmpty = false

variable {cache} {hash : BlockHash}

theorem new_indexed (capacity ttl : Nat) : (new capacity ttl).Indexed where
  keyed := by simp [new]
  children := by simp [new, ChildIndex.setOf]
  inhabited := by simp [new]

theorem setOf_unlinkChild (byParent : ChildIndex) (parent hash other : BlockHash) :
    (unlinkChild byParent parent hash).setOf other =
      if other = parent then (byParent.setOf other).erase hash else byParent.setOf other := by
  unfold unlinkChild ChildIndex.setOf
  split
  · rename_i set found
    split
    · rename_i bare
      rw [Std.ExtTreeMap.getElem?_erase]
      by_cases same : other = parent
      · subst same
        have bare := Std.ExtTreeSet.isEmpty_iff.mp bare
        simp [found, bare]
      · simp [same, Ne.symm same]
    · rw [Std.ExtTreeMap.getElem?_insert]
      by_cases same : other = parent
      · subst same
        simp [found]
      · simp [same, Ne.symm same]
  · rename_i missing
    by_cases same : other = parent
    · subst same
      simp [missing]
    · simp [same]

theorem unlinkChild_inhabited {byParent : ChildIndex}
    (inhabited : ∀ (parent : BlockHash) (set : Std.ExtTreeSet BlockHash),
      byParent[parent]? = some set → set.isEmpty = false)
    (parent hash other : BlockHash) (set : Std.ExtTreeSet BlockHash)
    (found : (unlinkChild byParent parent hash)[other]? = some set) : set.isEmpty = false := by
  unfold unlinkChild at found
  split at found
  · split at found
    · rw [Std.ExtTreeMap.getElem?_erase] at found
      split at found
      · simp at found
      · exact inhabited _ _ found
    · rename_i occupied
      rw [Std.ExtTreeMap.getElem?_insert] at found
      split at found
      · obtain rfl := Option.some.inj found
        simpa using occupied
      · exact inhabited _ _ found
  · exact inhabited _ _ found

theorem getElem?_remove (hash other : BlockHash) :
    (cache.remove hash).1.entries[other]? =
      if other = hash then none else cache.entries[other]? := by
  unfold remove
  split
  · rw [Std.ExtTreeMap.getElem?_erase]
    by_cases same : other = hash
    · simp [same]
    · simp [same, Ne.symm same]
  · rename_i missing
    by_cases same : other = hash
    · simp [same, missing]
    · simp [same]

theorem Indexed.remove (indexed : cache.Indexed) (hash : BlockHash) :
    (cache.remove hash).1.Indexed := by
  refine ⟨?_, ?_, ?_⟩
  · intro other cached found
    rw [getElem?_remove] at found
    split at found
    · simp at found
    · exact indexed.keyed other cached found
  · intro parent other
    rw [getElem?_remove]
    unfold BlockTreeCache.remove
    split
    · rename_i cached found
      rw [setOf_unlinkChild]
      by_cases removed : other = hash
      · subst removed
        simp only [if_true, reduceCtorEq, false_and, exists_false, iff_false]
        split
        · simp
        · rename_i elsewhere
          rw [indexed.children]
          rintro ⟨again, found', under⟩
          rw [found] at found'
          obtain rfl := Option.some.inj found'
          exact elsewhere under.symm
      · rw [if_neg removed, ← indexed.children]
        split <;> simp [Ne.symm removed]
    · rename_i missing
      rw [indexed.children]
      by_cases removed : other = hash
      · simp [removed, missing]
      · simp [removed]
  · intro parent set found
    unfold BlockTreeCache.remove at found
    split at found
    · exact unlinkChild_inhabited indexed.inhabited _ _ _ _ found
    · exact indexed.inhabited _ _ found

theorem setOf_insert (byParent : ChildIndex) (parent other : BlockHash)
    (set : Std.ExtTreeSet BlockHash) :
    ChildIndex.setOf (byParent.insert parent set) other =
      if other = parent then set else byParent.setOf other := by
  unfold ChildIndex.setOf
  rw [Std.ExtTreeMap.getElem?_insert]
  by_cases same : other = parent
  · simp [same]
  · simp [same, Ne.symm same]

theorem getElem?_enter (now : Nat) (stored : StoredBlock) (other : BlockHash) :
    (cache.enter now stored).entries[other]? =
      if other = stored.metadata.blockHash then some { stored, insertedAt := now }
      else cache.entries[other]? := by
  simp only [enter]
  rw [Std.ExtTreeMap.getElem?_insert]
  by_cases same : other = stored.metadata.blockHash
  · simp [same]
  · simp [same, Ne.symm same]

theorem Indexed.enter (indexed : cache.Indexed) (now : Nat) {stored : StoredBlock}
    (fresh : cache.entries[stored.metadata.blockHash]? = none) :
    (cache.enter now stored).Indexed := by
  refine ⟨?_, ?_, ?_⟩
  · intro other cached found
    rw [getElem?_enter] at found
    split at found
    · rename_i same
      obtain rfl := Option.some.inj found
      exact same.symm
    · exact indexed.keyed other cached found
  · intro parent other
    rw [getElem?_enter]
    simp only [BlockTreeCache.enter]
    rw [setOf_insert]
    by_cases same : other = stored.metadata.blockHash
    · subst same
      by_cases own : parent = stored.metadata.prevHash
      · simp [own]
      · rw [if_neg own, indexed.children, fresh]
        simp [Ne.symm own]
    · rw [if_neg same, ← indexed.children]
      split
      · rename_i own
        simp [own, Ne.symm same]
      · rfl
  · intro parent set found
    simp only [BlockTreeCache.enter, Std.ExtTreeMap.getElem?_insert] at found
    split at found
    · obtain rfl := Option.some.inj found
      simp
    · exact indexed.inhabited _ _ found

theorem Indexed.refresh (indexed : cache.Indexed) {cached : Cached} (now : Nat)
    (found : cache.entries[hash]? = some cached) :
    Indexed { cache with entries := cache.entries.insert hash { cached with insertedAt := now } } := by
  have same : ∀ (other : BlockHash) (view : StoredBlock → Prop),
      (∃ entry : Cached, (cache.entries.insert hash { cached with insertedAt := now })[other]? =
        some entry ∧ view entry.stored) ↔
      ∃ entry : Cached, cache.entries[other]? = some entry ∧ view entry.stored := by
    intro other view
    rw [Std.ExtTreeMap.getElem?_insert]
    by_cases here : hash = other
    · subst here
      simp [found]
    · simp [here]
  refine ⟨?_, ?_, indexed.inhabited⟩
  · intro other entry present
    obtain ⟨old, before, sameStored⟩ :=
      (same other fun stored => stored = entry.stored).mp ⟨entry, present, rfl⟩
    rw [← sameStored]
    exact indexed.keyed other old before
  · intro parent other
    rw [same other fun stored => stored.metadata.prevHash = parent]
    exact indexed.children parent other

theorem evictFrom_eq {queue : List BlockHash} (live : ∃ hash ∈ queue, hash ∈ cache.entries) :
    ∃ dead victim rest, queue = dead ++ victim :: rest ∧ (∀ hash ∈ dead, hash ∉ cache.entries) ∧
      victim ∈ cache.entries ∧
      cache.evictFrom queue = ({ cache with insertionOrder := rest }.remove victim).1 := by
  induction queue with
  | nil => simp at live
  | cons first queue ih =>
      by_cases found : first ∈ cache.entries
      · refine ⟨[], first, queue, rfl, by simp, found, ?_⟩
        rw [evictFrom, if_pos (Std.ExtTreeMap.mem_iff_contains.mp found)]
      · obtain ⟨hash, member, cached⟩ := live
        have later : ∃ hash ∈ queue, hash ∈ cache.entries := by
          rcases List.mem_cons.mp member with rfl | member
          · exact absurd cached found
          · exact ⟨hash, member, cached⟩
        obtain ⟨dead, victim, rest, split, gone, present, evicted⟩ := ih later
        refine ⟨first :: dead, victim, rest, by rw [split, List.cons_append], ?_, present, ?_⟩
        · intro other member
          rcases List.mem_cons.mp member with rfl | member
          · exact found
          · exact gone other member
        · rw [evictFrom, if_neg (by rwa [← Std.ExtTreeMap.mem_iff_contains]), evicted]

theorem remove_frame (hash : BlockHash) :
    (cache.remove hash).1.capacity = cache.capacity ∧ (cache.remove hash).1.ttl = cache.ttl ∧
      (cache.remove hash).1.insertionOrder = cache.insertionOrder := by
  unfold remove
  split <;> simp

theorem mem_remove {other : BlockHash} :
    other ∈ (cache.remove hash).1.entries ↔ other ≠ hash ∧ other ∈ cache.entries := by
  simp only [Std.ExtTreeMap.mem_iff_isSome_getElem?, getElem?_remove]
  split <;> simp_all

theorem removals_spec (hashes : List BlockHash) (indexed : cache.Indexed) :
    let next := hashes.foldl (fun cache hash => (cache.remove hash).1) cache
    next.Indexed ∧ next.capacity = cache.capacity ∧ next.ttl = cache.ttl ∧
      next.insertionOrder = cache.insertionOrder ∧
      ∀ other, next.entries[other]? = if other ∈ hashes then none else cache.entries[other]? := by
  induction hashes generalizing cache with
  | nil => simp [indexed]
  | cons hash hashes ih =>
      obtain ⟨kept, capacity, ttl, order, entries⟩ := ih (indexed.remove hash)
      obtain ⟨sameCapacity, sameTtl, sameOrder⟩ := cache.remove_frame hash
      refine ⟨kept, capacity.trans sameCapacity, ttl.trans sameTtl, order.trans sameOrder, ?_⟩
      intro other
      rw [List.foldl_cons, entries, getElem?_remove]
      by_cases later : other ∈ hashes
      · simp [later]
      · simp [later, List.mem_cons]

theorem evictFrom_spec (queue : List BlockHash) (indexed : cache.Indexed) :
    (cache.evictFrom queue).Indexed ∧ ∀ (other : BlockHash) (cached : Cached),
      (cache.evictFrom queue).entries[other]? = some cached → cache.entries[other]? = some cached := by
  induction queue with
  | nil => exact ⟨⟨indexed.keyed, indexed.children, indexed.inhabited⟩, fun _ _ => id⟩
  | cons first queue ih =>
      rw [evictFrom]
      split
      · have same : Indexed { cache with insertionOrder := queue } :=
          ⟨indexed.keyed, indexed.children, indexed.inhabited⟩
        refine ⟨same.remove first, fun other cached found => ?_⟩
        rw [getElem?_remove] at found
        split at found
        · cases found
        · exact found
      · exact ih

theorem Indexed.insert (indexed : cache.Indexed) (now : Nat) (stored : StoredBlock) :
    (cache.insert now stored).Indexed := by
  unfold BlockTreeCache.insert
  split
  · rename_i found
    exact indexed.refresh now found
  · rename_i missing
    split
    · obtain ⟨evicted, left⟩ := evictFrom_spec cache.insertionOrder indexed
      refine evicted.enter now ?_
      rw [Option.eq_none_iff_forall_ne_some]
      intro cached found
      have before := left _ cached found
      rw [missing] at before
      cases before
    · exact indexed.enter now missing

/-! ### The children of a block -/

theorem mem_childrenOf (indexed : cache.Indexed) {now : Nat} {parent : BlockHash}
    {stored : StoredBlock} :
    stored ∈ cache.childrenOf now parent ↔ ∃ cached : Cached,
      cache.entries[stored.metadata.blockHash]? = some cached ∧ cached.stored = stored ∧
        stored.metadata.prevHash = parent ∧ cache.expired now cached = false := by
  simp only [childrenOf, List.mem_map, List.mem_filter, List.mem_filterMap,
    Std.ExtTreeSet.mem_toList, indexed.children, Bool.not_eq_eq_eq_not, Bool.not_true]
  constructor
  · rintro ⟨cached, ⟨⟨hash, ⟨other, found', child⟩, found⟩, fresh⟩, rfl⟩
    rw [found] at found'
    obtain rfl := Option.some.inj found'
    refine ⟨cached, ?_, rfl, child, fresh⟩
    rw [indexed.keyed hash cached found]
    exact found
  · rintro ⟨cached, found, rfl, child, fresh⟩
    exact ⟨cached, ⟨⟨_, ⟨cached, found, child⟩, found⟩, fresh⟩, rfl⟩

theorem childrenOf_nodup (indexed : cache.Indexed) (now : Nat) (parent : BlockHash) :
    ((cache.childrenOf now parent).map fun child => child.metadata.blockHash).Nodup := by
  have distinct : (cache.byParent.setOf parent).toList.Nodup := by
    refine Std.ExtTreeSet.distinct_toList.imp fun different same => ?_
    exact different (compare_eq_iff_eq.mpr same)
  rw [childrenOf, List.map_map]
  refine List.Nodup.sublist (List.filter_sublist.map _) ?_
  rw [List.map_filterMap]
  refine List.Nodup.filterMap ?_ distinct
  intro left right hash memberLeft memberRight
  simp only [Option.mem_def, Option.map_eq_some_iff] at memberLeft memberRight
  obtain ⟨cachedLeft, foundLeft, hashedLeft⟩ := memberLeft
  obtain ⟨cachedRight, foundRight, hashedRight⟩ := memberRight
  rw [← indexed.keyed left cachedLeft foundLeft, ← indexed.keyed right cachedRight foundRight]
  exact hashedLeft.trans hashedRight.symm

/-! ### Calls, and how long an entry has been there -/

inductive Call where
  | insert (now : Nat) (stored : StoredBlock)
  | remove (hash : BlockHash)
  | pruneExpired (now : Nat)

def perform (cache : BlockTreeCache) : Call → BlockTreeCache
  | .insert now stored => cache.insert now stored
  | .remove hash => (cache.remove hash).1
  | .pruneExpired now => (cache.pruneExpired now).1

def arrivals (cache : BlockTreeCache) : Call → List BlockHash
  | .insert _ stored =>
      if cache.entries.contains stored.metadata.blockHash then [] else [stored.metadata.blockHash]
  | .remove _ | .pruneExpired _ => []

theorem arrivals_fresh {now : Nat} {stored : StoredBlock}
    (fresh : stored.metadata.blockHash ∉ cache.entries) :
    cache.arrivals (.insert now stored) = [stored.metadata.blockHash] := by
  rw [arrivals, if_neg (by rwa [← Std.ExtTreeMap.mem_iff_contains])]

structure Tracked where
  cache : BlockTreeCache
  stays : List BlockHash

namespace Tracked

def start (capacity ttl : Nat) : Tracked := ⟨new capacity ttl, []⟩

def staying (tracked : Tracked) (next : BlockTreeCache) : List BlockHash :=
  tracked.stays.filter fun hash => next.entries.contains hash

def perform (tracked : Tracked) (call : Call) : Tracked where
  cache := tracked.cache.perform call
  stays := tracked.staying (tracked.cache.perform call) ++ tracked.cache.arrivals call

def run (tracked : Tracked) (calls : List Call) : Tracked := calls.foldl perform tracked

structure Sound (tracked : Tracked) : Prop where
  indexed : tracked.cache.Indexed
  positive : 0 < tracked.cache.capacity
  bounded : tracked.cache.entries.size ≤ tracked.cache.capacity
  nodup : tracked.stays.Nodup
  live : ∀ hash, hash ∈ tracked.stays ↔ hash ∈ tracked.cache.entries
  -- slots of removed entries stay behind, so this is all there is to say about the queue
  queued : tracked.stays.Sublist tracked.cache.insertionOrder

theorem start_sound (capacity ttl : Nat) : (start capacity ttl).Sound where
  indexed := new_indexed capacity ttl
  positive := by simp [start, new]
  bounded := by simp [start, new]
  nodup := by simp [start]
  live := by simp [start, new]
  queued := by simp [start, new]

theorem length_eq_size {V : Type} {hashes : List BlockHash} {map : Std.ExtTreeMap BlockHash V}
    (nodup : hashes.Nodup) (live : ∀ hash, hash ∈ hashes ↔ hash ∈ map) :
    hashes.length = map.size := by
  rw [← Std.ExtTreeMap.length_keys]
  refine ((List.perm_ext_iff_of_nodup nodup Std.ExtTreeMap.nodup_keys).mpr ?_).length_eq
  intro hash
  rw [live, Std.ExtTreeMap.mem_keys]

variable {tracked : Tracked}

theorem Sound.length_stays (sound : tracked.Sound) :
    tracked.stays.length = tracked.cache.entries.size :=
  length_eq_size sound.nodup sound.live

theorem mem_staying (sound : tracked.Sound) {next : BlockTreeCache}
    (fewer : ∀ hash ∈ next.entries, hash ∈ tracked.cache.entries) (hash : BlockHash) :
    hash ∈ tracked.staying next ↔ hash ∈ next.entries := by
  rw [staying, List.mem_filter, ← Std.ExtTreeMap.mem_iff_contains, sound.live]
  exact ⟨fun present => present.2, fun present => ⟨fewer hash present, present⟩⟩

theorem Sound.shrink (sound : tracked.Sound) {next : BlockTreeCache} (indexed : next.Indexed)
    (capacity : next.capacity = tracked.cache.capacity)
    (fewer : ∀ hash ∈ next.entries, hash ∈ tracked.cache.entries)
    (queued : (tracked.staying next).Sublist next.insertionOrder) :
    Sound ⟨next, tracked.staying next⟩ := by
  have nodup : (tracked.staying next).Nodup := sound.nodup.filter _
  have live := mem_staying sound fewer
  refine ⟨indexed, capacity ▸ sound.positive, ?_, nodup, live, queued⟩
  calc next.entries.size = (tracked.staying next).length := (length_eq_size nodup live).symm
    _ ≤ tracked.stays.length := List.length_filter_le _ _
    _ ≤ next.capacity := by rw [sound.length_stays, capacity]; exact sound.bounded

theorem Sound.enter (sound : tracked.Sound) (now : Nat) {stored : StoredBlock}
    (fresh : stored.metadata.blockHash ∉ tracked.cache.entries)
    (room : tracked.cache.entries.size < tracked.cache.capacity) :
    Sound ⟨tracked.cache.enter now stored, tracked.stays ++ [stored.metadata.blockHash]⟩ := by
  have absent : tracked.cache.entries[stored.metadata.blockHash]? = none := by
    simpa using fresh
  refine ⟨sound.indexed.enter now absent, sound.positive, ?_, ?_, ?_, ?_⟩
  · have grown : (tracked.cache.enter now stored).entries.size ≤
        tracked.cache.entries.size + 1 := Std.ExtTreeMap.size_insert_le
    exact grown.trans room
  · rw [List.nodup_append_comm]
    exact List.nodup_cons.mpr ⟨fun member => fresh ((sound.live _).mp member), sound.nodup⟩
  · intro hash
    rw [List.mem_append, List.mem_singleton, sound.live, BlockTreeCache.enter,
      Std.ExtTreeMap.mem_insert, compare_eq_iff_eq]
    tauto
  · exact sound.queued.append (List.Sublist.refl _)

theorem Sound.evictOldest (sound : tracked.Sound)
    (full : tracked.cache.capacity ≤ tracked.cache.entries.size) :
    ∃ dead victim rest, tracked.cache.insertionOrder = dead ++ victim :: rest ∧
      (∀ hash ∈ dead, hash ∉ tracked.cache.entries) ∧ victim ∈ tracked.cache.entries ∧
      tracked.cache.evictOldest.insertionOrder = rest ∧
      tracked.cache.evictOldest.capacity = tracked.cache.capacity ∧
      (∀ hash, hash ∈ tracked.cache.evictOldest.entries ↔
        hash ≠ victim ∧ hash ∈ tracked.cache.entries) ∧
      tracked.cache.evictOldest.Indexed := by
  have occupied : 0 < tracked.stays.length := by
    rw [sound.length_stays]
    exact sound.positive.trans_le full
  obtain ⟨hash, member⟩ := List.exists_mem_of_length_pos occupied
  obtain ⟨dead, victim, rest, split, gone, present, evicted⟩ :=
    evictFrom_eq ⟨hash, sound.queued.subset member, (sound.live hash).mp member⟩
  obtain ⟨capacity, _, order⟩ :=
    @remove_frame { tracked.cache with insertionOrder := rest } victim
  refine ⟨dead, victim, rest, split, gone, present, ?_, ?_, ?_, ?_⟩
  all_goals rw [BlockTreeCache.evictOldest, evicted]
  · exact order
  · exact capacity
  · intro hash
    rw [mem_remove]
  · have same : BlockTreeCache.Indexed { tracked.cache with insertionOrder := rest } :=
      ⟨sound.indexed.keyed, sound.indexed.children, sound.indexed.inhabited⟩
    exact same.remove victim

theorem Sound.staying_evicted (sound : tracked.Sound) {next : BlockTreeCache}
    {dead rest : List BlockHash} {victim : BlockHash}
    (split : tracked.cache.insertionOrder = dead ++ victim :: rest)
    (gone : ∀ hash ∈ dead, hash ∉ tracked.cache.entries)
    (left : ∀ hash, hash ∈ next.entries ↔ hash ≠ victim ∧ hash ∈ tracked.cache.entries) :
    (tracked.staying next).Sublist rest := by
  have skipped : dead.filter (fun hash => next.entries.contains hash) = [] := by
    rw [List.filter_eq_nil_iff]
    intro hash member
    rw [← Std.ExtTreeMap.mem_iff_contains, left]
    exact fun present => gone hash member present.2
  have evicted : ¬ next.entries.contains victim = true := by
    rw [← Std.ExtTreeMap.mem_iff_contains, left]
    simp
  have within := sound.queued.filter fun hash => next.entries.contains hash
  rw [split, List.filter_append, skipped, List.nil_append, List.filter_cons_of_neg evicted]
    at within
  exact within.trans List.filter_sublist

theorem Sound.evict (sound : tracked.Sound)
    (full : tracked.cache.capacity ≤ tracked.cache.entries.size) :
    Sound ⟨tracked.cache.evictOldest, tracked.staying tracked.cache.evictOldest⟩ ∧
      tracked.cache.evictOldest.entries.size < tracked.cache.evictOldest.capacity := by
  obtain ⟨dead, victim, rest, split, gone, present, order, capacity, left, indexed⟩ :=
    sound.evictOldest full
  have fewer : ∀ hash ∈ tracked.cache.evictOldest.entries, hash ∈ tracked.cache.entries :=
    fun hash member => ((left hash).mp member).2
  have after := sound.shrink indexed capacity fewer
    (order ▸ sound.staying_evicted split gone left)
  refine ⟨after, ?_⟩
  have shorter : (tracked.staying tracked.cache.evictOldest).length < tracked.stays.length := by
    refine List.length_filter_lt_length_iff_exists.mpr ⟨victim, (sound.live _).mpr present, ?_⟩
    rw [← Std.ExtTreeMap.mem_iff_contains, left]
    simp
  rw [sound.length_stays] at shorter
  rw [← after.length_stays, capacity]
  exact shorter.trans_le sound.bounded

theorem staying_enter (sound : tracked.Sound) (next : BlockTreeCache) (now : Nat)
    {stored : StoredBlock} (fresh : stored.metadata.blockHash ∉ tracked.cache.entries) :
    tracked.staying (next.enter now stored) = tracked.staying next := by
  refine List.filter_congr fun hash member => ?_
  have different : hash ≠ stored.metadata.blockHash := by
    rintro rfl
    exact fresh ((sound.live _).mp member)
  simp [BlockTreeCache.enter, Ne.symm different]

theorem staying_of_kept (sound : tracked.Sound) {next : BlockTreeCache}
    (kept : ∀ hash ∈ tracked.cache.entries, hash ∈ next.entries) :
    tracked.staying next = tracked.stays :=
  List.filter_eq_self.mpr fun hash member =>
    Std.ExtTreeMap.mem_iff_contains.mp (kept hash ((sound.live hash).mp member))

theorem Sound.perform (sound : tracked.Sound) (call : Call) : (tracked.perform call).Sound := by
  cases call with
  | insert now stored =>
      simp only [Tracked.perform, BlockTreeCache.perform, BlockTreeCache.insert]
      split
      · rename_i cached found
        have present : stored.metadata.blockHash ∈ tracked.cache.entries := by
          rw [Std.ExtTreeMap.mem_iff_isSome_getElem?, found]
          rfl
        rw [arrivals, if_pos (Std.ExtTreeMap.mem_iff_contains.mp present), List.append_nil]
        refine sound.shrink (sound.indexed.refresh now found) rfl ?_ ?_
        · intro hash member
          rcases Std.ExtTreeMap.mem_insert.mp member with same | member
          · rwa [← compare_eq_iff_eq.mp same]
          · exact member
        · exact List.filter_sublist.trans sound.queued
      · rename_i missing
        have fresh : stored.metadata.blockHash ∉ tracked.cache.entries := by simpa using missing
        rw [arrivals_fresh fresh]
        split
        · rename_i full
          obtain ⟨after, room⟩ := sound.evict full
          obtain ⟨_, _, _, _, _, _, _, _, left, _⟩ := sound.evictOldest full
          rw [staying_enter sound _ now fresh]
          exact after.enter now (fun member => fresh ((left _).mp member).2) room
        · rename_i room
          rw [staying_enter sound _ now fresh, staying_of_kept sound fun _ member => member]
          exact sound.enter now fresh (Nat.lt_of_not_le room)
  | remove hash =>
      obtain ⟨capacity, _, order⟩ := tracked.cache.remove_frame hash
      simp only [Tracked.perform, BlockTreeCache.perform, arrivals, List.append_nil]
      refine sound.shrink (sound.indexed.remove hash) capacity ?_ ?_
      · exact fun other member => (mem_remove.mp member).2
      · rw [order]
        exact List.filter_sublist.trans sound.queued
  | pruneExpired now =>
      simp only [Tracked.perform, BlockTreeCache.perform, BlockTreeCache.pruneExpired, arrivals,
        List.append_nil]
      obtain ⟨indexed, capacity, _, order, entries⟩ := removals_spec
        ((tracked.cache.entries.toList.filter fun entry =>
          tracked.cache.expired now entry.2).map Prod.fst) sound.indexed
      refine sound.shrink indexed capacity ?_ ?_
      · intro other member
        rw [Std.ExtTreeMap.mem_iff_isSome_getElem?, entries] at member
        split at member
        · simp at member
        · rwa [Std.ExtTreeMap.mem_iff_isSome_getElem?]
      · rw [order]
        exact List.filter_sublist.trans sound.queued

theorem run_sound (capacity ttl : Nat) (calls : List Call) :
    ((start capacity ttl).run calls).Sound :=
  List.foldlRecOn calls Tracked.perform (start_sound capacity ttl)
    fun _ sound call _ => sound.perform call

/-! ### The queue -/

def QueueBounded (tracked : Tracked) : Prop :=
  tracked.cache.insertionOrder.length ≤ tracked.cache.capacity

def EvictsEarliest (tracked : Tracked) : Call → Prop
  | .insert now stored => stored.metadata.blockHash ∉ tracked.cache.entries →
      tracked.cache.capacity ≤ tracked.cache.entries.size →
      tracked.stays.filter (fun hash => hash ∉ (tracked.cache.insert now stored).entries) =
        tracked.stays.take 1
  | .remove _ | .pruneExpired _ => True

def FindsQueueFull (tracked : Tracked) : Call → Prop
  | .insert _ stored => stored.metadata.blockHash ∉ tracked.cache.entries ∧
      tracked.cache.entries.size < tracked.cache.capacity ∧
      tracked.cache.capacity ≤ tracked.cache.insertionOrder.length
  | .remove _ | .pruneExpired _ => False

theorem insert_of_fresh {cache : BlockTreeCache} (now : Nat) {stored : StoredBlock}
    (fresh : stored.metadata.blockHash ∉ cache.entries) :
    cache.insert now stored =
      if cache.capacity ≤ cache.entries.size then cache.evictOldest.enter now stored
      else cache.enter now stored := by
  have missing : cache.entries[stored.metadata.blockHash]? = none := by simpa using fresh
  rw [BlockTreeCache.insert, missing]

theorem insert_of_present {cache : BlockTreeCache} (now : Nat) {stored : StoredBlock}
    (present : stored.metadata.blockHash ∈ cache.entries) :
    (cache.insert now stored).insertionOrder = cache.insertionOrder ∧
      (cache.insert now stored).capacity = cache.capacity := by
  rw [Std.ExtTreeMap.mem_iff_isSome_getElem?] at present
  obtain ⟨cached, found⟩ := Option.isSome_iff_exists.mp present
  simp [BlockTreeCache.insert, found]

theorem Sound.queueBounded_iff (sound : tracked.Sound) (bounded : tracked.QueueBounded)
    (call : Call) : (tracked.perform call).QueueBounded ↔ ¬ tracked.FindsQueueFull call := by
  have queue : tracked.cache.insertionOrder.length ≤ tracked.cache.capacity := bounded
  simp only [QueueBounded, Tracked.perform]
  cases call with
  | insert now stored =>
      simp only [BlockTreeCache.perform]
      by_cases fresh : stored.metadata.blockHash ∈ tracked.cache.entries
      · obtain ⟨order, capacity⟩ := insert_of_present now fresh
        rw [order, capacity]
        exact iff_of_true queue fun missed => missed.1 fresh
      rw [insert_of_fresh now fresh]
      by_cases full : tracked.cache.capacity ≤ tracked.cache.entries.size
      · obtain ⟨dead, victim, rest, split, _, _, order, capacity, _, _⟩ := sound.evictOldest full
        -- at least the victim's slot is freed
        have freed : rest.length + 1 ≤ tracked.cache.capacity := by
          rw [split] at queue
          simp only [List.length_append, List.length_cons] at queue
          omega
        rw [if_pos full]
        refine iff_of_true ?_ fun missed => Nat.not_lt.mpr full missed.2.1
        simpa only [BlockTreeCache.enter, order, capacity, List.length_append,
          List.length_singleton] using freed
      · rw [if_neg full]
        simp only [BlockTreeCache.enter, List.length_append, List.length_singleton,
          FindsQueueFull, fresh, not_false_eq_true, true_and]
        omega
  | remove hash =>
      obtain ⟨capacity, _, order⟩ := tracked.cache.remove_frame hash
      simp only [BlockTreeCache.perform]
      rw [order, capacity]
      exact iff_of_true queue not_false
  | pruneExpired now =>
      simp only [BlockTreeCache.perform, BlockTreeCache.pruneExpired]
      obtain ⟨_, capacity, _, order, _⟩ := removals_spec
        ((tracked.cache.entries.toList.filter fun entry =>
          tracked.cache.expired now entry.2).map Prod.fst) sound.indexed
      rw [order, capacity]
      exact iff_of_true queue not_false

theorem Sound.stays_eq_queue (sound : tracked.Sound) (bounded : tracked.QueueBounded)
    (full : tracked.cache.capacity ≤ tracked.cache.entries.size) :
    tracked.stays = tracked.cache.insertionOrder := by
  refine sound.queued.eq_of_length_le ?_
  rw [sound.length_stays]
  exact bounded.trans full

theorem Sound.evictsEarliest (sound : tracked.Sound) (bounded : tracked.QueueBounded)
    (call : Call) : tracked.EvictsEarliest call := by
  cases call with
  | remove _ | pruneExpired _ => trivial
  | insert now stored =>
      intro fresh full
      obtain ⟨dead, victim, rest, split, gone, _, _, _, left, _⟩ := sound.evictOldest full
      have stays := sound.stays_eq_queue bounded full
      rw [split] at stays
      have skipped : dead = [] := by
        refine List.eq_nil_iff_forall_not_mem.mpr fun hash member => gone hash member ?_
        rw [← sound.live, stays]
        exact List.mem_append_left _ member
      rw [skipped, List.nil_append] at stays
      have once : victim ∉ rest := (List.nodup_cons.mp (stays ▸ sound.nodup)).1
      have after : ∀ hash ∈ tracked.stays,
          (hash ∉ (tracked.cache.insert now stored).entries ↔ hash = victim) := by
        intro hash member
        have present := (sound.live hash).mp member
        have different : stored.metadata.blockHash ≠ hash := by
          rintro rfl
          exact fresh present
        rw [insert_of_fresh now fresh, if_pos full, BlockTreeCache.enter,
          Std.ExtTreeMap.mem_insert, compare_eq_iff_eq, left]
        simp [different, present]
      have evicted : tracked.stays.filter
          (fun hash => hash ∉ (tracked.cache.insert now stored).entries) =
            tracked.stays.filter fun hash => hash = victim :=
        List.filter_congr fun hash member => decide_eq_decide.mpr (after hash member)
      have others : rest.filter (fun hash => decide (hash = victim)) = [] := by
        refine List.filter_eq_nil_iff.mpr fun hash member same => once ?_
        rwa [← of_decide_eq_true same]
      rw [evicted, stays]
      simp [others]

/-- Over any run the entries are bounded and indexed by parent exactly. The queue stays within
the capacity, and evictions go by age, just when no new hash finds the queue full while the
cache is not. -/
theorem orphanCache_bounded (capacity ttl : Nat) (calls : List Call) :
    (∀ early, early <+: calls →
      let cache := ((start capacity ttl).run early).cache
      cache.entries.size ≤ cache.capacity ∧
      (∀ parent hash, hash ∈ cache.byParent.setOf parent ↔ ∃ cached : Cached,
        cache.entries[hash]? = some cached ∧ cached.stored.metadata.prevHash = parent) ∧
      (∀ (parent : BlockHash) (set : Std.ExtTreeSet BlockHash),
        cache.byParent[parent]? = some set → set.isEmpty = false)) ∧
    (((∀ early, early <+: calls → ((start capacity ttl).run early).QueueBounded) ∧
        ∀ early call, early ++ [call] <+: calls →
          ((start capacity ttl).run early).EvictsEarliest call) ↔
      ∀ early call, early ++ [call] <+: calls →
        ¬ ((start capacity ttl).run early).FindsQueueFull call) := by
  refine ⟨?_, ?_⟩
  · intro early _
    have sound := run_sound capacity ttl early
    exact ⟨sound.bounded, sound.indexed.children, sound.indexed.inhabited⟩
  have along := Runs.holds_along_iff Tracked.perform
    (fun tracked => tracked.Sound ∧ tracked.QueueBounded) FindsQueueFull
    (fun tracked call holds => by
      rw [← holds.1.queueBounded_iff holds.2 call]
      exact and_iff_right (holds.1.perform call))
    (show (start capacity ttl).Sound ∧ (start capacity ttl).QueueBounded from
      ⟨start_sound capacity ttl, by simp [QueueBounded, start, new]⟩) calls
  constructor
  · rintro ⟨bounded, _⟩
    exact along.mp fun early within => ⟨run_sound capacity ttl early, bounded early within⟩
  · intro room
    have holds := along.mpr room
    refine ⟨fun early within => (holds early within).2, fun early call within => ?_⟩
    obtain ⟨sound, bounded⟩ := holds early ((List.prefix_append early [call]).trans within)
    exact sound.evictsEarliest bounded call

def orphan (blockHash prevHash : BlockHash) : StoredBlock where
  block :=
    ⟨⟨1, 9, prevHash, Bytes32.fill 0, Bytes32.fill 0, 0, [], Bytes32.fill 0⟩, [], []⟩
  metadata :=
    { blockHash, height := 9, prevHash, stateRoot := Bytes32.fill 0, txRoot := Bytes32.fill 0,
      timestamp := 0, bytesUsed := 0, includedCount := 0, deferredCount := 0, skippedCount := 0,
      vcBudgetConsumed := 0 }
  includedTransactions := []

def returningOrphan : List Call :=
  [.insert 0 (orphan (Bytes32.fill 1) (Bytes32.fill 9)), .remove (Bytes32.fill 1),
    .insert 1 (orphan (Bytes32.fill 2) (Bytes32.fill 9)),
    .insert 2 (orphan (Bytes32.fill 1) (Bytes32.fill 9))]

/-- Its old slot puts it in front again: three slots for two entries, and the next orphan
evicts the one that came last. -/
theorem returningOrphan_evicted :
    ¬ ((start 2 60).run returningOrphan).QueueBounded ∧
      ¬ ((start 2 60).run returningOrphan).EvictsEarliest
        (.insert 3 (orphan (Bytes32.fill 3) (Bytes32.fill 9))) := by
  constructor
  · rw [QueueBounded]
    decide +kernel
  · rw [EvictsEarliest]
    decide +kernel

end Tracked

end BlockTreeCache

end ViperChain
