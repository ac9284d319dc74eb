import Mathlib

/-!
A keyed table with a table of digests maintained beside it by hand: a writer may change
an entry first and refresh its digest later.
-/

namespace CachedTables

scoped instance transCmp {K : Type} [LinearOrder K] :
    Std.TransCmp (compare : K → K → Ordering) := inferInstance

structure CachedTable (K V H : Type) [LinearOrder K] where
  entries : Std.ExtTreeMap K V
  leaves : Std.ExtTreeMap K H

variable {K V H : Type} [LinearOrder K]

namespace CachedTable

def empty : CachedTable K V H := ⟨∅, ∅⟩

def get? (table : CachedTable K V H) (key : K) : Option V := table.entries[key]?

def contains (table : CachedTable K V H) (key : K) : Bool := (table.get? key).isSome

def values (table : CachedTable K V H) : List V := table.entries.toList.map Prod.snd

def insert (digest : K → V → H) (table : CachedTable K V H) (key : K) (value : V) :
    CachedTable K V H :=
  ⟨table.entries.insert key value, table.leaves.insert key (digest key value)⟩

def modify (table : CachedTable K V H) (key : K) (change : V → V) : CachedTable K V H :=
  match table.get? key with
  | some value => ⟨table.entries.insert key (change value), table.leaves⟩
  | none => table

def modifyAll (table : CachedTable K V H) (change : V → V) : CachedTable K V H :=
  ⟨table.entries.map fun _ => change, table.leaves⟩

def commit (digest : K → V → H) (table : CachedTable K V H) (key : K) : CachedTable K V H :=
  match table.get? key with
  | some value => ⟨table.entries, table.leaves.insert key (digest key value)⟩
  | none => table

def remove (table : CachedTable K V H) (key : K) : CachedTable K V H :=
  ⟨table.entries.erase key, table.leaves.erase key⟩

section Lookup

variable (digest : K → V → H) (table : CachedTable K V H) (key other : K)

@[simp] theorem get?_empty : (empty : CachedTable K V H).get? key = none := by
  simp [empty, get?]

@[simp] theorem get?_insert (value : V) :
    (table.insert digest key value).get? other =
      if key = other then some value else table.get? other := by
  simp [insert, get?, Std.ExtTreeMap.getElem?_insert]

@[simp] theorem get?_modify (change : V → V) :
    (table.modify key change).get? other =
      if key = other then (table.get? other).map change else table.get? other := by
  unfold modify
  split
  · next value found =>
      simp only [get?, Std.ExtTreeMap.getElem?_insert, compare_eq_iff_eq]
      split
      · next same => subst same; simp only [get?] at found; simp [found]
      · rfl
  · next missing =>
      split
      · next same => subst same; simp [missing]
      · rfl

@[simp] theorem get?_modifyAll (change : V → V) :
    (table.modifyAll change).get? key = (table.get? key).map change := by
  simp [modifyAll, get?]

@[simp] theorem commit_entries : (table.commit digest key).entries = table.entries := by
  unfold commit
  split <;> rfl

@[simp] theorem foldl_commit_entries (keys : List K) :
    (keys.foldl (fun table key => table.commit digest key) table).entries = table.entries := by
  induction keys generalizing table with
  | nil => rfl
  | cons key keys ih => rw [List.foldl_cons, ih, commit_entries]

@[simp] theorem get?_commit : (table.commit digest key).get? other = table.get? other := by
  simp [get?]

@[simp] theorem get?_remove :
    (table.remove key).get? other = if key = other then none else table.get? other := by
  simp [remove, get?, Std.ExtTreeMap.getElem?_erase]

section Contains

variable (digest : K → V → H) (table : CachedTable K V H) (key other : K)

@[simp] theorem contains_modify (change : V → V) :
    (table.modify key change).contains other = table.contains other := by
  simp only [contains, get?_modify]
  split <;> simp

@[simp] theorem contains_commit : (table.commit digest key).contains other = table.contains other := by
  simp [contains]

end Contains

theorem mem_values {value : V} : value ∈ table.values ↔ ∃ key, table.get? key = some value := by
  simp only [values, List.mem_map, Prod.exists, exists_eq_right, get?,
    Std.ExtTreeMap.mem_toList_iff_getElem?_eq_some]

end Lookup

section Freshness

variable {digest : K → V → H} {table : CachedTable K V H}

def FreshExcept (digest : K → V → H) (stale : K → Prop) (table : CachedTable K V H) : Prop :=
  ∀ key, ¬ stale key → table.leaves[key]? = (table.get? key).map (digest key)

def Coherent (digest : K → V → H) (table : CachedTable K V H) : Prop :=
  ∀ key, table.leaves[key]? = (table.get? key).map (digest key)

theorem coherent_empty : Coherent digest (empty : CachedTable K V H) := by
  intro key
  simp [empty, get?]

theorem FreshExcept.coherent {stale : K → Prop} (fresh : FreshExcept digest stale table)
    (none_stale : ∀ key, ¬ stale key) : Coherent digest table :=
  fun key => fresh key (none_stale key)

theorem Coherent.freshExcept (coherent : Coherent digest table) (stale : K → Prop) :
    FreshExcept digest stale table :=
  fun key _ => coherent key

theorem Coherent.leaves_eq (coherent : Coherent digest table) :
    table.leaves = table.entries.map digest := by
  apply Std.ExtTreeMap.ext_getElem?
  intro key
  rw [coherent key, Std.ExtTreeMap.getElem?_map]
  rfl

theorem FreshExcept.insert {stale : K → Prop} (fresh : FreshExcept digest stale table)
    (key : K) (value : V) : FreshExcept digest stale (table.insert digest key value) := by
  intro other notStale
  rw [get?_insert]
  simp only [CachedTable.insert, Std.ExtTreeMap.getElem?_insert, compare_eq_iff_eq]
  split
  · next same => subst same; rfl
  · exact fresh other notStale

theorem FreshExcept.modify {stale : K → Prop} (fresh : FreshExcept digest stale table)
    (key : K) (change : V → V) :
    FreshExcept digest (fun other => other = key ∨ stale other) (table.modify key change) := by
  intro other notStale
  rw [get?_modify, if_neg (fun same => notStale (.inl same.symm))]
  have kept : (table.modify key change).leaves = table.leaves := by
    unfold CachedTable.modify
    split <;> rfl
  rw [kept]
  exact fresh other (fun wasStale => notStale (.inr wasStale))

theorem FreshExcept.commit {stale : K → Prop} (fresh : FreshExcept digest stale table)
    (key : K) (present : stale key → (table.get? key).isSome) :
    FreshExcept digest (fun other => other ≠ key ∧ stale other) (table.commit digest key) := by
  intro other notStale
  rw [get?_commit]
  unfold CachedTable.commit
  split
  · next value found =>
      simp only [Std.ExtTreeMap.getElem?_insert, compare_eq_iff_eq]
      split
      · next same => subst same; simp [found]
      · next different =>
          exact fresh other (fun wasStale => notStale ⟨Ne.symm different, wasStale⟩)
  · next missing =>
      apply fresh
      intro wasStale
      by_cases same : other = key
      · subst same
        simp [missing] at present
        exact present wasStale
      · exact notStale ⟨same, wasStale⟩

theorem Coherent.insert (coherent : Coherent digest table) (key : K) (value : V) :
    Coherent digest (table.insert digest key value) :=
  ((coherent.freshExcept fun _ => False).insert key value).coherent fun _ => id

theorem Coherent.remove (coherent : Coherent digest table) (key : K) :
    Coherent digest (table.remove key) := by
  intro other
  rw [get?_remove]
  simp only [CachedTable.remove, Std.ExtTreeMap.getElem?_erase, compare_eq_iff_eq]
  split
  · rfl
  · exact coherent other

theorem Coherent.commit (coherent : Coherent digest table) (key : K) :
    Coherent digest (table.commit digest key) :=
  ((coherent.freshExcept fun _ => False).commit key (fun never => never.elim)).coherent
    fun _ stale => stale.2

theorem Coherent.modify_commit (coherent : Coherent digest table) (key : K) (change : V → V) :
    Coherent digest ((table.modify key change).commit digest key) := by
  by_cases present : (table.get? key).isSome
  · have changed := (coherent.freshExcept fun _ => False).modify key change
    have refreshed := changed.commit key (fun _ => by simp [present])
    apply refreshed.coherent
    rintro other ⟨different, same | never⟩
    · exact different same
    · exact never
  · have unchanged : table.modify key change = table := by
      unfold CachedTable.modify
      rw [Option.not_isSome_iff_eq_none.mp present]
    rw [unchanged]
    exact coherent.commit key

theorem FreshExcept.foldl_commit {stale : K → Prop} (fresh : FreshExcept digest stale table)
    (present : ∀ key, stale key → (table.get? key).isSome) (keys : List K) :
    FreshExcept digest (fun key => key ∉ keys ∧ stale key)
      (keys.foldl (fun current key => current.commit digest key) table) := by
  induction keys generalizing table stale with
  | nil => exact fun key notStale => fresh key (fun wasStale => notStale ⟨by simp, wasStale⟩)
  | cons head tail ih =>
      have step := fresh.commit head (present head)
      have rest := ih step (by rintro key ⟨_, wasStale⟩; simpa using present key wasStale)
      intro key notStale
      apply rest key
      rintro ⟨notTail, notHead, wasStale⟩
      exact notStale ⟨by simp [notHead, notTail], wasStale⟩

theorem Coherent.modifyAll_commit (coherent : Coherent digest table) (change : V → V)
    (keys : List K)
    (covered : ∀ key value, table.get? key = some value → change value ≠ value → key ∈ keys) :
    Coherent digest
      (keys.foldl (fun current key => current.commit digest key) (table.modifyAll change)) := by
  have changed : FreshExcept digest
      (fun key => ∃ value, table.get? key = some value ∧ change value ≠ value)
      (table.modifyAll change) := by
    intro key notStale
    rw [get?_modifyAll]
    change table.leaves[key]? = _
    rw [coherent key]
    cases found : table.get? key with
    | none => rfl
    | some value =>
        have same : change value = value := by
          by_contra different
          exact notStale ⟨value, found, different⟩
        simp [same]
  have present : ∀ key, (∃ value, table.get? key = some value ∧ change value ≠ value) →
      ((table.modifyAll change).get? key).isSome := by
    rintro key ⟨value, found, _⟩
    simp [found]
  apply (changed.foldl_commit present keys).coherent
  rintro key ⟨outside, value, found, different⟩
  exact outside (covered key value found different)

end Freshness

section Keyed

variable {keyOf : V → K} {table : CachedTable K V H}

def Keyed (keyOf : V → K) (table : CachedTable K V H) : Prop :=
  ∀ key value, table.get? key = some value → keyOf value = key

theorem keyed_empty : Keyed keyOf (empty : CachedTable K V H) := by
  intro key value found
  simp at found

theorem Keyed.insert (keyed : Keyed keyOf table) (digest : K → V → H) (value : V) :
    Keyed keyOf (table.insert digest (keyOf value) value) := by
  intro key stored found
  rw [get?_insert] at found
  split at found
  · next same => cases found; exact same
  · exact keyed key stored found

theorem Keyed.modify (keyed : Keyed keyOf table) (key : K) (change : V → V)
    (keeps : ∀ value, table.get? key = some value → keyOf (change value) = keyOf value) :
    Keyed keyOf (table.modify key change) := by
  intro other stored found
  rw [get?_modify] at found
  split at found
  · next same =>
      subst same
      obtain ⟨value, old, rfl⟩ := Option.map_eq_some_iff.mp found
      rw [keeps value old]
      exact keyed key value old
  · exact keyed other stored found

theorem Keyed.modifyAll (keyed : Keyed keyOf table) (change : V → V)
    (keeps : ∀ value, keyOf (change value) = keyOf value) :
    Keyed keyOf (table.modifyAll change) := by
  intro key stored found
  rw [get?_modifyAll] at found
  obtain ⟨value, old, rfl⟩ := Option.map_eq_some_iff.mp found
  rw [keeps value]
  exact keyed key value old

theorem Keyed.commit (keyed : Keyed keyOf table) (digest : K → V → H) (key : K) :
    Keyed keyOf (table.commit digest key) := by
  intro other stored found
  rw [get?_commit] at found
  exact keyed other stored found

end Keyed

section Totals

variable (weight : V → Nat) (table : CachedTable K V H)

def total : Nat := (table.values.map weight).sum

def weightAt (key : K) : Nat := ((table.get? key).map weight).getD 0

theorem entries_perm_erase {key : K} {value : V} (found : table.get? key = some value) :
    table.entries.toList.Perm ((key, value) :: (table.entries.erase key).toList) := by
  rw [List.perm_ext_iff_of_nodup]
  · intro ⟨other, stored⟩
    simp only [List.mem_cons, Prod.mk.injEq, Std.ExtTreeMap.mem_toList_iff_getElem?_eq_some,
      Std.ExtTreeMap.getElem?_erase, compare_eq_iff_eq]
    constructor
    · intro present
      by_cases same : key = other
      · subst same
        exact .inl ⟨rfl, Option.some_inj.mp (present.symm.trans found)⟩
      · exact .inr (by rwa [if_neg same])
    · rintro (⟨rfl, rfl⟩ | present)
      · exact found
      · split at present
        · cases present
        · exact present
  · exact table.entries.distinct_keys_toList.imp fun apart same => apart (by simp [same])
  · refine List.nodup_cons.mpr ⟨?_, ?_⟩
    · simp [Std.ExtTreeMap.mem_toList_iff_getElem?_eq_some]
    · exact (table.entries.erase key).distinct_keys_toList.imp fun apart same =>
        apart (by simp [same])

theorem total_eq_erase (key : K) :
    table.total weight = table.weightAt weight key + (table.remove key).total weight := by
  unfold weightAt
  cases found : table.get? key with
  | none =>
      have absent : table.entries.erase key = table.entries := by
        apply Std.ExtTreeMap.ext_getElem?
        intro other
        rw [Std.ExtTreeMap.getElem?_erase]
        split
        · next same =>
            rw [compare_eq_iff_eq] at same
            exact (same ▸ found).symm
        · rfl
      simp [total, values, remove, absent]
  | some value =>
      have split := ((table.entries_perm_erase found).map fun entry => weight entry.2).sum_eq
      simpa [total, values, remove, Function.comp_def] using split

theorem total_congr {left right : CachedTable K V H} (same : left.entries = right.entries) :
    left.total weight = right.total weight := by
  simp only [total, values, same]

theorem total_write (leaves : Std.ExtTreeMap K H) (key : K) (value : V) :
    (⟨table.entries.insert key value, leaves⟩ : CachedTable K V H).total weight +
      table.weightAt weight key = table.total weight + weight value := by
  have rest : (⟨(table.entries.insert key value).erase key, leaves.erase key⟩ :
      CachedTable K V H).total weight = (table.remove key).total weight := by
    refine total_congr weight (Std.ExtTreeMap.ext_getElem? fun other => ?_)
    simp only [remove, Std.ExtTreeMap.getElem?_erase, Std.ExtTreeMap.getElem?_insert]
    split <;> rfl
  have before := table.total_eq_erase weight key
  have after := total_eq_erase weight ⟨table.entries.insert key value, leaves⟩ key
  simp only [remove, rest] at after before
  simp only [after, before, weightAt, get?, Std.ExtTreeMap.getElem?_insert_self, Option.map_some,
    Option.getD_some]
  omega

theorem total_insert (digest : K → V → H) (key : K) (value : V) :
    (table.insert digest key value).total weight + table.weightAt weight key =
      table.total weight + weight value :=
  table.total_write weight _ key value

@[simp] theorem total_commit (digest : K → V → H) (key : K) :
    (table.commit digest key).total weight = table.total weight :=
  total_congr weight (commit_entries digest table key)

theorem total_modify {key : K} {value : V} (found : table.get? key = some value)
    (change : V → V) :
    (table.modify key change).total weight + weight value =
      table.total weight + weight (change value) := by
  have written := table.total_write weight table.leaves key (change value)
  simpa only [modify, weightAt, found, Option.map_some, Option.getD_some] using written

theorem total_modify_of_absent {key : K} (missing : table.get? key = none) (change : V → V) :
    (table.modify key change).total weight = table.total weight := by
  simp only [modify, missing]

theorem total_modify_of_eq (key : K) (change : V → V)
    (keeps : ∀ value, table.get? key = some value → weight (change value) = weight value) :
    (table.modify key change).total weight = table.total weight := by
  cases found : table.get? key with
  | none => exact table.total_modify_of_absent weight found change
  | some value =>
      have modified := table.total_modify weight found change
      rw [keeps value found] at modified
      omega

theorem total_modifyAll (change : V → V) :
    (table.modifyAll change).total weight = table.total (weight ∘ change) := by
  simp [total, values, modifyAll, Std.ExtTreeMap.toList_map, Function.comp_def]

theorem total_indicator (holds : V → Prop) [DecidablePred holds] :
    table.total (fun value => if holds value then 1 else 0) =
      (table.values.filter fun value => holds value).length := by
  unfold total
  induction table.values with
  | nil => rfl
  | cons value values ih =>
      rw [List.map_cons, List.sum_cons, ih, List.filter_cons]
      split
      · simp_all only [decide_true, if_true, List.length_cons]
        omega
      · simp_all

theorem weightAt_le_total (key : K) : table.weightAt weight key ≤ table.total weight := by
  rw [table.total_eq_erase weight key]
  exact Nat.le_add_right _ _

theorem exists_other_of_weightAt_lt {key : K}
    (more : table.weightAt weight key < table.total weight) :
    ∃ other value, other ≠ key ∧ table.get? other = some value ∧ 0 < weight value := by
  rw [table.total_eq_erase weight key] at more
  have rest : (table.remove key).total weight ≠ 0 := by omega
  simp only [total, ne_eq, List.sum_eq_zero_iff, not_forall] at rest
  obtain ⟨heavy, member, positive⟩ := rest
  obtain ⟨value, stored, rfl⟩ := List.mem_map.mp member
  obtain ⟨other, found⟩ := (table.remove key).mem_values.mp stored
  rw [get?_remove] at found
  split at found
  case isTrue => cases found
  case isFalse different => exact ⟨other, value, fun same => different same.symm, found, by omega⟩

end Totals

section Refill

variable {digest : K → V → H} {keyOf : V → K} {table : CachedTable K V H}

def refill (digest : K → V → H) (keyOf : V → K) (values : List V) (table : CachedTable K V H) :
    CachedTable K V H :=
  values.foldl (fun current value => current.insert digest (keyOf value) value) table

theorem Coherent.refill (coherent : Coherent digest table) (values : List V) :
    Coherent digest (table.refill digest keyOf values) :=
  List.foldlRecOn values _ coherent fun _ holds value _ => holds.insert (keyOf value) value

theorem get?_refill_of_not_mem (digest : K → V → H) (table : CachedTable K V H) (values : List V)
    {key : K} (outside : key ∉ values.map keyOf) :
    (table.refill digest keyOf values).get? key = table.get? key := by
  induction values generalizing table with
  | nil => rfl
  | cons value values ih =>
      simp only [List.map_cons, List.mem_cons, not_or] at outside
      have rest := ih (table.insert digest (keyOf value) value) outside.2
      rw [get?_insert, if_neg (Ne.symm outside.1)] at rest
      exact rest

theorem get?_refill_of_mem (digest : K → V → H) (table : CachedTable K V H) {values : List V} (distinct : (values.map keyOf).Nodup) {value : V}
    (member : value ∈ values) :
    (table.refill digest keyOf values).get? (keyOf value) = some value := by
  induction values generalizing table with
  | nil => simp at member
  | cons first values ih =>
      simp only [List.map_cons, List.nodup_cons] at distinct
      rcases List.mem_cons.mp member with rfl | later
      · have kept := get?_refill_of_not_mem digest (table.insert digest (keyOf value) value) values
          distinct.1
        rw [get?_insert, if_pos rfl] at kept
        exact kept
      · exact ih (table.insert digest (keyOf first) first) distinct.2 later

theorem Keyed.keys_eq (keyed : Keyed keyOf table) :
    table.values.map keyOf = table.entries.toList.map Prod.fst := by
  simp only [values, List.map_map]
  refine List.map_congr_left fun entry member => ?_
  exact keyed entry.1 entry.2 (Std.ExtTreeMap.mem_toList_iff_getElem?_eq_some.mp member)

theorem Keyed.distinct (keyed : Keyed keyOf table) : (table.values.map keyOf).Nodup := by
  rw [keyed.keys_eq]
  refine List.pairwise_map.mpr (table.entries.distinct_keys_toList.imp fun apart same => ?_)
  exact apart (by simp [same])

theorem Keyed.get?_refill (keyed : Keyed keyOf table) (digest : K → V → H) {ordered : List V}
    (order : ordered.Perm table.values) {change : V → V}
    (keeps : ∀ value, keyOf (change value) = keyOf value) (key : K) :
    ((empty : CachedTable K V H).refill digest keyOf (ordered.map change)).get? key =
      (table.get? key).map change := by
  have keys : (ordered.map change).map keyOf = ordered.map keyOf := by simp [keeps]
  have distinct : ((ordered.map change).map keyOf).Nodup := by
    rw [keys]
    exact (order.map keyOf).nodup_iff.mpr keyed.distinct
  cases found : table.get? key with
  | none =>
      have outside : key ∉ (ordered.map change).map keyOf := by
        rw [keys, (order.map keyOf).mem_iff, List.mem_map]
        rintro ⟨value, member, rfl⟩
        obtain ⟨stored, present⟩ := (table.mem_values).mp member
        rw [keyed stored value present, present] at found
        cases found
      rw [get?_refill_of_not_mem _ _ _ outside, get?_empty]
      rfl
  | some value =>
      have member : change value ∈ ordered.map change :=
        List.mem_map_of_mem (order.mem_iff.mpr (table.mem_values.mpr ⟨key, found⟩))
      have read := get?_refill_of_mem digest empty distinct member
      rw [keeps, keyed key value found] at read
      exact read

theorem Keyed.refill_entries_eq (keyed : Keyed keyOf table) (digest : K → V → H) {ordered : List V}
    (order : ordered.Perm table.values) {change : V → V}
    (keeps : ∀ value, keyOf (change value) = keyOf value) :
    ((empty : CachedTable K V H).refill digest keyOf (ordered.map change)).entries = table.entries ↔
      ∀ value ∈ table.values, change value = value := by
  constructor
  · intro same value member
    obtain ⟨key, found⟩ := table.mem_values.mp member
    have read := keyed.get?_refill digest order keeps key
    rw [get?, same] at read
    change table.get? key = _ at read
    rw [found, Option.map_some, Option.some.injEq] at read
    exact read.symm
  · intro unchanged
    refine Std.ExtTreeMap.ext_getElem? fun key => ?_
    have read := keyed.get?_refill digest order keeps key
    refine read.trans ?_
    cases found : table.get? key with
    | none => exact found.symm
    | some value =>
        rw [Option.map_some, unchanged value (table.mem_values.mpr ⟨key, found⟩)]
        exact found.symm

theorem Keyed.refill_entries (keyed : Keyed keyOf table) (digest : K → V → H) {ordered : List V}
    (order : ordered.Perm table.values) :
    ((empty : CachedTable K V H).refill digest keyOf ordered).entries = table.entries := by
  have same := (keyed.refill_entries_eq digest order fun value =>
    (rfl : keyOf (id value) = keyOf value)).mpr fun _ _ => rfl
  rwa [List.map_id] at same

end Refill

end CachedTable

end CachedTables
