import Mathlib

/-!
Ordered maps as the sorted lists of their entries.
-/

namespace OrderedMaps

open Std

variable {K V : Type} [LinearOrder K]

theorem sorted_toList (map : ExtTreeMap K V) :
    map.toList.Pairwise fun left right => left.1 < right.1 :=
  map.ordered_keys_toList.imp fun before => compare_lt_iff_lt.mp before

theorem nodup_toList (map : ExtTreeMap K V) : map.toList.Nodup :=
  (sorted_toList map).imp fun before same => absurd (congrArg Prod.fst same) before.ne

theorem toList_eq_of_sorted {map : ExtTreeMap K V} {entries : List (K × V)}
    (sorted : entries.Pairwise fun left right => left.1 < right.1)
    (members : ∀ key value, (key, value) ∈ entries ↔ map[key]? = some value) :
    map.toList = entries := by
  have nodup : entries.Nodup :=
    sorted.imp fun before same => absurd (congrArg Prod.fst same) before.ne
  refine List.Perm.eq_of_pairwise (fun left right _ _ before after => ?_) (sorted_toList map) sorted ?_
  · exact absurd after before.asymm
  · refine (List.perm_ext_iff_of_nodup (nodup_toList map) nodup).mpr ?_
    rintro ⟨key, value⟩
    rw [members, ExtTreeMap.mem_toList_iff_getElem?_eq_some]

theorem toList_insert_above {map : ExtTreeMap K V} {key : K} (value : V)
    (above : ∀ other held, map[other]? = some held → other < key) :
    (map.insert key value).toList = map.toList ++ [(key, value)] := by
  have below : ∀ entry ∈ map.toList, entry.1 < key := fun entry member =>
    above entry.1 entry.2 (ExtTreeMap.mem_toList_iff_getElem?_eq_some.mp member)
  apply toList_eq_of_sorted
  · rw [List.pairwise_append]
    refine ⟨sorted_toList map, List.pairwise_singleton _ _, ?_⟩
    intro entry member last only
    rw [List.mem_singleton.mp only]
    exact below entry member
  · intro other held
    rw [List.mem_append, List.mem_singleton, ExtTreeMap.mem_toList_iff_getElem?_eq_some,
      ExtTreeMap.getElem?_insert]
    by_cases same : key = other
    · subst same
      have absent : map[key]? = none := by
        cases found : map[key]? with
        | none => rfl
        | some old => exact absurd (above key old found) (lt_irrefl key)
      simp [absent, eq_comm]
    · simp [same, Ne.symm same]

end OrderedMaps
