import Mathlib.Data.List.Nodup
import Mathlib.Tactic.Common

/-!
The binary Merkle fold that pairs an odd trailing node with itself: two lists of distinct leaves
with one root are equal when nothing collides.
-/

namespace MerkleFold

section Lists

variable {A B : Type}

theorem map_injOn {f : A → B} {left right : List A}
    (injective : ∀ a ∈ left ++ right, ∀ b ∈ left ++ right, f a = f b → a = b)
    (same : left.map f = right.map f) : left = right := by
  induction left generalizing right with
  | nil => exact (List.map_eq_nil_iff.mp same.symm).symm
  | cons first left ih =>
      cases right with
      | nil => simp at same
      | cons other right =>
          simp only [List.map_cons, List.cons.injEq] at same
          obtain rfl := injective first (by simp) other (by simp) same.1
          rw [ih (fun a memberA b memberB => injective a (by simp at memberA ⊢; tauto)
            b (by simp at memberB ⊢; tauto)) same.2]

end Lists

variable {D : Type}

def pairs : List D → List (D × D)
  | [] => []
  | [last] => [(last, last)]
  | left :: right :: rest => (left, right) :: pairs rest

def layer (node : D × D → D) (nodes : List D) : List D := (pairs nodes).map node

theorem pairs_length (nodes : List D) : (pairs nodes).length = (nodes.length + 1) / 2 := by
  induction nodes using pairs.induct with
  | case1 => simp [pairs]
  | case2 last => simp [pairs]
  | case3 left right rest ih => simp only [pairs, List.length_cons, ih]; omega

@[simp] theorem layer_length (node : D × D → D) (nodes : List D) :
    (layer node nodes).length = (nodes.length + 1) / 2 := by
  rw [layer, List.length_map, pairs_length]

theorem pairs_firsts_sublist (nodes : List D) : ((pairs nodes).map Prod.fst).Sublist nodes := by
  induction nodes using pairs.induct with
  | case1 => exact List.Sublist.slnil
  | case2 last => exact List.Sublist.refl _
  | case3 left right rest ih => exact (ih.cons right).cons_cons left

theorem pairs_nodup {nodes : List D} (distinct : nodes.Nodup) : (pairs nodes).Nodup :=
  (distinct.sublist (pairs_firsts_sublist nodes)).of_map _

theorem pairs_injective {left right : List D} (distinctLeft : left.Nodup)
    (distinctRight : right.Nodup) (same : pairs left = pairs right) : left = right := by
  induction left using pairs.induct generalizing right with
  | case1 =>
      match right, same with
      | [], _ => rfl
      | [_], same | _ :: _ :: _, same => simp [pairs] at same
  | case2 last =>
      match right, same with
      | [other], same => simpa [pairs] using same
      | [], same => simp [pairs] at same
      | first :: second :: rest, same =>
          simp only [pairs, List.cons.injEq, Prod.mk.injEq] at same
          simp [← same.1.1, ← same.1.2] at distinctRight
  | case3 first second rest ih =>
      match right, same with
      | [], same => simp [pairs] at same
      | [other], same =>
          simp only [pairs, List.cons.injEq, Prod.mk.injEq] at same
          simp [same.1.1, same.1.2] at distinctLeft
      | first' :: second' :: rest', same =>
          simp only [pairs, List.cons.injEq, Prod.mk.injEq] at same
          obtain ⟨⟨rfl, rfl⟩, tails⟩ := same
          simp only [List.nodup_cons] at distinctLeft distinctRight
          rw [ih distinctLeft.2.2 distinctRight.2.2 tails]

variable (node : D × D → D)

inductive Above : List D → List D → Prop
  | here (nodes) : Above nodes nodes
  | next {nodes top} : 1 < nodes.length → Above (layer node nodes) top → Above nodes top

def loop : Nat → List D → List D
  | 0, nodes => nodes
  | fuel + 1, nodes => if nodes.length ≤ 1 then nodes else loop fuel (layer node nodes)

def loopPairs : Nat → List D → List (D × D)
  | 0, _ => []
  | fuel + 1, nodes =>
      if nodes.length ≤ 1 then [] else pairs nodes ++ loopPairs fuel (layer node nodes)

variable {node}

theorem loop_above (fuel : Nat) (nodes : List D) : Above node nodes (loop node fuel nodes) := by
  induction fuel generalizing nodes with
  | zero => exact .here nodes
  | succ fuel ih =>
      simp only [loop]
      split
      · exact .here nodes
      · exact .next (by omega) (ih _)

theorem Above.mem_loopPairs {nodes top : List D} (above : Above node nodes top)
    (wide : 1 < top.length) {pair : D × D} (member : pair ∈ pairs top) (fuel : Nat)
    (enough : nodes.length ≤ fuel) : pair ∈ loopPairs node fuel nodes := by
  induction above generalizing fuel with
  | here nodes =>
      obtain ⟨fuel, rfl⟩ : ∃ rest, fuel = rest + 1 := ⟨fuel - 1, by omega⟩
      simp only [loopPairs, if_neg (show ¬nodes.length ≤ 1 by omega)]
      exact List.mem_append_left _ member
  | next long above ih =>
      obtain ⟨fuel, rfl⟩ : ∃ rest, fuel = rest + 1 := ⟨fuel - 1, by omega⟩
      simp only [loopPairs, if_neg (Nat.not_le.mpr long)]
      exact List.mem_append_right _ (ih wide member fuel (by rw [layer_length]; omega))

theorem Above.predecessor {nodes top : List D} (above : Above node (layer node nodes) top)
    (long : 1 < nodes.length) :
    ∃ under, Above node nodes under ∧ 1 < under.length ∧ top = layer node under := by
  generalize start : layer node nodes = current at above
  induction above generalizing nodes with
  | here current => exact ⟨nodes, .here nodes, long, start.symm⟩
  | next wide above ih =>
      subst start
      obtain ⟨under, reached, wide', rfl⟩ := ih wide rfl
      exact ⟨under, .next long reached, wide', rfl⟩

def CollisionFree (node : D × D → D) (hashed : List (D × D)) : Prop :=
  ∀ left ∈ hashed, ∀ right ∈ hashed, node left = node right → left = right

theorem layer_injective {left right : List D} (distinctLeft : left.Nodup)
    (distinctRight : right.Nodup) (free : CollisionFree node (pairs left ++ pairs right))
    (same : layer node left = layer node right) : left = right :=
  pairs_injective distinctLeft distinctRight (map_injOn free same)

theorem layer_nodup {nodes : List D} (distinct : nodes.Nodup)
    (free : CollisionFree node (pairs nodes ++ pairs nodes)) : (layer node nodes).Nodup :=
  (pairs_nodup distinct).map_on fun left memberLeft right memberRight =>
    free left (List.mem_append_left _ memberLeft) right (List.mem_append_left _ memberRight)

section Binding

def Hashed (node : D × D → D) (left right layer : List D) : Prop :=
  1 < layer.length ∧ (Above node left layer ∨ Above node right layer)

theorem Above.nodup {nodes top : List D} (above : Above node nodes top) (distinct : nodes.Nodup)
    (free : ∀ middle, Above node nodes middle → 1 < middle.length →
      CollisionFree node (pairs middle ++ pairs middle)) : top.Nodup := by
  induction above with
  | here nodes => exact distinct
  | next long above ih =>
      exact ih (layer_nodup distinct (free _ (.here _) long))
        fun middle reached => free middle (.next long reached)

variable {left right top : List D}

theorem Above.comparable (aboveLeft : Above node left top) (aboveRight : Above node right top)
    (distinctLeft : left.Nodup) (distinctRight : right.Nodup)
    (free : ∀ first second, Hashed node left right first → Hashed node left right second →
      CollisionFree node (pairs first ++ pairs second)) :
    Above node left right ∨ Above node right left := by
  induction aboveLeft generalizing right with
  | here left => exact .inr aboveRight
  | @next left top longLeft aboveLeft ih =>
      cases aboveRight with
      | here => exact .inl (.next longLeft aboveLeft)
      | next longRight aboveRight =>
          have hashedLeft : Hashed node left right left := ⟨longLeft, .inl (.here left)⟩
          have hashedRight : Hashed node left right right := ⟨longRight, .inr (.here right)⟩
          have higher : ∀ layer', Hashed node (layer node left) (layer node right) layer' →
              Hashed node left right layer' := fun layer' hashed =>
            ⟨hashed.1, hashed.2.imp (.next longLeft) (.next longRight)⟩
          rcases ih aboveRight (layer_nodup distinctLeft (free _ _ hashedLeft hashedLeft))
              (layer_nodup distinctRight (free _ _ hashedRight hashedRight))
              (fun first second hashedFirst hashedSecond =>
                free first second (higher first hashedFirst) (higher second hashedSecond))
            with reached | reached
          · obtain ⟨under, belowRight, wide, same⟩ := reached.predecessor longLeft
            have hashedUnder : Hashed node left right under := ⟨wide, .inl belowRight⟩
            have distinctUnder := belowRight.nodup distinctLeft fun middle reached wide =>
              free _ _ ⟨wide, .inl reached⟩ ⟨wide, .inl reached⟩
            rw [layer_injective distinctRight distinctUnder (free _ _ hashedRight hashedUnder) same]
            exact .inl belowRight
          · obtain ⟨under, belowLeft, wide, same⟩ := reached.predecessor longRight
            have hashedUnder : Hashed node left right under := ⟨wide, .inr belowLeft⟩
            have distinctUnder := belowLeft.nodup distinctRight fun middle reached wide =>
              free _ _ ⟨wide, .inr reached⟩ ⟨wide, .inr reached⟩
            rw [layer_injective distinctLeft distinctUnder (free _ _ hashedLeft hashedUnder) same]
            exact .inr belowLeft

theorem Above.eq_of_separate (above : Above node left right)
    (separate : ∀ layer', Above node left layer' → 1 < layer'.length → ∀ pair ∈ pairs layer',
      node pair ∉ right) : left = right := by
  cases above with
  | here => rfl
  | next long above =>
      obtain ⟨under, reached, wide, rfl⟩ := above.predecessor long
      have positive : 0 < (pairs under).length := by rw [pairs_length]; omega
      obtain ⟨pair, member⟩ := List.exists_mem_of_length_pos positive
      exact absurd (List.mem_map_of_mem member) (separate under reached wide pair member)

theorem loop_injective (node : D × D → D) {left right : List D} (distinctLeft : left.Nodup) (distinctRight : right.Nodup)
    (free : CollisionFree node (loopPairs node left.length left ++
      loopPairs node right.length right))
    (separate : ∀ pair ∈ loopPairs node left.length left ++ loopPairs node right.length right,
      node pair ∉ left ++ right)
    (same : loop node left.length left = loop node right.length right) : left = right := by
  have hashedPair : ∀ layer', Hashed node left right layer' → ∀ pair ∈ pairs layer',
      pair ∈ loopPairs node left.length left ++ loopPairs node right.length right := by
    rintro layer' ⟨wide, reached | reached⟩ pair member
    · exact List.mem_append_left _ (reached.mem_loopPairs wide member _ (Nat.le_refl _))
    · exact List.mem_append_right _ (reached.mem_loopPairs wide member _ (Nat.le_refl _))
  have compared : Above node left right ∨ Above node right left := by
    refine (loop_above left.length left).comparable (same ▸ loop_above right.length right)
      distinctLeft distinctRight fun first second hashedFirst hashedSecond => ?_
    intro pair memberPair other memberOther
    have included : ∀ pair ∈ pairs first ++ pairs second,
        pair ∈ loopPairs node left.length left ++ loopPairs node right.length right := by
      intro pair member
      rcases List.mem_append.mp member with member | member
      · exact hashedPair first hashedFirst pair member
      · exact hashedPair second hashedSecond pair member
    exact free pair (included pair memberPair) other (included other memberOther)
  rcases compared with above | above
  · refine above.eq_of_separate fun layer' reached wide pair member found => ?_
    exact separate pair (hashedPair layer' ⟨wide, .inl reached⟩ pair member)
      (List.mem_append_right _ found)
  · refine (above.eq_of_separate fun layer' reached wide pair member found => ?_).symm
    exact separate pair (hashedPair layer' ⟨wide, .inr reached⟩ pair member)
      (List.mem_append_left _ found)

end Binding

end MerkleFold
