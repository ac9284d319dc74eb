import Mathlib.Data.Set.Function
import Mathlib.Data.List.Induction

/-!
Hash chains. As long as digests tell entries apart and none is the start of the chain, the last
digest determines the whole chain.
-/

namespace HashChain

variable {Entry Digest : Type*} {link digest : Entry → Digest} {start : Digest}
variable {front left right : List Entry} {last : Entry}

def Linked (link digest : Entry → Digest) (start : Digest) : List Entry → Prop
  | [] => True
  | entry :: rest => link entry = start ∧ Linked link digest (digest entry) rest

def tip (digest : Entry → Digest) (start : Digest) (entries : List Entry) : Digest :=
  (entries.getLast?.map digest).getD start

@[simp] theorem tip_nil : tip digest start [] = start := rfl

@[simp] theorem tip_concat : tip digest start (front ++ [last]) = digest last := by
  simp [tip]

theorem tip_cons (first : Entry) (rest : List Entry) :
    tip digest start (first :: rest) = tip digest (digest first) rest := by
  cases rest using List.reverseRecOn with
  | nil => rfl
  | append_singleton rest last => rw [← List.cons_append, tip_concat, tip_concat]

theorem linked_concat : Linked link digest start (front ++ [last]) ↔
    Linked link digest start front ∧ link last = tip digest start front := by
  induction front generalizing start with
  | nil => simp [Linked]
  | cons first rest ih => rw [List.cons_append, Linked, Linked, ih, tip_cons, and_assoc]

/-- The last digest determines the chain. The induction is on the end, where the digests agree. -/
theorem Linked.eq_of_tip_eq {entries : Set Entry} (injective : Set.InjOn digest entries)
    (apart : ∀ entry ∈ entries, digest entry ≠ start)
    (linkedLeft : Linked link digest start left) (linkedRight : Linked link digest start right)
    (insideLeft : ∀ entry ∈ left, entry ∈ entries) (insideRight : ∀ entry ∈ right, entry ∈ entries)
    (same : tip digest start left = tip digest start right) : left = right := by
  induction left using List.reverseRecOn generalizing right with
  | nil =>
      cases right using List.reverseRecOn with
      | nil => rfl
      | append_singleton front last =>
          rw [tip_nil, tip_concat] at same
          exact absurd same.symm (apart last (insideRight last (by simp)))
  | append_singleton leftFront leftLast ih =>
      cases right using List.reverseRecOn with
      | nil =>
          rw [tip_nil, tip_concat] at same
          exact absurd same (apart leftLast (insideLeft leftLast (by simp)))
      | append_singleton front last =>
          rw [tip_concat, tip_concat] at same
          obtain rfl := injective (insideLeft leftLast (by simp)) (insideRight last (by simp)) same
          obtain ⟨linkedLeft, leftLink⟩ := linked_concat.mp linkedLeft
          obtain ⟨linkedRight, rightLink⟩ := linked_concat.mp linkedRight
          have fronts := ih linkedLeft linkedRight
            (fun entry member => insideLeft entry (List.mem_append_left _ member))
            (fun entry member => insideRight entry (List.mem_append_left _ member))
            (leftLink.symm.trans rightLink)
          rw [fronts]

end HashChain
