import Mathlib.Data.List.Nodup

/-!
Codes that can be read off the front of a stream; records, options and counted lists of such
codes are read part by part.
-/

namespace PrefixCode

variable {S A B : Type}

/-- What is written for a valid value determines that value and the rest of the stream. -/
def Reads (encode : A → List S) (valid : A → Prop) : Prop :=
  ∀ left right, valid left → valid right → ∀ restLeft restRight,
    encode left ++ restLeft = encode right ++ restRight → left = right ∧ restLeft = restRight

namespace Reads

variable {encode : A → List S} {valid : A → Prop}

theorem injective (reads : Reads encode valid) {left right : A} (validLeft : valid left)
    (validRight : valid right) (same : encode left = encode right) : left = right :=
  (reads left right validLeft validRight [] [] (by rw [same])).1

theorem single {symbol : A → S}
    (injective : ∀ left right, valid left → valid right → symbol left = symbol right → left = right) :
    Reads (fun value => [symbol value]) valid := by
  intro left right validLeft validRight restLeft restRight same
  obtain ⟨head, rest⟩ := List.cons.inj same
  exact ⟨injective left right validLeft validRight head, rest⟩

theorem fixed {width : Nat} (length : ∀ value, valid value → (encode value).length = width)
    (injective : ∀ left right, valid left → valid right → encode left = encode right → left = right) :
    Reads encode valid := by
  intro left right validLeft validRight restLeft restRight same
  have lengths : (encode left).length = (encode right).length := by
    rw [length left validLeft, length right validRight]
  obtain ⟨word, rest⟩ := List.append_inj same lengths
  exact ⟨injective left right validLeft validRight word, rest⟩

theorem framed {width : Nat} {size : Nat → List S} {bound : Nat}
    (sizeLength : ∀ number, (size number).length = width)
    (sizeInjective : ∀ left right, left < bound → right < bound → size left = size right →
      left = right) :
    Reads (fun content : List S => size content.length ++ content)
      (fun content => content.length < bound) := by
  intro left right validLeft validRight restLeft restRight same
  rw [List.append_assoc, List.append_assoc] at same
  obtain ⟨sizes, contents⟩ := List.append_inj same (by rw [sizeLength, sizeLength])
  exact List.append_inj contents (sizeInjective _ _ validLeft validRight sizes)

theorem option {absent present : S} (different : absent ≠ present) (reads : Reads encode valid) :
    Reads (fun value : Option A => value.elim [absent] fun content => present :: encode content)
      (fun value => ∀ content, value = some content → valid content) := by
  intro left right validLeft validRight restLeft restRight same
  cases left with
  | none =>
      cases right with
      | none => exact ⟨rfl, (List.cons.inj same).2⟩
      | some right => exact absurd (List.cons.inj same).1 different
  | some left =>
      cases right with
      | none => exact absurd (List.cons.inj same).1 different.symm
      | some right =>
          obtain ⟨content, rest⟩ := reads left right (validLeft left rfl) (validRight right rfl)
            restLeft restRight (List.cons.inj same).2
          exact ⟨congrArg some content, rest⟩

theorem repeated (reads : Reads encode valid) {left right : List A}
    (validLeft : ∀ value ∈ left, valid value) (validRight : ∀ value ∈ right, valid value)
    (lengths : left.length = right.length) {restLeft restRight : List S}
    (same : left.flatMap encode ++ restLeft = right.flatMap encode ++ restRight) :
    left = right ∧ restLeft = restRight := by
  induction left generalizing right with
  | nil =>
      obtain rfl := List.length_eq_zero_iff.mp lengths.symm
      exact ⟨rfl, same⟩
  | cons first left ih =>
      obtain ⟨other, right, rfl⟩ := List.exists_cons_of_length_eq_add_one lengths.symm
      simp only [List.flatMap_cons, List.append_assoc] at same
      obtain ⟨rfl, tails⟩ := reads first other (validLeft _ (by simp)) (validRight _ (by simp)) _ _ same
      obtain ⟨rfl, rest⟩ := ih (fun value member => validLeft value (by simp [member]))
        (fun value member => validRight value (by simp [member])) (by simpa using lengths) tails
      exact ⟨rfl, rest⟩

theorem counted {size : Nat → S} {bound : Nat}
    (sizeInjective : ∀ left right, left < bound → right < bound → size left = size right →
      left = right) (reads : Reads encode valid) :
    Reads (fun values : List A => size values.length :: values.flatMap encode)
      (fun values => values.length < bound ∧ ∀ value ∈ values, valid value) := by
  intro left right validLeft validRight restLeft restRight same
  obtain ⟨sizes, contents⟩ := List.cons.inj same
  exact reads.repeated validLeft.2 validRight.2
    (sizeInjective _ _ validLeft.1 validRight.1 sizes) contents

theorem stream (reads : Reads encode valid) (written : ∀ value, encode value ≠ [])
    {left right : List A} (validLeft : ∀ value ∈ left, valid value)
    (validRight : ∀ value ∈ right, valid value)
    (same : left.flatMap encode = right.flatMap encode) : left = right := by
  induction left generalizing right with
  | nil =>
      cases right with
      | nil => rfl
      | cons other right => simp [written] at same
  | cons first left ih =>
      cases right with
      | nil => simp [written] at same
      | cons other right =>
          simp only [List.flatMap_cons] at same
          obtain ⟨rfl, tails⟩ :=
            reads first other (validLeft _ (by simp)) (validRight _ (by simp)) _ _ same
          rw [ih (fun value member => validLeft value (by simp [member]))
            (fun value member => validRight value (by simp [member])) tails]

end Reads

section Labels

def labelled (content : S × List (List S)) : List (List S) :=
  content.2.map (content.1 :: ·)

theorem head_of_mem_labelled {sections : List (S × List (List S))} {word : List S}
    (member : word ∈ sections.flatMap labelled) :
    ∃ label ∈ sections.map Prod.fst, word.head? = some label := by
  obtain ⟨content, present, inside⟩ := List.mem_flatMap.mp member
  obtain ⟨body, _, rfl⟩ := List.mem_map.mp inside
  exact ⟨content.1, List.mem_map_of_mem present, rfl⟩

theorem labelled_injective {left right : List (S × List (List S))}
    (labels : left.map Prod.fst = right.map Prod.fst) (distinct : (left.map Prod.fst).Nodup)
    (same : left.flatMap labelled = right.flatMap labelled) : left = right := by
  classical
  induction left generalizing right with
  | nil => exact (List.map_eq_nil_iff.mp labels.symm).symm
  | cons first left ih =>
      cases right with
      | nil => simp at labels
      | cons other right =>
          obtain ⟨label, bodies⟩ := first
          obtain ⟨label', bodies'⟩ := other
          simp only [List.map_cons, List.cons.injEq] at labels
          obtain ⟨rfl, labels⟩ := labels
          simp only [List.map_cons, List.nodup_cons] at distinct
          have kept : ∀ bodies : List (List S),
              (labelled (label, bodies)).filter (fun word => word.head? = some label) =
                labelled (label, bodies) := by
            intro bodies
            refine List.filter_eq_self.mpr fun word member => ?_
            obtain ⟨body, _, rfl⟩ := List.mem_map.mp member
            simp
          have dropped : ∀ sections : List (S × List (List S)),
              sections.map Prod.fst = left.map Prod.fst →
              (sections.flatMap labelled).filter (fun word => word.head? = some label) = [] := by
            intro sections sameLabels
            refine List.filter_eq_nil_iff.mpr fun word member headed => ?_
            obtain ⟨other, present, head⟩ := head_of_mem_labelled member
            rw [sameLabels] at present
            simp only [head, Option.some.injEq, decide_eq_true_eq] at headed
            exact distinct.1 (headed ▸ present)
          simp only [List.flatMap_cons] at same
          have words : labelled (label, bodies) = labelled (label, bodies') := by
            have filtered := congrArg (List.filter fun word => word.head? = some label) same
            simpa only [List.filter_append, kept, dropped left rfl, dropped right labels.symm,
              List.append_nil] using filtered
          have bodiesEq : bodies = bodies' :=
            List.map_injective_iff.mpr (List.cons_injective) words
          rw [words] at same
          rw [bodiesEq, ih labels distinct.2 (List.append_cancel_left same)]

theorem labelled_nodup {sections : List (S × List (List S))}
    (distinct : (sections.map Prod.fst).Nodup)
    (bodies : ∀ content ∈ sections, content.2.Nodup) : (sections.flatMap labelled).Nodup := by
  refine List.nodup_flatMap.mpr ⟨fun content member =>
    (bodies content member).map List.cons_injective, ?_⟩
  refine (List.pairwise_map.mp distinct).imp fun different => ?_
  intro word left right
  obtain ⟨_, _, rfl⟩ := List.mem_map.mp left
  obtain ⟨_, _, same⟩ := List.mem_map.mp right
  exact different (List.cons.inj same).1.symm

end Labels

end PrefixCode
