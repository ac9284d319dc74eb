import Mathlib.Data.List.Basic
import Mathlib.Data.List.Forall2

/-!
Computations that stop with an error: `ok_or`, early returns and loops with `?`,
with the inversion lemmas that take a successful run apart.
-/

namespace Fallible

variable {E A B S : Type}

/-- `option.ok_or(error)`. -/
def okOr (value : Option A) (error : E) : Except E A :=
  match value with
  | some value => .ok value
  | none => .error error

/-- `if !condition { return Err(error) }`. -/
def require (condition : Bool) (error : E) : Except E Unit :=
  if condition then .ok () else .error error

@[simp] theorem okOr_eq_ok {value : Option A} {error : E} {result : A} :
    okOr value error = .ok result ↔ value = some result := by
  cases value <;> simp [okOr]

@[simp] theorem require_eq_ok {condition : Bool} {error : E} {result : Unit} :
    require condition error = .ok result ↔ condition = true := by
  cases condition <;> simp [require]

@[simp] theorem bind_eq_ok {computation : Except E A} {next : A → Except E B} {result : B} :
    (computation >>= next) = .ok result ↔
      ∃ value, computation = .ok value ∧ next value = .ok result := by
  cases computation with
  | error error => simp [bind, Except.bind]
  | ok value => simp [bind, Except.bind]

@[simp] theorem pure_eq_ok {value result : A} :
    (pure value : Except E A) = .ok result ↔ value = result := by
  simp [pure, Except.pure]

@[simp] theorem mapError_eq_ok {F : Type} {computation : Except E A} {translate : E → F}
    {result : A} : computation.mapError translate = .ok result ↔ computation = .ok result := by
  cases computation <;> simp [Except.mapError]

@[simp] theorem toOption_eq_some {computation : Except E A} {result : A} :
    computation.toOption = some result ↔ computation = .ok result := by
  cases computation <;> simp [Except.toOption]

theorem exists_ok_of_toOption {computation : Except E A} {observe : A → B} {observed : B}
    (evaluated : computation.toOption.map observe = some observed) :
    ∃ value, computation = .ok value ∧ observe value = observed := by
  cases computation with
  | error error => simp [Except.toOption] at evaluated
  | ok value => exact ⟨value, rfl, by simpa [Except.toOption] using evaluated⟩

/-- A loop with `?` in its body keeps whatever every successful iteration keeps. -/
theorem foldlM_invariant {step : S → A → Except E S} (holds : S → Prop) :
    ∀ (items : List A) (state result : S), holds state →
      (∀ state item next, item ∈ items → holds state → step state item = .ok next → holds next) →
      items.foldlM step state = .ok result → holds result := by
  intro items
  induction items with
  | nil =>
      intro state result initial _ finished
      simp only [List.foldlM_nil, pure_eq_ok] at finished
      exact finished ▸ initial
  | cons item items ih =>
      intro state result initial kept finished
      simp only [List.foldlM_cons, bind_eq_ok] at finished
      obtain ⟨next, stepped, finished⟩ := finished
      have first := kept state item next List.mem_cons_self initial stepped
      exact ih next result first
        (fun state later next member => kept state later next (List.mem_cons_of_mem _ member)) finished

theorem foldlM_step_ok {step : S → A → Except E S} {items : List A} {start last : S}
    (ran : items.foldlM step start = .ok last) :
    ∀ item ∈ items, ∃ before after, step before item = .ok after := by
  induction items generalizing start with
  | nil => simp
  | cons first items ih =>
      simp only [List.foldlM_cons, bind_eq_ok] at ran
      obtain ⟨next, stepped, rest⟩ := ran
      intro item member
      rcases List.mem_cons.mp member with rfl | later
      · exact ⟨start, next, stepped⟩
      · exact ih rest item later

theorem foldlM_congr {left right : S → A → Except E S} {items : List A}
    (same : ∀ item ∈ items, ∀ state, left state item = right state item) (start : S) :
    items.foldlM left start = items.foldlM right start := by
  induction items generalizing start with
  | nil => rfl
  | cons item items ih =>
      rw [List.foldlM_cons, List.foldlM_cons, same item List.mem_cons_self]
      congr 1
      funext next
      exact ih (fun later member => same later (List.mem_cons_of_mem _ member)) next

theorem forM_eq_ok {check : A → Except E Unit} (items : List A) {result : Unit} :
    items.forM check = .ok result ↔ ∀ item ∈ items, check item = .ok () := by
  induction items with
  | nil => simp
  | cons item items ih =>
      have unfolded : (item :: items).forM check = (check item >>= fun _ => items.forM check) := rfl
      rw [unfolded, bind_eq_ok, List.forall_mem_cons]
      constructor
      · rintro ⟨_, first, rest⟩
        exact ⟨first, ih.mp rest⟩
      · rintro ⟨first, rest⟩
        exact ⟨(), first, ih.mpr rest⟩

theorem foldlM_require_isOk (passes : A → Bool) (error : A → E) (change : S → A → S)
    (items : List A) (state : S) :
    (∃ result, items.foldlM (fun state item => do
        require (passes item) (error item)
        return change state item) state = .ok result) ↔
      ∀ item ∈ items, passes item = true := by
  induction items generalizing state with
  | nil => simp
  | cons item items ih =>
      simp only [List.foldlM_cons, bind_eq_ok, require_eq_ok, pure_eq_ok, List.forall_mem_cons,
        exists_const]
      rw [← ih (change state item)]
      constructor
      · rintro ⟨result, next, ⟨passed, rfl⟩, rest⟩
        exact ⟨passed, result, rest⟩
      · rintro ⟨passed, result, rest⟩
        exact ⟨result, _, ⟨passed, rfl⟩, rest⟩

theorem mapM_map_eq_ok {C : Type} {encode : A → B} {decode : B → Except E C} {accepted : A → Prop}
    {restored : A → C}
    (reads : ∀ value result, decode (encode value) = .ok result ↔
      accepted value ∧ result = restored value)
    (values : List A) (results : List C) :
    (values.map encode).mapM decode = .ok results ↔
      (∀ value ∈ values, accepted value) ∧ results = values.map restored := by
  induction values generalizing results with
  | nil =>
      simp only [List.map_nil, List.mapM_nil, pure_eq_ok]
      simp [eq_comm]
  | cons value values ih =>
      simp only [List.map_cons, List.mapM_cons, bind_eq_ok, pure_eq_ok, reads, ih,
        List.forall_mem_cons]
      constructor
      · rintro ⟨_, ⟨accepted, rfl⟩, _, ⟨rest, rfl⟩, rfl⟩
        exact ⟨⟨accepted, rest⟩, rfl⟩
      · rintro ⟨⟨accepted, rest⟩, rfl⟩
        exact ⟨_, ⟨accepted, rfl⟩, _, ⟨rest, rfl⟩, rfl⟩

theorem mapM_map_of_reads {C : Type} {encode : A → B} {decode : B → Except E C} {restored : A → C}
    (reads : ∀ value, decode (encode value) = .ok (restored value)) (values : List A) :
    (values.map encode).mapM decode = .ok (values.map restored) := by
  have accepts : ∀ value result, decode (encode value) = .ok result ↔
      True ∧ result = restored value := by
    intro value result
    rw [reads, Except.ok.injEq, true_and, eq_comm]
  exact (mapM_map_eq_ok accepts values _).mpr ⟨fun _ _ => trivial, rfl⟩

theorem mapM_eq_ok {decode : A → Except E B} {items : List A} {results : List B} :
    items.mapM decode = .ok results ↔
      List.Forall₂ (fun item result => decode item = .ok result) items results := by
  induction items generalizing results with
  | nil => rw [List.mapM_nil, pure_eq_ok, List.forall₂_nil_left_iff, eq_comm]
  | cons item items ih =>
      simp only [List.mapM_cons, bind_eq_ok, pure_eq_ok, ih]
      constructor
      · rintro ⟨first, read, rest, reads, rfl⟩
        exact .cons read reads
      · rintro (_ | ⟨read, reads⟩)
        exact ⟨_, read, _, reads, rfl⟩

theorem mapM_zipIdx_eq_ok {decode : A × Nat → Except E B} {reads : A → B → Prop}
    (same : ∀ item index result, decode (item, index) = .ok result ↔ reads item result)
    {items : List A} {start : Nat} {results : List B} :
    (items.zipIdx start).mapM decode = .ok results ↔ List.Forall₂ reads items results := by
  rw [mapM_eq_ok]
  induction items generalizing start results with
  | nil => simp
  | cons item items ih =>
      rw [List.zipIdx_cons]
      constructor
      · rintro (_ | ⟨read, rest⟩)
        exact .cons ((same _ _ _).mp read) (ih.mp rest)
      · rintro (_ | ⟨read, rest⟩)
        exact .cons ((same _ _ _).mpr read) (ih.mpr rest)

theorem exists_of_forall₂ {related : A → B → Prop} {xs : List A} {ys : List B}
    (pairs : List.Forall₂ related xs ys) {x : A} (member : x ∈ xs) : ∃ y ∈ ys, related x y := by
  induction pairs with
  | nil => cases member
  | cons pair _ ih =>
      rcases List.mem_cons.mp member with rfl | inRest
      · exact ⟨_, List.mem_cons_self, pair⟩
      · obtain ⟨y, inYs, found⟩ := ih inRest
        exact ⟨y, List.mem_cons_of_mem _ inYs, found⟩

end Fallible
