import Mathlib.Data.List.Infix
import Mathlib.Logic.Relation

/-!
Runs of a transition system, and what holds along them.
-/

namespace Runs

open Relation

variable {State : Type*} {step : State → State → Prop} {first last : State}

theorem invariant (holds : State → Prop)
    (kept : ∀ before after, step before after → holds before → holds after)
    (run : ReflTransGen step first last) (initial : holds first) : holds last := by
  induction run with
  | refl => exact initial
  | tail _ next ih => exact kept _ _ next ih

theorem foldl {Local Item : Type*} (view : Local → State) (round : Local → Item → Local)
    (items : List Item)
    (rounds : ∀ current, ∀ item ∈ items,
      ReflTransGen step (view current) (view (round current item))) (start : Local) :
    ReflTransGen step (view start) (view (items.foldl round start)) := by
  induction items generalizing start with
  | nil => exact .refl
  | cons item items ih =>
      have head := rounds start item List.mem_cons_self
      have tail := ih (fun current later member => rounds current later (List.mem_cons_of_mem _ member))
        (round start item)
      exact head.trans tail

theorem holds_along_iff {Event : Type*} (next : State → Event → State) (holds : State → Prop)
    (loses : State → Event → Prop)
    (exact : ∀ state event, holds state → (holds (next state event) ↔ ¬ loses state event))
    {start : State} (initial : holds start) (events : List Event) :
    (∀ early, early <+: events → holds (early.foldl next start)) ↔
      ∀ early event, early ++ [event] <+: events → ¬ loses (early.foldl next start) event := by
  constructor
  · intro along early event within
    have before := along early ((List.prefix_append early [event]).trans within)
    have after := along _ within
    rw [List.foldl_append] at after
    exact (exact _ _ before).mp after
  · intro keeps early
    induction early using List.reverseRecOn with
    | nil => exact fun _ => initial
    | append_singleton early event ih =>
        intro within
        have before := ih ((List.prefix_append early [event]).trans within)
        rw [List.foldl_append]
        exact (exact _ _ before).mpr (keeps early event within)

section Moments

variable {Item : Type*} {event : List Item → Item → Prop} {items : List Item} {item : Item}

def Occurs (event : List Item → Item → Prop) (items : List Item) : Prop :=
  ∃ front item back, items = front ++ item :: back ∧ event front item

theorem not_occurs_nil : ¬Occurs event [] := by
  rintro ⟨front, item, back, empty, _⟩
  simp at empty

theorem occurs_concat : Occurs event (items ++ [item]) ↔ Occurs event items ∨ event items item := by
  constructor
  · rintro ⟨front, found, back, whole, holds⟩
    cases back using List.reverseRecOn with
    | nil =>
        obtain ⟨rfl, same⟩ := List.append_inj' whole rfl
        obtain rfl := List.singleton_injective same
        exact .inr holds
    | append_singleton back last =>
        rw [← List.cons_append, ← List.append_assoc] at whole
        exact .inl ⟨front, found, back, (List.append_inj' whole rfl).1, holds⟩
  · rintro (⟨front, found, back, rfl, holds⟩ | holds)
    · exact ⟨front, found, back ++ [item], by simp, holds⟩
    · exact ⟨items, item, [], rfl, holds⟩

end Moments

end Runs
