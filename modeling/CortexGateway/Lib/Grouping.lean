import Mathlib

/-! # Groups and pages of a list

A list is cut into groups by a key, or into pages by position.  What the groups
add up to is what the list adds up to, whatever the key; the pages in a row are
the list again. -/
set_option autoImplicit false
namespace Grouping

universe u v w
variable {α : Type u} {κ : Type v} {μ : Type w} [DecidableEq κ]

/-- Each key that occurs, with the elements that have it. -/
def groups (key : α → κ) (elements : List α) : List (κ × List α) :=
  (elements.map key).dedup.map fun value => (value, elements.filter fun a => key a = value)

section Totals
variable [AddCommMonoid μ] (key : α → κ) (amount : α → μ)

/-- Over keys that include those of the elements, each element is counted once. -/
theorem sum_filters {values : List κ} (distinct : values.Nodup) (elements : List α)
    (known : ∀ a ∈ elements, key a ∈ values) :
    (values.map fun value => ((elements.filter fun a => key a = value).map amount).sum).sum =
      (elements.map amount).sum := by
  induction elements with
  | nil => simp
  | cons a rest ih =>
      have split : ∀ value, (((a :: rest).filter fun a => key a = value).map amount).sum =
          (if value = key a then amount a else 0) +
            ((rest.filter fun a => key a = value).map amount).sum := by
        intro value
        by_cases own : key a = value
        · simp [own]
        · simp [own, Ne.symm own]
      have once : (values.map fun value => if value = key a then amount a else 0).sum =
          amount a := by
        rw [← List.sum_toFinset _ distinct, Finset.sum_ite_eq',
          if_pos (List.mem_toFinset.mpr (known a List.mem_cons_self))]
      simp only [split]
      rw [List.sum_map_add, once, ih fun b member => known b (List.mem_cons_of_mem a member),
        List.map_cons, List.sum_cons]

theorem sum_groups (elements : List α) :
    ((groups key elements).map fun group => (group.2.map amount).sum).sum =
      (elements.map amount).sum := by
  rw [groups, List.map_map]
  exact sum_filters key amount (List.nodup_dedup _) elements fun a member =>
    List.mem_dedup.mpr (List.mem_map_of_mem member)

end Totals

/-! ## Pages -/

/-- The elements of the page, counted from zero. -/
def page (size number : ℕ) (elements : List α) : List α :=
  (elements.drop (number * size)).take size

theorem pages_eq_take (size : ℕ) (elements : List α) (count : ℕ) :
    (List.range count).flatMap (page size · elements) = elements.take (count * size) := by
  induction count with
  | zero => simp
  | succ count ih =>
      rw [List.range_succ, List.flatMap_append, ih, List.flatMap_singleton, page, add_mul, one_mul,
        List.take_add]

/-- Enough pages hold every element once, in order. -/
theorem pages_eq (size : ℕ) (elements : List α) {count : ℕ}
    (enough : elements.length ≤ count * size) :
    (List.range count).flatMap (page size · elements) = elements := by
  rw [pages_eq_take, List.take_of_length_le enough]

end Grouping
