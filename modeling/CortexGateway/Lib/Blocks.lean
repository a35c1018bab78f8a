import Mathlib

/-! # Lists in blocks

A list is grouped when the occurrences of every element stand in one block. -/
set_option autoImplicit false
namespace Blocks

variable {α : Type*}

/-- Every element continues the block behind it or does not occur behind it. -/
def Grouped : List α → Prop
  | [] => True
  | a :: rest => (rest.head? = some a ∨ a ∉ rest) ∧ Grouped rest

theorem Grouped.block {l : List α} (grouped : Grouped l) (a : α) :
    ∃ before n after, l = before ++ List.replicate n a ++ after ∧ a ∉ before ∧ a ∉ after := by
  induction l with
  | nil => exact ⟨[], 0, [], rfl, by simp, by simp⟩
  | cons b rest ih =>
      obtain ⟨joins, grouped⟩ := grouped
      obtain ⟨before, n, after, split, absent, gone⟩ := ih grouped
      by_cases same : a = b
      · subst same
        rcases joins with continues | fresh
        · cases before with
          | nil =>
              refine ⟨[], n + 1, after, ?_, by simp, gone⟩
              rw [split]
              rfl
          | cons first others =>
              rw [split] at continues
              have first_eq : first = a := by simpa using continues
              exact absurd (first_eq ▸ List.mem_cons_self) absent
        · exact ⟨[], 1, rest, rfl, by simp, fresh⟩
      · refine ⟨b :: before, n, after, ?_, ?_, gone⟩
        · rw [split]
          rfl
        · simp [same, absent]

/-- Where no element occurs too often, the number of different elements bounds
the length. -/
theorem length_le_card_mul [DecidableEq α] (l : List α) (most : ℕ)
    (few : ∀ a, l.count a ≤ most) : l.length ≤ l.toFinset.card * most := by
  calc l.length = ∑ a ∈ l.toFinset, l.count a := (List.sum_toFinset_count_eq_length l).symm
    _ ≤ l.toFinset.card • most := Finset.sum_le_card_nsmul _ _ _ fun a _ => few a
    _ = l.toFinset.card * most := smul_eq_mul ..

end Blocks
