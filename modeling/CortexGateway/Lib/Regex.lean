import Mathlib

/-! # Regular expressions with lookarounds

A position in a text is what lies before it, nearest first, and what lies after
it.  An expression relates the positions it can be matched between (`Matches`);
`ends` computes them by backtracking and `search` tries every start.  A match
stays one when text is added on either side, if the lookarounds overlook the
characters that come to stand next to it (`search_context`). -/
set_option autoImplicit false

universe u

/-- Classes of characters are tests; `notBehind` and `notAhead` look at one
character, `boundary` at one on each side. -/
inductive Regex (α : Type u)
  | empty
  | char (accepts : α → Bool)
  | seq (first second : Regex α)
  | alt (first second : Regex α)
  | star (body : Regex α)
  | notBehind (rejects : α → Bool)
  | notAhead (rejects : α → Bool)
  | boundary (isWord : α → Bool)

namespace Regex
variable {α : Type u}

/-- What was read, nearest first, and what is still to be read. -/
abbrev Position (α : Type u) := List α × List α

/-! ## Derived forms -/

def sequence : List (Regex α) → Regex α
  | [] => .empty
  | r :: rest => .seq r (sequence rest)

def opt (r : Regex α) : Regex α := .alt r .empty

def plus (r : Regex α) : Regex α := .seq r (.star r)

/-- `r{count}` -/
def times (count : ℕ) (r : Regex α) : Regex α := sequence (List.replicate count r)

/-- `r{0,count}` -/
def upTo : ℕ → Regex α → Regex α
  | 0, _ => .empty
  | count + 1, r => opt (.seq r (upTo count r))

/-! ## What is matched -/

/-- A match of the expression leads from the one position to the other. -/
def Matches : Regex α → Position α → Position α → Prop
  | .empty, s, t => s = t
  | .char accepts, s, t => ∃ c, accepts c = true ∧ s.2 = c :: t.2 ∧ t.1 = c :: s.1
  | .seq first second, s, u => ∃ t, Matches first s t ∧ Matches second t u
  | .alt first second, s, t => Matches first s t ∨ Matches second s t
  | .star body, s, t => Relation.ReflTransGen (Matches body) s t
  | .notBehind rejects, s, t => s = t ∧ s.1.head?.any rejects = false
  | .notAhead rejects, s, t => s = t ∧ s.2.head?.any rejects = false
  | .boundary isWord, s, t => s = t ∧ s.1.head?.any isWord ≠ s.2.head?.any isWord

/-- Every turn of a loop reads something. -/
def repeatFrom (step : Position α → List (Position α)) : ℕ → Position α → List (Position α)
  | 0, s => [s]
  | fuel + 1, s => s :: (step s).flatMap fun t =>
      if t.2.length < s.2.length then repeatFrom step fuel t else []

/-- The positions at which a match from a position can end. -/
def ends : Regex α → Position α → List (Position α)
  | .empty, s => [s]
  | .char accepts, s =>
      match s.2 with
      | [] => []
      | c :: rest => if accepts c then [(c :: s.1, rest)] else []
  | .seq first second, s => (ends first s).flatMap (ends second)
  | .alt first second, s => ends first s ++ ends second s
  | .star body, s => repeatFrom (ends body) s.2.length s
  | .notBehind rejects, s => if s.1.head?.any rejects then [] else [s]
  | .notAhead rejects, s => if s.2.head?.any rejects then [] else [s]
  | .boundary isWord, s => if s.1.head?.any isWord = s.2.head?.any isWord then [] else [s]

/-- The positions of a text from a given one on. -/
def positions (before : List α) : List α → List (Position α)
  | [] => [(before, [])]
  | c :: rest => (before, c :: rest) :: positions (c :: before) rest

/-- `re.search` finds something. -/
def search (r : Regex α) (text : List α) : Bool :=
  (positions [] text).any fun s => !(ends r s).isEmpty

/-! ## The matcher computes the matches -/

theorem Matches.reads {r : Regex α} {s t : Position α} (found : Matches r s t) :
    ∃ part, s.2 = part ++ t.2 ∧ t.1 = part.reverse ++ s.1 := by
  induction r generalizing s t with
  | empty =>
      cases found
      exact ⟨[], rfl, rfl⟩
  | char accepts =>
      obtain ⟨c, -, ahead, behind⟩ := found
      exact ⟨[c], ahead, behind⟩
  | seq first second ihFirst ihSecond =>
      obtain ⟨m, found, foundNext⟩ := found
      obtain ⟨part, ahead, behind⟩ := ihFirst found
      obtain ⟨next, aheadNext, behindNext⟩ := ihSecond foundNext
      exact ⟨part ++ next, by rw [ahead, aheadNext, List.append_assoc],
        by rw [behindNext, behind, List.reverse_append, List.append_assoc]⟩
  | alt first second ihFirst ihSecond =>
      rcases found with found | found
      · exact ihFirst found
      · exact ihSecond found
  | star body ih =>
      induction found with
      | refl => exact ⟨[], rfl, rfl⟩
      | tail _ last ihInit =>
          obtain ⟨part, ahead, behind⟩ := ihInit
          obtain ⟨next, aheadNext, behindNext⟩ := ih last
          exact ⟨part ++ next, by rw [ahead, aheadNext, List.append_assoc],
            by rw [behindNext, behind, List.reverse_append, List.append_assoc]⟩
  | notBehind rejects =>
      obtain ⟨rfl, -⟩ := found
      exact ⟨[], rfl, rfl⟩
  | notAhead rejects =>
      obtain ⟨rfl, -⟩ := found
      exact ⟨[], rfl, rfl⟩
  | boundary isWord =>
      obtain ⟨rfl, -⟩ := found
      exact ⟨[], rfl, rfl⟩

theorem Matches.eq_or_less {r : Regex α} {s t : Position α} (found : Matches r s t) :
    s = t ∨ t.2.length < s.2.length := by
  obtain ⟨part, ahead, behind⟩ := found.reads
  cases part with
  | nil => exact Or.inl (Prod.ext behind.symm ahead)
  | cons c part =>
      right
      rw [ahead, List.length_append, List.length_cons]
      omega

theorem mem_repeatFrom {body : Regex α} {step : Position α → List (Position α)}
    (computes : ∀ s t, t ∈ step s ↔ Matches body s t) (fuel : ℕ) (s t : Position α)
    (enough : s.2.length ≤ fuel) :
    t ∈ repeatFrom step fuel s ↔ Relation.ReflTransGen (Matches body) s t := by
  constructor
  · intro listed
    induction fuel generalizing s with
    | zero =>
        cases List.mem_singleton.mp listed
        exact .refl
    | succ fuel ih =>
        rcases List.mem_cons.mp listed with rfl | later
        · exact .refl
        · obtain ⟨m, stepped, onward⟩ := List.mem_flatMap.mp later
          split_ifs at onward with less
          · exact .head ((computes s m).mp stepped) (ih m (by omega) onward)
          · cases onward
  · intro found
    induction found using Relation.ReflTransGen.head_induction_on generalizing fuel with
    | refl =>
        cases fuel with
        | zero => exact List.mem_singleton_self t
        | succ fuel => exact List.mem_cons_self
    | head first _ ih =>
        rcases first.eq_or_less with rfl | less
        · exact ih fuel enough
        · cases fuel with
          | zero => omega
          | succ fuel =>
              refine List.mem_cons_of_mem _ (List.mem_flatMap.mpr ⟨_, (computes _ _).mpr first, ?_⟩)
              rw [if_pos less]
              exact ih fuel (by omega)

theorem mem_ends (r : Regex α) (s t : Position α) : t ∈ ends r s ↔ Matches r s t := by
  induction r generalizing s t with
  | empty => exact List.mem_singleton.trans eq_comm
  | char accepts =>
      obtain ⟨before, after⟩ := s
      unfold ends Matches
      cases after with
      | nil => simp
      | cons c rest =>
          dsimp only
          split_ifs with accepted
          · rw [List.mem_singleton]
            constructor
            · rintro rfl
              exact ⟨c, accepted, rfl, rfl⟩
            · rintro ⟨d, -, ahead, behind⟩
              cases ahead
              exact Prod.ext behind rfl
          · refine iff_of_false List.not_mem_nil ?_
            rintro ⟨d, takes, ahead, -⟩
            cases ahead
            exact accepted takes
  | seq first second ihFirst ihSecond =>
      unfold ends Matches
      simp only [List.mem_flatMap, ihFirst, ihSecond]
  | alt first second ihFirst ihSecond =>
      unfold ends Matches
      simp only [List.mem_append, ihFirst, ihSecond]
  | star body ih => exact mem_repeatFrom ih s.2.length s t le_rfl
  | notBehind rejects =>
      unfold ends Matches
      split_ifs with rejected
      · simp [rejected]
      · simp [rejected, eq_comm]
  | notAhead rejects =>
      unfold ends Matches
      split_ifs with rejected
      · simp [rejected]
      · simp [rejected, eq_comm]
  | boundary isWord =>
      unfold ends Matches
      split_ifs with inside
      · simp [inside]
      · simp [inside, eq_comm]

theorem mem_positions (before text : List α) (s : Position α) :
    s ∈ positions before text ↔ ∃ part, text = part ++ s.2 ∧ s.1 = part.reverse ++ before := by
  induction text generalizing before with
  | nil =>
      constructor
      · intro listed
        cases List.mem_singleton.mp listed
        exact ⟨[], rfl, rfl⟩
      · rintro ⟨part, ahead, behind⟩
        obtain ⟨rfl, rest⟩ := List.append_eq_nil_iff.mp ahead.symm
        exact List.mem_singleton.mpr (Prod.ext behind rest)
  | cons c rest ih =>
      unfold positions
      rw [List.mem_cons, ih]
      constructor
      · rintro (rfl | ⟨part, ahead, behind⟩)
        · exact ⟨[], rfl, rfl⟩
        · exact ⟨c :: part, by rw [ahead]; rfl, by rw [behind]; simp⟩
      · rintro ⟨part, ahead, behind⟩
        cases part with
        | nil => exact Or.inl (Prod.ext behind ahead.symm)
        | cons d part =>
            obtain ⟨rfl, later⟩ := List.cons.inj ahead
            exact Or.inr ⟨part, later, by rw [behind]; simp⟩

theorem search_iff (r : Regex α) (text : List α) :
    search r text = true ↔ ∃ part rest t, text = part ++ rest ∧ Matches r (part.reverse, rest) t := by
  unfold search
  rw [List.any_eq_true]
  constructor
  · rintro ⟨⟨before, rest⟩, listed, found⟩
    obtain ⟨part, split, behind⟩ := (mem_positions [] text _).mp listed
    obtain ⟨t, ended⟩ := List.exists_mem_of_ne_nil _ (by simpa using found)
    have reversed : before = part.reverse := by simpa using behind
    rw [reversed] at ended
    exact ⟨part, rest, t, split, (mem_ends r _ t).mp ended⟩
  · rintro ⟨part, rest, t, split, found⟩
    refine ⟨(part.reverse, rest), (mem_positions [] text _).mpr ⟨part, split, by simp⟩, ?_⟩
    have ended := List.ne_nil_of_mem ((mem_ends r _ t).mpr found)
    simpa using ended

/-! ## Text around a match -/

/-- To the lookarounds of the expression the character is like an end of the text. -/
def Overlooks : Regex α → α → Prop
  | .empty, _ => True
  | .char _, _ => True
  | .seq first second, c => Overlooks first c ∧ Overlooks second c
  | .alt first second, c => Overlooks first c ∧ Overlooks second c
  | .star body, c => Overlooks body c
  | .notBehind rejects, c => rejects c = false
  | .notAhead rejects, c => rejects c = false
  | .boundary isWord, c => isWord c = false

@[simp] theorem overlooks_sequence (parts : List (Regex α)) (c : α) :
    (sequence parts).Overlooks c ↔ ∀ r ∈ parts, r.Overlooks c := by
  induction parts with
  | nil => simp [sequence, Overlooks]
  | cons r rest ih => simp [sequence, Overlooks, ih]

@[simp] theorem overlooks_opt (r : Regex α) (c : α) : (opt r).Overlooks c ↔ r.Overlooks c := by
  simp [opt, Overlooks]

@[simp] theorem overlooks_plus (r : Regex α) (c : α) : (plus r).Overlooks c ↔ r.Overlooks c := by
  simp [plus, Overlooks]

theorem overlooks_times (count : ℕ) (r : Regex α) (c : α) (overlooks : r.Overlooks c) :
    (times count r).Overlooks c := by
  rw [times, overlooks_sequence]
  intro part member
  rw [List.eq_of_mem_replicate member]
  exact overlooks

theorem overlooks_upTo (count : ℕ) (r : Regex α) (c : α) (overlooks : r.Overlooks c) :
    (upTo count r).Overlooks c := by
  induction count with
  | zero => trivial
  | succ count ih => exact (overlooks_opt _ c).mpr ⟨overlooks, ih⟩

theorem head?_any_append {l x : List α} {test : α → Bool}
    (overlooked : ∀ c ∈ x.head?, test c = false) :
    (l ++ x).head?.any test = l.head?.any test := by
  cases l with
  | cons d rest => rfl
  | nil =>
      cases x with
      | nil => rfl
      | cons c rest => simpa using overlooked c rfl

section Context
variable {x y : List α} {r : Regex α}

/-- A match stays one between texts whose nearest characters are overlooked. -/
theorem Matches.context (before : ∀ c ∈ x.head?, r.Overlooks c)
    (after : ∀ c ∈ y.head?, r.Overlooks c) {s t : Position α} (found : Matches r s t) :
    Matches r (s.1 ++ x, s.2 ++ y) (t.1 ++ x, t.2 ++ y) := by
  induction r generalizing s t with
  | empty =>
      cases found
      rfl
  | char accepts =>
      obtain ⟨c, accepted, ahead, behind⟩ := found
      exact ⟨c, accepted, by rw [ahead]; rfl, by rw [behind]; rfl⟩
  | seq first second ihFirst ihSecond =>
      obtain ⟨m, found, foundNext⟩ := found
      exact ⟨_, ihFirst (fun c near => (before c near).1) (fun c near => (after c near).1) found,
        ihSecond (fun c near => (before c near).2) (fun c near => (after c near).2) foundNext⟩
  | alt first second ihFirst ihSecond =>
      rcases found with found | found
      · exact Or.inl
          (ihFirst (fun c near => (before c near).1) (fun c near => (after c near).1) found)
      · exact Or.inr
          (ihSecond (fun c near => (before c near).2) (fun c near => (after c near).2) found)
  | star body ih =>
      have turns : Relation.ReflTransGen (Matches body) s t := found
      exact turns.lift (fun s : Position α => (s.1 ++ x, s.2 ++ y))
        fun _ _ turn => ih before after turn
  | notBehind rejects =>
      obtain ⟨rfl, accepted⟩ := found
      exact ⟨rfl, (head?_any_append before).trans accepted⟩
  | notAhead rejects =>
      obtain ⟨rfl, accepted⟩ := found
      exact ⟨rfl, (head?_any_append after).trans accepted⟩
  | boundary isWord =>
      obtain ⟨rfl, between⟩ := found
      refine ⟨rfl, ?_⟩
      rw [head?_any_append before, head?_any_append after]
      exact between

/-- What is found in a text is found in a longer one around it. -/
theorem search_context {text : List α} (before : ∀ c ∈ x.getLast?, r.Overlooks c)
    (after : ∀ c ∈ y.head?, r.Overlooks c) (found : search r text = true) :
    search r (x ++ text ++ y) = true := by
  obtain ⟨part, rest, t, rfl, matched⟩ := (search_iff r text).mp found
  have near : ∀ c ∈ x.reverse.head?, r.Overlooks c := by
    rw [List.head?_reverse]
    exact before
  have wider := matched.context near after
  rw [← List.reverse_append] at wider
  exact (search_iff r _).mpr ⟨x ++ part, rest ++ y, _, by simp, wider⟩

end Context

end Regex
