import Mathlib

/-! # Python text and rounding

`str.lower` on ASCII letters, `str.strip`, `round(x, n)` (half to even) on
exact rationals, and the `:.6f` format of the budget messages. -/
set_option autoImplicit false
namespace CortexGateway

def lower (s : String) : String := String.ofList (s.toList.map Char.toLower)

theorem toLower_toLower (c : Char) : c.toLower.toLower = c.toLower := by
  simp only [Char.toLower]
  split_ifs <;> grind

@[simp] theorem lower_lower (s : String) : lower (lower s) = lower s := by
  unfold lower
  rw [String.toList_ofList, List.map_map]
  exact congrArg String.ofList (List.map_congr_left fun c _ => toLower_toLower c)

/-- `needle in text`. -/
def textContains (text needle : String) : Bool := needle.toList <:+: text.toList

/-- `text.startswith(start)`. -/
def startsWith (text start : String) : Bool := start.toList <+: text.toList

/-- `str.isspace` for one character. -/
def isBlank (c : Char) : Bool :=
  let code := c.toNat
  (9 ≤ code && code ≤ 13) || (28 ≤ code && code ≤ 32) || code = 0x85 || code = 0xa0 ||
    code = 0x1680 || (0x2000 ≤ code && code ≤ 0x200a) || code = 0x2028 || code = 0x2029 ||
    code = 0x202f || code = 0x205f || code = 0x3000

def strip (s : String) : String :=
  String.ofList ((s.toList.dropWhile isBlank).reverse.dropWhile isBlank).reverse

theorem isBlank_of_letter (c : Char) (low : 65 ≤ c.toNat) (high : c.toNat ≤ 122) :
    isBlank c = false := by
  simp only [isBlank, Bool.or_eq_false_iff, Bool.and_eq_false_iff, decide_eq_false_iff_not]
  omega

/-- A letter in upper case is moved by 32, and every other character stays. -/
theorem toLower_cases (c : Char) :
    65 ≤ c.toNat ∧ c.toNat ≤ 90 ∧ c.toLower.toNat = c.toNat + 32 ∨ c.toLower = c := by
  unfold Char.toLower
  split_ifs with upper
  · have low : 65 ≤ c.toNat := UInt32.le_iff_toNat_le.mp upper.1
    have high : c.toNat ≤ 90 := UInt32.le_iff_toNat_le.mp upper.2
    refine Or.inl ⟨low, high, ?_⟩
    change (c.val + ('a'.val - 'A'.val)).toNat = c.toNat + 32
    rw [UInt32.toNat_add]
    change (c.toNat + 32) % 4294967296 = c.toNat + 32
    omega
  · exact Or.inr rfl

theorem isBlank_toLower (c : Char) : isBlank c.toLower = isBlank c := by
  rcases toLower_cases c with ⟨low, high, shifted⟩ | same
  · rw [isBlank_of_letter c low (by omega), isBlank_of_letter c.toLower (by omega) (by omega)]
  · rw [same]

theorem strip_lower (s : String) : strip (lower s) = lower (strip s) := by
  have blank : isBlank ∘ Char.toLower = isBlank := funext isBlank_toLower
  simp only [strip, lower, String.toList_ofList]
  rw [List.dropWhile_map, blank, ← List.map_reverse, List.dropWhile_map, blank, ← List.map_reverse]

theorem strip_strip (s : String) : strip (strip s) = strip s := by
  set trimmed := s.toList.dropWhile isBlank with cut
  have fixed : (trimmed.rdropWhile isBlank).dropWhile isBlank = trimmed.rdropWhile isBlank := by
    rw [List.dropWhile_eq_self_iff]
    intro nonempty
    have shared := (List.rdropWhile_prefix isBlank (l := trimmed)).getElem nonempty
    have still : trimmed.dropWhile isBlank = trimmed := List.dropWhile_idempotent isBlank s.toList
    rw [shared]
    exact List.dropWhile_eq_self_iff.mp still _
  have ends : (trimmed.rdropWhile isBlank).rdropWhile isBlank = trimmed.rdropWhile isBlank :=
    List.rdropWhile_idempotent isBlank trimmed
  have once : strip s = String.ofList (trimmed.rdropWhile isBlank) := rfl
  rw [once]
  change String.ofList ((((String.ofList _).toList.dropWhile isBlank)).rdropWhile isBlank) = _
  rw [String.toList_ofList, fixed, ends]

/-- No blanks around, and not empty. -/
def Trimmed (s : String) : Prop := strip s = s ∧ s ≠ ""

instance (s : String) : Decidable (Trimmed s) :=
  inferInstanceAs (Decidable (strip s = s ∧ s ≠ ""))

theorem trimmed_strip {s : String} (nonempty : strip s ≠ "") : Trimmed (strip s) :=
  ⟨strip_strip s, nonempty⟩

theorem lower_eq_empty {s : String} : lower s = "" ↔ s = "" := by
  rw [← String.toList_eq_nil_iff, lower, String.toList_ofList, List.map_eq_nil_iff,
    String.toList_eq_nil_iff]

theorem Trimmed.lower {s : String} (trimmed : Trimmed s) : Trimmed (lower s) :=
  ⟨by rw [strip_lower, trimmed.1], fun empty => trimmed.2 (lower_eq_empty.mp empty)⟩

/-! ## Texts in messages -/

/-- A character between quotes. -/
def escaped (quote c : Char) : String :=
  if c = quote || c.toNat = 92 then String.ofList [Char.ofNat 92, c]
  else if c = '\n' then String.ofList [Char.ofNat 92, 'n']
  else if c = '\r' then String.ofList [Char.ofNat 92, 'r']
  else if c = '\t' then String.ofList [Char.ofNat 92, 't']
  else if c.toNat < 32 || c.toNat = 127 then
    String.ofList [Char.ofNat 92, 'x', Nat.digitChar (c.toNat / 16), Nat.digitChar (c.toNat % 16)]
  else String.singleton c

/-- `repr(text)`: between apostrophes unless the text has these and no quotation
marks.  Characters beyond ASCII are taken as printable. -/
def reprStr (text : String) : String :=
  let quote :=
    if text.toList.contains (Char.ofNat 39) && !text.toList.contains (Char.ofNat 34) then
      Char.ofNat 34
    else Char.ofNat 39
  String.singleton quote ++ String.join (text.toList.map (escaped quote)) ++
    String.singleton quote

/-- `repr(texts)`. -/
def reprStrs (texts : List String) : String :=
  "[" ++ ", ".intercalate (texts.map reprStr) ++ "]"

/-- The nearest integer, ties going to the even neighbour. -/
def roundHalfEven (x : ℚ) : ℤ :=
  let below := ⌊x⌋
  let fraction := x - below
  if fraction < 1 / 2 then below
  else if 1 / 2 < fraction then below + 1
  else if below % 2 = 0 then below
  else below + 1

/-- `round(x, digits)`. -/
def roundTo (x : ℚ) (digits : ℕ) : ℚ := (roundHalfEven (x * 10 ^ digits) : ℚ) / 10 ^ digits

/-- `f"{x:.6f}"` for a non-negative amount. -/
def formatFixed6 (x : ℚ) : String :=
  let scaled := (roundHalfEven (x * 10 ^ 6)).toNat
  let decimals := toString (scaled % 10 ^ 6)
  toString (scaled / 10 ^ 6) ++ "." ++
    String.ofList (List.replicate (6 - decimals.length) '0') ++ decimals

theorem roundHalfEven_nonneg (x : ℚ) (nonneg : 0 ≤ x) : 0 ≤ roundHalfEven x := by
  have below : 0 ≤ ⌊x⌋ := Int.floor_nonneg.mpr nonneg
  simp only [roundHalfEven]
  split_ifs <;> omega

theorem roundTo_nonneg (x : ℚ) (digits : ℕ) (nonneg : 0 ≤ x) : 0 ≤ roundTo x digits := by
  have scaled : 0 ≤ roundHalfEven (x * 10 ^ digits) :=
    roundHalfEven_nonneg _ (mul_nonneg nonneg (by positivity))
  have cast : (0 : ℚ) ≤ (roundHalfEven (x * 10 ^ digits) : ℚ) := by exact_mod_cast scaled
  exact div_nonneg cast (by positivity)

example : roundTo (25 / 100000) 4 = 2 / 10000 := by decide +kernel

end CortexGateway
