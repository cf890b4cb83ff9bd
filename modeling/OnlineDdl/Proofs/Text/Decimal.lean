import OnlineDdl.Proofs.Text.Spacing
import OnlineDdl.Text.Decimal
import Mathlib.Data.Nat.Digits.Defs
import Mathlib.Tactic.Ring

/-! Numerals and their values. What is read of a numeral is the number that its digits stand for in base
ten, whether or not it has leading zeros or a plus sign. -/

set_option autoImplicit false

namespace OnlineDdl.Text

def IsNumeral (n : Nat) (s : List Char) : Prop :=
  ∃ digits, (s = digits ∨ s = '+' :: digits) ∧ digits ≠ [] ∧ (∀ c ∈ digits, isDigit c = true) ∧
    Nat.ofDigits 10 (digits.reverse.map digitValue) = n

theorem digit_code (c : Char) (digit : isDigit c = true) : 48 ≤ c.toNat ∧ c.toNat ≤ 57 := by
  rwa [isDigit, Bool.and_eq_true, decide_eq_true_eq, decide_eq_true_eq] at digit

theorem digit_plain (c : Char) (digit : isDigit c = true) : isBlank c = false ∧ isMark c = false := by
  have code : c.toNat ∈ List.range' 48 10 := by
    rw [List.mem_range'_1]
    exact (digit_code c digit).imp_right Nat.lt_succ_of_le
  have each : ∀ n ∈ List.range' 48 10, isBlank (Char.ofNat n) = false ∧ isMark (Char.ofNat n) = false := by
    decide +kernel
  have plain := each _ code
  rwa [Char.ofNat_toNat] at plain

theorem digit_case (c : Char) (digit : isDigit c = true) : c.toLower = c := by
  delta Char.toLower
  refine dif_neg ?_
  rintro ⟨first, -⟩
  have code := digit_code c digit
  have high : 65 ≤ c.toNat := first
  omega

theorem digits_value_none (value : Nat) : digitsValue value [] = value := by
  delta digitsValue
  rfl

theorem digits_value_next (value : Nat) (c : Char) (rest : List Char) :
    digitsValue value (c :: rest) = digitsValue (value * 10 + digitValue c) rest := by
  delta digitsValue
  rfl

theorem digits_value_base (value : Nat) (s : List Char) :
    digitsValue value s = value * 10 ^ s.length + Nat.ofDigits 10 (s.reverse.map digitValue) := by
  induction s generalizing value with
  | nil => simp [digits_value_none]
  | cons c rest ih =>
      rw [digits_value_next, ih, List.reverse_cons, List.map_append, List.map_singleton, Nat.ofDigits_append,
        Nat.ofDigits_singleton, List.length_map, List.length_reverse, List.length_cons]
      ring

theorem read_digits_iff (s : List Char) (n : Nat) : readDigits s = some n ↔
    s ≠ [] ∧ (∀ c ∈ s, isDigit c = true) ∧ Nat.ofDigits 10 (s.reverse.map digitValue) = n := by
  rw [readDigits, digits_value_base]
  simp [and_assoc]

def unsigned (s : List Char) : List Char :=
  match s with
  | '+' :: rest => rest
  | _ => s

theorem unsigned_cases (s : List Char) : s = unsigned s ∨ s = '+' :: unsigned s := by
  rw [unsigned.eq_def]
  split
  · exact .inr rfl
  · exact .inl rfl

theorem unsigned_digits (digits : List Char) (all : ∀ c ∈ digits, isDigit c = true) :
    unsigned digits = digits := by
  rw [unsigned.eq_def]
  split
  · exact absurd (all '+' List.mem_cons_self) (by decide)
  · rfl

theorem numeral_digits (n : Nat) (s : List Char) : IsNumeral n s ↔ readDigits (unsigned s) = some n := by
  rw [read_digits_iff]
  constructor
  · rintro ⟨digits, rfl | rfl, some, all, value⟩
    · rw [unsigned_digits s all]
      exact ⟨some, all, value⟩
    · exact ⟨some, all, value⟩
  · rintro ⟨some, all, value⟩
    exact ⟨unsigned s, unsigned_cases s, some, all, value⟩

theorem read_numeral_iff (bound n : Nat) (s : List Char) :
    readNumeral bound s = some n ↔ IsNumeral n s ∧ n < bound := by
  rw [numeral_digits]
  delta readNumeral
  dsimp only
  split
  · next m read =>
    change readDigits (unsigned s) = some m at read
    rw [read, Option.ite_none_right_eq_some, Option.some.injEq]
    constructor
    · rintro ⟨below, rfl⟩
      exact ⟨rfl, below⟩
    · rintro ⟨rfl, below⟩
      exact ⟨below, rfl⟩
  · next read =>
    change readDigits (unsigned s) = none at read
    simp [read]

theorem digits_value_chars (value : Nat) (s : List Char) :
    digitsValue value s = Nat.ofDigitChars 10 s value := by
  induction s generalizing value with
  | nil => rw [digits_value_none, Nat.ofDigitChars_nil]
  | cons c rest ih => rw [digits_value_next, ih, Nat.ofDigitChars_cons, Nat.mul_comm, digitValue]

theorem repr_digits (n : Nat) (c : Char) (member : c ∈ n.repr.toList) : isDigit c = true := by
  rw [Nat.repr_eq_ofList_toDigits, String.toList_ofList] at member
  have digit : c.isDigit = true := Nat.isDigit_of_mem_toDigits (by decide) (by decide) member
  simpa [Char.isDigit, isDigit, Char.le_def] using digit

theorem repr_value (n : Nat) : digitsValue 0 n.repr.toList = n := by
  rw [Nat.repr_eq_ofList_toDigits, String.toList_ofList, digits_value_chars,
    Nat.ofDigitChars_toDigits (by decide) (by decide)]

theorem repr_filled (n : Nat) : n.repr.toList ≠ [] := by
  rw [Nat.repr_eq_ofList_toDigits, String.toList_ofList]
  exact Nat.toDigits_ne_nil

theorem repr_numeral (n : Nat) : IsNumeral n n.repr.toList := by
  refine ⟨_, .inl rfl, repr_filled n, repr_digits n, ?_⟩
  have value := digits_value_base 0 n.repr.toList
  rwa [Nat.zero_mul, Nat.zero_add, repr_value, eq_comm] at value

theorem numeral_unique (n m : Nat) (s : List Char) (one : IsNumeral n s) (other : IsNumeral m s) : n = m := by
  rw [numeral_digits] at one other
  exact Option.some.inj (one.symm.trans other)

theorem numeral_letters (n : Nat) (s : List Char) (numeral : IsNumeral n s) :
    ∀ c ∈ s, inRanges [(0x2B, 0x2B), (0x30, 0x39)] c = true := by
  obtain ⟨digits, same, -, all, -⟩ := numeral
  have each : ∀ c ∈ digits, inRanges [(0x2B, 0x2B), (0x30, 0x39)] c = true := by
    intro c member
    simpa [inRanges] using Or.inr (digit_code c (all c member))
  rcases same with rfl | rfl
  · exact each
  · exact List.forall_mem_cons.mpr ⟨by decide, each⟩

theorem numeral_plain (n : Nat) (s : List Char) (numeral : IsNumeral n s) :
    s ≠ [] ∧ Solid s ∧ ∀ c ∈ s, isMark c = false := by
  obtain ⟨digits, same, some, all, -⟩ := numeral
  have solid : Solid digits := fun c member => (digit_plain c (all c member)).1
  have plain : ∀ c ∈ digits, isMark c = false := fun c member => (digit_plain c (all c member)).2
  rcases same with rfl | rfl
  · exact ⟨some, solid, plain⟩
  · exact ⟨by simp, List.forall_mem_cons.mpr ⟨rfl, solid⟩, List.forall_mem_cons.mpr ⟨rfl, plain⟩⟩

theorem numeral_case (n : Nat) (s : List Char) (numeral : IsNumeral n s) : s.map Char.toLower = s := by
  obtain ⟨digits, same, -, all, -⟩ := numeral
  have kept : digits.map Char.toLower = digits := by
    rw [List.map_congr_left fun c member => digit_case c (all c member), List.map_id']
  rcases same with rfl | rfl
  · exact kept
  · exact congrArg ('+' :: ·) kept

end OnlineDdl.Text
