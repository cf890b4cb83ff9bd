import OnlineDdl.Schema.ObjectName

/-! The parts of generated names: what a name is made of where it is whole, how long it is at most, and what
becomes of the digest and the suffix where it is shortened. -/

set_option autoImplicit false

namespace OnlineDdl.ObjectName

theorem digest_length (table : String) (columns : List String) : (digest table columns).length = 8 := by
  rw [digest, List.length_take, Md5.hex_length]
  rfl

theorem hex_digit_member (n : Nat) : Text.hexDigit n ∈ Text.hexDigits := by
  rw [Text.hexDigit, List.getD_eq_getElem?_getD]
  cases found : Text.hexDigits[n]? with
  | none => exact List.mem_cons_self
  | some c => exact List.mem_of_getElem? found

theorem hex_digits (message : List UInt8) (c : Char) (member : c ∈ Md5.hex message) : c ∈ Text.hexDigits := by
  obtain ⟨byte, -, inside⟩ := List.mem_flatMap.mp member
  rcases List.mem_cons.mp inside with high | low
  · exact high ▸ hex_digit_member _
  · exact List.mem_singleton.mp low ▸ hex_digit_member _

theorem digest_digits (table : String) (columns : List String) (c : Char) (member : c ∈ digest table columns) :
    c ∈ Text.hexDigits :=
  hex_digits _ c (List.mem_of_mem_take member)

def overruns (table joined tail : List Char) : Bool :=
  decide (maxLength < (table ++ '_' :: joined ++ '_' :: tail).length)

theorem assemble_whole (table joined tail : List Char) (fits : overruns table joined tail = false) :
    assemble table joined tail = table ++ '_' :: joined ++ '_' :: tail := by
  rw [overruns, decide_eq_false_iff_not, Nat.not_lt] at fits
  rw [assemble, if_pos fits]

section

variable (table suffix : String) (columns one other : List String)

def Fits : Prop :=
  overruns table.toList (Text.joinWith ['_'] (columns.map String.toList)) (digest table columns ++ suffix.toList) = false

instance : Decidable (Fits table suffix columns) := inferInstanceAs (Decidable (_ = _))

theorem generate_whole (fits : Fits table suffix columns) :
    (generate table columns suffix).toList = table.toList ++
      '_' :: (Text.joinWith ['_'] (columns.map String.toList) ++ '_' :: (digest table columns ++ suffix.toList)) := by
  rw [generate, String.toList_ofList, assemble_whole _ _ _ fits, List.append_assoc]
  rfl

theorem whole_names_meet_iff (fits : Fits table suffix one) (whole : Fits table suffix other) :
    generate table one suffix = generate table other suffix ↔
      Text.joinWith ['_'] (one.map String.toList) = Text.joinWith ['_'] (other.map String.toList) ∧
        digest table one = digest table other := by
  rw [← String.toList_inj, generate_whole table suffix one fits, generate_whole table suffix other whole,
    List.append_cancel_left_eq]
  constructor
  · intro same
    have sizes := (digest_length table one).trans (digest_length table other).symm
    obtain ⟨joined, tails⟩ := List.append_inj' (List.cons.inj same).2 (by simp [sizes])
    exact ⟨joined, List.append_cancel_right (List.cons.inj tails).2⟩
  · rintro ⟨joined, digits⟩
    rw [joined, digits]

theorem digest_eq_iff (separates : digest table one = digest table other →
      digestInput table one = digestInput table other) :
    digest table one = digest table other ↔ one.flatMap String.toList = other.flatMap String.toList := by
  constructor
  · intro same
    simpa [digestInput] using separates same
  · intro same
    simp [digest, digestInput, same]

end

theorem assemble_shortened (table joined tail : List Char) (exceeds : overruns table joined tail = true) :
    assemble table joined tail = shortened table joined tail := by
  rw [overruns, decide_eq_true_eq] at exceeds
  rw [assemble, if_neg (Nat.not_le.mpr exceeds)]

theorem starts_badly_filled (name : List Char) (bad : startsBadly name = true) : 0 < name.length := by
  cases name with
  | nil => cases bad
  | cons c rest => exact Nat.zero_lt_succ _

theorem mended_length (name : List Char) : (mendStart name).length = name.length := by
  rw [mendStart]
  split
  · next bad =>
      have filled := starts_badly_filled name bad
      rw [List.length_cons, List.length_take]
      omega
  · rfl

theorem assemble_length (table joined tail : List Char) : (assemble table joined tail).length ≤ maxLength := by
  have limit : maxLength = 63 := rfl
  rw [assemble]
  split
  · assumption
  · simp only [shortened, mended_length, List.length_append, List.length_cons, List.length_take]
    omega

theorem mended_end (front tail : List Char) (filled : tail ≠ []) :
    mendStart (front ++ tail) = if startsBadly (front ++ tail) then 'D' :: front ++ tail.dropLast else front ++ tail := by
  rw [mendStart, ← List.dropLast_eq_take, List.dropLast_append_of_ne_nil filled]
  rfl

-- A tail within a third of the limit is kept whole, but for its last character where the start of the
-- name is mended.
theorem assemble_end (table joined tail : List Char) (short : tail.length ≤ maxLength / 3) (filled : tail ≠ []) :
    ∃ front, assemble table joined tail =
      front ++ '_' :: if overruns table joined tail && startsBadly (table ++ ['_']) then tail.dropLast else tail := by
  cases exceeds : overruns table joined tail with
  | false => exact ⟨table ++ '_' :: joined, by rw [assemble_whole _ _ _ exceeds]; rfl⟩
  | true =>
      have kept : tail.take (maxLength / 3) = tail := List.take_of_length_le short
      obtain ⟨share, shared⟩ : ∃ share, (maxLength - tail.length) / 2 - 1 = share + 1 := by
        have limit : maxLength = 63 := rfl
        exact ⟨(maxLength - tail.length) / 2 - 2, by omega⟩
      let front := table.take (share + 1) ++ '_' :: joined.take (share + 1)
      have start : startsBadly (front ++ '_' :: tail) = startsBadly (table ++ ['_']) := by
        cases table <;> rfl
      have parts := mended_end front ('_' :: tail) (List.cons_ne_nil '_' tail)
      rw [start, List.dropLast_cons_of_ne_nil filled] at parts
      rw [assemble_shortened _ _ _ exceeds, shortened, kept, shared, parts, Bool.true_and]
      cases startsBadly (table ++ ['_']) with
      | true => exact ⟨'D' :: front, rfl⟩
      | false => exact ⟨front, rfl⟩

theorem moved_suffix (front digits suffix : List Char) (last head : Char) (differs : last ≠ head) :
    ¬ (head :: suffix) <:+ front ++ (digits ++ [last] ++ head :: suffix).dropLast := by
  have cut : front ++ (digits ++ [last] ++ head :: suffix).dropLast =
      (front ++ digits) ++ (last :: (head :: suffix).dropLast) := by
    rw [List.dropLast_append_of_ne_nil (List.cons_ne_nil head suffix)]
    simp
  intro ends
  rw [cut] at ends
  have same : head :: suffix = last :: (head :: suffix).dropLast := by
    apply (List.suffix_of_suffix_length_le ends (List.suffix_append _ _) (by simp)).eq_of_length
    simp
  exact differs (List.cons.inj same).1.symm

theorem digest_filled (table : String) (columns : List String) : digest table columns ≠ [] := by
  rw [← List.length_pos_iff, digest_length]
  decide

theorem digest_last (table : String) (columns : List String) :
    ∃ digits last, digest table columns = digits ++ [last] ∧ last ∈ Text.hexDigits := by
  have filled := digest_filled table columns
  exact ⟨_, _, (List.dropLast_concat_getLast filled).symm,
    digest_digits table columns _ (List.getLast_mem filled)⟩

theorem suffix_kept_iff (table : String) (columns : List String) (joined : List Char) (first : Char)
    (others : List Char) (head : Char) (suffix : List Char) (short : suffix.length + 9 ≤ maxLength / 3)
    (outside : head ∉ Text.hexDigits) :
    (head :: suffix) <:+ assemble (first :: others) joined (digest table columns ++ head :: suffix) ↔
      (overruns (first :: others) joined (digest table columns ++ head :: suffix) &&
        startsBadly [first]) = false := by
  obtain ⟨digits, last, split, digit⟩ := digest_last table columns
  have differs : last ≠ head := fun same => outside (same ▸ digit)
  have size : (digest table columns ++ head :: suffix).length ≤ maxLength / 3 := by
    rw [List.length_append, digest_length, List.length_cons]
    omega
  obtain ⟨front, shape⟩ := assemble_end (first :: others) joined _ size (by simp)
  have start : startsBadly (first :: others ++ ['_']) = startsBadly [first] := rfl
  rw [shape, start]
  cases overruns (first :: others) joined (digest table columns ++ head :: suffix) && startsBadly [first] with
  | false =>
      rw [if_neg Bool.false_ne_true]
      exact ⟨fun _ => rfl, fun _ => ⟨front ++ '_' :: digest table columns, by simp⟩⟩
  | true =>
      rw [if_pos rfl, split, List.append_cons]
      refine ⟨fun ends => absurd ends (moved_suffix (front ++ ['_']) digits suffix last head differs), fun never => ?_⟩
      cases never

end OnlineDdl.ObjectName
