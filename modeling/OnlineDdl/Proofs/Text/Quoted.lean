import OnlineDdl.Text.Quoted

/-! Quoted text read back: what follows the closing quote is left as it is, so that two texts which begin
with a quoted name agree in the name and in the rest. -/

set_option autoImplicit false

namespace OnlineDdl.Text

theorem scan_body_next (quote c : Char) (rest : List Char) (other : c ≠ quote) (more : rest ≠ []) :
    scanBody quote (c :: rest) = (scanBody quote rest).map fun (s, after) => (c :: s, after) := by
  cases rest with
  | nil => exact absurd rfl more
  | cons d later => rw [scanBody, if_neg other]

theorem scan_body_double (quote : Char) (s rest : List Char) (ends : rest.head? ≠ some quote) :
    scanBody quote (double quote s ++ quote :: rest) = some (s, rest) := by
  induction s with
  | nil =>
      cases rest with
      | nil => simp [double, scanBody]
      | cons d later =>
          have other : d ≠ quote := fun same => ends (congrArg some same)
          simp [double, scanBody, other]
  | cons c later ih =>
      by_cases same : c = quote
      · subst same
        rw [double, if_pos rfl, List.cons_append, List.cons_append, scanBody, if_pos rfl, if_pos rfl, ih]
        rfl
      · rw [double, if_neg same, List.cons_append, scan_body_next quote c _ same (by simp), ih]
        rfl

theorem scan_enclosed (quote : Char) (s rest : List Char) (ends : rest.head? ≠ some quote) :
    scanQuoted quote (enclose quote s ++ rest) = some (s, rest) := by
  rw [enclose, List.cons_append, scanQuoted, if_pos rfl, List.append_assoc]
  exact scan_body_double quote s rest ends

theorem scan_body_parts (quote : Char) (input s rest : List Char)
    (read : scanBody quote input = some (s, rest)) :
    input = double quote s ++ quote :: rest ∧ rest.head? ≠ some quote := by
  induction input using scanBody.induct quote generalizing s rest with
  | case1 => cases read
  | case2 =>
      rw [scanBody, if_pos rfl] at read
      cases read
      exact ⟨rfl, by simp⟩
  | case3 c other =>
      rw [scanBody, if_neg other] at read
      cases read
  | case4 more ih =>
      rw [scanBody, if_pos rfl, if_pos rfl] at read
      obtain ⟨⟨t, after⟩, found, same⟩ := Option.map_eq_some_iff.mp read
      cases same
      obtain ⟨parts, ends⟩ := ih t rest found
      exact ⟨by rw [double, if_pos rfl, parts]; rfl, ends⟩
  | case5 d more other =>
      rw [scanBody, if_pos rfl, if_neg other] at read
      cases read
      exact ⟨rfl, fun same => other (Option.some.inj same)⟩
  | case6 c d more other ih =>
      rw [scanBody, if_neg other] at read
      obtain ⟨⟨t, after⟩, found, same⟩ := Option.map_eq_some_iff.mp read
      cases same
      obtain ⟨parts, ends⟩ := ih t rest found
      exact ⟨by rw [double, if_neg other, parts]; rfl, ends⟩

-- A quote right behind the closing one would be taken for a doubled quote.
theorem scan_quoted_iff (quote : Char) (input s rest : List Char) :
    scanQuoted quote input = some (s, rest) ↔ input = enclose quote s ++ rest ∧ rest.head? ≠ some quote := by
  constructor
  · intro read
    cases input with
    | nil => cases read
    | cons c more =>
        rw [scanQuoted, Option.ite_none_right_eq_some] at read
        obtain ⟨rfl, read⟩ := read
        obtain ⟨parts, ends⟩ := scan_body_parts c more s rest read
        exact ⟨by rw [enclose, parts]; simp, ends⟩
  · rintro ⟨rfl, ends⟩
    exact scan_enclosed quote s rest ends

theorem double_length (quote : Char) (s : List Char) :
    (double quote s).length = s.length + s.count quote := by
  induction s with
  | nil => rfl
  | cons c rest ih =>
      by_cases same : c = quote
      · rw [double, if_pos same, List.length_cons, List.length_cons, ih, List.length_cons, List.count_cons, same]
        simp
        omega
      · rw [double, if_neg same, List.length_cons, ih, List.length_cons, List.count_cons_of_ne same]
        omega

theorem double_same_iff (quote : Char) (s : List Char) : double quote s = s ↔ quote ∉ s := by
  constructor
  · intro same
    have lengths := double_length quote s
    rw [same] at lengths
    rw [← List.count_eq_zero]
    omega
  · intro outside
    induction s with
    | nil => rfl
    | cons c rest ih =>
        obtain ⟨other, later⟩ := List.ne_and_not_mem_of_not_mem_cons outside
        rw [double, if_neg other.symm, ih later]

theorem enclosed_apart (quote : Char) (s t rest later : List Char) (ends : rest.head? ≠ some quote)
    (stops : later.head? ≠ some quote) (same : enclose quote s ++ rest = enclose quote t ++ later) :
    s = t ∧ rest = later := by
  have read := scan_enclosed quote s rest ends
  rw [same, scan_enclosed quote t later stops] at read
  exact ⟨(congrArg Prod.fst (Option.some.inj read)).symm, (congrArg Prod.snd (Option.some.inj read)).symm⟩

end OnlineDdl.Text
