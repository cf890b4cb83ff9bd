import OnlineDdl.Proofs.Outcome
import OnlineDdl.Proofs.Text.Decimal
import OnlineDdl.Proofs.Text.Lowercase
import OnlineDdl.Schema.ColumnType

/-! How types are spelled. A type of a known family is told by its tokens: the words of its name and, in
parentheses, its parameters. Blanks and letter case make no difference. -/

set_option autoImplicit false

namespace OnlineDdl.ColumnType

open Text

def Family.names : Family → List (List (List Char))
  | .varchar => [["varchar".toList], ["character".toList, "varying".toList]]
  | .text => [["text".toList]]
  | .numeric => [["numeric".toList], ["decimal".toList]]
  | .varbit => [["varbit".toList], ["bit".toList, "varying".toList]]

-- The tokens of a type with parameters; how many parentheses close it is left open.
def Sized (family : Family) (numbers : List Nat) (closing : Nat) (text : List (List Char)) : Prop :=
  ∃ name ∈ family.names, ∃ numerals, List.Forall₂ IsNumeral numbers numerals ∧ numbers ≠ [] ∧
    text = name ++ ['('] :: (numerals.intersperse [','] ++ List.replicate closing [')'])

-- What the tokens of a type say. A scale that is left out is zero.
inductive Denotes (text : List (List Char)) : ColumnType → Prop where
  | varchar (bare : text ∈ Family.names .varchar) : Denotes text (.varchar none)
  | varcharOf (length closing : Nat) (sized : Sized .varchar [length] closing text) :
      Denotes text (.varchar (some length))
  | text (bare : text ∈ Family.names .text) : Denotes text .text
  | numeric (bare : text ∈ Family.names .numeric) : Denotes text (.numeric none)
  | numericOf (precision closing : Nat) (sized : Sized .numeric [precision] closing text) :
      Denotes text (.numeric (some (precision, 0)))
  | numericScaled (precision scale closing : Nat) (sized : Sized .numeric [precision, scale] closing text) :
      Denotes text (.numeric (some (precision, scale)))
  | varbit (bare : text ∈ Family.names .varbit) : Denotes text (.varbit none)
  | varbitOf (length closing : Nat) (sized : Sized .varbit [length] closing text) :
      Denotes text (.varbit (some length))

theorem tokens_close_parens (a s : List Char) : tokens (a ++ closeParens s) = tokens (a ++ s) := by
  induction s using closeParens.induct generalizing a with
  | case1 rest ih =>
      rw [closeParens, tokens_mark a _ '(' rfl, tokens_blank a _ ' ' rfl]
      have shorter := ih []
      have one := tokens_mark [] rest '(' rfl
      simp only [List.nil_append] at shorter one
      rw [shorter, one]
      rfl
  | case2 c rest other ih =>
      rw [closeParens, List.append_cons, List.append_cons a c rest]
      · exact ih (a ++ [c])
      · exact other
  | case3 => rfl

theorem tokens_close_commas (a s : List Char) : tokens (a ++ closeCommas s) = tokens (a ++ s) := by
  induction s using closeCommas.induct generalizing a with
  | case1 rest ih =>
      rw [closeCommas, tokens_mark a _ ',' rfl, tokens_mark a _ ',' rfl]
      have shorter := ih []
      have blank := tokens_blank [] rest ' ' rfl
      simp only [List.nil_append] at shorter blank
      rw [shorter, blank]
      rfl
  | case2 c rest other ih =>
      rw [closeCommas, List.append_cons, List.append_cons a c rest]
      · exact ih (a ++ [c])
      · exact other
  | case3 => rfl

theorem normalize_lower (raw : List Char) : normalize raw = closeCommas (closeParens (tidy (lower raw))) := by
  rw [tidy_lower]
  rfl

theorem tokens_normalize (raw : List Char) : tokens (normalize raw) = tokens (lower raw) := by
  rw [normalize_lower]
  exact (tokens_close_commas [] _).trans ((tokens_close_parens [] _).trans (tokens_tidy _))

theorem strip_normalize (raw : List Char) : strip (normalize raw) = strip (lower raw) := by
  rw [← tokens_flat, tokens_normalize, tokens_flat]

theorem name_tokens (family : Family) : ∀ name ∈ family.names, tokens (joinWith [' '] name) = name := by
  cases family <;> decide +kernel

theorem name_known (text : List Char) (family : Family) (named : Family.ofName? text = some family) :
    ∃ name ∈ family.names, text = joinWith [' '] name := by
  rw [Family.ofName?] at named
  split at named
  · next known =>
      obtain rfl := Option.some.inj named
      rcases known with rfl | rfl
      · exact ⟨["varchar".toList], by decide, rfl⟩
      · exact ⟨["character".toList, "varying".toList], by decide, by decide⟩
  · split at named
    · next known =>
        obtain rfl := Option.some.inj named
        exact ⟨["text".toList], by decide, known⟩
    · split at named
      · next known =>
          obtain rfl := Option.some.inj named
          rcases known with rfl | rfl
          · exact ⟨["numeric".toList], by decide, rfl⟩
          · exact ⟨["decimal".toList], by decide, rfl⟩
      · split at named
        · next known =>
            obtain rfl := Option.some.inj named
            rcases known with rfl | rfl
            · exact ⟨["varbit".toList], by decide, rfl⟩
            · exact ⟨["bit".toList, "varying".toList], by decide, by decide⟩
        · cases named

theorem numeral_tokens (n : Nat) (s : List Char) (numeral : IsNumeral n s) : tokens s = [s] := by
  obtain ⟨some, solid, plain⟩ := numeral_plain n s numeral
  exact tokens_one s solid plain some

theorem tokens_pieces (s : List Char) : tokens s = [[',']].intercalate ((pieces (· == ',') s).map tokens) := by
  induction s using pieces_induction (· == ',') with
  | whole s clear => rw [pieces_whole _ s clear, List.map_singleton, List.intercalate_singleton]
  | divided a c b clear comma ih =>
      obtain rfl := beq_iff_eq.mp comma
      rw [tokens_mark a b ',' rfl, pieces_append _ a b ',' rfl, pieces_whole _ a clear, ih]
      cases others : pieces (· == ',') b with
      | nil => exact absurd others (pieces_ne_nil _ b)
      | cons piece more =>
          rw [List.map_append, List.map_singleton, List.singleton_append, List.map_cons, List.intercalate_cons_cons]
          simp

theorem intersperse_intercalate {α : Type} (separator : α) (items : List α) :
    items.intersperse separator = [separator].intercalate (items.map ([·])) := by
  induction items with
  | nil => rfl
  | cons a rest ih =>
      cases rest with
      | nil => rfl
      | cons b others =>
          rw [List.intersperse_cons_cons, ih]
          simp [List.intercalate_cons_cons]

theorem fields_tokens (fields : List (List Char)) (numbers : List Nat)
    (each : List.Forall₂ (fun field n => IsNumeral n (trim field)) fields numbers) :
    fields.map tokens = (fields.map trim).map ([·]) := by
  induction each with
  | nil => rfl
  | cons numeral _ ih =>
      rw [List.map_cons, ih, ← tokens_trim, numeral_tokens _ _ numeral]
      rfl

theorem numbers_tokens (s : List Char) (numbers : List Nat) (read : readNumbers s = some numbers) :
    numbers ≠ [] ∧ ∃ numerals, List.Forall₂ IsNumeral numbers numerals ∧
      tokens s = numerals.intersperse [','] := by
  rw [readNumbers, map_all_some_iff] at read
  have each := read.imp fun field n found => ((read_numeral_iff u32Bound n (trim field)).mp found).1
  refine ⟨?_, (pieces (· == ',') s).map trim, List.forall₂_map_right_iff.mpr each.flip, ?_⟩
  · rintro rfl
    exact pieces_ne_nil _ s (List.forall₂_nil_right_iff.mp read)
  · rw [tokens_pieces, intersperse_intercalate, fields_tokens _ numbers each]

theorem tokens_parens (s : List Char) (closing : Nat) :
    tokens (s ++ List.replicate closing ')') = tokens s ++ List.replicate closing [')'] := by
  induction closing generalizing s with
  | zero => simp
  | succ n ih =>
      rw [List.replicate_succ, tokens_mark s _ ')' rfl]
      exact congrArg (tokens s ++ [')'] :: ·) (ih [])

theorem parens_dropped (s : List Char) :
    ∃ closing, s = dropWhileEnd (· == ')') s ++ List.replicate closing ')' := by
  obtain ⟨trail, same, parens⟩ := drop_end_cut (· == ')') s
  refine ⟨trail.length, ?_⟩
  rwa [← List.eq_replicate_iff.mpr ⟨rfl, fun c member => beq_iff_eq.mp (parens c member)⟩]

theorem parts_tokens (u name : List Char) (numbers : List Nat) (divided : parts u = (name, some numbers)) :
    tokens u = tokens name ∧ numbers = [] ∨
      numbers ≠ [] ∧ ∃ numerals closing, List.Forall₂ IsNumeral numbers numerals ∧
        tokens u = tokens name ++ ['('] :: (numerals.intersperse [','] ++ List.replicate closing [')']) := by
  rw [parts] at divided
  split at divided
  · obtain ⟨rfl, same⟩ := Prod.mk.inj divided
    exact .inl ⟨rfl, (Option.some.inj same).symm⟩
  · next front params found =>
      obtain ⟨rfl, read⟩ := Prod.mk.inj divided
      obtain ⟨rfl, -⟩ := (split_first_some '(' u front params).mp found
      obtain ⟨some, numerals, each, fields⟩ := numbers_tokens _ numbers read
      obtain ⟨closing, closed⟩ := parens_dropped params
      refine .inr ⟨some, numerals, closing, each, ?_⟩
      rw [tokens_mark front params '(' rfl, tokens_trim, closed, tokens_parens, fields]

theorem family_denotes (family : Family) (numbers : List Nat) (type : ColumnType) (text : List (List Char))
    (means : ofFamily? family numbers = some type)
    (spelled : text ∈ family.names ∧ numbers = [] ∨ ∃ closing, Sized family numbers closing text) :
    Denotes text type := by
  have bare (none : numbers = []) : text ∈ family.names := by
    rcases spelled with ⟨named, -⟩ | ⟨_, _, _, _, _, some, _⟩
    · exact named
    · exact absurd none some
  have sized (some : numbers ≠ []) : ∃ closing, Sized family numbers closing text :=
    spelled.resolve_left fun bare => some bare.2
  rw [ofFamily?.eq_def] at means
  split at means <;> cases means
  · exact .varchar (bare rfl)
  · obtain ⟨closing, fits⟩ := sized (by simp)
    exact .varcharOf _ closing fits
  · exact .text (bare rfl)
  · exact .numeric (bare rfl)
  · obtain ⟨closing, fits⟩ := sized (by simp)
    exact .numericOf _ closing fits
  · obtain ⟨closing, fits⟩ := sized (by simp)
    exact .numericScaled _ _ closing fits
  · exact .varbit (bare rfl)
  · obtain ⟨closing, fits⟩ := sized (by simp)
    exact .varbitOf _ closing fits

theorem parse_cases (raw : String) : parse raw = .other (normalize raw.toList) ∨
    ∃ name family numbers, parts (normalize raw.toList) = (name, some numbers) ∧
      Family.ofName? name = some family ∧ ofFamily? family numbers = some (parse raw) := by
  rw [parse]
  rcases divided : parts (normalize raw.toList) with ⟨name, _ | numbers⟩
  · exact .inl rfl
  · dsimp only
    cases named : Family.ofName? name with
    | none => exact .inl rfl
    | some family =>
        cases means : ofFamily? family numbers with
        | none => exact .inl (by rw [Option.bind_some, means]; rfl)
        | some type => exact .inr ⟨name, family, numbers, rfl, named, by rw [Option.bind_some, means]; rfl⟩

theorem parse_denotes (raw : String) :
    parse raw = .other (normalize raw.toList) ∨ Denotes (tokens (lower raw.toList)) (parse raw) := by
  rcases parse_cases raw with other | ⟨text, family, numbers, divided, named, means⟩
  · exact .inl other
  · obtain ⟨name, member, rfl⟩ := name_known text family named
    have same := name_tokens family name member
    refine .inr (family_denotes family numbers _ _ means ?_)
    rw [← tokens_normalize]
    rcases parts_tokens _ _ numbers divided with ⟨bare, none⟩ | ⟨some, numerals, closing, each, sized⟩
    · rw [bare, same]
      exact .inl ⟨member, none⟩
    · rw [same] at sized
      exact .inr ⟨closing, name, member, numerals, each, some, sized⟩

end OnlineDdl.ColumnType
