import OnlineDdl.Proofs.Schema.ColumnType

/-! How spellings are read. Whatever the blanks between its tokens and whatever the case of its letters, a
spelling of a type with parameters is read as the type that it spells. -/

set_option autoImplicit false

namespace OnlineDdl.ColumnType

open Text

theorem close_parens_spaced (c : Char) (s : List Char) (spaced : Spaced (c :: s)) :
    Spaced (c :: closeParens s) := by
  induction s using closeParens.induct generalizing c with
  | case1 rest ih =>
      rw [closeParens]
      have dark : isBlank c = false := by
        cases blank : isBlank c with
        | false => rfl
        | true => exact spaced.1 blank |>.2
      exact spaced_dark c _ dark (ih '(' spaced.2.2)
  | case2 d rest other ih =>
      rw [closeParens]
      · exact ⟨spaced.1, ih d spaced.2⟩
      · exact other
  | case3 => exact spaced

theorem close_commas_spaced (c : Char) (s : List Char) (spaced : Spaced (c :: s)) :
    Spaced (c :: closeCommas s) := by
  induction s using closeCommas.induct generalizing c with
  | case1 rest ih =>
      rw [closeCommas]
      refine ⟨spaced.1, ih ',' (spaced_dark ',' rest rfl ?_)⟩
      exact spaced_next ' ' rest spaced.2.2
  | case2 d rest other ih =>
      rw [closeCommas]
      · exact ⟨spaced.1, ih d spaced.2⟩
      · exact other
  | case3 => exact spaced

-- A character before the text holds its place, so that the text itself may begin with what is closed up.
theorem normalize_spaced (raw : List Char) : Spaced (normalize raw) := by
  rw [normalize_lower]
  have closed := close_parens_spaced '.' _ (spaced_dark '.' _ rfl (tidy_spaced (lower raw)))
  exact spaced_next '.' _ (close_commas_spaced '.' _ closed)

theorem name_plain (family : Family) (name : List (List Char)) (known : name ∈ family.names) (m : Char)
    (mark : isMark m = true) : [m] ∉ name := by
  have each : ∀ name ∈ family.names, ['('] ∉ name ∧ [')'] ∉ name ∧ [','] ∉ name := by
    cases family <;> decide
  obtain ⟨opening, closing, comma⟩ := each name known
  rcases mark_cases m mark with rfl | rfl | rfl
  · exact opening
  · exact closing
  · exact comma

theorem name_family (family : Family) :
    ∀ name ∈ family.names, Family.ofName? (joinWith [' '] name) = some family := by
  cases family <;> decide

theorem numerals_plain (numbers : List Nat) (numerals : List (List Char))
    (each : List.Forall₂ IsNumeral numbers numerals) (m : Char) (mark : isMark m = true) : [m] ∉ numerals := by
  induction each with
  | nil => exact List.not_mem_nil
  | @cons n s _ _ numeral _ ih =>
      refine List.mem_cons.not.mpr (not_or.mpr ⟨?_, ih⟩)
      rintro rfl
      exact mark_absent _ m mark (numeral_plain n _ numeral).2.2 (List.mem_singleton_self m)

theorem intersperse_member {α : Type} (separator a : α) (items : List α)
    (member : a ∈ items.intersperse separator) : a = separator ∨ a ∈ items := by
  induction items with
  | nil => cases member
  | cons b rest ih =>
      cases rest with
      | nil => exact .inr member
      | cons c others =>
          rw [List.intersperse_cons_cons] at member
          rcases List.mem_cons.mp member with rfl | later
          · exact .inr List.mem_cons_self
          · rcases List.mem_cons.mp later with rfl | further
            · exact .inl rfl
            · exact (ih further).imp_right (List.mem_cons_of_mem b)

theorem fields_plain (numbers : List Nat) (numerals : List (List Char))
    (each : List.Forall₂ IsNumeral numbers numerals) (m : Char) (mark : isMark m = true) (other : m ≠ ',') :
    [m] ∉ numerals.intersperse [','] := by
  intro member
  rcases intersperse_member _ _ _ member with comma | inside
  · exact other (List.cons.inj comma).1
  · exact numerals_plain numbers numerals each m mark inside

theorem fields_each (fields numerals : List (List Char)) (numbers : List Nat)
    (each : List.Forall₂ IsNumeral numbers numerals) (bounded : ∀ n ∈ numbers, n < u32Bound)
    (same : fields.map tokens = numerals.map ([·])) :
    List.Forall₂ (fun field n => readNumeral u32Bound (trim field) = some n) fields numbers := by
  induction each generalizing fields with
  | nil =>
      obtain rfl := List.map_eq_nil_iff.mp same
      exact .nil
  | @cons n s ns rest numeral _ ih =>
      obtain ⟨field, others, rfl, one, later⟩ := List.map_eq_cons_iff.mp same
      obtain ⟨-, solid, plain⟩ := numeral_plain n s numeral
      refine .cons ?_ (ih others (fun m member => bounded m (List.mem_cons_of_mem n member)) later)
      rw [trim_token field s solid plain one]
      exact (read_numeral_iff u32Bound n s).mpr ⟨numeral, bounded n List.mem_cons_self⟩

theorem numerals_read (inner : List Char) (numbers : List Nat) (numerals : List (List Char))
    (each : List.Forall₂ IsNumeral numbers numerals) (filled : numbers ≠ [])
    (bounded : ∀ n ∈ numbers, n < u32Bound) (fields : tokens inner = numerals.intersperse [',']) :
    readNumbers inner = some numbers := by
  rw [readNumbers, map_all_some_iff]
  refine fields_each _ numerals numbers each bounded ?_
  have whole : ∀ field ∈ (pieces (· == ',') inner).map tokens, [','] ∉ field := by
    intro field member comma
    obtain ⟨piece, inside, rfl⟩ := List.mem_map.mp member
    have clear := piece_clear _ inner piece inside ',' ((mark_token piece ',' rfl).mp comma)
    cases clear
  have apart : ∀ field ∈ numerals.map ([·]), [','] ∉ field := by
    intro field member comma
    obtain ⟨s, inside, rfl⟩ := List.mem_map.mp member
    obtain rfl := List.mem_singleton.mp comma
    exact numerals_plain numbers numerals each ',' rfl inside
  have split := List.splitOn_intercalate [','] whole (by simp [pieces_ne_nil])
  rw [← tokens_pieces, fields, intersperse_intercalate] at split
  rw [← split, List.splitOn_intercalate [','] apart]
  rintro none
  rw [List.map_eq_nil_iff.mp none] at each
  exact filled (List.forall₂_nil_right_iff.mp each)

theorem params_read (params : List Char) (numbers : List Nat) (numerals : List (List Char))
    (each : List.Forall₂ IsNumeral numbers numerals) (filled : numbers ≠ [])
    (bounded : ∀ n ∈ numbers, n < u32Bound) (spaced : Spaced params)
    (fields : tokens params = numerals.intersperse [','] ++ [[')']]) :
    readNumbers (dropWhileEnd (· == ')') params) = some numbers := by
  have member : ')' ∈ params := (mark_token params ')' rfl).mp (by simp [fields])
  obtain ⟨inner, tail, rfl, absent⟩ := List.eq_append_cons_of_mem member
  rw [tokens_mark inner tail ')' rfl] at fields
  obtain ⟨same, -, rests⟩ := (List.append_cons_inj_of_notMem
    (fields_plain numbers numerals each ')' rfl (by decide)) List.not_mem_nil).mp fields.symm
  -- The text would end with a blank.
  have ended : tail = [] := by
    rcases List.eq_nil_or_concat tail with none | ⟨front, c, rfl⟩
    · exact none
    · have last := spaced_ends _ (spaced_next ')' _ (spaced_rest inner _ spaced)) c (by simp)
      rw [no_tokens _ rests.symm c (by simp)] at last
      cases last
  have inside : ∀ c ∈ inner.getLast?, (c == ')') = false := by
    intro c last
    refine beq_false_of_ne ?_
    rintro rfl
    exact absent (List.mem_of_getLast? last)
  rw [ended, drop_end (· == ')') inner [')'] inside (by simp)]
  exact numerals_read inner numbers numerals each filled bounded same.symm

theorem parts_sized (raw : List Char) (family : Family) (numbers : List Nat)
    (bounded : ∀ n ∈ numbers, n < u32Bound) (sized : Sized family numbers 1 (tokens (lower raw))) :
    ∃ name, parts (normalize raw) = (name, some numbers) ∧ Family.ofName? name = some family := by
  obtain ⟨name, known, numerals, each, filled, spelled⟩ := sized
  rw [← tokens_normalize] at spelled
  have spaced := normalize_spaced raw
  have opened : '(' ∈ normalize raw := (mark_token _ '(' rfl).mp (by simp [spelled])
  obtain ⟨front, params, divided, absent⟩ := List.eq_append_cons_of_mem opened
  have found := (split_first_some '(' _ front params).mpr ⟨divided, absent⟩
  rw [divided] at spelled spaced
  rw [tokens_mark front params '(' rfl] at spelled
  have closed : ['('] ∉ numerals.intersperse [','] ++ [[')']] := by
    rw [List.mem_append, not_or]
    exact ⟨fields_plain numbers numerals each '(' rfl (by decide), by decide⟩
  obtain ⟨named, -, fields⟩ :=
    (List.append_cons_inj_of_notMem (name_plain family name known '(' rfl) closed).mp spelled.symm
  refine ⟨trim front, ?_, ?_⟩
  · have read := params_read params numbers numerals each filled bounded
      (spaced_next '(' params (spaced_rest front _ spaced)) fields.symm
    simp only [parts, found, read]
  · rw [tokens_words front (named ▸ name_plain family name known)] at named
    rw [trim_spaced front params '(' spaced, tidy, ← named]
    exact name_family family name known

theorem parse_sized (raw : String) (family : Family) (numbers : List Nat) (type : ColumnType)
    (means : ofFamily? family numbers = some type) (bounded : ∀ n ∈ numbers, n < u32Bound)
    (sized : Sized family numbers 1 (tokens (lower raw.toList))) : parse raw = type := by
  obtain ⟨name, read, named⟩ := parts_sized raw.toList family numbers bounded sized
  simp only [parse, read, named, Option.bind_some, means, Option.getD_some]

def Spells (family : Family) (numbers : List Nat) (raw : String) : Prop :=
  Sized family numbers 1 (tokens (raw.toList.map Char.toLower))

def IsTypeLetter (c : Char) : Prop := c.toNat < 128 ∧ c ≠ '"'

instance (c : Char) : Decidable (IsTypeLetter c) := inferInstanceAs (Decidable (_ ∧ _))

theorem digit_letter (c : Char) (digit : isDigit c = true) : IsTypeLetter c := by
  refine ⟨lt_of_le_of_lt (digit_code c digit).2 (by decide), ?_⟩
  rintro rfl
  cases digit

theorem numerals_letters (numbers : List Nat) (numerals : List (List Char))
    (each : List.Forall₂ IsNumeral numbers numerals) : ∀ s ∈ numerals, ∀ c ∈ s, IsTypeLetter c := by
  induction each with
  | nil => exact List.forall_mem_nil _
  | cons numeral _ ih =>
      obtain ⟨digits, rfl | rfl, -, all, -⟩ := numeral
      · exact List.forall_mem_cons.mpr ⟨fun c member => digit_letter c (all c member), ih⟩
      · refine List.forall_mem_cons.mpr ⟨List.forall_mem_cons.mpr ⟨by decide, fun c member => ?_⟩, ih⟩
        exact digit_letter c (all c member)

theorem name_letters (family : Family) (name : List (List Char)) (known : name ∈ family.names) :
    ∀ s ∈ name, ∀ c ∈ s, IsTypeLetter c := by
  have each : ∀ name ∈ family.names, ∀ s ∈ name, s.all (IsTypeLetter ·) = true := by cases family <;> decide
  intro s member c inside
  exact of_decide_eq_true (List.all_eq_true.mp (each name known s member) c inside)

theorem sized_letters (family : Family) (numbers : List Nat) (closing : Nat) (text : List (List Char))
    (sized : Sized family numbers closing text) : ∀ s ∈ text, ∀ c ∈ s, IsTypeLetter c := by
  obtain ⟨name, known, numerals, each, -, rfl⟩ := sized
  intro s member
  rcases List.mem_append.mp member with early | late
  · exact name_letters family name known s early
  · rcases List.mem_cons.mp late with rfl | later
    · exact List.forall_mem_singleton.mpr (by decide)
    · rcases List.mem_append.mp later with field | closes
      · rcases intersperse_member _ _ _ field with rfl | numeral
        · exact List.forall_mem_singleton.mpr (by decide)
        · exact numerals_letters numbers numerals each s numeral
      · rw [(List.mem_replicate.mp closes).2]
        exact List.forall_mem_singleton.mpr (by decide)

theorem denoting_letters (text : List (List Char)) (type : ColumnType) (denotes : Denotes text type) :
    ∀ s ∈ text, ∀ c ∈ s, IsTypeLetter c := by
  cases denotes with
  | varchar bare => exact name_letters .varchar text bare
  | text bare => exact name_letters .text text bare
  | numeric bare => exact name_letters .numeric text bare
  | varbit bare => exact name_letters .varbit text bare
  | varcharOf length closing sized => exact sized_letters .varchar _ closing text sized
  | numericOf precision closing sized => exact sized_letters .numeric _ closing text sized
  | numericScaled precision scale closing sized => exact sized_letters .numeric _ closing text sized
  | varbitOf length closing sized => exact sized_letters .varbit _ closing text sized

theorem spelled_lower (raw : String) (family : Family) (numbers : List Nat) (spells : Spells family numbers raw) :
    lower raw.toList = raw.toList.map Char.toLower := by
  refine lower_ascii _ fun c member => ?_
  cases blank : isBlank c.toLower with
  | true => exact .inr rfl
  | false =>
      have kept : c.toLower ∈ strip (raw.toList.map Char.toLower) :=
        List.mem_filter.mpr ⟨List.mem_map_of_mem member, by simp [blank]⟩
      rw [← tokens_flat] at kept
      obtain ⟨s, inside, found⟩ := List.mem_flatten.mp kept
      exact .inl (sized_letters family numbers 1 _ spells s inside _ found).1

theorem parse_spelled (raw : String) (family : Family) (numbers : List Nat) (type : ColumnType)
    (spells : Spells family numbers raw) (bounded : ∀ n ∈ numbers, n < u32Bound)
    (means : ofFamily? family numbers = some type) : parse raw = type := by
  refine parse_sized raw family numbers type means bounded ?_
  rw [spelled_lower raw family numbers spells]
  exact spells

end OnlineDdl.ColumnType
