import OnlineDdl.Schema.Ddl
import OnlineDdl.Proofs.Text.Quoted
import Mathlib.Data.List.Basic

/-! Quoted names and values read back by the rules of SQL, out of whatever follows them: one name, a literal,
a list of columns, and a table that is named inside a literal. -/

set_option autoImplicit false

namespace OnlineDdl

open Text

theorem scan_quoted_shortens (quote : Char) (s name rest : List Char)
    (read : scanQuoted quote s = some (name, rest)) : rest.length < s.length := by
  rw [((scan_quoted_iff quote s name rest).mp read).1, enclose, List.length_append, List.length_cons]
  omega

def scanNames (s : List Char) : Option (List String × List Char) :=
  match _read : scanQuoted '"' s with
  | none => none
  | some (name, rest) =>
    match _goesOn : [',', ' '].isPrefixOf? rest with
    | none => some ([String.ofList name], rest)
    | some more => (scanNames more).map fun (names, after) => (String.ofList name :: names, after)
termination_by s.length
decreasing_by
  have shorter := scan_quoted_shortens '"' s name rest _read
  rw [← List.isPrefixOf?_eq_some_iff_append_eq.mp _goesOn, List.length_append] at shorter
  omega

def scanColumns (s : List Char) : Option (List String × List Char) :=
  if s.head? = some '"' then scanNames s else some ([], s)

theorem quote_ident_scanned_iff (name : String) (rest : List Char) :
    scanQuoted '"' ((quoteIdent name).toList ++ rest) = some (name.toList, rest) ↔ rest.head? ≠ some '"' := by
  rw [quoteIdent, String.toList_ofList]
  simp [scan_quoted_iff]

theorem quote_literal_scanned_iff (value : String) (rest : List Char) :
    scanQuoted '\'' ((quoteLiteral value).toList ++ rest) = some (value.toList, rest) ↔ rest.head? ≠ some '\'' := by
  rw [quoteLiteral, String.toList_ofList]
  simp [scan_quoted_iff]

theorem scan_names_found (s name rest : List Char) (read : scanQuoted '"' s = some (name, rest)) :
    scanNames s =
      match [',', ' '].isPrefixOf? rest with
      | none => some ([String.ofList name], rest)
      | some more => (scanNames more).map fun (names, after) => (String.ofList name :: names, after) := by
  rw [scanNames]
  split
  · next absent => cases read.symm.trans absent
  · next found =>
      cases read.symm.trans found
      split
      · next closes => rw [closes]
      · next goesOn => rw [goesOn]

theorem scan_names_head (s : List Char) (names : List String) (rest : List Char)
    (read : scanNames s = some (names, rest)) :
    ∃ name others after, names = String.ofList name :: others ∧ scanQuoted '"' s = some (name, after) := by
  cases found : scanQuoted '"' s with
  | none =>
      rw [scanNames] at read
      split at read
      · cases read
      · next other => cases found.symm.trans other
  | some first =>
      obtain ⟨name, after⟩ := first
      rw [scan_names_found s name after found] at read
      split at read
      · cases read
        exact ⟨name, [], _, rfl, rfl⟩
      · obtain ⟨⟨others, behind⟩, -, same⟩ := Option.map_eq_some_iff.mp read
        cases same
        exact ⟨name, others, _, rfl, rfl⟩

theorem scan_names_next (name : String) (more : List Char) :
    scanNames ((quoteIdent name).toList ++ ',' :: ' ' :: more) =
      (scanNames more).map fun (names, after) => (name :: names, after) := by
  have read := (quote_ident_scanned_iff name (',' :: ' ' :: more)).mpr (by simp)
  rw [scan_names_found _ _ _ read, String.ofList_toList]
  rfl

theorem scan_names_last (name : String) (rest : List Char) (ends : rest.head? ≠ some '"')
    (closes : ¬ [',', ' '] <+: rest) : scanNames ((quoteIdent name).toList ++ rest) = some ([name], rest) := by
  rw [scan_names_found _ _ _ ((quote_ident_scanned_iff name rest).mpr ends), String.ofList_toList]
  split
  · rfl
  · next more goesOn => exact absurd ⟨more, List.isPrefixOf?_eq_some_iff_append_eq.mp goesOn⟩ closes

theorem scan_names_one_iff (name : String) (rest : List Char) :
    scanNames ((quoteIdent name).toList ++ rest) = some ([name], rest) ↔
      rest.head? ≠ some '"' ∧ ¬ [',', ' '] <+: rest := by
  refine ⟨fun read => ⟨fun begins => ?_, fun goesOn => ?_⟩, fun ⟨ends, closes⟩ => scan_names_last name rest ends closes⟩
  · obtain ⟨later, rfl⟩ := List.head?_eq_some_iff.mp begins
    obtain ⟨first, others, after, same, found⟩ := scan_names_head _ _ _ read
    cases same
    rw [quoteIdent, String.toList_ofList, String.toList_ofList, scan_quoted_iff] at found
    exact found.2 (by rw [← List.append_cancel_left found.1]; rfl)
  · obtain ⟨more, rfl⟩ := goesOn
    rw [List.cons_append, List.cons_append, List.nil_append, scan_names_next, Option.map_eq_some_iff] at read
    obtain ⟨⟨names, after⟩, found, same⟩ := read
    obtain ⟨first, others, behind, filled, -⟩ := scan_names_head more names after found
    rw [filled] at same
    cases same

theorem quote_columns_next (column next : String) (others : List String) (rest : List Char) :
    (quoteColumns (column :: next :: others)).toList ++ rest =
      (quoteIdent column).toList ++ ',' :: ' ' :: ((quoteColumns (next :: others)).toList ++ rest) := by
  simp [quoteColumns, commaSeparated, String.intercalate_cons_cons]

theorem quote_columns_one (column : String) : quoteColumns [column] = quoteIdent column :=
  String.intercalate_singleton (s := ", ")

theorem scan_names_iff (column : String) (others : List String) (rest : List Char) :
    scanNames ((quoteColumns (column :: others)).toList ++ rest) = some (column :: others, rest) ↔
      rest.head? ≠ some '"' ∧ ¬ [',', ' '] <+: rest := by
  induction others generalizing column with
  | nil =>
      rw [quote_columns_one]
      exact scan_names_one_iff column rest
  | cons next later ih =>
      rw [quote_columns_next, scan_names_next, Option.map_eq_some_iff, ← ih next]
      constructor
      · rintro ⟨⟨names, after⟩, found, same⟩
        cases same
        exact found
      · intro found
        exact ⟨_, found, rfl⟩

theorem quote_columns_begins (column : String) (others : List String) (rest : List Char) :
    ((quoteColumns (column :: others)).toList ++ rest).head? = some '"' := by
  cases others with
  | nil => simp [quote_columns_one, quoteIdent, enclose]
  | cons next later => simp [quote_columns_next, quoteIdent, enclose]

theorem quote_columns_scanned_iff (columns : List String) (rest : List Char) :
    scanColumns ((quoteColumns columns).toList ++ rest) = some (columns, rest) ↔
      rest.head? ≠ some '"' ∧ (columns = [] ∨ ¬ [',', ' '] <+: rest) := by
  cases columns with
  | nil =>
      have empty : (quoteColumns []).toList ++ rest = rest := rfl
      rw [empty, scanColumns]
      split
      · next begins =>
          refine iff_of_false (fun read => ?_) fun ends => ends.1 begins
          obtain ⟨first, others, after, same, -⟩ := scan_names_head rest [] rest read
          cases same
      · next ends => exact iff_of_true rfl ⟨ends, .inl rfl⟩
  | cons column others =>
      rw [scanColumns, if_pos (quote_columns_begins column others rest), scan_names_iff]
      simp

theorem quote_columns_injective : Function.Injective quoteColumns := by
  intro columns others same
  have read (list : List String) : scanColumns (quoteColumns list).toList = some (list, []) := by
    have scanned := (quote_columns_scanned_iff list []).mpr (by simp)
    rwa [List.append_nil] at scanned
  exact congrArg Prod.fst (Option.some.inj ((read columns).symm.trans (same ▸ read others)))

-- What follows decides: a quoted text is read back, and what follows is left, exactly where that does not
-- begin with another such quote. In the update of the system catalog a quoted name stands inside a literal.
theorem quoted_text_scanned_iff (name value : String) (columns : List String) (rest : List Char) :
    (scanQuoted '"' ((quoteIdent name).toList ++ rest) = some (name.toList, rest) ↔ rest.head? ≠ some '"') ∧
      (scanQuoted '\'' ((quoteLiteral value).toList ++ rest) = some (value.toList, rest) ↔
        rest.head? ≠ some '\'') ∧
      (scanColumns ((quoteColumns columns).toList ++ rest) = some (columns, rest) ↔
        rest.head? ≠ some '"' ∧ (columns = [] ∨ ¬ [',', ' '] <+: rest)) ∧
      Function.Injective quoteColumns ∧
      ∀ table column, ∃ first second,
        (Ddl.markNotNull table column).sql.toList =
          "UPDATE pg_catalog.pg_attribute SET attnotnull = TRUE WHERE attrelid = ".toList ++ first ∧
        scanQuoted '\'' first =
          some ((quoteIdent table).toList, "::regclass::oid AND attname = ".toList ++ second) ∧
        scanQuoted '"' (quoteIdent table).toList = some (table.toList, []) ∧
        scanQuoted '\'' second = some (column.toList, [';']) := by
  refine ⟨quote_ident_scanned_iff name rest, quote_literal_scanned_iff value rest,
    quote_columns_scanned_iff columns rest, quote_columns_injective, fun table column => ?_⟩
  obtain ⟨second, update⟩ : ∃ second, second = (quoteLiteral column).toList ++ [';'] := ⟨_, rfl⟩
  refine ⟨(quoteLiteral (quoteIdent table)).toList ++ ("::regclass::oid AND attname = ".toList ++ second), second,
    ?_, ?_, ?_, ?_⟩
  · have joined (lead literal middle other : String) : (lead ++ literal ++ middle ++ other ++ ";").toList =
        lead.toList ++ (literal.toList ++ (middle.toList ++ (other.toList ++ [';']))) := by simp
    rw [update]
    exact joined _ _ _ _
  · exact (quote_literal_scanned_iff (quoteIdent table) _).mpr (by simp)
  · have whole := (quote_ident_scanned_iff table []).mpr (by simp)
    rwa [List.append_nil] at whole
  · rw [update]
    exact (quote_literal_scanned_iff column [';']).mpr (by simp)

end OnlineDdl
