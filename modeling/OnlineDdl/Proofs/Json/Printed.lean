import OnlineDdl.Json.Printer
import OnlineDdl.Json.Reader
import OnlineDdl.Proofs.Text.Decimal

/-! Printed JSON read back. -/

set_option autoImplicit false

namespace OnlineDdl.Json

open Text (isDigit digitsValue)

section Strings

theorem hex_digit_back (n : Nat) (below : n < 16) : Text.hexValue? (Text.hexDigit n) = some n := by
  revert n
  decide

theorem control_unit (n : Nat) (below : n < 0x20) :
    unit? '0' '0' (Text.hexDigit (n / 16)) (Text.hexDigit (n % 16)) = some n := by
  have zero : Text.hexValue? '0' = some 0 := by decide
  rw [unit?, zero, hex_digit_back (n / 16) (by omega), hex_digit_back (n % 16) (by omega)]
  exact congrArg some (by omega)

theorem control_char (c : Char) (below : c.toNat < 0x20) (rest : List Char) :
    afterUnit c.toNat rest = some (c, rest) := by
  have low : isLowUnit c.toNat = false := by rw [isLowUnit, decide_eq_false_iff_not]; omega
  have high : isHighUnit c.toNat = false := by rw [isHighUnit, decide_eq_false_iff_not]; omega
  rw [afterUnit.eq_def, low, high, if_neg Bool.false_ne_true, if_neg Bool.false_ne_true, Char.ofNat_toNat]

theorem read_escaped (c : Char) (fuel : Nat) (rest : List Char) :
    readText (fuel + 1) (escape c ++ rest) = push c (readText fuel rest) := by
  rw [escape]
  split
  · next same => subst same; rfl
  · next quote =>
    split
    · next same => subst same; rfl
    · next backslash =>
      split
      · next control =>
        change readText (fuel + 1)
          ('\\' :: 'u' :: '0' :: '0' :: Text.hexDigit (c.toNat / 16) :: Text.hexDigit (c.toNat % 16) :: rest) = _
        rw [readText, control_unit c.toNat control]
        dsimp only
        rw [control_char c control]
      · next printable =>
        rw [List.singleton_append, readText.eq_def]
        split <;> simp_all

theorem read_text_back (s : List Char) (fuel : Nat) (rest : List Char) (enough : s.length < fuel) :
    readText fuel (s.flatMap escape ++ '"' :: rest) = some (s, rest) := by
  induction s generalizing fuel with
  | nil =>
      obtain ⟨left, rfl⟩ := Nat.exists_eq_add_of_lt enough
      rfl
  | cons c s ih =>
      obtain ⟨left, rfl⟩ := Nat.exists_eq_add_of_lt enough
      rw [List.flatMap_cons, List.append_assoc, read_escaped, ih _ (by simp; omega)]
      rfl

end Strings

section Numbers

def Ends (rest : List Char) : Prop :=
  ∀ c ∈ rest.head?, isDigit c = false ∧ c ≠ '.' ∧ c ≠ 'e' ∧ c ≠ 'E'

theorem take_digits_back (digits rest : List Char) (filled : digits ≠ []) (all : ∀ c ∈ digits, isDigit c = true)
    (ends : ∀ c ∈ rest.head?, isDigit c = false) : takeDigits (digits ++ rest) = some (digits, rest) := by
  have taken : (digits ++ rest).takeWhile isDigit = digits := by
    rw [List.takeWhile_append_of_pos all]
    cases rest with
    | nil => simp
    | cons c rest => simp [ends c rfl]
  have left : (digits ++ rest).dropWhile isDigit = rest := by
    rw [List.dropWhile_append_of_pos all]
    cases rest with
    | nil => rfl
    | cons c rest => simp [ends c rfl]
  rw [takeDigits, taken, left]
  cases digits with
  | nil => exact absurd rfl filled
  | cons c digits => rfl

theorem leading_digit (n : Nat) (positive : 0 < n) : ∃ c more, Nat.toDigits 10 n = c :: more ∧ c ≠ '0' := by
  induction n using Nat.strong_induction_on with
  | _ n ih =>
      rcases Nat.lt_or_ge n 10 with small | large
      · have each : ∀ n < 10, 0 < n → Nat.digitChar n ≠ '0' := by decide
        exact ⟨Nat.digitChar n, [], Nat.toDigits_of_lt_base small, each n small positive⟩
      · obtain ⟨c, more, lead, differs⟩ :=
          ih (n / 10) (Nat.div_lt_self positive (by decide)) (Nat.div_pos large (by decide))
        refine ⟨c, more ++ [Nat.digitChar (n % 10)], ?_, differs⟩
        rw [Nat.toDigits_of_base_le (by decide) large, lead, List.cons_append]

theorem take_integer_back (n : Nat) (rest : List Char) (ends : ∀ c ∈ rest.head?, isDigit c = false) :
    takeInteger (n.repr.toList ++ rest) = some (n.repr.toList, rest) := by
  rcases Nat.eq_zero_or_pos n with rfl | positive
  · rfl
  · obtain ⟨c, more, lead, differs⟩ := leading_digit n positive
    have taken := take_digits_back n.repr.toList rest (Text.repr_filled n) (Text.repr_digits n) ends
    have spelled : n.repr.toList = c :: more := by rw [Nat.repr_eq_ofList_toDigits, String.toList_ofList, lead]
    rw [takeInteger.eq_def]
    split
    · next later same =>
        rw [spelled, List.cons_append] at same
        exact absurd (List.cons.inj same).1 differs
    · exact taken

theorem ends_digits (rest : List Char) (ends : Ends rest) : ∀ c ∈ rest.head?, isDigit c = false :=
  fun c head => (ends c head).1

theorem take_fraction_none (rest : List Char) (ends : ∀ c ∈ rest.head?, c ≠ '.') :
    takeFraction rest = some (none, rest) := by
  rw [takeFraction.eq_def]
  split
  · exact absurd rfl (ends '.' rfl)
  · rfl

theorem take_exponent_none (rest : List Char) (ends : Ends rest) : takeExponent rest = some (none, rest) := by
  cases rest with
  | nil => rfl
  | cons c rest =>
      obtain ⟨-, -, small, large⟩ := ends c rfl
      simp [takeExponent, small, large]

theorem repr_head (n : Nat) (rest : List Char) (c : Char) (other : isDigit c = false) :
    ∀ later, n.repr.toList ++ rest ≠ c :: later := by
  intro later same
  obtain ⟨d, more, spelled⟩ := List.exists_cons_of_ne_nil (Text.repr_filled n)
  have digit := Text.repr_digits n d (spelled ▸ List.mem_cons_self)
  rw [spelled, List.cons_append] at same
  rw [(List.cons.inj same).1, other] at digit
  cases digit

theorem take_exponent_back (e : Int) (rest : List Char) (ends : ∀ c ∈ rest.head?, isDigit c = false) :
    takeExponent ('e' :: ((toString e).toList ++ rest)) = some (some e, rest) := by
  have taken (n : Nat) := take_digits_back n.repr.toList rest (Text.repr_filled n) (Text.repr_digits n) ends
  cases e with
  | ofNat n =>
      have spelled : (toString (Int.ofNat n)).toList = n.repr.toList := rfl
      rw [spelled, takeExponent.eq_def]
      dsimp only
      rw [if_pos (by decide)]
      split
      · next later same => exact absurd same (repr_head n rest '-' rfl later)
      · next later same => exact absurd same (repr_head n rest '+' rfl later)
      · dsimp only
        rw [taken, Option.map_some, Text.repr_value, Int.one_mul]
        rfl
  | negSucc n =>
      have spelled : (toString (Int.negSucc n)).toList = '-' :: (n + 1).repr.toList := by simp [toString, Int.repr]
      have signed (s : List Char) : takeExponent ('e' :: '-' :: s) =
          (takeDigits s).map fun read => (some (-1 * (digitsValue 0 read.1 : Int)), read.2) := rfl
      rw [spelled, List.cons_append, signed, taken, Option.map_some, Text.repr_value, Int.neg_one_mul]
      rfl

theorem read_number_back (value : JsonNumber) (rest : List Char) (ends : Ends rest) :
    readNumber ((printNumber value).toList ++ rest) = some (value, rest) := by
  cases value with
  | natural n =>
      have spelled : (printNumber (.natural n)).toList = n.repr.toList := rfl
      rw [spelled, readNumber.eq_def]
      dsimp only
      split
      · next later same => exact absurd same (repr_head n rest '-' rfl later)
      · simp only [take_integer_back n rest (ends_digits rest ends), take_fraction_none rest fun c head => (ends c head).2.1,
          take_exponent_none rest ends, Option.bind_eq_bind, Option.bind_some, Text.repr_value]
  | scientific negative mantissa exponent =>
      obtain ⟨later, behind⟩ : ∃ later, later = 'e' :: ((toString exponent).toList ++ rest) := ⟨_, rfl⟩
      have raised : takeExponent later = some (some exponent, rest) :=
        behind ▸ take_exponent_back exponent rest (ends_digits rest ends)
      have integer : takeInteger (mantissa.repr.toList ++ later) = some (mantissa.repr.toList, later) :=
        take_integer_back mantissa later (by simp [behind, isDigit])
      have whole : takeFraction later = some (none, later) := take_fraction_none later (by simp [behind])
      have spelled : (printNumber (.scientific negative mantissa exponent)).toList ++ rest =
          (if negative then ['-'] else []) ++ (mantissa.repr.toList ++ later) := by
        rw [behind]
        cases negative <;> simp [printNumber, toString]
      rw [spelled, readNumber.eq_def]
      cases negative with
      | true =>
          rw [if_pos rfl, List.singleton_append]
          simp only [integer, whole, raised, Option.bind_eq_bind, Option.bind_some, Option.getD_none, List.append_nil,
            Text.repr_value]
          simp
      | false =>
          rw [if_neg Bool.false_ne_true, List.nil_append]
          dsimp only
          split
          · next later same => exact absurd same (repr_head mantissa _ '-' rfl later)
          · simp only [integer, whole, raised, Option.bind_eq_bind, Option.bind_some, Option.getD_none, List.append_nil,
              Text.repr_value]
            simp

end Numbers

section Steps

theorem skip_none (c : Char) (rest : List Char) (solid : isSpace c = false) : skipSpace (c :: rest) = c :: rest := by
  rw [skipSpace, List.dropWhile_cons, if_neg (by rw [solid]; exact Bool.false_ne_true)]

theorem read_string (fuel : Nat) (s : List Char) :
    readValue (fuel + 1) ('"' :: s) =
      (readText fuel s).map fun read => (.string (String.ofList read.1), read.2) := rfl

def afterBracket (fuel : Nat) : List Char → Option (Json × List Char)
  | ']' :: rest => some (.array [], rest)
  | items => (readItems fuel items).map fun read => (.array read.1, read.2)

theorem read_array (fuel : Nat) (c : Char) (s : List Char) (solid : isSpace c = false) (opens : c ≠ ']') :
    readValue (fuel + 1) ('[' :: c :: s) = (readItems fuel (c :: s)).map fun read => (.array read.1, read.2) := by
  have opened (s : List Char) : readValue (fuel + 1) ('[' :: s) = afterBracket fuel (skipSpace s) := rfl
  rw [opened, skip_none c s solid, afterBracket]
  intro rest same
  exact opens (List.cons.inj same).1

theorem read_object (fuel : Nat) (s : List Char) :
    readValue (fuel + 1) ('{' :: '"' :: s) = (readFields fuel ('"' :: s)).map fun read => (.object read.1, read.2) :=
  rfl

theorem numeric_apart (c d : Char) (numeric : isDigit c = true ∨ c = '-') (other : isDigit d = false)
    (differs : d ≠ '-') : c ≠ d := by
  rintro rfl
  exact numeric.elim (fun digit => Bool.false_ne_true (other.symm.trans digit)) differs

theorem numeric_solid (c : Char) (numeric : isDigit c = true ∨ c = '-') : isSpace c = false := by
  have apart := numeric_apart c
  simp [isSpace, apart ' ' numeric, apart '\t' numeric, apart '\n' numeric, apart '\r' numeric, isDigit]

theorem read_number (fuel : Nat) (c : Char) (s : List Char) (numeric : isDigit c = true ∨ c = '-') :
    readValue (fuel + 1) (c :: s) = (readNumber (c :: s)).map fun read => (.number read.1, read.2) := by
  have apart (d : Char) := numeric_apart c d numeric
  rw [readValue, skip_none c s (numeric_solid c numeric)]
  split
  · next same => exact absurd (List.cons.inj same).1 (apart '{' rfl (by decide))
  · next same => exact absurd (List.cons.inj same).1 (apart '[' rfl (by decide))
  · next same => exact absurd (List.cons.inj same).1 (apart '"' rfl (by decide))
  · next same => exact absurd (List.cons.inj same).1 (apart 't' rfl (by decide))
  · next same => exact absurd (List.cons.inj same).1 (apart 'f' rfl (by decide))
  · next same => exact absurd (List.cons.inj same).1 (apart 'n' rfl (by decide))
  · rfl

theorem read_items_last (fuel : Nat) (item : Json) (s rest : List Char)
    (read : readValue fuel s = some (item, ']' :: rest)) : readItems (fuel + 1) s = some ([item], rest) := by
  rw [readItems, read]
  rfl

theorem read_items_next (fuel : Nat) (item : Json) (s more : List Char)
    (read : readValue fuel s = some (item, ',' :: more)) :
    readItems (fuel + 1) s = (readItems fuel more).map fun read => (item :: read.1, read.2) := by
  rw [readItems, read]
  rfl

def afterValue (fuel : Nat) (key : List Char) : Option (Json × List Char) → Option (Fields × List Char)
  | none => none
  | some (value, rest) =>
    match skipSpace rest with
    | ',' :: rest => (readFields fuel rest).map fun read => ((String.ofList key, value) :: read.1, read.2)
    | '}' :: rest => some ([(String.ofList key, value)], rest)
    | _ => none

def afterKey (fuel : Nat) : Option (List Char × List Char) → Option (Fields × List Char)
  | none => none
  | some (key, rest) =>
    match skipSpace rest with
    | ':' :: rest => afterValue fuel key (readValue fuel rest)
    | _ => none

theorem read_field (fuel : Nat) (key : List Char) (s t : List Char) (named : readText fuel s = some (key, ':' :: t)) :
    readFields (fuel + 1) ('"' :: s) = afterValue fuel key (readValue fuel t) := by
  have opened : readFields (fuel + 1) ('"' :: s) = afterKey fuel (readText fuel s) := rfl
  rw [opened, named]
  rfl

end Steps

def itemsText (items : List Json) : List Char := (",".intercalate (printItems items)).toList

def fieldsText (fields : Fields) : List Char := (",".intercalate (printFields fields)).toList

theorem items_text_one (item : Json) : itemsText [item] = (print item).toList := by
  rw [itemsText, printItems, printItems, String.intercalate_singleton]

theorem items_text_next (item next : Json) (rest : List Json) :
    itemsText (item :: next :: rest) = (print item).toList ++ ',' :: itemsText (next :: rest) := by
  simp [itemsText, printItems, String.intercalate_cons_cons]

def fieldText (key : String) (value : Json) : List Char :=
  '"' :: (key.toList.flatMap escape ++ '"' :: ':' :: (print value).toList)

theorem fields_text_one (key : String) (value : Json) : fieldsText [(key, value)] = fieldText key value := by
  simp [fieldsText, fieldText, printFields, printString]

theorem fields_text_next (key : String) (value : Json) (next : String × Json) (rest : Fields) :
    fieldsText ((key, value) :: next :: rest) = fieldText key value ++ ',' :: fieldsText (next :: rest) := by
  simp [fieldsText, fieldText, printFields, printString, String.intercalate_cons_cons]

theorem array_text (items : List Json) : (print (.array items)).toList = '[' :: (itemsText items ++ [']']) := by
  simp [print, itemsText]

theorem object_text (fields : Fields) : (print (.object fields)).toList = '{' :: (fieldsText fields ++ ['}']) := by
  simp [print, fieldsText]

theorem string_text (s : String) : (print (.string s)).toList = '"' :: (s.toList.flatMap escape ++ ['"']) := by
  simp [print, printString]

theorem number_text (value : JsonNumber) :
    ∃ c more, (printNumber value).toList = c :: more ∧ (isDigit c = true ∨ c = '-') := by
  have digits (n : Nat) (rest : List Char) :
      ∃ c more, n.repr.toList ++ rest = c :: more ∧ (isDigit c = true ∨ c = '-') := by
    obtain ⟨c, more, spelled⟩ := List.exists_cons_of_ne_nil (Text.repr_filled n)
    exact ⟨c, more ++ rest, by rw [spelled, List.cons_append],
      .inl (Text.repr_digits n c (spelled ▸ List.mem_cons_self))⟩
  cases value with
  | natural n =>
      have whole := digits n []
      rwa [List.append_nil] at whole
  | scientific negative mantissa exponent =>
      cases negative with
      | true => exact ⟨'-', _, by simp [printNumber, toString]; rfl, .inr rfl⟩
      | false => simpa [printNumber, toString] using digits mantissa ('e' :: (toString exponent).toList)

theorem text_begins (j : Json) :
    ∃ c more, (print j).toList = c :: more ∧ isSpace c = false ∧ c ≠ ']' := by
  cases j with
  | null => exact ⟨'n', _, rfl, rfl, by decide⟩
  | bool value => cases value <;> exact ⟨_, _, rfl, rfl, by decide⟩
  | number value =>
      obtain ⟨c, more, spelled, numeric⟩ := number_text value
      exact ⟨c, more, spelled, numeric_solid c numeric, numeric_apart c ']' numeric rfl (by decide)⟩
  | string s => exact ⟨'"', _, string_text s, rfl, by decide⟩
  | array items => exact ⟨'[', _, array_text items, rfl, by decide⟩
  | object fields => exact ⟨'{', _, object_text fields, rfl, by decide⟩

theorem text_shorter (key : List Char) : key.length ≤ (key.flatMap escape).length := by
  induction key with
  | nil => exact Nat.le_refl 0
  | cons c rest ih =>
      have one : 0 < (escape c).length := by
        rw [escape]
        split
        · exact Nat.succ_pos _
        · split
          · exact Nat.succ_pos _
          · split <;> exact Nat.succ_pos _
      rw [List.flatMap_cons, List.length_append, List.length_cons]
      omega

theorem ends_apart (c : Char) (rest : List Char) (other : isDigit c = false) (stops : c ≠ '.' ∧ c ≠ 'e' ∧ c ≠ 'E') :
    Ends (c :: rest) := by
  rintro d head
  obtain rfl := Option.some.inj head
  exact ⟨other, stops⟩

-- Two steps for each character are enough to read a value where it stands.
def ReadsBack (j : Json) : Prop :=
  ∀ fuel rest, 2 * (print j).toList.length ≤ fuel → Ends rest → readValue fuel ((print j).toList ++ rest) = some (j, rest)

theorem first_step (j : Json) (fuel : Nat) (enough : 2 * (print j).toList.length ≤ fuel) : ∃ left, fuel = left + 1 := by
  obtain ⟨c, more, spelled, -, -⟩ := text_begins j
  rw [spelled, List.length_cons] at enough
  exact ⟨fuel - 1, by omega⟩

theorem number_back (value : JsonNumber) : ReadsBack (.number value) := by
  intro fuel rest enough ends
  obtain ⟨left, rfl⟩ := first_step _ fuel enough
  obtain ⟨c, more, spelled, numeric⟩ := number_text value
  have text : (print (.number value)).toList = c :: more := spelled
  have read := read_number_back value rest ends
  rw [spelled, List.cons_append] at read
  rw [text, List.cons_append, read_number left c _ numeric, read, Option.map_some]

theorem string_back (s : String) : ReadsBack (.string s) := by
  intro fuel rest enough ends
  obtain ⟨left, rfl⟩ := first_step _ fuel enough
  have short := text_shorter s.toList
  rw [string_text] at enough ⊢
  simp only [List.length_cons, List.length_append, List.length_nil] at enough
  rw [List.cons_append, List.append_assoc, List.singleton_append, read_string,
    read_text_back s.toList left rest (by omega), Option.map_some, String.ofList_toList]

theorem items_back (items : List Json) (each : ∀ item ∈ items, ReadsBack item) (fuel : Nat) (rest : List Char)
    (filled : items ≠ []) (enough : 2 * (itemsText items).length < fuel) :
    readItems fuel (itemsText items ++ ']' :: rest) = some (items, rest) := by
  induction items generalizing fuel with
  | nil => exact absurd rfl filled
  | cons item others ih =>
      obtain ⟨own, further⟩ := List.forall_mem_cons.mp each
      obtain ⟨left, rfl⟩ : ∃ left, fuel = left + 1 := ⟨fuel - 1, by omega⟩
      cases others with
      | nil =>
          rw [items_text_one] at enough ⊢
          exact read_items_last left item _ rest (own left _ (by omega) (ends_apart _ _ rfl (by decide)))
      | cons next later =>
          rw [items_text_next] at enough ⊢
          simp only [List.length_append, List.length_cons] at enough
          have first := own left (',' :: (itemsText (next :: later) ++ ']' :: rest)) (by omega)
            (ends_apart _ _ rfl (by decide))
          rw [List.append_assoc, List.cons_append, read_items_next left item _ _ first,
            ih further left (List.cons_ne_nil _ _) (by omega), Option.map_some]

theorem array_back (items : List Json) (each : ∀ item ∈ items, ReadsBack item) : ReadsBack (.array items) := by
  intro fuel rest enough ends
  obtain ⟨left, rfl⟩ := first_step _ fuel enough
  cases items with
  | nil => rfl
  | cons item others =>
      rw [array_text] at enough ⊢
      simp only [List.length_cons, List.length_append, List.length_nil] at enough
      have read := items_back (item :: others) each left rest (List.cons_ne_nil _ _) (by omega)
      have begins : ∃ c more, itemsText (item :: others) = c :: more ∧ isSpace c = false ∧ c ≠ ']' := by
        obtain ⟨c, more, spelled, apart⟩ := text_begins item
        cases others with
        | nil => exact ⟨c, more, by rw [items_text_one, spelled], apart⟩
        | cons next later => exact ⟨c, _, by rw [items_text_next, spelled, List.cons_append], apart⟩
      obtain ⟨c, more, spelled, solid, opens⟩ := begins
      rw [List.cons_append, List.append_assoc, List.singleton_append, spelled, List.cons_append,
        read_array left c _ solid opens, ← List.cons_append, ← spelled, read, Option.map_some]

theorem name_back (key : String) (value : Json) (fuel : Nat) (rest : List Char)
    (enough : 2 * (fieldText key value).length ≤ fuel) (ends : Ends rest) (own : ReadsBack value) :
    readFields (fuel + 1) (fieldText key value ++ rest) = afterValue fuel key.toList (some (value, rest)) := by
  have short := text_shorter key.toList
  simp only [fieldText, List.length_cons, List.length_append] at enough
  have named := read_text_back key.toList fuel (':' :: ((print value).toList ++ rest)) (by omega)
  have shape : fieldText key value ++ rest =
      '"' :: (key.toList.flatMap escape ++ '"' :: ':' :: ((print value).toList ++ rest)) := by
    simp [fieldText]
  rw [shape, read_field fuel key.toList _ _ named, own fuel rest (by omega) ends]

theorem fields_back (fields : Fields) (each : ∀ field ∈ fields, ReadsBack field.2) (fuel : Nat) (rest : List Char)
    (filled : fields ≠ []) (enough : 2 * (fieldsText fields).length < fuel) :
    readFields fuel (fieldsText fields ++ '}' :: rest) = some (fields, rest) := by
  induction fields generalizing fuel with
  | nil => exact absurd rfl filled
  | cons field others ih =>
      obtain ⟨key, value⟩ := field
      obtain ⟨own, further⟩ := List.forall_mem_cons.mp each
      obtain ⟨left, rfl⟩ : ∃ left, fuel = left + 1 := ⟨fuel - 1, by omega⟩
      cases others with
      | nil =>
          rw [fields_text_one] at enough ⊢
          rw [name_back key value left _ (by omega) (ends_apart _ _ rfl (by decide)) own]
          change some ([(String.ofList key.toList, value)], rest) = _
          rw [String.ofList_toList]
      | cons next later =>
          rw [fields_text_next] at enough ⊢
          simp only [List.length_append, List.length_cons] at enough
          rw [List.append_assoc, List.cons_append,
            name_back key value left _ (by omega) (ends_apart _ _ rfl (by decide)) own]
          change (readFields left _).map (fun read => ((String.ofList key.toList, value) :: read.1, read.2)) = _
          rw [ih further left (List.cons_ne_nil _ _) (by omega), Option.map_some, String.ofList_toList]

theorem object_back (fields : Fields) (each : ∀ field ∈ fields, ReadsBack field.2) : ReadsBack (.object fields) := by
  intro fuel rest enough ends
  obtain ⟨left, rfl⟩ := first_step _ fuel enough
  cases fields with
  | nil => rfl
  | cons field others =>
      rw [object_text] at enough ⊢
      simp only [List.length_cons, List.length_append, List.length_nil] at enough
      have read := fields_back (field :: others) each left rest (List.cons_ne_nil _ _) (by omega)
      have begins : ∃ more, fieldsText (field :: others) = '"' :: more := by
        obtain ⟨key, value⟩ := field
        cases others with
        | nil => exact ⟨_, fields_text_one key value⟩
        | cons next later => exact ⟨_, fields_text_next key value next later⟩
      obtain ⟨more, spelled⟩ := begins
      rw [List.cons_append, List.append_assoc, List.singleton_append, spelled, List.cons_append,
        read_object left, ← List.cons_append, ← spelled, read, Option.map_some]

theorem reads_back (j : Json) : ReadsBack j := by
  match j with
  | .null =>
      intro fuel rest enough ends
      obtain ⟨left, rfl⟩ := first_step _ fuel enough
      rfl
  | .bool value =>
      intro fuel rest enough ends
      obtain ⟨left, rfl⟩ := first_step _ fuel enough
      cases value <;> rfl
  | .number value => exact number_back value
  | .string s => exact string_back s
  | .array items => exact array_back items fun item member => reads_back item
  | .object fields => exact object_back fields fun field member => reads_back field.2
termination_by j
decreasing_by
  · have smaller := List.sizeOf_lt_of_mem member
    simp
    omega
  · have smaller := List.sizeOf_lt_of_mem member
    obtain ⟨key, value⟩ := field
    simp at smaller ⊢
    omega

theorem parse_printed (j : Json) : parse? j.print = some j := by
  have read := reads_back j (2 * j.print.toList.length + 2) [] (by omega) (by rintro c head; cases head)
  rw [List.append_nil] at read
  rw [parse?, read]
  rfl

end OnlineDdl.Json
