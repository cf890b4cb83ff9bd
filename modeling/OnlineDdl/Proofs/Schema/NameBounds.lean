import OnlineDdl.Proofs.Service.PlainName
import OnlineDdl.Proofs.Text.Spacing

/-! The bounds that generated names keep. A name is computed within the limit for parts of any length, and none of
the differences and cuts on the way goes out of range. It is the whole name where that fits, begins as a name may
where it does not, and is a plain name wherever its parts allow for it. -/

set_option autoImplicit false

namespace OnlineDdl

namespace Text

-- The first bytes of a text, as far as it has so many and none of its characters is cut apart.
def front? : Nat → List Char → Option (List Char)
  | 0, _ => some []
  | _ + 1, [] => none
  | bytes + 1, c :: rest =>
    if c.utf8Size ≤ bytes + 1 then (front? (bytes + 1 - c.utf8Size) rest).map (c :: ·) else none

theorem front_ascii (n : Nat) (s : List Char) (ascii : ∀ c ∈ s, c.utf8Size = 1) (filled : n ≤ s.length) :
    front? n s = some (s.take n) := by
  induction n generalizing s with
  | zero => rw [front?, List.take_zero]
  | succ n ih =>
      cases s with
      | nil => simp at filled
      | cons c rest =>
          obtain ⟨one, others⟩ := List.forall_mem_cons.mp ascii
          rw [front?, one, if_pos (Nat.le_add_left 1 n), Nat.add_sub_cancel, ih rest others (Nat.le_of_succ_le_succ filled)]
          rfl

theorem join_intercalate (separator : List Char) (ws : List (List Char)) :
    joinWith separator ws = separator.intercalate ws := by
  induction ws with
  | nil => rfl
  | cons s rest ih =>
      cases rest with
      | nil => simp [joinWith, List.intercalate]
      | cons t others =>
          rw [join_next, ih]
          simp [List.intercalate]

end Text

namespace ObjectName

def minus? (a b : Nat) : Option Nat := if b ≤ a then some (a - b) else none

theorem minus_within (a b : Nat) (within : b ≤ a) : minus? a b = some (a - b) := if_pos within

-- The same names with every difference and every cut checked.
def digest? (table : String) (columns : List String) : Option (List Char) :=
  Text.front? 8 (Md5.hex (Text.utf8 (digestInput table columns)))

def mendStart? (name : List Char) : Option (List Char) :=
  if startsBadly name then (minus? name.length 1).map fun kept => 'D' :: name.take kept else some name

def shortened? (table joined tail : List Char) : Option (List Char) := do
  let tail := if maxLength / 3 < tail.length then tail.take (maxLength / 3) else tail
  let room ← minus? maxLength tail.length
  let share ← minus? (room / 2) 1
  mendStart? (table.take share ++ '_' :: joined.take share ++ '_' :: tail)

def assemble? (table joined tail : List Char) : Option (List Char) :=
  let name := table ++ '_' :: joined ++ '_' :: tail
  if name.length ≤ maxLength then some name else shortened? table joined tail

def generate? (table : String) (columns : List String) (suffix : String) : Option String := do
  let digits ← digest? table columns
  let name ← assemble? table.toList (Text.joinWith ['_'] (columns.map String.toList)) (digits ++ suffix.toList)
  some (String.ofList name)

theorem digest_in_range (table : String) (columns : List String) :
    digest? table columns = some (digest table columns) := by
  apply Text.front_ascii
  · intro c member
    have each : Text.hexDigits.all (fun d => d.utf8Size == 1) = true := by decide
    exact beq_iff_eq.mp (List.all_eq_true.mp each c (hex_digits _ c member))
  · rw [Md5.hex_length]
    decide

theorem mend_in_range (name : List Char) : mendStart? name = some (mendStart name) := by
  rw [mendStart?, mendStart]
  split
  · next bad => rw [minus_within _ _ (starts_badly_filled name bad), Option.map_some]
  · rfl

theorem shortened_in_range (table joined tail : List Char) :
    shortened? table joined tail = some (shortened table joined tail) := by
  have limit : maxLength = 63 := rfl
  have cut : (if maxLength / 3 < tail.length then tail.take (maxLength / 3) else tail) = tail.take (maxLength / 3) := by
    split
    · rfl
    · next short => exact (List.take_of_length_le (Nat.not_lt.mp short)).symm
  have size : (tail.take (maxLength / 3)).length ≤ 21 := by
    rw [List.length_take]
    omega
  calc
    _ = (minus? maxLength (tail.take (maxLength / 3)).length).bind fun room =>
          (minus? (room / 2) 1).bind fun share =>
            mendStart? (table.take share ++ '_' :: joined.take share ++ '_' :: tail.take (maxLength / 3)) := by
      rw [shortened?, cut]
      rfl
    _ = mendStart? _ := by
      rw [minus_within _ _ (by omega), Option.bind_some, minus_within _ _ (by omega), Option.bind_some]
    _ = _ := mend_in_range _

theorem assemble_in_range (table joined tail : List Char) :
    assemble? table joined tail = some (assemble table joined tail) := by
  rw [assemble?, assemble]
  split
  · rfl
  · exact shortened_in_range table joined tail

section

variable (table : String) (columns : List String) (suffix : String)

theorem generate_in_range : generate? table columns suffix = some (generate table columns suffix) := by
  rw [generate?, digest_in_range, Option.bind_eq_bind, Option.bind_some, assemble_in_range]
  rfl

theorem generate_length : (generate table columns suffix).length ≤ maxLength := by
  rw [generate, ← String.length_toList, String.toList_ofList]
  exact assemble_length _ _ _

def wholeName : String :=
  table ++ "_" ++ "_".intercalate columns ++ "_" ++ String.ofList (digest table columns) ++ suffix

theorem whole_name_letters : (wholeName table columns suffix).toList =
    table.toList ++ '_' :: Text.joinWith ['_'] (columns.map String.toList) ++
      '_' :: (digest table columns ++ suffix.toList) := by
  simp [wholeName, Text.join_intercalate]

theorem generate_fitting (fits : (wholeName table columns suffix).length ≤ maxLength) :
    generate table columns suffix = wholeName table columns suffix := by
  rw [← String.length_toList, whole_name_letters] at fits
  rw [← String.toList_inj, whole_name_letters, generate, String.toList_ofList, assemble, if_pos fits]

theorem mended_start (name : List Char) : startsBadly (mendStart name) = false := by
  rw [mendStart]
  split
  · rfl
  · next good => exact Bool.eq_false_iff.mpr good

theorem generate_start (exceeds : maxLength < (wholeName table columns suffix).length) :
    startsBadly (generate table columns suffix).toList = false := by
  rw [← String.length_toList, whole_name_letters] at exceeds
  rw [generate, String.toList_ofList, assemble, if_neg (Nat.not_le.mpr exceeds), shortened]
  exact mended_start _

-- Names are computed without going out of range and keep to the limit. They are whole where that fits, and begin
-- well where it does not. Out of plain parts come plain names.
theorem names_within_bounds :
    generate? table columns suffix = some (generate table columns suffix) ∧
      (generate table columns suffix).length ≤ 63 ∧
      ((wholeName table columns suffix).length ≤ 63 → generate table columns suffix = wholeName table columns suffix) ∧
      (63 < (wholeName table columns suffix).length →
        ∀ c ∈ (generate table columns suffix).toList.head?, c ≠ '_' ∧ ¬ ('0' ≤ c ∧ c ≤ '9')) ∧
      (IsPlainName table → (∀ column ∈ columns, IsPlainName column) → Continues suffix.toList →
        IsPlainName (generate table columns suffix) ∧ (generate table columns suffix).utf8ByteSize ≤ 63) := by
  have length := generate_length table columns suffix
  refine ⟨generate_in_range table columns suffix, length, generate_fitting table columns suffix, ?_, ?_⟩
  · intro exceeds c first
    have start := generate_start table columns suffix exceeds
    obtain ⟨rest, spelled⟩ := List.head?_eq_some_iff.mp first
    rw [spelled] at start
    simpa [startsBadly, Text.isDigit] using start
  · intro named among ends
    have plain := generate_plain table columns suffix ((plain_iff table).mpr named)
      (fun column inside => plain_continues column ((plain_iff column).mpr (among column inside))) ends
    have bytes := continuing_bytes _ (plain_continues _ plain)
    rw [String.ofList_toList, String.length_toList] at bytes
    exact ⟨(plain_iff _).mp plain, bytes ▸ length⟩

end

theorem underscored_name_mended :
    let table := "_customer_account_change_history"
    let name := generate table ["settlement_date"] "_notnull"
    63 < (wholeName table ["settlement_date"] "_notnull").length ∧
      (∀ c ∈ name.toList.head?, c ≠ '_' ∧ ¬ ('0' ≤ c ∧ c ≤ '9')) ∧ IsPlainName name ∧ name.utf8ByteSize ≤ 63 := by
  intro table name
  obtain ⟨-, -, -, start, plain⟩ := names_within_bounds table ["settlement_date"] "_notnull"
  have exceeds : 63 < (wholeName table ["settlement_date"] "_notnull").length := by decide +kernel
  refine ⟨exceeds, start exceeds, plain ((plain_iff table).mp (by decide)) ?_ (by decide)⟩
  exact List.forall_mem_singleton.mpr ((plain_iff _).mp (by decide))

end ObjectName

end OnlineDdl
