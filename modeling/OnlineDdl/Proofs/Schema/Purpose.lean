import OnlineDdl.Proofs.Schema.ReferenceName
import Mathlib.Data.List.Nodup

/-! What a generated name says about its purpose. The last word of a name is the word of its suffix or, where there
is no suffix, the digest, and lacks its last character where the start of the name is mended. No two purposes have
such a word in common, so that a name tells its purpose whatever the table and the columns are. -/

set_option autoImplicit false

namespace OnlineDdl

theorem Text.split_last_marked (mark : Char) (before after : List Char) (clear : mark ∉ after) :
    splitLast mark (before ++ mark :: after) = some (before, after) := by
  have first : splitFirst mark (before ++ mark :: after).reverse = some (after.reverse, before.reverse) := by
    rw [split_first_some, List.mem_reverse]
    exact ⟨by simp, clear⟩
  rw [splitLast, first]
  simp

namespace ObjectName

def markedPurposes : List Purpose := [.unique, .primaryKey, .check, .notNull, .patternOps, .togetherIndex]

-- All purposes but references, whose suffix says what they refer to.
def fixedPurposes : List Purpose := .index :: markedPurposes

def Purpose.word (purpose : Purpose) : List Char := purpose.suffix.toList.tail

def forms (word : List Char) : List (List Char) := [word, word.dropLast]

-- The purpose that is told by the last word of a name. A word that marks no purpose is the digest of an index.
def purposeBy (word : List Char) : Purpose :=
  (markedPurposes.find? fun purpose => word ∈ forms purpose.word).getD .index

def purposeOf (name : String) : Option Purpose :=
  (Text.splitLast '_' name.toList).map fun parts => purposeBy parts.2

section

variable (table : String) (columns : List String)

theorem generate_end (suffix : String) (front word : List Char)
    (parts : '_' :: (digest table columns ++ suffix.toList) = front ++ '_' :: word) (filled : word ≠ [])
    (clear : '_' ∉ word) (short : suffix.length + 8 ≤ maxLength / 3) :
    ∃ before, ∃ last ∈ forms word, Text.splitLast '_' (generate table columns suffix).toList = some (before, last) := by
  let tail := digest table columns ++ suffix.toList
  have size : tail.length ≤ maxLength / 3 := by
    rw [List.length_append, digest_length, String.length_toList, Nat.add_comm]
    exact short
  have written : tail ≠ [] := List.append_ne_nil_of_left_ne_nil (digest_filled table columns) _
  have cut : '_' :: tail.dropLast = front ++ '_' :: word.dropLast := by
    rw [← List.dropLast_cons_of_ne_nil written, parts, List.dropLast_append_of_ne_nil (List.cons_ne_nil '_' word),
      List.dropLast_cons_of_ne_nil filled]
  obtain ⟨start, shape⟩ := assemble_end table.toList (Text.joinWith ['_'] (columns.map String.toList)) tail size written
  rw [generate, String.toList_ofList, shape]
  -- A word keeps at least the underscore before it, whatever the mended start has cost.
  split
  · refine ⟨start ++ front, word.dropLast, by simp [forms], ?_⟩
    rw [cut, ← List.append_assoc]
    exact Text.split_last_marked '_' _ _ fun member => clear (List.dropLast_subset _ member)
  · refine ⟨start ++ front, word, by simp [forms], ?_⟩
    rw [parts, ← List.append_assoc]
    exact Text.split_last_marked '_' _ _ clear

theorem purpose_by_word : ∀ purpose ∈ markedPurposes, ∀ word ∈ forms purpose.word, purposeBy word = purpose := by
  decide

-- A word that marks a purpose is too short to be what is left of a digest, or has another letter.
theorem purpose_by_digits (digits : List Char) (long : 7 ≤ digits.length) (each : ∀ c ∈ digits, c ∈ Text.hexDigits) :
    purposeBy digits = .index := by
  have apart : ∀ purpose ∈ markedPurposes, ∀ word ∈ forms purpose.word,
      7 ≤ word.length → word.all Text.hexDigits.contains = false := by
    decide
  have hex : digits.all Text.hexDigits.contains = true := by simpa using each
  have absent : (markedPurposes.find? fun purpose => digits ∈ forms purpose.word) = none := by
    rw [List.find?_eq_none]
    intro purpose marked spelled
    have other := apart purpose marked digits (of_decide_eq_true spelled) long
    exact Bool.false_ne_true (other.symm.trans hex)
  rw [purposeBy, absent, Option.getD_none]

theorem purpose_of_index : purposeOf (named .index table columns) = some .index := by
  have size := digest_length table columns
  have each := digest_digits table columns
  obtain ⟨before, last, form, found⟩ := generate_end table columns "" [] (digest table columns) (by simp)
    (digest_filled table columns) (digest_unmarked table columns) (by decide)
  rw [purposeOf, named, Purpose.suffix, found, Option.map_some]
  rcases List.mem_pair.mp form with rfl | rfl
  · rw [purpose_by_digits _ (by omega) each]
  · rw [purpose_by_digits _ (by rw [List.length_dropLast]; omega) fun c member => each c (List.dropLast_subset _ member)]

theorem purpose_of_marked (purpose : Purpose) (marked : purpose ∈ markedPurposes) :
    purposeOf (named purpose table columns) = some purpose := by
  have spelled : ∀ purpose ∈ markedPurposes, purpose.suffix.toList = '_' :: purpose.word ∧ purpose.word ≠ [] ∧
      '_' ∉ purpose.word ∧ purpose.suffix.length + 8 ≤ maxLength / 3 := by
    decide
  obtain ⟨suffix, filled, clear, short⟩ := spelled purpose marked
  obtain ⟨before, last, form, found⟩ := generate_end table columns purpose.suffix ('_' :: digest table columns)
    purpose.word (by rw [suffix]; rfl) filled clear short
  rw [purposeOf, named, found, Option.map_some, purpose_by_word purpose marked last form]

theorem purpose_of_named (purpose : Purpose) (fixed : purpose ∈ fixedPurposes) :
    purposeOf (named purpose table columns) = some purpose := by
  rcases List.mem_cons.mp fixed with rfl | marked
  · exact purpose_of_index table columns
  · exact purpose_of_marked table columns purpose marked

end

-- Also where the start of a name is mended, which its suffix pays for.
example : purposeOf "D_customer_account_chan_settlement_date_a66410a3_notnul" = some .notNull := by decide

theorem purpose_of_shared (one other : Purpose) (table place : String) (columns others : List String)
    (fixed : one ∈ fixedPurposes) (likewise : other ∈ fixedPurposes)
    (same : named one table columns = named other place others) : one = other := by
  have told := congrArg purposeOf same
  rw [purpose_of_named table columns one fixed, purpose_of_named place others other likewise] at told
  exact Option.some.inj told

theorem purposes_named_apart (table : String) (columns : List String) (purposes : List Purpose)
    (distinct : purposes.Nodup) (fixed : purposes ⊆ fixedPurposes) :
    (purposes.map (named · table columns)).Nodup := by
  apply distinct.map_on
  intro one among other likewise same
  exact purpose_of_shared one other table table columns columns (fixed among) (fixed likewise) same

-- The objects on some columns have different names where they have different suffixes, whether a name is whole,
-- shortened or mended at its start.
theorem names_tell_purposes (table : String) (columns : List String) :
    (["", "_uniq", "_pk", "_check", "_notnull", "_like", "_idx"].map (generate table columns)).Nodup := by
  have suffixes : ["", "_uniq", "_pk", "_check", "_notnull", "_like", "_idx"] = fixedPurposes.map Purpose.suffix := rfl
  rw [suffixes, List.map_map]
  exact purposes_named_apart table columns fixedPurposes (by decide) (List.Subset.refl _)

end ObjectName

end OnlineDdl
