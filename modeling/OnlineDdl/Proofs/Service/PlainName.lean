import OnlineDdl.Change.Requested
import OnlineDdl.Service.Request
import OnlineDdl.Proofs.Schema.ObjectName
import Mathlib.Computability.Language
import Mathlib.Data.String.Basic

/-! Plain names: those that match a pattern over their whole length and are short enough. Names that are
generated from plain names are plain again, whether they are shortened or not. -/

set_option autoImplicit false

namespace OnlineDdl

open Computability

def oneOf (ranges : List (Char × Char)) : Language Char :=
  {s | ∃ c, s = [c] ∧ ∃ range ∈ ranges, range.1 ≤ c ∧ c ≤ range.2}

-- The pattern `[a-zA-Z_][a-zA-Z0-9_$]*`.
def identifierPattern : Language Char :=
  oneOf [('a', 'z'), ('A', 'Z'), ('_', '_')] *
    (oneOf [('a', 'z'), ('A', 'Z'), ('0', '9'), ('_', '_'), ('$', '$')])∗

theorem one_of_iff (ranges : List (Char × Char)) (c : Char) :
    [c] ∈ oneOf ranges ↔ ∃ range ∈ ranges, range.1 ≤ c ∧ c ≤ range.2 := by
  constructor
  · rintro ⟨d, same, inside⟩
    cases same
    exact inside
  · intro inside
    exact ⟨c, rfl, inside⟩

theorem only_iff (c d : Char) : d ≤ c ∧ c ≤ d ↔ c = d := by
  rw [and_comm]
  exact le_antisymm_iff.symm

theorem starts_iff (c : Char) :
    [c] ∈ oneOf [('a', 'z'), ('A', 'Z'), ('_', '_')] ↔ startsIdentifier c = true := by
  rw [one_of_iff]
  simp [startsIdentifier, Text.isLetter, only_iff, or_assoc]

theorem continues_iff (c : Char) :
    [c] ∈ oneOf [('a', 'z'), ('A', 'Z'), ('0', '9'), ('_', '_'), ('$', '$')] ↔ continuesIdentifier c = true := by
  rw [one_of_iff]
  simp [continuesIdentifier, startsIdentifier, Text.isLetter, Text.isDigit, only_iff]
  tauto

theorem repeated_iff (ranges : List (Char × Char)) (s : List Char) :
    s ∈ (oneOf ranges)∗ ↔ ∀ c ∈ s, [c] ∈ oneOf ranges := by
  rw [Language.mem_kstar]
  constructor
  · rintro ⟨parts, rfl, each⟩ c member
    obtain ⟨part, among, inside⟩ := List.mem_flatten.mp member
    obtain ⟨d, rfl, fits⟩ := each part among
    obtain rfl := List.mem_singleton.mp inside
    exact ⟨c, rfl, fits⟩
  · intro each
    refine ⟨s.map fun c => [c], ?_, ?_⟩
    · rw [← List.flatMap_def, List.flatMap_singleton']
    · rintro part member
      obtain ⟨c, inside, rfl⟩ := List.mem_map.mp member
      exact each c inside

theorem pattern_iff (s : List Char) :
    s ∈ identifierPattern ↔
      ∃ first rest, s = first :: rest ∧ startsIdentifier first = true ∧ ∀ c ∈ rest, continuesIdentifier c = true := by
  rw [identifierPattern, Language.mem_mul]
  constructor
  · rintro ⟨one, ⟨first, rfl, starts⟩, rest, follows, rfl⟩
    rw [repeated_iff] at follows
    exact ⟨first, rest, rfl, (starts_iff first).mp ⟨first, rfl, starts⟩,
      fun c member => (continues_iff c).mp (follows c member)⟩
  · rintro ⟨first, rest, rfl, starts, follows⟩
    refine ⟨[first], (starts_iff first).mpr starts, rest, ?_, rfl⟩
    rw [repeated_iff]
    exact fun c member => (continues_iff c).mpr (follows c member)

def IsPlainName (name : String) : Prop := name.toList ∈ identifierPattern ∧ name.length ≤ 63

theorem plain_iff (name : String) : isPlainIdentifier name = true ↔ IsPlainName name := by
  have limit : ObjectName.maxLength = 63 := rfl
  rw [isPlainIdentifier, IsPlainName, pattern_iff, ← limit]
  cases name.toList with
  | nil => simp
  | cons first rest => simp [and_assoc]

def Continues (s : List Char) : Prop := ∀ c ∈ s, continuesIdentifier c = true

instance (s : List Char) : Decidable (Continues s) :=
  decidable_of_iff (s.all continuesIdentifier = true) List.all_eq_true

theorem continues_append (s t : List Char) : Continues (s ++ t) ↔ Continues s ∧ Continues t :=
  List.forall_mem_append

theorem starts_continues (c : Char) (starts : startsIdentifier c = true) : continuesIdentifier c = true := by
  rw [continuesIdentifier, starts, Bool.true_or, Bool.true_or]

theorem plain_continues (name : String) (plain : isPlainIdentifier name = true) : Continues name.toList := by
  obtain ⟨first, rest, spelled, starts, follows⟩ := (pattern_iff _).mp ((plain_iff name).mp plain).1
  rw [spelled]
  exact List.forall_mem_cons.mpr ⟨starts_continues first starts, follows⟩

theorem continuing_bytes (s : List Char) (continues : Continues s) : (String.ofList s).utf8ByteSize = s.length := by
  rw [String.utf8ByteSize_ofList]
  induction s with
  | nil => rfl
  | cons c rest ih =>
      obtain ⟨first, others⟩ := List.forall_mem_cons.mp continues
      obtain ⟨range, among, -, below⟩ := (one_of_iff _ c).mp ((continues_iff c).mpr first)
      have ascii : ∀ range ∈ [('a', 'z'), ('A', 'Z'), ('0', '9'), ('_', '_'), ('$', '$')], range.2 ≤ 'z' := by decide
      have code : c.val ≤ 'z'.val := below.trans (ascii range among)
      have one : c.utf8Size = 1 := by
        rw [Char.utf8Size_eq_one_iff]
        exact UInt32.le_trans code (by decide)
      rw [String.utf8Len_cons, ih others, one, List.length_cons]

namespace ObjectName

theorem join_continues (parts : List (List Char)) (each : ∀ part ∈ parts, Continues part) :
    Continues (Text.joinWith ['_'] parts) := by
  induction parts using Text.joinWith.induct with
  | case1 => exact List.forall_mem_nil _
  | case2 part => exact each part List.mem_cons_self
  | case3 part rest filled ih =>
      rw [Text.joinWith, continues_append, continues_append]
      · refine ⟨⟨each part List.mem_cons_self, by decide⟩, ih fun other member => ?_⟩
        exact each other (List.mem_cons_of_mem _ member)
      · exact filled

theorem digest_continues (table : String) (columns : List String) : Continues (digest table columns) := by
  intro c member
  have digits : Continues Text.hexDigits := by decide
  exact digits c (digest_digits table columns c member)

theorem mended_plain (first : Char) (rest : List Char) (starts : startsIdentifier first = true)
    (continues : Continues rest) : mendStart (first :: rest) ∈ identifierPattern := by
  rw [mendStart, pattern_iff]
  split
  · refine ⟨'D', _, rfl, rfl, fun c member => ?_⟩
    rcases List.mem_cons.mp (List.mem_of_mem_take member) with rfl | later
    · exact starts_continues c starts
    · exact continues c later
  · exact ⟨first, rest, rfl, starts, continues⟩

theorem assemble_plain (first : Char) (table joined tail : List Char) (starts : startsIdentifier first = true)
    (named : Continues table) (columns : Continues joined) (ends : Continues tail) :
    assemble (first :: table) joined tail ∈ identifierPattern := by
  have together (a b c : List Char) (one : Continues a) (two : Continues b) (three : Continues c) :
      Continues (a ++ '_' :: b ++ '_' :: c) := by
    simp only [Continues, List.forall_mem_append, List.forall_mem_cons]
    exact ⟨⟨one, rfl, two⟩, rfl, three⟩
  have part (n : Nat) (s : List Char) (all : Continues s) : Continues (s.take n) :=
    fun c member => all c (List.mem_of_mem_take member)
  cases exceeds : overruns (first :: table) joined tail with
  | false =>
      rw [assemble_whole _ _ _ exceeds, pattern_iff]
      exact ⟨first, _, rfl, starts, together _ _ _ named columns ends⟩
  | true =>
      rw [assemble_shortened _ _ _ exceeds, shortened]
      obtain ⟨share, shared⟩ : ∃ share, (maxLength - (tail.take (maxLength / 3)).length) / 2 - 1 = share + 1 := by
        have limit : maxLength = 63 := rfl
        exact ⟨(maxLength - (tail.take (maxLength / 3)).length) / 2 - 2, by rw [List.length_take]; omega⟩
      rw [shared, List.take_succ_cons]
      exact mended_plain first _ starts
        (together _ _ _ (part share table named) (part (share + 1) joined columns) (part (maxLength / 3) tail ends))

-- The columns and what a suffix holds need not be names themselves.
theorem generate_plain (table : String) (columns : List String) (suffix : String)
    (named : isPlainIdentifier table = true) (among : ∀ column ∈ columns, Continues column.toList)
    (ends : Continues suffix.toList) : isPlainIdentifier (generate table columns suffix) = true := by
  obtain ⟨first, rest, spelled, starts, follows⟩ := (pattern_iff _).mp ((plain_iff table).mp named).1
  rw [plain_iff, IsPlainName, generate, spelled, ← String.length_toList, String.toList_ofList]
  refine ⟨assemble_plain first rest _ _ starts follows (join_continues _ ?_) ?_, assemble_length _ _ _⟩
  · intro part member
    obtain ⟨column, inside, rfl⟩ := List.mem_map.mp member
    exact among column inside
  · exact (continues_append _ _).mpr ⟨digest_continues table columns, ends⟩

def Purpose.mentioned : Purpose → List String
  | .foreignKey toTable toColumn => [toTable, toColumn]
  | _ => []

theorem suffix_continues (purpose : Purpose) (mentioned : ∀ name ∈ purpose.mentioned, Continues name.toList) :
    Continues purpose.suffix.toList := by
  cases purpose with
  | foreignKey toTable toColumn =>
      have parts : (Purpose.foreignKey toTable toColumn).suffix = "_fk_" ++ toTable ++ "_" ++ toColumn := rfl
      rw [Purpose.mentioned, List.forall_mem_cons, List.forall_mem_singleton] at mentioned
      rw [parts]
      simp only [String.toList_append, continues_append]
      exact ⟨⟨⟨by decide, mentioned.1⟩, by decide⟩, mentioned.2⟩
  | _ => decide

theorem named_plain (purpose : Purpose) (table : String) (columns : List String)
    (plain : isPlainIdentifier table = true) (among : ∀ column ∈ columns, isPlainIdentifier column = true)
    (mentioned : ∀ name ∈ purpose.mentioned, Continues name.toList) :
    isPlainIdentifier (named purpose table columns) = true :=
  generate_plain table columns purpose.suffix plain (fun column inside => plain_continues column (among column inside))
    (suffix_continues purpose mentioned)

end ObjectName

end OnlineDdl
