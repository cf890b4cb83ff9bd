import OnlineDdl.Plan.Stepwise
import OnlineDdl.Proofs.Safety.TypeChange

/-! Changes of a column's type that leave the stored rows alone. The types are the same but for blanks and
for letter case outside of quotes, or the new one is wider, and no expression converts the values. A change
that is judged safe is one of these where it has no such expression and the types agree in what they quote. -/

set_option autoImplicit false

namespace OnlineDdl

open Text ColumnType

def outside : List (List Char) → List (List Char)
  | [] => []
  | [s] => [s]
  | s :: _ :: rest => s :: outside rest

def inside : List (List Char) → List (List Char)
  | [] => []
  | [_] => []
  | _ :: s :: rest => s :: inside rest

def sections (raw : String) : List (List Char) := pieces (· == '"') raw.toList

def plainParts (raw : String) : List (List Char) := (outside (sections raw)).map fun s => strip (lower s)

def quotedParts (raw : String) : List (List Char) := (inside (sections raw)).map strip

-- Equal up to blanks and, outside of quotes, up to letter case.
def SameType (a b : String) : Prop := plainParts a = plainParts b ∧ quotedParts a = quotedParts b

def Widened (a b : String) : Prop :=
  ∃ source target, Denotes (tokens (lower a.toList)) source ∧ Denotes (tokens (lower b.toList)) target ∧
    Widening source target

def MetadataOnly (fromType : String) : TableAction → Prop
  | .setType _ toType conversion => conversion = none ∧ (SameType fromType toType ∨ Widened fromType toType)
  | _ => False

theorem outside_map (f : List Char → List Char) (texts : List (List Char)) :
    (outside texts).map f = outside (texts.map f) := by
  induction texts using outside.induct with
  | case1 => rfl
  | case2 s => rfl
  | case3 s t rest ih => exact congrArg (f s :: ·) ih

theorem quote_dark (c : Char) (quote : (c == '"') = true) : isBlank c = false := by
  rw [beq_iff_eq.mp quote]
  rfl

theorem sections_lower (raw : String) :
    pieces (· == '"') (strip (lower raw.toList)) = (sections raw).map fun s => strip (lower s) := by
  rw [pieces_strip _ quote_dark, pieces_lower _ inert_quote, List.map_map]
  rfl

theorem plain_parts_alike (a b : String) (alike : strip (lower a.toList) = strip (lower b.toList)) :
    plainParts a = plainParts b := by
  rw [plainParts, plainParts, outside_map, outside_map, ← sections_lower, ← sections_lower, alike]

theorem same_type_iff (a b : String) (alike : strip (lower a.toList) = strip (lower b.toList)) :
    SameType a b ↔ quotedParts a = quotedParts b :=
  and_iff_right (plain_parts_alike a b alike)

theorem denoted_unquoted (raw : String) (type : ColumnType) (denotes : Denotes (tokens (lower raw.toList)) type) :
    quotedParts raw = [] := by
  have clear : ∀ c ∈ raw.toList, (c == '"') = false := by
    intro c member
    cases quote : c == '"' with
    | false => rfl
    | true =>
        obtain ⟨a, b, divided⟩ := List.append_of_mem member
        have kept : c ∈ strip (lower raw.toList) := by
          rw [divided, lower_append _ inert_quote a b c quote]
          exact List.mem_filter.mpr ⟨by simp, by simp [quote_dark c quote]⟩
        rw [← tokens_flat] at kept
        obtain ⟨s, token, inside⟩ := List.mem_flatten.mp kept
        exact absurd (beq_iff_eq.mp quote) (denoting_letters _ type denotes s token c inside).2
  rw [quotedParts, sections, pieces_whole _ _ clear]
  rfl

theorem kept_quotes_agree (a b : String) (kept : SameType a b ∨ Widened a b) : quotedParts a = quotedParts b := by
  rcases kept with same | ⟨source, target, one, two, -⟩
  · exact same.2
  · rw [denoted_unquoted a source one, denoted_unquoted b target two]

theorem denoted_widens_itself (text : List (List Char)) (type : ColumnType) (denotes : Denotes text type) :
    type = .text ∧ text = ["text".toList] ∨ Widening type type := by
  cases denotes with
  | text bare => exact .inl ⟨rfl, List.mem_singleton.mp bare⟩
  | varchar bare => exact .inr (.varcharUnbounded none)
  | numeric bare => exact .inr (.numericUnconstrained none)
  | varbit bare => exact .inr (.varbitUnbounded none)
  | varcharOf length closing sized => exact .inr (.varchar length length (Nat.le_refl _))
  | numericOf precision closing sized => exact .inr (.numeric precision precision 0 (Nat.le_refl _))
  | numericScaled precision scale closing sized => exact .inr (.numeric precision precision scale (Nat.le_refl _))
  | varbitOf length closing sized => exact .inr (.varbit length length (Nat.le_refl _))

theorem same_denoted (a b : String) (type : ColumnType) (one : Denotes (tokens (lower a.toList)) type)
    (two : Denotes (tokens (lower b.toList)) type) : SameType a b ∨ Widened a b := by
  rcases denoted_widens_itself _ type one with ⟨rfl, first⟩ | widening
  · rcases denoted_widens_itself _ .text two with ⟨-, second⟩ | widening
    · have alike : strip (lower a.toList) = strip (lower b.toList) := by
        rw [← tokens_flat, ← tokens_flat, first, second]
      refine .inl ((same_type_iff a b alike).mpr ?_)
      rw [denoted_unquoted a .text one, denoted_unquoted b .text two]
    · cases widening
  · exact .inr ⟨type, type, one, two, widening⟩

theorem same_spelling_kept (a b : String) (same : normalize a.toList = normalize b.toList)
    (quotes : quotedParts a = quotedParts b) : SameType a b := by
  have alike : strip (lower a.toList) = strip (lower b.toList) := by
    rw [← strip_normalize, ← strip_normalize, same]
  exact (same_type_iff a b alike).mpr quotes

theorem widening_known (source target : ColumnType) (widening : Widening source target) (spelling : List Char) :
    source ≠ .other spelling ∧ target ≠ .other spelling := by
  cases widening <;> simp

theorem kept_iff_quotes_agree (a b : String) (widens : (parse a).widensTo (parse b) = true) :
    SameType a b ∨ Widened a b ↔ quotedParts a = quotedParts b := by
  refine ⟨kept_quotes_agree a b, fun quotes => ?_⟩
  rcases (widens_iff _ _).mp widens with same | widening
  · rcases parse_denotes a with other | one
    · rcases parse_denotes b with another | two
      · rw [other, another] at same
        exact .inl (same_spelling_kept a b (ColumnType.other.inj same) quotes)
      · rw [← same, other] at two
        cases two
    · rcases parse_denotes b with another | two
      · rw [same, another] at one
        cases one
      · rw [← same] at two
        exact same_denoted a b _ one two
  · have one := (parse_denotes a).resolve_left (widening_known _ _ widening _).1
    have two := (parse_denotes b).resolve_left (widening_known _ _ widening _).2
    exact .inr ⟨_, _, one, two, widening⟩

theorem safe_type_change_metadata_only_iff (table column a b : String) (conversion : Option String)
    (config : PlannerConfig) (caps : ServerCaps) (rows : RowEstimate) (catalog : Catalog)
    (verdict : (judge (.alterColumnType table column a b conversion) config caps rows).classification = .safe) :
    Stepwise.forCatalog (.alterColumnType table column a b conversion)
        (judge (.alterColumnType table column a b conversion) config caps rows) caps catalog =
      .ok [.alter table (.setType column b conversion)] ∧
    (MetadataOnly a (.setType column b conversion) ↔ conversion = none ∧ quotedParts a = quotedParts b) := by
  have widens := (type_change_safe_iff table column a b conversion config caps rows).mp verdict
  refine ⟨rfl, ?_⟩
  rw [MetadataOnly, kept_iff_quotes_agree a b widens]

theorem spelled_widening_metadata_only :
    let change := Operation.alterColumnType "orders" "code" "Character Varying (20)" "varchar(40)" none
    let decision := judge change .default .default .unknown
    decision.classification = .safe ∧
      Stepwise.forCatalog change decision .default .empty =
        .ok [.alter "orders" (.setType "code" "varchar(40)" none)] ∧
      MetadataOnly "Character Varying (20)" (.setType "code" "varchar(40)" none) := by
  intro change decision
  have verdict : decision.classification = .safe := by decide +kernel
  obtain ⟨planned, kept⟩ := safe_type_change_metadata_only_iff "orders" "code" "Character Varying (20)"
    "varchar(40)" none .default .default .unknown .empty verdict
  exact ⟨verdict, planned, kept.mpr ⟨rfl, by decide +kernel⟩⟩

-- An expression converts every stored value, and quoted names that differ in case name two types.
theorem conversion_judged_safe :
    let converted := Operation.alterColumnType "orders" "code" "varchar(20)" "varchar(40)" (some "upper(code)")
    let renamed := Operation.alterColumnType "orders" "mood" "\"Mood\"" "\"mood\"" none
    ((judge converted .default .default .unknown).classification = .safe ∧
      ¬ MetadataOnly "varchar(20)" (.setType "code" "varchar(40)" (some "upper(code)"))) ∧
    (judge renamed .default .default .unknown).classification = .safe ∧
      ¬ MetadataOnly "\"Mood\"" (.setType "mood" "\"mood\"" none) := by
  intro converted renamed
  refine ⟨⟨by decide +kernel, fun kept => ?_⟩, by decide +kernel, fun kept => ?_⟩
  · cases kept.1
  · exact absurd (kept_quotes_agree _ _ kept.2) (by decide +kernel)

end OnlineDdl
