import OnlineDdl.Proofs.Schema.TypeSpelling
import OnlineDdl.Safety.Decision

/-! Changes of a column's type. Those that are judged safe put the types in an order, and where they carry no
conversion and agree in their quoted names they leave the stored rows alone. -/

set_option autoImplicit false

namespace OnlineDdl.ColumnType

open Text

inductive Widening : ColumnType → ColumnType → Prop where
  | varchar (old new : Nat) (grows : old ≤ new) : Widening (.varchar (some old)) (.varchar (some new))
  | varcharUnbounded (length : Option Nat) : Widening (.varchar length) (.varchar none)
  | varcharText (length : Option Nat) : Widening (.varchar length) .text
  | numeric (old new scale : Nat) (grows : old ≤ new) :
      Widening (.numeric (some (old, scale))) (.numeric (some (new, scale)))
  | numericUnconstrained (size : Option (Nat × Nat)) : Widening (.numeric size) (.numeric none)
  | varbit (old new : Nat) (grows : old ≤ new) : Widening (.varbit (some old)) (.varbit (some new))
  | varbitUnbounded (length : Option Nat) : Widening (.varbit length) (.varbit none)

theorem widens_iff (source target : ColumnType) :
    source.widensTo target = true ↔ source = target ∨ Widening source target := by
  rw [widensTo.eq_def, Bool.or_eq_true, beq_iff_eq]
  refine or_congr_right ⟨fun widens => ?_, fun widening => ?_⟩
  · split at widens
    · exact .varchar _ _ (of_decide_eq_true widens)
    · exact .varcharUnbounded _
    · exact .varcharText _
    · obtain ⟨scale, grows⟩ := (Bool.and_eq_true _ _).mp widens
      rw [beq_iff_eq.mp scale]
      exact .numeric _ _ _ (of_decide_eq_true grows)
    · exact .numericUnconstrained _
    · exact .varbit _ _ (of_decide_eq_true widens)
    · exact .varbitUnbounded _
    · cases widens
  · cases widening <;> simp_all

theorem widening_trans (a b c : ColumnType) (one : Widening a b) (two : Widening b c) : Widening a c := by
  cases one with
  | varchar old new grows =>
      cases two with
      | varchar _ newer further => exact .varchar old newer (grows.trans further)
      | varcharUnbounded => exact .varcharUnbounded _
      | varcharText => exact .varcharText _
  | varcharUnbounded length =>
      cases two with
      | varcharUnbounded => exact .varcharUnbounded _
      | varcharText => exact .varcharText _
  | varcharText length => cases two
  | numeric old new scale grows =>
      cases two with
      | numeric _ newer _ further => exact .numeric old newer scale (grows.trans further)
      | numericUnconstrained => exact .numericUnconstrained _
  | numericUnconstrained size =>
      cases two with
      | numericUnconstrained => exact .numericUnconstrained _
  | varbit old new grows =>
      cases two with
      | varbit _ newer further => exact .varbit old newer (grows.trans further)
      | varbitUnbounded => exact .varbitUnbounded _
  | varbitUnbounded length =>
      cases two with
      | varbitUnbounded => exact .varbitUnbounded _

theorem widening_antisymm (a b : ColumnType) (one : Widening a b) (two : Widening b a) : a = b := by
  cases one with
  | varchar old new grows =>
      cases two with
      | varchar _ _ back => rw [Nat.le_antisymm grows back]
  | numeric old new scale grows =>
      cases two with
      | numeric _ _ _ back => rw [Nat.le_antisymm grows back]
  | varbit old new grows =>
      cases two with
      | varbit _ _ back => rw [Nat.le_antisymm grows back]
  | varcharUnbounded length => cases two; rfl
  | numericUnconstrained size => cases two; rfl
  | varbitUnbounded length => cases two; rfl
  | varcharText length => cases two

theorem widens_refl (a : ColumnType) : a.widensTo a = true := (widens_iff a a).mpr (.inl rfl)

theorem widens_trans (a b c : ColumnType) (one : a.widensTo b = true) (two : b.widensTo c = true) :
    a.widensTo c = true := by
  rw [widens_iff] at one two ⊢
  rcases one with rfl | first
  · exact two
  · rcases two with rfl | second
    · exact .inr first
    · exact .inr (widening_trans a b c first second)

theorem widens_antisymm (a b : ColumnType) (one : a.widensTo b = true) (two : b.widensTo a = true) : a = b := by
  rw [widens_iff] at one two
  rcases one with same | first
  · exact same
  · rcases two with same | second
    · exact same.symm
    · exact widening_antisymm a b first second

theorem varchar_widens_iff (old new : Nat) :
    (ColumnType.varchar (some old)).widensTo (.varchar (some new)) = true ↔ old ≤ new := by
  simp only [widensTo.eq_def, Bool.or_eq_true, beq_iff_eq, decide_eq_true_eq, ColumnType.varchar.injEq,
    Option.some.injEq]
  omega

theorem varbit_widens_iff (old new : Nat) :
    (ColumnType.varbit (some old)).widensTo (.varbit (some new)) = true ↔ old ≤ new := by
  simp only [widensTo.eq_def, Bool.or_eq_true, beq_iff_eq, decide_eq_true_eq, ColumnType.varbit.injEq,
    Option.some.injEq]
  omega

theorem numeric_widens_iff (old oldScale new newScale : Nat) :
    (ColumnType.numeric (some (old, oldScale))).widensTo (.numeric (some (new, newScale))) = true ↔
      newScale = oldScale ∧ old ≤ new := by
  simp only [widensTo.eq_def, Bool.or_eq_true, Bool.and_eq_true, beq_iff_eq, decide_eq_true_eq,
    ColumnType.numeric.injEq, Option.some.injEq, Prod.mk.injEq]
  omega

-- A scale that is left out is zero.
def SpellsNumeric (precision scale : Nat) (raw : String) : Prop :=
  Spells .numeric [precision, scale] raw ∨ scale = 0 ∧ Spells .numeric [precision] raw

theorem u32_bounded (n : UInt32) : n.toNat < u32Bound := n.toNat_lt

theorem numeric_spelled (precision scale : UInt32) (raw : String)
    (spells : SpellsNumeric precision.toNat scale.toNat raw) :
    parse raw = .numeric (some (precision.toNat, scale.toNat)) := by
  rcases spells with both | ⟨zero, one⟩
  · exact parse_spelled raw .numeric _ _ both (by simp [u32_bounded]) rfl
  · rw [zero]
    exact parse_spelled raw .numeric _ _ one (by simp [u32_bounded]) rfl

end OnlineDdl.ColumnType

namespace OnlineDdl

open ColumnType

def SafelyChanged (a b : String) : Prop :=
  ∀ table column conversion config caps rows,
    (judge (.alterColumnType table column a b conversion) config caps rows).classification = .safe

theorem type_change_safe_iff (table column a b : String) (conversion : Option String) (config : PlannerConfig)
    (caps : ServerCaps) (rows : RowEstimate) :
    (judge (.alterColumnType table column a b conversion) config caps rows).classification = .safe ↔
      (parse a).widensTo (parse b) = true := by
  rw [judge]
  split
  · next widens => exact iff_of_true rfl widens
  · next narrows => exact iff_of_false (by simp [Decision.unsafeBecause, Decision.of]) narrows

theorem safely_changed_iff (a b : String) : SafelyChanged a b ↔ (parse a).widensTo (parse b) = true :=
  ⟨fun safe => (type_change_safe_iff "" "" a b none .default .default .unknown).mp (safe ..),
    fun widens table column conversion config caps rows =>
      (type_change_safe_iff table column a b conversion config caps rows).mpr widens⟩

theorem safe_type_changes_ordered :
    (∀ table column a b conversion config caps rows,
      (judge (.alterColumnType table column a b conversion) config caps rows).classification = .safe ↔
        SafelyChanged a b) ∧
    (∀ a, SafelyChanged a a) ∧
    (∀ a b c, SafelyChanged a b → SafelyChanged b c → SafelyChanged a c) ∧
    (∀ a b, SafelyChanged a b → SafelyChanged b a → parse a = parse b) ∧
    (∀ (n m : UInt32) (a b : String), Spells .varchar [n.toNat] a → Spells .varchar [m.toNat] b →
      (SafelyChanged a b ↔ n ≤ m)) ∧
    (∀ (n m : UInt32) (a b : String), Spells .varbit [n.toNat] a → Spells .varbit [m.toNat] b →
      (SafelyChanged a b ↔ n ≤ m)) ∧
    ∀ (precision scale newPrecision newScale : UInt32) (a b : String),
      SpellsNumeric precision.toNat scale.toNat a → SpellsNumeric newPrecision.toNat newScale.toNat b →
      (SafelyChanged a b ↔ newScale = scale ∧ precision ≤ newPrecision) := by
  refine ⟨fun table column a b conversion config caps rows => ?_, fun a => ?_, fun a b c one two => ?_,
    fun a b one two => ?_, fun n m a b old new => ?_, fun n m a b old new => ?_,
    fun precision scale newPrecision newScale a b old new => ?_⟩
  · rw [type_change_safe_iff, safely_changed_iff]
  · rw [safely_changed_iff]
    exact widens_refl _
  · rw [safely_changed_iff] at one two ⊢
    exact widens_trans _ _ _ one two
  · rw [safely_changed_iff] at one two
    exact widens_antisymm _ _ one two
  · rw [safely_changed_iff, parse_spelled a .varchar _ _ old (by simp [u32_bounded]) rfl,
      parse_spelled b .varchar _ _ new (by simp [u32_bounded]) rfl, varchar_widens_iff, UInt32.le_iff_toNat_le]
  · rw [safely_changed_iff, parse_spelled a .varbit _ _ old (by simp [u32_bounded]) rfl,
      parse_spelled b .varbit _ _ new (by simp [u32_bounded]) rfl, varbit_widens_iff, UInt32.le_iff_toNat_le]
  · rw [safely_changed_iff, numeric_spelled precision scale a old, numeric_spelled newPrecision newScale b new,
      numeric_widens_iff, UInt32.toNat_inj, UInt32.le_iff_toNat_le]

theorem spelled_lengths_compared :
    let short := "  Character\tVARYING ( 040 )"
    let long := "varChar(80 )"
    Spells .varchar [40] short ∧ Spells .varchar [80] long ∧
      SafelyChanged short long ∧ ¬ SafelyChanged long short := by
  intro short long
  obtain ⟨-, -, -, -, compared, -, -⟩ := safe_type_changes_ordered
  have one : Spells .varchar [40] short :=
    ⟨["character".toList, "varying".toList], by decide, ["040".toList],
      .cons ⟨"040".toList, .inl rfl, by decide, List.all_eq_true.mp (by decide), by decide⟩ .nil,
      by decide, by decide +kernel⟩
  have two : Spells .varchar [80] long :=
    ⟨["varchar".toList], by decide, ["80".toList],
      .cons ⟨"80".toList, .inl rfl, by decide, List.all_eq_true.mp (by decide), by decide⟩ .nil,
      by decide, by decide +kernel⟩
  exact ⟨one, two, (compared 40 80 short long one two).mpr (by decide),
    fun narrows => absurd ((compared 80 40 long short two one).mp narrows) (by decide)⟩

end OnlineDdl
