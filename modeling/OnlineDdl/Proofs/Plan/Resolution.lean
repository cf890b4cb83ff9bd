import OnlineDdl.Plan.Stepwise
import OnlineDdl.Proofs.Outcome

/-! Constraints and indexes told by their columns. A look-up answers where exactly one of those that are
listed fits; otherwise there is no plan, and the refusal tells what was found instead. -/

set_option autoImplicit false

namespace OnlineDdl.Stepwise

def IsRuleOn (columns : List String) (kind : Option ConstraintKind) (c : ConstraintInfo) : Prop :=
  c.columns = columns ∧ ∀ k ∈ kind, c.kind = k

def IsIndexOn (columns : List String) (i : IndexInfo) : Prop :=
  i.columns = columns ∧ i.constraint = none ∧ i.isPatternOps = false

def IsNotNullCheck (column : String) (c : ConstraintInfo) : Prop :=
  c.kind = .check ∧ Text.endsWith "_notnull" c.name = true ∧ c.columns = [column]

instance (columns : List String) (kind : Option ConstraintKind) : DecidablePred (IsRuleOn columns kind) :=
  fun _ => inferInstanceAs (Decidable (_ ∧ _))

instance (columns : List String) : DecidablePred (IsIndexOn columns) :=
  fun _ => inferInstanceAs (Decidable (_ ∧ _))

instance (column : String) : DecidablePred (IsNotNullCheck column) :=
  fun _ => inferInstanceAs (Decidable (_ ∧ _))

def IsSoleRule (entry : Option TableEntry) (columns : List String) (kind : Option ConstraintKind)
    (c : ConstraintInfo) : Prop :=
  ∃ known ∈ entry, known.constraints.filter (IsRuleOn columns kind) = [c]

def IsSoleIndex (entry : Option TableEntry) (columns : List String) (i : IndexInfo) : Prop :=
  ∃ known ∈ entry, known.indexes.filter (IsIndexOn columns) = [i]

def IsSoleNotNullCheck (entry : Option TableEntry) (column : String) (c : ConstraintInfo) : Prop :=
  ∃ known ∈ entry, known.constraints.filter (IsNotNullCheck column) = [c]

inductive NoSoleRule (table : String) (entry : Option TableEntry) (columns : List String)
    (kind : Option ConstraintKind) : Precondition → Prop where
  | unlisted (unknown : entry = none) : NoSoleRule table entry columns kind (.unknownTable table)
  | nothing (known : TableEntry) (listed : entry = some known)
      (empty : known.constraints.filter (IsRuleOn columns kind) = []) :
      NoSoleRule table entry columns kind (.noConstraint table columns)
  | several (known : TableEntry) (listed : entry = some known) (found : List ConstraintInfo)
      (all : known.constraints.filter (IsRuleOn columns kind) = found) (many : 1 < found.length) :
      NoSoleRule table entry columns kind (.ambiguousConstraint table columns (found.map (·.name)))

inductive NoSoleIndex (table : String) (entry : Option TableEntry) (columns : List String) :
    Precondition → Prop where
  | unlisted (unknown : entry = none) : NoSoleIndex table entry columns (.unknownTable table)
  | nothing (known : TableEntry) (listed : entry = some known)
      (empty : known.indexes.filter (IsIndexOn columns) = []) :
      NoSoleIndex table entry columns (.noIndex table columns)
  | several (known : TableEntry) (listed : entry = some known) (found : List IndexInfo)
      (all : known.indexes.filter (IsIndexOn columns) = found) (many : 1 < found.length) :
      NoSoleIndex table entry columns (.ambiguousIndex table columns (found.map (·.name)))

def IsResolved (entry : Option TableEntry) : Operation → Prop
  | .dropConstraint _ none columns kind => ∃ c, IsSoleRule entry columns kind c
  | .dropIndex _ none columns => ∃ i, IsSoleIndex entry columns i
  | .alterTogether _ .unique _ remove => ∀ group ∈ remove, ∃ c, IsSoleRule entry group (some .unique) c
  | .alterTogether _ .index _ remove => ∀ group ∈ remove, ∃ i, IsSoleIndex entry group i
  | _ => True

inductive Refused (entry : Option TableEntry) : Operation → Precondition → Prop where
  | constraint (table : String) (columns : List String) (kind : Option ConstraintKind) (cause : Precondition)
      (missing : NoSoleRule table entry columns kind cause) :
      Refused entry (.dropConstraint table none columns kind) cause
  | index (table : String) (columns : List String) (cause : Precondition)
      (missing : NoSoleIndex table entry columns cause) : Refused entry (.dropIndex table none columns) cause
  | removedConstraint (table : String) (add remove : List (List String)) (group : List String)
      (cause : Precondition) (inside : group ∈ remove)
      (missing : NoSoleRule table entry group (some .unique) cause) :
      Refused entry (.alterTogether table .unique add remove) cause
  | removedIndex (table : String) (add remove : List (List String)) (group : List String) (cause : Precondition)
      (inside : group ∈ remove) (missing : NoSoleIndex table entry group cause) :
      Refused entry (.alterTogether table .index add remove) cause

variable (entry : Option TableEntry)

theorem rules_on (known : TableEntry) (columns : List String) (kind : Option ConstraintKind) :
    known.constraintsOn columns kind = known.constraints.filter (IsRuleOn columns kind) := by
  rw [TableEntry.constraintsOn]
  refine List.filter_congr fun c _ => ?_
  cases kind <;> simp [IsRuleOn, Bool.beq_eq_decide_eq]

theorem indexes_on (known : TableEntry) (columns : List String) :
    known.indexesOn columns = known.indexes.filter (IsIndexOn columns) := by
  rw [TableEntry.indexesOn]
  refine List.filter_congr fun i _ => ?_
  rw [Bool.eq_iff_iff, decide_eq_true_iff]
  simp [IsIndexOn, and_assoc]

theorem not_null_checks_on (known : TableEntry) (column : String) :
    known.notNullChecks column = known.constraints.filter (IsNotNullCheck column) := by
  rw [TableEntry.notNullChecks]
  refine List.filter_congr fun c _ => ?_
  rw [Bool.eq_iff_iff, decide_eq_true_iff]
  simp [IsNotNullCheck, and_assoc]

theorem resolve_constraint_ok_iff (table : String) (columns : List String) (kind : Option ConstraintKind)
    (c : ConstraintInfo) :
    resolveConstraint table entry columns kind = .ok c ↔ IsSoleRule entry columns kind c := by
  cases entry with
  | none => simp [resolveConstraint, IsSoleRule]
  | some known =>
      rw [resolveConstraint, rules_on]
      rcases found : known.constraints.filter (IsRuleOn columns kind) with _ | ⟨first, _ | ⟨second, rest⟩⟩ <;>
        simp [IsSoleRule, found]

theorem resolve_constraint_error (table : String) (columns : List String) (kind : Option ConstraintKind)
    (cause : Precondition) (fails : resolveConstraint table entry columns kind = .error cause) :
    NoSoleRule table entry columns kind cause := by
  cases entry with
  | none =>
      cases fails
      exact .unlisted rfl
  | some known =>
      rw [resolveConstraint, rules_on] at fails
      rcases found : known.constraints.filter (IsRuleOn columns kind) with _ | ⟨first, _ | ⟨second, rest⟩⟩ <;>
        rw [found] at fails <;> cases fails
      · exact .nothing known rfl found
      · exact .several known rfl _ found (by simp)

theorem resolve_index_ok_iff (table : String) (columns : List String) (i : IndexInfo) :
    resolveIndex table entry columns = .ok i ↔ IsSoleIndex entry columns i := by
  cases entry with
  | none => simp [resolveIndex, IsSoleIndex]
  | some known =>
      rw [resolveIndex, indexes_on]
      rcases found : known.indexes.filter (IsIndexOn columns) with _ | ⟨first, _ | ⟨second, rest⟩⟩ <;>
        simp [IsSoleIndex, found]

theorem resolve_index_error (table : String) (columns : List String) (cause : Precondition)
    (fails : resolveIndex table entry columns = .error cause) : NoSoleIndex table entry columns cause := by
  cases entry with
  | none =>
      cases fails
      exact .unlisted rfl
  | some known =>
      rw [resolveIndex, indexes_on] at fails
      rcases found : known.indexes.filter (IsIndexOn columns) with _ | ⟨first, _ | ⟨second, rest⟩⟩ <;>
        rw [found] at fails <;> cases fails
      · exact .nothing known rfl found
      · exact .several known rfl _ found (by simp)

theorem not_null_check_ok (table column : String) (c : ConstraintInfo)
    (found : notNullCheck table entry column = .ok (some c)) : IsSoleNotNullCheck entry column c := by
  cases entry with
  | none => cases found
  | some known =>
      rw [notNullCheck, not_null_checks_on] at found
      rcases all : known.constraints.filter (IsNotNullCheck column) with _ | ⟨first, _ | ⟨second, rest⟩⟩ <;>
        rw [all] at found <;> cases found
      exact ⟨known, rfl, all⟩

theorem sole_rule_fits (columns : List String) (kind : Option ConstraintKind) (c : ConstraintInfo)
    (sole : IsSoleRule entry columns kind c) : IsRuleOn columns kind c := by
  obtain ⟨known, -, found⟩ := sole
  have member : c ∈ known.constraints.filter (IsRuleOn columns kind) := found ▸ List.mem_singleton_self c
  exact of_decide_eq_true (List.mem_filter.mp member).2

theorem unresolved_refused (op : Operation) (caps : ServerCaps) (decision : Decision)
    (unresolved : ¬ IsResolved entry op) :
    ∃ cause, steps op decision caps entry = .error cause ∧ Refused entry op cause := by
  cases op with
  | dropConstraint table name columns kind =>
      cases name with
      | some name => exact absurd trivial unresolved
      | none =>
          cases found : resolveConstraint table entry columns kind with
          | ok c => exact absurd ⟨c, (resolve_constraint_ok_iff entry table columns kind c).mp found⟩ unresolved
          | error cause =>
              refine ⟨cause, ?_, .constraint table columns kind cause (resolve_constraint_error entry _ _ _ _ found)⟩
              rw [steps, dropConstraint, dropTarget, found]
              rfl
  | dropIndex table name columns =>
      cases name with
      | some name => exact absurd trivial unresolved
      | none =>
          cases found : resolveIndex table entry columns with
          | ok i => exact absurd ⟨i, (resolve_index_ok_iff entry table columns i).mp found⟩ unresolved
          | error cause =>
              refine ⟨cause, ?_, .index table columns cause (resolve_index_error entry _ _ _ found)⟩
              rw [steps, dropIndex, indexTarget, found]
              rfl
  | alterTogether table kind add remove =>
      cases removed : remove.mapM (removeGroup table kind entry) with
      | ok removals =>
          refine absurd ?_ unresolved
          cases kind with
          | unique =>
              intro group inside
              obtain ⟨step, found⟩ := map_all_each _ _ _ removed group inside
              obtain ⟨c, sole, -⟩ := (map_ok_iff _ _ _).mp found
              exact ⟨c, (resolve_constraint_ok_iff entry table group _ c).mp sole⟩
          | index =>
              intro group inside
              obtain ⟨step, found⟩ := map_all_each _ _ _ removed group inside
              obtain ⟨i, sole, -⟩ := (map_ok_iff _ _ _).mp found
              exact ⟨i, (resolve_index_ok_iff entry table group i).mp sole⟩
      | error cause =>
          refine ⟨cause, (map_error_iff _ _ _).mpr removed, ?_⟩
          obtain ⟨group, inside, fails⟩ := map_all_error _ _ _ removed
          cases kind with
          | unique =>
              have missing := resolve_constraint_error entry _ _ _ _ ((map_error_iff _ _ _).mp fails)
              exact .removedConstraint table add remove group cause inside missing
          | index =>
              have missing := resolve_index_error entry _ _ _ ((map_error_iff _ _ _).mp fails)
              exact .removedIndex table add remove group cause inside missing
  | _ => exact absurd trivial unresolved

end OnlineDdl.Stepwise
