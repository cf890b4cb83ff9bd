import OnlineDdl.Proofs.Plan.Dropping

/-! A unique group is removed by its columns, and so is its constraint by a request to drop one. Both find
the same constraint or are refused alike; only the request to drop takes along the index for pattern
searches that a group of a single column may have. -/

set_option autoImplicit false

namespace OnlineDdl.Stepwise

def besideKey (entry : Option TableEntry) : List String → Option IndexInfo
  | [column] => entry.bind (·.patternOpsIndex? column)
  | _ => none

def LeavesHelper (entry : Option TableEntry) (group : List String) : Prop :=
  ∃ column c i, group = [column] ∧ IsSoleRule entry group (some .unique) c ∧ IsPatternHelper entry column i

variable (entry : Option TableEntry) (caps : ServerCaps) (table : String)

theorem beside_key_iff (group : List String) :
    (∃ i, besideKey entry group = some i) ↔ ∃ column i, group = [column] ∧ IsPatternHelper entry column i := by
  rcases group with _ | ⟨column, _ | ⟨second, rest⟩⟩
  · simp [besideKey]
  · cases entry with
    | none => simp [besideKey, IsPatternHelper]
    | some known =>
        simp only [besideKey, Option.bind_some, TableEntry.patternOpsIndex?, ← Option.isSome_iff_exists,
          List.find?_isSome, Bool.and_eq_true, beq_iff_eq, List.cons.injEq, and_true]
        constructor
        · rintro ⟨i, listed, fits⟩
          exact ⟨column, i, rfl, known, rfl, listed, fits⟩
        · rintro ⟨_, i, rfl, _, ⟨rfl⟩, listed, fits⟩
          exact ⟨i, listed, fits⟩
  · simp [besideKey]

theorem group_removed_alone (group : List String) :
    alterTogether table .unique [] [group] entry =
      (resolveConstraint table entry group (some .unique)).map fun c => [.dropConstraint table c.name] := by
  rw [alterTogether, map_all_next, removeGroup]
  cases resolveConstraint table entry group (some .unique) <;> rfl

-- What is resolved is listed, so that no helper is named where nothing is known about the table.
theorem constraint_dropped_alone (group : List String) :
    dropConstraint table none group (some .unique) caps entry =
      (resolveConstraint table entry group (some .unique)).map fun c =>
        .dropConstraint table c.name :: (besideKey entry group).toList.map (.dropIndexConcurrently ·.name) := by
  cases found : resolveConstraint table entry group (some .unique) with
  | error cause => simp [dropConstraint, dropTarget, found, Except.map]
  | ok c =>
      have sole := (resolve_constraint_ok_iff entry table group (some .unique) c).mp found
      obtain ⟨on, unique⟩ := sole_rule_fits entry group (some .unique) c sole
      have kind : c.kind = .unique := unique .unique rfl
      obtain ⟨known, listed, -⟩ := sole
      rw [Option.mem_def] at listed
      subst listed
      rcases group with _ | ⟨column, _ | ⟨second, rest⟩⟩
      · simp [dropConstraint, dropTarget, found, Except.map, orphanedPatternIndex, on, besideKey]
      · cases helper : known.patternOpsIndex? column <;>
          simp [dropConstraint, dropTarget, found, Except.map, orphanedPatternIndex, on, kind,
            ConstraintKind.isIndexBacked, besideKey, helper]
      · simp [dropConstraint, dropTarget, found, Except.map, orphanedPatternIndex, on, besideKey]

theorem groups_removed_one_by_one (add remove : List (List String)) :
    alterTogether table .unique add remove entry =
      (remove.mapM fun group => alterTogether table .unique [] [group] entry).map fun plans =>
        plans.flatten ++ add.flatMap (addGroup table .unique entry) := by
  have alone (group : List String) : alterTogether table .unique [] [group] entry =
      (removeGroup table .unique entry group).map ([·]) := by
    rw [group_removed_alone, removeGroup]
    cases resolveConstraint table entry group (some .unique) <;> rfl
  simp only [alone, map_all_map]
  rw [alterTogether]
  cases remove.mapM (removeGroup table .unique entry) with
  | error cause => rfl
  | ok removals => simp [Except.map, ← List.flatMap_def]

theorem helper_taken_along (group : List String) :
    dropConstraint table none group (some .unique) caps entry =
      (alterTogether table .unique [] [group] entry).map fun planned =>
        planned ++ (besideKey entry group).toList.map (.dropIndexConcurrently ·.name) := by
  rw [constraint_dropped_alone, group_removed_alone]
  cases resolveConstraint table entry group (some .unique) <;> rfl

theorem removed_alike_iff (group : List String) :
    (alterTogether table .unique [] [group] entry).map Plan.ofSteps =
        (dropConstraint table none group (some .unique) caps entry).map Plan.ofSteps ↔
      ¬ LeavesHelper entry group := by
  have leaves : LeavesHelper entry group ↔
      (∃ c, IsSoleRule entry group (some .unique) c) ∧ ∃ i, besideKey entry group = some i := by
    rw [beside_key_iff]
    constructor
    · rintro ⟨column, c, i, single, sole, helper⟩
      exact ⟨⟨c, sole⟩, column, i, single, helper⟩
    · rintro ⟨⟨c, sole⟩, column, i, single, helper⟩
      exact ⟨column, c, i, single, sole, helper⟩
  rw [leaves, constraint_dropped_alone, group_removed_alone]
  cases found : resolveConstraint table entry group (some .unique) with
  | error cause =>
      have unresolved (c : ConstraintInfo) : ¬ IsSoleRule entry group (some .unique) c := fun sole => by
        rw [(resolve_constraint_ok_iff entry table group (some .unique) c).mpr sole] at found
        cases found
      simp [Except.map, unresolved]
  | ok c =>
      have sole := (resolve_constraint_ok_iff entry table group (some .unique) c).mp found
      have resolved : ∃ c, IsSoleRule entry group (some .unique) c := ⟨c, sole⟩
      cases besideKey entry group <;> simp [Except.map, Plan.ofSteps, resolved]

-- A group goes like its constraint unless it leaves a helper behind. The refusals are the same, the helper
-- is all that differs, and a group among others goes as it would go alone.
theorem group_removed_as_constraint_iff (group : List String) (decision other : Decision) (catalog : Catalog) :
    let removed := forCatalog (.alterTogether table .unique [] [group]) decision caps catalog
    let dropped := forCatalog (.dropConstraint table none group (some .unique)) other caps catalog
    (removed.map Plan.ofSteps = dropped.map Plan.ofSteps ↔ ¬ LeavesHelper (catalog.table? table) group) ∧
      (∀ cause, removed = .error cause ↔ dropped = .error cause) ∧
      dropped = (removed.map fun planned =>
        planned ++ (besideKey (catalog.table? table) group).toList.map (.dropIndexConcurrently ·.name)) ∧
      ∀ add remove, forCatalog (.alterTogether table .unique add remove) decision caps catalog =
        (remove.mapM fun one => forCatalog (.alterTogether table .unique [] [one]) decision caps catalog).map
          fun plans => plans.flatten ++ add.flatMap (addGroup table .unique (catalog.table? table)) := by
  intro removed dropped
  have taken : dropped = removed.map fun planned =>
      planned ++ (besideKey (catalog.table? table) group).toList.map (.dropIndexConcurrently ·.name) :=
    helper_taken_along (catalog.table? table) caps table group
  refine ⟨removed_alike_iff (catalog.table? table) caps table group, fun cause => ?_, taken,
    groups_removed_one_by_one (catalog.table? table) table⟩
  rw [taken, map_error_iff]

theorem pair_removed_as_constraint :
    let group := ["row", "number"]
    let seats := TableEntry.empty.withConstraint ⟨"seats_key", .unique, group, true, some "seats_key"⟩
    let catalog : Catalog := { tables := [("seats", seats)] }
    let removed := forCatalog (.alterTogether "seats" .unique [] [group]) (.of .safe) .default catalog
    let dropped := forCatalog (.dropConstraint "seats" none group (some .unique)) (.of .safe) .default catalog
    removed = .ok [.dropConstraint "seats" "seats_key"] ∧ removed.map Plan.ofSteps = dropped.map Plan.ofSteps := by
  intro group seats catalog removed dropped
  have pair : ¬ LeavesHelper (catalog.table? "seats") group := by
    rintro ⟨column, c, i, single, -⟩
    simp [group] at single
  exact ⟨by decide +kernel,
    (group_removed_as_constraint_iff .default "seats" group (.of .safe) (.of .safe) catalog).1.mpr pair⟩

-- The index for searches by leading characters is of no use without the key, and stays.
theorem helper_left_behind :
    let key : ConstraintInfo := ⟨"orders_code_key", .unique, ["code"], true, some "orders_code_key"⟩
    let helper : IndexInfo := ⟨"orders_code_like", ["code"], ["varchar_pattern_ops"], false, false, true, false, none⟩
    let catalog : Catalog := { tables := [("orders", (TableEntry.empty.withConstraint key).withIndex helper)] }
    let removed := forCatalog (.alterTogether "orders" .unique [] [["code"]]) (.of .safe) .default catalog
    let dropped := forCatalog (.dropConstraint "orders" none ["code"] (some .unique)) (.of .safe) .default catalog
    removed = .ok [.dropConstraint "orders" "orders_code_key"] ∧
      dropped = .ok [.dropConstraint "orders" "orders_code_key", .dropIndexConcurrently "orders_code_like"] ∧
      removed.map Plan.ofSteps ≠ dropped.map Plan.ofSteps := by
  intro key helper catalog removed dropped
  have one : removed = .ok [.dropConstraint "orders" "orders_code_key"] := by decide +kernel
  have two : dropped =
      .ok [.dropConstraint "orders" "orders_code_key", .dropIndexConcurrently "orders_code_like"] := by
    decide +kernel
  refine ⟨one, two, ?_⟩
  rw [one, two]
  simp [Except.map, Plan.ofSteps]

end OnlineDdl.Stepwise
