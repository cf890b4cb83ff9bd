import OnlineDdl.Proofs.Plan.Standing

/-! What a plan is made of, told by names: the indexes that it builds, the constraints that it adds and
the indexes that it drops beside other work. What is known under a name decides on the part of the plan
that concerns it. -/

set_option autoImplicit false

namespace OnlineDdl.Stepwise

def clearedIndex? (step : Step) : Option String :=
  match step.change with
  | .dropIndex name true => some name
  | _ => none

def knownIndex (entry : Option TableEntry) (name : String) : Option Bool :=
  (entry.bind (·.index? name)).map (·.valid)

def knownRule (entry : Option TableEntry) (name : String) : Option Bool :=
  (entry.bind (·.constraint? name)).map (·.validated)

def columnIndex (table : String) (column : ColumnDef) (entry : Option TableEntry) : Option IndexSpec :=
  if column.references.isSome then
    if (entry.bind (·.supportingIndex? [column.name])).isSome then none
    else some (.generated table [column.name])
  else if column.index && !column.primaryKey && !column.unique then some (.generated table [column.name])
  else none

-- The indexes that the plan of an operation sees to. A reference needs none where a valid index leads
-- with its columns.
def wantedIndexes (op : Operation) (caps : ServerCaps) (entry : Option TableEntry) : List IndexSpec :=
  match op with
  | .addColumn table column =>
    (columnKey table column).toList.map Key.index ++ (columnIndex table column entry).toList
      ++ (column.patternIndex table caps).toList
  | .addConstraint table (.unique name columns condition _) =>
    [.uniqueOn (uniqueName table name columns) table columns condition]
  | .addConstraint table (.primaryKey name columns) =>
    [.uniqueOn (primaryKeyName table name columns) table columns none]
  | .addConstraint table (.foreignKey _ columns _ _ _ _) =>
    if (entry.bind (·.supportingIndex? columns)).isSome then [] else [.generated table columns]
  | .addIndex table index =>
    if index.concurrently then []
    else (IndexSpec.ofDef table index).toOption.toList ++ (requestedPatternIndex table index caps).toList
  | .alterTogether table kind add _ => add.map (groupIndex table kind)
  | _ => []

theorem build_index_known_as (entry : Option TableEntry) (index : IndexSpec) :
    buildIndex entry index =
      match knownIndex entry index.name with
      | none => [.createIndexConcurrently index]
      | some true => []
      | some false => [.dropIndexConcurrently index.name, .createIndexConcurrently index] := by
  rw [buildIndex, knownIndex]
  cases entry.bind (·.index? index.name) with
  | none => rfl
  | some i => cases valid : i.valid <;> simp [valid]

@[simp] theorem build_index_builds (entry : Option TableEntry) (index : IndexSpec) :
    (buildIndex entry index).filterMap builtIndex? =
      [index.name].filter fun name => knownIndex entry name != some true := by
  rw [build_index_known_as, List.filter_cons]
  rcases knownIndex entry index.name with _ | _ | _ <;> rfl

@[simp] theorem build_index_clears (entry : Option TableEntry) (index : IndexSpec) :
    (buildIndex entry index).filterMap clearedIndex? =
      [index.name].filter fun name => knownIndex entry name == some false := by
  rw [build_index_known_as, List.filter_cons]
  rcases knownIndex entry index.name with _ | _ | _ <;> rfl

@[simp] theorem build_index_adds (entry : Option TableEntry) (index : IndexSpec) :
    (buildIndex entry index).filterMap addedRule? = [] := by
  rw [build_index_known_as]
  rcases knownIndex entry index.name with _ | _ | _ <;> rfl

theorem build_all_builds (entry : Option TableEntry) (indexes : List IndexSpec) :
    (indexes.flatMap (buildIndex entry)).filterMap builtIndex? =
      (indexes.map (·.name)).filter fun name => knownIndex entry name != some true := by
  induction indexes with
  | nil => rfl
  | cons index rest ih =>
      rw [List.flatMap_cons, List.filterMap_append, ih, build_index_builds, ← List.filter_append]
      rfl

theorem build_all_clears (entry : Option TableEntry) (indexes : List IndexSpec) :
    (indexes.flatMap (buildIndex entry)).filterMap clearedIndex? =
      (indexes.map (·.name)).filter fun name => knownIndex entry name == some false := by
  induction indexes with
  | nil => rfl
  | cons index rest ih =>
      rw [List.flatMap_cons, List.filterMap_append, ih, build_index_clears, ← List.filter_append]
      rfl

theorem build_all_adds (entry : Option TableEntry) (indexes : List IndexSpec) :
    (indexes.flatMap (buildIndex entry)).filterMap addedRule? = [] := by
  induction indexes with
  | nil => rfl
  | cons index rest ih => simp [ih]

theorem add_not_valid_known_as (entry : Option TableEntry) (table name : String) (body : ConstraintBody) :
    addNotValid entry table name body =
      match knownRule entry name with
      | none => [.alter table (.addConstraint name body true), .validate table name]
      | some true => []
      | some false => [.validate table name] := by
  rw [addNotValid, knownRule]
  cases entry.bind (·.constraint? name) with
  | none => rfl
  | some c => cases valid : c.validated <;> simp [valid]

@[simp] theorem add_not_valid_builds (entry : Option TableEntry) (table name : String) (body : ConstraintBody) :
    (addNotValid entry table name body).filterMap builtIndex? = [] := by
  rw [add_not_valid_known_as]
  rcases knownRule entry name with _ | _ | _ <;> rfl

@[simp] theorem add_not_valid_clears (entry : Option TableEntry) (table name : String) (body : ConstraintBody) :
    (addNotValid entry table name body).filterMap clearedIndex? = [] := by
  rw [add_not_valid_known_as]
  rcases knownRule entry name with _ | _ | _ <;> rfl

@[simp] theorem add_not_valid_adds (entry : Option TableEntry) (table name : String) (body : ConstraintBody) :
    (addNotValid entry table name body).filterMap addedRule? =
      [name].filter fun name => knownRule entry name == none := by
  rw [add_not_valid_known_as, List.filter_cons]
  rcases knownRule entry name with _ | _ | _ <;> rfl

theorem add_key_known_as (entry : Option TableEntry) (key : Key) :
    addKey entry key = buildIndex entry key.index ++
      if key.condition.isSome || (knownRule entry key.name).isSome then []
      else [.alter key.table (.addConstraint key.name (.usingIndex key.primary key.name key.deferrable) false)] := by
  rw [addKey, knownRule, Option.isSome_map]

@[simp] theorem add_key_builds (entry : Option TableEntry) (key : Key) :
    (addKey entry key).filterMap builtIndex? = (buildIndex entry key.index).filterMap builtIndex? := by
  rw [add_key_known_as, List.filterMap_append]
  cases key.condition.isSome || (knownRule entry key.name).isSome <;> simp [builtIndex?, Step.alter, Step.wrapped]

@[simp] theorem add_key_clears (entry : Option TableEntry) (key : Key) :
    (addKey entry key).filterMap clearedIndex? = (buildIndex entry key.index).filterMap clearedIndex? := by
  rw [add_key_known_as, List.filterMap_append]
  cases key.condition.isSome || (knownRule entry key.name).isSome <;> simp [clearedIndex?, Step.alter, Step.wrapped]

@[simp] theorem add_key_adds (entry : Option TableEntry) (key : Key) :
    (addKey entry key).filterMap addedRule? =
      if key.condition.isSome || (knownRule entry key.name).isSome then [] else [key.name] := by
  rw [add_key_known_as, List.filterMap_append, build_index_adds]
  cases key.condition.isSome || (knownRule entry key.name).isSome <;> rfl

@[simp] theorem adopt_not_null_builds (table column : String) (strategy : NotNullStrategy) (caps : ServerCaps) :
    (adoptNotNull table column strategy caps).filterMap builtIndex? = [] := by
  cases strategy with
  | constraintAssisted =>
      rw [adoptNotNull]
      split <;> rfl
  | catalogUpdate => rfl
  | directUnsafe => rfl

@[simp] theorem adopt_not_null_adds (table column : String) (strategy : NotNullStrategy) (caps : ServerCaps) :
    (adoptNotNull table column strategy caps).filterMap addedRule? = [] := by
  cases strategy with
  | constraintAssisted =>
      rw [adoptNotNull]
      split <;> rfl
  | catalogUpdate => rfl
  | directUnsafe => rfl

@[simp] theorem adopt_not_null_clears (table column : String) (strategy : NotNullStrategy) (caps : ServerCaps) :
    (adoptNotNull table column strategy caps).filterMap clearedIndex? = [] := by
  cases strategy with
  | constraintAssisted =>
      rw [adoptNotNull]
      split <;> rfl
  | catalogUpdate => rfl
  | directUnsafe => rfl

@[simp] theorem drops_build (names : List String) :
    (names.map Step.dropIndexConcurrently).filterMap builtIndex? = [] := by
  simp [List.filterMap_map, builtIndex?, Step.dropIndexConcurrently]

@[simp] theorem drops_add (names : List String) :
    (names.map Step.dropIndexConcurrently).filterMap addedRule? = [] := by
  simp [List.filterMap_map, addedRule?, Step.dropIndexConcurrently]

@[simp] theorem drops_clear (names : List String) :
    (names.map Step.dropIndexConcurrently).filterMap clearedIndex? = names := by
  rw [List.filterMap_map]
  exact List.filterMap_some

theorem promotion_parts (table : String) (name : Option String) (columns : List String) (entry : Option TableEntry) :
    addConstraint table entry (.primaryKey name columns) =
      .ok (addKey entry (.primaryKey table (primaryKeyName table name columns) columns)
        ++ ((promotedPatternIndex entry columns).toList.map (·.name)).map .dropIndexConcurrently) := by
  rw [addConstraint, List.map_map]
  rfl

end OnlineDdl.Stepwise
