import OnlineDdl.Proofs.Plan.Contents
import OnlineDdl.Proofs.Plan.Resolution
import OnlineDdl.Proofs.Plan.Locality

/-! What a plan drops, and why. Every constraint and every index that a plan drops is named by the
request, is the only match for it, or belongs to what the request does away with; a request that
matches nothing or too much is refused. -/

set_option autoImplicit false

namespace OnlineDdl.Stepwise

inductive Dropped where
  | constraint (table name : String)
  | index (name : String)
deriving DecidableEq, Repr

def dropped? : Ddl → Option Dropped
  | .alterTable table (.dropConstraint name) => some (.constraint table name)
  | .dropIndex name _ => some (.index name)
  | _ => none

def IsPatternHelper (entry : Option TableEntry) (column : String) (i : IndexInfo) : Prop :=
  ∃ known ∈ entry, i ∈ known.indexes ∧ i.isPatternOps = true ∧ i.columns = [column]

def IsMeant (entry : Option TableEntry) (name : Option String) (columns : List String)
    (kind : Option ConstraintKind) (c : ConstraintInfo) : Prop :=
  match name with
  | some name => entry.bind (·.constraint? name) = some c
  | none => IsSoleRule entry columns kind c

-- A request to drop a key on a single column, which the request gives or else the constraint that it
-- means; and so with the kind.
structure DropsKey (entry : Option TableEntry) (name : Option String) (columns : List String)
    (kind : Option ConstraintKind) (column : String) : Prop where
  on : columns = [column] ∨ columns = [] ∧ ∃ c, IsMeant entry name columns kind c ∧ c.columns = [column]
  backed : (∃ k ∈ kind, k.isIndexBacked = true) ∨
    kind = none ∧ ∃ c, IsMeant entry name columns kind c ∧ c.kind.isIndexBacked = true

inductive Grounds (caps : ServerCaps) (entry : Option TableEntry) : Operation → Dropped → Prop where
  | namedConstraint (table name : String) (columns : List String) (kind : Option ConstraintKind) :
      Grounds caps entry (.dropConstraint table (some name) columns kind) (.constraint table name)
  | namedIndex (table name : String) (columns : List String) :
      Grounds caps entry (.dropIndex table (some name) columns) (.index name)
  | soleConstraint (table : String) (columns : List String) (kind : Option ConstraintKind) (c : ConstraintInfo)
      (sole : IsSoleRule entry columns kind c) :
      Grounds caps entry (.dropConstraint table none columns kind) (.constraint table c.name)
  | soleIndex (table : String) (columns : List String) (i : IndexInfo) (sole : IsSoleIndex entry columns i) :
      Grounds caps entry (.dropIndex table none columns) (.index i.name)
  | removedConstraint (table : String) (add remove : List (List String)) (group : List String)
      (c : ConstraintInfo) (inside : group ∈ remove) (sole : IsSoleRule entry group (some .unique) c) :
      Grounds caps entry (.alterTogether table .unique add remove) (.constraint table c.name)
  | removedIndex (table : String) (add remove : List (List String)) (group : List String) (i : IndexInfo)
      (inside : group ∈ remove) (sole : IsSoleIndex entry group i) :
      Grounds caps entry (.alterTogether table .index add remove) (.index i.name)
  | notNullCheck (table column : String) (c : ConstraintInfo) (sole : IsSoleNotNullCheck entry column c) :
      Grounds caps entry (.dropNotNull table column) (.constraint table c.name)
  | notNullHelper (table column : String) :
      Grounds caps entry (.setNotNull table column)
        (.constraint table (ObjectName.named .notNull table [column]))
  | promoted (table : String) (name : Option String) (column : String) (i : IndexInfo)
      (unique : ∃ known ∈ entry, ∃ c ∈ known.constraints, c.kind = .unique ∧ c.columns = [column])
      (helper : IsPatternHelper entry column i) :
      Grounds caps entry (.addConstraint table (.primaryKey name [column])) (.index i.name)
  | orphaned (table : String) (name : Option String) (columns : List String) (kind : Option ConstraintKind)
      (column : String) (i : IndexInfo) (key : DropsKey entry name columns kind column)
      (helper : IsPatternHelper entry column i) :
      Grounds caps entry (.dropConstraint table name columns kind) (.index i.name)
  | generated (table : String) (name : Option String) (columns : List String) (kind : Option ConstraintKind)
      (column : String) (key : DropsKey entry name columns kind column) (unknown : entry = none)
      (collated : caps.cCollation = false) :
      Grounds caps entry (.dropConstraint table name columns kind)
        (.index (ObjectName.named .patternOps table [column]))

def IsRebuilt (entry : Option TableEntry) (next : Option Step) (target : Dropped) : Prop :=
  ∃ index : IndexSpec, target = .index index.name ∧ knownIndex entry index.name = some false ∧
    next = some (.createIndexConcurrently index)

def Justified (caps : ServerCaps) (entry : Option TableEntry) (op : Operation) : List Step → Prop
  | [] => True
  | step :: rest =>
    (∀ target ∈ dropped? step.change, Grounds caps entry op target ∨ IsRebuilt entry rest.head? target) ∧
      Justified caps entry op rest

variable (caps : ServerCaps) (entry : Option TableEntry) (op : Operation)

theorem justified_append (first second : List Step) (one : Justified caps entry op first)
    (two : Justified caps entry op second) : Justified caps entry op (first ++ second) := by
  induction first with
  | nil => exact two
  | cons step rest ih =>
      refine ⟨fun target drops => (one.1 target drops).imp_right fun rebuilt => ?_, ih one.2⟩
      -- Only a rebuilding looks ahead, and it finds its next step in the first part already.
      obtain ⟨index, same, broken, follows⟩ := rebuilt
      refine ⟨index, same, broken, ?_⟩
      cases rest with
      | nil => cases follows
      | cons next later => exact follows

theorem justified_flat {α : Type} (parts : List α) (plan : α → List Step)
    (each : ∀ part ∈ parts, Justified caps entry op (plan part)) : Justified caps entry op (parts.flatMap plan) := by
  induction parts with
  | nil => trivial
  | cons part rest ih =>
      rw [List.flatMap_cons]
      exact justified_append caps entry op _ _ (each part List.mem_cons_self)
        (ih fun other member => each other (List.mem_cons_of_mem _ member))

theorem justified_each (planned : List Step)
    (each : ∀ step ∈ planned, ∀ target ∈ dropped? step.change, Grounds caps entry op target) :
    Justified caps entry op planned := by
  induction planned with
  | nil => trivial
  | cons step rest ih =>
      exact ⟨fun target drops => .inl (each step List.mem_cons_self target drops),
        ih fun other member => each other (List.mem_cons_of_mem _ member)⟩

theorem justified_silent (planned : List Step) (silent : ∀ step ∈ planned, dropped? step.change = none) :
    Justified caps entry op planned := by
  refine justified_each caps entry op planned fun step member target drops => ?_
  rw [silent step member] at drops
  cases drops

theorem justified_at (before after : List Step) (step : Step) (target : Dropped)
    (justified : Justified caps entry op (before ++ step :: after))
    (drops : dropped? step.change = some target) :
    Grounds caps entry op target ∨ IsRebuilt entry after.head? target := by
  induction before with
  | nil => exact justified.1 target drops
  | cons earlier rest ih => exact ih justified.2

theorem build_index_justified (index : IndexSpec) : Justified caps entry op (buildIndex entry index) := by
  have created : Justified caps entry op [.createIndexConcurrently index] :=
    justified_silent caps entry op _ (by simp [Step.createIndexConcurrently, dropped?])
  rw [build_index_known_as]
  rcases known : knownIndex entry index.name with _ | _ | _
  · exact created
  · refine ⟨fun target drops => ?_, created⟩
    cases drops
    exact .inr ⟨index, rfl, known, rfl⟩
  · trivial

theorem add_not_valid_justified (table name : String) (body : ConstraintBody) :
    Justified caps entry op (addNotValid entry table name body) := by
  apply justified_silent
  rw [add_not_valid_known_as]
  rcases knownRule entry name with _ | _ | _ <;>
    simp [Step.alter, Step.validate, Step.wrapped, Step.flexible, dropped?]

theorem add_key_justified (key : Key) : Justified caps entry op (addKey entry key) := by
  rw [add_key_known_as]
  apply justified_append
  · exact build_index_justified caps entry op key.index
  · apply justified_silent
    split <;> simp [Step.alter, Step.wrapped, dropped?]

theorem add_foreign_key_justified (table name : String) (columns : List String) (reference : Reference) :
    Justified caps entry op (addForeignKey entry table name columns reference) := by
  rw [addForeignKey]
  apply justified_append
  · split
    · trivial
    · exact build_index_justified caps entry op _
  · exact add_not_valid_justified caps entry op table name _

theorem add_column_justified (table : String) (column : ColumnDef) :
    Justified caps entry op (addColumn table column caps entry) := by
  have added : Justified caps entry op
      (.alter table (.addColumn column.bareClause) :: Baseline.dropDefault table column) := by
    apply justified_silent
    rw [Baseline.dropDefault]
    split <;> simp [Step.alter, Step.wrapped, dropped?]
  have keyed := justified_flat caps entry op (columnKey table column).toList _
    fun key _ => add_key_justified caps entry op key
  have referring : Justified caps entry op (columnReference table column entry) := by
    rw [columnReference]
    split
    · exact add_foreign_key_justified caps entry op table _ _ _
    · split
      · exact build_index_justified caps entry op _
      · trivial
  have patterned := justified_flat caps entry op (column.patternIndex table caps).toList _
    fun index _ => build_index_justified caps entry op index
  exact justified_append _ _ _ _ _ (justified_append _ _ _ _ _ (justified_append _ _ _ _ _ added keyed) referring)
    patterned

theorem add_index_justified (table : String) (index : IndexDef) (planned : List Step)
    (succeeds : addIndex table index caps entry = .ok planned) : Justified caps entry op planned := by
  obtain ⟨spec, -, rfl⟩ := (map_ok_iff _ _ _).mp succeeds
  exact justified_append caps entry op _ _ (build_index_justified caps entry op spec)
    (justified_flat caps entry op _ _ fun other _ => build_index_justified caps entry op other)

theorem pattern_helper_listed (known : TableEntry) (column : String) (i : IndexInfo) (listed : entry = some known)
    (found : known.patternOpsIndex? column = some i) : IsPatternHelper entry column i := by
  have fits := List.find?_some found
  rw [Bool.and_eq_true, beq_iff_eq] at fits
  exact ⟨known, listed, List.mem_of_find?_eq_some found, fits⟩

theorem drop_index_justified (table : String) (name : Option String) (columns : List String) (planned : List Step)
    (succeeds : dropIndex table name columns entry = .ok planned) :
    Justified caps entry (.dropIndex table name columns) planned := by
  rw [dropIndex] at succeeds
  cases resolved : indexTarget table name columns entry with
  | error cause =>
      rw [resolved] at succeeds
      cases succeeds
  | ok target =>
      have grounds : Grounds caps entry (.dropIndex table name columns) (.index target) := by
        cases name with
        | some name =>
            cases resolved
            exact .namedIndex table target columns
        | none =>
            obtain ⟨i, sole, rfl⟩ := (map_ok_iff _ _ _).mp resolved
            exact .soleIndex table columns i ((resolve_index_ok_iff entry table columns i).mp sole)
      rw [resolved] at succeeds
      refine justified_each caps entry _ planned fun step member dropped drops => ?_
      have same : dropped? step.change = some (.index target) := by
        dsimp only at succeeds
        split at succeeds
        · cases succeeds
          rw [List.mem_singleton.mp member]
          rfl
        · split at succeeds
          · cases succeeds
          · cases succeeds
            rw [List.mem_singleton.mp member]
            split <;> rfl
      rw [same] at drops
      cases drops
      exact grounds

theorem drop_not_null_justified (table column : String) (planned : List Step)
    (succeeds : dropNotNull table column entry = .ok planned) :
    Justified caps entry (.dropNotNull table column) planned := by
  obtain ⟨check, found, rfl⟩ := (map_ok_iff _ _ _).mp succeeds
  cases check with
  | none => exact justified_silent caps entry _ _ (by simp [Step.alter, Step.wrapped, dropped?])
  | some c =>
      refine justified_each caps entry _ _ fun step member dropped drops => ?_
      rw [List.mem_singleton.mp member] at drops
      cases drops
      exact .notNullCheck table column c (not_null_check_ok entry table column c found)

theorem set_not_null_justified (table column : String) (strategy : NotNullStrategy) :
    Justified caps entry (.setNotNull table column) (setNotNull table column strategy caps entry) := by
  have adopted : Justified caps entry (.setNotNull table column) (adoptNotNull table column strategy caps) := by
    refine justified_each caps entry _ _ fun step member target drops => ?_
    have helper : dropped? step.change = none ∨
        dropped? step.change = some (.constraint table (notNullHelper table column)) := by
      cases strategy with
      | constraintAssisted =>
          by_cases proven : caps.setNotNullUsesCheck = true
          · simp only [adoptNotNull, proven, if_true, List.mem_cons, List.not_mem_nil, or_false] at member
            rcases member with rfl | rfl
            · exact .inl rfl
            · exact .inr rfl
          · simp [adoptNotNull, proven] at member
      | catalogUpdate =>
          rcases List.mem_cons.mp member with rfl | later
          · exact .inl rfl
          · exact .inr (List.mem_singleton.mp later ▸ rfl)
      | directUnsafe => exact .inl (List.mem_singleton.mp member ▸ rfl)
    rcases helper with silent | known
    · rw [silent] at drops
      cases drops
    · rw [known] at drops
      cases drops
      exact .notNullHelper table column
  rw [setNotNull]
  split
  · exact adopted
  · split
    · trivial
    · exact justified_append caps entry _ _ _ (add_not_valid_justified caps entry _ table _ _) adopted

theorem drop_target_key (table : String) (name : Option String) (columns : List String) (kind : Option ConstraintKind)
    (target : DropTarget) (column : String) (meant : dropTarget table name columns kind entry = .ok target)
    (single : target.columns = [column]) (backed : target.kind.any ConstraintKind.isIndexBacked = true) :
    DropsKey entry name columns kind column := by
  cases name with
  | none =>
      obtain ⟨c, found, rfl⟩ := (map_ok_iff _ _ _).mp meant
      have sole := (resolve_constraint_ok_iff entry table columns kind c).mp found
      obtain ⟨on, fits⟩ := sole_rule_fits entry columns kind c sole
      refine ⟨.inl (on.symm.trans single), ?_⟩
      cases kind with
      | none => exact .inr ⟨rfl, c, sole, backed⟩
      | some k => exact .inl ⟨k, rfl, fits k rfl ▸ backed⟩
  | some name =>
      cases meant
      dsimp only at single backed
      refine ⟨?_, ?_⟩
      · by_cases given : columns.isEmpty = true
        · rw [if_pos given] at single
          cases known : entry.bind (·.constraint? name) with
          | none => simp [known] at single
          | some c => exact .inr ⟨List.isEmpty_iff.mp given, c, known, by simpa [known] using single⟩
        · rw [if_neg given] at single
          exact .inl single
      · cases kind with
        | some k => exact .inl ⟨k, rfl, backed⟩
        | none =>
            cases known : entry.bind (·.constraint? name) with
            | none => simp [known] at backed
            | some c => exact .inr ⟨rfl, c, known, by simpa [known] using backed⟩

theorem orphaned_grounds (table : String) (name : Option String) (columns : List String)
    (kind : Option ConstraintKind) (target : DropTarget) (orphan : String)
    (meant : dropTarget table name columns kind entry = .ok target)
    (found : orphanedPatternIndex table caps entry target = some orphan) :
    Grounds caps entry (.dropConstraint table name columns kind) (.index orphan) := by
  rw [orphanedPatternIndex] at found
  split at found
  · rename_i column single
    split at found
    · rename_i backed
      have key := drop_target_key entry table name columns kind target column meant single backed
      cases entry with
      | none =>
          by_cases collated : caps.cCollation = true
          · simp [collated] at found
          · simp only [collated, if_false, Option.some.injEq, Bool.false_eq_true] at found
            exact found ▸ .generated table name columns kind column key rfl (Bool.eq_false_iff.mpr collated)
      | some known =>
          obtain ⟨i, helper, rfl⟩ := Option.map_eq_some_iff.mp found
          exact .orphaned table name columns kind column i key (pattern_helper_listed _ known column i rfl helper)
    · cases found
  · cases found

theorem drop_constraint_justified (table : String) (name : Option String) (columns : List String)
    (kind : Option ConstraintKind) (planned : List Step)
    (succeeds : dropConstraint table name columns kind caps entry = .ok planned) :
    Justified caps entry (.dropConstraint table name columns kind) planned := by
  obtain ⟨target, meant, rfl⟩ := (map_ok_iff _ _ _).mp succeeds
  refine justified_each caps entry _ _ fun step member dropped drops => ?_
  rcases List.mem_cons.mp member with rfl | helper
  · cases drops
    cases name with
    | some name =>
        cases meant
        exact .namedConstraint table name columns kind
    | none =>
        obtain ⟨c, found, rfl⟩ := (map_ok_iff _ _ _).mp meant
        exact .soleConstraint table columns kind c ((resolve_constraint_ok_iff entry table columns kind c).mp found)
  · obtain ⟨orphan, found, rfl⟩ := List.mem_map.mp helper
    cases drops
    exact orphaned_grounds caps entry table name columns kind target orphan meant (Option.mem_toList.mp found)

theorem primary_key_justified (table : String) (name : Option String) (columns : List String) :
    Justified caps entry (.addConstraint table (.primaryKey name columns))
      (addKey entry (.primaryKey table (primaryKeyName table name columns) columns)
        ++ (promotedPatternIndex entry columns).toList.map (.dropIndexConcurrently ·.name)) := by
  refine justified_append caps entry _ _ _ (add_key_justified caps entry _ _) ?_
  refine justified_each caps entry _ _ fun step member dropped drops => ?_
  obtain ⟨i, found, rfl⟩ := List.mem_map.mp member
  cases drops
  have chosen : promotedPatternIndex entry columns = some i := Option.mem_toList.mp found
  unfold promotedPatternIndex at chosen
  split at chosen
  · rename_i known column
    split at chosen
    · cases chosen
    · rename_i keyed
      rw [rules_on, List.isEmpty_iff] at keyed
      obtain ⟨c, member⟩ := List.exists_mem_of_ne_nil _ keyed
      obtain ⟨listed, fits⟩ := List.mem_filter.mp member
      obtain ⟨on, unique⟩ := of_decide_eq_true fits
      exact .promoted table name column i ⟨known, rfl, c, listed, unique .unique rfl, on⟩
        (pattern_helper_listed _ known column i rfl chosen)
  · cases chosen

theorem removals_justified (table : String) (kind : TogetherKind) (add remove : List (List String))
    (removals : List Step) (removed : remove.mapM (removeGroup table kind entry) = .ok removals) :
    Justified caps entry (.alterTogether table kind add remove) removals := by
  refine justified_each caps entry _ _ fun step member dropped drops => ?_
  obtain ⟨group, inside, found⟩ := map_all_member _ _ _ removed step member
  cases kind with
  | unique =>
      obtain ⟨c, sole, rfl⟩ := (map_ok_iff _ _ _).mp found
      cases drops
      exact .removedConstraint table add remove group c inside ((resolve_constraint_ok_iff entry _ _ _ c).mp sole)
  | index =>
      obtain ⟨i, sole, rfl⟩ := (map_ok_iff _ _ _).mp found
      cases drops
      exact .removedIndex table add remove group i inside ((resolve_index_ok_iff entry _ _ i).mp sole)

theorem together_justified (table : String) (kind : TogetherKind) (add remove : List (List String))
    (planned : List Step) (succeeds : alterTogether table kind add remove entry = .ok planned) :
    Justified caps entry (.alterTogether table kind add remove) planned := by
  obtain ⟨removals, removed, rfl⟩ := (map_ok_iff _ _ _).mp succeeds
  refine justified_append caps entry _ _ _ (removals_justified caps entry table kind add remove removals removed) ?_
  refine justified_flat caps entry _ add _ fun group _ => ?_
  cases kind with
  | unique => exact add_key_justified caps entry _ _
  | index => exact build_index_justified caps entry _ _

theorem add_constraint_justified (table : String) (constraint : ConstraintDef) (planned : List Step)
    (succeeds : addConstraint table entry constraint = .ok planned) :
    Justified caps entry (.addConstraint table constraint) planned := by
  cases constraint with
  | check name columns expression =>
      obtain ⟨name, -, rfl⟩ := (map_ok_iff _ _ _).mp succeeds
      exact add_not_valid_justified caps entry _ table name _
  | unique name columns condition deferrable =>
      cases succeeds
      exact add_key_justified caps entry _ _
  | primaryKey name columns =>
      cases succeeds
      exact primary_key_justified caps entry table name columns
  | foreignKey name columns toTable toColumns onDelete deferrable =>
      cases succeeds
      exact add_foreign_key_justified caps entry _ table _ columns _
  | exclusion name expression =>
      cases succeeds
      exact justified_silent caps entry _ _ (by simp [Step.unwrapped, dropped?])

theorem steps_justified (decision : Decision) (planned : List Step)
    (succeeds : steps op decision caps entry = .ok planned) : Justified caps entry op planned := by
  cases op with
  | addColumn table column =>
      cases succeeds
      exact add_column_justified caps entry _ table column
  | setNotNull table column =>
      cases succeeds
      exact set_not_null_justified caps entry table column _
  | dropNotNull table column => exact drop_not_null_justified caps entry table column planned succeeds
  | addConstraint table constraint => exact add_constraint_justified caps entry table constraint planned succeeds
  | dropConstraint table name columns kind =>
      exact drop_constraint_justified caps entry table name columns kind planned succeeds
  | addIndex table index =>
      rw [steps] at succeeds
      split at succeeds
      · obtain ⟨spec, -, rfl⟩ := (map_ok_iff _ _ _).mp succeeds
        refine justified_silent caps entry _ _ ?_
        split <;> simp [Step.createIndexConcurrently, dropped?]
      · exact add_index_justified caps entry _ table index planned succeeds
  | dropIndex table name columns => exact drop_index_justified caps entry table name columns planned succeeds
  | alterTogether table kind add remove => exact together_justified caps entry table kind add remove planned succeeds
  | createTable table columns =>
      cases succeeds
      refine justified_silent caps entry _ _ fun step member => ?_
      rcases List.mem_cons.mp member with rfl | index
      · rfl
      · obtain ⟨spec, -, rfl⟩ := List.mem_map.mp index
        rfl
  | renameTable table newName =>
      cases succeeds
      refine justified_silent caps entry _ _ ?_
      split <;> simp [Step.alter, Step.wrapped, dropped?]
  | renameColumn table column newName =>
      cases succeeds
      refine justified_silent caps entry _ _ ?_
      split <;> simp [Step.alter, Step.wrapped, dropped?]
  | _ =>
      cases succeeds
      exact justified_silent caps entry _ _ (by simp [Step.alter, Step.wrapped, Step.unwrapped, dropped?])

-- Each drop of a plan has grounds of its own or makes way for the step that follows, and where the
-- columns do not tell what is to be dropped there is no plan.
theorem every_drop_has_grounds (op : Operation) (decision : Decision) (caps : ServerCaps) (catalog : Catalog) :
    (∀ (before after : List Step) (step : Step) (target : Dropped),
      forCatalog op decision caps catalog = .ok (before ++ step :: after) → dropped? step.change = some target →
      Grounds caps (catalog.table? op.table) op target ∨ IsRebuilt (catalog.table? op.table) after.head? target) ∧
    (¬ IsResolved (catalog.table? op.table) op →
      ∃ cause, forCatalog op decision caps catalog = .error cause ∧ Refused (catalog.table? op.table) op cause) := by
  rw [for_catalog]
  refine ⟨fun before after step target succeeds drops => ?_, fun unresolved => ?_⟩
  · exact justified_at caps _ op before after step target (steps_justified caps _ op decision _ succeeds) drops
  · exact unresolved_refused _ op caps decision unresolved

-- A unique column with its pattern search index, the rest of a build of its primary key, and two
-- indexes on one more column.
def members : TableEntry :=
  ⟨[⟨"members_email_uniq", .unique, ["email"], true, some "members_email_uniq"⟩],
    [⟨"members_email_like", ["email"], ["varchar_pattern_ops"], false, false, true, false, none⟩,
      ⟨"members_pkey", ["email"], [], true, false, false, false, none⟩,
      ⟨"by_team", ["team"], [], false, false, true, false, none⟩,
      ⟨"by_team_again", ["team"], [], false, false, true, false, none⟩],
    [⟨"email", "varchar(80)", true⟩, ⟨"team", "integer", true⟩]⟩

theorem promotion_drops_with_grounds :
    let promotion := Operation.addConstraint "members" (.primaryKey (some "members_pkey") ["email"])
    let removal := Operation.alterTogether "members" .index [] [["team"]]
    let decision : Decision := ⟨.unsafeFixable, none⟩
    let caps : ServerCaps := ⟨120000, false⟩
    let catalog : Catalog := { tables := [("members", members)] }
    let key := IndexSpec.uniqueOn "members_pkey" "members" ["email"] none
    forCatalog promotion decision caps catalog =
        .ok [.dropIndexConcurrently "members_pkey", .createIndexConcurrently key,
          .alter "members" (.addConstraint "members_pkey" (.usingIndex true "members_pkey" none) false),
          .dropIndexConcurrently "members_email_like"] ∧
      (Grounds caps (some members) promotion (.index "members_pkey") ∨
        IsRebuilt (some members) (some (.createIndexConcurrently key)) (.index "members_pkey")) ∧
      (Grounds caps (some members) promotion (.index "members_email_like") ∨
        IsRebuilt (some members) none (.index "members_email_like")) ∧
      ¬ IsResolved (some members) removal ∧
      ∃ cause, forCatalog removal decision caps catalog = .error cause ∧ Refused (some members) removal cause := by
  intro promotion removal decision caps catalog key
  have plan : forCatalog promotion decision caps catalog =
      .ok [.dropIndexConcurrently "members_pkey", .createIndexConcurrently key,
        .alter "members" (.addConstraint "members_pkey" (.usingIndex true "members_pkey" none) false),
        .dropIndexConcurrently "members_email_like"] := by decide
  have unresolved : ¬ IsResolved (some members) removal := by
    intro resolved
    obtain ⟨i, known, listed, sole⟩ := resolved ["team"] (List.mem_singleton_self _)
    cases listed
    have two : (members.indexes.filter (IsIndexOn ["team"])).length = 2 := by decide
    rw [sole] at two
    cases two
  obtain ⟨grounds, -⟩ := every_drop_has_grounds promotion decision caps catalog
  obtain ⟨-, refused⟩ := every_drop_has_grounds removal decision caps catalog
  refine ⟨plan, ?_, ?_, unresolved, refused unresolved⟩
  · exact grounds [] _ (.dropIndexConcurrently "members_pkey") (.index "members_pkey") plan rfl
  · exact grounds [_, _, _] [] (.dropIndexConcurrently "members_email_like") (.index "members_email_like") plan rfl

end OnlineDdl.Stepwise
