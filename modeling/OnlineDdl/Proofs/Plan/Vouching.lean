import OnlineDdl.Proofs.Outcome
import OnlineDdl.Proofs.Plan.Locks
import OnlineDdl.Proofs.Plan.Resolution
import OnlineDdl.Proofs.Schema.QuotedName
import OnlineDdl.Proofs.Service.PlainName

/-! Where the names in a plan come from. If an operation gives plain names only, then its plan quotes plain
names only, besides names of constraints and indexes that are listed and that it drops. -/

set_option autoImplicit false

namespace OnlineDdl

open ObjectName (named named_plain)

def AllPlain (names : List String) : Prop := ∀ name ∈ names, isPlainIdentifier name = true

theorem all_plain_cons (name : String) (names : List String) :
    AllPlain (name :: names) ↔ isPlainIdentifier name = true ∧ AllPlain names := List.forall_mem_cons

theorem all_plain_append (names others : List String) :
    AllPlain (names ++ others) ↔ AllPlain names ∧ AllPlain others := List.forall_mem_append

theorem all_plain_one (name : String) : AllPlain [name] ↔ isPlainIdentifier name = true := List.forall_mem_singleton

def DropsListed (entry : Option TableEntry) (change : Ddl) (name : String) : Prop :=
  ∃ known ∈ entry,
    (∃ table, change = .alterTable table (.dropConstraint name) ∧ ∃ c ∈ known.constraints, c.name = name) ∨
      ∃ concurrently, change = .dropIndex name concurrently ∧ ∃ i ∈ known.indexes, i.name = name

def Vouched (entry : Option TableEntry) (change : Ddl) : Prop :=
  ∀ name ∈ change.quoted, isPlainIdentifier name = true ∨ DropsListed entry change name

def AllVouched (entry : Option TableEntry) (steps : List Step) : Prop := ∀ step ∈ steps, Vouched entry step.change

variable (entry : Option TableEntry)

theorem plain_vouched (change : Ddl) (plain : AllPlain change.quoted) : Vouched entry change :=
  fun name member => .inl (plain name member)

theorem listed_constraint_vouched (table : String) (known : TableEntry) (c : ConstraintInfo)
    (plain : isPlainIdentifier table = true) (found : known ∈ entry) (listed : c ∈ known.constraints) :
    Vouched entry (.alterTable table (.dropConstraint c.name)) := by
  intro name member
  rcases List.mem_cons.mp member with rfl | dropped
  · exact .inl plain
  · obtain rfl := List.mem_singleton.mp dropped
    exact .inr ⟨known, found, .inl ⟨table, rfl, c, listed, rfl⟩⟩

theorem listed_index_vouched (known : TableEntry) (i : IndexInfo) (concurrently : Bool) (found : known ∈ entry)
    (listed : i ∈ known.indexes) : Vouched entry (.dropIndex i.name concurrently) := by
  intro name member
  obtain rfl := List.mem_singleton.mp member
  exact .inr ⟨known, found, .inr ⟨concurrently, rfl, i, listed, rfl⟩⟩

theorem all_vouched_append (first second : List Step) (one : AllVouched entry first) (two : AllVouched entry second) :
    AllVouched entry (first ++ second) :=
  List.forall_mem_append.mpr ⟨one, two⟩

theorem all_vouched_flat {α : Type} (parts : List α) (plan : α → List Step)
    (each : ∀ part ∈ parts, AllVouched entry (plan part)) : AllVouched entry (parts.flatMap plan) := by
  intro step member
  obtain ⟨part, among, inside⟩ := List.mem_flatMap.mp member
  exact each part among step inside

theorem all_vouched_one (step : Step) (vouched : Vouched entry step.change) : AllVouched entry [step] :=
  List.forall_mem_singleton.mpr vouched

theorem sole_rule_vouched (table : String) (columns : List String) (kind : Option ConstraintKind) (c : ConstraintInfo)
    (plain : isPlainIdentifier table = true) (found : resolveConstraint table entry columns kind = .ok c) :
    Vouched entry (.alterTable table (.dropConstraint c.name)) := by
  obtain ⟨known, listed, sole⟩ := (Stepwise.resolve_constraint_ok_iff entry table columns kind c).mp found
  have member : c ∈ known.constraints.filter (Stepwise.IsRuleOn columns kind) := sole ▸ List.mem_singleton_self c
  exact listed_constraint_vouched entry table known c plain listed (List.mem_of_mem_filter member)

theorem sole_index_vouched (table : String) (columns : List String) (i : IndexInfo) (concurrently : Bool)
    (found : resolveIndex table entry columns = .ok i) : Vouched entry (.dropIndex i.name concurrently) := by
  obtain ⟨known, listed, sole⟩ := (Stepwise.resolve_index_ok_iff entry table columns i).mp found
  have member : i ∈ known.indexes.filter (Stepwise.IsIndexOn columns) := sole ▸ List.mem_singleton_self i
  exact listed_index_vouched entry known i concurrently listed (List.mem_of_mem_filter member)

theorem chosen_plain (purpose : ObjectName.Purpose) (table : String) (name : Option String) (columns : List String)
    (plain : AllPlain (table :: (name.toList ++ columns)))
    (mentioned : ∀ name ∈ purpose.mentioned, Continues name.toList) :
    isPlainIdentifier (name.getD (named purpose table columns)) = true := by
  rw [all_plain_cons, all_plain_append] at plain
  cases name with
  | some name => exact plain.2.1 name (List.mem_singleton_self name)
  | none => exact named_plain purpose table columns plain.1 plain.2.2 mentioned

theorem check_name_plain (table : String) (given : Option String) (columns : List String) (name : String)
    (plain : AllPlain (table :: (given.toList ++ columns))) (chosen : checkName table given columns = .ok name) :
    isPlainIdentifier name = true := by
  have known := chosen_plain .check table given columns plain (List.forall_mem_nil _)
  cases given with
  | some given =>
      cases chosen
      exact known
  | none =>
      rw [checkName] at chosen
      split at chosen
      · cases chosen
      · cases chosen
        exact known

theorem foreign_key_name_plain (table : String) (name : Option String) (columns : List String) (toTable : String)
    (toColumns : List String) (plain : AllPlain (table :: (name.toList ++ columns)))
    (referred : AllPlain (toTable :: toColumns)) :
    isPlainIdentifier (foreignKeyName table name columns toTable toColumns) = true := by
  rw [all_plain_cons] at referred
  refine chosen_plain (.foreignKey toTable (toColumns.headD "")) table name columns plain ?_
  refine List.forall_mem_cons.mpr ⟨plain_continues toTable referred.1, List.forall_mem_singleton.mpr ?_⟩
  cases toColumns with
  | nil => exact List.forall_mem_nil _
  | cons column others => exact plain_continues column (referred.2 column List.mem_cons_self)

def IndexSpec.names (index : IndexSpec) : List String := index.name :: index.table :: index.columns

theorem generated_index_plain (table : String) (columns : List String) (plain : AllPlain (table :: columns)) :
    AllPlain (IndexSpec.generated table columns).names :=
  (all_plain_cons _ _).mpr ⟨chosen_plain .index table none columns plain (List.forall_mem_nil _), plain⟩

theorem pattern_index_plain (table : String) (columns : List String) (ops : PatternOps)
    (plain : AllPlain (table :: columns)) : AllPlain (IndexSpec.patternOps table columns ops).names :=
  (all_plain_cons _ _).mpr ⟨chosen_plain .patternOps table none columns plain (List.forall_mem_nil _), plain⟩

theorem together_index_plain (table : String) (columns : List String) (plain : AllPlain (table :: columns)) :
    AllPlain (IndexSpec.together table columns).names :=
  (all_plain_cons _ _).mpr ⟨chosen_plain .togetherIndex table none columns plain (List.forall_mem_nil _), plain⟩

theorem group_plain (table : String) (add remove : List (List String)) (group : List String)
    (plain : AllPlain (table :: (add ++ remove).flatten)) (among : group ∈ add) : AllPlain (table :: group) := by
  obtain ⟨tabled, groups⟩ := (all_plain_cons _ _).mp plain
  refine (all_plain_cons _ _).mpr ⟨tabled, fun name inside => ?_⟩
  exact groups name (List.mem_flatten.mpr ⟨group, List.mem_append_left _ among, inside⟩)

theorem defined_index_plain (table : String) (d : IndexDef) (index : IndexSpec)
    (plain : AllPlain (table :: (d.name.toList ++ d.columns))) (defined : IndexSpec.ofDef table d = .ok index) :
    AllPlain index.names := by
  have known := chosen_plain .index table d.name d.columns plain (List.forall_mem_nil _)
  rw [all_plain_cons, all_plain_append] at plain
  rw [IndexSpec.ofDef] at defined
  split at defined
  · cases defined
  · cases defined
    exact (all_plain_cons _ _).mpr ⟨known, (all_plain_cons _ _).mpr ⟨plain.1, plain.2.2⟩⟩

theorem column_reference_plain (table : String) (column : ColumnDef) (name : String) (r : Reference)
    (plain : AllPlain (table :: column.identifiers)) (refers : column.reference table = some (name, r)) :
    AllPlain (name :: r.quoted) := by
  obtain ⟨fk, known, same⟩ := Option.map_eq_some_iff.mp refers
  cases same
  rw [ColumnDef.identifiers, known] at plain
  simp only [all_plain_cons] at plain
  obtain ⟨tabled, own, referredTable, referredColumn, given⟩ := plain
  have single : AllPlain [fk.column] := (all_plain_one _).mpr referredColumn
  refine (all_plain_cons _ _).mpr ⟨?_, (all_plain_cons _ _).mpr ⟨referredTable, single⟩⟩
  refine foreign_key_name_plain table fk.name [column.name] fk.table [fk.column] ?_ ?_
  · exact (all_plain_cons _ _).mpr ⟨tabled, (all_plain_append _ _).mpr ⟨given, (all_plain_one _).mpr own⟩⟩
  · exact (all_plain_cons _ _).mpr ⟨referredTable, single⟩

theorem column_plain (table : String) (column : ColumnDef) (plain : AllPlain (table :: column.identifiers)) :
    AllPlain [table, column.name] := by
  rw [ColumnDef.identifiers, all_plain_cons, all_plain_cons] at plain
  exact (all_plain_cons _ _).mpr ⟨plain.1, (all_plain_one _).mpr plain.2.1⟩

theorem inline_clause_plain (table : String) (column : ColumnDef) (plain : AllPlain (table :: column.identifiers)) :
    AllPlain (column.inlineClause table).quoted := by
  have own := ((all_plain_cons _ _).mp (column_plain table column plain)).2
  refine (all_plain_cons _ _).mpr ⟨(all_plain_one _).mp own, ?_⟩
  cases refers : column.reference table with
  | none => simp only [ColumnDef.inlineClause, refers]; exact List.forall_mem_nil _
  | some target =>
      simp only [ColumnDef.inlineClause, refers]
      exact column_reference_plain table column target.1 target.2 plain refers

theorem column_pattern_plain (table : String) (column : ColumnDef) (caps : ServerCaps) (index : IndexSpec)
    (plain : AllPlain (table :: column.identifiers)) (wanted : index ∈ (column.patternIndex table caps).toList) :
    AllPlain index.names := by
  rw [Option.mem_toList, ColumnDef.patternIndex] at wanted
  split at wanted
  · obtain ⟨ops, -, rfl⟩ := Option.map_eq_some_iff.mp wanted
    exact pattern_index_plain table [column.name] ops (column_plain table column plain)
  · cases wanted

theorem column_indexes_plain (table : String) (column : ColumnDef) (caps : ServerCaps) (index : IndexSpec)
    (plain : AllPlain (table :: column.identifiers)) (wanted : index ∈ column.indexes table caps) :
    AllPlain index.names := by
  rcases List.mem_append.mp wanted with own | searched
  · split at own
    · obtain rfl := List.mem_singleton.mp own
      exact generated_index_plain table [column.name] (column_plain table column plain)
    · cases own
  · exact column_pattern_plain table column caps index plain searched

namespace Baseline

theorem drop_default_vouched (table : String) (column : ColumnDef) (plain : AllPlain [table, column.name]) :
    AllVouched entry (dropDefault table column) := by
  rw [dropDefault]
  split
  · exact all_vouched_one entry _ (plain_vouched entry _ plain)
  · exact List.forall_mem_nil _

theorem add_constraint_vouched (table : String) (constraint : ConstraintDef) (step : Step)
    (plain : AllPlain (table :: constraint.identifiers)) (planned : addConstraint table constraint = .ok step) :
    Vouched entry step.change := by
  have tabled := ((all_plain_cons _ _).mp plain).1
  have adds (name : String) (body : ConstraintBody) (own : isPlainIdentifier name = true)
      (inside : AllPlain body.quoted) : Vouched entry (.alterTable table (.addConstraint name body false)) :=
    plain_vouched entry _ ((all_plain_cons _ _).mpr ⟨tabled, (all_plain_cons _ _).mpr ⟨own, inside⟩⟩)
  cases constraint with
  | check given columns expression =>
      obtain ⟨name, chosen, rfl⟩ := (map_ok_iff _ _ _).mp planned
      exact adds name _ (check_name_plain table given columns name plain chosen) (List.forall_mem_nil _)
  | unique given columns condition deferrable =>
      have own := chosen_plain .unique table given columns plain (List.forall_mem_nil _)
      have on := ((all_plain_append _ _).mp ((all_plain_cons _ _).mp plain).2).2
      cases condition with
      | none =>
          rw [← Except.ok.inj planned]
          exact adds _ _ own on
      | some condition =>
          rw [← Except.ok.inj planned]
          exact plain_vouched entry _ ((all_plain_cons _ _).mpr ⟨own, (all_plain_cons _ _).mpr ⟨tabled, on⟩⟩)
  | primaryKey given columns =>
      have on := ((all_plain_append _ _).mp ((all_plain_cons _ _).mp plain).2).2
      rw [← Except.ok.inj planned]
      exact adds _ _ (chosen_plain .primaryKey table given columns plain (List.forall_mem_nil _)) on
  | foreignKey given columns toTable toColumns onDelete deferrable =>
      obtain ⟨own, referred⟩ := (all_plain_append (table :: (given.toList ++ columns)) _).mp plain
      have on := ((all_plain_append _ _).mp ((all_plain_cons _ _).mp own).2).2
      rw [← Except.ok.inj planned]
      exact adds _ _ (foreign_key_name_plain table given columns toTable toColumns own referred)
        ((all_plain_append _ _).mpr ⟨on, referred⟩)
  | exclusion name expression =>
      rw [← Except.ok.inj planned]
      exact plain_vouched entry _ plain

theorem remove_group_vouched (table : String) (kind : TogetherKind) (group : List String) (step : Step)
    (plain : isPlainIdentifier table = true) (planned : removeGroup table kind entry group = .ok step) :
    Vouched entry step.change := by
  cases kind with
  | unique =>
      obtain ⟨c, found, rfl⟩ := (map_ok_iff _ _ _).mp planned
      exact sole_rule_vouched entry table group _ c plain found
  | index =>
      obtain ⟨i, found, rfl⟩ := (map_ok_iff _ _ _).mp planned
      exact sole_index_vouched entry table group i false found

theorem add_group_vouched (table : String) (kind : TogetherKind) (group : List String)
    (plain : AllPlain (table :: group)) : Vouched entry (addGroup table kind group).change := by
  cases kind with
  | unique =>
      have own := chosen_plain .unique table none group plain (List.forall_mem_nil _)
      obtain ⟨tabled, on⟩ := (all_plain_cons _ _).mp plain
      exact plain_vouched entry _ ((all_plain_cons _ _).mpr ⟨tabled, (all_plain_cons _ _).mpr ⟨own, on⟩⟩)
  | index => exact plain_vouched entry _ (together_index_plain table group plain)

theorem drop_constraint_vouched (table : String) (name : Option String) (columns : List String)
    (kind : Option ConstraintKind) (target : DropTarget) (plain : AllPlain (table :: (name.toList ++ columns)))
    (meant : dropTarget table name columns kind entry = .ok target) :
    Vouched entry (.alterTable table (.dropConstraint target.name)) := by
  rw [all_plain_cons, all_plain_append] at plain
  cases name with
  | some name =>
      cases meant
      exact plain_vouched entry _ ((all_plain_cons _ _).mpr ⟨plain.1, plain.2.1⟩)
  | none =>
      obtain ⟨c, found, rfl⟩ := (map_ok_iff _ _ _).mp meant
      exact sole_rule_vouched entry table columns kind c plain.1 found

theorem drop_index_vouched (table : String) (given : Option String) (columns : List String) (name : String)
    (concurrently : Bool) (plain : AllPlain (given.toList ++ columns))
    (meant : indexTarget table given columns entry = .ok name) : Vouched entry (.dropIndex name concurrently) := by
  cases given with
  | some given =>
      cases meant
      exact plain_vouched entry _ ((all_plain_append _ _).mp plain).1
  | none =>
      obtain ⟨i, found, rfl⟩ := (map_ok_iff _ _ _).mp meant
      exact sole_index_vouched entry table columns i concurrently found

theorem create_table_vouched (table : String) (columns : List ColumnDef) (caps : ServerCaps) (planned : List Step)
    (plain : AllPlain (Operation.createTable table columns).identifiers)
    (succeeds : steps (.createTable table columns) caps entry = .ok planned) : AllVouched entry planned := by
  rw [← Except.ok.inj succeeds]
  obtain ⟨tabled, others⟩ := (all_plain_cons _ _).mp plain
  have each (column : ColumnDef) (among : column ∈ columns) : AllPlain (table :: column.identifiers) :=
    (all_plain_cons _ _).mpr ⟨tabled, fun name inside => others name (List.mem_flatMap.mpr ⟨column, among, inside⟩)⟩
  refine List.forall_mem_cons.mpr ⟨plain_vouched entry _ ?_, List.forall_mem_map.mpr fun index member => ?_⟩
  · refine (all_plain_cons _ _).mpr ⟨tabled, fun name member => ?_⟩
    obtain ⟨clause, among, inside⟩ := List.mem_flatMap.mp member
    obtain ⟨column, own, rfl⟩ := List.mem_map.mp among
    exact inline_clause_plain table column (each column own) name inside
  · obtain ⟨column, among, wanted⟩ := List.mem_flatMap.mp member
    exact plain_vouched entry _ (column_indexes_plain table column caps index (each column among) wanted)

theorem steps_vouched (op : Operation) (caps : ServerCaps) (planned : List Step) (plain : AllPlain op.identifiers)
    (succeeds : steps op caps entry = .ok planned) : AllVouched entry planned := by
  cases op with
  | createTable table columns => exact create_table_vouched entry table columns caps planned plain succeeds
  | renameTable table newName =>
      rw [← Except.ok.inj succeeds]
      split
      · exact List.forall_mem_nil _
      · exact all_vouched_one entry _ (plain_vouched entry _ plain)
  | renameColumn table column newName =>
      rw [← Except.ok.inj succeeds]
      split
      · exact List.forall_mem_nil _
      · exact all_vouched_one entry _ (plain_vouched entry _ plain)
  | addColumn table column =>
      have tabled := ((all_plain_cons _ _).mp plain).1
      rw [← Except.ok.inj succeeds]
      refine List.forall_mem_cons.mpr ⟨plain_vouched entry _ ?_, ?_⟩
      · exact (all_plain_cons _ _).mpr ⟨tabled, inline_clause_plain table column plain⟩
      · refine all_vouched_append entry _ _ (drop_default_vouched entry table column (column_plain table column plain)) ?_
        exact List.forall_mem_map.mpr fun index wanted =>
          plain_vouched entry _ (column_indexes_plain table column caps index plain wanted)
  | addConstraint table constraint =>
      obtain ⟨step, built, rfl⟩ := (map_ok_iff _ _ _).mp succeeds
      exact all_vouched_one entry step (add_constraint_vouched entry table constraint step plain built)
  | dropConstraint table name columns kind =>
      obtain ⟨target, meant, rfl⟩ := (map_ok_iff _ _ _).mp succeeds
      exact all_vouched_one entry _ (drop_constraint_vouched entry table name columns kind target plain meant)
  | addIndex table index =>
      obtain ⟨spec, defined, rfl⟩ := (map_ok_iff _ _ _).mp succeeds
      have named := defined_index_plain table index spec plain defined
      split
      · exact all_vouched_one entry _ (plain_vouched entry _ named)
      · exact all_vouched_one entry _ (plain_vouched entry _ named)
  | dropIndex table given columns =>
      obtain ⟨name, meant, rfl⟩ := (map_ok_iff _ _ _).mp succeeds
      have others := ((all_plain_cons _ _).mp plain).2
      exact all_vouched_one entry _ (drop_index_vouched entry table given columns name false others meant)
  | alterTogether table kind add remove =>
      obtain ⟨removals, removed, rfl⟩ := (map_ok_iff _ _ _).mp succeeds
      refine all_vouched_append entry _ _ (fun step member => ?_) (List.forall_mem_map.mpr fun group among => ?_)
      · obtain ⟨group, -, built⟩ := map_all_member _ _ _ removed step member
        exact remove_group_vouched entry table kind group step ((all_plain_cons _ _).mp plain).1 built
      · exact add_group_vouched entry table kind group (group_plain table add remove group plain among)
  | alterColumnType table column fromType toType conversion =>
      rw [← Except.ok.inj succeeds]
      exact all_vouched_one entry _ (plain_vouched entry _ plain)
  | _ =>
      rw [← Except.ok.inj succeeds]
      exact all_vouched_one entry _ (plain_vouched entry _ plain)

end Baseline

namespace Stepwise

theorem build_index_vouched (index : IndexSpec) (plain : AllPlain index.names) :
    AllVouched entry (buildIndex entry index) := by
  have created : AllVouched entry [.createIndexConcurrently index] :=
    all_vouched_one entry _ (plain_vouched entry _ plain)
  have own : AllPlain [index.name] := (all_plain_one _).mpr ((all_plain_cons _ _).mp plain).1
  rw [buildIndex]
  split
  · exact created
  · split
    · exact List.forall_mem_nil _
    · exact List.forall_mem_cons.mpr ⟨plain_vouched entry _ own, created⟩

theorem add_not_valid_vouched (table name : String) (body : ConstraintBody)
    (plain : AllPlain (table :: name :: body.quoted)) : AllVouched entry (addNotValid entry table name body) := by
  have own : AllPlain [table, name] := by
    rw [all_plain_cons, all_plain_cons] at plain
    exact (all_plain_cons _ _).mpr ⟨plain.1, (all_plain_one _).mpr plain.2.1⟩
  have validates : AllVouched entry [.validate table name] := all_vouched_one entry _ (plain_vouched entry _ own)
  rw [addNotValid]
  split
  · exact List.forall_mem_cons.mpr ⟨plain_vouched entry _ plain, validates⟩
  · split
    · exact List.forall_mem_nil _
    · exact validates

theorem add_key_vouched (key : Key) (plain : AllPlain key.index.names) : AllVouched entry (addKey entry key) := by
  obtain ⟨own, others⟩ := (all_plain_cons _ _).mp plain
  have tabled := ((all_plain_cons _ _).mp others).1
  have named : AllPlain [key.table, key.name, key.name] :=
    (all_plain_cons _ _).mpr ⟨tabled, (all_plain_cons _ _).mpr ⟨own, (all_plain_one _).mpr own⟩⟩
  refine all_vouched_append entry _ _ (build_index_vouched entry key.index plain) ?_
  split
  · exact List.forall_mem_nil _
  · exact all_vouched_one entry _ (plain_vouched entry _ named)

theorem add_foreign_key_vouched (table name : String) (columns : List String) (reference : Reference)
    (own : isPlainIdentifier name = true) (plain : AllPlain (table :: columns)) (referred : AllPlain reference.quoted) :
    AllVouched entry (addForeignKey entry table name columns reference) := by
  obtain ⟨tabled, on⟩ := (all_plain_cons _ _).mp plain
  refine all_vouched_append entry _ _ ?_ (add_not_valid_vouched entry table name _ ?_)
  · split
    · exact List.forall_mem_nil _
    · exact build_index_vouched entry _ (generated_index_plain table columns plain)
  · exact (all_plain_cons _ _).mpr ⟨tabled, (all_plain_cons _ _).mpr ⟨own, (all_plain_append _ _).mpr ⟨on, referred⟩⟩⟩

theorem key_plain (purpose : ObjectName.Purpose) (table : String) (name : Option String) (columns : List String)
    (plain : AllPlain (table :: (name.toList ++ columns)))
    (mentioned : ∀ name ∈ purpose.mentioned, Continues name.toList) :
    AllPlain (name.getD (named purpose table columns) :: table :: columns) := by
  have own := chosen_plain purpose table name columns plain mentioned
  rw [all_plain_cons, all_plain_append] at plain
  exact (all_plain_cons _ _).mpr ⟨own, (all_plain_cons _ _).mpr ⟨plain.1, plain.2.2⟩⟩

theorem promoted_vouched (columns : List String) :
    AllVouched entry ((promotedPatternIndex entry columns).toList.map (.dropIndexConcurrently ·.name)) := by
  refine List.forall_mem_map.mpr fun i member => ?_
  rw [Option.mem_toList] at member
  unfold promotedPatternIndex at member
  split at member
  · split at member
    · cases member
    · exact listed_index_vouched _ _ i true rfl (List.mem_of_find?_eq_some member)
  · cases member

theorem add_constraint_vouched (table : String) (constraint : ConstraintDef) (planned : List Step)
    (plain : AllPlain (table :: constraint.identifiers))
    (succeeds : addConstraint table entry constraint = .ok planned) : AllVouched entry planned := by
  have tabled := ((all_plain_cons _ _).mp plain).1
  cases constraint with
  | check given columns expression =>
      obtain ⟨name, chosen, rfl⟩ := (map_ok_iff _ _ _).mp succeeds
      refine add_not_valid_vouched entry table name _ ((all_plain_cons _ _).mpr ⟨tabled, (all_plain_one _).mpr ?_⟩)
      exact check_name_plain table given columns name plain chosen
  | unique given columns condition deferrable =>
      rw [← Except.ok.inj succeeds]
      exact add_key_vouched entry _ (key_plain .unique table given columns plain (List.forall_mem_nil _))
  | primaryKey given columns =>
      rw [← Except.ok.inj succeeds]
      refine all_vouched_append entry _ _ (add_key_vouched entry _ ?_) (promoted_vouched entry columns)
      exact key_plain .primaryKey table given columns plain (List.forall_mem_nil _)
  | foreignKey given columns toTable toColumns onDelete deferrable =>
      obtain ⟨own, referred⟩ := (all_plain_append (table :: (given.toList ++ columns)) _).mp plain
      have on := ((all_plain_append _ _).mp ((all_plain_cons _ _).mp own).2).2
      rw [← Except.ok.inj succeeds]
      exact add_foreign_key_vouched entry table _ columns _
        (foreign_key_name_plain table given columns toTable toColumns own referred)
        ((all_plain_cons _ _).mpr ⟨tabled, on⟩) referred
  | exclusion name expression =>
      rw [← Except.ok.inj succeeds]
      exact all_vouched_one entry _ (plain_vouched entry _ plain)

theorem column_key_plain (table : String) (column : ColumnDef) (key : Key) (plain : AllPlain [table, column.name])
    (wanted : key ∈ (columnKey table column).toList) : AllPlain key.index.names := by
  rw [Option.mem_toList, columnKey] at wanted
  split at wanted
  · cases wanted
    exact key_plain .primaryKey table none [column.name] plain (List.forall_mem_nil _)
  · split at wanted
    · cases wanted
      exact key_plain .unique table none [column.name] plain (List.forall_mem_nil _)
    · cases wanted

theorem column_reference_vouched (table : String) (column : ColumnDef)
    (plain : AllPlain (table :: column.identifiers)) : AllVouched entry (columnReference table column entry) := by
  have own := column_plain table column plain
  rw [columnReference]
  split
  · next name reference refers =>
      obtain ⟨named, referred⟩ := (all_plain_cons _ _).mp (column_reference_plain table column name reference plain refers)
      exact add_foreign_key_vouched entry table name [column.name] reference named own referred
  · split
    · exact build_index_vouched entry _ (generated_index_plain table [column.name] own)
    · exact List.forall_mem_nil _

theorem add_column_vouched (table : String) (column : ColumnDef) (caps : ServerCaps)
    (plain : AllPlain (table :: column.identifiers)) : AllVouched entry (addColumn table column caps entry) := by
  have own := column_plain table column plain
  have added : AllVouched entry (.alter table (.addColumn column.bareClause) :: Baseline.dropDefault table column) :=
    List.forall_mem_cons.mpr ⟨plain_vouched entry _ own, Baseline.drop_default_vouched entry table column own⟩
  have keyed := all_vouched_flat entry (columnKey table column).toList _ fun key wanted =>
    add_key_vouched entry key (column_key_plain table column key own wanted)
  have searched := all_vouched_flat entry (column.patternIndex table caps).toList _ fun index wanted =>
    build_index_vouched entry index (column_pattern_plain table column caps index plain wanted)
  refine all_vouched_append entry _ _ (all_vouched_append entry _ _ (all_vouched_append entry _ _ added keyed) ?_)
    searched
  exact column_reference_vouched entry table column plain

theorem set_not_null_vouched (table column : String) (strategy : NotNullStrategy) (caps : ServerCaps)
    (plain : AllPlain [table, column]) : AllVouched entry (setNotNull table column strategy caps entry) := by
  obtain ⟨tabled, single⟩ := (all_plain_cons _ _).mp plain
  have helper := named_plain .notNull table [column] tabled single (List.forall_mem_nil _)
  have adopts : AllVouched entry (adoptNotNull table column strategy caps) := by
    intro step member
    rcases adopt_not_null_steps table column strategy caps step member with rfl | rfl | rfl
    · exact plain_vouched entry _ plain
    · exact plain_vouched entry _ ((all_plain_one _).mpr tabled)
    · exact plain_vouched entry _ ((all_plain_cons _ _).mpr ⟨tabled, (all_plain_one _).mpr helper⟩)
  rw [setNotNull]
  split
  · exact adopts
  · split
    · exact List.forall_mem_nil _
    · refine all_vouched_append entry _ _ (add_not_valid_vouched entry table _ _ ?_) adopts
      exact (all_plain_cons _ _).mpr ⟨tabled, (all_plain_cons _ _).mpr ⟨helper, single⟩⟩

theorem drop_not_null_vouched (table column : String) (planned : List Step) (plain : AllPlain [table, column])
    (succeeds : dropNotNull table column entry = .ok planned) : AllVouched entry planned := by
  obtain ⟨check, found, rfl⟩ := (map_ok_iff _ _ _).mp succeeds
  cases check with
  | none => exact all_vouched_one entry _ (plain_vouched entry _ plain)
  | some c =>
      obtain ⟨known, listed, sole⟩ := not_null_check_ok entry table column c found
      have member : c ∈ known.constraints.filter (IsNotNullCheck column) := sole ▸ List.mem_singleton_self c
      exact all_vouched_one entry _ (listed_constraint_vouched entry table known c ((all_plain_cons _ _).mp plain).1
        listed (List.mem_of_mem_filter member))

-- Where nothing is known about the table, the columns are those that the request gives.
theorem orphaned_vouched (table : String) (name : Option String) (columns : List String)
    (kind : Option ConstraintKind) (caps : ServerCaps) (target : DropTarget) (orphan : String)
    (plain : AllPlain (table :: (name.toList ++ columns))) (meant : dropTarget table name columns kind entry = .ok target)
    (found : orphanedPatternIndex table caps entry target = some orphan) : Vouched entry (.dropIndex orphan true) := by
  rw [orphanedPatternIndex] at found
  split at found
  · next column single =>
      split at found
      · cases entry with
        | some known =>
            obtain ⟨i, helper, rfl⟩ := Option.map_eq_some_iff.mp found
            exact listed_index_vouched _ known i true rfl (List.mem_of_find?_eq_some helper)
        | none =>
            dsimp only at found
            split at found
            · cases found
            · cases found
              cases name with
              | none => cases meant
              | some name =>
                  cases meant
                  obtain ⟨tabled, given⟩ := (all_plain_cons _ _).mp plain
                  have on : AllPlain columns := ((all_plain_append _ _).mp given).2
                  have known : columns = [column] := by
                    by_cases empty : columns.isEmpty = true
                    · simp [empty] at single
                    · simpa [empty] using single
                  rw [known] at on
                  exact plain_vouched _ _ ((all_plain_one _).mpr
                    (named_plain .patternOps table [column] tabled on (List.forall_mem_nil _)))
      · cases found
  · cases found

theorem drop_index_vouched (table : String) (name : Option String) (columns : List String) (planned : List Step)
    (plain : AllPlain (name.toList ++ columns)) (succeeds : dropIndex table name columns entry = .ok planned) :
    AllVouched entry planned := by
  rw [dropIndex] at succeeds
  split at succeeds
  · cases succeeds
  · next target meant =>
      have each (concurrently : Bool) := Baseline.drop_index_vouched entry table name columns target concurrently plain meant
      split at succeeds
      · rw [← Except.ok.inj succeeds]
        exact all_vouched_one entry _ (each true)
      · split at succeeds
        · cases succeeds
        · rw [← Except.ok.inj succeeds]
          split
          · exact all_vouched_one entry _ (each false)
          · exact all_vouched_one entry _ (each true)

theorem remove_group_vouched (table : String) (kind : TogetherKind) (group : List String) (step : Step)
    (plain : isPlainIdentifier table = true) (planned : removeGroup table kind entry group = .ok step) :
    Vouched entry step.change := by
  cases kind with
  | unique =>
      obtain ⟨c, found, rfl⟩ := (map_ok_iff _ _ _).mp planned
      exact sole_rule_vouched entry table group _ c plain found
  | index =>
      obtain ⟨i, found, rfl⟩ := (map_ok_iff _ _ _).mp planned
      exact sole_index_vouched entry table group i true found

theorem add_group_vouched (table : String) (kind : TogetherKind) (group : List String)
    (plain : AllPlain (table :: group)) : AllVouched entry (addGroup table kind entry group) := by
  cases kind with
  | unique => exact add_key_vouched entry _ (key_plain .unique table none group plain (List.forall_mem_nil _))
  | index => exact build_index_vouched entry _ (together_index_plain table group plain)

theorem add_index_vouched (table : String) (index : IndexDef) (caps : ServerCaps) (planned : List Step)
    (plain : AllPlain (Operation.addIndex table index).identifiers)
    (succeeds : addIndex table index caps entry = .ok planned) : AllVouched entry planned := by
  obtain ⟨spec, defined, rfl⟩ := (map_ok_iff _ _ _).mp succeeds
  have named := defined_index_plain table index spec plain defined
  refine all_vouched_append entry _ _ (build_index_vouched entry spec named)
    (all_vouched_flat entry _ _ fun other wanted => build_index_vouched entry other ?_)
  rw [Option.mem_toList, requestedPatternIndex] at wanted
  split at wanted
  · obtain ⟨ops, -, rfl⟩ := Option.map_eq_some_iff.mp wanted
    obtain ⟨tabled, others⟩ := (all_plain_cons _ _).mp plain
    have on := ((all_plain_append _ _).mp others).2
    exact pattern_index_plain table index.columns ops ((all_plain_cons _ _).mpr ⟨tabled, on⟩)
  · cases wanted

theorem steps_vouched (op : Operation) (decision : Decision) (caps : ServerCaps) (planned : List Step)
    (plain : AllPlain op.identifiers) (succeeds : steps op decision caps entry = .ok planned) :
    AllVouched entry planned := by
  have unchanged := Baseline.steps_vouched entry op caps planned plain
  cases op with
  | addColumn table column =>
      rw [← Except.ok.inj succeeds]
      exact add_column_vouched entry table column caps plain
  | setNotNull table column =>
      rw [← Except.ok.inj succeeds]
      exact set_not_null_vouched entry table column _ caps plain
  | dropNotNull table column => exact drop_not_null_vouched entry table column planned plain succeeds
  | addConstraint table constraint => exact add_constraint_vouched entry table constraint planned plain succeeds
  | dropConstraint table name columns kind =>
      obtain ⟨target, meant, rfl⟩ := (map_ok_iff _ _ _).mp succeeds
      refine List.forall_mem_cons.mpr ⟨?_, List.forall_mem_map.mpr fun orphan member => ?_⟩
      · exact Baseline.drop_constraint_vouched entry table name columns kind target plain meant
      · exact orphaned_vouched entry table name columns kind caps target orphan plain meant (Option.mem_toList.mp member)
  | addIndex table index =>
      rw [steps] at succeeds
      split at succeeds
      · exact unchanged succeeds
      · exact add_index_vouched entry table index caps planned plain succeeds
  | dropIndex table name columns =>
      exact drop_index_vouched entry table name columns planned ((all_plain_cons _ _).mp plain).2 succeeds
  | alterTogether table kind add remove =>
      obtain ⟨removals, removed, rfl⟩ := (map_ok_iff _ _ _).mp succeeds
      refine all_vouched_append entry _ _ (fun step member => ?_) (all_vouched_flat entry _ _ fun group among => ?_)
      · obtain ⟨group, -, built⟩ := map_all_member _ _ _ removed step member
        exact remove_group_vouched entry table kind group step ((all_plain_cons _ _).mp plain).1 built
      · exact add_group_vouched entry table kind group (group_plain table add remove group plain among)
  | _ => exact unchanged succeeds

end Stepwise

end OnlineDdl
