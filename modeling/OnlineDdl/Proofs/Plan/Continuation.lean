import Mathlib.Data.List.Duplicate
import OnlineDdl.Proofs.Plan.Standing
import OnlineDdl.Proofs.Plan.Resolution
import OnlineDdl.Proofs.Plan.Locality

/-! Composite operations that are cut off between two statements and planned anew: when the new plan
carries on where the old one stopped. A group of columns is taken up by what stands under its name; a
new column and a removal are planned as if nothing had happened. -/

set_option autoImplicit false

namespace OnlineDdl.Stepwise

variable (server : Server)

structure Lasting (table name : String) (mark : Standing → Bool) (planned : List Step) : Prop where
  parts : ∀ step ∈ planned, ∃ other, Concerns table other step
  keeps : ∀ step ∈ planned, Concerns table name step → ∀ known, mark known = true → mark (advance step known) = true

theorem lasting_among (table name : String) (mark : Standing → Bool) (planned part : List Step)
    (lasting : Lasting table name mark planned) (among : ∀ step ∈ part, step ∈ planned) :
    Lasting table name mark part :=
  ⟨fun step member => lasting.parts step (among step member),
    fun step member => lasting.keeps step (among step member)⟩

theorem mark_kept (t u : Table) (name : String) (mark : Standing → Bool) (planned : List Step) (step : Step)
    (lasting : Lasting t.name name mark planned) (member : step ∈ planned)
    (accepted : step.change.effect server t = some u) :
    u.name = t.name ∧ (mark (standing t.entry name) = true → mark (standing u.entry name) = true) := by
  obtain ⟨other, concerns⟩ := lasting.parts step member
  obtain ⟨named, here, elsewhere⟩ := concerned_standing server t u other step concerns accepted
  refine ⟨named, fun marked => ?_⟩
  by_cases same : name = other
  · subst same
    rw [here]
    exact lasting.keeps step member concerns _ marked
  · rw [elsewhere name same]
    exact marked

theorem mark_lasts (t u : Table) (name : String) (mark : Standing → Bool) (planned : List Step)
    (lasting : Lasting t.name name mark planned) (ran : t.run server planned = some u) :
    u.name = t.name ∧ (mark (standing t.entry name) = true → mark (standing u.entry name) = true) := by
  induction planned generalizing t with
  | nil =>
      cases ran
      exact ⟨rfl, id⟩
  | cons step rest ih =>
      obtain ⟨next, accepted, later⟩ := Option.bind_eq_some_iff.mp ran
      obtain ⟨named, kept⟩ := mark_kept server t next name mark _ step lasting List.mem_cons_self accepted
      have behind := lasting_among t.name name mark _ rest lasting fun _ => List.mem_cons_of_mem _
      rw [← named] at behind
      obtain ⟨same, lasts⟩ := ih next behind later
      exact ⟨same.trans named, fun marked => lasts (kept marked)⟩

theorem mark_made (t u : Table) (name : String) (mark : Standing → Bool) (planned : List Step) (maker : Step)
    (lasting : Lasting t.name name mark planned) (member : maker ∈ planned) (concerns : Concerns t.name name maker)
    (makes : ∀ known, mark (advance maker known) = true) (ran : t.run server planned = some u) :
    u.name = t.name ∧ mark (standing u.entry name) = true := by
  obtain ⟨before, after, rfl⟩ := List.append_of_mem member
  rw [Table.run, Table.run_append] at ran
  obtain ⟨v, early, late⟩ := Option.bind_eq_some_iff.mp ran
  obtain ⟨w, accepted, later⟩ := Option.bind_eq_some_iff.mp late
  have ahead := lasting_among t.name name mark _ before lasting fun _ => List.mem_append_left _
  have behind := lasting_among t.name name mark _ after lasting
    fun _ inside => List.mem_append_right _ (List.mem_cons_of_mem _ inside)
  have reached := (mark_lasts server t v name mark before ahead early).1
  rw [← reached] at behind concerns
  obtain ⟨named, marked, -⟩ := concerned_standing server v w name maker concerns accepted
  rw [← named] at behind
  obtain ⟨same, lasts⟩ := mark_lasts server w u name mark after behind later
  exact ⟨same.trans (named.trans reached), lasts (by rw [marked]; exact makes _)⟩

theorem mark_refused (t : Table) (name : String) (mark : Standing → Bool) (planned : List Step) (step : Step)
    (lasting : Lasting t.name name mark planned) (marked : mark (standing t.entry name) = true)
    (member : step ∈ planned)
    (blocked : ∀ u : Table, u.name = t.name → mark (standing u.entry name) = true →
      step.change.effect server u = none) : t.run server planned = none := by
  obtain ⟨before, after, rfl⟩ := List.append_of_mem member
  rw [Table.run, Table.run_append]
  cases ran : t.runBy (Ddl.effect server) before with
  | none => rfl
  | some u =>
      have ahead := lasting_among t.name name mark _ before lasting fun _ => List.mem_append_left _
      obtain ⟨named, lasts⟩ := mark_lasts server t u name mark before ahead ran
      rw [Option.bind_some, Table.runBy, blocked u named (lasts marked)]
      rfl

theorem creation_blocked (u : Table) (index : IndexSpec) (own : index.table = u.name)
    (taken : (standing u.entry index.name).indexed.isSome = true) :
    (Step.createIndexConcurrently index).change.effect server u = none := by
  rw [standing_indexed] at taken
  rw [Step.createIndexConcurrently, Ddl.effect, if_pos own, Table.createIndex, if_pos taken]

theorem attachment_blocked (u : Table) (name : String) (taken : (standing u.entry name).ruled = true) :
    (attachName u.name name).change.effect server u = none := by
  cases accepted : (attachName u.name name).change.effect server u with
  | none => rfl
  | some v =>
      obtain ⟨-, free, -⟩ := attached_standing server u v name accepted
      rw [free] at taken
      cases taken

theorem twice_refused (t : Table) (name : String) (mark : Standing → Bool) (before behind : List Step)
    (maker blocked : Step) (lasting : Lasting t.name name mark (before ++ behind)) (early : maker ∈ before)
    (concerns : Concerns t.name name maker) (makes : ∀ known, mark (advance maker known) = true)
    (late : blocked ∈ behind)
    (blocks : ∀ u : Table, u.name = t.name → mark (standing u.entry name) = true →
      blocked.change.effect server u = none) : t.run server (before ++ behind) = none := by
  rw [Table.run, Table.run_append]
  cases ran : t.runBy (Ddl.effect server) before with
  | none => rfl
  | some u =>
      have ahead := lasting_among t.name name mark _ before lasting fun _ => List.mem_append_left _
      have later := lasting_among t.name name mark _ behind lasting fun _ => List.mem_append_right _
      obtain ⟨named, marked⟩ := mark_made server t u name mark before maker ahead early concerns makes ran
      rw [← named] at later blocks
      exact mark_refused server u name mark behind blocked later marked late blocks

theorem due_creation (kind : TogetherKind) (add : List (List String)) (t : Table) (name : String)
    (listed : name ∈ add.map (groupName t.name kind)) (absent : (standing t.entry name).indexed = none) :
    ∃ index, index.table = t.name ∧ index.name = name ∧ .createIndexConcurrently index ∈ additions kind add t := by
  obtain ⟨group, member, rfl⟩ := List.mem_map.mp listed
  obtain ⟨named, own⟩ := group_index_parts t.name kind group
  refine ⟨groupIndex t.name kind group, own, named, List.mem_flatMap.mpr ⟨group, member, ?_⟩⟩
  rw [add_group_standing, groupSteps, absent]
  exact List.mem_cons_self

theorem due_attachment (add : List (List String)) (t : Table) (name : String)
    (listed : name ∈ add.map (groupName t.name .unique)) (unruled : (standing t.entry name).ruled = false) :
    attachName t.name name ∈ additions .unique add t := by
  obtain ⟨group, member, rfl⟩ := List.mem_map.mp listed
  refine List.mem_flatMap.mpr ⟨group, member, ?_⟩
  rw [add_group_standing, groupSteps, unruled]
  exact List.mem_append_right _ List.mem_cons_self

-- Two groups with one name between them, under which something is to be done, get in each other's way,
-- unless the first thing to do is to drop an index.
theorem shared_name_refused (kind : TogetherKind) (ahead behind : List (List String)) (t : Table) (name : String)
    (first : name ∈ ahead.map (groupName t.name kind)) (second : name ∈ behind.map (groupName t.name kind))
    (due : isSettled kind (standing t.entry name) = false) (whole : (standing t.entry name).indexed ≠ some false) :
    t.run server (additions kind (ahead ++ behind) t) = none := by
  have split : additions kind (ahead ++ behind) t = additions kind ahead t ++ additions kind behind t :=
    List.flatMap_append
  have parts (step : Step) (member : step ∈ additions kind (ahead ++ behind) t) :
      ∃ other, Concerns t.name other step :=
    (addition_concerns kind _ t step member).imp fun _ found => found.2
  have needed (step : Step) (member : step ∈ additions kind (ahead ++ behind) t) :=
    additions_needed kind _ t step member
  rw [split] at parts needed ⊢
  match indexed : (standing t.entry name).indexed with
  | some false => exact absurd indexed whole
  | none =>
      obtain ⟨made, own, named, early⟩ := due_creation kind ahead t name first indexed
      obtain ⟨again, alike, same, late⟩ := due_creation kind behind t name second indexed
      refine twice_refused server t name (·.indexed.isSome) _ _ _ _ ⟨parts, fun step member concerns => ?_⟩ early
        (.create made own named) (fun _ => rfl) late fun u kept taken =>
          creation_blocked server u again (alike.trans kept.symm) (same ▸ taken)
      cases concerns with
      | create => exact fun _ _ => rfl
      | attach => exact fun _ marked => marked
      | drop =>
          have listed : (t.entry.index? name).isNone = false := needed _ member
          rw [Option.map_eq_none_iff.mp indexed] at listed
          cases listed
  | some true =>
      cases kind with
      | index => simp [isSettled, indexed] at due
      | unique =>
          have unruled : (standing t.entry name).ruled = false := by simpa [isSettled, indexed] using due
          refine twice_refused server t name (·.ruled) _ _ _ _ ⟨parts, fun step _ concerns => ?_⟩
            (due_attachment ahead t name first unruled) .attach (fun _ => rfl)
            (due_attachment behind t name second unruled) fun u kept taken => ?_
          · cases concerns with
            | create => exact fun _ marked => marked
            | drop => exact fun _ marked => marked
            | attach => exact fun _ _ => rfl
          · rw [← kept]
            exact attachment_blocked server u name taken

-- A run that carries on from where an earlier one stopped: nothing is done twice, and it ends where the
-- earlier one would have ended.
def CarriesOn (op : Operation) (decision : Decision) (caps : ServerCaps) (later : Catalog) (s goal : Table) : Prop :=
  ∃ steps, forCatalog op decision caps later = .ok steps ∧
    (∀ step ∈ steps, isRedundant s.entry step = false) ∧ s.run server steps = some goal

-- Groups are added and none removed, and no two of them wait for objects of one name.
def IsSteady (op : Operation) (entry : TableEntry) : Prop :=
  match op with
  | .alterTogether table kind add remove => remove = [] ∧ (pendingNames table kind add entry).Nodup
  | _ => False

def isComposite (op : Operation) : Bool :=
  match op with
  | .addColumn .. => true
  | .alterTogether .. => true
  | _ => false

def AlwaysCarriesOn (op : Operation) (decision : Decision) (caps : ServerCaps) (t goal : Table)
    (planned : List Step) : Prop :=
  ∀ before after s later, planned = before ++ after → t.run server before = some s →
    later.table? op.table = some s.entry → CarriesOn server op decision caps later s goal

theorem repeated_column_refused (s : Table) (table : String) (column : ColumnDef) (rest : List Step)
    (own : table = s.name) (present : s.hasColumn column.name = true) :
    s.run server (.alter table (.addColumn column.bareClause) :: rest) = none := by
  have refused : (Step.alter table (.addColumn column.bareClause)).change.effect server s = none := by
    rw [Step.alter, Step.wrapped, Ddl.effect, if_pos own, TableAction.effect, Table.addColumn]
    exact if_pos present
  rw [Table.run, Table.runBy, refused]
  rfl

theorem column_added (t s : Table) (column : ColumnDef)
    (accepted : (Step.alter t.name (.addColumn column.bareClause)).change.effect server t = some s) :
    s.name = t.name ∧ s.hasColumn column.name = true := by
  rw [Step.alter, Step.wrapped, Ddl.effect, if_pos rfl, TableAction.effect, Table.addColumn] at accepted
  split at accepted
  · cases accepted
  · cases accepted
    exact ⟨rfl, by simp [Table.hasColumn, ColumnDef.bareClause]⟩

-- The column is added first, and again by every later plan.
theorem column_breaks_off (table : String) (column : ColumnDef) (decision : Decision) (caps : ServerCaps)
    (t goal : Table) (planned : List Step) (own : table = t.name)
    (succeeds : steps (.addColumn table column) decision caps (some t.entry) = .ok planned)
    (ran : t.run server planned = some goal) :
    ¬ AlwaysCarriesOn server (.addColumn table column) decision caps t goal planned := by
  intro always
  cases own
  cases succeeds
  obtain ⟨s, accepted, -⟩ := Option.bind_eq_some_iff.mp ran
  obtain ⟨named, present⟩ := column_added server t s column accepted
  obtain ⟨again, made, -, reached⟩ := always [_] _ s { tables := [(t.name, s.entry)] } rfl
    (run_one server t s _ accepted) (List.lookup_cons_self)
  rw [for_catalog, Catalog.table?, Operation.table, List.lookup_cons_self] at made
  cases made
  rw [addColumn, List.cons_append, List.cons_append, List.cons_append,
    repeated_column_refused server s t.name column _ named.symm present] at reached
  cases reached

theorem resolved_constraint (table : String) (entry : TableEntry) (columns : List String)
    (kind : Option ConstraintKind) (c : ConstraintInfo)
    (resolved : resolveConstraint table (some entry) columns kind = .ok c) :
    entry.constraintsOn columns kind = [c] := by
  obtain ⟨known, listed, sole⟩ := (resolve_constraint_ok_iff (some entry) table columns kind c).mp resolved
  cases listed
  rw [rules_on, sole]

theorem resolved_index (table : String) (entry : TableEntry) (columns : List String) (i : IndexInfo)
    (resolved : resolveIndex table (some entry) columns = .ok i) : entry.indexesOn columns = [i] := by
  obtain ⟨known, listed, sole⟩ := (resolve_index_ok_iff (some entry) table columns i).mp resolved
  cases listed
  rw [indexes_on, sole]

theorem removed_missing (t s : Table) (kind : TogetherKind) (group : List String) (removal : Step)
    (found : removeGroup t.name kind (some t.entry) group = .ok removal)
    (accepted : removal.change.effect server t = some s) :
    ∃ cause, removeGroup t.name kind (some s.entry) group = .error cause := by
  cases kind with
  | unique =>
      obtain ⟨c, resolved, rfl⟩ := (map_ok_iff _ _ _).mp found
      rw [Step.dropConstraint, Step.alter, Step.wrapped, Ddl.effect, if_pos rfl, TableAction.effect] at accepted
      split at accepted
      · cases accepted
        have gone : (t.withoutConstraint c.name).entry.constraintsOn group (some .unique) = [] :=
          Table.sole_removed HeldConstraint.toConstraintInfo ConstraintInfo.name _ t.constraints c
            (resolved_constraint _ _ _ _ c resolved)
        exact ⟨_, by rw [removeGroup, resolveConstraint, gone]; rfl⟩
      · cases accepted
  | index =>
      obtain ⟨i, resolved, rfl⟩ := (map_ok_iff _ _ _).mp found
      cases accepted
      have gone : (t.withoutIndex i.name).entry.indexesOn group = [] :=
        Table.sole_removed HeldIndex.toIndexInfo IndexInfo.name _ t.indexes i (resolved_index _ _ _ i resolved)
      exact ⟨_, by rw [removeGroup, resolveIndex, gone]; rfl⟩

-- The first removal is looked for again by every later plan, and in vain.
theorem removal_breaks_off (kind : TogetherKind) (add : List (List String)) (group : List String)
    (remove : List (List String)) (decision : Decision) (caps : ServerCaps) (t goal : Table) (planned : List Step)
    (succeeds : steps (.alterTogether t.name kind add (group :: remove)) decision caps (some t.entry) = .ok planned)
    (ran : t.run server planned = some goal) :
    ¬ AlwaysCarriesOn server (.alterTogether t.name kind add (group :: remove)) decision caps t goal planned := by
  intro always
  obtain ⟨removals, removed, rfl⟩ := (map_ok_iff _ _ _).mp succeeds
  cases (map_all_ok_iff _ _ _).mp removed with
  | cons found others =>
      rename_i removal rest
      obtain ⟨s, accepted, -⟩ := Option.bind_eq_some_iff.mp ran
      obtain ⟨cause, missing⟩ := removed_missing server t s kind group removal found accepted
      obtain ⟨again, made, -⟩ := always [removal] _ s { tables := [(t.name, s.entry)] } rfl
        (run_one server t s removal accepted) List.lookup_cons_self
      rw [for_catalog, Catalog.table?, Operation.table, List.lookup_cons_self, steps, alterTogether, List.mapM_cons,
        missing] at made
      cases made

theorem added_plan (kind : TogetherKind) (add : List (List String)) (decision : Decision) (caps : ServerCaps)
    (t : Table) (table : String) (own : table = t.name) :
    steps (.alterTogether table kind add []) decision caps (some t.entry) = .ok (additions kind add t) := by
  rw [own]
  rfl

theorem additions_named (kind : TogetherKind) (add : List (List String)) (t u : Table)
    (ran : t.run server (additions kind add t) = some u) : u.name = t.name :=
  (mark_lasts server t u "" (fun _ => true) _
    ⟨fun step member => (addition_concerns kind add t step member).imp fun _ found => found.2,
      fun _ _ _ _ marked => marked⟩ ran).1

theorem drop_reached (kind : TogetherKind) (ahead behind : List (List String)) (t goal : Table) (name : String)
    (first : name ∈ ahead.map (groupName t.name kind)) (broken : (standing t.entry name).indexed = some false)
    (ran : t.run server (additions kind (ahead ++ behind) t) = some goal) :
    ∃ before after s, additions kind (ahead ++ behind) t = before ++ after ∧ t.run server before = some s ∧
      s.name = t.name ∧ (standing s.entry name).indexed = none := by
  obtain ⟨group, member, rfl⟩ := List.mem_map.mp first
  obtain ⟨early, late, rfl⟩ := List.append_of_mem member
  let drop := Step.dropIndexConcurrently (groupName t.name kind group)
  obtain ⟨rest, planned⟩ : ∃ rest, additions kind (early ++ group :: late ++ behind) t =
      additions kind early t ++ drop :: rest := by
    have split : additions kind (early ++ group :: late ++ behind) t =
        additions kind early t ++ additions kind (group :: (late ++ behind)) t := by
      rw [List.append_assoc, List.cons_append]
      exact List.flatMap_append
    rw [split, additions_cons, groupSteps, broken, (group_index_parts t.name kind group).1]
    exact ⟨_, rfl⟩
  rw [planned, Table.run, Table.run_append] at ran
  obtain ⟨m, reached, later⟩ := Option.bind_eq_some_iff.mp ran
  refine ⟨additions kind early t ++ [drop], rest, m.withoutIndex (groupName t.name kind group), ?_, ?_,
    additions_named server kind early t m reached, congrArg Standing.indexed (dropped_standing m _).1⟩
  · rw [planned, List.append_assoc]
    rfl
  · rw [Table.run, Table.run_append, reached]
    rfl

-- Where an index is dropped for one group and then for another, the new one is dropped with it. A run that
-- is cut off behind the first of these statements leaves two creations of one name to be planned.
theorem shared_name_breaks_off (kind : TogetherKind) (add : List (List String)) (decision : Decision)
    (caps : ServerCaps) (t goal : Table) (ran : t.run server (additions kind add t) = some goal)
    (shared : ¬ (pendingNames t.name kind add t.entry).Nodup) :
    ¬ AlwaysCarriesOn server (.alterTogether t.name kind add []) decision caps t goal (additions kind add t) := by
  intro always
  obtain ⟨name, twice⟩ := List.exists_duplicate_iff_not_nodup.mpr shared
  rw [List.duplicate_iff_sublist, pendingNames] at twice
  have due : isSettled kind (standing t.entry name) = false := by
    have member := twice.subset List.mem_cons_self
    simpa using (List.mem_filter.mp member).2
  obtain ⟨early, late, split, first, second⟩ := List.cons_sublist_iff.mp (twice.trans List.filter_sublist)
  rw [List.singleton_sublist] at second
  obtain ⟨ahead, behind, rfl, rfl, rfl⟩ := List.map_eq_append_iff.mp split
  by_cases broken : (standing t.entry name).indexed = some false
  · obtain ⟨before, after, s, cut, reached, named, absent⟩ :=
      drop_reached server kind ahead behind t goal name first broken ran
    obtain ⟨again, made, -, ends⟩ :=
      always before after s { tables := [(t.name, s.entry)] } cut reached List.lookup_cons_self
    rw [for_catalog, Catalog.table?, Operation.table, List.lookup_cons_self,
      added_plan kind (ahead ++ behind) decision caps s t.name named.symm] at made
    cases made
    rw [← named] at first second
    rw [shared_name_refused server kind ahead behind s name first second (by rw [isSettled, absent]; rfl)
      (by rw [absent]; decide)] at ends
    cases ends
  · rw [shared_name_refused server kind ahead behind t name first second due broken] at ran
    cases ran

theorem steady_carries_on (kind : TogetherKind) (add : List (List String)) (decision : Decision)
    (caps : ServerCaps) (t goal : Table) (ran : t.run server (additions kind add t) = some goal)
    (distinct : (pendingNames t.name kind add t.entry).Nodup) :
    AlwaysCarriesOn server (.alterTogether t.name kind add []) decision caps t goal (additions kind add t) := by
  intro before after s later cut reached listed
  obtain ⟨named, remaining⟩ := additions_cut server kind add t s before after distinct cut reached
  refine ⟨additions kind add s, ?_, additions_needed kind add s, ?_⟩
  · rw [for_catalog, listed, added_plan kind add decision caps s t.name named.symm]
  · rw [cut, Table.run, Table.run_append] at ran
    rw [Table.run] at reached ⊢
    rwa [reached, Option.bind_some, ← remaining] at ran

-- A composite operation whose plan runs to its end carries on from every cut exactly where it is steady.
theorem every_cut_carries_on_iff (op : Operation) (decision : Decision) (caps : ServerCaps) (catalog : Catalog)
    (t goal : Table) (planned : List Step) (composite : isComposite op = true) (own : op.table = t.name)
    (listed : catalog.table? op.table = some t.entry)
    (succeeds : forCatalog op decision caps catalog = .ok planned) (ran : t.run server planned = some goal) :
    AlwaysCarriesOn server op decision caps t goal planned ↔ IsSteady op t.entry := by
  rw [for_catalog, listed] at succeeds
  cases op with
  | addColumn table column =>
      have breaks := column_breaks_off server table column decision caps t goal planned own succeeds ran
      exact ⟨fun always => absurd always breaks, False.elim⟩
  | alterTogether table kind add remove =>
      cases own
      cases remove with
      | cons group others =>
          have breaks := removal_breaks_off server kind add group others decision caps t goal planned succeeds ran
          refine ⟨fun always => absurd always breaks, fun steady => ?_⟩
          cases steady.1
      | nil =>
          rw [added_plan kind add decision caps t t.name rfl] at succeeds
          cases succeeds
          refine ⟨fun always => ⟨rfl, ?_⟩, fun steady => ?_⟩
          · by_contra shared
            exact shared_name_breaks_off server kind add decision caps t goal ran shared always
          · exact steady_carries_on server kind add decision caps t goal ran steady.2
  | _ => cases composite

theorem added_group_carries_on :
    let server : Server := ⟨fun _ => [], fun _ => Table.keyIndex "" [] false, fun _ _ _ => ""⟩
    let op := Operation.alterTogether "seats" .unique [["row", "number"]] []
    let t : Table := ⟨"seats", [], [], [⟨"row", "integer", true⟩, ⟨"number", "integer", true⟩]⟩
    let decision := judge op .default .default .unknown
    let goal := withGroup t .unique ["row", "number"]
    ∃ planned, forCatalog op decision .default { tables := [("seats", t.entry)] } = .ok planned ∧ planned.length = 2 ∧
      t.run server planned = some goal ∧ IsSteady op t.entry ∧
      AlwaysCarriesOn server op decision .default t goal planned := by
  intro server op t decision goal
  have planned : forCatalog op decision .default { tables := [("seats", t.entry)] } =
      .ok (additions .unique [["row", "number"]] t) := rfl
  have ran : t.run server (additions .unique [["row", "number"]] t) = some goal := by
    rw [additions, List.flatMap_cons, List.flatMap_nil, List.append_nil]
    exact stepwise_addition server t t.entry .unique ["row", "number"] rfl rfl
  have steady : IsSteady op t.entry := ⟨rfl, (List.nodup_singleton _).filter _⟩
  have carries := (every_cut_carries_on_iff server op decision .default { tables := [("seats", t.entry)] } t goal _
    rfl rfl rfl planned ran).mpr steady
  exact ⟨_, planned, rfl, ran, steady, carries⟩

-- A unique column whose key is missing is added once more.
theorem column_planned_again :
    let server : Server := ⟨fun _ => [], fun _ => Table.keyIndex "" [] false, fun _ _ _ => ""⟩
    let column : ColumnDef := { ColumnDef.plain "code" "integer" with unique := true }
    let op := Operation.addColumn "orders" column
    let t : Table := ⟨"orders", [], [], []⟩
    let caps : ServerCaps := ⟨120000, true⟩
    let decision := judge op .default caps .unknown
    ∃ goal before after s again, column.hasInlineObjects = true ∧
      forCatalog op decision caps { tables := [("orders", t.entry)] } = .ok (before ++ after) ∧
      t.run server (before ++ after) = some goal ∧ t.run server before = some s ∧
      forCatalog op decision caps { tables := [("orders", s.entry)] } = .ok again ∧
      (∃ step ∈ again, isRedundant s.entry step = true) ∧ s.run server again = none := by
  intro server column op t caps decision
  let s : Table := ⟨"orders", [], [], [⟨"code", "integer", false⟩]⟩
  let add := Step.alter "orders" (.addColumn column.bareClause)
  let key := Key.unique "orders" (uniqueName "orders" none ["code"]) ["code"]
  have keyed : s.runStrictly server (addKey (some t.entry) key) = some (s.withKey key.name ["code"] false none) :=
    (add_key_resumable server s key rfl rfl rfl rfl).finishes s (.inl .absent)
  have ran : t.run server ([add] ++ addKey (some t.entry) key) = some (s.withKey key.name ["code"] false none) := by
    rw [Table.run, List.singleton_append, Table.runBy]
    exact Option.bind_eq_some_iff.mpr ⟨s, rfl, strict_run_accepted server s _ _ keyed⟩
  have parts (entry : TableEntry) : addColumn "orders" column caps (some entry) = [add] ++ addKey (some entry) key := by
    have bare : Baseline.dropDefault "orders" column = [] ∧ columnKey "orders" column = some key ∧
        columnReference "orders" column (some entry) = [] ∧ column.patternIndex "orders" caps = none :=
      ⟨rfl, rfl, rfl, rfl⟩
    rw [addColumn, bare.1, bare.2.1, bare.2.2.1, bare.2.2.2]
    simp [add]
  have planned (entry : TableEntry) : forCatalog op decision caps { tables := [("orders", entry)] } =
      .ok ([add] ++ addKey (some entry) key) := by
    rw [← parts]
    rfl
  exact ⟨_, [add], addKey (some t.entry) key, s, _, rfl, planned t.entry, ran, rfl, planned s.entry,
    ⟨add, List.mem_cons_self, rfl⟩, repeated_column_refused server s "orders" column _ rfl rfl⟩

end OnlineDdl.Stepwise
