import OnlineDdl.Plan.Stepwise
import OnlineDdl.Proofs.Plan.Vouching
import OnlineDdl.Proofs.Service.PlainName

/-! The check of a request. It passes exactly if every name that an operation gives is plain, it tells the
first one that is not, and what it passes is planned without a name from anywhere else than the catalog. -/

set_option autoImplicit false

namespace OnlineDdl

def PlanRequest.Valid (request : PlanRequest) : Prop :=
  request.operations ≠ [] ∧ ∀ op ∈ request.operations, ∀ name ∈ op.identifiers, IsPlainName name

structure FirstOffence (operations : List Operation) (op : Operation) (name : String) : Prop where
  operation : ∃ before after, operations = before ++ op :: after ∧
    ∀ other ∈ before, ∀ earlier ∈ other.identifiers, IsPlainName earlier
  identifier : ∃ before after, op.identifiers = before ++ name :: after ∧ ∀ earlier ∈ before, IsPlainName earlier
  offends : ¬ IsPlainName name

theorem no_offence_iff (op : Operation) :
    invalidIdentifier? op = none ↔ ∀ name ∈ op.identifiers, IsPlainName name := by
  simp [invalidIdentifier?, plain_iff]

theorem offence_iff (op : Operation) (name : String) :
    invalidIdentifier? op = some name ↔
      ¬ IsPlainName name ∧ ∃ before after, op.identifiers = before ++ name :: after ∧
        ∀ earlier ∈ before, IsPlainName earlier := by
  rw [invalidIdentifier?, List.find?_eq_some_iff_append]
  simp [← plain_iff]

theorem fault_none_iff (request : PlanRequest) : request.fault? = none ↔ request.Valid := by
  rw [PlanRequest.fault?, PlanRequest.Valid]
  split
  · next empty => simp [List.isEmpty_iff.mp empty]
  · next filled =>
      rw [List.isEmpty_iff] at filled
      simp [filled, no_offence_iff]

theorem fault_some_iff (request : PlanRequest) (fault : RequestError) :
    request.fault? = some fault ↔
      request.operations = [] ∧ fault = .noOperations ∨
        ∃ op name, FirstOffence request.operations op name ∧ fault = .invalidIdentifier name op.kindName := by
  rw [PlanRequest.fault?]
  split
  · next empty =>
      rw [List.isEmpty_iff] at empty
      rw [empty, Option.some.injEq]
      refine ⟨fun same => .inl ⟨rfl, same.symm⟩, ?_⟩
      rintro (⟨-, rfl⟩ | ⟨op, name, offence, -⟩)
      · rfl
      · obtain ⟨before, after, divided, -⟩ := offence.operation
        simp at divided
  · next filled =>
      rw [List.isEmpty_iff] at filled
      simp only [filled, false_and, false_or, List.findSome?_eq_some_iff, Option.map_eq_some_iff, Option.map_eq_none_iff,
        offence_iff, no_offence_iff]
      constructor
      · rintro ⟨before, op, after, divided, ⟨name, ⟨offends, inside⟩, rfl⟩, earlier⟩
        exact ⟨op, name, ⟨⟨before, after, divided, earlier⟩, inside, offends⟩, rfl⟩
      · rintro ⟨op, name, ⟨⟨before, after, divided, earlier⟩, inside, offends⟩, rfl⟩
        exact ⟨before, op, after, divided, ⟨name, ⟨offends, inside⟩, rfl⟩, earlier⟩

theorem plain_name_bytes (name : String) (plain : isPlainIdentifier name = true) :
    name.toList ∈ identifierPattern ∧ name.utf8ByteSize ≤ 63 := by
  obtain ⟨fits, short⟩ := (plain_iff name).mp plain
  refine ⟨fits, ?_⟩
  have bytes := continuing_bytes name.toList (plain_continues name plain)
  rw [String.ofList_toList, String.length_toList] at bytes
  exact bytes ▸ short

-- What a plan does with the names of a request that passes. Its statements depend on how they are quoted
-- at these names only.
theorem request_checked_exactly (request : PlanRequest) :
    (request.fault? = none ↔ request.Valid) ∧
      (∀ text, request.fault?.map RequestError.message = some text ↔
        request.operations = [] ∧ text = "operations: At least one operation is required" ∨
          ∃ op name, FirstOffence request.operations op name ∧
            text = "operations: Invalid identifier '" ++ name ++ "' in " ++ op.kindName
              ++ ". Must start with a letter or underscore, contain only letters, digits, underscores or "
              ++ "dollar signs, and be at most 63 characters.") ∧
      (request.Valid → ∀ op ∈ request.operations, ∀ decision caps catalog planned,
        Baseline.forCatalog op caps catalog = .ok planned ∨
          Stepwise.forCatalog op decision caps catalog = .ok planned →
        ∀ step ∈ planned,
          (∀ quote : String → String, (∀ name ∈ step.change.quoted, quote name = quoteIdent name) →
            step.change.sqlWith quote = step.statement.sql) ∧
          ∀ name ∈ step.change.quoted, (name.toList ∈ identifierPattern ∧ name.utf8ByteSize ≤ 63) ∨
            DropsListed (catalog.table? op.table) step.change name) := by
  refine ⟨fault_none_iff request, fun text => ?_, fun valid op among decision caps catalog planned succeeds => ?_⟩
  · rw [Option.map_eq_some_iff]
    simp only [fault_some_iff]
    constructor
    · rintro ⟨fault, ⟨empty, rfl⟩ | ⟨op, name, offence, rfl⟩, rfl⟩
      · exact .inl ⟨empty, rfl⟩
      · exact .inr ⟨op, name, offence, rfl⟩
    · rintro (⟨empty, rfl⟩ | ⟨op, name, offence, rfl⟩)
      · exact ⟨_, .inl ⟨empty, rfl⟩, rfl⟩
      · exact ⟨_, .inr ⟨op, name, offence, rfl⟩, rfl⟩
  · have plain : AllPlain op.identifiers := fun name given => (plain_iff name).mpr (valid.2 op among name given)
    have vouched : AllVouched (catalog.table? op.table) planned := by
      rw [Baseline.for_catalog, Stepwise.for_catalog] at succeeds
      rcases succeeds with base | stepwise
      · exact Baseline.steps_vouched _ op caps planned plain base
      · exact Stepwise.steps_vouched _ op decision caps planned plain stepwise
    intro step member
    refine ⟨fun quote alike => statement_quoted quote step.change alike, fun name quoted => ?_⟩
    exact (vouched step member name quoted).imp_left (plain_name_bytes name)

-- A generated name that is shortened and mended at its start, and beside it a listed name that is not plain.
theorem shortened_name_checked :
    let table := "_customer_account_change_history"
    let marks := Operation.setNotNull table "settlement_date"
    let drops := Operation.dropConstraint table none ["code"] none
    let request : PlanRequest := ⟨[marks, drops], none, none, none, [], false⟩
    let catalog : Catalog := { tables := [(table, ⟨[⟨"code key", .check, ["code"], true, none⟩], [], []⟩)] }
    let helper := "D_customer_account_chan_settlement_date_a66410a3_notnul"
    let decision : Decision := ⟨.unsafeFixable, some .constraintAssisted⟩
    let planned := [.alter table (.addConstraint helper (.notNull "settlement_date") true), .validate table helper,
      .alter table (.setNotNull "settlement_date"), .dropConstraint table helper]
    request.Valid ∧ Stepwise.forCatalog marks decision .default catalog = .ok planned ∧
      (helper.toList ∈ identifierPattern ∧ helper.utf8ByteSize ≤ 63) ∧
      Stepwise.forCatalog drops decision .default catalog = .ok [.dropConstraint table "code key"] ∧
      DropsListed (catalog.table? table) (.alterTable table (.dropConstraint "code key")) "code key" := by
  intro table marks drops request catalog helper decision planned
  obtain ⟨passes, -, quotes⟩ := request_checked_exactly request
  have valid : request.Valid := passes.mp (by decide +kernel)
  have marked : Stepwise.forCatalog marks decision .default catalog = .ok planned := by decide +kernel
  have dropped : Stepwise.forCatalog drops decision .default catalog = .ok [.dropConstraint table "code key"] := by
    decide +kernel
  have first := quotes valid marks List.mem_cons_self decision .default catalog planned (.inr marked)
  have second := quotes valid drops (List.mem_cons_of_mem _ List.mem_cons_self) decision .default catalog _ (.inr dropped)
  refine ⟨valid, marked, ?_, dropped, ?_⟩
  · -- The check is added, so its name is not that of a listed constraint.
    refine ((first _ List.mem_cons_self).2 helper (by decide)).resolve_right ?_
    rintro ⟨known, -, ⟨other, same, -⟩ | ⟨concurrently, same, -⟩⟩
    · cases same
    · cases same
  · refine ((second _ List.mem_cons_self).2 "code key" (by decide)).resolve_left fun plain => ?_
    have short : "code key".length ≤ 63 := by decide
    have refused : isPlainIdentifier "code key" = false := by decide +kernel
    rw [(plain_iff _).mpr ⟨plain.1, short⟩] at refused
    cases refused

end OnlineDdl
