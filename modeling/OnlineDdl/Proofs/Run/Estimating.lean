import OnlineDdl.Proofs.Run.Session

/-! The size of a table has a say in one thing only: whether a column that becomes NOT NULL under a limit
does so by the plain statement. Nothing else asks for it, and only the side of the limit counts. -/

set_option autoImplicit false

namespace OnlineDdl

variable {σ : Type}

-- A table counts as large where it is known to have more rows than the limit.
def RowEstimate.exceeds (limit : UInt64) : RowEstimate → Bool
  | .known count => decide (limit < count)
  | .unknown => false

def DecidedBySize (op : Operation) (config : PlannerConfig) (limit : UInt64) : Prop :=
  (∃ table column, op = .setNotNull table column) ∧ config.notNullMode = .sizeThreshold limit

def PlannerConfig.withLimit (config : PlannerConfig) (limit : UInt64) : PlannerConfig :=
  { config with notNullMode := .sizeThreshold limit }

variable (config : PlannerConfig) (caps : ServerCaps) (catalog : Catalog) (op : Operation)

theorem needs_estimate_iff : needsRowEstimate op config = true ↔ ∃ limit, DecidedBySize op config limit := by
  cases op with
  | setNotNull table column =>
      cases mode : config.notNullMode <;> simp [needsRowEstimate, DecidedBySize, NotNullMode.needsRowEstimate, mode]
  | _ => simp [needsRowEstimate, DecidedBySize]

theorem select_by_size (limit : UInt64) (rows : RowEstimate) :
    NotNullStrategy.select (.sizeThreshold limit) caps rows =
      if rows.exceeds limit then .constraintAssisted else .directUnsafe := by
  cases rows with
  | unknown => rfl
  | known count => simp [NotNullStrategy.select, RowEstimate.exceeds]

theorem judge_by_size (rows others : RowEstimate)
    (same : ∀ limit, DecidedBySize op config limit → rows.exceeds limit = others.exceeds limit) :
    judge op config caps rows = judge op config caps others := by
  cases op with
  | setNotNull table column =>
      cases mode : config.notNullMode with
      | sizeThreshold limit =>
          rw [judge, judge, mode, select_by_size, select_by_size, same limit ⟨⟨table, column, rfl⟩, mode⟩]
      | _ => simp [judge, mode, NotNullStrategy.select]
  | _ => rfl

theorem judged_strategy (rows : RowEstimate) (limit : UInt64) (decided : DecidedBySize op config limit) :
    (judge op config caps rows).notNull =
      some (if rows.exceeds limit then .constraintAssisted else .directUnsafe) := by
  obtain ⟨⟨table, column, rfl⟩, mode⟩ := decided
  rw [judge, mode, select_by_size]

theorem compiled_strategy (rows : RowEstimate) (compiled : Compiled)
    (succeeds : compileWith op config caps catalog rows = .ok compiled) :
    compiled.strategy = (judge op config caps rows).notNull := by
  obtain ⟨base, planned, -, -, rfl⟩ := compile_with_parts op config caps catalog rows compiled succeeds
  rfl

theorem large_table_compiled (rows : RowEstimate) (limit : UInt64) (decided : DecidedBySize op config limit)
    (large : rows.exceeds limit = true) : ∃ compiled, compileWith op config caps catalog rows = .ok compiled := by
  obtain ⟨⟨table, column, rfl⟩, mode⟩ := decided
  rw [compileWith, judge, mode, select_by_size, if_pos large]
  exact ⟨_, rfl⟩

def toldStrategy (outcome : Except Failure Compiled) : Option NotNullStrategy :=
  outcome.toOption.bind (·.strategy)

theorem limit_told (rows : RowEstimate) (limit : UInt64) (decided : DecidedBySize op config limit) :
    toldStrategy (compileWith op config caps catalog rows) = some .constraintAssisted ↔
      rows.exceeds limit = true := by
  have judged := judged_strategy config caps op rows limit decided
  cases large : rows.exceeds limit with
  | true =>
      obtain ⟨compiled, succeeds⟩ := large_table_compiled config caps catalog op rows limit decided large
      have strategy := compiled_strategy config caps catalog op rows compiled succeeds
      simp [toldStrategy, succeeds, Except.toOption, strategy, judged, large]
  | false =>
      cases outcome : compileWith op config caps catalog rows with
      | error failure => simp [toldStrategy, Except.toOption]
      | ok compiled =>
          have strategy := compiled_strategy config caps catalog op rows compiled outcome
          simp [toldStrategy, Except.toOption, strategy, judged, large]

theorem compiled_alike_iff (rows others : RowEstimate) :
    compileWith op config caps catalog rows = compileWith op config caps catalog others ↔
      ∀ limit, DecidedBySize op config limit → rows.exceeds limit = others.exceeds limit := by
  constructor
  · intro same limit decided
    have one := limit_told config caps catalog op rows limit decided
    have two := limit_told config caps catalog op others limit decided
    rw [same, two] at one
    exact Bool.eq_iff_iff.mpr one.symm
  · intro same
    rw [compileWith, compileWith, judge_by_size config caps op rows others same]

theorem compile_answered (estimateRows : String → Session σ RowEstimate) (s t : σ) (rows : RowEstimate)
    (answered : (estimateRows op.table).run s = (.ok rows, t)) :
    ((compile config caps catalog estimateRows op).run s).1 =
      compileWith op config (config.serverCaps caps) catalog rows := by
  by_cases needed : needsRowEstimate op config = true
  · have estimated : Estimated config estimateRows op s rows t := by rwa [Estimated, if_pos needed]
    rw [compile_estimated config caps catalog estimateRows op s t rows estimated]
  · have estimated : Estimated config estimateRows op s .unknown s := by simp [Estimated, needed]
    rw [compile_estimated config caps catalog estimateRows op s s .unknown estimated]
    refine (compiled_alike_iff config _ catalog op .unknown rows).mpr fun limit decided => ?_
    exact absurd ((needs_estimate_iff config op).mpr ⟨limit, decided⟩) needed

theorem larger_table_assisted (count more : UInt64) (grows : count ≤ more)
    (assisted : (judge op config caps (.known count)).notNull = some .constraintAssisted) :
    (judge op config caps (.known more)).notNull = some .constraintAssisted := by
  by_cases needed : ∃ limit, DecidedBySize op config limit
  · obtain ⟨limit, decided⟩ := needed
    rw [judged_strategy config caps op _ limit decided] at assisted ⊢
    by_cases beyond : limit < count
    · have further : limit < more := by
        rw [UInt64.lt_iff_toNat_lt] at beyond ⊢
        rw [UInt64.le_iff_toNat_le] at grows
        omega
      simp [RowEstimate.exceeds, further]
    · simp [RowEstimate.exceeds, beyond] at assisted
  · rw [← judge_by_size config caps op (.known count) _ fun limit decided => absurd ⟨limit, decided⟩ needed]
    exact assisted

theorem higher_limit_direct (rows : RowEstimate) (limit higher : UInt64) (raised : limit ≤ higher)
    (direct : (judge op (config.withLimit limit) caps rows).notNull = some .directUnsafe) :
    (judge op (config.withLimit higher) caps rows).notNull = some .directUnsafe := by
  cases op with
  | setNotNull table column =>
      have decided (n : UInt64) : DecidedBySize (.setNotNull table column) (config.withLimit n) n :=
        ⟨⟨table, column, rfl⟩, rfl⟩
      rw [judged_strategy _ caps _ rows _ (decided _)] at direct ⊢
      cases rows with
      | unknown => rfl
      | known count =>
          have within : ¬ limit < count := by
            intro beyond
            simp [RowEstimate.exceeds, beyond] at direct
          have still : ¬ higher < count := by
            rw [UInt64.lt_iff_toNat_lt] at within ⊢
            rw [UInt64.le_iff_toNat_le] at raised
            omega
          simp [RowEstimate.exceeds, still]
  | _ => exact direct

-- A probe is asked only where a limit decides, and once for the table of the operation. Two probes that
-- answer lead to one outcome exactly where their answers are on the same side of the limit.
theorem size_tells_side_of_limit :
    (∀ ask other : String → Session σ RowEstimate, (∀ limit, ¬ DecidedBySize op config limit) →
      compile config caps catalog ask op = compile config caps catalog other op) ∧
    (∀ (ask : String → Session σ RowEstimate) limit, DecidedBySize op config limit →
      compile config caps catalog ask op =
        ask op.table >>= fun rows => compile config caps catalog (fun _ => pure rows) op) ∧
    (∀ (ask other : String → Session σ RowEstimate) s t u v rows others,
      (ask op.table).run s = (.ok rows, t) → (other op.table).run u = (.ok others, v) →
      (((compile config caps catalog ask op).run s).1 = ((compile config caps catalog other op).run u).1 ↔
        ∀ limit, DecidedBySize op config limit → rows.exceeds limit = others.exceeds limit)) ∧
    (∀ rows compiled, compileWith op config (config.serverCaps caps) catalog rows = .ok compiled →
      compiled.strategy = (judge op config (config.serverCaps caps) rows).notNull) ∧
    (∀ count more, count ≤ more →
      (judge op config (config.serverCaps caps) (.known count)).notNull = some .constraintAssisted →
      (judge op config (config.serverCaps caps) (.known more)).notNull = some .constraintAssisted) ∧
    ∀ rows limit higher, limit ≤ higher →
      (judge op (config.withLimit limit) (config.serverCaps caps) rows).notNull = some .directUnsafe →
      (judge op (config.withLimit higher) (config.serverCaps caps) rows).notNull = some .directUnsafe := by
  refine ⟨fun ask other free => ?_, fun ask limit decided => ?_, fun ask other s t u v rows others one two => ?_,
    compiled_strategy config _ catalog op, larger_table_assisted config _ op, higher_limit_direct config _ op⟩
  · have spared : ¬ needsRowEstimate op config = true := fun needed =>
      let ⟨limit, decided⟩ := (needs_estimate_iff config op).mp needed
      free limit decided
    rw [compile, compile, if_neg spared, if_neg spared]
  · have needed := (needs_estimate_iff config op).mpr ⟨limit, decided⟩
    simp only [compile, if_pos needed, pure_bind]
  · rw [compile_answered config caps catalog op ask s t rows one,
      compile_answered config caps catalog op other u v others two]
    exact compiled_alike_iff config _ catalog op rows others

-- A table of exactly as many rows as the limit is like one of unknown size, and one row more makes the
-- difference. The way back from NOT NULL does not mind a probe that fails.
theorem full_table_is_small :
    let config := PlannerConfig.default.withLimit 10
    let op := Operation.setNotNull "orders" "total"
    let back := Operation.dropNotNull "orders" "total"
    let told (rows : RowEstimate) : String → Session Unit RowEstimate := fun _ => pure rows
    let outcome (rows : RowEstimate) := ((compile config .default .empty (told rows) op).run ()).1
    outcome (.known 10) = outcome .unknown ∧ outcome (.known 11) ≠ outcome (.known 10) ∧
      compile config .default .empty (fun _ => throw (.internal "no statistics")) back =
        compile config .default .empty (told .unknown) back := by
  intro config op back told outcome
  obtain ⟨-, -, alike, -⟩ := size_tells_side_of_limit (σ := Unit) config .default .empty op
  have sides (rows others : RowEstimate) := alike (told rows) (told others) () () () () rows others rfl rfl
  have decided : DecidedBySize op config 10 := ⟨⟨"orders", "total", rfl⟩, rfl⟩
  refine ⟨(sides _ _).mpr ?_, fun same => ?_, ?_⟩
  · rintro limit ⟨-, mode⟩
    cases mode
    decide
  · have sided := (sides _ _).mp same 10 decided
    revert sided
    decide
  · refine (size_tells_side_of_limit config .default .empty back).1 _ _ ?_
    rintro limit ⟨⟨table, column, other⟩, -⟩
    simp [back] at other

end OnlineDdl
