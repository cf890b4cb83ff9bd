import OnlineDdl.Plan.Column
import OnlineDdl.Proofs.Plan.Adding

/-! The way to NOT NULL by a check that proves it, taken up again after an interruption. -/

set_option autoImplicit false

namespace OnlineDdl.Stepwise

variable (server : Server)

def notNullRule (table column : String) : HeldConstraint :=
  ⟨⟨notNullHelper table column, .check, [column], true, none⟩, .check (quoteIdent column ++ " IS NOT NULL")⟩

structure Proving (server : Server) (t : Table) (column : String) (states : Table → Prop) (v : Table) : Prop where
  started : states t
  known : ∀ s, states s → s = t ∨ s.hasConstraint (notNullHelper t.name column) = true
  named : v.name = t.name
  columns : v.columns = t.columns
  validated : ∃ c, v.entry.constraint? (notNullHelper t.name column) = some c ∧ c.validated = true
  resumable : Resumable server
    (fun entry => addNotValid (some entry) t.name (notNullHelper t.name column) (.notNull column)) states v

theorem absent_helper_proving (t : Table) (column : String)
    (free : t.hasConstraint (notNullHelper t.name column) = false) :
    ∃ states, Proving server t column states (t.withConstraint (notNullRule t.name column)) := by
  have found := Table.constraint_found t (notNullRule t.name column) free
  have adding := add_not_valid_resumable server t (notNullRule t.name column) (.notNull column) free fun _ => rfl
  refine ⟨_, .inl (.inl rfl), fun s state => ?_, rfl, rfl, ⟨_, found, rfl⟩, adding⟩
  rcases state with (same | same) | (same | same)
  · exact .inl same
  all_goals exact .inr (by simp [same, Table.hasConstraint, Table.withConstraint, notNullRule])

theorem present_helper_proving (t : Table) (column : String) (existing : ConstraintInfo)
    (known : t.entry.constraint? (notNullHelper t.name column) = some existing) :
    ∃ states v, Proving server t column states v := by
  have present := Table.constraint_present t _ existing known
  cases checked : existing.validated with
  | true =>
      refine ⟨(· = t), t, rfl, fun s same => .inl same, rfl, rfl, ⟨existing, known, checked⟩,
        resumable_idle server _ t ?_⟩
      rw [addNotValid, Option.bind_some, known]
      simp [checked]
  | false =>
      have after := Table.constraint_validated t _ existing known
      refine ⟨_, t.withValidated (notNullHelper t.name column), .inl rfl, fun s state => ?_, rfl, rfl,
        ⟨_, after, rfl⟩, resumable_step server _ (.validate t.name (notNullHelper t.name column)) t _
          (validate_accepted server t _ present) (validate_whole _ _) ?_ ?_⟩
      · rcases state with same | same
        · exact .inl same
        · exact .inr (same ▸ Table.constraint_present _ _ _ after)
      · rw [addNotValid, Option.bind_some, known]
        simp [checked]
      · rw [addNotValid, Option.bind_some, after]
        simp

theorem helper_proving (t : Table) (column : String) : ∃ states v, Proving server t column states v := by
  cases known : t.entry.constraint? (notNullHelper t.name column) with
  | none =>
      obtain ⟨states, proving⟩ := absent_helper_proving server t column ((t.constraint_absent_iff _).mp known)
      exact ⟨states, _, proving⟩
  | some existing => exact present_helper_proving server t column existing known

theorem adoption_due (t s : Table) (column : String)
    (proving : s.hasConstraint (notNullHelper t.name column) = true) :
    isNotNullDone t.name column (some s.entry) = false := by
  rw [isNotNullDone, Option.bind_some, Option.bind_some]
  cases known : s.entry.constraint? (notNullHelper t.name column) with
  | none =>
      rw [(s.constraint_absent_iff _).mp known] at proving
      cases proving
  | some existing => exact Bool.and_false _

def adopted (v : Table) (column : String) : Table :=
  (v.withNotNull [column] true).withoutConstraint (notNullHelper v.name column)

theorem adopted_done (v : Table) (column : String) (present : v.hasColumn column = true) :
    isNotNullDone v.name column (some (adopted v column).entry) = true := by
  rw [isNotNullDone, Option.bind_some, Option.bind_some, adopted, Table.constraint_dropped, Option.isNone_none,
    Bool.and_true]
  exact Table.marked_column v column present

def adoption (table column : String) (strategy : NotNullStrategy) (caps : ServerCaps) (entry : TableEntry) :
    List Step :=
  if isNotNullDone table column (some entry) then [] else adoptNotNull table column strategy caps

structure Adopting (server : Server) (v : Table) (column : String) (plan : TableEntry → List Step)
    (states : Table → Prop) : Prop where
  started : states v
  settled : ∀ s, states s →
    s.entry.constraint? (notNullHelper v.name column) = v.entry.constraint? (notNullHelper v.name column) ∨
      isNotNullDone v.name column (some s.entry) = true
  resumable : ∃ goal, Resumable server plan states goal

-- The flag is set while the helper proves it, and the helper goes last.
theorem raise_adopting (v : Table) (column : String) (raise : Step) (plan : TableEntry → List Step)
    (present : v.hasColumn column = true) (proven : v.hasConstraint (notNullHelper v.name column) = true)
    (raises : ∀ u : Table, u.name = v.name → u.hasColumn column = true →
      raise.change.strictEffect server u = some (u.withNotNull [column] true))
    (whole : Whole raise)
    (planned : ∀ entry, plan entry =
      if isNotNullDone v.name column (some entry) then []
      else [raise, .dropConstraint v.name (notNullHelper v.name column)]) :
    ∃ states, Adopting server v column plan states := by
  have remains : (v.withNotNull [column] true).hasColumn column = true := by
    rw [Table.hasColumn, List.any_eq_true] at present ⊢
    obtain ⟨c, member, same⟩ := present
    refine ⟨_, List.mem_map.mpr ⟨c, member, rfl⟩, ?_⟩
    split <;> exact same
  have kept : (v.withNotNull [column] true).hasConstraint (notNullHelper v.name column) = true := proven
  have drops : (Step.dropConstraint v.name (notNullHelper v.name column)).change.strictEffect server
      (v.withNotNull [column] true) = some (adopted v column) := by
    apply alter_accepted server (v.withNotNull [column] true)
    simp [TableAction.effect, kept, adopted]
  refine ⟨_, .inl rfl, fun s state => ?_, _, resumable_repeat server plan raise
    (.dropConstraint v.name (notNullHelper v.name column)) v (v.withNotNull [column] true) (adopted v column)
    (raises v rfl present) ?_ drops whole (alter_whole _ _) ?_ ?_ ?_⟩
  · rcases state with same | same | same
    · exact .inl (same ▸ rfl)
    · exact .inl (same ▸ rfl)
    · exact .inr (same ▸ adopted_done v column present)
  · rw [raises (v.withNotNull [column] true) rfl remains, Table.marked_twice]
  · simp [planned, adoption_due v v column proven]
  · simp [planned, adoption_due v (v.withNotNull [column] true) column kept]
  · simp [planned, adopted_done v column present]

theorem adoption_adopting (v : Table) (column : String) (strategy : NotNullStrategy) (caps : ServerCaps)
    (indirect : strategy ≠ .directUnsafe) (present : v.hasColumn column = true)
    (proven : v.hasConstraint (notNullHelper v.name column) = true) :
    ∃ states, Adopting server v column (adoption v.name column strategy caps) states := by
  cases strategy with
  | directUnsafe => exact absurd rfl indirect
  | catalogUpdate =>
      apply raise_adopting server v column (.unwrapped (.markNotNull v.name column)) _ present proven
      · intro u named _
        simp [Step.unwrapped, Ddl.strictEffect, Ddl.effect, named]
      · intro index builds
        cases builds
      · intro entry
        rfl
  | constraintAssisted =>
      cases direct : caps.setNotNullUsesCheck with
      | true =>
          apply raise_adopting server v column (.alter v.name (.setNotNull column)) _ present proven
          · intro u named held
            rw [← named]
            apply alter_accepted server u
            simp [TableAction.effect, held]
          · exact alter_whole _ _
          · intro entry
            simp [adoption, adoptNotNull, direct]
      | false =>
          refine ⟨(· = v), rfl, fun s same => .inl (same ▸ rfl), v, resumable_idle server _ v ?_⟩
          simp [adoption, adoptNotNull, direct]

theorem set_not_null_parts (table column : String) (strategy : NotNullStrategy) (caps : ServerCaps)
    (entry : TableEntry) (indirect : strategy ≠ .directUnsafe) :
    setNotNull table column strategy caps (some entry) =
      (if isNotNullDone table column (some entry) then []
        else addNotValid (some entry) table (notNullHelper table column) (.notNull column)) ++
      adoption table column strategy caps entry := by
  rw [setNotNull, if_neg indirect, adoption]
  split <;> rfl

theorem set_not_null_resumable (t : Table) (column : String) (strategy : NotNullStrategy) (caps : ServerCaps)
    (indirect : strategy ≠ .directUnsafe) (present : t.hasColumn column = true) :
    ∃ states goal, states t ∧
      Resumable server (fun entry => setNotNull t.name column strategy caps (some entry)) states goal := by
  cases done : isNotNullDone t.name column (some t.entry) with
  | true =>
      have idle : setNotNull t.name column strategy caps (some t.entry) = [] := by
        rw [setNotNull, if_neg indirect, if_pos done]
      exact ⟨(· = t), t, rfl, resumable_idle server _ t idle⟩
  | false =>
      obtain ⟨states, v, proving⟩ := helper_proving server t column
      obtain ⟨existing, known, checked⟩ := proving.validated
      have carried : v.hasColumn column = true := by
        rw [Table.hasColumn, proving.columns]
        exact present
      have proven : v.hasConstraint (notNullHelper v.name column) = true := by
        rw [proving.named]
        exact Table.constraint_present v _ existing known
      obtain ⟨behind, adopting⟩ := adoption_adopting server v column strategy caps indirect carried proven
      obtain ⟨goal, adopts⟩ := adopting.resumable
      have settled := adopting.settled
      rw [proving.named] at adopts settled
      have pending (s : Table) (state : states s) : isNotNullDone t.name column (some s.entry) = false := by
        rcases proving.known s state with same | held
        · rw [same, done]
        · exact adoption_due t s column held
      have ahead := resumable_congr server _
        (fun entry => if isNotNullDone t.name column (some entry) then []
          else addNotValid (some entry) t.name (notNullHelper t.name column) (.notNull column))
        states v proving.resumable fun s state => by rw [pending s state]; rfl
      have pendingStill : isNotNullDone t.name column (some v.entry) = false := by
        rw [proving.named] at proven
        exact adoption_due t v column proven
      simp only [set_not_null_parts _ _ _ _ _ indirect]
      refine ⟨_, goal, .inl proving.started,
        resumable_append server _ _ _ _ _ _ ahead adopts adopting.started (fun s early => ?_) fun s late => ?_⟩
      · rw [adoption, adoption, pending s early, pendingStill]
      · rcases settled s late with kept | finished
        · rw [addNotValid, Option.bind_some, kept, known]
          simp [checked]
        · rw [finished]
          rfl

end OnlineDdl.Stepwise
