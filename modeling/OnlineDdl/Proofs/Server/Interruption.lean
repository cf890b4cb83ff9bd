import Mathlib.Logic.Relation
import OnlineDdl.Proofs.Server.Effect

/-! Runs that stop before their last step, and plans that a later run can take up again. -/

set_option autoImplicit false

namespace OnlineDdl

-- The tables that a run may leave behind. A concurrent build that fails leaves half an index.
inductive Interrupted (server : Server) : List Step → Table → Table → Prop where
  | stop (steps : List Step) (t : Table) : Interrupted server steps t t
  | next (step : Step) (rest : List Step) (t u s : Table)
      (accepted : step.change.strictEffect server t = some u) (later : Interrupted server rest u s) :
      Interrupted server (step :: rest) t s
  | half (step : Step) (rest : List Step) (t u : Table) (index : IndexSpec)
      (builds : step.change = .createIndex index true) (own : index.table = t.name)
      (left : t.createIndex index false = some u) : Interrupted server (step :: rest) t u

def Whole (step : Step) : Prop := ∀ index, step.change ≠ .createIndex index true

theorem alter_whole (table : String) (action : TableAction) : Whole (.alter table action) := by
  intro index builds
  cases builds

theorem validate_whole (table name : String) : Whole (.validate table name) := by
  intro index builds
  cases builds

theorem drop_index_whole (name : String) : Whole (.dropIndexConcurrently name) := by
  intro index builds
  cases builds

theorem interrupted_nil (server : Server) (t s : Table) (run : Interrupted server [] t s) : s = t := by
  cases run
  rfl

theorem interrupted_accepted (server : Server) (step : Step) (rest : List Step) (t u s : Table)
    (accepted : step.change.strictEffect server t = some u)
    (whole : Whole step)
    (run : Interrupted server (step :: rest) t s) : s = t ∨ Interrupted server rest u s := by
  cases run with
  | stop => exact .inl rfl
  | half _ _ _ _ index builds _ _ => exact absurd builds (whole index)
  | next _ _ _ v _ passed later =>
      rw [accepted] at passed
      exact .inr (Option.some.inj passed ▸ later)

theorem interrupted_append (server : Server) (a b : List Step) (t s : Table)
    (run : Interrupted server (a ++ b) t s) :
    Interrupted server a t s ∨ ∃ u, t.runStrictly server a = some u ∧ Interrupted server b u s := by
  induction a generalizing t with
  | nil => exact .inr ⟨t, rfl, run⟩
  | cons step rest ih =>
      cases run with
      | stop => exact .inl (.stop _ _)
      | half _ _ _ _ index builds own left => exact .inl (.half step rest t s index builds own left)
      | next _ _ _ u _ accepted later =>
          rcases ih u later with inside | ⟨v, passed, behind⟩
          · exact .inl (.next step rest t u s accepted inside)
          · exact .inr ⟨v, Option.bind_eq_some_iff.mpr ⟨u, accepted, passed⟩, behind⟩

-- A plan made anew for each table: from any of the states a run reaches the goal, and a run that is
-- interrupted leaves one of the states.
structure Resumable (server : Server) (plan : TableEntry → List Step) (states : Table → Prop)
    (goal : Table) : Prop where
  finishes : ∀ s, states s → s.runStrictly server (plan s.entry) = some goal
  keeps : ∀ s u, states s → Interrupted server (plan s.entry) s u → states u

theorem resumable_idle (server : Server) (plan : TableEntry → List Step) (t : Table)
    (idle : plan t.entry = []) : Resumable server plan (· = t) t := by
  refine ⟨fun s same => ?_, fun s u same run => ?_⟩
  · rw [same, idle]
    rfl
  · rw [same, idle] at run
    exact interrupted_nil server t u run

theorem resumable_step (server : Server) (plan : TableEntry → List Step) (step : Step) (t u : Table)
    (accepted : step.change.strictEffect server t = some u)
    (whole : Whole step) (due : plan t.entry = [step])
    (done : plan u.entry = []) : Resumable server plan (fun s => s = t ∨ s = u) u := by
  refine ⟨fun s state => ?_, fun s v state run => ?_⟩
  · rcases state with early | late
    · rw [early, due]
      exact strict_run_next server t u step [] accepted
    · rw [late, done]
      rfl
  · rcases state with early | late
    · rw [early, due] at run
      rcases interrupted_accepted server step [] t u v accepted whole run with same | later
      · exact .inl same
      · exact .inr (interrupted_nil server u v later)
    · rw [late, done] at run
      exact .inr (interrupted_nil server u v run)

theorem resumable_repeat (server : Server) (plan : TableEntry → List Step) (first second : Step)
    (t u v : Table) (accepted : first.change.strictEffect server t = some u)
    (again : first.change.strictEffect server u = some u)
    (settled : second.change.strictEffect server u = some v)
    (firstWhole : Whole first) (secondWhole : Whole second)
    (due : plan t.entry = [first, second]) (dueAgain : plan u.entry = [first, second])
    (done : plan v.entry = []) : Resumable server plan (fun s => s = t ∨ s = u ∨ s = v) v := by
  have ends := strict_run_next server u v second [] settled
  have leaves (s : Table) (run : Interrupted server [second] u s) : s = u ∨ s = v := by
    rcases interrupted_accepted server second [] u v s settled secondWhole run with same | later
    · exact .inl same
    · exact .inr (interrupted_nil server v s later)
  refine ⟨fun s state => ?_, fun s w state run => ?_⟩
  · rcases state with same | same | same
    · rw [same, due, strict_run_next server t u first [second] accepted]
      exact ends
    · rw [same, dueAgain, strict_run_next server u u first [second] again]
      exact ends
    · rw [same, done]
      rfl
  · rcases state with same | same | same
    · rw [same, due] at run
      rcases interrupted_accepted server first [second] t u w accepted firstWhole run with early | later
      · exact .inl early
      · exact .inr (leaves w later)
    · rw [same, dueAgain] at run
      rcases interrupted_accepted server first [second] u u w again firstWhole run with early | later
      · exact .inr (.inl early)
      · exact .inr (leaves w later)
    · rw [same, done] at run
      exact .inr (.inr (interrupted_nil server v w run))

theorem resumable_congr (server : Server) (plan other : TableEntry → List Step) (states : Table → Prop)
    (goal : Table) (resumable : Resumable server plan states goal)
    (same : ∀ s, states s → other s.entry = plan s.entry) : Resumable server other states goal := by
  refine ⟨fun s state => ?_, fun s u state run => ?_⟩
  · rw [same s state]
    exact resumable.finishes s state
  · rw [same s state] at run
    exact resumable.keeps s u state run

-- The first part leaves alone what the second part is planned by, and is not planned again while
-- the second part is under way.
theorem resumable_append (server : Server) (first second : TableEntry → List Step)
    (before behind : Table → Prop) (middle goal : Table)
    (ahead : Resumable server first before middle) (rest : Resumable server second behind goal)
    (start : behind middle) (unaffected : ∀ s, before s → second s.entry = second middle.entry)
    (finished : ∀ s, behind s → first s.entry = []) :
    Resumable server (fun entry => first entry ++ second entry) (fun s => before s ∨ behind s) goal := by
  have passes (s : Table) (early : before s) :
      s.runStrictly server (first s.entry ++ second s.entry) = some goal := by
    have reached := ahead.finishes s early
    rw [Table.runStrictly] at reached ⊢
    rw [Table.run_append, reached, unaffected s early]
    exact rest.finishes middle start
  refine ⟨fun s state => ?_, fun s u state run => ?_⟩
  · rcases state with early | late
    · exact passes s early
    · rw [finished s late]
      exact rest.finishes s late
  · rcases state with early | late
    · rcases interrupted_append server _ _ s u run with inside | ⟨v, passed, later⟩
      · exact .inl (ahead.keeps s u early inside)
      · have arrived : middle = v := Option.some.inj ((ahead.finishes s early).symm.trans passed)
        rw [unaffected s early, ← arrived] at later
        exact .inr (rest.keeps middle u start later)
    · rw [finished s late] at run
      exact .inr (rest.keeps s u late run)

theorem resumable_reached (server : Server) (plan : TableEntry → List Step) (states : Table → Prop)
    (goal : Table) (resumable : Resumable server plan states goal) (t s : Table) (start : states t)
    (reached : Relation.ReflTransGen (fun a b => Interrupted server (plan a.entry) a b) t s) :
    states s := by
  induction reached with
  | refl => exact start
  | tail _ run ih => exact resumable.keeps _ _ ih run

end OnlineDdl
