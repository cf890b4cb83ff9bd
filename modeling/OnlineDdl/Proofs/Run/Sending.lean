import OnlineDdl.Proofs.Run.Session
import OnlineDdl.Run.Transcript

/-! Statements sent one by one, and the transcript they leave: either the host accepts all of them, or
the first one that it rejects is the last. -/

set_option autoImplicit false

namespace OnlineDdl

variable {σ : Type}

inductive Accepted (host : Host σ) : List Statement → σ → σ → Prop where
  | none (s : σ) : Accepted host [] s s
  | next (statement : Statement) (rest : List Statement) (s t u : σ)
      (accepted : host.run statement.sql s = (.ok (), t)) (later : Accepted host rest t u) :
      Accepted host (statement :: rest) s u

inductive TakenBack (host : Host σ) (isOpen : Nat) (s : σ) : σ → List Event → Prop where
  | unset (closed : isOpen = 0) : TakenBack host isOpen s s []
  | sent (t : σ) (answer : Except String Unit) (stillOpen : 0 < isOpen)
      (answered : host.run restoreSql s = (answer, t)) :
      TakenBack host isOpen s t [.run restoreSql answer.toBool]

def acceptedEvents (statements : List Statement) : List Event :=
  statements.map fun statement => .run statement.sql true

theorem accepted_events_nil : acceptedEvents [] = [] := rfl

theorem accepted_events_cons (statement : Statement) (rest : List Statement) :
    acceptedEvents (statement :: rest) = .run statement.sql true :: acceptedEvents rest := rfl

def openAfterAll (isOpen : Nat) (statements : List Statement) : Nat :=
  statements.foldl (fun n statement => openAfter n statement.role) isOpen

inductive Rejected (host : Host σ) (operation position isOpen : Nat) (plan : List Statement) (s : σ) :
    Failure → σ → List Event → Prop where
  | intro (before : List Statement) (statement : Statement) (rest : List Statement) (cause : String)
      (t u v : σ) (restoring : List Event) (divided : plan = before ++ statement :: rest)
      (accepted : Accepted host before s t) (rejected : host.run statement.sql t = (.error cause, u))
      (takenBack : TakenBack host (openAfterAll isOpen before) u v restoring) :
      Rejected host operation position isOpen plan s
        (.statementFailed operation (position + before.length) statement.sql cause) v
        (acceptedEvents before ++ .run statement.sql false :: restoring)

theorem recorded_run (host : Host σ) (sql : String) (answer : Except String Unit) (s t : σ)
    (events : List Event) (answered : host.run sql s = (answer, t)) :
    host.recorded.run sql (s, events) = (answer, (t, events ++ [.run sql answer.toBool])) := by
  change ((host.run sql s).1, ((host.run sql s).2, events ++ [.run sql (host.run sql s).1.toBool])) = _
  rw [answered]

theorem restore_recorded (host : Host σ) (isOpen : Nat) (s : σ) (events : List Event) :
    ∃ t restoring, TakenBack host isOpen s t restoring ∧
      restore host.recorded isOpen (s, events) = ((), (t, events ++ restoring)) := by
  by_cases stillOpen : 0 < isOpen
  · cases answered : host.run restoreSql s with
    | mk answer t =>
        refine ⟨t, _, .sent t answer stillOpen answered, ?_⟩
        rw [restore, if_pos stillOpen]
        change ((), (host.recorded.run restoreSql (s, events)).2) = _
        rw [recorded_run host restoreSql answer s t events answered]
  · refine ⟨s, [], .unset (by omega), ?_⟩
    rw [restore, if_neg stillOpen, List.append_nil]
    rfl

theorem run_from_rejected (host : Host σ) (operation position isOpen : Nat) (statement : Statement)
    (rest : List Statement) (cause : String) (s t : Recorded σ)
    (rejected : host.recorded.run statement.sql s = (.error cause, t)) :
    (runFrom host.recorded operation position isOpen (statement :: rest)).run s =
      (.error (.statementFailed operation position statement.sql cause), (restore host.recorded isOpen t).2) := by
  have answered : (liftM (host.recorded.run statement.sql) : Session (Recorded σ) _).run s = (.ok (.error cause), t) := by
    change (Except.ok (host.recorded.run statement.sql s).1, (host.recorded.run statement.sql s).2) = _
    rw [rejected]
  rw [runFrom, session_bind_ok _ _ _ s t answered]
  rfl

theorem run_from_accepted (host : Host σ) (operation position isOpen : Nat) (statement : Statement)
    (rest : List Statement) (s t : Recorded σ) (accepted : host.recorded.run statement.sql s = (.ok (), t)) :
    (runFrom host.recorded operation position isOpen (statement :: rest)).run s =
      (runFrom host.recorded operation (position + 1) (openAfter isOpen statement.role) rest >>= fun others =>
        pure (statement.sql :: others)).run t := by
  have answered : (liftM (host.recorded.run statement.sql) : Session (Recorded σ) _).run s = (.ok (.ok ()), t) := by
    change (Except.ok (host.recorded.run statement.sql s).1, (host.recorded.run statement.sql s).2) = _
    rw [accepted]
  rw [runFrom, session_bind_ok _ _ _ s t answered]

-- The induction is on the statements that are left; what was sent before them stands in front of the
-- transcript.
theorem run_from_transcript (host : Host σ) (operation position isOpen : Nat) (plan : List Statement) (s : σ)
    (events : List Event) :
    (∃ t, Accepted host plan s t ∧
      (runFrom host.recorded operation position isOpen plan).run (s, events) =
        (.ok (plan.map Statement.sql), (t, events ++ acceptedEvents plan))) ∨
    ∃ failure t sent, Rejected host operation position isOpen plan s failure t sent ∧
      (runFrom host.recorded operation position isOpen plan).run (s, events) =
        (.error failure, (t, events ++ sent)) := by
  induction plan generalizing position isOpen s events with
  | nil =>
      refine .inl ⟨s, .none s, ?_⟩
      rw [accepted_events_nil, List.append_nil]
      rfl
  | cons statement rest ih =>
      cases answered : host.run statement.sql s with
      | mk answer t =>
          have noted := recorded_run host statement.sql answer s t events answered
          cases answer with
          | error cause =>
              obtain ⟨u, restoring, takenBack, restored⟩ :=
                restore_recorded host isOpen t (events ++ [.run statement.sql false])
              have ran := run_from_rejected host operation position isOpen statement rest cause _ _ noted
              refine .inr ⟨_, u, _, .intro [] statement rest cause s t u restoring rfl (.none s) answered takenBack,
                ran.trans ?_⟩
              change (_, (restore host.recorded isOpen (t, events ++ [.run statement.sql false])).2) = _
              rw [restored, List.append_assoc]
              rfl
          | ok =>
              have ran := run_from_accepted host operation position isOpen statement rest _ _ noted
              have front (later : List Event) : events ++ .run statement.sql true :: later =
                  events ++ [.run statement.sql true] ++ later := by simp
              rcases ih (position + 1) (openAfter isOpen statement.role) t (events ++ [.run statement.sql true]) with
                ⟨u, later, finished⟩ | ⟨failure, u, sent, rejected, failed⟩
              · refine .inl ⟨u, .next statement rest s t u answered later, ran.trans ?_⟩
                rw [accepted_events_cons, front]
                exact session_bind_ok _ _ _ _ _ finished
              · cases rejected with
                | intro before other after cause v w u restoring divided earlier refused takenBack =>
                    have passed := Accepted.next statement before s t v answered earlier
                    have whole : Rejected host operation position isOpen (statement :: rest) s _ u _ :=
                      .intro (statement :: before) other after cause v w u restoring
                        (congrArg (statement :: ·) divided) passed refused takenBack
                    have count : position + 1 + before.length = position + (statement :: before).length := by
                      rw [List.length_cons]
                      omega
                    refine .inr ⟨_, u, _, whole, ran.trans ?_⟩
                    rw [accepted_events_cons, List.cons_append, front, ← count]
                    exact session_bind_error _ _ _ _ _ failed

theorem run_plan_transcript (host : Host σ) (operation : Nat) (plan : Plan) (s : σ) (events : List Event) :
    (∃ t, Accepted host plan s t ∧
      (runPlan host.recorded operation plan).run (s, events) =
        (.ok ⟨plan.map Statement.sql⟩, (t, events ++ acceptedEvents plan))) ∨
    ∃ failure t sent, Rejected host operation 0 0 plan s failure t sent ∧
      (runPlan host.recorded operation plan).run (s, events) = (.error failure, (t, events ++ sent)) := by
  rcases run_from_transcript host operation 0 0 plan s events with ⟨t, accepted, ran⟩ | ⟨failure, t, sent, rejected, ran⟩
  · refine .inl ⟨t, accepted, ?_⟩
    rw [runPlan, session_bind_ok _ _ _ _ _ ran]
    rfl
  · refine .inr ⟨failure, t, sent, rejected, ?_⟩
    rw [runPlan, session_bind_error _ _ _ _ _ ran]

end OnlineDdl
