import OnlineDdl.Run.Execute

/-! A scripted host: it answers from prepared catalogs and estimates, and rejects statements by
their text or by their number. -/

set_option autoImplicit false

namespace OnlineDdl.Rehearsal

structure Script where
  -- What loading a catalog gives, one answer after another; the last one stays.
  catalogs : List (Except String Catalog)
  rejectCalls : List Nat
  rejectSql : List (String × String)
  rowEstimates : List (String × UInt64)
  probeError : Option String

structure Progress where
  loads : Nat
  calls : Nat
deriving DecidableEq, Repr

def Progress.start : Progress := ⟨0, 0⟩

def stayAtLast {α : Type} : Nat → List α → Option α
  | _, [] => none
  | _, [a] => some a
  | 0, a :: _ => some a
  | n + 1, _ :: rest => stayAtLast n rest

namespace Script

def load (script : Script) : Session Progress Catalog := do
  let progress ← get
  set { progress with loads := progress.loads + 1 }
  match stayAtLast progress.loads script.catalogs with
  | none => pure .empty
  | some (.ok catalog) => pure catalog
  | some (.error text) => throw (.internal text)

def estimate (script : Script) (table : String) : Session Progress RowEstimate :=
  match script.probeError with
  | some text => throw (.internal text)
  | none => pure (givenRows script.rowEstimates table)

def send (script : Script) (sql : String) : StateM Progress (Except String Unit) := do
  let progress ← get
  set { progress with calls := progress.calls + 1 }
  match script.rejectSql.lookup sql with
  | some text => pure (.error text)
  | none =>
    if script.rejectCalls.contains progress.calls then
      pure (.error ("rejected call " ++ toString progress.calls))
    else pure (.ok ())

def host (script : Script) : Host Progress := ⟨fun _ => script.load, script.estimate, script.send⟩

end Script

end OnlineDdl.Rehearsal
