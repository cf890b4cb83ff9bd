import Mathlib.Data.List.Forall2

/-! Outcomes that may be failures, taken apart. -/

set_option autoImplicit false

namespace OnlineDdl

variable {ε α β : Type}

theorem map_ok_iff (f : α → β) (outcome : Except ε α) (b : β) :
    outcome.map f = .ok b ↔ ∃ a, outcome = .ok a ∧ f a = b := by
  cases outcome with
  | error cause => simp [Except.map]
  | ok a => simp [Except.map]

theorem map_error_iff (f : α → β) (outcome : Except ε α) (cause : ε) :
    outcome.map f = .error cause ↔ outcome = .error cause := by
  cases outcome with
  | error other => simp [Except.map]
  | ok a => simp [Except.map]

theorem map_all_ok_iff (f : α → Except ε β) (a : List α) (b : List β) :
    a.mapM f = .ok b ↔ List.Forall₂ (fun x y => f x = .ok y) a b := by
  induction a generalizing b with
  | nil => cases b <;> simp [pure, Except.pure]
  | cons x rest ih =>
      rw [List.mapM_cons]
      cases first : f x with
      | error cause => cases b <;> simp [first, bind, Except.bind]
      | ok y =>
          cases others : rest.mapM f with
          | error cause => cases b <;> simp [← ih, others, bind, Except.bind]
          | ok later => cases b <;> simp [first, ← ih, others, bind, Except.bind, pure, Except.pure]

theorem map_all_some_iff (f : α → Option β) (a : List α) (b : List β) :
    a.mapM f = some b ↔ List.Forall₂ (fun x y => f x = some y) a b := by
  induction a generalizing b with
  | nil => cases b <;> simp
  | cons x rest ih =>
      rw [List.mapM_cons]
      cases first : f x with
      | none => cases b <;> simp [first]
      | some y =>
          cases others : rest.mapM f with
          | none => cases b <;> simp [← ih, others]
          | some later => cases b <;> simp [first, ← ih, others]

theorem map_all_member (f : α → Except ε β) (a : List α) (b : List β) (mapped : a.mapM f = .ok b)
    (y : β) (member : y ∈ b) : ∃ x ∈ a, f x = .ok y := by
  induction (map_all_ok_iff f a b).mp mapped with
  | nil => cases member
  | cons head tail ih =>
      rcases List.mem_cons.mp member with same | later
      · exact ⟨_, List.mem_cons_self, same ▸ head⟩
      · obtain ⟨x, inside, found⟩ := ih ((map_all_ok_iff _ _ _).mpr tail) later
        exact ⟨x, List.mem_cons_of_mem _ inside, found⟩

theorem map_all_next (f : α → Except ε β) (x : α) (rest : List α) :
    (x :: rest).mapM f =
      match f x with
      | .error cause => .error cause
      | .ok y => (rest.mapM f).map (y :: ·) := by
  rw [List.mapM_cons]
  cases f x with
  | error cause => rfl
  | ok y => cases rest.mapM f <;> rfl

theorem map_all_map {γ : Type} (f : α → Except ε β) (g : β → γ) (a : List α) :
    (a.mapM fun x => (f x).map g) = (a.mapM f).map (List.map g) := by
  induction a with
  | nil => rfl
  | cons x rest ih =>
      rw [map_all_next, map_all_next, ih]
      cases f x with
      | error cause => rfl
      | ok y => cases rest.mapM f <;> rfl

theorem map_all_each (f : α → Except ε β) (a : List α) (b : List β) (mapped : a.mapM f = .ok b)
    (x : α) (member : x ∈ a) : ∃ y, f x = .ok y := by
  induction (map_all_ok_iff f a b).mp mapped with
  | nil => cases member
  | cons head tail ih =>
      rcases List.mem_cons.mp member with same | later
      · exact ⟨_, same ▸ head⟩
      · exact ih ((map_all_ok_iff _ _ _).mpr tail) later

theorem map_all_error (f : α → Except ε β) (a : List α) (cause : ε) (failed : a.mapM f = .error cause) :
    ∃ x ∈ a, f x = .error cause := by
  induction a with
  | nil => cases failed
  | cons x rest ih =>
      rw [map_all_next] at failed
      cases first : f x with
      | error other =>
          rw [first] at failed
          cases failed
          exact ⟨x, List.mem_cons_self, first⟩
      | ok y =>
          rw [first] at failed
          obtain ⟨z, inside, found⟩ := ih ((map_error_iff _ _ _).mp failed)
          exact ⟨z, List.mem_cons_of_mem _ inside, found⟩

end OnlineDdl
