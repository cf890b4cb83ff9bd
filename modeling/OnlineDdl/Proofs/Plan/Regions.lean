import OnlineDdl.Proofs.Plan.Timeouts
import Mathlib.Data.List.SplitBy

/-! A wrapped plan told by its runs, the longest stretches of neighbours that call for one region. Every
run stands between the settings of its region and their resets, no division of the plan gets by with fewer
settings, and two plans are wrapped one by one exactly where no region reaches across their border. -/

set_option autoImplicit false

namespace OnlineDdl.Timeout

variable (config : PlannerConfig)

def blockRegion (block : List Statement) : Option Region := block.head?.bind (regionOf config)

-- A block with the settings of its region before it. The resets behind it name the same parameters in the
-- same order and give them their usual values.
def bracket (block : List Statement) : List Statement :=
  match blockRegion config block with
  | none => block
  | some region =>
    (opening config region).map (fun s => .session s.sql .timeoutSet) ++ block
      ++ (opening config region).map fun s =>
        .session (Setting.mk s.parameter (usual config s.parameter)).sql .timeoutReset

structure Divides (plan : Plan) (blocks : List (List Statement)) : Prop where
  whole : blocks.flatten = plan
  filled : [] ∉ blocks
  kept : ∀ block ∈ blocks, ∀ s ∈ block, regionOf config s = blockRegion config block

-- No block could be longer: a region ends where the next one begins.
def Maximal (blocks : List (List Statement)) : Prop :=
  blocks.IsChain fun a b => blockRegion config a ≠ blockRegion config b

def runs (plan : Plan) : List (List Statement) :=
  plan.splitBy fun s t => regionOf config s == regionOf config t

theorem restored_usual (parameter : Parameter) :
    restored config parameter = ⟨parameter, usual config parameter⟩ := by
  cases parameter <;> rfl

theorem bracket_parts (block : List Statement) :
    bracket config block = openAll config (blockRegion config block) ++ block
      ++ closeAll config (blockRegion config block) := by
  rw [bracket]
  cases blockRegion config block with
  | none => simp [openAll, closeAll]
  | some region => simp [openAll, closeAll, closing_opening, restored_usual]

theorem block_kept_iff (block : List Statement) :
    block.IsChain (fun s t => (regionOf config s == regionOf config t) = true) ↔
      ∀ s ∈ block, regionOf config s = blockRegion config block := by
  induction block with
  | nil => simp
  | cons s rest ih =>
      rw [List.isChain_cons, ih]
      cases rest with
      | nil => simp [blockRegion]
      | cons t others =>
          have first (u : Statement) (later : List Statement) : blockRegion config (u :: later) = regionOf config u := rfl
          simp only [List.head?_cons, Option.mem_some_iff, forall_eq', beq_iff_eq, first]
          constructor
          · rintro ⟨same, kept⟩ u member
            rcases List.mem_cons.mp member with rfl | later
            · rfl
            · exact (kept u later).trans same.symm
          · intro kept
            have same := kept t (List.mem_cons_of_mem s List.mem_cons_self)
            exact ⟨same.symm, fun u later => (kept u (List.mem_cons_of_mem s later)).trans same.symm⟩

theorem block_ends (block : List Statement) (filled : block ≠ [])
    (kept : ∀ s ∈ block, regionOf config s = blockRegion config block) :
    regionOf config (block.head filled) = blockRegion config block ∧
      regionOf config (block.getLast filled) = blockRegion config block :=
  ⟨kept _ (List.head_mem filled), kept _ (List.getLast_mem filled)⟩

theorem runs_iff (plan : Plan) (blocks : List (List Statement)) :
    Divides config plan blocks ∧ Maximal config blocks ↔ blocks = runs config plan := by
  have border (filled : [] ∉ blocks)
      (kept : ∀ block ∈ blocks, ∀ s ∈ block, regionOf config s = blockRegion config block) :
      Maximal config blocks ↔ blocks.IsChain fun a b => ∃ ha hb,
        (regionOf config (a.getLast ha) == regionOf config (b.head hb)) = false := by
    refine List.IsChain.iff_of_mem_imp fun a b first second => ?_
    have one : a ≠ [] := fun empty => filled (empty ▸ first)
    have two : b ≠ [] := fun empty => filled (empty ▸ second)
    simp [one, two, (block_ends config a one (kept a first)).2, (block_ends config b two (kept b second)).1]
  rw [eq_comm, runs, List.splitBy_eq_iff]
  simp only [block_kept_iff]
  constructor
  · rintro ⟨⟨whole, filled, kept⟩, maximal⟩
    exact ⟨whole.symm, filled, kept, (border filled kept).mp maximal⟩
  · rintro ⟨whole, filled, kept, bordered⟩
    exact ⟨⟨whole.symm, filled, kept⟩, (border filled kept).mpr bordered⟩

theorem wrap_from_kept (region : Option Region) (block rest : List Statement)
    (kept : ∀ s ∈ block, regionOf config s = region) :
    wrapFrom config region (block ++ rest) = block ++ wrapFrom config region rest := by
  induction block with
  | nil => rfl
  | cons s others ih =>
      rw [List.cons_append, wrapFrom, if_pos (kept s List.mem_cons_self),
        ih fun t member => kept t (List.mem_cons_of_mem s member)]
      rfl

-- Between regions there is nothing to close, so entering none from none is like entering any.
theorem wrap_from_entered (current : Option Region) (s : Statement) (rest : List Statement)
    (changes : regionOf config s = current → current = none) :
    wrapFrom config current (s :: rest) = closeAll config current ++ openAll config (regionOf config s)
      ++ s :: wrapFrom config (regionOf config s) rest := by
  rw [wrapFrom]
  by_cases same : regionOf config s = current
  · rw [if_pos same, same, changes same]
    rfl
  · rw [if_neg same]

theorem wrap_from_block (current : Option Region) (block rest : List Statement) (filled : block ≠ [])
    (kept : ∀ s ∈ block, regionOf config s = blockRegion config block)
    (changes : blockRegion config block = current → current = none) :
    wrapFrom config current (block ++ rest) = closeAll config current ++ openAll config (blockRegion config block)
      ++ block ++ wrapFrom config (blockRegion config block) rest := by
  cases block with
  | nil => exact absurd rfl filled
  | cons s others =>
      have first : blockRegion config (s :: others) = regionOf config s := rfl
      rw [first] at kept changes ⊢
      rw [List.cons_append, wrap_from_entered config current s _ changes,
        wrap_from_kept config _ others rest fun t member => kept t (List.mem_cons_of_mem s member)]
      simp

theorem divides_rest (plan : Plan) (block : List Statement) (rest : List (List Statement))
    (divides : Divides config plan (block :: rest)) : Divides config rest.flatten rest :=
  ⟨rfl, fun member => divides.filled (List.mem_cons_of_mem block member),
    fun other member => divides.kept other (List.mem_cons_of_mem block member)⟩

-- The induction is on the blocks that are left; the region of the one before is still open.
theorem wrap_from_runs (current : Option Region) (plan : Plan) (blocks : List (List Statement))
    (divides : Divides config plan blocks) (maximal : Maximal config blocks)
    (changes : ∀ block ∈ blocks.head?, blockRegion config block = current → current = none) :
    wrapFrom config current plan = closeAll config current ++ blocks.flatMap (bracket config) := by
  induction blocks generalizing current plan with
  | nil =>
      rw [← divides.whole]
      simp [wrapFrom]
  | cons block rest ih =>
      have filled : block ≠ [] := fun empty => divides.filled (empty ▸ List.mem_cons_self)
      have kept := divides.kept block List.mem_cons_self
      obtain ⟨apart, later⟩ := List.isChain_cons.mp maximal
      have ends : ∀ next ∈ rest.head?, blockRegion config next = blockRegion config block →
          blockRegion config block = none := fun next first same => absurd same.symm (apart next first)
      rw [← divides.whole, List.flatten_cons,
        wrap_from_block config current block rest.flatten filled kept (changes block rfl),
        ih _ _ (divides_rest config plan block rest divides) later ends, List.flatMap_cons, bracket_parts]
      simp

theorem wrap_from_shortest (current : Option Region) (plan : Plan) (blocks : List (List Statement))
    (divides : Divides config plan blocks) :
    (wrapFrom config current plan).length ≤
      (closeAll config current).length + (blocks.flatMap (bracket config)).length := by
  induction blocks generalizing current plan with
  | nil =>
      rw [← divides.whole]
      simp [wrapFrom]
  | cons block rest ih =>
      have filled : block ≠ [] := fun empty => divides.filled (empty ▸ List.mem_cons_self)
      have kept := divides.kept block List.mem_cons_self
      have others (region : Option Region) := ih region _ (divides_rest config plan block rest divides)
      rw [← divides.whole, List.flatten_cons, List.flatMap_cons, bracket_parts]
      by_cases same : blockRegion config block = current
      · have longer := others current
        rw [same] at kept
        rw [wrap_from_kept config current block rest.flatten kept]
        simp only [List.length_append]
        omega
      · have longer := others (blockRegion config block)
        rw [wrap_from_block config current block rest.flatten filled kept fun again => absurd again same]
        simp only [List.length_append]
        omega

theorem wrap_from_upto (current : Option Region) (before : List Statement) (s : Statement) :
    ∃ front, ∀ rest, wrapFrom config current (before ++ s :: rest) =
      front ++ wrapFrom config (regionOf config s) rest := by
  induction before generalizing current with
  | nil =>
      by_cases same : regionOf config s = current
      · exact ⟨[s], fun rest => by simp [wrapFrom, same]⟩
      · exact ⟨closeAll config current ++ openAll config (regionOf config s) ++ [s],
          fun rest => by simp [wrapFrom, same]⟩
  | cons t others ih =>
      obtain ⟨front, upto⟩ := ih (regionOf config t)
      by_cases same : regionOf config t = current
      · exact ⟨t :: front, fun rest => by simp [wrapFrom, ← same, upto]⟩
      · exact ⟨closeAll config current ++ openAll config (regionOf config t) ++ t :: front,
          fun rest => by simp [wrapFrom, same, upto]⟩

theorem region_opens (s : Statement) (region : Region) (called : regionOf config s = some region) :
    openAll config (some region) ≠ [] := by
  cases region with
  | flexible => simp [openAll, opening]
  | standard =>
      intro silent
      cases statement : config.statementTimeoutMs <;> cases lock : config.lockTimeoutMs <;>
        simp [openAll, opening, statement, lock] at silent
      rw [regionOf, statement, lock] at called
      cases class' : s.timeout <;> simp [class'] at called

theorem wrap_append_iff (plan rest : Plan) :
    wrap config (plan ++ rest) = wrap config plan ++ wrap config rest ↔
      ∀ s ∈ plan.getLast?, ∀ t ∈ rest.head?, regionOf config s = regionOf config t → regionOf config s = none := by
  rcases List.eq_nil_or_concat plan with rfl | ⟨before, s, rfl⟩
  · simp [wrap, wrapFrom, closeAll]
  cases rest with
  | nil => simp [wrap, wrapFrom, closeAll]
  | cons t others =>
      obtain ⟨front, upto⟩ := wrap_from_upto config none before s
      have joined : wrap config (before.concat s ++ t :: others) =
          front ++ wrapFrom config (regionOf config s) (t :: others) := by
        rw [wrap, ← upto]
        simp
      have alone : wrap config (before.concat s) = front ++ closeAll config (regionOf config s) := by
        rw [wrap, List.concat_eq_append, upto]
        rfl
      have second := wrap_from_entered config none t others fun _ => rfl
      have border : (∀ a ∈ (before.concat s).getLast?, ∀ b ∈ (t :: others).head?,
          regionOf config a = regionOf config b → regionOf config a = none) ↔
            (regionOf config t = regionOf config s → regionOf config s = none) := by
        simp [eq_comm]
      rw [border, joined, alone, wrap, second, List.append_assoc, List.append_cancel_left_eq]
      constructor
      · -- Statements of one region need no settings between them, and a region has some.
        intro split same
        cases called : regionOf config s with
        | none => rfl
        | some region =>
            have opens := region_opens config s region called
            rw [called] at same
            rw [called, wrapFrom, if_pos same, same] at split
            have lengths := congrArg List.length split
            simp only [List.length_append, List.length_cons] at lengths
            have positive := List.length_pos_iff.mpr opens
            omega
      · intro changes
        rw [wrap_from_entered config (regionOf config s) t others changes]
        simp [closeAll]

theorem wrap_brackets_runs (plan : Plan) :
    wrap config plan = (runs config plan).flatMap (bracket config) ∧
      (∀ blocks, Divides config plan blocks ∧ Maximal config blocks ↔ blocks = runs config plan) ∧
      (∀ blocks, Divides config plan blocks →
        (wrap config plan).length ≤ (blocks.flatMap (bracket config)).length) ∧
      ∀ rest, wrap config (plan ++ rest) = wrap config plan ++ wrap config rest ↔
        ∀ s ∈ plan.getLast?, ∀ t ∈ rest.head?,
          regionOf config s = regionOf config t → regionOf config s = none := by
  obtain ⟨divides, maximal⟩ := (runs_iff config plan (runs config plan)).mpr rfl
  refine ⟨?_, runs_iff config plan, fun blocks other => ?_, wrap_append_iff config plan⟩
  · exact wrap_from_runs config none plan _ divides maximal fun _ _ _ => rfl
  · have longer := wrap_from_shortest config none plan blocks other
    rwa [closeAll, Option.toList_none, List.flatMap_nil, List.map_nil, List.length_nil, Nat.zero_add] at longer

-- A setting that a plan brings along belongs to no region and parts the runs around it.
theorem given_setting_parts_runs :
    let config : PlannerConfig := ⟨some 2000, some 30000, true, 600000, false, .never, ⟨"1min", "0ms"⟩, none⟩
    let alter := Statement.ddl "ALTER;" .wrapped
    let given := Statement.session "SET search_path TO 'archive';" .timeoutSet
    let plan := [alter, alter, given, alter]
    let single := [[alter], [alter], [given], [alter]]
    wrap config plan = bracket config [alter, alter] ++ given :: bracket config [alter] ∧
      Divides config plan single ∧ (wrap config plan).length ≤ (single.flatMap (bracket config)).length ∧
      wrap config plan = wrap config [alter, alter] ++ wrap config [given, alter] := by
  intro config alter given plan single
  obtain ⟨bracketed, -, shortest, -⟩ := wrap_brackets_runs config plan
  have divides : Divides config plan single := ⟨rfl, by decide, by decide⟩
  refine ⟨bracketed, divides, shortest single divides, ?_⟩
  refine ((wrap_brackets_runs config [alter, alter]).2.2.2 [given, alter]).mpr ?_
  decide

end OnlineDdl.Timeout
