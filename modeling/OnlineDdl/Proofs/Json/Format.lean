import Mathlib.Data.List.Forall2
import OnlineDdl.Proofs.Json.Shape

/-! Values written as JSON and read back, and what is written of whatever is read. -/

set_option autoImplicit false

namespace OnlineDdl

-- What is written is read back, it is never the null that stands for nothing, and what is written of a value
-- that was read is told by the shape.
structure Format {α : Type} (write : α → Json) (read : Json → Option α) (shape : Shape) : Prop where
  back : ∀ a, read (write a) = some a
  filled : ∀ a, write a ≠ .null
  told : ∀ j, (read j).map write = shape j

namespace Fields

variable {α : Type} (name other : String) (j : Json) (given : Fields)

@[simp]
theorem under_nil : under [] name = [] := by simp [under]

@[simp]
theorem under_here : under ((name, j) :: given) name = j :: under given name := by simp [under]

@[simp]
theorem under_later (differs : name ≠ other) : under ((other, j) :: given) name = under given name := by
  rw [under, List.filter_cons_of_neg (by simpa using differs.symm), under]

theorem under_append (more : Fields) : under (given ++ more) name = under given name ++ under more name := by
  rw [under, List.filter_append, List.map_append, under, under]

section Readers

variable {α : Type} (default : α) (read : Json → Option α)

@[simp]
theorem required_here (fresh : given.under name = []) : required ((name, j) :: given) name read = read j := by
  rw [required, under_here, fresh]

@[simp]
theorem required_later (differs : name ≠ other) :
    required ((other, j) :: given) name read = required given name read := by
  rw [required, under_later _ _ _ _ differs, required]

@[simp]
theorem optional_later (differs : name ≠ other) :
    optional ((other, j) :: given) name read = optional given name read := by
  rw [optional, under_later _ _ _ _ differs, optional]

@[simp]
theorem defaulted_here (fresh : given.under name = []) :
    defaulted ((name, j) :: given) name default read = read j := by
  rw [defaulted, under_here, fresh]

@[simp]
theorem defaulted_later (differs : name ≠ other) :
    defaulted ((other, j) :: given) name default read = defaulted given name default read := by
  rw [defaulted, under_later _ _ _ _ differs, defaulted]

end Readers

theorem under_without (tag : String) (differs : name ≠ tag) :
    under (given.filter (·.1 != tag)) name = under given name := by
  rw [under, under, List.filter_filter]
  congr 1
  refine List.filter_congr fun field _ => ?_
  by_cases here : field.1 = name
  · simp [here, differs]
  · simp [here]

end Fields

namespace Record

variable {α β : Type}

@[simp]
theorem read_map (f : α → β) (r : Record α) (given : Fields) : (f <$> r).read given = (r.read given).map f := rfl

@[simp]
theorem read_seq (f : Record (α → β)) (r : Record α) (given : Fields) :
    (f <*> r).read given = (f.read given).bind fun g => (r.read given).map g := rfl

@[simp]
theorem read_required (name : String) (read : Json → Option α) (given : Fields) :
    (required name read).read given = given.required name read := rfl

@[simp]
theorem read_optional (name : String) (read : Json → Option α) (given : Fields) :
    (optional name read).read given = given.optional name read := rfl

@[simp]
theorem read_defaulted (name : String) (default : α) (read : Json → Option α) (given : Fields) :
    (defaulted name default read).read given = given.defaulted name default read := rfl

end Record

namespace Shape

theorem fill_alike (fields : List FieldShape) (given other : Fields)
    (alike : ∀ f ∈ fields, given.under f.name = other.under f.name) : fill fields given = fill fields other := by
  induction fields with
  | nil => rfl
  | cons f rest ih =>
      rw [fill, fill, alike f List.mem_cons_self, ih fun f member => alike f (List.mem_cons_of_mem _ member)]

theorem fill_append (fields more : List FieldShape) (given : Fields) :
    fill (fields ++ more) given = (fill fields given).bind fun front => (fill more given).map (front ++ ·) := by
  induction fields with
  | nil => simp
  | cons f rest ih =>
      rw [List.cons_append, fill, fill, ih]
      cases given? f.missing f.shape (given.under f.name) with
      | none => rfl
      | some j => cases fill rest given <;> simp [Function.comp_def]

theorem fill_one (f : FieldShape) (given : Fields) :
    fill [f] given = (given? f.missing f.shape (given.under f.name)).map fun j => [(f.name, j)] := by
  rw [fill]
  cases given? f.missing f.shape (given.under f.name) <;> rfl

theorem fill_zip (fields : List FieldShape) (js : List Json) (distinct : (fields.map (·.name)).Nodup)
    (fits : js.length ≤ fields.length) : fill fields ((fields.map (·.name)).zip js) = fillInOrder fields js := by
  induction fields generalizing js with
  | nil =>
      obtain rfl := List.eq_nil_of_length_eq_zero (Nat.le_zero.mp fits)
      rfl
  | cons f rest ih =>
      rw [List.map_cons, List.nodup_cons] at distinct
      obtain ⟨fresh, others⟩ := distinct
      cases js with
      | nil =>
          rw [List.zip_nil_right, fill, fillInOrder, List.take_nil, List.drop_nil,
            ← ih [] others (Nat.zero_le _), List.zip_nil_right]
          rfl
      | cons j js =>
          have later :
              fill rest ((f.name, j) :: (rest.map (·.name)).zip js) = fill rest ((rest.map (·.name)).zip js) :=
            fill_alike rest _ _ fun g member =>
              Fields.under_later g.name f.name j _ fun same => fresh (same ▸ List.mem_map_of_mem member)
          have alone : Fields.under ((rest.map (·.name)).zip js) f.name = [] := by
            rw [Fields.under, List.map_eq_nil_iff, List.filter_eq_nil_iff]
            intro field member
            simpa using fun same : field.1 = f.name => fresh (same ▸ (List.of_mem_zip member).1)
          rw [List.map_cons, List.zip_cons_cons, fill, fillInOrder, later, Fields.under_here, alone,
            ih js others (Nat.le_of_succ_le_succ fits)]
          rfl

theorem fill_too_many (fields : List FieldShape) (js : List Json) (more : fields.length < js.length) :
    fillInOrder fields js = none := by
  induction fields generalizing js with
  | nil =>
      cases js with
      | nil => cases more
      | cons => rfl
  | cons f rest ih =>
      cases js with
      | nil => cases more
      | cons j js => rw [fillInOrder, List.drop_one, List.tail_cons, ih js (Nat.lt_of_succ_lt_succ more)]; simp

end Shape

-- A record is made of the same parts that the fields are filled with.
structure Record.Fills {α τ : Type} (r : Record α) (fields : List FieldShape) (make : τ → α) (write : τ → Fields) :
    Prop where
  names : r.names = fields.map (·.name)
  told : ∀ given, ∃ parts : Option τ, r.read given = parts.map make ∧ Shape.fill fields given = parts.map write

namespace Record.Fills

variable {α β τ σ : Type} {r : Record α} {fields more : List FieldShape} {make : τ → α} {write : τ → Fields}

theorem one (f : FieldShape) (r : Record α) (write : α → Json) (names : r.names = [f.name])
    (told : ∀ given, Shape.given? f.missing f.shape (given.under f.name) = (r.read given).map write) :
    r.Fills [f] id fun a => [(f.name, write a)] where
  names := names
  told given := by
    refine ⟨r.read given, Option.map_id.symm ▸ rfl, ?_⟩
    rw [Shape.fill_one, told, Option.map_map]
    rfl

theorem map (g : α → β) (fills : r.Fills fields make write) : (g <$> r).Fills fields (g ∘ make) write where
  names := fills.names
  told given := by
    obtain ⟨parts, read, filled⟩ := fills.told given
    exact ⟨parts, by rw [read_map, read, Option.map_map], filled⟩

theorem seq {f : Record (α → β)} {makeFirst : τ → α → β} {makeNext : σ → α} {writeNext : σ → Fields}
    (first : f.Fills fields makeFirst write) (next : r.Fills more makeNext writeNext) :
    (f <*> r).Fills (fields ++ more) (fun parts : τ × σ => makeFirst parts.1 (makeNext parts.2))
      (fun parts => write parts.1 ++ writeNext parts.2) where
  names := by
    rw [List.map_append, ← first.names, ← next.names]
    rfl
  told given := by
    obtain ⟨one, readFirst, filledFirst⟩ := first.told given
    obtain ⟨two, readNext, filledNext⟩ := next.told given
    refine ⟨one.bind fun a => two.map fun b => (a, b), ?_, ?_⟩
    · rw [read_seq, readFirst, readNext]
      cases one <;> cases two <;> rfl
    · rw [Shape.fill_append, filledFirst, filledNext]
      cases one <;> cases two <;> rfl

theorem json {out : α → Json} {form : Fields → Json} (fills : r.Fills fields make write)
    (distinct : (fields.map (·.name)).Nodup) (same : ∀ parts, out (make parts) = form (write parts)) (j : Json) :
    (r.ofJson? j).map out = (Shape.filled fields j).map form := by
  have object (given : Fields) : (r.read given).map out = (Shape.fill fields given).map form := by
    obtain ⟨parts, read, filled⟩ := fills.told given
    rw [read, filled, Option.map_map, Option.map_map]
    exact congrArg (Option.map · parts) (funext same)
  cases j with
  | object given => exact object given
  | array js =>
      rw [ofJson?, Shape.filled, fills.names, List.length_map]
      by_cases fits : js.length ≤ fields.length
      · rw [if_pos fits, object, Shape.fill_zip fields js distinct fits]
      · rw [if_neg fits, Shape.fill_too_many fields js (Nat.lt_of_not_le fits)]
        rfl
  | _ => rfl

theorem format {payload : α → Fields} (fills : r.Fills fields make write) (distinct : (fields.map (·.name)).Nodup)
    (same : ∀ parts, payload (make parts) = write parts) (back : ∀ a, r.read (payload a) = some a) :
    Format (fun a => .object (payload a)) r.ofJson? (.record fields) :=
  ⟨back, fun _ => nofun, fills.json distinct fun parts => congrArg Json.object (same parts)⟩

end Record.Fills

namespace Format

variable {α : Type} {write : α → Json} {read : Json → Option α} {shape : Shape}

theorem string : Format Json.string Json.string? .text :=
  ⟨fun _ => rfl, fun _ => nofun, fun j => by cases j <;> rfl⟩

theorem bool : Format Json.bool Json.bool? .flag :=
  ⟨fun _ => rfl, fun _ => nofun, fun j => by cases j <;> rfl⟩

theorem whole (bound : Nat) (toNat : α → Nat) (ofNat : Nat → α) (below : ∀ a, toNat a < bound)
    (back : ∀ a, ofNat (toNat a) = a) (there : ∀ n < bound, toNat (ofNat n) = n) :
    Format (fun a => Json.nat (toNat a)) (fun j => (j.natBelow? bound).map ofNat) (.whole bound) := by
  refine ⟨fun a => ?_, fun _ => nofun, fun j => ?_⟩
  · rw [Json.nat, Json.natBelow?, if_pos (below a), Option.map_some, back]
  · cases j with
    | number n =>
        cases n with
        | natural n =>
            rw [Json.natBelow?, Shape.whole]
            split
            · next small => exact congrArg (some ∘ Json.nat) (there n small)
            · rfl
        | scientific => rfl
    | _ => rfl

theorem uint32 : Format (fun n : UInt32 => Json.nat n.toNat) Json.uint32? (.whole UInt32.size) :=
  .whole UInt32.size UInt32.toNat UInt32.ofNat UInt32.toNat_lt (fun _ => UInt32.ofNat_toNat)
    fun _ => UInt32.toNat_ofNat_of_lt'

theorem uint64 : Format (fun n : UInt64 => Json.nat n.toNat) Json.uint64? (.whole UInt64.size) :=
  .whole UInt64.size UInt64.toNat UInt64.ofNat UInt64.toNat_lt (fun _ => UInt64.ofNat_toNat)
    fun _ => UInt64.toNat_ofNat_of_lt'

theorem list (format : Format write read shape) :
    Format (fun items => Json.array (items.map write)) (Json.list? read) shape.list := by
  refine ⟨fun items => ?_, fun _ => nofun, fun j => ?_⟩
  · rw [Json.list?, Json.array?, Option.bind_some]
    induction items with
    | nil => rfl
    | cons a rest ih => simp [Json.readAll, format.back, ih]
  · cases j with
    | array js =>
        have each : (Json.readAll read js).map (List.map write) = shape.items js := by
          induction js with
          | nil => rfl
          | cons j rest ih =>
              rw [Json.readAll, Shape.items, ← format.told j, ← ih]
              cases read j <;> simp [Function.comp_def]
        rw [Json.list?, Json.array?, Option.bind_some, Shape.list, ← each, Option.map_map]
        rfl
    | _ => rfl

theorem strings : Format Json.strings Json.strings? Shape.text.list := list string

theorem entries_back (format : Format write read shape) (entries : List (String × α)) :
    Json.readEntries read (entries.map fun (key, a) => (key, write a)) = some entries := by
  induction entries with
  | nil => rfl
  | cons head rest ih => rw [List.map_cons, Json.readEntries, format.back, ih]; rfl

theorem entries_told (format : Format write read shape) (given : Fields) :
    (Json.readEntries read given).map (List.map fun (key, a) => (key, write a)) = shape.entries given := by
  induction given with
  | nil => rfl
  | cons head rest ih =>
      obtain ⟨key, j⟩ := head
      rw [Json.readEntries, Shape.entries, ← format.told j, ← ih]
      cases read j <;> simp [Function.comp_def]

theorem entries_under {read : Json → Option α} (given : Fields) (entries : List (String × α))
    (told : Json.readEntries read given = some entries) (key : String) :
    (given.under key).map read = (entries.filter (·.1 == key)).map fun entry => some entry.2 := by
  induction given generalizing entries with
  | nil =>
      obtain rfl := Option.some.inj told
      rfl
  | cons head rest ih =>
      obtain ⟨name, j⟩ := head
      rw [Json.readEntries] at told
      cases first : read j with
      | none => simp [first] at told
      | some a =>
          rw [first] at told
          obtain ⟨others, known, rfl⟩ := Option.map_eq_some_iff.mp told
          by_cases here : name = key
          · subst here
            simp [first, ih others known]
          · rw [Fields.under_later key name j rest (Ne.symm here), ih others known]
            simp [here]

theorem known_told (table : List (String × α)) (listed : ∀ entry ∈ table, write entry.2 = .string entry.1)
    (s : String) : (table.lookup s).map write = Shape.known (table.map (·.1)) s := by
  rw [Shape.known]
  cases known : table.lookup s with
  | some a =>
      obtain ⟨before, after, rfl, -⟩ := List.lookup_eq_some_iff.mp known
      simpa using listed (s, a) (by simp)
  | none =>
      have absent : s ∉ table.map (·.1) := by
        intro member
        obtain ⟨entry, inside, rfl⟩ := List.mem_map.mp member
        simpa using List.lookup_eq_none_iff.mp known entry inside
      rw [if_neg absent]
      rfl

theorem word_told (inside : Bool) (table : List (String × α))
    (listed : ∀ entry ∈ table, write entry.2 = .string entry.1) (j : Json) :
    (j.oneOf inside table).map write = Shape.word inside (table.map (·.1)) j := by
  cases j with
  | string s => exact known_told table listed s
  | object fields =>
      match fields with
      | [] => rfl
      | [(s, j)] =>
          have same : j.isNothing inside = Shape.isVoid inside j := by
            cases j with
            | object held => cases held <;> rfl
            | _ => rfl
          rw [Json.oneOf, Shape.word, same]
          cases Shape.isVoid inside j <;> simp [known_told table listed]
      | _ :: _ :: _ => simp [Json.oneOf, Shape.word]
  | _ => rfl

theorem word (inside : Bool) (table : List (String × α))
    (listed : ∀ entry ∈ table, write entry.2 = .string entry.1)
    (named : ∀ a, ∃ word, write a = .string word ∧ table.lookup word = some a) :
    Format write (Json.oneOf inside table) (.word inside (table.map (·.1))) := by
  refine ⟨fun a => ?_, fun a => ?_, word_told inside table listed⟩
  · obtain ⟨s, written, known⟩ := named a
    rw [written, Json.oneOf, known]
  · obtain ⟨s, written, -⟩ := named a
    rw [written]
    nofun

theorem required_told (format : Format write read shape) (name : String) (given : Fields) :
    Shape.given? none shape (given.under name) = (given.required name read).map write := by
  rw [Fields.required]
  rcases given.under name with _ | ⟨j, _ | ⟨k, more⟩⟩
  · rfl
  · exact (format.told j).symm
  · rfl

theorem optional_told (format : Format write read shape) (name : String) (given : Fields) :
    Shape.given? (some .null) shape.nullable (given.under name) =
      (given.optional name read).map (.nullable write) := by
  rw [Fields.optional]
  rcases given.under name with _ | ⟨j, _ | ⟨k, more⟩⟩
  · rfl
  · cases j with
    | null => rfl
    | _ => exact (format.told _).symm.trans (Option.map_map (Json.nullable write) some _).symm
  · cases j <;> rfl

theorem defaulted_told (format : Format write read shape) (name : String) (default : α) (given : Fields) :
    Shape.given? (some (write default)) shape (given.under name) = (given.defaulted name default read).map write := by
  rw [Fields.defaulted]
  rcases given.under name with _ | ⟨j, _ | ⟨k, more⟩⟩
  · rfl
  · exact (format.told j).symm
  · rfl

theorem stable (format : Format write read shape) (a : α) : shape (write a) = some (write a) := by
  rw [← format.told, format.back, Option.map_some]

theorem required (format : Format write read shape) (name : String) :
    (Record.required name read).Fills [.required name shape] id fun a => [(name, write a)] :=
  .one (.required name shape) _ write rfl (format.required_told name)

theorem optional (format : Format write read shape) (name : String) :
    (Record.optional name read).Fills [.optional name shape] id fun a => [(name, .nullable write a)] :=
  .one (.optional name shape) _ (.nullable write) rfl (format.optional_told name)

theorem defaulted (format : Format write read shape) (name : String) (default : α) :
    (Record.defaulted name default read).Fills [.defaulted name (write default) shape (format.stable default)] id
      fun a => [(name, write a)] :=
  .one (.defaulted name (write default) shape (format.stable default)) _ write rfl (format.defaulted_told name default)

theorem optional_back (format : Format write read shape) (name : String) (a : Option α) (given : Fields)
    (fresh : given.under name = []) :
    Fields.optional ((name, .nullable write a) :: given) name read = some a := by
  rw [Fields.optional, Fields.under_here, fresh]
  cases a with
  | none => rfl
  | some a =>
      rw [Json.nullable]
      cases written : write a with
      | null => exact absurd written (format.filled a)
      | _ => exact congrArg (Option.map some) (written ▸ format.back a)

end Format

end OnlineDdl
