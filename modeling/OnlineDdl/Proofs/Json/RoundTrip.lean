import OnlineDdl.Proofs.Json.Printed
import OnlineDdl.Proofs.Json.Tagged

/-! What it means to write values and to read them again: as values, as text, and with the fields of an object
left out, repeated or set beside others. -/

set_option autoImplicit false

namespace OnlineDdl

variable {α : Type}

structure RoundTrips (write : α → Json) (read : Json → Option α) (shape : Shape) : Prop where
  back : ∀ a, read (write a) = some a
  printed : ∀ a, (Json.parse? (write a).print).bind read = some a
  told : ∀ j, (read j).map write = shape j
  again : ∀ j a, read j = some a → read (write a) = some a ∧ shape (write a) = some (write a)

-- How the fields of the objects in question are heeded.
structure Heeds (read : Json → Option α) (fields : List FieldShape) (among : Fields → Prop) : Prop where
  omitted : ∀ f ∈ fields, ∀ default, f.missing = some default → ∀ before after, among (before ++ after) →
    (before ++ after).find? f.name = none →
      read (.object (before ++ (f.name, default) :: after)) = read (.object (before ++ after))
  needed : ∀ f ∈ fields, f.missing = none → ∀ given, among given → given.find? f.name = none →
    read (.object given) = none
  once : ∀ f ∈ fields, ∀ given, among given → 1 < (given.under f.name).length → read (.object given) = none
  others : ∀ name, (∀ f ∈ fields, name ≠ f.name) → ∀ before j after, among (before ++ after) →
    among (before ++ (name, j) :: after) →
      read (.object (before ++ (name, j) :: after)) = read (.object (before ++ after))

structure RecordFormat (write : α → Json) (read : Json → Option α) (fields : List FieldShape) : Prop
    extends RoundTrips write read (.record fields) where
  heeded : Heeds read fields fun _ => True

structure TaggedFormat (write : α → Json) (read : Json → Option α) (inside : Bool) (tag : String)
    (variants : List (String × List FieldShape)) : Prop
    extends RoundTrips write read (.tagged inside tag variants) where
  heeded : ∀ word fields, (word, fields) ∈ variants →
    Heeds read fields fun given => Fields.under given tag = [.string word]
  -- The tag of what is read stands in it once; its word is written first, and behind it the fields of that word.
  tagged : ∀ given a, read (.object given) = some a → ∃ t word fields written,
    Fields.under given tag = [t] ∧ Shape.tagWord inside (variants.map (·.1)) t = some word ∧
      (word, fields) ∈ variants ∧ Shape.fill fields given = some written ∧
        write a = .object ((tag, .string word) :: written)

variable {write : α → Json} {read : Json → Option α} {shape : Shape}

theorem Format.round_trips (format : Format write read shape) : RoundTrips write read shape := by
  refine ⟨format.back, fun a => ?_, format.told, fun _ a _ => ⟨format.back a, ?_⟩⟩
  · rw [Json.parse_printed, Option.bind_some, format.back]
  · rw [← format.told, format.back, Option.map_some]

theorem Format.alike (format : Format write read shape) {j other : Json} (same : shape j = shape other) :
    read j = read other := by
  have injective : Function.Injective write := fun a b equal =>
    Option.some.inj ((format.back a).symm.trans ((congrArg read equal).trans (format.back b)))
  refine Option.map_injective injective ?_
  rw [format.told, format.told, same]

theorem Format.refused (format : Format write read shape) {j : Json} (untold : shape j = none) : read j = none :=
  Option.map_eq_none_iff.mp ((format.told j).trans untold)

namespace Fields

theorem find_none_iff (given : Fields) (name : String) : given.find? name = none ↔ given.under name = [] := by
  rw [find?, under, List.map_eq_nil_iff, List.filter_eq_nil_iff, List.lookup_eq_none_iff]
  exact forall₂_congr fun field _ => by rw [bne_iff_ne, ne_comm, beq_iff_eq]

end Fields

namespace Shape

theorem fill_refused (fields : List FieldShape) (given : Fields) (f : FieldShape) (asked : f ∈ fields)
    (refused : given? f.missing f.shape (given.under f.name) = none) : fill fields given = none := by
  induction fields with
  | nil => cases asked
  | cons g rest ih =>
      rw [fill]
      rcases List.mem_cons.mp asked with rfl | later
      · rw [refused, Option.bind_none]
      · simp [ih later]

theorem fill_omitted (fields : List FieldShape) (distinct : (fields.map (·.name)).Nodup) (f : FieldShape)
    (asked : f ∈ fields) (default : Json) (missing : f.missing = some default) (before after : Fields)
    (gap : (before ++ after).under f.name = []) :
    fill fields (before ++ (f.name, default) :: after) = fill fields (before ++ after) := by
  have elsewhere (name : String) (other : name ≠ f.name) :
      (before ++ (f.name, default) :: after).under name = (before ++ after).under name := by
    rw [Fields.under_append, Fields.under_later name f.name default after other, Fields.under_append]
  have here : (before ++ (f.name, default) :: after).under f.name = [default] := by
    obtain ⟨none, nowhere⟩ := List.append_eq_nil_iff.mp ((Fields.under_append f.name before after).symm.trans gap)
    rw [Fields.under_append, Fields.under_here, none, nowhere, List.nil_append]
  induction fields with
  | nil => cases asked
  | cons g rest ih =>
      rw [List.map_cons, List.nodup_cons] at distinct
      obtain ⟨fresh, others⟩ := distinct
      rw [fill, fill]
      rcases List.mem_cons.mp asked with rfl | later
      · have rest_alike := fill_alike rest _ _ fun g member =>
          elsewhere g.name fun same => fresh (same ▸ List.mem_map_of_mem member)
        rw [here, gap, rest_alike, missing]
        exact congrArg (Option.bind · _) (f.stable default missing)
      · have apart : g.name ≠ f.name := fun same => fresh (same ▸ List.mem_map_of_mem later)
        rw [elsewhere g.name apart, ih others later]

theorem fill_others (fields : List FieldShape) (name : String) (other : ∀ f ∈ fields, name ≠ f.name) (j : Json)
    (before after : Fields) : fill fields (before ++ (name, j) :: after) = fill fields (before ++ after) :=
  fill_alike fields _ _ fun f member => by
    rw [Fields.under_append, Fields.under_later f.name name j after (other f member).symm, Fields.under_append]

end Shape

theorem Format.heeds (format : Format write read shape) (fields : List FieldShape)
    (distinct : (fields.map (·.name)).Nodup) (among : Fields → Prop) (form : Fields → Json)
    (filled : ∀ given, among given → shape (.object given) = (Shape.fill fields given).map form)
    (stays : ∀ f ∈ fields, ∀ j before after, among (before ++ after) → among (before ++ (f.name, j) :: after)) :
    Heeds read fields among where
  omitted f asked default missing before after holds gap := by
    refine format.alike ?_
    rw [filled _ holds, filled _ (stays f asked default before after holds),
      Shape.fill_omitted fields distinct f asked default missing before after ((Fields.find_none_iff _ _).mp gap)]
  needed f asked missing given holds gap := by
    refine format.refused ?_
    rw [filled given holds, Shape.fill_refused fields given f asked, Option.map_none]
    rw [(Fields.find_none_iff _ _).mp gap, missing, Shape.given?]
  once f asked given holds repeated := by
    refine format.refused ?_
    rw [filled given holds, Shape.fill_refused fields given f asked, Option.map_none]
    match given.under f.name, repeated with
    | _ :: _ :: _, _ => rfl
  others name other before j after holds wider := by
    refine format.alike ?_
    rw [filled _ holds, filled _ wider, Shape.fill_others fields name other]

theorem Format.record_format {fields : List FieldShape} (format : Format write read (.record fields))
    (distinct : (fields.map (·.name)).Nodup) : RecordFormat write read fields where
  toRoundTrips := format.round_trips
  heeded := format.heeds fields distinct _ .object (fun _ _ => rfl) fun _ _ _ _ _ _ => trivial

namespace Shape

variable {inside : Bool} {tag : String} {variants : List (String × List FieldShape)}

theorem tagged_filled (words : (variants.map (·.1)).Nodup) (word : String) (fields : List FieldShape)
    (listed : (word, fields) ∈ variants) (apart : ∀ f ∈ fields, f.name ≠ tag) (given : Fields) (t : Json)
    (told : given.under tag = [t]) (meant : tagWord inside (variants.map (·.1)) t = some word) :
    tagged inside tag variants (.object given) =
      (fill fields given).map fun written => .object ((tag, .string word) :: written) := by
  have beside : fill fields (given.filter (·.1 != tag)) = fill fields given :=
    fill_alike fields _ _ fun f member => Fields.under_without f.name given tag (apart f member)
  rw [tagged, told]
  simp only [variant, meant, Option.bind_some, Entries.lookup_listed variants words word fields listed,
    filled, beside]

theorem tagged_known (given : Fields) (j : Json) (told : tagged inside tag variants (.object given) = some j) :
    ∃ t word fields, given.under tag = [t] ∧ tagWord inside (variants.map (·.1)) t = some word ∧
      (word, fields) ∈ variants := by
  rw [tagged] at told
  rcases known : Fields.under given tag with _ | ⟨t, _ | ⟨u, more⟩⟩
  · rw [known] at told
    cases told
  · rw [known] at told
    obtain ⟨word, meant, rest⟩ := Option.bind_eq_some_iff.mp told
    obtain ⟨fields, found, -⟩ := Option.bind_eq_some_iff.mp rest
    obtain ⟨before, after, rfl, -⟩ := List.lookup_eq_some_iff.mp found
    exact ⟨t, word, fields, rfl, meant, by simp⟩
  · rw [known] at told
    cases told

end Shape

theorem Format.tagged_format {inside : Bool} {tag : String} {variants : List (String × List FieldShape)}
    (format : Format write read (.tagged inside tag variants)) (words : (variants.map (·.1)).Nodup)
    (distinct : ∀ variant ∈ variants, (tag :: variant.2.map (·.name)).Nodup) :
    TaggedFormat write read inside tag variants := by
  have apart (word : String) (fields : List FieldShape) (listed : (word, fields) ∈ variants) (f : FieldShape)
      (member : f ∈ fields) : f.name ≠ tag := fun same =>
    (List.nodup_cons.mp (distinct (word, fields) listed)).1 (same ▸ List.mem_map_of_mem member)
  refine ⟨format.round_trips, fun word fields listed => ?_, fun given a told => ?_⟩
  · have own := (List.nodup_cons.mp (distinct (word, fields) listed)).2
    refine format.heeds fields own _ _ (fun given told =>
      Shape.tagged_filled words word fields listed (apart word fields listed) given _ told rfl) ?_
    intro f member j before after told
    rw [← told, Fields.under_append, Fields.under_later tag f.name j after (apart word fields listed f member).symm,
      Fields.under_append]
  · have written : Shape.tagged inside tag variants (.object given) = some (write a) := by
      rw [← format.told, told, Option.map_some]
    obtain ⟨t, word, fields, once, meant, listed⟩ := Shape.tagged_known given _ written
    rw [Shape.tagged_filled words word fields listed (apart word fields listed) given t once meant] at written
    obtain ⟨more, filled, same⟩ := Option.map_eq_some_iff.mp written
    exact ⟨t, word, fields, more, once, meant, listed, filled, same.symm⟩

end OnlineDdl
