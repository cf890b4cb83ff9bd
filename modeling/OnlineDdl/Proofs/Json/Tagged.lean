import OnlineDdl.Proofs.Entries
import OnlineDdl.Proofs.Json.Format

/-! Values of several kinds, each a record of its own behind a tag. The tag is read as one of the listed words,
and what stands beside it as the record of that word. -/

set_option autoImplicit false

namespace OnlineDdl

structure Record.Tells {α : Type} (tag : String) (write : α → Json) (known : String × Record α)
    (variant : String × List FieldShape) : Prop where
  word : known.1 = variant.1
  told : ∀ content, (known.2.ofJson? content).map write =
    (Shape.filled variant.2 content).map fun written => .object ((tag, .string variant.1) :: written)

theorem Record.Fills.tells {α τ : Type} {tag : String} {out : α → Json} {r : Record α} {fields : List FieldShape}
    {make : τ → α} {write : τ → Fields} (fills : r.Fills fields make write) (word : String)
    (distinct : (fields.map (·.name)).Nodup)
    (same : ∀ parts, out (make parts) = .object ((tag, .string word) :: write parts)) :
    Record.Tells tag out (word, r) (word, fields) :=
  ⟨rfl, fills.json distinct same⟩

namespace Shape

variable {α : Type} {tag : String} {write : α → Json} {records : List (String × Record α)}
  {variants : List (String × List FieldShape)}

theorem words_alike (alike : List.Forall₂ (Record.Tells tag write) records variants) :
    records.map (·.1) = variants.map (·.1) := by
  induction alike with
  | nil => rfl
  | cons head _ ih => rw [List.map_cons, List.map_cons, head.word, ih]

theorem lookup_told (alike : List.Forall₂ (Record.Tells tag write) records variants) (word : String)
    (content : Json) :
    (records.lookup word).bind (fun record => (record.ofJson? content).map write) =
      (variants.lookup word).bind fun fields =>
        (filled fields content).map fun written => .object ((tag, .string word) :: written) := by
  induction alike with
  | nil => rfl
  | @cons record variant _ _ head _ ih =>
      obtain ⟨key, record⟩ := record
      obtain ⟨other, fields⟩ := variant
      obtain ⟨rfl, told⟩ := head
      rw [Entries.lookup_next, Entries.lookup_next]
      by_cases here : word = key
      · subst here
        rw [if_pos rfl, if_pos rfl]
        exact told content
      · rw [if_neg here, if_neg here, ih]

theorem variant_told (alike : List.Forall₂ (Record.Tells tag write) records variants)
    (distinct : (variants.map (·.1)).Nodup) (inside : Bool) (t content : Json) :
    ((Json.record? inside records t).bind (·.ofJson? content)).map write = variant inside tag variants t content := by
  have told (word : String) := lookup_told alike word content
  rw [Option.map_bind, variant]
  cases t with
  | string word => exact told word
  | number n =>
      cases n with
      | natural n =>
          cases inside with
          | false => rfl
          | true =>
              rw [Json.record?, if_pos rfl, Entries.lookup_number records (words_alike alike ▸ distinct),
                words_alike alike, Option.bind_assoc]
              exact Option.bind_congr fun word _ => told word
      | scientific => rfl
  | _ => rfl

theorem tagged_told (alike : List.Forall₂ (Record.Tells tag write) records variants)
    (distinct : (variants.map (·.1)).Nodup) (inside : Bool) (j : Json) :
    (j.variant? inside tag records).map write = tagged inside tag variants j := by
  cases j with
  | object given =>
      rw [Json.variant?, Json.tagged?, tagged]
      rcases Fields.under given tag with _ | ⟨t, _ | _⟩
      · rfl
      · exact variant_told alike distinct inside t _
      · rfl
  | array js =>
      cases js with
      | nil => rfl
      | cons t js => exact variant_told alike distinct inside t _
  | _ => rfl

end Shape

theorem Json.variant_back {α : Type} (inside : Bool) (tag word : String) (records : List (String × Record α))
    (record : Record α) (given : Fields) (known : records.lookup word = some record)
    (untagged : given.under tag = []) :
    Json.variant? inside tag records (.object ((tag, .string word) :: given)) = record.read given := by
  have others : given.filter (·.1 != tag) = given := by
    rw [Fields.under, List.map_eq_nil_iff, List.filter_eq_nil_iff] at untagged
    exact List.filter_eq_self.mpr fun field member => by simpa using untagged field member
  have split : Json.tagged? tag (.object ((tag, .string word) :: given)) = some (.string word, .object given) := by
    rw [Json.tagged?, Fields.under_here, untagged, List.filter_cons_of_neg (by simp), others]
  have meant : Json.record? inside records (.string word) = some record := known
  simp only [Json.variant?, split, Option.bind_eq_bind, Option.bind_some, meant, Record.ofJson?]

end OnlineDdl
