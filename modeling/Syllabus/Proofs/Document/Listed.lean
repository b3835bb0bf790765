import Syllabus.Document.Reading
import Syllabus.Proofs.Text

/-! What stands under a key of the frontmatter. The check of required fields goes through a list of the entries, in
which a collection is shown by a sign and a tagged key goes by its text; the readers look the key up and read its
text. The two agree on every other value. -/
namespace Syllabus.Frontmatter

def listed? (f : Frontmatter) (key : String) : Option (Yaml × Yaml) :=
  f.entries.find? fun entry => listedName? entry.1 == some key

def Collection (value : Yaml) : Prop := (∃ first more, value = .list (first :: more)) ∨ ∃ entries, value = .mapping entries

/-- The key is listed with content, and no content is read under it. -/
def Lost (f : Frontmatter) (key : String) : Prop :=
  ∃ name value, f.listed? key = some (name, value) ∧
    ((name = .text key ∧ Collection value) ∨ (f.filled? key = none ∧ ∃ tag inner, name = .tagged tag inner))

variable {f : Frontmatter} {key : String} {value : Yaml}

theorem Collection.textless (collection : Collection value) : scalarText? value = none := by
  rcases collection with list | mapping
  · obtain ⟨first, more, rfl⟩ := list
    rfl
  · obtain ⟨entries, rfl⟩ := mapping
    rfl

theorem fieldTextPlain (plain : ¬Collection value) : fieldText value = (scalarText? value).getD "" := by
  cases value with
  | list items =>
    cases items with
    | nil => rfl
    | cons first more => exact absurd (.inl ⟨first, more, rfl⟩) plain
  | mapping entries => exact absurd (.inr ⟨entries, rfl⟩) plain
  | _ => rfl

theorem fieldListed {field : Field} (found : (f.fields.find? fun field => field.key == key) = some field) :
    ∃ name value, f.listed? key = some (name, value) ∧ field.value = fieldText value := by
  rw [fields, List.find?_filterMap] at found
  obtain ⟨⟨name, value⟩, first, made⟩ := Option.bind_eq_some_iff.mp found
  obtain ⟨word, named, rfl⟩ := Option.map_eq_some_iff.mp made
  refine ⟨name, value, ?_, rfl⟩
  rw [listed?, ← first]
  congr 1
  funext entry
  cases shown : listedName? entry.1 <;> simp [shown]

theorem getListed {name : String} (listed : f.listed? key = some (.text name, value)) : f.get? key = some value := by
  obtain ⟨hit, before, after, split, earlier⟩ := List.find?_eq_some_iff_append.mp listed
  have same : name = key := by simpa [listedName?] using hit
  subst same
  rw [get?, split, List.find?_append, List.find?_eq_none.mpr]
  · simp [nameOf?]
  · -- A plain key that is read is listed too, so none of the earlier entries is read.
    intro entry member named
    obtain ⟨other, content⟩ := entry
    cases other with
    | text word =>
      have word : word = name := by simpa [nameOf?] using named
      subst word
      simpa [listedName?] using earlier _ member
    | _ => cases named

theorem lostOfListed {name : Yaml} (listed : f.listed? key = some (name, value))
    (filled : Text.blank (fieldText value) = false) (unread : f.filled? key = none) : f.Lost key := by
  refine ⟨name, value, listed, ?_⟩
  have named := List.find?_some listed
  cases name with
  | tagged tag inner => exact .inr ⟨unread, tag, inner, rfl⟩
  | text word =>
    have same : word = key := by simpa [listedName?] using named
    subst same
    refine .inl ⟨rfl, ?_⟩
    by_contra plain
    rw [fieldTextPlain plain] at filled
    rw [filled?, text?, getListed listed, Option.bind_some] at unread
    cases text : scalarText? value with
    | none =>
      rw [text] at filled
      cases filled
    | some s =>
      rw [text, Option.getD_some] at filled
      simp [text, Text.filled?, filled] at unread
  | _ => cases named

theorem Lost.unread (lost : f.Lost key) : f.filled? key = none := by
  obtain ⟨name, value, listed, collection | tagged⟩ := lost
  · obtain ⟨rfl, collection⟩ := collection
    rw [filled?, text?, getListed listed, Option.bind_some, collection.textless]
    rfl
  · exact tagged.1

theorem trimmedBlank : Text.blank (f.trimmed key) = true ↔ f.filled? key = none := by
  have kept : Text.blank (f.trimmed key) = Text.blank ((f.text? key).getD "") := by
    simp [trimmed, Text.blank, Text.trimToList, Chars.blankTrim]
  rw [kept, filled?]
  cases f.text? key with
  | none => simp [Text.blank, Chars.blank]
  | some s => simp [Text.filled?]

end Syllabus.Frontmatter
