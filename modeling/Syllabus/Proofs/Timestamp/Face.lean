import Syllabus.Proofs.Identifiers
import Syllabus.Proofs.Text
import Syllabus.Timestamp

/-! The written form of times. A text shows a clock face exactly when it is the text of the face: the fields in their
digits, with colons between them and a point before the fraction. No other face has the same text, as neither sign is
a digit. -/
namespace Syllabus.Timestamp

namespace Face

def fractionText (fraction : List Char) : List Char := if fraction.isEmpty then [] else '.' :: fraction

def fields (f : Face) : List (List Char) := f.hours.toList ++ [f.minutes, f.seconds ++ fractionText f.fraction]

def text (f : Face) : List Char := [':'].intercalate f.fields

structure Formed (digit : Char → Bool) (f : Face) : Prop where
  hours : ∀ s ∈ f.hours, s ≠ [] ∧ ∀ c ∈ s, digit c = true
  minutes : (f.minutes.length = 1 ∨ f.minutes.length = 2) ∧ ∀ c ∈ f.minutes, digit c = true
  seconds : f.seconds.length = 2 ∧ ∀ c ∈ f.seconds, digit c = true
  fraction : ∀ c ∈ f.fraction, digit c = true

theorem Formed.mono {digit wider : Char → Bool} (more : ∀ c, digit c = true → wider c = true) {f : Face}
    (formed : f.Formed digit) : f.Formed wider where
  hours s written := (formed.hours s written).imp_right fun each c member => more c (each c member)
  minutes := formed.minutes.imp_right fun each c member => more c (each c member)
  seconds := formed.seconds.imp_right fun each c member => more c (each c member)
  fraction c member := more c (formed.fraction c member)

end Face

theorem digitsIff {digit : Char → Bool} {s : List Char} : digits digit s = true ↔ s ≠ [] ∧ ∀ c ∈ s, digit c = true := by
  simp [digits]

section
variable {digit : Char → Bool} {s : List Char} {f : Face}

theorem wellFormedIff (fraction : ∀ c ∈ f.fraction, digit c = true) : wellFormed digit f = true ↔ f.Formed digit := by
  simp only [wellFormed, Bool.and_eq_true, decide_eq_true_eq, digitsIff, Option.all_eq_true]
  constructor
  · intro checks
    obtain ⟨⟨⟨⟨hours, filled, minutes⟩, short⟩, _, seconds⟩, two⟩ := checks
    have some := List.length_pos_iff.mpr filled
    exact ⟨hours, ⟨by omega, minutes⟩, ⟨two, seconds⟩, fraction⟩
  · intro formed
    have one := formed.minutes.1
    have two := formed.seconds.1
    exact ⟨⟨⟨⟨formed.hours, List.length_pos_iff.mp (by omega), formed.minutes.2⟩, by omega⟩,
      List.length_pos_iff.mp (by omega), formed.seconds.2⟩, two⟩

theorem secondsPartIff (point : digit '.' = false) {seconds fraction : List Char}
    (plain : ∀ c ∈ seconds, digit c = true) :
    secondsPart? digit s = some (seconds, fraction) ↔
      s = seconds ++ Face.fractionText fraction ∧ ∀ c ∈ fraction, digit c = true := by
  have free : '.' ∉ seconds := fun inside => by simpa [point] using plain '.' inside
  constructor
  · intro found
    rw [secondsPart?] at found
    split at found
    · cases found
      exact ⟨by simp [Face.fractionText], by simp⟩
    · rename_i whole more cut
      split at found
      · rename_i run
        cases found
        obtain ⟨filled, each⟩ := digitsIff.mp run
        exact ⟨by simpa [Face.fractionText, filled] using (Chars.cutFirst.mp cut).1, each⟩
      · cases found
  · intro written
    obtain ⟨rfl, each⟩ := written
    rw [secondsPart?]
    cases fraction with
    | nil =>
      have uncut : Chars.cut? ['.'] (seconds ++ Face.fractionText []) = none := by
        simpa [Face.fractionText, Chars.cutNone] using free
      rw [uncut]
      simp [Face.fractionText]
    | cons c more =>
      have cut : Chars.cut? ['.'] (seconds ++ Face.fractionText (c :: more)) = some (seconds, c :: more) :=
        Chars.cutFirst.mpr ⟨by simp [Face.fractionText], free⟩
      rw [cut]
      exact if_pos (digitsIff.mpr ⟨List.cons_ne_nil c more, each⟩)

theorem ofFieldsIff (point : digit '.' = false) {hours : Option (List Char)} {minutes last : List Char} :
    ofFields? digit hours minutes last = some f ↔
      hours = f.hours ∧ minutes = f.minutes ∧ last = f.seconds ++ Face.fractionText f.fraction ∧ f.Formed digit := by
  rw [ofFields?, Option.bind_eq_some_iff]
  constructor
  · intro found
    obtain ⟨⟨seconds, fraction⟩, part, made⟩ := found
    dsimp only at made
    split at made
    · rename_i checked
      cases made
      have plain : ∀ c ∈ seconds, digit c = true := by
        simp only [wellFormed, Bool.and_eq_true, digitsIff] at checked
        exact checked.1.2.2
      obtain ⟨whole, each⟩ := (secondsPartIff point plain).mp part
      exact ⟨rfl, rfl, whole, (wellFormedIff each).mp checked⟩
    · cases made
  · intro shown
    obtain ⟨rfl, rfl, whole, formed⟩ := shown
    refine ⟨(f.seconds, f.fraction), (secondsPartIff point formed.seconds.2).mpr ⟨whole, formed.fraction⟩, ?_⟩
    exact if_pos ((wellFormedIff formed.fraction).mpr formed)

theorem fieldsChars (formed : f.Formed digit) : ∀ part ∈ f.fields, ∀ c ∈ part, digit c = true ∨ c = '.' := by
  intro part member c inside
  rcases List.mem_append.mp member with hours | rest
  · exact .inl ((formed.hours part (Option.mem_toList.mp hours)).2 c inside)
  · rcases List.mem_cons.mp rest with rfl | last
    · exact .inl (formed.minutes.2 c inside)
    · rw [List.mem_singleton.mp last, Face.fractionText] at inside
      rcases List.mem_append.mp inside with whole | behind
      · exact .inl (formed.seconds.2 c whole)
      · split at behind
        · cases behind
        · exact (List.mem_cons.mp behind).symm.imp_left (formed.fraction c)

theorem fieldsFree (colon : digit ':' = false) (formed : f.Formed digit) : ∀ part ∈ f.fields, ':' ∉ part := by
  intro part member inside
  rcases fieldsChars formed part member ':' inside with digit | point
  · rw [colon] at digit
    cases digit
  · exact absurd point (by decide)

theorem textChars (formed : f.Formed digit) {c : Char} (member : c ∈ f.text) : digit c = true ∨ c = '.' ∨ c = ':' := by
  have inside : (∃ part ∈ f.fields, c ∈ part) ∨ c = ':' := by
    cases hours : f.hours <;> simp [Face.text, Face.fields, hours] at member ⊢ <;> tauto
  rcases inside with ⟨part, among, inside⟩ | sign
  · exact (fieldsChars formed part among c inside).imp_right .inl
  · exact .inr (.inr sign)

theorem faceOfIff (colon : digit ':' = false) (point : digit '.' = false) :
    faceOf? digit s = some f ↔ s = f.text ∧ f.Formed digit := by
  have pieces : Chars.splitOn (· == ':') s = s.splitOn ':' := Chars.splitPieces ..
  rw [faceOf?, pieces]
  constructor
  · intro found
    have whole : s = [':'].intercalate (s.splitOn ':') := (List.intercalate_splitOn ':').symm
    split at found
    · rename_i minutes last fields
      obtain ⟨none, rfl, rfl, formed⟩ := (ofFieldsIff point).mp found
      exact ⟨by rw [whole, fields, Face.text, Face.fields, ← none]; rfl, formed⟩
    · rename_i hours minutes last fields
      obtain ⟨given, rfl, rfl, formed⟩ := (ofFieldsIff point).mp found
      exact ⟨by rw [whole, fields, Face.text, Face.fields, ← given]; rfl, formed⟩
    · cases found
  · intro shown
    obtain ⟨rfl, formed⟩ := shown
    have filled : f.fields ≠ [] := by simp [Face.fields]
    rw [Face.text, List.splitOn_intercalate ':' (fieldsFree colon formed) filled]
    cases hours : f.hours with
    | none =>
      rw [Face.fields, hours]
      exact (ofFieldsIff point).mpr ⟨hours.symm, rfl, rfl, formed⟩
    | some written =>
      rw [Face.fields, hours]
      exact (ofFieldsIff point).mpr ⟨hours.symm, rfl, rfl, formed⟩

theorem textOnce (colon : digit ':' = false) (point : digit '.' = false) {g : Face} (formed : f.Formed digit)
    (formed' : g.Formed digit) (same : f.text = g.text) : f = g := by
  have shown := (faceOfIff colon point).mpr ⟨rfl, formed⟩
  rw [(faceOfIff colon point).mpr ⟨same, formed'⟩] at shown
  exact (Option.some.inj shown).symm

end
end Syllabus.Timestamp
