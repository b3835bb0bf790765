import Mathlib.Data.List.TakeWhile
import Syllabus.Heading
import Syllabus.Proofs.Lines

/-! Headings at the ends of lines. A heading with a text is the same heading when carriage returns follow it, and a
heading without one names nothing. -/
namespace Syllabus.Heading
open Text (isBlank)

theorem closingReturned (s : List Char) : closing (s ++ ['\r']) = closing s + 1 := by
  have blank : isBlank '\r' = true := by decide
  have fewer : (((s.reverse.dropWhile isBlank).dropWhile (· == '#')).dropWhile isBlank).length ≤ s.length := by
    calc _ ≤ _ := (List.dropWhile_sublist _).length_le
      _ ≤ _ := (List.dropWhile_sublist _).length_le
      _ ≤ _ := (List.dropWhile_sublist _).length_le
      _ = s.length := s.length_reverse
  simp only [closing, List.reverse_append, List.reverse_singleton, List.singleton_append,
    List.dropWhile_cons_of_pos blank, List.length_append, List.length_singleton]
  omega

theorem textOfWritten {s : List Char} (written : s.dropWhile isBlank ≠ []) : textOf? (s ++ ['\r']) = textOf? s := by
  have more : (s ++ ['\r']).dropWhile isBlank = s.dropWhile isBlank ++ ['\r'] := by
    rw [List.dropWhile_append]
    simp [written]
  have least := List.length_pos_iff.mpr written
  simp only [textOf?, more, closingReturned]
  have taken : max 1 ((s.dropWhile isBlank ++ ['\r']).length - (closing (s.dropWhile isBlank) + 1)) =
      max 1 ((s.dropWhile isBlank).length - closing (s.dropWhile isBlank)) := by
    simp only [List.length_append, List.length_singleton]
    omega
  rw [taken, List.take_append_of_le_length (by omega)]
  simp [written]

theorem textOfBlank {s : List Char} (blanks : s.dropWhile isBlank = []) (filled : s ≠ []) :
    textOf? (s ++ ['\r']) = some ['\r'] := by
  obtain ⟨c, rest, rfl⟩ := List.exists_cons_of_ne_nil filled
  have blank : isBlank '\r' = true := by decide
  have nothing : (c :: rest ++ ['\r']).dropWhile isBlank = [] := by
    rw [List.dropWhile_append, blanks]
    simp [blank]
  simp only [textOf?, nothing]
  simp

theorem textOfReturned {s t : List Char} (found : textOf? s = some t) (solid : Chars.blank t = false) :
    textOf? (s ++ ['\r']) = some t := by
  -- The text of a heading with nothing written would be blank.
  have written : s.dropWhile isBlank ≠ [] := by
    intro nothing
    have blanks : ∀ c ∈ s, isBlank c = true := List.dropWhile_eq_nil_iff.mp nothing
    have within : ∀ c ∈ t, c ∈ s := by
      simp only [textOf?, nothing, List.isEmpty_nil, if_true] at found
      split at found
      · cases found
      · cases found
        intro c member
        have inside := List.mem_reverse.mp (List.mem_of_mem_take member)
        exact List.mem_of_mem_drop (List.mem_of_mem_filter inside)
    rw [Chars.blank, List.all_eq_false] at solid
    obtain ⟨c, member, fails⟩ := solid
    exact fails (blanks c (within c member))
  rw [textOfWritten written, found]

theorem signsReturned (s : List Char) : (s ++ ['\r']).takeWhile (· == '#') = s.takeWhile (· == '#') := by
  rw [List.takeWhile_append]
  split
  · rename_i whole
    have same := (List.takeWhile_prefix (· == '#')).eq_of_length whole
    simp [same]
  · rfl

theorem restReturned (s : List Char) :
    (s ++ ['\r']).drop (s.takeWhile (· == '#')).length = s.drop (s.takeWhile (· == '#')).length ++ ['\r'] :=
  List.drop_append_of_le_length (List.takeWhile_prefix _).length_le

theorem ofCharsReturned {s : List Char} {h : Heading} (found : ofChars? s = some h) (solid : Text.blank h.text = false) :
    ofChars? (s ++ ['\r']) = some h := by
  simp only [ofChars?, signsReturned, restReturned] at found ⊢
  split at found
  · cases found
  · rename_i formed
    obtain ⟨t, text, rfl⟩ := Option.map_eq_some_iff.mp found
    have solid' : Chars.blank t = false := by simpa [Text.blank] using solid
    have same : (s.drop (s.takeWhile (· == '#')).length ++ ['\r']).head? =
        (s.drop (s.takeWhile (· == '#')).length).head? := by
      cases rest : s.drop (s.takeWhile (· == '#')).length with
      | nil => simp [rest] at formed
      | cons c more => rfl
    rw [same, if_neg formed, textOfReturned text solid']
    rfl

theorem ofCharsBare (s : List Char) :
    ofChars? (s ++ ['\r']) = ofChars? s ∨ ∃ h, ofChars? (s ++ ['\r']) = some h ∧ h.text = "\r" := by
  simp only [ofChars?, signsReturned, restReturned]
  cases rest : s.drop (s.takeWhile (· == '#')).length with
  | nil => simp [textOf?, show isBlank '\r' = true by decide]
  | cons c more =>
    rw [List.cons_append, List.head?_cons, List.head?_cons, ← List.cons_append]
    split
    · exact .inl rfl
    · by_cases written : (c :: more).dropWhile isBlank = []
      · rw [textOfBlank written (List.cons_ne_nil _ _)]
        exact .inr ⟨_, rfl, rfl⟩
      · rw [textOfWritten written]
        exact .inl rfl

theorem ofLineUnreturned (line : String) :
    ofLine? (Text.unreturned line) = ofLine? line ∨ ∃ h, ofLine? line = some h ∧ h.text = "\r" := by
  simp only [ofLine?, Text.unreturned, String.toList_ofList]
  cases Chars.unreturnedTrails line.toList with
  | inl same => exact .inl (congrArg _ same.symm)
  | inr shorter =>
    have bare := ofCharsBare (Chars.unreturned line.toList)
    rw [← shorter] at bare
    exact bare.imp_left Eq.symm

theorem ofLineTrails {written line : String} {h : Heading} (found : ofLine? line = some h)
    (solid : Text.blank h.text = false) (trails : Text.Trails written line) : ofLine? written = some h := by
  have longer : ∀ (lost s : List Char), (∀ c ∈ lost, c = '\r') → ofChars? s = some h → ofChars? (s ++ lost) = some h := by
    intro lost
    induction lost with
    | nil => simp
    | cons c more ih =>
      intro s returns found
      have first := returns c List.mem_cons_self
      subst first
      have next := ih (s ++ ['\r']) (fun d member => returns d (List.mem_cons_of_mem _ member))
        (ofCharsReturned found solid)
      simpa using next
  obtain ⟨lost, same, returns⟩ := trails
  rw [ofLine?, same]
  exact longer lost line.toList returns found

theorem keywordBlank {text : String} (blank : Text.blank text = true) : Keyword.ofText text = "" := by
  have nothing : Chars.trim text.toList = [] := by
    have blanks : ∀ c ∈ text.toList, isBlank c = true := by simpa [Text.blank, Chars.blank] using blank
    rw [Chars.trim, Chars.trimStart, List.dropWhile_eq_nil_iff.mpr blanks]
    rfl
  simp only [Keyword.ofText, nothing]
  rfl

theorem labelBlank {text : String} (blank : Text.blank text = true) : (label text).1 = "" := by
  unfold label
  split
  · rename_i keyword title cut
    obtain ⟨⟨before, after⟩, inside, same⟩ := Option.map_eq_some_iff.mp cut
    cases same
    refine keywordBlank ?_
    have whole := Chars.cutSplit inside
    simp only [Text.blank, Chars.blank, List.all_eq_true, String.toList_ofList] at blank ⊢
    intro c member
    exact blank c (by rw [whole]; exact List.mem_append_left _ member)
  · exact keywordBlank blank

end Syllabus.Heading
