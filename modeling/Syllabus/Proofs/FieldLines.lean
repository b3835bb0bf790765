import Mathlib.Data.List.TakeWhile
import Syllabus.Field
import Syllabus.Proofs.Sections

/-! Where the fields of a text stand. A field stands on the line that starts with its key and two colons, and the
first field of a key on the first such line. -/
namespace Syllabus
open Text (LineAt Shows startsWith)

namespace Chars

theorem trimEndPrefix (s : List Char) : trimEnd s <+: s := by
  obtain ⟨tail, whole, _⟩ := trimEndSplit s
  exact ⟨tail, whole.symm⟩

end Chars

namespace Text

structure FirstFrom (text : String) (first start : Nat) (head : String) (n : Nat) : Prop where
  later : start ≤ n
  starts : ∃ line, LineAt text first n line ∧ startsWith head line = true
  others : ∀ m line, start ≤ m → m < n → LineAt text first m line → startsWith head line = false

variable {text part head : String} {first start n : Nat}

theorem FirstFrom.shown (found : FirstFrom part start start head n) (shows : Shows text first part start)
    (inside : '\r' ∉ head.toList) : FirstFrom text first start head n := by
  obtain ⟨later, ⟨line, standing, starts⟩, others⟩ := found
  have least := (numberedIff.mpr ⟨line, standing⟩).2
  obtain ⟨written, stands, trails⟩ := shows standing
  refine ⟨later, ⟨written, stands, by rw [trails.starts inside]; exact starts⟩, fun m other from_ before found => ?_⟩
  have between : Numbered part start m := ⟨from_, by omega⟩
  obtain ⟨line, standing⟩ := numberedIff.mp between
  obtain ⟨written, stands, trails⟩ := shows standing
  rw [lineAtOnly found stands, trails.starts inside]
  exact others m line from_ before standing

end Text

namespace Field

def Word (key : List Char) : Prop := (∀ c ∈ key, isKeyChar c = true) ∧ ∃ c ∈ key.head?, isLetter c = true

instance : DecidablePred Word := fun key =>
  decidable_of_iff (key.all isKeyChar = true ∧ key.head?.any isLetter = true) (by
    rw [Word, List.all_eq_true, Option.any_eq_true]
    rfl)

theorem ofCharsIff {line key rest : List Char} :
    ofChars? line = some (key, rest) ↔ line = key ++ ':' :: ':' :: rest ∧ Word key ∧ '\n' ∉ rest := by
  have colon : isKeyChar ':' = false := by decide
  constructor
  · intro found
    unfold ofChars? at found
    dsimp only at found
    split at found
    · rename_i c inline head after
      split at found
      · rename_i opens
        cases found
        have whole := List.prefix_iff_eq_append.mp (List.takeWhile_prefix isKeyChar (l := line))
        rw [after] at whole
        simp only [Bool.and_eq_true, Bool.not_eq_true', List.contains_eq_mem, decide_eq_false_iff_not] at opens
        exact ⟨whole.symm, ⟨fun d member => List.mem_takeWhile_imp member, c, head, opens.1⟩, opens.2⟩
      · cases found
    · cases found
  · intro parts
    obtain ⟨rfl, ⟨word, c, head, letter⟩, plain⟩ := parts
    have taken : (key ++ ':' :: ':' :: rest).takeWhile isKeyChar = key := by
      rw [List.takeWhile_append_of_pos word, List.takeWhile_cons_of_neg (by simp [colon]), List.append_nil]
    simp [ofChars?, taken, Option.mem_def.mp head, letter, plain]

theorem trimEndOpened (key inline : List Char) :
    Chars.trimEnd (key ++ ':' :: ':' :: inline) = key ++ ':' :: ':' :: Chars.trimEnd inline := by
  have colon : Text.isBlank ':' = false := by decide
  rw [Chars.trimEndPast key colon, Chars.trimEndSolid colon]

theorem ofCharsTrimmed {line key rest : List Char} (plain : '\n' ∉ line) :
    ofChars? (Chars.trimEnd line) = some (key, rest) ↔
      ∃ inline, line = key ++ ':' :: ':' :: inline ∧ Word key ∧ rest = Chars.trimEnd inline := by
  constructor
  · intro found
    obtain ⟨shape, word, _⟩ := ofCharsIff.mp found
    obtain ⟨tail, whole⟩ := Chars.trimEndPrefix line
    rw [shape, List.append_assoc, List.cons_append, List.cons_append] at whole
    rw [← whole, trimEndOpened, List.append_cancel_left_eq, List.cons.injEq, List.cons.injEq] at shape
    exact ⟨rest ++ tail, whole.symm, word, shape.2.2.symm⟩
  · intro parts
    obtain ⟨inline, rfl, word, rfl⟩ := parts
    refine ofCharsIff.mpr ⟨trimEndOpened key inline, word, fun feed => plain ?_⟩
    exact List.mem_append_right _ (List.mem_cons_of_mem _ (List.mem_cons_of_mem _
      ((Chars.trimEndPrefix inline).subset feed)))

end Field

namespace FieldBlock

theorem gatherField {line : String} {key inline : List Char} (found : Field.ofChars? line.toList = some (key, inline))
    (n : Nat) (more : List (String × Nat)) : gather ((line, n) :: more) =
      ([], ⟨.ofList key, Field.valueOf (.ofList (Chars.trim inline))
        (Text.trim (Text.joinWith "\n" ((gather more).1.map Prod.fst))), n⟩ :: (gather more).2) := by
  rw [gather, found]

theorem gatherPlain {line : String} (found : Field.ofChars? line.toList = none) (n : Nat)
    (more : List (String × Nat)) : gather ((line, n) :: more) = ((line, n) :: (gather more).1, (gather more).2) := by
  rw [gather, found]

variable {entries : List (String × Nat)} {f : Field}

theorem gatherStands (member : f ∈ (gather entries).2) :
    ∃ line rest, (line, f.line) ∈ entries ∧ Field.ofChars? line.toList = some (f.key.toList, rest) := by
  induction entries with
  | nil => cases member
  | cons entry more ih =>
    have further : f ∈ (gather more).2 →
        ∃ line rest, (line, f.line) ∈ entry :: more ∧ Field.ofChars? line.toList = some (f.key.toList, rest) := by
      intro later
      obtain ⟨line, rest, inside, opens⟩ := ih later
      exact ⟨line, rest, List.mem_cons_of_mem _ inside, opens⟩
    obtain ⟨line, n⟩ := entry
    cases opens : Field.ofChars? line.toList with
    | some parts =>
      rw [gatherField opens] at member
      rcases List.mem_cons.mp member with same | later
      · rw [same]
        exact ⟨line, parts.2, List.mem_cons_self, by simpa using opens⟩
      · exact further later
    | none =>
      rw [gatherPlain opens] at member
      exact further member

theorem gatherStray {entry : String × Nat} (member : entry ∈ (gather entries).1) : entry ∈ entries := by
  induction entries with
  | nil => cases member
  | cons other more ih =>
    obtain ⟨line, n⟩ := other
    cases opens : Field.ofChars? line.toList with
    | some parts =>
      rw [gatherField opens] at member
      cases member
    | none =>
      rw [gatherPlain opens] at member
      rcases List.mem_cons.mp member with same | later
      · exact same ▸ List.mem_cons_self
      · exact List.mem_cons_of_mem _ (ih later)

theorem gatherFirst {key : String} (ordered : entries.Pairwise fun a b => a.2 < b.2)
    (found : ((gather entries).2.find? fun f => f.key == key) = some f) {line : String} {n : Nat}
    (member : (line, n) ∈ entries) (before : n < f.line) {rest : List Char} :
    Field.ofChars? line.toList ≠ some (key.toList, rest) := by
  intro named
  induction entries with
  | nil => cases member
  | cons entry more ih =>
    obtain ⟨other, m⟩ := entry
    obtain ⟨after, tail⟩ := List.pairwise_cons.mp ordered
    cases opens : Field.ofChars? other.toList with
    | some parts =>
      rw [gatherField opens] at found
      by_cases same : String.ofList parts.1 = key
      · simp only [List.find?_cons, same, beq_self_eq_true, Option.some.injEq] at found
        subst found
        rcases List.mem_cons.mp member with here | later
        · cases here
          exact absurd before (Nat.lt_irrefl n)
        · have least := after _ later
          dsimp only at least before
          omega
      · simp only [List.find?_cons, beq_eq_false_iff_ne.mpr same] at found
        rcases List.mem_cons.mp member with here | later
        · cases here
          rw [opens] at named
          cases named
          exact same String.ofList_toList
        · exact ih tail found later
    | none =>
      rw [gatherPlain opens] at found
      rcases List.mem_cons.mp member with here | later
      · cases here
        rw [opens] at named
        cases named
      · exact ih tail found later

variable {text : String} {first : Nat}

theorem firstLine {key : String} (word : Field.Word key.toList) (found : (parse text first).get? key = some f) :
    Text.FirstFrom text first first (key ++ "::") f.line := by
  have named : f.key = key := by simpa using List.find?_some found
  obtain ⟨line, rest, inside, opens⟩ := gatherStands (List.mem_of_find?_eq_some found)
  rw [List.zipIdx_map, List.mem_map] at inside
  obtain ⟨⟨line, n⟩, stands, same⟩ := inside
  cases same
  have least := List.le_snd_of_mem_zipIdx stands
  refine ⟨least, ⟨line, stands, ?_⟩, fun m other _ before standing => ?_⟩
  · have shape := (Field.ofCharsIff.mp opens).1
    rw [Text.trimEnd, String.toList_ofList, named] at shape
    rw [startsWith, List.isPrefixOf_iff_prefix]
    have trimmed : key.toList ++ [':', ':'] <+: Chars.trimEnd line.toList := ⟨rest, by simp [shape]⟩
    simpa using trimmed.trans (Chars.trimEndPrefix _)
  · -- An earlier line that starts with the key would open a field of it, and that field would come first.
    by_contra starts
    have ordered : (((Text.lines text).map Text.trimEnd).zipIdx first).Pairwise fun a b => a.2 < b.2 := by
      have numbers : ((((Text.lines text).map Text.trimEnd).zipIdx first).map Prod.snd).Pairwise (· < ·) := by
        rw [List.zipIdx_map_snd]
        exact List.pairwise_lt_range'
      exact List.pairwise_map.mp numbers
    have member : (Text.trimEnd other, m) ∈ ((Text.lines text).map Text.trimEnd).zipIdx first := by
      rw [List.zipIdx_map]
      exact List.mem_map.mpr ⟨_, standing, rfl⟩
    rw [Bool.not_eq_false, startsWith, List.isPrefixOf_iff_prefix] at starts
    obtain ⟨tail, whole⟩ := starts
    have plain := Text.linesPlain (List.fst_mem_of_mem_zipIdx standing)
    have opens : Field.ofChars? (Text.trimEnd other).toList = some (key.toList, Chars.trimEnd tail) := by
      rw [Text.trimEnd, String.toList_ofList]
      exact (Field.ofCharsTrimmed plain).mpr ⟨tail, by simpa using whole.symm, word, rfl⟩
    exact gatherFirst ordered found member before opens

end FieldBlock
end Syllabus
