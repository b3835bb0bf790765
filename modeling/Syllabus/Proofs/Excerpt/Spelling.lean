import Syllabus.Proofs.Excerpt.Sought
import Syllabus.Proofs.Related

/-! Spellings of an anchor. Letters may be written in either case, quotation marks curly or straight, and blanks in runs
of any length. An article is searched for the folded text of what an anchor means, and two spellings fold to one text
where each letter has one small form in both; that of a capital sigma is not the one that ends a word. And the marks
around an anchor delimit it only as a pair, so that of two spellings the one may mean the text inside of the marks
and the other the marks too. -/
namespace Syllabus
open Text (isBlank)

namespace Anchor

def singleMarks : List Char := ['\x27', '\u2018', '\u2019']

def doubleMarks : List Char := ['"', '\u201c', '\u201d']

def curlyMarks : List Char := ['\u2018', '\u2019', '\u201c', '\u201d']

inductive Variant (c d : Char) : Prop where
  | letter (same : Text.letterOf c = Text.letterOf d)
  | single (first : c ∈ singleMarks) (second : d ∈ singleMarks)
  | double (first : c ∈ doubleMarks) (second : d ∈ doubleMarks)

instance (c d : Char) : Decidable (Variant c d) :=
  decidable_of_iff (Text.letterOf c = Text.letterOf d ∨ (c ∈ singleMarks ∧ d ∈ singleMarks) ∨
      c ∈ doubleMarks ∧ d ∈ doubleMarks)
    ⟨fun alike => alike.elim .letter fun marks => marks.elim (fun both => .single both.1 both.2) fun both =>
        .double both.1 both.2,
      fun variant => match variant with
        | .letter same => .inl same
        | .single first second => .inr (.inl ⟨first, second⟩)
        | .double first second => .inr (.inr ⟨first, second⟩)⟩

/-- Two spellings of one text: they go along character by character, each run of blanks taken as one space. -/
def Respelled (s t : List Char) : Prop := List.Forall₂ Variant (squeeze s) (squeeze t)

instance (s t : List Char) : Decidable (Respelled s t) := by
  unfold Respelled
  infer_instance

/-- Each letter has one small form in both texts. Sigma has two, one of them for the end of a word. -/
def SmallAlike (s t : List Char) : Prop :=
  List.Forall₂ (fun c d => Text.letterOf c = Text.letterOf d → Text.lowerChar c = Text.lowerChar d) (squeeze s) (squeeze t)

instance (s t : List Char) : Decidable (SmallAlike s t) := by
  unfold SmallAlike
  infer_instance

def Enclosed (s : List Char) : Prop :=
  ∃ inside, Chars.trim s = '"' :: inside ++ ['"'] ∨ Chars.trim s = '\u201c' :: inside ++ ['\u201d']

theorem enclosedIff {s : List Char} : Enclosed s ↔ (unquoted? (Chars.trim s)).isSome = true := by
  unfold unquoted?
  rw [Option.isSome_or, Bool.or_eq_true, Option.isSome_iff_exists, Option.isSome_iff_exists]
  simp only [Chars.betweenIff]
  exact exists_or

instance (s : List Char) : Decidable (Enclosed s) := decidable_of_iff _ enclosedIff.symm

end Anchor

namespace ExcerptRequest

structure Respelled (request request' : ExcerptRequest) : Prop where
  start : Option.Rel (fun s t => Anchor.Respelled s.toList t.toList) request.start request'.start
  stop : Option.Rel (fun s t => Anchor.Respelled s.toList t.toList) request.stop request'.stop

structure EnclosedAlike (request request' : ExcerptRequest) : Prop where
  start : (∃ s ∈ request.start, Anchor.Enclosed s.toList) ↔ ∃ t ∈ request'.start, Anchor.Enclosed t.toList
  stop : (∃ s ∈ request.stop, Anchor.Enclosed s.toList) ↔ ∃ t ∈ request'.stop, Anchor.Enclosed t.toList

structure SmallAlike (request request' : ExcerptRequest) : Prop where
  start : Option.Rel (fun s t => Anchor.SmallAlike s.toList t.toList) request.start request'.start
  stop : Option.Rel (fun s t => Anchor.SmallAlike s.toList t.toList) request.stop request'.stop

end ExcerptRequest

namespace Anchor

theorem eachSingle {P : Char → Prop} : (∀ c ∈ singleMarks, P c) ↔ P '\x27' ∧ P '\u2018' ∧ P '\u2019' := by
  simp [singleMarks]

theorem eachDouble {P : Char → Prop} : (∀ c ∈ doubleMarks, P c) ↔ P '"' ∧ P '\u201c' ∧ P '\u201d' := by
  simp [doubleMarks]

theorem curlyAlone {c d : Char} (curly : c ∈ curlyMarks) (same : Text.letterOf c = Text.letterOf d) : c = d := by
  simp only [curlyMarks, List.mem_cons, List.not_mem_nil, or_false] at curly
  rcases curly with rfl | rfl | rfl | rfl <;>
    exact Text.letterAlone (by decide) (Text.lettersApartEach (by decide +kernel)) same

theorem straightPlain {c : Char} (plain : c ∉ curlyMarks) : straight c = c := by
  simp only [curlyMarks, List.mem_cons, List.not_mem_nil, or_false, not_or] at plain
  simp [straight, plain]

theorem markFolded : ∀ c ∈ doubleMarks, foldChar c = ['"'] := eachDouble.mpr (by decide)

theorem markSolid : ∀ c ∈ doubleMarks, isBlank c = false := eachDouble.mpr (by decide)

theorem singleFolded : ∀ c ∈ singleMarks, foldChar c = ['\x27'] := eachSingle.mpr (by decide)

theorem singleSolid : ∀ c ∈ singleMarks, isBlank c = false := eachSingle.mpr (by decide)

theorem Variant.symm {c d : Char} (variant : Variant c d) : Variant d c := by
  cases variant with
  | letter same => exact .letter same.symm
  | single first second => exact .single second first
  | double first second => exact .double second first

theorem letterFolds {c d : Char} (same : Text.letterOf c = Text.letterOf d) :
    c = d ∨ foldChar c = Text.lowerChar c ∧ foldChar d = Text.lowerChar d := by
  by_cases curly : c ∈ curlyMarks
  · exact .inl (curlyAlone curly same)
  by_cases curly' : d ∈ curlyMarks
  · exact .inl (curlyAlone curly' same.symm).symm
  · exact .inr ⟨by rw [foldChar, straightPlain curly], by rw [foldChar, straightPlain curly']⟩

theorem Variant.foldsIff {c d : Char} (variant : Variant c d) :
    (Text.letterOf c = Text.letterOf d → Text.lowerChar c = Text.lowerChar d) ↔ foldChar c = foldChar d := by
  by_cases same : Text.letterOf c = Text.letterOf d
  · rcases letterFolds same with rfl | ⟨first, second⟩
    · exact iff_of_true (fun _ => rfl) rfl
    · rw [first, second]
      exact ⟨fun small => small same, fun small _ => small⟩
  · refine iff_of_true (fun alike => absurd alike same) ?_
    cases variant with
    | letter alike => exact absurd alike same
    | single first second => rw [singleFolded c first, singleFolded d second]
    | double first second => rw [markFolded c first, markFolded d second]

theorem Variant.length {c d : Char} (variant : Variant c d) : (foldChar c).length = (foldChar d).length := by
  cases variant with
  | letter same =>
    rcases letterFolds same with rfl | ⟨first, second⟩
    · rfl
    · rw [first, second]
      exact Text.letterLength same
  | single first second => rw [singleFolded c first, singleFolded d second]
  | double first second => rw [markFolded c first, markFolded d second]

theorem Variant.blank {c d : Char} (variant : Variant c d) : isBlank c = isBlank d := by
  cases variant with
  | letter same =>
    by_cases first : isBlank c = true
    · rw [Text.letterBlank first same]
    by_cases second : isBlank d = true
    · rw [Text.letterBlank second same.symm]
    rw [Bool.not_eq_true] at first second
    rw [first, second]
  | single first second => rw [singleSolid c first, singleSolid d second]
  | double first second => rw [markSolid c first, markSolid d second]

theorem Variant.blankFolds {c d : Char} (variant : Variant c d) (blank : isBlank c = true) : foldChar c = foldChar d := by
  cases variant with
  | letter same => rw [Text.letterBlank blank same]
  | single first => exact absurd (singleSolid c first) (by simp [blank])
  | double first => exact absurd (markSolid c first) (by simp [blank])

end Anchor

namespace Chars

variable {R : Char → Char → Prop} {s t : List Char}

theorem trimEndRelated (blanks : ∀ {c d}, R c d → isBlank c = isBlank d) (related : List.Forall₂ R s t) :
    List.Forall₂ R (trimEnd s) (trimEnd t) := by
  induction related with
  | nil => exact .nil
  | @cons c d rest rest' here _ ih =>
    rw [trimEndCons, trimEndCons, blanks here]
    revert ih
    generalize trimEnd rest = kept
    generalize trimEnd rest' = kept'
    intro ih
    cases ih with
    | nil =>
      cases isBlank d with
      | false => exact .cons here .nil
      | true => exact .nil
    | cons first later => exact .cons here (.cons first later)

theorem trimRelated (blanks : ∀ {c d}, R c d → isBlank c = isBlank d) (related : List.Forall₂ R s t) :
    List.Forall₂ R (trim s) (trim t) := by
  refine trimEndRelated blanks ?_
  induction related with
  | nil => exact .nil
  | @cons c d rest rest' here more ih =>
    have same := blanks here
    cases blank : isBlank d with
    | false => simpa [trimStart, blank, same] using ⟨here, more⟩
    | true => simpa [trimStart, blank, same] using ih

variable {P : Char → Char → Prop}

theorem trimEndRelatedBack (blanks : ∀ {c d}, R c d → isBlank c = isBlank d) (free : ∀ {c d}, R c d → isBlank c = true → P c d)
    (related : List.Forall₂ R s t) (inner : List.Forall₂ P (trimEnd s) (trimEnd t)) : List.Forall₂ P s t := by
  induction related with
  | nil => exact .nil
  | @cons c d rest rest' here more ih =>
    have kept := trimEndRelated blanks more
    rw [trimEndCons, trimEndCons] at inner
    revert kept ih inner
    generalize trimEnd rest = kept
    generalize trimEnd rest' = kept'
    intro ih inner kept
    cases kept with
    | nil =>
      refine .cons ?_ (ih .nil)
      cases blank : isBlank c with
      | true => exact free here blank
      | false =>
        rw [← blanks here, blank] at inner
        exact (List.forall₂_cons.mp inner).1
    | cons =>
      have both := List.forall₂_cons.mp inner
      exact .cons both.1 (ih both.2)

theorem trimRelatedBack (blanks : ∀ {c d}, R c d → isBlank c = isBlank d) (free : ∀ {c d}, R c d → isBlank c = true → P c d)
    (related : List.Forall₂ R s t) (inner : List.Forall₂ P (trim s) (trim t)) : List.Forall₂ P s t := by
  induction related with
  | nil => exact .nil
  | @cons c d rest rest' here more ih =>
    have same := blanks here
    cases blank : isBlank c with
    | true =>
      refine .cons (free here blank) (ih ?_)
      simpa [trim, trimStart, ← same, blank] using inner
    | false =>
      refine trimEndRelatedBack blanks free (.cons here more) ?_
      simpa [trim, trimStart, ← same, blank] using inner

end Chars

namespace Anchor

variable {s t : List Char}

theorem foldedFlat (s : List Char) : folded s = (squeeze s).flatMap foldChar := by
  rw [folded, List.flatMap_map]
  rfl

theorem Respelled.symm (respelled : Respelled s t) : Respelled t s :=
  List.Forall₂.flip (respelled.imp fun _ _ variant => variant.symm)

theorem Respelled.length (respelled : Respelled s t) : (folded s).length = (folded t).length := by
  rw [foldedFlat, foldedFlat, List.length_flatMap, List.length_flatMap]
  exact congrArg List.sum (mapRelated respelled fun _ _ variant => variant.length)

theorem Respelled.foldedIff (respelled : Respelled s t) : folded s = folded t ↔ SmallAlike s t := by
  rw [foldedFlat, foldedFlat, flatMapRelatedIff respelled fun _ _ variant => variant.length, SmallAlike]
  exact ⟨List.Forall₂.mp (fun _ _ variant => variant.foldsIff.mpr) respelled,
    List.Forall₂.mp (fun _ _ variant => variant.foldsIff.mp) respelled⟩

theorem Respelled.trim (respelled : Respelled s t) : Respelled (Chars.trim s) (Chars.trim t) := by
  rw [Respelled, squeezeTrim, squeezeTrim]
  exact Chars.trimRelated Variant.blank respelled

theorem Respelled.foldedTrim (respelled : Respelled s t) :
    folded (Chars.trim s) = folded (Chars.trim t) ↔ folded s = folded t := by
  have trimmed := respelled.trim
  rw [Respelled, squeezeTrim, squeezeTrim] at trimmed
  rw [foldedFlat, foldedFlat, foldedFlat, foldedFlat, squeezeTrim, squeezeTrim,
    flatMapRelatedIff trimmed fun _ _ variant => variant.length,
    flatMapRelatedIff respelled fun _ _ variant => variant.length]
  constructor
  · exact Chars.trimRelatedBack Variant.blank Variant.blankFolds respelled
  · intro alike
    have both : List.Forall₂ (fun c d => Variant c d ∧ foldChar c = foldChar d) (squeeze s) (squeeze t) :=
      List.Forall₂.mp (fun _ _ => And.intro) respelled alike
    exact (Chars.trimRelated (fun both => both.1.blank) both).imp fun _ _ both => both.2

theorem plainEnclosed (enclosed : Enclosed s) : ∃ first inside last,
    first ∈ doubleMarks ∧ last ∈ doubleMarks ∧ Chars.trim s = first :: inside ++ [last] ∧ plain s = Chars.trim inside := by
  generalize same : plain s = meant
  have means := plainMeant s
  rw [same] at means
  cases means with
  | @straight inside whole => exact ⟨_, inside, _, by decide, by decide, whole, rfl⟩
  | @curly inside whole => exact ⟨_, inside, _, by decide, by decide, whole, rfl⟩
  | bare noStraight noCurly =>
    obtain ⟨inside, whole⟩ := enclosed
    cases whole with
    | inl straight => exact absurd straight (noStraight inside)
    | inr curly => exact absurd curly (noCurly inside)

theorem plainBare (bare : ¬Enclosed s) : plain s = Chars.trim s := by
  generalize same : plain s = meant
  have means := plainMeant s
  rw [same] at means
  cases means with
  | straight whole => exact absurd ⟨_, .inl whole⟩ bare
  | curly whole => exact absurd ⟨_, .inr whole⟩ bare
  | bare => rfl

theorem squeezeEnclosed {first last : Char} (marks : first ∈ doubleMarks ∧ last ∈ doubleMarks) (inside : List Char) :
    squeeze (first :: inside ++ [last]) = first :: squeeze inside ++ [last] := by
  rw [squeezeSnoc (markSolid last marks.2), squeezeSolid (markSolid first marks.1)]

theorem foldedEnclosed {first last : Char} (marks : first ∈ doubleMarks ∧ last ∈ doubleMarks) (inside : List Char) :
    folded (first :: inside ++ [last]) = '"' :: folded inside ++ ['"'] := by
  rw [foldedSnoc (markSolid last marks.2), foldedSolid (markSolid first marks.1), markFolded first marks.1,
    markFolded last marks.2]
  rfl

theorem foldedTrimLength (s : List Char) : (folded (Chars.trim s)).length ≤ (folded s).length := by
  obtain ⟨tail, whole, _⟩ := Chars.trimSplit (squeeze s)
  have parts := congrArg (fun text => (text.flatMap foldChar).length) whole
  simp only [List.flatMap_append, List.length_append] at parts
  rw [foldedFlat, foldedFlat, squeezeTrim, parts]
  omega

theorem Respelled.insides {first last first' last' : Char} {inside inside' : List Char}
    (marks : first ∈ doubleMarks ∧ last ∈ doubleMarks) (marks' : first' ∈ doubleMarks ∧ last' ∈ doubleMarks)
    (respelled : Respelled (first :: inside ++ [last]) (first' :: inside' ++ [last'])) : Respelled inside inside' := by
  rw [Respelled, squeezeEnclosed marks, squeezeEnclosed marks'] at respelled
  exact relatedInside respelled

theorem plainLonger (respelled : Respelled s t) (enclosed : Enclosed s) (bare : ¬Enclosed t) :
    (folded (plain s)).length < (folded (plain t)).length := by
  obtain ⟨first, inside, last, opens, closes, whole, meant⟩ := plainEnclosed enclosed
  have shorter := foldedTrimLength inside
  rw [plainBare bare, ← respelled.trim.length, whole, foldedEnclosed ⟨opens, closes⟩, meant]
  simp only [List.length_append, List.length_cons, List.length_nil]
  omega

theorem plainEither (respelled : Respelled s t) (alike : Enclosed s ↔ Enclosed t) :
    folded (plain s) = folded (plain t) ↔ folded s = folded t := by
  rw [← respelled.foldedTrim]
  by_cases enclosed : Enclosed s
  · obtain ⟨first, inside, last, opens, closes, whole, meant⟩ := plainEnclosed enclosed
    obtain ⟨first', inside', last', opens', closes', whole', meant'⟩ := plainEnclosed (alike.mp enclosed)
    have trimmed := respelled.trim
    rw [whole, whole'] at trimmed
    have insides := trimmed.insides ⟨opens, closes⟩ ⟨opens', closes'⟩
    rw [whole, whole', meant, meant', foldedEnclosed ⟨opens, closes⟩, foldedEnclosed ⟨opens', closes'⟩, insides.foldedTrim]
    simp
  · rw [plainBare enclosed, plainBare fun other => enclosed (alike.mpr other)]

theorem plainFolded (respelled : Respelled s t) :
    folded (plain s) = folded (plain t) ↔ (Enclosed s ↔ Enclosed t) ∧ SmallAlike s t := by
  rw [← respelled.foldedIff]
  constructor
  · intro same
    have alike : Enclosed s ↔ Enclosed t := by
      constructor
      · intro enclosed
        by_contra bare
        exact absurd (plainLonger respelled enclosed bare) (by rw [same]; exact Nat.lt_irrefl _)
      · intro enclosed
        by_contra bare
        exact absurd (plainLonger respelled.symm enclosed bare) (by rw [same]; exact Nat.lt_irrefl _)
    exact ⟨alike, (plainEither respelled alike).mp same⟩
  · rintro ⟨alike, same⟩
    exact (plainEither respelled alike).mpr same

theorem soughtSome (s : String) :
    sought (some s) = if folded (plain s.toList) = [] then none else some (folded (plain s.toList)) := by
  by_cases blank : plain s.toList = []
  · simp [sought, given?, Option.filter, blank, folded, squeeze]
  · have filled : folded (plain s.toList) ≠ [] := List.ne_nil_of_length_pos (foldedFilled blank)
    simp [sought, given?, Option.filter, blank, filled]

theorem soughtRespelled {s t : String} (respelled : Respelled s.toList t.toList) :
    sought (some s) = sought (some t) ↔ (Enclosed s.toList ↔ Enclosed t.toList) ∧ SmallAlike s.toList t.toList := by
  rw [← plainFolded respelled, soughtSome, soughtSome]
  constructor
  · intro same
    split at same <;> split at same <;> simp_all
  · intro same
    rw [same]

end Anchor

namespace ArticleExcerpt
open Anchor (folded sites sought Solid given?)

theorem soughtAlike {s t : Option String} (respelled : Option.Rel (fun s t => Anchor.Respelled s.toList t.toList) s t) :
    sought s = sought t ↔ ((∃ a ∈ s, Anchor.Enclosed a.toList) ↔ ∃ b ∈ t, Anchor.Enclosed b.toList) ∧
      Option.Rel (fun s t => Anchor.SmallAlike s.toList t.toList) s t := by
  cases respelled with
  | none => simp
  | some alike => simpa using Anchor.soughtRespelled alike

theorem spellingsAgree {request request' : ExcerptRequest} (respelled : request.Respelled request') :
    (request.EnclosedAlike request' → request.SmallAlike request' →
      ∀ body, SameOutcome (extract body request) (extract body request')) ∧
    (request.start = none ∨ request.stop = none →
      (∀ body, SameOutcome (extract body request) (extract body request')) →
        request.EnclosedAlike request' ∧ request.SmallAlike request') := by
  obtain ⟨start, stop⟩ := request
  obtain ⟨start', stop'⟩ := request'
  obtain ⟨starts, stops⟩ := respelled
  constructor
  · intro alike small
    exact extractAlike ((soughtAlike starts).mpr ⟨alike.start, small.start⟩)
      ((soughtAlike stops).mpr ⟨alike.stop, small.stop⟩)
  · intro single same
    cases single with
    | inl none =>
      cases none
      cases starts
      have found := (soughtAlike stops).mp (stopSought same)
      exact ⟨⟨Iff.rfl, found.1⟩, ⟨.none, found.2⟩⟩
    | inr none =>
      cases none
      cases stops
      have found := (soughtAlike starts).mp (startSought same)
      exact ⟨⟨found.1, Iff.rfl⟩, ⟨found.2, .none⟩⟩

theorem curlySpellingAgrees :
    let request : ExcerptRequest := ⟨some "\"STOP\"", some "and  left."⟩
    let request' : ExcerptRequest := ⟨some "\u201cstop\u201d", some "And Left."⟩
    request.Respelled request' ∧ request.EnclosedAlike request' ∧ request.SmallAlike request' ∧
      extract "He said \"stop\" and left." request = .ok ⟨"stop\" and left.", 9, 24⟩ ∧
      SameOutcome (extract "He said \"stop\" and left." request) (extract "He said \"stop\" and left." request') := by
  have respelled : ExcerptRequest.Respelled ⟨some "\"STOP\"", some "and  left."⟩
      ⟨some "\u201cstop\u201d", some "And Left."⟩ :=
    ⟨.some (by decide +kernel), .some (by decide +kernel)⟩
  have enclosed : ExcerptRequest.EnclosedAlike ⟨some "\"STOP\"", some "and  left."⟩
      ⟨some "\u201cstop\u201d", some "And Left."⟩ := by
    constructor <;> decide +kernel
  have small : ExcerptRequest.SmallAlike ⟨some "\"STOP\"", some "and  left."⟩
      ⟨some "\u201cstop\u201d", some "And Left."⟩ :=
    ⟨.some (by decide +kernel), .some (by decide +kernel)⟩
  exact ⟨respelled, enclosed, small, by decide +kernel, (spellingsAgree respelled).1 enclosed small _⟩

theorem unpairedMarksKept :
    let request : ExcerptRequest := ⟨some "\"stop\"", none⟩
    let request' : ExcerptRequest := ⟨some "\"stop\u201d", none⟩
    request.Respelled request' ∧
      extract "He said \"stop\" and left." request = .ok ⟨"stop\" and left.", 9, 24⟩ ∧
      extract "He said \"stop\" and left." request' = .ok ⟨"\"stop\" and left.", 8, 24⟩ ∧
      ¬SameOutcome (extract "He said \"stop\" and left." request) (extract "He said \"stop\" and left." request') := by
  have paired : extract "He said \"stop\" and left." ⟨some "\"stop\"", none⟩ = .ok ⟨"stop\" and left.", 9, 24⟩ := by
    decide +kernel
  have unpaired : extract "He said \"stop\" and left." ⟨some "\"stop\u201d", none⟩ =
      .ok ⟨"\"stop\" and left.", 8, 24⟩ := by
    decide +kernel
  refine ⟨⟨.some (by decide +kernel), .none⟩, paired, unpaired, fun same => ?_⟩
  rw [paired, unpaired] at same
  exact absurd same.only (by decide)

theorem finalSigmaMissed :
    let request : ExcerptRequest := ⟨some "ΟΔΟΣ", none⟩
    let request' : ExcerptRequest := ⟨some "οδος", none⟩
    request.Respelled request' ∧ request.EnclosedAlike request' ∧ Text.lower "ΟΔΟΣ" = "οδος" ∧
      extract "Η οδος εδώ." request = .error (.anchorNotFound "ΟΔΟΣ") ∧
      extract "Η οδος εδώ." request' = .ok ⟨"οδος εδώ.", 2, 11⟩ ∧
      ¬SameOutcome (extract "Η οδος εδώ." request) (extract "Η οδος εδώ." request') := by
  have capitals : extract "Η οδος εδώ." ⟨some "ΟΔΟΣ", none⟩ = .error (.anchorNotFound "ΟΔΟΣ") := by
    decide +kernel
  have small : extract "Η οδος εδώ." ⟨some "οδος", none⟩ = .ok ⟨"οδος εδώ.", 2, 11⟩ := by
    decide +kernel
  refine ⟨⟨.some (by decide +kernel), .none⟩, by constructor <;> decide +kernel, by decide +kernel, capitals, small,
    fun same => ?_⟩
  rw [capitals, small] at same
  cases same

end ArticleExcerpt

end Syllabus
