import Syllabus.Problem
import Syllabus.Proofs.Text

/-! Which errors suggest what was meant. Two kinds of errors name something that is not there and may tell what
comes near to it: a heading that names no part, and a link that leads to no file. Their messages show them, as no
other error is worded like them. -/
namespace Syllabus

def guesses (message : String) : Bool :=
  (Text.startsWith "Unknown " message || Text.startsWith "Referenced file not found: " message) &&
    Text.endsWith "'" message

def Diagnostic.unlikened (d : Diagnostic) : Diagnostic :=
  if guesses d.message then { d with suggestion := none } else d

namespace Diagnostic

theorem unlikenedEq (d : Diagnostic) : d.unlikened =
    ⟨d.file, d.line, d.message, if guesses d.message then none else d.suggestion, d.severity⟩ := by
  unfold unlikened
  split <;> rfl

@[simp] theorem unlikenedError (d : Diagnostic) : d.unlikened.isError = d.isError := by
  rw [unlikenedEq]
  rfl

def severe (ds : List Diagnostic) : List Diagnostic := (ds.filter isError).map unlikened

theorem severeEq (ds : List Diagnostic) : severe ds = (ds.map unlikened).filter isError := by
  rw [severe, List.filter_map]
  simp [Function.comp_def]

theorem severeAppend (ds es : List Diagnostic) : severe (ds ++ es) = severe ds ++ severe es := by
  rw [severe, List.filter_append, List.map_append, severe, severe]

end Diagnostic

theorem otherwiseWorded {message : String} (unknown : Text.startsWith "Unknown " message = false)
    (referenced : Text.startsWith "Referenced file not found: " message = false) : guesses message = false := by
  rw [guesses, unknown, referenced]
  rfl

theorem otherwiseHeaded {message : String} {c : Char} (head : message.toList.head? = some c) (unknown : c ≠ 'U')
    (referenced : c ≠ 'R') : guesses message = false := by
  rw [List.head?_eq_getElem?] at head
  exact otherwiseWorded (Text.notStarts (i := 0) rfl head unknown.symm) (Text.notStarts (i := 0) rfl head referenced.symm)

theorem otherwiseEnded {before : String} {tail : String} {c : Char} (last : tail.toList.getLast? = some c) (other : c ≠ '\'') :
    guesses (before ++ tail) = false := by
  have ends : Text.endsWith "'" (before ++ tail) = false := by
    refine Bool.eq_false_iff.mpr fun ends => ?_
    obtain ⟨rest, whole⟩ := List.isSuffixOf_iff_suffix.mp ends
    have letters := congrArg List.getLast? whole
    rw [String.toList_append, List.getLast?_append, List.getLast?_append, last] at letters
    exact other (Option.some.inj letters).symm
  rw [guesses, ends, Bool.and_false]

theorem unknownGuesses (what heading : String) : guesses ("Unknown " ++ what ++ " type '" ++ heading ++ "'") = true := by
  have starts : Text.startsWith "Unknown " ("Unknown " ++ what ++ " type '" ++ heading ++ "'") = true :=
    Text.startsWithMore (Text.startsWithMore (Text.startsWithMore (Text.startsWithAppend ..) _) _) _
  rw [guesses, starts, Text.endsWithAppend]
  rfl

theorem referencedGuesses (target : String) : guesses ("Referenced file not found: '" ++ target ++ "'") = true := by
  have grouped : "Referenced file not found: '" = "Referenced file not found: " ++ "'" := by decide
  have starts : Text.startsWith "Referenced file not found: " ("Referenced file not found: '" ++ target ++ "'") = true := by
    rw [grouped]
    exact Text.startsWithMore (Text.startsWithMore (Text.startsWithAppend ..) _) _
  rw [guesses, starts, Text.endsWithAppend, Bool.or_true]
  rfl

theorem unknownOnce {what what' heading heading' : String} (known : what = "section" ∨ what = "segment")
    (known' : what' = "section" ∨ what' = "segment")
    (same : "Unknown " ++ what ++ " type '" ++ heading ++ "'" = "Unknown " ++ what' ++ " type '" ++ heading' ++ "'") :
    what = what' ∧ heading = heading' := by
  have letter (word : String) {c : Char} (tenth : ("Unknown " ++ word).toList[10]? = some c) (heading : String) :
      ("Unknown " ++ word ++ " type '" ++ heading ++ "'").toList[10]? = some c :=
    Text.letterOfAppend (Text.letterOfAppend (Text.letterOfAppend tenth))
  have apart (heading heading' : String) : "Unknown " ++ "section" ++ " type '" ++ heading ++ "'" ≠
      "Unknown " ++ "segment" ++ " type '" ++ heading' ++ "'" := by
    intro same
    have left := letter "section" (c := 'c') (by decide) heading
    rw [same, letter "segment" (c := 'g') (by decide) heading'] at left
    exact absurd (Option.some.inj left) (by decide)
  have words : what = what' := by
    rcases known with rfl | rfl <;> rcases known' with rfl | rfl
    · rfl
    · exact (apart heading heading' same).elim
    · exact (apart heading' heading same.symm).elim
    · rfl
  subst words
  rw [String.append_left_inj, String.append_right_inj] at same
  exact ⟨rfl, same⟩

theorem referencedOnce {target target' : String}
    (same : "Referenced file not found: '" ++ target ++ "'" = "Referenced file not found: '" ++ target' ++ "'") :
    target = target' := by
  rwa [String.append_left_inj, String.append_right_inj] at same

theorem FrontmatterError.plain (cause : FrontmatterError) : guesses cause.message = false := by
  cases cause with
  | unclosed =>
    -- Here the third letter tells.
    exact otherwiseWorded (Text.notStarts (i := 2) (a := 'k') (b := 'c') rfl rfl (by decide))
      (Text.notStarts (i := 0) (a := 'R') (b := 'U') rfl rfl (by decide))
  | missing => exact otherwiseHeaded (c := 'M') rfl (by decide) (by decide)
  | invalidYaml => exact otherwiseHeaded (c := 'I') (Text.headOfAppend rfl) (by decide) (by decide)
  | notMapping => exact otherwiseHeaded (c := 'I') rfl (by decide) (by decide)

theorem WikiLinkError.plain (cause : WikiLinkError) : guesses cause.message = false := by
  open Text in
  cases cause with
  | missingBracket => exact otherwiseHeaded (c := 'M') (headOfAppend (headOfAppend rfl)) (by decide) (by decide)
  | empty => exact otherwiseHeaded (c := 'E') rfl (by decide) (by decide)
  | pathTraversal => exact otherwiseHeaded (c := 'P') (headOfAppend (headOfAppend rfl)) (by decide) (by decide)

theorem Problem.plain {p : Problem} (severe : p.severity = .error)
    (known : ∀ what heading nearest expected, p ≠ .unknownHeading what heading nearest expected) :
    guesses p.message = false := by
  open Text in
  cases p with
  | unknownHeading what heading nearest expected => exact (known what heading nearest expected rfl).elim
  | frontmatter cause => exact cause.plain
  | link cause => exact cause.plain
  | forbiddenSegment => exact otherwiseEnded (c := 's') rfl (by decide)
  | missingField =>
    exact otherwiseHeaded (c := 'M') (headOfAppend (headOfAppend (headOfAppend rfl))) (by decide) (by decide)
  | emptyField =>
    exact otherwiseHeaded (c := 'F') (headOfAppend (headOfAppend (headOfAppend rfl))) (by decide) (by decide)
  | notBoolean =>
    exact otherwiseHeaded (c := 'F') (headOfAppend (headOfAppend (headOfAppend (headOfAppend rfl)))) (by decide) (by decide)
  | slug => exact otherwiseHeaded (c := 'I') (headOfAppend (headOfAppend rfl)) (by decide) (by decide)
  | uuid =>
    exact otherwiseHeaded (c := 'I') (headOfAppend (headOfAppend (headOfAppend (headOfAppend rfl)))) (by decide) (by decide)
  | uuidNotText =>
    exact otherwiseHeaded (c := 'F') (headOfAppend (headOfAppend (headOfAppend (headOfAppend rfl)))) (by decide) (by decide)
  | noModuleLink => exact otherwiseHeaded (c := 'M') rfl (by decide) (by decide)
  | noLenses => exact otherwiseHeaded (c := 'L') rfl (by decide) (by decide)
  | noLensSections => exact otherwiseHeaded (c := 'L') rfl (by decide) (by decide)
  | wikiEmbed => exact otherwiseHeaded (c := 'W') (headOfAppend (headOfAppend rfl)) (by decide) (by decide)
  | _ => cases severe

end Syllabus
