import Mathlib.Data.List.Basic
import Syllabus.Text.CaseFold
import Syllabus.Text.Basic

/-! Words of the ASCII alphabet in small letters. Unicode has two more capitals whose small letters begin with one
of ASCII, the dotted I and the sign of Kelvin. A word without these two letters is the small form of a text
when the text spells it in small and capital ASCII letters, as a test without regard to case would have it.
Blanks and quotation marks have no case. Case folding leads the forms of one letter to one character: most letters
have one small form, sigma and a few others have two. -/
namespace Syllabus.Text

structure Plain (a : Char) : Prop where
  small : 'a' ≤ a ∧ a ≤ 'z'
  dotless : a ≠ 'i'
  metric : a ≠ 'k'

instance (a : Char) : Decidable (Plain a) :=
  decidable_of_iff (('a' ≤ a ∧ a ≤ 'z') ∧ a ≠ 'i' ∧ a ≠ 'k')
    ⟨fun ⟨small, dotless, metric⟩ => ⟨small, dotless, metric⟩, fun plain => ⟨plain.small, plain.dotless, plain.metric⟩⟩

theorem Plain.code {a : Char} (plain : Plain a) : 97 ≤ a.toNat ∧ a.toNat ≤ 122 := plain.small

theorem truePlain : ∀ a ∈ "true".toList, Plain a := by
  intro a member
  simp only [String.reduceToList, List.mem_cons, List.not_mem_nil, or_false] at member
  rcases member with rfl | rfl | rfl | rfl <;> decide

theorem falsePlain : ∀ a ∈ "false".toList, Plain a := by
  intro a member
  simp only [String.reduceToList, List.mem_cons, List.not_mem_nil, or_false] at member
  rcases member with rfl | rfl | rfl | rfl | rfl <;> decide

theorem lowerAscii : ∀ n < 128, lowerChar (Char.ofNat n) = [(Char.ofNat n).toLower] := by decide +kernel

theorem lowerOutside {c : Char} (outside : 0x80 ≤ c.toNat) : c.toLower = c := by
  unfold Char.toLower
  rw [dif_neg]
  intro upper
  have high : c.toNat ≤ 90 := upper.2
  omega

theorem codeOfNat (n : Nat) : (Char.ofNat n).toNat = n ∨ (Char.ofNat n).toNat = 0 := by
  by_cases valid : n.isValidChar
  · left
    rw [Char.ofNat, dif_pos valid]
    rfl
  · right
    rw [Char.ofNat, dif_neg valid]
    rfl

theorem runsOutside : ∀ run ∈ caseRuns, run.last < 0x80 ∨ run.first = 0x212A ∧ run.last = 0x212A ∧ run.shift = -8383 ∨
    0x80 ≤ run.first + run.shift := by decide +kernel

theorem runHolds {runs : List CaseRun} {code : Nat} {run : CaseRun}
    (found : (runs.find? fun run => run.first ≤ code && code ≤ run.last && (code - run.first) % run.step == 0) = some run) :
    run ∈ runs ∧ run.first ≤ code ∧ code ≤ run.last := by
  have inside := List.find?_some found
  simp only [Bool.and_eq_true, decide_eq_true_eq] at inside
  exact ⟨List.mem_of_find?_eq_some found, inside.1⟩

theorem runLeads {c : Char} {run : CaseRun} (outside : 0x80 ≤ c.toNat) (found : lowerRun? c.toNat = some run) :
    let small := Char.ofNat (c.toNat + run.shift).toNat
    small = 'k' ∨ small.toNat = 0 ∨ 0x80 ≤ small.toNat := by
  obtain ⟨among, above, below⟩ := runHolds found
  rcases runsOutside run among with ascii | ⟨first, last, shift⟩ | leads
  · omega
  · have kelvin : c.toNat = 0x212A := by omega
    rw [kelvin, shift]
    exact .inl rfl
  · cases codeOfNat (c.toNat + run.shift).toNat with
    | inl code => exact .inr (.inr (by omega))
    | inr none => exact .inr (.inl none)

theorem runNotPlain {c a : Char} {run : CaseRun} (plain : Plain a) (outside : 0x80 ≤ c.toNat)
    (found : lowerRun? c.toNat = some run) : Char.ofNat (c.toNat + run.shift).toNat ≠ a := by
  rintro rfl
  have code := plain.code
  rcases runLeads outside found with kelvin | none | beyond
  · exact plain.metric kelvin
  · omega
  · omega

inductive Lowered (c : Char) : List Char → Prop where
  | dotted : c = '\u0130' → Lowered c ['i', '\u0307']
  | ascii (code : c.toNat < 0x80) : Lowered c [c.toLower]
  | led {run} (outside : 0x80 ≤ c.toNat) (found : lowerRun? c.toNat = some run) :
      Lowered c [Char.ofNat (c.toNat + run.shift).toNat]
  | alone (outside : 0x80 ≤ c.toNat) : Lowered c [c]

theorem lowered (c : Char) : Lowered c (lowerChar c) := by
  by_cases ascii : c.toNat < 0x80
  · have small := lowerAscii c.toNat ascii
    rw [Char.ofNat_toNat] at small
    rw [small]
    exact .ascii ascii
  · have outside : 0x80 ≤ c.toNat := by omega
    unfold lowerChar
    split
    · rename_i dotted
      exact .dotted dotted
    · split
      · rename_i run found
        exact .led outside found
      · exact .alone outside

theorem lowerCharPlain {c a : Char} (plain : Plain a) : lowerChar c = [a] ↔ c.toLower = a := by
  have code := plain.code
  have shape := lowered c
  generalize lowerChar c = small at shape
  cases shape with
  | dotted same =>
    rw [same]
    exact iff_of_false (by simp) (fun small => by rw [← small] at code; revert code; decide)
  | ascii => simp
  | led outside found =>
    rw [lowerOutside outside]
    refine iff_of_false (by simpa using runNotPlain plain outside found) ?_
    rintro rfl
    omega
  | alone outside => simp [lowerOutside outside]

theorem lowerCharFilled (c : Char) : ∃ first more, lowerChar c = first :: more ∧ (more ≠ [] → first = 'i') := by
  have shape := lowered c
  generalize lowerChar c = small at shape
  cases shape with
  | dotted => exact ⟨'i', ['\u0307'], rfl, fun _ => rfl⟩
  | ascii => exact ⟨_, [], rfl, fun filled => absurd rfl filled⟩
  | led => exact ⟨_, [], rfl, fun filled => absurd rfl filled⟩
  | alone => exact ⟨_, [], rfl, fun filled => absurd rfl filled⟩

theorem lowerAfterPlain {word : List Char} (plain : ∀ a ∈ word, Plain a) (before s : List Char) :
    lowerAfter before s = word ↔ s.map Char.toLower = word := by
  -- The word goes along with the text: a plain letter comes of one character, and the one character that
  -- goes to two begins with a dotted letter.
  induction s generalizing before word with
  | nil => rfl
  | cons c rest ih =>
    rw [lowerAfter, List.map_cons]
    cases word with
    | nil =>
      obtain ⟨first, more, chars, _⟩ := lowerCharFilled c
      split <;> simp [chars]
    | cons a word =>
      have here := plain a List.mem_cons_self
      have later := ih (fun b member => plain b (List.mem_cons_of_mem _ member)) (c :: before)
      rw [List.cons_eq_cons, ← later]
      split
      · rename_i sigma
        subst sigma
        have code := here.code
        refine iff_of_false ?_ ?_
        · intro same
          split at same <;> cases same <;> revert code <;> decide
        · intro same
          rw [← same.1] at code
          revert code
          decide
      · rw [← lowerCharPlain here]
        obtain ⟨first, more, chars, dotted⟩ := lowerCharFilled c
        rw [chars, List.cons_append, List.cons_eq_cons]
        cases more with
        | nil => simp
        | cons d more =>
          have dot : first ≠ a := by
            rw [dotted (by simp)]
            exact here.dotless.symm
          simp [dot]

def Spells (word s : String) : Prop := (trim s).toList.map Char.toLower = word.toList

theorem lowerSpells {word s : String} (plain : ∀ a ∈ word.toList, Plain a) : lower (trim s) = word ↔ Spells word s := by
  rw [Spells, ← lowerAfterPlain plain [], lower, Chars.lower, ← String.toList_inj, String.toList_ofList]

theorem notUpper {c : Char} (code : c.toNat = 0 ∨ 0x80 ≤ c.toNat) : c.isUpper = false := by
  refine decide_eq_false fun upper => ?_
  have least : 65 ≤ c.toNat := upper.1
  have most : c.toNat ≤ 90 := upper.2
  omega

theorem toLowerNotUpper : ∀ n < 128, (Char.ofNat n).toLower.isUpper = false := by decide +kernel

theorem lowerCharNotUpper {c d : Char} (member : d ∈ lowerChar c) : d.isUpper = false := by
  have shape := lowered c
  generalize lowerChar c = small at shape member
  cases shape with
  | dotted =>
    simp only [List.mem_cons, List.not_mem_nil, or_false] at member
    rcases member with rfl | rfl <;> rfl
  | ascii code =>
    have small := toLowerNotUpper c.toNat code
    rwa [Char.ofNat_toNat, ← List.mem_singleton.mp member] at small
  | led outside found =>
    rw [List.mem_singleton.mp member]
    rcases runLeads outside found with kelvin | code
    · rw [kelvin]
      rfl
    · exact notUpper code
  | alone outside =>
    rw [List.mem_singleton.mp member]
    exact notUpper (.inr outside)

theorem lowerAfterNotUpper {before s : List Char} {d : Char} (member : d ∈ lowerAfter before s) : d.isUpper = false := by
  induction s generalizing before with
  | nil => cases member
  | cons c rest ih =>
    rw [lowerAfter] at member
    cases List.mem_append.mp member with
    | inr later => exact ih later
    | inl here =>
      split at here
      · split at here <;> rw [List.mem_singleton.mp here] <;> rfl
      · exact lowerCharNotUpper here

structure Caseless (c : Char) : Prop where
  own : lowerChar c = [c]
  only : ∀ d, c ∈ lowerChar d → d = c

def CaseRun.Apart (run : CaseRun) (first last : Nat) : Prop :=
  (last < run.first ∨ run.last < first) ∧ (last < run.first + run.shift ∨ run.last + run.shift < first)

instance (run : CaseRun) (first last : Nat) : Decidable (run.Apart first last) := by
  unfold CaseRun.Apart
  infer_instance

theorem toLowerMoves : ∀ n < 128, (Char.ofNat n).toLower = Char.ofNat n ∨
    65 ≤ n ∧ n ≤ 90 ∧ 97 ≤ (Char.ofNat n).toLower.toNat ∧ (Char.ofNat n).toLower.toNat ≤ 122 := by decide +kernel

theorem caselessOfApart {c : Char} (filled : 0 < c.toNat) (dotted : c ≠ '\u0130') (dot : c ≠ '\u0307')
    (apart : ∀ run ∈ caseRuns, run.Apart c.toNat c.toNat) : Caseless c := by
  have latin := apart ⟨0x41, 0x5A, 1, 32⟩ List.mem_cons_self
  simp only [CaseRun.Apart] at latin
  constructor
  · have shape := lowered c
    generalize lowerChar c = small at shape
    cases shape with
    | dotted same => exact absurd same dotted
    | ascii code =>
      have moves := toLowerMoves c.toNat code
      rw [Char.ofNat_toNat] at moves
      rcases moves with same | capital
      · rw [same]
      · omega
    | led outside found =>
      obtain ⟨among, held⟩ := runHolds found
      have beyond := (apart _ among).1
      omega
    | alone => rfl
  · intro d member
    have shape := lowered d
    generalize lowerChar d = small at shape member
    cases shape with
    | dotted =>
      simp only [List.mem_cons, List.not_mem_nil, or_false] at member
      cases member with
      | inl small =>
        rw [small] at latin
        exact absurd latin (by decide)
      | inr same => exact absurd same dot
    | ascii code =>
      have moves := toLowerMoves d.toNat code
      rw [Char.ofNat_toNat, ← List.mem_singleton.mp member] at moves
      rcases moves with same | capital
      · exact same.symm
      · omega
    | @led run outside found =>
      have code := codeOfNat (d.toNat + run.shift).toNat
      rw [← List.mem_singleton.mp member] at code
      obtain ⟨among, held⟩ := runHolds found
      have beyond := (apart _ among).2
      omega
    | alone => exact (List.mem_singleton.mp member).symm

def lettersApart (first last : Nat) : Bool := (foldRuns ++ caseRuns).all fun run => decide (run.Apart first last)

theorem lettersApartEach {first last : Nat} (apart : lettersApart first last = true) :
    ∀ run ∈ foldRuns ++ caseRuns, run.Apart first last := fun run among =>
  of_decide_eq_true (List.all_eq_true.mp apart run among)

theorem blankRangesApart : ∀ range ∈ blankRanges, 0 < range.1 ∧ lettersApart range.1 range.2 = true := by decide +kernel

theorem blankApart {c : Char} (blank : isBlank c = true) :
    0 < c.toNat ∧ ∀ run ∈ foldRuns ++ caseRuns, run.Apart c.toNat c.toNat := by
  obtain ⟨range, member, inside⟩ := List.any_eq_true.mp blank
  simp only [Bool.and_eq_true, decide_eq_true_eq] at inside
  obtain ⟨filled, apart⟩ := blankRangesApart range member
  refine ⟨by omega, fun run among => ?_⟩
  have outside := lettersApartEach apart run among
  unfold CaseRun.Apart at outside ⊢
  omega

theorem caselessBlank {c : Char} (blank : isBlank c = true) : Caseless c := by
  obtain ⟨filled, apart⟩ := blankApart blank
  refine caselessOfApart filled ?_ ?_ fun run among => apart run (List.mem_append_right _ among)
  · rintro rfl
    cases blank
  · rintro rfl
    cases blank

/-- The character that the simple case folding of Unicode leads all forms of a letter to. -/
def letterOf (c : Char) : Char :=
  match (foldRuns ++ caseRuns).find? fun run =>
      run.first ≤ c.toNat && c.toNat ≤ run.last && (c.toNat - run.first) % run.step == 0 with
  | some run => Char.ofNat (c.toNat + run.shift).toNat
  | none => c

theorem letterAlone {c d : Char} (filled : 0 < c.toNat) (apart : ∀ run ∈ foldRuns ++ caseRuns, run.Apart c.toNat c.toNat)
    (same : letterOf c = letterOf d) : c = d := by
  have own : letterOf c = c := by
    unfold letterOf
    split
    · rename_i run found
      obtain ⟨among, held⟩ := runHolds found
      have beyond := (apart _ among).1
      omega
    · rfl
  rw [own] at same
  unfold letterOf at same
  split at same
  · rename_i run found
    obtain ⟨among, held⟩ := runHolds found
    have beyond := (apart _ among).2
    have code := codeOfNat (d.toNat + run.shift).toNat
    rw [← same] at code
    omega
  · exact same

theorem letterBlank {c d : Char} (blank : isBlank c = true) (same : letterOf c = letterOf d) : c = d :=
  letterAlone (blankApart blank).1 (blankApart blank).2 same

theorem lowerCharOne {c : Char} (dotless : c ≠ '\u0130') : (lowerChar c).length = 1 := by
  have shape := lowered c
  generalize lowerChar c = small at shape
  cases shape with
  | dotted dotted => exact absurd dotted dotless
  | _ => rfl

theorem letterLength {c d : Char} (same : letterOf c = letterOf d) : (lowerChar c).length = (lowerChar d).length := by
  have dotted {c : Char} : letterOf '\u0130' = letterOf c → '\u0130' = c :=
    letterAlone (by decide) (lettersApartEach (by decide +kernel))
  by_cases first : c = '\u0130'
  · rw [first] at same ⊢
    rw [dotted same]
  by_cases second : d = '\u0130'
  · rw [second] at same ⊢
    rw [dotted same.symm]
  rw [lowerCharOne first, lowerCharOne second]

end Syllabus.Text
