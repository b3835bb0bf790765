import Syllabus.Proofs.Excerpt.Folding

/-! What an author means by an anchor, and the places of a folded text at which it stands. Quotation marks around an
anchor are not part of it, and no blanks are left at its ends, so that its last folded character is no space. -/
namespace Syllabus

namespace Anchor
open Text (isBlank)

inductive Means (s : List Char) : List Char → Prop where
  | straight {inside} : Chars.trim s = '"' :: inside ++ ['"'] → Means s (Chars.trim inside)
  | curly {inside} : Chars.trim s = '\u201c' :: inside ++ ['\u201d'] → Means s (Chars.trim inside)
  | bare : (∀ inside, Chars.trim s ≠ '"' :: inside ++ ['"']) →
      (∀ inside, Chars.trim s ≠ '\u201c' :: inside ++ ['\u201d']) → Means s (Chars.trim s)

def Given : Option String → Option (List Char) → Prop
  | none, meant => meant = none
  | some s, meant => ∃ inside, Means s.toList inside ∧ meant = if inside = [] then none else some inside

theorem plainMeant (s : List Char) : Means s (plain s) := by
  unfold plain unquoted?
  dsimp only
  cases straight : (['"'].isPrefixOf? (Chars.trim s)).bind fun rest => ['"'].isSuffixOf? rest with
  | some inside => exact .straight (Chars.betweenIff.mp straight)
  | none =>
    cases curly : (['\u201c'].isPrefixOf? (Chars.trim s)).bind fun rest => ['\u201d'].isSuffixOf? rest with
    | some inside => exact .curly (Chars.betweenIff.mp curly)
    | none =>
      refine .bare (fun inside whole => ?_) fun inside whole => ?_
      · rw [Chars.betweenIff.mpr whole] at straight
        cases straight
      · rw [Chars.betweenIff.mpr whole] at curly
        cases curly

theorem givenMeant (anchor : Option String) : Given anchor (given? anchor) := by
  cases anchor with
  | none => rfl
  | some s =>
    refine ⟨plain s.toList, plainMeant _, ?_⟩
    by_cases none : plain s.toList = [] <;> simp [given?, Option.filter, none]

theorem plainTrimmed (s : List Char) : ∃ t, plain s = Chars.trim t := by
  generalize same : plain s = meant
  have meant := plainMeant s
  rw [same] at meant
  cases meant <;> exact ⟨_, rfl⟩

def Solid (anchor : List Char) : Prop := ∃ before c, anchor = before ++ [c] ∧ isBlank c = false

theorem givenSolid {anchor : Option String} {meant : List Char} (given : given? anchor = some meant) : Solid meant := by
  obtain ⟨found, filled⟩ := Option.filter_eq_some_iff.mp given
  obtain ⟨s, _, rfl⟩ := Option.map_eq_some_iff.mp found
  obtain ⟨t, same⟩ := plainTrimmed s.toList
  have kept : Chars.trimEnd (Chars.trimStart t) ≠ [] := by
    rw [same] at filled
    simpa [Chars.trim] using filled
  rw [same]
  exact Chars.trimEndLast kept

theorem squeezeSnoc {c : Char} (solid : isBlank c = false) (s : List Char) : squeeze (s ++ [c]) = squeeze s ++ [c] := by
  have behind : ∀ rest : List Char, (rest ++ [c]).head?.any isBlank = rest.head?.any isBlank := by
    intro rest
    cases rest with
    | nil => simpa using solid
    | cons d more => rfl
  induction s using foldInduction with
  | nil => exact squeezeSolid solid []
  | solid d rest plain ih => rw [List.cons_append, squeezeSolid plain, squeezeSolid plain, ih, List.cons_append]
  | lone d rest blank next ih =>
    rw [List.cons_append, squeezeLone blank next, squeezeLone blank (by rw [behind, next]), ih, List.cons_append]
  | run d rest blank next ih =>
    rw [List.cons_append, squeezeRun blank next, squeezeRun blank (by rw [behind, next]), ih]

theorem squeezeTrimStart (s : List Char) : squeeze (Chars.trimStart s) = Chars.trimStart (squeeze s) := by
  induction s using foldInduction with
  | nil => rfl
  | solid c rest solid _ => rw [Chars.trimStartSolid solid, squeezeSolid solid, Chars.trimStartSolid solid]
  | lone c rest blank next ih =>
    rw [squeezeLone blank next, Chars.trimStartBlank blank, Chars.trimStartBlank (by decide), ih]
  | run c rest blank next ih => rw [squeezeRun blank next, Chars.trimStartBlank blank, ih]

theorem squeezeTrimEnd (s : List Char) : squeeze (Chars.trimEnd s) = Chars.trimEnd (squeeze s) := by
  -- What is left of a text begins as the text does.
  have head : ∀ {rest : List Char} {c more}, Chars.trimEnd rest = c :: more → isBlank c = rest.head?.any isBlank := by
    intro rest c more kept
    cases rest with
    | nil => cases kept
    | cons d rest =>
      rw [Chars.trimEndHead (by simp [kept])] at kept
      cases kept
      rfl
  induction s using foldInduction with
  | nil => rfl
  | solid c rest solid ih =>
    rw [Chars.trimEndSolid solid, squeezeSolid solid, squeezeSolid solid, Chars.trimEndSolid solid, ih]
  | lone c rest blank next ih =>
    rw [squeezeLone blank next, Chars.trimEndCons, Chars.trimEndCons, ← ih, blank]
    cases kept : Chars.trimEnd rest with
    | nil => rfl
    | cons d more =>
      have solid : isBlank d = false := (head kept).trans next
      have next : (d :: more).head?.any isBlank = false := by simpa using solid
      simp [squeezeLone blank next, squeezeSolid solid]
  | run c rest blank next ih =>
    rw [squeezeRun blank next, ← ih, Chars.trimEndCons, blank]
    cases kept : Chars.trimEnd rest with
    | nil => rfl
    | cons d more =>
      have space : isBlank d = true := (head kept).trans next
      exact squeezeRun blank (by simpa using space)

theorem squeezeTrim (s : List Char) : squeeze (Chars.trim s) = Chars.trim (squeeze s) := by
  rw [Chars.trim, squeezeTrimEnd, squeezeTrimStart, Chars.trim]

theorem foldedSnoc {c : Char} (solid : isBlank c = false) (s : List Char) :
    folded (s ++ [c]) = folded s ++ foldChar c := by
  simp [folded, squeezeSnoc solid, foldChar]

theorem foldCharSolid {c d : Char} (solid : isBlank c = false) (member : d ∈ foldChar c) : d ≠ ' ' := by
  intro same
  have space : straight c = ' ' := (Text.caselessBlank (by decide)).only _ (same ▸ member)
  have blank : c = ' ' := by
    unfold straight at space
    split at space
    · cases space
    · split at space
      · cases space
      · exact space
  rw [blank] at solid
  cases solid

theorem Solid.filled {anchor : List Char} (solid : Solid anchor) : 0 < (folded anchor).length := by
  obtain ⟨before, c, rfl, _⟩ := solid
  exact foldedFilled (by simp)

theorem Solid.last {anchor : List Char} (solid : Solid anchor) {d : Char}
    (last : (folded anchor)[(folded anchor).length - 1]? = some d) : d ≠ ' ' := by
  obtain ⟨before, c, rfl, plain⟩ := solid
  rw [← List.getLast?_eq_getElem?, foldedSnoc plain] at last
  obtain ⟨first, more, small, _⟩ := Text.lowerCharFilled (straight c)
  have filled : foldChar c ≠ [] := by simp [foldChar, small]
  rw [List.getLast?_append_of_ne_nil _ filled] at last
  exact foldCharSolid plain (List.mem_of_getLast? last)

def sites (needle text : List Char) (first : Nat) : List Nat :=
  (List.range' first (text.length - first)).filter fun i => decide (needle <+: text.drop i)

theorem memSites {needle text : List Char} {first i : Nat} :
    i ∈ sites needle text first ↔ first ≤ i ∧ i < text.length ∧ needle <+: text.drop i := by
  simp only [sites, List.mem_filter, List.mem_range'_1, decide_eq_true_eq, ← and_assoc]
  refine and_congr_left fun _ => ?_
  omega

theorem occurrencesFromSites (needle : List Char) {text s : List Char} {first : Nat} (rest : text.drop first = s) :
    occurrencesFrom needle first s = sites needle text first := by
  induction s generalizing first with
  | nil =>
    have beyond := List.drop_eq_nil_iff.mp rest
    simp [occurrencesFrom, sites, Nat.sub_eq_zero_of_le beyond]
  | cons c more ih =>
    have inside : first < text.length := by
      by_contra beyond
      rw [List.drop_eq_nil_of_le (by omega)] at rest
      cases rest
    have tail : text.drop (first + 1) = more := by rw [← List.drop_drop, rest]; rfl
    have long : text.length - first = text.length - (first + 1) + 1 := by omega
    rw [occurrencesFrom, ih tail, sites, sites, long, List.range'_succ, List.filter_cons, rest]
    simp only [← List.isPrefixOf_iff_prefix, Bool.decide_eq_true]

theorem occurrencesSites {needle : List Char} (filled : 0 < needle.length) (text : List Char) (first : Nat) :
    occurrences needle text first = sites needle text first := by
  have some : needle.isEmpty = false := by
    cases needle with
    | nil => cases filled
    | cons c rest => rfl
  rw [occurrences, some]
  exact occurrencesFromSites needle rfl

theorem siteLast {anchor text : List Char} (solid : Solid anchor) {first i : Nat}
    (member : i ∈ sites (folded anchor) text first) :
    ∃ d, text[i + (folded anchor).length - 1]? = some d ∧ d ≠ ' ' := by
  have filled := solid.filled
  have inside : (folded anchor).length - 1 < (folded anchor).length := by omega
  obtain ⟨rest, whole⟩ := (memSites.mp member).2.2
  have char := List.getElem?_eq_getElem inside
  refine ⟨_, ?_, solid.last char⟩
  rw [Nat.add_sub_assoc filled, ← List.getElem?_drop, ← whole, List.getElem?_append_left inside, char]

end Anchor
end Syllabus
