import Syllabus.Proofs.WikiLink

/-! Links written out and read again. What is read of a link has no blanks at the ends of its parts and no part holds
the sign that ends it, so that the first signs of the written link are those between its parts. Nothing of it climbs
out but a target of two points, which is refused when it is written without the blanks that it was read with. -/
namespace Syllabus.WikiLink

def marked (sign : Char) (part : Option String) : List Char := part.elim [] fun a => sign :: a.toList

def written (l : WikiLink) : List Char := l.target.toList ++ marked '#' l.anchor ++ marked '|' l.label

def Climbing (s : List Char) : Prop := "../".toList <:+: s ∨ "..\\".toList <:+: s

structure Proper (l : WikiLink) : Prop where
  target : Chars.Bare l.target.toList
  anchor : ∀ a ∈ l.anchor, Chars.Bare a.toList
  label : ∀ a ∈ l.label, Chars.Bare a.toList
  anchored : '#' ∉ l.target.toList
  labelled : '|' ∉ l.target.toList ++ marked '#' l.anchor
  level : ¬Climbing l.target.toList ∧ (∀ a ∈ l.anchor, ¬Climbing a.toList) ∧ ∀ a ∈ l.label, ¬Climbing a.toList

theorem textWritten (l : WikiLink) : l.text.toList = "[[".toList ++ written l ++ "]]".toList := by
  cases anchor : l.anchor <;> cases label : l.label <;> simp [text, written, marked, anchor, label]

theorem bareBracketed (s : List Char) : Chars.Bare ("[[".toList ++ s ++ "]]".toList) :=
  ⟨⟨'[', _, rfl, by decide⟩, "[[".toList ++ s ++ [']'], ']', by simp, by decide⟩

section Read

variable {sign : Char} {s left : List Char} {right : Option String}

theorem Climbing.wider {t : List Char} (climbing : Climbing s) (inside : s <:+: t) : Climbing t :=
  climbing.imp (fun found => found.trans inside) fun found => found.trans inside

theorem trimInfix (s : List Char) : Chars.trim s <:+: s := by
  obtain ⟨tail, whole, _⟩ := Chars.trimSplit s
  exact ⟨_, tail, by rw [List.append_assoc]; exact whole.symm⟩

theorem partIff {a : String} : part? s = some a ↔ Chars.trim s ≠ [] ∧ a.toList = Chars.trim s := by
  unfold part?
  dsimp only
  cases trimmed : Chars.trim s with
  | nil => simp
  | cons c rest => simp [← String.toList_inj, eq_comm]

theorem CutAt.before (cut : CutAt sign s left right) : left <:+: s ∧ sign ∉ left := by
  cases cut with
  | whole absent => exact ⟨List.infix_rfl, absent⟩
  | @parts before after split first =>
    have inside : before <:+: s := ⟨[], sign :: after, by rw [split]; simp⟩
    exact ⟨(trimInfix before).trans inside, fun member => first ((trimInfix before).subset member)⟩

theorem CutAt.behind (cut : CutAt sign s left right) : ∀ a ∈ right, Chars.Bare a.toList ∧ a.toList <:+: s := by
  intro a member
  cases cut with
  | whole => cases member
  | @parts before after split =>
    obtain ⟨filled, same⟩ := partIff.mp member
    have inside : after <:+: s := ⟨before ++ [sign], [], by rw [split]; simp⟩
    rw [same]
    exact ⟨Chars.bareIff.mpr ⟨filled, Chars.trimTwice after⟩, (trimInfix after).trans inside⟩

theorem CutAt.without {other : Char} (cut : CutAt sign s left right) (distinct : other ≠ sign) (absent : other ∉ s) :
    other ∉ left ++ marked sign right := by
  intro member
  cases List.mem_append.mp member with
  | inl inLeft => exact absent (cut.before.1.subset inLeft)
  | inr inRight =>
    cases right with
    | none => cases inRight
    | some a =>
      cases List.mem_cons.mp inRight with
      | inl same => exact distinct same
      | inr inside => exact absent ((cut.behind a rfl).2.subset inside)

theorem parsedProper {text : String} {l : WikiLink} (read : parse text = .ok l) : l.Proper := by
  have formed := parseFormed read
  obtain ⟨inner, brackets, level, ⟨left, label, anchor⟩, filled⟩ := parseIff.mp read
  have bare : Chars.Bare l.target.toList := by
    refine Chars.bareIff.mpr ⟨fun none => filled (String.toList_inj.mp none), ?_⟩
    rw [← Text.trimToList, formed.trimmed]
  have flat : ∀ {part : List Char}, part <:+: inner → ¬Climbing part := by
    intro part inside climbing
    cases climbing.wider inside with
    | inl slash => exact level (.slash slash)
    | inr backslash => exact level (.backslash backslash)
  have leftInside := label.before.1
  have targetInside := anchor.before.1
  constructor
  case target => exact bare
  case anchor => exact fun a member => (anchor.behind a member).1
  case label => exact fun a member => (label.behind a member).1
  case anchored => exact anchor.before.2
  case labelled => exact anchor.without (by decide) label.before.2
  case level =>
    exact ⟨flat (targetInside.trans leftInside), fun a member => flat ((anchor.behind a member).2.trans leftInside),
      fun a member => flat (label.behind a member).2⟩

end Read

section Written

variable {sign : Char} {s : List Char} {part : Option String}

theorem bareMarked (sign : Char) (bare : Chars.Bare s) (filled : ∀ a ∈ part, Chars.Bare a.toList) :
    Chars.Bare (s ++ marked sign part) := by
  cases part with
  | none => simpa [marked] using bare
  | some a =>
    have joined := bare.around (filled a rfl) [sign]
    simpa [marked] using joined

theorem cutMarked (bare : Chars.Bare s) (absent : sign ∉ s) (filled : ∀ a ∈ part, Chars.Bare a.toList) :
    CutAt sign (s ++ marked sign part) s part := by
  cases part with
  | none => simpa [marked] using CutAt.whole absent
  | some a =>
    have trimmed := (Chars.bareIff.mp bare).2
    obtain ⟨some, same⟩ := Chars.bareIff.mp (filled a rfl)
    have kept : part? a.toList = .some a := partIff.mpr ⟨by rwa [same], same.symm⟩
    have cut : CutAt sign (s ++ sign :: a.toList) (Chars.trim s) (part? a.toList) := .parts rfl absent
    rwa [trimmed, kept] at cut

theorem climbingMarked (other : sign ∉ "../".toList ∧ sign ∉ "..\\".toList)
    (climbing : Climbing (s ++ marked sign part)) : Climbing s ∨ ∃ a ∈ part, Climbing a.toList := by
  cases part with
  | none => exact .inl (by simpa [marked] using climbing)
  | some a =>
    cases climbing with
    | inl slash =>
      cases Chars.infixApart other.1 slash with
      | inl before => exact .inl (.inl before)
      | inr behind => exact .inr ⟨a, rfl, .inl behind⟩
    | inr backslash =>
      cases Chars.infixApart other.2 backslash with
      | inl before => exact .inl (.inr before)
      | inr behind => exact .inr ⟨a, rfl, .inr behind⟩

end Written

def isPlain (c : Char) : Bool := c != '#' && c != '|'

theorem writtenTarget {l : WikiLink} (proper : l.Proper) : (written l).takeWhile isPlain = l.target.toList := by
  have plain : ∀ c ∈ l.target.toList, isPlain c = true := by
    intro c member
    have hash : c ≠ '#' := fun same => proper.anchored (same ▸ member)
    have bar : c ≠ '|' := fun same => proper.labelled (List.mem_append_left _ (same ▸ member))
    simp [isPlain, hash, bar]
  have stops : (marked '#' l.anchor ++ marked '|' l.label).takeWhile isPlain = [] := by
    cases l.anchor <;> cases l.label <;> simp [marked, isPlain]
  rw [written, List.append_assoc, List.takeWhile_append_of_pos plain, stops, List.append_nil]

theorem writtenFlat {l : WikiLink} (proper : l.Proper) : ¬Climbing (written l) := by
  intro climbing
  obtain ⟨target, anchor, label⟩ := proper.level
  cases climbingMarked (by decide) climbing with
  | inr behind =>
    obtain ⟨a, member, climbing⟩ := behind
    exact label a member climbing
  | inl before =>
    cases climbingMarked (by decide) before with
    | inr behind =>
      obtain ⟨a, member, climbing⟩ := behind
      exact anchor a member climbing
    | inl climbing => exact target climbing

theorem writtenLevel {l : WikiLink} (proper : l.Proper) (named : l.target ≠ "..") : ¬Climbs (written l) := by
  -- Two points before a sign, or alone, would be the target.
  have first := writtenTarget proper
  have points : (written l).takeWhile isPlain ≠ "..".toList := fun same => named (String.toList_inj.mp (first.symm.trans same))
  intro climbs
  cases climbs with
  | slash inside => exact writtenFlat proper (.inl inside)
  | backslash inside => exact writtenFlat proper (.inr inside)
  | alone same => exact points (by rw [same]; decide)
  | anchored starts =>
    obtain ⟨rest, same⟩ := starts
    exact points (by rw [← same]; simp [isPlain])
  | labelled starts =>
    obtain ⟨rest, same⟩ := starts
    exact points (by rw [← same]; simp [isPlain])

theorem parseText {l : WikiLink} (proper : l.Proper) (named : l.target ≠ "..") : parse l.text = .ok l := by
  have anchored := bareMarked '#' proper.target proper.anchor
  have whole : Chars.Bare (written l) := bareMarked '|' anchored proper.label
  have brackets : Chars.Bare l.text.toList := by
    rw [textWritten]
    exact bareBracketed (written l)
  have filled : l.target ≠ "" := by
    intro none
    exact (Chars.bareIff.mp proper.target).1 (by rw [none]; rfl)
  have bracketed : Brackets l.text (written l) := by
    refine ⟨written l, ?_, (Chars.bareIff.mp whole).2.symm⟩
    rw [(Chars.bareIff.mp brackets).2, textWritten]
  have reads : Reads (written l) l :=
    ⟨⟨_, cutMarked anchored proper.labelled proper.label, cutMarked proper.target proper.anchored proper.anchor⟩, filled⟩
  exact parseIff.mpr ⟨written l, bracketed, writtenLevel proper named, reads⟩

theorem textReadBack {source : String} {l : WikiLink} (read : parse source = .ok l) (named : l.target ≠ "..") :
    parse l.text = .ok l ∧
      ∀ other text, parse text = .ok other → other.target ≠ ".." → other.text = l.text → other = l := by
  have back := parseText (parsedProper read) named
  refine ⟨back, fun other text readOther namedOther same => ?_⟩
  have backOther := parseText (parsedProper readOther) namedOther
  rw [same, back] at backOther
  exact (Except.ok.inj backOther).symm

theorem bracketedTextReadBack :
    let l : WikiLink := ⟨"[a/b", some "c#d", some "e|f]"⟩
    parse "[[ [a/b # c#d |e|f] ]]" = .ok l ∧ l.target ≠ ".." ∧ l.text = "[[[a/b#c#d|e|f]]]" ∧ parse l.text = .ok l := by
  have read : parse "[[ [a/b # c#d |e|f] ]]" = .ok ⟨"[a/b", some "c#d", some "e|f]"⟩ := by decide +kernel
  exact ⟨read, by decide, by decide, (textReadBack read (by decide)).1⟩

end Syllabus.WikiLink
