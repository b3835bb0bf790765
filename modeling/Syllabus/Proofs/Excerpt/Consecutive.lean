import Mathlib.Algebra.Order.Group.Abs
import Syllabus.Excerpt.Transcript
import Syllabus.Proofs.Number.Rounding
import Syllabus.Proofs.Text
import Syllabus.Proofs.Timestamp.Printing

/-! Excerpts that follow each other in a transcript. What is selected up to a time and what is selected from it on make
what is selected across it, when the clock tells before from after and the times of the lines do not go back. Lines that
share a time stay on one side, and a part without a text adds no space. -/
namespace Syllabus

namespace Clock

def exact : Clock ℚ where
  ofTimestamp := Timestamp.exact
  inOrder a b := decide (a ≤ b)
  near a b := decide (|a - b| < 1 / 10 ^ 6)
  notBefore a b := decide (b - 1 / 10 ^ 6 ≤ a)
  before a b := decide (a < b - 1 / 10 ^ 6)
  notAfter a b := decide (a ≤ b + 1 / 10 ^ 6)
  text a := .ofList (Timestamp.ofMillis (min (a * 1000 + 1 / 2).floor.toNat Timestamp.mostMillis))

variable {τ : Type} (clock : Clock τ)

def Ordered (t u : Timestamp) : Prop := clock.inOrder (clock.ofTimestamp t) (clock.ofTimestamp u) = true

def Reaches (t u : Timestamp) : Prop := clock.notBefore (clock.ofTimestamp t) (clock.ofTimestamp u) = true

structure Lawful : Prop where
  apart : ∀ t u, clock.before (clock.ofTimestamp t) (clock.ofTimestamp u) =
    !clock.notBefore (clock.ofTimestamp t) (clock.ofTimestamp u)
  trans : ∀ {t u v}, clock.Ordered t u → clock.Ordered u v → clock.Ordered t v
  later : ∀ {t u v}, clock.Ordered t u → clock.Reaches t v → clock.Reaches u v
  earlier : ∀ {t u v}, clock.Ordered u v → clock.Reaches t v → clock.Reaches t u

theorem exactLawful : exact.Lawful where
  apart t u := by simp only [exact, ← not_le, decide_not]
  trans := by
    intro t u v early late
    simp only [Ordered, exact, decide_eq_true_eq] at early late ⊢
    exact early.trans late
  later := by
    intro t u v early reaches
    simp only [Ordered, Reaches, exact, decide_eq_true_eq] at early reaches ⊢
    exact reaches.trans early
  earlier := by
    intro t u v late reaches
    simp only [Ordered, Reaches, exact, decide_eq_true_eq] at late reaches ⊢
    exact (sub_le_sub_right late _).trans reaches

theorem valueDefined (t : Timestamp) : t.value.Defined := by
  rw [Timestamp.value]
  exact (Binary64.ofNatReckoned _).add (Binary64.ofDecimalReckoned _ _)

theorem toleranceFinite : tolerance.isFinite = true := by decide +kernel

theorem timeBinary (t : Timestamp) : binary.ofTimestamp t = t.value := by simp only [binary]

theorem notBeforeBinary (t u : Timestamp) : binary.notBefore (binary.ofTimestamp t) (binary.ofTimestamp u) =
    (u.value.sub tolerance).le t.value := by
  simp only [binary]

theorem beforeBinary (t u : Timestamp) : binary.before (binary.ofTimestamp t) (binary.ofTimestamp u) =
    t.value.lt (u.value.sub tolerance) := by
  simp only [binary]

theorem orderedBinary {t u : Timestamp} : binary.Ordered t u ↔ t.value.le u.value = true := by
  simp only [Ordered, binary, Binary64.ltNot (valueDefined u) (valueDefined t), Bool.not_not]

theorem binaryLawful : binary.Lawful where
  apart t u := by
    rw [beforeBinary, notBeforeBinary]
    exact Binary64.ltNot (valueDefined t) (Binary64.subDefined (valueDefined u) toleranceFinite)
  trans := by
    intro t u v early late
    rw [orderedBinary] at early late ⊢
    exact Binary64.leTrans early late
  later := by
    intro t u v early reaches
    rw [orderedBinary] at early
    rw [Reaches, notBeforeBinary] at reaches ⊢
    exact Binary64.leTrans reaches early
  earlier := by
    intro t u v late reaches
    rw [orderedBinary] at late
    rw [Reaches, notBeforeBinary] at reaches ⊢
    exact Binary64.leTrans (Binary64.subMono late toleranceFinite) reaches

end Clock

theorem filterParted {α : Type} (p q : α → Bool) {xs : List α} (rising : xs.Pairwise fun x y => q x = true → q y = true) :
    xs.filter p = xs.filter (fun x => p x && !q x) ++ xs.filter fun x => p x && q x := by
  induction rising with
  | nil => rfl
  | cons head tail ih =>
    rename_i x more
    cases reached : q x with
    | false =>
      cases kept : p x <;> simp [kept, reached, ih]
    | true =>
      have all : ∀ y ∈ more, q y = true := fun y member => head y member reached
      have none : more.filter (fun y => p y && !q y) = [] := by
        rw [List.filter_eq_nil_iff]
        intro y member
        simp [all y member]
      have whole : more.filter (fun y => p y && q y) = more.filter p := by
        apply List.filter_congr
        intro y member
        simp [all y member]
      cases kept : p x <;> simp [kept, reached, none, whole]

namespace Transcript
variable {τ : Type} {clock : Clock τ}

def Rising (clock : Clock τ) (body : String) : Prop := (blocks body).Pairwise fun x y => clock.Ordered x.start y.start

theorem selectedJoined (lawful : clock.Lawful) {found : List TranscriptBlock} {t u v : Timestamp}
    (rising : found.Pairwise fun x y => clock.Ordered x.start y.start)
    (early : clock.Ordered t u) (late : clock.Ordered u v) :
    selected clock found (clock.ofTimestamp t) (clock.ofTimestamp v) =
      selected clock found (clock.ofTimestamp t) (clock.ofTimestamp u) ++
        selected clock found (clock.ofTimestamp u) (clock.ofTimestamp v) := by
  have reached : found.Pairwise fun x y => clock.notBefore (clock.ofTimestamp x.start) (clock.ofTimestamp u) = true →
      clock.notBefore (clock.ofTimestamp y.start) (clock.ofTimestamp u) = true :=
    rising.imp fun ordered => lawful.later ordered
  -- Whether a line is before the middle time or not, one of its two bounds holds already.
  have below : ∀ x : TranscriptBlock, clock.before (clock.ofTimestamp x.start) (clock.ofTimestamp u) = true →
      clock.before (clock.ofTimestamp x.start) (clock.ofTimestamp v) = true := by
    intro x before
    simp only [lawful.apart, Bool.not_eq_true', ← Bool.not_eq_true] at before ⊢
    exact fun reaches => before (lawful.earlier late reaches)
  have above : ∀ x : TranscriptBlock, clock.notBefore (clock.ofTimestamp x.start) (clock.ofTimestamp u) = true →
      clock.notBefore (clock.ofTimestamp x.start) (clock.ofTimestamp t) = true :=
    fun x reaches => lawful.earlier early reaches
  simp only [selected, ← List.map_append]
  rw [filterParted _ _ reached]
  congr 2
  · apply List.filter_congr
    intro x _
    have first := below x
    rw [← lawful.apart]
    grind
  · apply List.filter_congr
    intro x _
    have second := above x
    grind

def solid (texts : List String) : List String := texts.filter fun s => !s.isEmpty

theorem nonemptyNone {start stop : τ} {texts : List String} (none : solid texts = []) :
    nonempty clock start stop texts = .error (.emptyExcerpt (clock.text start) (clock.text stop)) := by
  simp only [solid] at none
  simp [nonempty, none]

theorem nonemptySome {start stop : τ} {texts : List String} (some : solid texts ≠ []) :
    nonempty clock start stop texts = .ok (Text.joinWith " " (solid texts)) := by
  simp only [solid] at some ⊢
  simp [nonempty, some]

end Transcript

namespace VideoExcerpt
open Transcript (Rising hits blocks selected nonempty solid)
variable {τ : Type} {clock : Clock τ} {body : String}

def Lacking (part : Except ExcerptFailure (VideoExcerpt τ)) : Prop := ∃ start stop, part = .error (.emptyExcerpt start stop)

def Lands (clock : Clock τ) (body : String) (t : Timestamp) : Prop :=
  hits clock (blocks body) (clock.ofTimestamp t) = true

/-- An excerpt from one time to another, and those of the two parts that a time between them makes. -/
structure Joined (start stop : τ) (first second whole : Except ExcerptFailure (VideoExcerpt τ)) : Prop where
  settled : ∀ part ∈ [first, second, whole], (∃ e, part = .ok e) ∨ Lacking part
  both : ∀ {p q}, first = .ok p → second = .ok q → whole = .ok ⟨start, stop, p.transcript ++ " " ++ q.transcript⟩
  onlyFirst : ∀ {p}, first = .ok p → Lacking second → whole = .ok ⟨start, stop, p.transcript⟩
  onlySecond : ∀ {q}, Lacking first → second = .ok q → whole = .ok ⟨start, stop, q.transcript⟩
  neither : Lacking first → Lacking second → Lacking whole

theorem extractLanded {a b : String} {t u : Timestamp} (readA : Timestamp.read? a = some t)
    (readB : Timestamp.read? b = some u) (ordered : clock.Ordered t u) (landsA : Lands clock body t)
    (landsB : Lands clock body u) :
    extract clock body a b [] = (nonempty clock (clock.ofTimestamp t) (clock.ofTimestamp u)
      (selected clock (blocks body) (clock.ofTimestamp t) (clock.ofTimestamp u))).map
        fun text => ⟨clock.ofTimestamp t, clock.ofTimestamp u, text⟩ := by
  have some : (blocks body).isEmpty = false := by
    cases found : blocks body with
    | nil => simp [Lands, hits, found] at landsA
    | cons x more => rfl
  have taken : Transcript.ofBlocks clock body (clock.ofTimestamp t) (clock.ofTimestamp u) =
      nonempty clock (clock.ofTimestamp t) (clock.ofTimestamp u)
        (selected clock (blocks body) (clock.ofTimestamp t) (clock.ofTimestamp u)) := by
    rw [Transcript.ofBlocks, some, show hits clock (blocks body) (clock.ofTimestamp t) = true from landsA,
      show hits clock (blocks body) (clock.ofTimestamp u) = true from landsB]
    rfl
  have inOrder : (!clock.inOrder (clock.ofTimestamp t) (clock.ofTimestamp u)) = false := by
    rw [show clock.inOrder (clock.ofTimestamp t) (clock.ofTimestamp u) = true from ordered, Bool.not_true]
  simp only [extract, Transcript.time, readA, readB]
  show (if (!clock.inOrder (clock.ofTimestamp t) (clock.ofTimestamp u)) = true then _ else
    (Transcript.ofBlocks clock body (clock.ofTimestamp t) (clock.ofTimestamp u)).bind fun text => _) = _
  rw [if_neg (by rw [inOrder]; exact Bool.false_ne_true), taken]
  cases nonempty clock (clock.ofTimestamp t) (clock.ofTimestamp u) _ <;> rfl

theorem joinedTexts (start middle stop : τ) (texts more : List String) : Joined start stop
    ((nonempty clock start middle texts).map fun text => ⟨start, middle, text⟩)
    ((nonempty clock middle stop more).map fun text => ⟨middle, stop, text⟩)
    ((nonempty clock start stop (texts ++ more)).map fun text => ⟨start, stop, text⟩) := by
  have split : solid (texts ++ more) = solid texts ++ solid more := List.filter_append ..
  by_cases left : solid texts = [] <;> by_cases right : solid more = []
  · have none : solid (texts ++ more) = [] := by rw [split, left, right, List.nil_append]
    rw [Transcript.nonemptyNone left, Transcript.nonemptyNone right, Transcript.nonemptyNone none]
    constructor <;> simp [Lacking, Except.map]
  · have same : solid (texts ++ more) = solid more := by rw [split, left, List.nil_append]
    rw [Transcript.nonemptyNone left, Transcript.nonemptySome right, Transcript.nonemptySome (same ▸ right), same]
    constructor <;> simp [Lacking, Except.map]
  · have same : solid (texts ++ more) = solid texts := by rw [split, right, List.append_nil]
    rw [Transcript.nonemptySome left, Transcript.nonemptyNone right, Transcript.nonemptySome (same ▸ left), same]
    constructor <;> simp [Lacking, Except.map]
  · have some : solid (texts ++ more) ≠ [] := by simp [split, left]
    rw [Transcript.nonemptySome left, Transcript.nonemptySome right, Transcript.nonemptySome some, split,
      Text.joinWithAppend " " left right]
    constructor <;> simp [Lacking, Except.map]

theorem consecutive (lawful : clock.Lawful) (rising : Rising clock body) {a b c : String} {t u v : Timestamp}
    (readA : Timestamp.read? a = some t) (readB : Timestamp.read? b = some u) (readC : Timestamp.read? c = some v)
    (early : clock.Ordered t u) (late : clock.Ordered u v) (landsA : Lands clock body t) (landsB : Lands clock body u)
    (landsC : Lands clock body v) : Joined (clock.ofTimestamp t) (clock.ofTimestamp v)
      (extract clock body a b []) (extract clock body b c []) (extract clock body a c []) := by
  rw [extractLanded readA readB early landsA landsB, extractLanded readB readC late landsB landsC,
    extractLanded readA readC (lawful.trans early late) landsA landsC, Transcript.selectedJoined lawful rising early late]
  exact joinedTexts _ _ _ _ _

theorem consecutiveExact (body a b c : String) {t u v : Timestamp}
    (rising : (blocks body).Pairwise fun x y => x.start.exact ≤ y.start.exact)
    (readA : Timestamp.read? a = some t) (readB : Timestamp.read? b = some u) (readC : Timestamp.read? c = some v)
    (early : t.exact ≤ u.exact) (late : u.exact ≤ v.exact)
    (lands : ∀ w ∈ [t, u, v], ∃ x ∈ blocks body, |x.start.exact - w.exact| < 1 / 10 ^ 6) :
    Joined t.exact v.exact (extract .exact body a b []) (extract .exact body b c []) (extract .exact body a c []) := by
  have lands (w : Timestamp) (member : w ∈ [t, u, v]) : Lands .exact body w := by
    obtain ⟨x, inside, close⟩ := lands w member
    exact List.any_eq_true.mpr ⟨x, inside, decide_eq_true close⟩
  exact consecutive Clock.exactLawful (rising.imp decide_eq_true) readA readB readC (decide_eq_true early)
    (decide_eq_true late) (lands t (by simp)) (lands u (by simp)) (lands v (by simp))

theorem consecutiveBinary {a b c : String} {t u v : Timestamp} (rising : Rising .binary body)
    (readA : Timestamp.read? a = some t) (readB : Timestamp.read? b = some u) (readC : Timestamp.read? c = some v)
    (early : t.value.le u.value = true) (late : u.value.le v.value = true) (landsA : Lands .binary body t)
    (landsB : Lands .binary body u) (landsC : Lands .binary body v) : Joined t.value v.value
      (extract .binary body a b []) (extract .binary body b c []) (extract .binary body a c []) := by
  have joined := consecutive Clock.binaryLawful rising readA readB readC (Clock.orderedBinary.mpr early)
    (Clock.orderedBinary.mpr late) landsA landsB landsC
  rwa [Clock.timeBinary, Clock.timeBinary] at joined

def shared : String := "0:05 - one\n0:10 - two\n[0:10.0] - \n0:10.0000001 - three\nfour\n0:20 - five"

theorem consecutiveShared :
    extract .exact shared "0:05" "0:20" [] = .ok ⟨5, 20, "one two three four"⟩ := by
  have joined := consecutiveExact shared "0:05" "0:10" "0:20" (t := ⟨5, []⟩) (u := ⟨10, []⟩) (v := ⟨20, []⟩)
    (by decide +kernel) (by decide +kernel) (by decide +kernel) (by decide +kernel) (by decide +kernel) (by decide +kernel)
    (by decide +kernel)
  have first : extract .exact shared "0:05" "0:10" [] = .ok ⟨5, 10, "one"⟩ := by decide +kernel
  have second : extract .exact shared "0:10" "0:20" [] = .ok ⟨10, 20, "two three four"⟩ := by decide +kernel
  rw [joined.both first second]
  decide +kernel

end VideoExcerpt
end Syllabus
