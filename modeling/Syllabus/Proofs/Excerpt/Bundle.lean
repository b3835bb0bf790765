import Mathlib.Data.List.Forall2
import Mathlib.Data.List.TakeWhile
import Syllabus.Proofs.Excerpt.Article

/-! What the excerpts of an article show of it, with the text around them. Each text that is shown is a stretch of the
article without the blanks at its ends. The collapsed text before an excerpt starts where the farthest excerpt so
far has stopped, so that the stretches shown up to an excerpt leave nothing out up to there, and the text after the
last one goes on to the end. -/
namespace Syllabus
open Text (isBlank)

namespace Chars

def solids (s : List Char) : List Char := s.filter fun c => !isBlank c

theorem solidsBlank {s : List Char} (blanks : ∀ c ∈ s, isBlank c = true) : solids s = [] := by
  rw [solids, List.filter_eq_nil_iff]
  intro c member
  simp [blanks c member]

theorem solidsAppend (s t : List Char) : solids (s ++ t) = solids s ++ solids t := List.filter_append s t

theorem solidsTrim (s : List Char) : solids (trim s) = solids s := by
  obtain ⟨tail, whole, blanks⟩ := trimSplit s
  have head : solids (s.takeWhile isBlank) = [] := solidsBlank fun c member => List.mem_takeWhile_imp member
  have parts := congrArg solids whole
  rw [solidsAppend, solidsAppend, head, solidsBlank blanks, List.nil_append, List.append_nil] at parts
  exact parts.symm

theorem solidsNone {s : List Char} : solids s = [] ↔ blank s = true := by
  simp [solids, blank, List.filter_eq_nil_iff]

theorem blankAppend (s t : List Char) : blank (s ++ t) = (blank s && blank t) := List.all_append

theorem trimBlank {s : List Char} (blanks : blank s = true) (t : List Char) : trim (s ++ t) = trim t := by
  rw [trim, trimStart, List.dropWhile_append_of_pos (List.all_eq_true.mp blanks)]
  rfl

theorem trimFront {s t : List Char} : trim (s ++ t) = trim t ↔ blank s = true := by
  refine ⟨fun same => ?_, fun blanks => trimBlank blanks t⟩
  have letters := congrArg solids same
  rw [solidsTrim, solidsTrim, solidsAppend] at letters
  exact solidsNone.mp (List.append_left_eq_self.mp letters)

theorem trimEmpty (s : List Char) : (trim s).isEmpty = blank s := by
  cases trimmed : trim s with
  | nil => rw [← blankTrim, trimmed]; rfl
  | cons c rest =>
    have solid := trimHead trimmed
    rw [← blankTrim, trimmed]
    simp [blank, solid]

end Chars

structure Stretch where
  start : Nat
  stop : Nat
  deriving DecidableEq, Repr

namespace Stretch

def Has (s : Stretch) (p : Nat) : Prop := s.start ≤ p ∧ p < s.stop

def Apart (s t : Stretch) : Prop := ∀ p, ¬(s.Has p ∧ t.Has p)

def text (body : List Char) (s : Stretch) : List Char := ArticleExcerpt.slice body s.start s.stop

def core (body : List Char) (s : Stretch) : Stretch :=
  let first := s.start + ((s.text body).takeWhile isBlank).length
  ⟨first, first + (Chars.trim (s.text body)).length⟩

def ofExcerpt (e : ArticleExcerpt) : Stretch := ⟨e.start, e.stop⟩

variable {body : List Char}

theorem textEq (s : Stretch) : s.text body = (body.drop s.start).take (s.stop - s.start) := by
  rw [text, ArticleExcerpt.slice, List.drop_take]

theorem coreText (s : Stretch) : (s.core body).text body = Chars.trim (s.text body) := by
  obtain ⟨tail, whole, _⟩ := Chars.trimSplit (s.text body)
  have long := congrArg List.length whole
  have short : (s.text body).length ≤ s.stop - s.start := by
    rw [textEq]
    exact List.length_take_le _ _
  simp only [List.length_append] at long
  -- The text of the core is cut out of the text of the stretch.
  have cut : (s.core body).text body =
      ((s.text body).drop ((s.text body).takeWhile isBlank).length).take (Chars.trim (s.text body)).length := by
    conv_rhs => rw [textEq s, List.drop_take, List.take_take, List.drop_drop]
    rw [textEq, ← textEq s, Nat.min_eq_left (by omega)]
    simp [core]
  have rest := congrArg (List.drop ((s.text body).takeWhile isBlank).length) whole
  rw [List.drop_left] at rest
  rw [cut, rest, List.take_left]

theorem textHas {s : Stretch} {p : Nat} {c : Char} (char : body[p]? = some c) (has : s.Has p) :
    (s.text body)[p - s.start]? = some c := by
  obtain ⟨behind, before⟩ := has
  rw [text, ArticleExcerpt.slice, List.getElem?_drop, Nat.add_sub_cancel' behind, List.getElem?_take_of_lt before, char]

theorem coreHas {s : Stretch} {p : Nat} {c : Char} (char : body[p]? = some c) (solid : isBlank c = false)
    (has : s.Has p) : (s.core body).Has p := by
  obtain ⟨tail, whole, blanks⟩ := Chars.trimSplit (s.text body)
  have here : (s.text body)[p - s.start]? = some c := textHas char has
  have behind := has.1
  rw [whole] at here
  have first : ((s.text body).takeWhile isBlank).length ≤ p - s.start := by
    by_contra early
    rw [List.getElem?_append_left (by omega)] at here
    have blank := List.mem_takeWhile_imp (List.mem_of_getElem? here)
    rw [blank] at solid
    cases solid
  have last : p - s.start < ((s.text body).takeWhile isBlank).length + (Chars.trim (s.text body)).length := by
    by_contra late
    rw [List.getElem?_append_right first, List.getElem?_append_right (by omega)] at here
    have blank := blanks c (List.mem_of_getElem? here)
    rw [blank] at solid
    cases solid
  refine ⟨?_, ?_⟩
  · show s.start + _ ≤ p
    omega
  · show p < s.start + _ + _
    omega

def shown (body : List Char) (s : Stretch) : String := .ofList ((s.core body).text body)

def filled? (body : List Char) (s : Stretch) : Option Stretch := if Chars.blank (s.text body) then none else some s

theorem filledSame {s t : Stretch} (filled : t ∈ filled? body s) : t = s := by
  rw [filled?] at filled
  split at filled
  · cases filled
  · exact (Option.some.inj filled).symm

theorem filledHas {s : Stretch} {p : Nat} {c : Char} (char : body[p]? = some c) (solid : isBlank c = false)
    (has : s.Has p) : s ∈ filled? body s := by
  have here : (s.text body)[p - s.start]? = some c := textHas char has
  have filled : Chars.blank (s.text body) = false := by
    rw [Chars.blank, List.all_eq_false]
    exact ⟨c, List.mem_of_getElem? here, by simp [solid]⟩
  rw [filled?, filled]
  rfl

theorem filledSolids (s : Stretch) :
    ((filled? body s).toList.flatMap fun t => Chars.solids (t.text body)) = Chars.solids (s.text body) := by
  rw [filled?]
  split
  · rename_i blank
    rw [Chars.blank, List.all_eq_true] at blank
    exact (Chars.solidsBlank blank).symm
  · simp

theorem shownSolids (s : Stretch) : Chars.solids (s.shown body).toList = Chars.solids (s.text body) := by
  rw [shown, String.toList_ofList, coreText, Chars.solidsTrim]

theorem dropText {i j : Nat} (order : i ≤ j) : body.drop i = (Stretch.mk i j).text body ++ body.drop j := by
  conv_lhs => rw [← List.take_append_drop (j - i) (body.drop i), List.drop_drop, Nat.add_sub_cancel' order]
  rw [textEq]

theorem dropEnd (i : Nat) : body.drop i = (Stretch.mk i body.length).text body := by
  rw [text, ArticleExcerpt.slice, List.take_length]

end Stretch

structure Placement where
  before : Option Stretch
  content : Stretch
  after : Option Stretch
  deriving DecidableEq, Repr

namespace Placement

def stretches (p : Placement) : List Stretch := p.before.toList ++ p.content :: p.after.toList

def shown (body : List Char) (p : Placement) : BundledExcerpt :=
  ⟨p.content.shown body, p.before.map (Stretch.shown body), p.after.map (Stretch.shown body)⟩

structure Joined (body : List Char) (p : Placement) : Prop where
  before : ∀ s ∈ p.before, s.stop = p.content.start
  after : ∀ s ∈ p.after, s = ⟨p.content.stop, body.length⟩

def Behind (earlier later : Placement) : Prop :=
  ∀ s ∈ later.before, s.Apart earlier.content ∧ ∀ other ∈ earlier.before, s.Apart other

def sequence (placements : List Placement) : List Stretch :=
  (placements.flatMap fun p => p.before.toList ++ [p.content]) ++ (placements.getLast?.bind after).toList

end Placement

namespace BundledExcerpt

def sequence (bundle : List BundledExcerpt) : List String :=
  (bundle.flatMap fun b => b.before.toList ++ [b.content]) ++ (bundle.getLast?.bind after).toList

def found (body : String) (requests : List ExcerptRequest) : List ArticleExcerpt :=
  (requests.map (ArticleExcerpt.extract body)).filterMap Except.toOption

def bundle (body : String) (requests : List ExcerptRequest) : List BundledExcerpt :=
  (ofRequests body requests).filterMap Except.toOption

/-- The placements are those of a bundle of excerpts that stand at `spans`, and nothing of the article is left out of
them. -/
structure Lossless (body : List Char) (spans : List Stretch) (bundle : List BundledExcerpt)
    (placements : List Placement) : Prop where
  shown : bundle = placements.map (Placement.shown body)
  contents : placements.map Placement.content = spans
  joined : ∀ p ∈ placements, p.Joined body
  covered : ∀ n c, body[n]? = some c → isBlank c = false → ∃ p ∈ placements, ∃ s ∈ p.stretches, (s.core body).Has n
  apart : placements.Pairwise Placement.Behind
  whole : spans.Pairwise (fun earlier later => earlier.stop ≤ later.start) →
    Chars.solids ((sequence bundle).flatMap String.toList) = Chars.solids body

def placements (body : List Char) : Nat → List ArticleExcerpt → List Placement
  | _, [] => []
  | reach, e :: more =>
    ⟨if reach ≤ e.start then Stretch.filled? body ⟨reach, e.start⟩ else none, .ofExcerpt e,
      if more.isEmpty then Stretch.filled? body ⟨e.stop, body.length⟩ else none⟩ ::
        placements body (max reach e.stop) more

theorem collapsedShown (body : String) (start stop : Nat) :
    collapsed? body start stop = (Stretch.filled? body.toList ⟨start, stop⟩).map (Stretch.shown body.toList) := by
  have trimmed : (Stretch.core body.toList ⟨start, stop⟩).text body.toList = _ := Stretch.coreText ⟨start, stop⟩
  rw [Stretch.filled?, collapsed?, ← Stretch.text.eq_def body.toList ⟨start, stop⟩]
  simp only [Chars.trimEmpty]
  split
  · rfl
  · rw [Option.map_some, Stretch.shown, trimmed]

theorem noneLeft (results : List (Except ExcerptFailure ArticleExcerpt)) :
    (results.all fun other => other.toOption.isNone) = (results.filterMap Except.toOption).isEmpty := by
  induction results with
  | nil => rfl
  | cons result more ih =>
    rw [List.all_cons, ih]
    cases result <;> rfl

theorem aroundShown (body : String) (reach : Nat) {results : List (Except ExcerptFailure ArticleExcerpt)}
    (within : ∀ e ∈ results.filterMap Except.toOption, e.Within body.toList) :
    (around body reach results).filterMap Except.toOption =
      (placements body.toList reach (results.filterMap Except.toOption)).map (Placement.shown body.toList) := by
  induction results generalizing reach with
  | nil => rfl
  | cons result more ih =>
    cases result with
    | error failure => exact ih reach within
    | ok e =>
      have rest := ih (max reach e.stop) fun other member => within other (List.mem_cons_of_mem _ member)
      have content : e.content = (Stretch.ofExcerpt e).shown body.toList := by
        rw [Stretch.shown, Stretch.coreText, ← String.ofList_toList (s := e.content),
          (within e List.mem_cons_self).content]
        rfl
      have step : (around body reach (.ok e :: more)).filterMap Except.toOption =
          ⟨e.content, if reach ≤ e.start then collapsed? body reach e.start else none,
            if more.all fun other => other.toOption.isNone then collapsed? body e.stop body.length else none⟩ ::
              (around body (max reach e.stop) more).filterMap Except.toOption := rfl
      rw [step, rest, noneLeft, content, ← String.length_toList, collapsedShown, collapsedShown]
      simp only [List.filterMap_cons, Except.toOption, placements, List.map_cons, Placement.shown]
      congr 2 <;> split <;> rfl

variable {body : List Char}

theorem placementsContents (reach : Nat) (es : List ArticleExcerpt) :
    (placements body reach es).map Placement.content = es.map Stretch.ofExcerpt := by
  induction es generalizing reach with
  | nil => rfl
  | cons e more ih => rw [placements, List.map_cons, List.map_cons, ih]

theorem beforeSame {reach : Nat} {e : ArticleExcerpt} {s : Stretch}
    (before : s ∈ if reach ≤ e.start then Stretch.filled? body ⟨reach, e.start⟩ else none) : s = ⟨reach, e.start⟩ := by
  split at before
  · exact Stretch.filledSame before
  · cases before

theorem placementsJoined (reach : Nat) (es : List ArticleExcerpt) : ∀ p ∈ placements body reach es, p.Joined body := by
  induction es generalizing reach with
  | nil => simp [placements]
  | cons e more ih =>
    intro p member
    cases List.mem_cons.mp member with
    | inr later => exact ih _ p later
    | inl here =>
      rw [here]
      constructor
      · intro s before
        rw [beforeSame before]
        rfl
      · intro s after
        dsimp only at after
        split at after
        · exact Stretch.filledSame after
        · cases after

theorem placementsBehind (reach : Nat) (es : List ArticleExcerpt) :
    ∀ p ∈ placements body reach es, ∀ s ∈ p.before, reach ≤ s.start := by
  induction es generalizing reach with
  | nil => simp [placements]
  | cons e more ih =>
    intro p member s before
    cases List.mem_cons.mp member with
    | inl here =>
      rw [here] at before
      rw [beforeSame before]
    | inr later => exact Nat.le_trans (Nat.le_max_left _ _) (ih _ p later s before)

theorem placementsApart (reach : Nat) {es : List ArticleExcerpt} (within : ∀ e ∈ es, e.Within body) :
    (placements body reach es).Pairwise Placement.Behind := by
  induction es generalizing reach with
  | nil => exact List.Pairwise.nil
  | cons e more ih =>
    refine List.Pairwise.cons ?_ (ih _ fun other member => within other (List.mem_cons_of_mem _ member))
    intro later member s before
    have ordered := (within e List.mem_cons_self).ordered
    have behind : e.stop ≤ s.start :=
      Nat.le_trans (Nat.le_max_right _ _) (placementsBehind _ more later member s before)
    constructor
    · intro p both
      obtain ⟨⟨first, _⟩, _, last⟩ := both
      change p < e.stop at last
      omega
    · intro other earlier p both
      rw [beforeSame earlier] at both
      obtain ⟨⟨first, _⟩, _, last⟩ := both
      change p < e.start at last
      omega

theorem placementsCover {reach : Nat} {es : List ArticleExcerpt} (nonempty : es ≠ []) {n : Nat} {c : Char}
    (char : body[n]? = some c) (solid : isBlank c = false) (least : reach ≤ n) :
    ∃ p ∈ placements body reach es, ∃ s ∈ p.stretches, (s.core body).Has n := by
  induction es generalizing reach with
  | nil => exact absurd rfl nonempty
  | cons e more ih =>
    have inside : n < body.length := (List.getElem?_eq_some_iff.mp char).1
    by_cases early : n < e.start
    · have has : (Stretch.mk reach e.start).Has n := ⟨least, early⟩
      have before := Stretch.filledHas char solid has
      refine ⟨_, List.mem_cons_self, ⟨reach, e.start⟩, ?_, Stretch.coreHas char solid has⟩
      rw [Placement.stretches, if_pos (by omega)]
      exact List.mem_append_left _ (Option.mem_toList.mpr before)
    by_cases within : n < e.stop
    · have has : (Stretch.ofExcerpt e).Has n := ⟨Nat.le_of_not_lt early, within⟩
      exact ⟨_, List.mem_cons_self, _, List.mem_append_right _ List.mem_cons_self, Stretch.coreHas char solid has⟩
    cases more with
    | nil =>
      have has : (Stretch.mk e.stop body.length).Has n := ⟨Nat.le_of_not_lt within, inside⟩
      have after := Stretch.filledHas char solid has
      refine ⟨_, List.mem_cons_self, ⟨e.stop, body.length⟩, ?_, Stretch.coreHas char solid has⟩
      exact List.mem_append_right _ (List.mem_cons_of_mem _ (Option.mem_toList.mpr after))
    | cons next later =>
      have onward : max reach e.stop ≤ n := by omega
      obtain ⟨p, member, shown⟩ := ih (List.cons_ne_nil _ _) onward
      exact ⟨p, List.mem_cons_of_mem _ member, shown⟩

theorem placementsWhole {reach : Nat} {e : ArticleExcerpt} {more : List ArticleExcerpt} (least : reach ≤ e.start)
    (within : ∀ other ∈ e :: more, other.Within body)
    (ordered : (e :: more).Pairwise fun earlier later => earlier.stop ≤ later.start) :
    ((Placement.sequence (placements body reach (e :: more))).flatMap fun s => Chars.solids (s.text body)) =
      Chars.solids (body.drop reach) := by
  induction more generalizing reach e with
  | nil =>
    have order := (within e List.mem_cons_self).ordered
    rw [Stretch.dropText least, Stretch.dropText order, Stretch.dropEnd e.stop, Chars.solidsAppend,
      Chars.solidsAppend, ← Stretch.filledSolids ⟨reach, e.start⟩, ← Stretch.filledSolids ⟨e.stop, body.length⟩]
    simp [placements, Placement.sequence, least, Stretch.ofExcerpt]
  | cons next later ih =>
    have order := (within e List.mem_cons_self).ordered
    obtain ⟨behind, rest⟩ := List.pairwise_cons.mp ordered
    have onward := ih (behind next List.mem_cons_self)
      (fun other member => within other (List.mem_cons_of_mem _ member)) rest
    rw [Stretch.dropText least, Stretch.dropText order, Chars.solidsAppend, Chars.solidsAppend, ← onward,
      ← Stretch.filledSolids ⟨reach, e.start⟩]
    have far : max reach e.stop = e.stop := by omega
    rw [placements, far]
    simp [placements, Placement.sequence, least, Stretch.ofExcerpt]

theorem sequenceShown (placements : List Placement) :
    sequence (placements.map (Placement.shown body)) = (Placement.sequence placements).map (Stretch.shown body) := by
  simp only [sequence, Placement.sequence, List.map_append, List.flatMap_map, List.map_flatMap, List.getLast?_map]
  congr 1
  · congr 1
    funext p
    cases before : p.before <;> simp [Placement.shown, before]
  · cases placements.getLast? with
    | none => rfl
    | some p => cases after : p.after <;> simp [Placement.shown, after]

theorem foundWithin (body : String) (requests : List ExcerptRequest) :
    ∀ e ∈ found body requests, e.Within body.toList := by
  intro e member
  obtain ⟨result, among, same⟩ := List.mem_filterMap.mp member
  obtain ⟨request, _, extracted⟩ := List.mem_map.mp among
  cases result with
  | error failure => cases same
  | ok other =>
    obtain rfl := Option.some.inj same
    exact ArticleExcerpt.extractWithin extracted

theorem bundleLossless (body : String) (requests : List ExcerptRequest)
    (success : ∃ request ∈ requests, ∃ e, ArticleExcerpt.extract body request = .ok e) :
    ∃ placements, Lossless body.toList ((found body requests).map .ofExcerpt) (bundle body requests) placements := by
  have within := foundWithin body requests
  have nonempty : found body requests ≠ [] := by
    obtain ⟨request, member, e, extracted⟩ := success
    refine List.ne_nil_of_mem (a := e) (List.mem_filterMap.mpr ⟨.ok e, ?_, rfl⟩)
    exact List.mem_map.mpr ⟨request, member, extracted⟩
  have shown := aroundShown body 0 within
  have covered := fun n c (char : body.toList[n]? = some c) solid => placementsCover nonempty char solid (Nat.zero_le n)
  refine ⟨placements body.toList 0 (found body requests), shown, placementsContents _ _, placementsJoined _ _, covered,
    placementsApart _ within, fun ordered => ?_⟩
  have pieces : Chars.solids ((sequence (bundle body requests)).flatMap String.toList) =
      (Placement.sequence (placements body.toList 0 (found body requests))).flatMap fun s =>
        Chars.solids (s.text body.toList) := by
    rw [bundle, ofRequests, shown, sequenceShown, List.flatMap_map, Chars.solids, List.filter_flatMap]
    exact List.flatMap_congr fun s _ => Stretch.shownSolids s
  -- The stretches in turn are the article from its start on.
  cases spans : found body requests with
  | nil => exact absurd spans nonempty
  | cons e more =>
    rw [spans] at within ordered pieces
    rw [pieces, placementsWhole (Nat.zero_le _) within (List.pairwise_map.mp ordered), List.drop_zero]

theorem bundleLosslessOverlapping :
    let body := "One two. Three."
    let requests := [⟨some "two", none⟩, ⟨some "four", none⟩, ⟨some "one", some "two"⟩]
    found body requests = [⟨"two. Three.", 4, 15⟩, ⟨"One two", 0, 7⟩] ∧
      bundle body requests = [⟨"two. Three.", some "One", none⟩, ⟨"One two", none, some ". Three."⟩] ∧
      ∃ placements, Lossless body.toList [⟨4, 15⟩, ⟨0, 7⟩] (bundle body requests) placements := by
  have spans : found "One two. Three." [⟨some "two", none⟩, ⟨some "four", none⟩, ⟨some "one", some "two"⟩] =
      [⟨"two. Three.", 4, 15⟩, ⟨"One two", 0, 7⟩] := by decide +kernel
  refine ⟨spans, by decide +kernel, ?_⟩
  have lossless := bundleLossless "One two. Three." [⟨some "two", none⟩, ⟨some "four", none⟩, ⟨some "one", some "two"⟩]
    ⟨⟨some "two", none⟩, List.mem_cons_self, ⟨"two. Three.", 4, 15⟩, by decide +kernel⟩
  rw [spans] at lossless
  exact lossless

end BundledExcerpt

end Syllabus
