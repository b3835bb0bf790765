import Syllabus.Proofs.Excerpt.Bundle

/-! The text collapsed before an excerpt, told by the excerpts before it in the list. It starts at the farthest end of
them and not at the end of the last one, so that nothing they show is collapsed again. The two ends give the same text
unless something that is not blank stands between them, before the excerpt. -/
namespace Syllabus.BundledExcerpt

def farthest (es : List ArticleExcerpt) : Nat := (es.map ArticleExcerpt.stop).foldr max 0

def latest (es : List ArticleExcerpt) : Nat := (es.getLast?.map ArticleExcerpt.stop).getD 0

def between? (body : List Char) (start stop : Nat) : Option String :=
  let text := ArticleExcerpt.slice body start stop
  if start ≤ stop ∧ Chars.blank text = false then some (.ofList (Chars.trim text)) else none

structure Collapses (body : List Char) (earlier : List ArticleExcerpt) (e : ArticleExcerpt) (before : Option String) :
    Prop where
  shown : before = between? body (farthest earlier) e.start
  agrees : before = between? body (latest earlier) e.start ↔ e.start < latest earlier ∨
    Chars.blank (ArticleExcerpt.slice body (latest earlier) (min (farthest earlier) e.start)) = true

theorem latestFarthest (es : List ArticleExcerpt) : latest es ≤ farthest es := by
  induction es with
  | nil => exact Nat.le_refl 0
  | cons e more ih =>
    rw [farthest, List.map_cons, List.foldr_cons]
    cases more with
    | nil => exact Nat.le_max_left _ _
    | cons next rest => exact Nat.le_trans ih (Nat.le_max_right _ _)

variable {body : List Char}

theorem sliceJoined {i j k : Nat} (first : i ≤ j) (second : j ≤ k) :
    ArticleExcerpt.slice body i k = ArticleExcerpt.slice body i j ++ ArticleExcerpt.slice body j k := by
  have cut := @Stretch.dropText (body.take k) i j first
  rw [Stretch.text, ArticleExcerpt.slice, List.take_take, Nat.min_eq_left second] at cut
  exact cut

theorem betweenAgree {p m s : Nat} (order : p ≤ m) : between? body m s = between? body p s ↔
    s < p ∨ Chars.blank (ArticleExcerpt.slice body p (min m s)) = true := by
  by_cases early : s < p
  · have before : ¬m ≤ s := by omega
    have outside : ¬p ≤ s := by omega
    simp [between?, before, outside, early]
  · have inside : p ≤ s := by omega
    by_cases reached : m ≤ s
    · rw [Nat.min_eq_left reached, or_iff_right early]
      have joined := @sliceJoined body p m s order reached
      simp only [between?, reached, inside, true_and, joined, Chars.blankAppend]
      generalize ArticleExcerpt.slice body p m = front
      generalize ArticleExcerpt.slice body m s = text
      cases blank : Chars.blank front with
      | true => simp [Chars.trimFront.mpr blank]
      | false =>
        have kept : String.ofList (Chars.trim (front ++ text)) ≠ String.ofList (Chars.trim text) := fun same => by
          rw [String.ofList_inj, Chars.trimFront, blank] at same
          cases same
        cases Chars.blank text <;> simp [Ne.symm kept]
    · have least : min m s = s := Nat.min_eq_right (by omega)
      simp only [between?, reached, inside, least, early]
      simp

theorem collapsedBetween (body : String) (start stop : Nat) :
    (if start ≤ stop then collapsed? body start stop else none) = between? body.toList start stop := by
  simp only [collapsed?, between?, Chars.trimEmpty]
  by_cases order : start ≤ stop <;> cases Chars.blank (ArticleExcerpt.slice body.toList start stop) <;> simp [order]

theorem aroundAt (body : String) (reach : Nat) (earlier later : List (Except ExcerptFailure ArticleExcerpt))
    (e : ArticleExcerpt) : ∃ after, (around body reach (earlier ++ .ok e :: later))[earlier.length]? =
      some (.ok ⟨e.content, between? body.toList (max reach (farthest (earlier.filterMap Except.toOption))) e.start, after⟩) := by
  induction earlier generalizing reach with
  | nil =>
    refine ⟨if later.all (fun other => other.toOption.isNone) then collapsed? body e.stop body.length else none, ?_⟩
    rw [List.nil_append, around, collapsedBetween]
    simp [farthest]
  | cons result more ih =>
    cases result with
    | error failure => exact ih reach
    | ok other =>
      obtain ⟨after, found⟩ := ih (max reach other.stop)
      refine ⟨after, ?_⟩
      rw [Nat.max_assoc] at found
      exact found

theorem collapsedBefore {body : String} {earlier later : List ExcerptRequest} {request : ExcerptRequest}
    {e : ArticleExcerpt} (extracted : ArticleExcerpt.extract body request = .ok e) :
    ∃ b, (ofRequests body (earlier ++ request :: later))[earlier.length]? = some (.ok b) ∧ b.content = e.content ∧
      Collapses body.toList (found body earlier) e b.before := by
  obtain ⟨after, shown⟩ := aroundAt body 0 (earlier.map (ArticleExcerpt.extract body))
    (later.map (ArticleExcerpt.extract body)) e
  rw [List.length_map, Nat.zero_max, ← extracted, ← List.map_cons, ← List.map_append] at shown
  exact ⟨_, shown, rfl, rfl, betweenAgree (latestFarthest _)⟩

def nestedArticle : String := "One two three four five."

def nestedRequests : List ExcerptRequest :=
  [⟨some "One", some "four"⟩, ⟨some "two", some "two"⟩, ⟨some "five", none⟩]

theorem nestedCollapses :
    ArticleExcerpt.extract nestedArticle ⟨some "five", none⟩ = .ok ⟨"five.", 19, 24⟩ ∧
      ∃ b, (ofRequests nestedArticle nestedRequests)[2]? = some (.ok b) ∧ b.content = "five." ∧
        Collapses nestedArticle.toList (found nestedArticle (nestedRequests.take 2)) ⟨"five.", 19, 24⟩ b.before := by
  have extracted : ArticleExcerpt.extract nestedArticle ⟨some "five", none⟩ = .ok ⟨"five.", 19, 24⟩ := by decide +kernel
  exact ⟨extracted, @collapsedBefore nestedArticle (nestedRequests.take 2) [] _ _ extracted⟩

theorem nestedSkipped :
    found nestedArticle nestedRequests = [⟨"One two three four", 0, 18⟩, ⟨"two", 4, 7⟩, ⟨"five.", 19, 24⟩] ∧
      (ofRequests nestedArticle nestedRequests)[2]? = some (.ok ⟨"five.", none, none⟩) ∧
      between? nestedArticle.toList 7 19 = some "three four" := by
  decide +kernel

end Syllabus.BundledExcerpt
