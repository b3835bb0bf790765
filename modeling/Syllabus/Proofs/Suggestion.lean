import Syllabus.EditDistance

/-! What is suggested for a name that was not found: one of the candidates, within the distance asked for. It is the first
of those that are nearest, whatever the distance is. Candidates that are taken one by one, with the best so far at hand,
give the same. -/
namespace Syllabus.Suggestion

/-- The first of the candidates that are nearest, and near enough. -/
structure FirstNearest (distance : String → Nat) (most : Nat) (candidates : List String) (found : String) : Prop where
  near : distance found ≤ most
  least : ∀ other ∈ candidates, distance found ≤ distance other
  first : ∃ before after, candidates = before ++ found :: after ∧ ∀ other ∈ before, distance found < distance other

def better (distance : String → Nat) (most : Nat) (best : Option (Nat × String)) (candidate : String) :
    Option (Nat × String) :=
  let here := distance candidate
  if most < here then best
  else match best with
    | some (least, found) => if least ≤ here then some (least, found) else some (here, candidate)
    | none => some (here, candidate)

def closestBy? (distance : String → String → Nat) (needle : String) (candidates : List String) (most : Nat) :
    Option String :=
  (candidates.foldl (better (distance needle) most) none).map Prod.snd

inductive Best (distance : String → Nat) (most : Nat) (seen : List String) : Option (Nat × String) → Prop where
  | far (each : ∀ c ∈ seen, most < distance c) : Best distance most seen none
  | nearest {found} (first : FirstNearest distance most seen found) : Best distance most seen (some (distance found, found))

variable {distance : String → Nat} {most : Nat}

section First

variable {candidates more : List String} {found other : String}

theorem FirstNearest.member (first : FirstNearest distance most candidates found) : found ∈ candidates := by
  obtain ⟨before, after, whole, _⟩ := first.first
  rw [whole]
  exact List.mem_append_right before List.mem_cons_self

theorem FirstNearest.append (first : FirstNearest distance most candidates found)
    (noNearer : ∀ c ∈ more, distance found ≤ distance c) : FirstNearest distance most (candidates ++ more) found where
  near := first.near
  least c member := (List.mem_append.mp member).elim (first.least c) (noNearer c)
  first := by
    obtain ⟨before, after, whole, farther⟩ := first.first
    exact ⟨before, after ++ more, by rw [whole, List.append_assoc, List.cons_append], farther⟩

theorem FirstNearest.wider (first : FirstNearest distance most candidates found) {wider : Nat} (more : most ≤ wider) :
    FirstNearest distance wider candidates found :=
  ⟨Nat.le_trans first.near more, first.least, first.first⟩

theorem FirstNearest.behind (near : distance found ≤ most) (farther : ∀ c ∈ candidates, distance found < distance c) :
    FirstNearest distance most (candidates ++ [found]) found where
  near := near
  least c member := by
    cases List.mem_append.mp member with
    | inl before => exact Nat.le_of_lt (farther c before)
    | inr last => exact Nat.le_of_eq (congrArg distance (List.mem_singleton.mp last).symm)
  first := ⟨candidates, [], rfl, farther⟩

theorem FirstNearest.ahead (near : distance found ≤ most) (noNearer : ∀ c ∈ candidates, distance found ≤ distance c) :
    FirstNearest distance most (found :: candidates) found where
  near := near
  least c member := by
    cases List.mem_cons.mp member with
    | inl same => exact Nat.le_of_eq (congrArg distance same.symm)
    | inr later => exact noNearer c later
  first := ⟨[], candidates, rfl, by simp⟩

theorem FirstNearest.cons (first : FirstNearest distance most candidates found)
    (farther : distance found < distance other) : FirstNearest distance most (other :: candidates) found where
  near := first.near
  least c member := by
    cases List.mem_cons.mp member with
    | inl same => exact same ▸ Nat.le_of_lt farther
    | inr later => exact first.least c later
  first := by
    obtain ⟨before, after, whole, each⟩ := first.first
    refine ⟨other :: before, after, by rw [whole, List.cons_append], fun c member => ?_⟩
    cases List.mem_cons.mp member with
    | inl same => exact same ▸ farther
    | inr later => exact each c later

theorem FirstNearest.once (first : FirstNearest distance most candidates found)
    (again : FirstNearest distance most candidates other) : found = other := by
  have near := again.least found first.member
  have near' := first.least other again.member
  obtain ⟨before, after, whole, farther⟩ := first.first
  obtain ⟨before', after', whole', farther'⟩ := again.first
  rcases List.append_eq_append_iff.mp (whole.symm.trans whole') with ⟨between, longer, same⟩ | ⟨between, longer, same⟩
  · cases between with
    | nil => exact (List.cons.inj same).1
    | cons c rest =>
      obtain ⟨rfl, _⟩ := List.cons.inj same
      have behind := farther' found (by rw [longer]; simp)
      omega
  · cases between with
    | nil => exact (List.cons.inj same).1.symm
    | cons c rest =>
      obtain ⟨rfl, _⟩ := List.cons.inj same
      have behind := farther other (by rw [longer]; simp)
      omega

end First

section Run

variable {seen : List String} {best : Option (Nat × String)}

theorem Best.once (this : Best distance most seen best) {other : Option (Nat × String)}
    (again : Best distance most seen other) : best = other := by
  cases this with
  | far each =>
    cases again with
    | far => rfl
    | nearest first => exact absurd first.near (Nat.not_le.mpr (each _ first.member))
  | nearest first =>
    cases again with
    | far each => exact absurd first.near (Nat.not_le.mpr (each _ first.member))
    | nearest again => rw [first.once again]

theorem betterBest (this : Best distance most seen best) (candidate : String) :
    Best distance most (seen ++ [candidate]) (better distance most best candidate) := by
  unfold better
  dsimp only
  split
  · rename_i tooFar
    cases this with
    | far each => exact .far fun c member => (List.mem_append.mp member).elim (each c) (by simpa using (· ▸ tooFar))
    | nearest first => exact .nearest (first.append (by simpa using Nat.le_of_lt (Nat.lt_of_le_of_lt first.near tooFar)))
  · rename_i near
    have near := Nat.not_lt.mp near
    cases this with
    | far each => exact .nearest (.behind near fun c member => Nat.lt_of_le_of_lt near (each c member))
    | nearest first =>
      dsimp only
      split
      · rename_i stays
        exact .nearest (first.append (by simpa using stays))
      · rename_i nearer
        exact .nearest (.behind near fun c member => Nat.lt_of_lt_of_le (Nat.not_le.mp nearer) (first.least c member))

theorem foldBest (this : Best distance most seen best) (more : List String) :
    Best distance most (seen ++ more) (more.foldl (better distance most) best) := by
  induction more generalizing seen best with
  | nil => rwa [List.append_nil]
  | cons candidate more ih =>
    rw [List.foldl_cons, List.append_cons]
    exact ih (betterBest this candidate)

theorem foldedBest (distance : String → Nat) (most : Nat) (candidates : List String) :
    Best distance most candidates (candidates.foldl (better distance most) none) :=
  foldBest (.far (List.forall_mem_nil _)) candidates

theorem nearestBest (distance : String → Nat) (most : Nat) (candidates : List String) :
    Best distance most candidates (nearest? distance most candidates) := by
  induction candidates with
  | nil => exact .far (List.forall_mem_nil _)
  | cons candidate more ih =>
    rw [nearest?]
    generalize nearest? distance most more = later at ih ⊢
    cases ih with
    | far each =>
      dsimp only
      split
      · rename_i near
        exact .nearest (.ahead near fun c member => Nat.le_trans near (Nat.le_of_lt (each c member)))
      · rename_i tooFar
        exact .far (List.forall_mem_cons.mpr ⟨Nat.not_le.mp tooFar, each⟩)
    | nearest first =>
      dsimp only
      split
      · rename_i nearer
        exact .nearest (.ahead (Nat.le_trans nearer first.near) fun c member => Nat.le_trans nearer (first.least c member))
      · rename_i farther
        exact .nearest (first.cons (Nat.not_le.mp farther))

theorem nearestFold (distance : String → Nat) (most : Nat) (candidates : List String) :
    nearest? distance most candidates = candidates.foldl (better distance most) none :=
  (nearestBest distance most candidates).once (foldedBest distance most candidates)

end Run

section Answers

variable {away : String → String → Nat} {needle : String} {candidates : List String}

theorem closestNone : closestBy? away needle candidates most = none ↔ ∀ c ∈ candidates, most < away needle c := by
  have best := foldedBest (away needle) most candidates
  rw [closestBy?, Option.map_eq_none_iff]
  generalize candidates.foldl (better (away needle) most) none = answer at best ⊢
  cases best with
  | far each => exact iff_of_true rfl each
  | nearest first =>
    refine iff_of_false (Option.some_ne_none _) fun each => ?_
    exact absurd first.near (Nat.not_le.mpr (each _ first.member))

theorem closestSome {found : String} : closestBy? away needle candidates most = some found ↔
    FirstNearest (away needle) most candidates found := by
  have best := foldedBest (away needle) most candidates
  rw [closestBy?]
  constructor
  · intro answer
    obtain ⟨⟨least, name⟩, chosen, rfl⟩ := Option.map_eq_some_iff.mp answer
    rw [chosen] at best
    cases best with
    | nearest first => exact first
  · intro first
    rw [best.once (.nearest first)]
    rfl

theorem closestFold : closest? needle candidates most = closestBy? EditDistance.between needle candidates most := by
  rw [closest?, nearestFold, closestBy?]

theorem closestNear {found : String} (closest : closest? needle candidates most = some found) :
    found ∈ candidates ∧ EditDistance.between needle found ≤ most := by
  rw [closestFold] at closest
  have first := closestSome.mp closest
  exact ⟨first.member, first.near⟩

end Answers

structure Settled (distance : String → String → Nat) (needle : String) (candidates : List String) (most : Nat) : Prop where
  absent : closestBy? distance needle candidates most = none ↔ ∀ c ∈ candidates, most < distance needle c
  present : ∀ found, closestBy? distance needle candidates most = some found ↔
    FirstNearest (distance needle) most candidates found
  appended : ∀ found more, closestBy? distance needle candidates most = some found →
    (∀ c ∈ more, distance needle found ≤ distance needle c) →
    closestBy? distance needle (candidates ++ more) most = some found
  raised : ∀ found wider, closestBy? distance needle candidates most = some found → most ≤ wider →
    closestBy? distance needle candidates wider = some found

theorem closestSettled (distance : String → String → Nat) (needle : String) (candidates : List String) (most : Nat) :
    Settled distance needle candidates most ∧
      closest? needle candidates most = closestBy? EditDistance.between needle candidates most := by
  refine ⟨⟨closestNone, fun _ => closestSome, ?_, ?_⟩, closestFold⟩
  · intro found more answer noNearer
    exact closestSome.mpr ((closestSome.mp answer).append noNearer)
  · intro found wider answer more
    exact closestSome.mpr ((closestSome.mp answer).wider more)

theorem tiedNamesSettled : closest? "hat" ["dog", "cat", "bat"] 1 = some "cat" ∧
    closest? "hat" (["dog", "cat", "bat"] ++ ["rat"]) 1 = some "cat" ∧
    closest? "hat" ["dog", "cat", "bat"] 3 = some "cat" := by
  obtain ⟨settled, same⟩ := closestSettled EditDistance.between "hat" ["dog", "cat", "bat"] 1
  have answer : closest? "hat" ["dog", "cat", "bat"] 1 = some "cat" := by decide +kernel
  rw [same] at answer
  refine ⟨same.trans answer, ?_, ?_⟩
  · rw [(closestSettled EditDistance.between "hat" _ 1).2]
    exact settled.appended "cat" ["rat"] answer (by decide +kernel)
  · rw [(closestSettled EditDistance.between "hat" _ 3).2]
    exact settled.raised "cat" 3 answer (by decide)

end Syllabus.Suggestion
