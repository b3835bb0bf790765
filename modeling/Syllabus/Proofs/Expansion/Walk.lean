import Syllabus.Proofs.Expansion.Account
import Syllabus.Proofs.Listing

/-! The findings of an expansion in their order. A walk tells of a reference before it goes on behind it, and of
the references and the excerpts of a document in the order in which the document has them. So each finding has
a place in the tree that is walked, the findings come in the order of the places, and the file that a finding
names is that of the document on its way, wherever that file stands among the others. -/
namespace Syllabus.Expansion

inductive FollowFinds (x : Expansion) (origin : Referrer) (reference : Reference) (expected : Kind)
    (behind : String → Document → List Nat → Diagnostic → Prop) : List Nat → Diagnostic → Prop where
  | here {found : Diagnostic} (told : found ∈ (x.visit origin reference expected).findings) :
      FollowFinds x origin reference expected behind [] found
  | behind {path : String} {d : Document} {i : Nat} {place : List Nat} {found : Diagnostic}
      (granted : x.granted? origin reference expected = some (path, d)) (finds : behind path d (i :: place) found) :
      FollowFinds x origin reference expected behind (i :: place) found

def ProblemFinds (problems : List Diagnostic) (place : List Nat) (found : Diagnostic) : Prop :=
  ∃ n : Nat, place = [n] ∧ problems[n]? = some found

def PartFinds (x : Expansion) (origin : Referrer) : LensSection → List Nat → Diagnostic → Prop
  | .page _ => fun _ _ => False
  | .article part => x.FollowFinds origin part.source .article fun _ d place found =>
    ∃ a, d = .article a ∧ ProblemFinds (failed (articleSegments origin.path a.body part.segments)) place found
  | .video part => x.FollowFinds origin part.source .videoTranscript fun path d place found =>
    ∃ v, d = .videoTranscript v ∧ ProblemFinds
      ((x.wordsOf path).2 ++ failed (videoSegments origin.path v.body (x.wordsOf path).1 part.segments)) place found

def LensFinds (x : Expansion) (origin : Referrer) (reference : Reference) : List Nat → Diagnostic → Prop :=
  x.FollowFinds origin reference .lens fun path d place found =>
    ∃ lens : Lens, d = .lens lens ∧ Listing.Below (x.PartFinds (origin.enter path .lens lens.tier)) lens.sections place found

def OutcomeFinds (x : Expansion) (origin : Referrer) (reference : Reference) : List Nat → Diagnostic → Prop :=
  x.FollowFinds origin reference .learningOutcome fun path d place found =>
    ∃ outcome : LearningOutcome, d = .learningOutcome outcome ∧
      Listing.Below (x.LensFinds (origin.enter path .learningOutcome outcome.tier)) outcome.lenses place found

def ItemFinds (x : Expansion) (origin : Referrer) : ModuleItem → List Nat → Diagnostic → Prop
  | .page _ => fun _ _ => False
  | .outcome reference => x.OutcomeFinds origin reference

def ModuleFinds (x : Expansion) (path : String) (m : Module) : List Nat → Diagnostic → Prop :=
  Listing.Below (x.ItemFinds (.root path .module m.tier)) m.items

def CourseFinds (x : Expansion) (path : String) (c : Course) : List Nat → Diagnostic → Prop :=
  Listing.Below (fun reference => x.FollowFinds (.root path .course c.tier) reference .module fun _ _ _ _ => False)
    c.modules

variable {x : Expansion} {origin : Referrer} {reference : Reference} {expected : Kind}

theorem visitFinds (v : Visit) : Listing (fun (place : List Nat) found => place = [] ∧ found ∈ v.findings) v.findings := by
  have alone (found : Diagnostic) :
      Listing (fun (place : List Nat) other => place = [] ∧ other ∈ [found]) [found] :=
    .single [] fun place other => by rw [List.mem_singleton]
  unfold Visit.findings
  split
  · exact alone _
  · exact .nothing (by simp)
  · split
    · exact alone _
    · exact .nothing (by simp)

theorem followFinds {behind : String → Document → List Nat → Diagnostic → Prop} {next : String → Document → List Step}
    (each : ∀ path d, Listing (behind path d) (findingsOf (next path d)))
    (below : ∀ path d found, ¬behind path d [] found) :
    Listing (x.FollowFinds origin reference expected behind) (findingsOf (x.follow origin reference expected next)) := by
  have later : Listing (fun place found => ∃ path d, x.granted? origin reference expected = some (path, d) ∧
      behind path d place found)
      (findingsOf ((x.granted? origin reference expected).elim [] fun document => next document.1 document.2)) := by
    cases x.granted? origin reference expected with
    | none => exact .nothing (by simp)
    | some document => exact (each document.1 document.2).congr fun place found => by simp [Prod.ext_iff]
  have after : ∀ {place : List Nat} {found : Diagnostic}, (∃ path d, x.granted? origin reference expected = some (path, d) ∧
      behind path d place found) → [] < place := by
    rintro place found ⟨path, d, _, finds⟩
    cases place with
    | nil => exact absurd finds (below path d found)
    | cons i place => exact List.nil_lt_cons i place
  rw [followEq]
  refine ((visitFinds (x.visit origin reference expected)).append later ?_).congr fun place found => ?_
  · rintro place _ later _ ⟨rfl, _⟩ finds
    exact after finds
  · constructor
    · rintro (⟨rfl, told⟩ | finds)
      · exact .here told
      · have nonempty := after finds
        obtain ⟨path, d, granted, finds⟩ := finds
        cases place with
        | nil => exact absurd nonempty (List.lt_irrefl [])
        | cons i place => exact .behind granted finds
    · intro finds
      cases finds with
      | here told => exact .inl ⟨rfl, told⟩
      | behind granted finds => exact .inr ⟨_, _, granted, finds⟩

theorem findingsFlatMap {α : Type} (f : α → List Step) (items : List α) :
    findingsOf (items.flatMap f) = items.flatMap fun a => findingsOf (f a) := by
  simp only [findingsOf, List.flatMap_assoc]

theorem problemFinds (problems : List Diagnostic) (s : Artifact.Section) :
    Listing (ProblemFinds problems) (findingsOf (problems.map Step.problem ++ [.section s])) := by
  have told : findingsOf (problems.map Step.problem ++ [.section s]) = problems.filterMap some := by
    simp [findingsOf, Step.findings, List.flatMap_append, List.flatMap_map]
  rw [told]
  refine (Listing.filterMap some problems).congr fun place found => ?_
  constructor
  · rintro ⟨n, problem, rfl, there, same⟩
    cases same
    exact ⟨n, rfl, there⟩
  · rintro ⟨n, rfl, there⟩
    exact ⟨n, found, rfl, there, rfl⟩

theorem problemBelow (problems : List Diagnostic) (found : Diagnostic) : ¬ProblemFinds problems [] found := by
  rintro ⟨n, same, _⟩
  cases same

theorem partFinds (origin : Referrer) (lineage : Lineage) (part : LensSection) :
    Listing (x.PartFinds origin part) (findingsOf (x.partSteps origin lineage part)) := by
  cases part with
  | page page => exact .nothing (by simp [PartFinds])
  | article part =>
    refine followFinds (fun path d => ?_) ?_
    · cases d with
      | article a => exact (problemFinds _ _).congr (by simp)
      | _ => exact .nothing (by simp)
    · rintro path d found ⟨a, _, finds⟩
      exact problemBelow _ _ finds
  | video part =>
    refine followFinds (fun path d => ?_) ?_
    · cases d with
      | videoTranscript v =>
        have problems := problemFinds ((x.wordsOf path).2 ++
          failed (videoSegments origin.path v.body (x.wordsOf path).1 part.segments))
        exact (problems _).congr (by simp)
      | _ => exact .nothing (by simp)
    · rintro path d found ⟨v, _, finds⟩
      exact problemBelow _ _ finds

theorem lensFinds (origin : Referrer) (lineage : Lineage) (reference : Reference) :
    Listing (x.LensFinds origin reference) (findingsOf (x.lensSteps origin lineage reference)) := by
  refine followFinds (fun path d => ?_) ?_
  · cases d with
    | lens lens =>
      dsimp only
      rw [findingsFlatMap]
      exact (Listing.flatMap fun part _ => partFinds _ _ part).congr (by simp)
    | _ => exact .nothing (by simp)
  · rintro path d found ⟨lens, _, finds⟩
    exact finds

theorem outcomeFinds (origin : Referrer) (reference : Reference) :
    Listing (x.OutcomeFinds origin reference) (findingsOf (x.outcomeSteps origin reference)) := by
  refine followFinds (fun path d => ?_) ?_
  · cases d with
    | learningOutcome outcome =>
      dsimp only
      rw [findingsFlatMap]
      exact (Listing.flatMap fun lens _ => lensFinds _ _ lens).congr (by simp)
    | _ => exact .nothing (by simp)
  · rintro path d found ⟨outcome, _, finds⟩
    exact finds

theorem moduleFinds (x : Expansion) (path : String) (m : Module) :
    Listing (x.ModuleFinds path m) (x.expandModule path m).2 := by
  have items : Listing (x.ModuleFinds path m)
      (m.items.flatMap fun item => findingsOf (x.itemSteps (.root path .module m.tier) item)) := by
    refine .flatMap fun item _ => ?_
    cases item with
    | page page => exact .nothing (by simp [ItemFinds])
    | outcome reference => exact outcomeFinds _ reference
  rwa [← findingsFlatMap] at items

theorem courseFinds (x : Expansion) (path : String) (c : Course) :
    Listing (x.CourseFinds path c) (x.expandCourse path c).2 := by
  have references : Listing (x.CourseFinds path c)
      (c.modules.flatMap fun reference => findingsOf (x.courseItemSteps (.root path .course c.tier) reference)) := by
    refine .flatMap fun reference _ => followFinds (fun path d => ?_) fun _ _ _ => id
    cases d with
    | module m => exact .nothing fun _ _ => id
    | _ => exact .nothing fun _ _ => id
  rwa [← findingsFlatMap] at references

end Syllabus.Expansion
