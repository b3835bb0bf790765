import Syllabus.Proofs.Expansion.Chain

/-! An expansion that keeps the way from the root in one place: a document is put on it when it is entered and taken off
it when it is left, and the steps are written down one after the other. Each branch leaves the way as it was, whatever
comes of it; so the walk writes down what the expansion does, which hands the way down instead. -/
namespace Syllabus

structure Walk where
  chain : List String
  steps : List Step

structure Holder where
  path : String
  kind : Kind
  tier : Tier

def Holder.behind (holder : Holder) (chain : List String) : Referrer :=
  ⟨chain, holder.path, holder.kind, holder.tier⟩

namespace Walk

def start (path : String) : Walk := ⟨[path], []⟩

def write (w : Walk) (steps : List Step) : Walk := { w with steps := w.steps ++ steps }

def push (w : Walk) (path : String) : Walk := { w with chain := w.chain ++ [path] }

def pop (w : Walk) : Walk := { w with chain := w.chain.dropLast }

def follow (x : Expansion) (holder : Holder) (reference : Reference) (expected : Kind)
    (next : String → Document → Walk → Walk) (w : Walk) : Walk :=
  let visit := x.visit (holder.behind w.chain) reference expected
  let w := w.write [.visit visit]
  match visit.followed? with
  | some (path, document) => next path document w
  | none => w

def part (x : Expansion) (holder : Holder) (lineage : Lineage) (w : Walk) : LensSection → Walk
  | .page page => w.write [.section (Expansion.pageSection page lineage)]
  | .article part => w.follow x holder part.source .article fun _ document w => match document with
    | .article a =>
      let results := Expansion.articleSegments holder.path a.body part.segments
      let made := Expansion.sourceSection .article (Expansion.articleSource a) part lineage (Expansion.made results)
      (w.write ((Expansion.failed results).map .problem)).write [.section made]
    | _ => w
  | .video part => w.follow x holder part.source .videoTranscript fun path document w => match document with
    | .videoTranscript v =>
      let (words, found) := x.wordsOf path
      let results := Expansion.videoSegments holder.path v.body words part.segments
      let made := Expansion.sourceSection .video (Expansion.videoSource v) part lineage (Expansion.made results)
      ((w.write (found.map .problem)).write ((Expansion.failed results).map .problem)).write [.section made]
    | _ => w

def lens (x : Expansion) (holder : Holder) (lineage : Lineage) (w : Walk) (reference : Reference) : Walk :=
  w.follow x holder reference .lens fun path document w => match document with
  | .lens lens =>
    (lens.sections.foldl (part x ⟨path, .lens, lens.tier⟩ { lineage with lensId := some lens.id.value })
      (w.push path)).pop
  | _ => w

def outcome (x : Expansion) (holder : Holder) (w : Walk) (reference : Reference) : Walk :=
  w.follow x holder reference .learningOutcome fun path document w => match document with
  | .learningOutcome outcome =>
    (outcome.lenses.foldl (fun w inner => lens x ⟨path, .learningOutcome, outcome.tier⟩
      ⟨some outcome.id.value, none, reference.optional || inner.optional⟩ w inner) (w.push path)).pop
  | _ => w

def item (x : Expansion) (holder : Holder) (w : Walk) : ModuleItem → Walk
  | .page page => w.write [.section (Expansion.pageSection page .none)]
  | .outcome reference => w.outcome x holder reference

def module (x : Expansion) (path : String) (m : Module) : Walk :=
  m.items.foldl (item x ⟨path, .module, m.tier⟩) (start path)

def courseItem (x : Expansion) (holder : Holder) (w : Walk) (reference : Reference) : Walk :=
  w.follow x holder reference .module fun _ document w => match document with
  | .module m => w.write [.slug m.slug]
  | _ => w

def course (x : Expansion) (path : String) (c : Course) : Walk :=
  c.modules.foldl (courseItem x ⟨path, .course, c.tier⟩) (start path)

variable {x : Expansion} {w : Walk} {holder : Holder}

@[simp] theorem writeNothing (w : Walk) : w.write [] = w := by
  simp [write]

@[simp] theorem writeTwice (w : Walk) (first later : List Step) :
    (w.write first).write later = w.write (first ++ later) := by
  simp [write]

theorem popPush (w : Walk) (path : String) (steps : List Step) : ((w.push path).write steps).pop = w.write steps := by
  simp [push, pop, write]

theorem foldlWrites {α : Type} {branch : Walk → α → Walk} {own : α → List Step} (items : List α)
    (each : ∀ v a, v.chain = w.chain → branch v a = v.write (own a)) :
    items.foldl branch w = w.write (items.flatMap own) := by
  induction items generalizing w with
  | nil => exact w.writeNothing.symm
  | cons a more ih => rw [List.foldl_cons, each w a rfl, ih (w := w.write (own a)) each, writeTwice, List.flatMap_cons]

theorem followWrites {reference : Reference} {expected : Kind} {next : String → Document → Walk → Walk}
    {own : String → Document → List Step}
    (inside : ∀ path d v, v.chain = w.chain → next path d v = v.write (own path d)) :
    w.follow x holder reference expected next = w.write (x.follow (holder.behind w.chain) reference expected own) := by
  rw [Expansion.followEq, Expansion.granted?, follow]
  cases (x.visit (holder.behind w.chain) reference expected).followed? with
  | none => rfl
  | some target =>
    have later := inside target.1 target.2 (w.write [.visit (x.visit (holder.behind w.chain) reference expected)]) rfl
    rw [writeTwice] at later
    exact later

theorem partWrites (x : Expansion) (holder : Holder) (lineage : Lineage) (w : Walk) (part : LensSection) :
    w.part x holder lineage part = w.write (x.partSteps (holder.behind w.chain) lineage part) := by
  cases part with
  | page page => rfl
  | article part =>
    rw [Walk.part, Expansion.partSteps, Expansion.articleSteps]
    refine followWrites fun path d v _ => ?_
    cases d with
    | article a => exact v.writeTwice _ _
    | _ => exact v.writeNothing.symm
  | video part =>
    rw [Walk.part, Expansion.partSteps, Expansion.videoSteps]
    refine followWrites fun path d v _ => ?_
    cases d with
    | videoTranscript video =>
      dsimp only [Holder.behind]
      rw [writeTwice, writeTwice, List.map_append, List.append_assoc]
    | _ => exact v.writeNothing.symm

theorem lensWrites (x : Expansion) (holder : Holder) (lineage : Lineage) (w : Walk) (reference : Reference) :
    w.lens x holder lineage reference = w.write (x.lensSteps (holder.behind w.chain) lineage reference) := by
  rw [lens, Expansion.lensSteps]
  refine followWrites fun path d v same => ?_
  cases d with
  | lens lens =>
    refine (congrArg pop (foldlWrites lens.sections fun u part on => ?_)).trans (v.popPush path _)
    rw [partWrites, on, push, same]
    rfl
  | _ => exact v.writeNothing.symm

theorem outcomeWrites (x : Expansion) (holder : Holder) (w : Walk) (reference : Reference) :
    w.outcome x holder reference = w.write (x.outcomeSteps (holder.behind w.chain) reference) := by
  rw [outcome, Expansion.outcomeSteps]
  refine followWrites fun path d v same => ?_
  cases d with
  | learningOutcome outcome =>
    refine (congrArg pop (foldlWrites outcome.lenses fun u inner on => ?_)).trans (v.popPush path _)
    rw [lensWrites, on, push, same]
    rfl
  | _ => exact v.writeNothing.symm

theorem itemWrites (x : Expansion) (holder : Holder) (w : Walk) (item : ModuleItem) :
    w.item x holder item = w.write (x.itemSteps (holder.behind w.chain) item) := by
  cases item with
  | page page => rfl
  | outcome reference => exact outcomeWrites x holder w reference

theorem courseItemWrites (x : Expansion) (holder : Holder) (w : Walk) (reference : Reference) :
    w.courseItem x holder reference = w.write (x.courseItemSteps (holder.behind w.chain) reference) := by
  rw [courseItem, Expansion.courseItemSteps]
  refine followWrites fun path d v _ => ?_
  cases d with
  | module m => rfl
  | _ => exact v.writeNothing.symm

theorem moduleWrites (x : Expansion) (path : String) (m : Module) :
    module x path m = ⟨[path], x.moduleSteps path m⟩ := by
  refine foldlWrites (w := start path) m.items fun v item same => ?_
  rw [itemWrites, same]
  rfl

theorem courseWrites (x : Expansion) (path : String) (c : Course) :
    course x path c = ⟨[path], x.courseSteps path c⟩ := by
  refine foldlWrites (w := start path) c.modules fun v reference same => ?_
  rw [courseItemWrites, same]
  rfl

end Walk

namespace Expansion

theorem chainsKept (x : Expansion) :
    (∀ path m, Walk.module x path m = ⟨[path], x.moduleSteps path m⟩ ∧
      x.ChainsKept path (.module m) (x.moduleSteps path m)) ∧
    (∀ path c, Walk.course x path c = ⟨[path], x.courseSteps path c⟩ ∧
      x.ChainsKept path (.course c) (x.courseSteps path c)) ∧
    (∀ (w : Walk) holder reference, (w.outcome x holder reference).chain = w.chain) ∧
    ∀ (w : Walk) holder lineage reference, (w.lens x holder lineage reference).chain = w.chain := by
  refine ⟨fun path m => ⟨Walk.moduleWrites x path m, x.moduleTold path m, findingsCircles (x.moduleStepsMade path m)⟩,
    fun path c => ⟨Walk.courseWrites x path c, x.courseTold path c, findingsCircles (x.courseStepsMade path c)⟩, ?_, ?_⟩
  · intro w holder reference
    rw [Walk.outcomeWrites]
    rfl
  · intro w holder lineage reference
    rw [Walk.lensWrites]
    rfl

end Expansion
end Syllabus
