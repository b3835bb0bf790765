import Mathlib.Data.List.Sort
import Syllabus.Index
import Syllabus.Proofs.FileMap
import Syllabus.Proofs.VaultPath

/-! Where a link leads. Its path is looked up beside the file that it stands in and then at the root, and only then by
its file name, which the paths looked up first have as well. So an index answers by the paths with that file name
alone, and no other path that is added to it can change a file that was found or the files that were not told apart. -/
namespace Syllabus

def WikiLink.path (link : WikiLink) : String := VaultPath.withExtension (Text.trim link.target)

namespace Index

def beside (origin : String) (link : WikiLink) : String := VaultPath.join (VaultPath.parent origin) link.path

def Matches (index : Index) (link : WikiLink) (path : String) : Prop :=
  path ∈ index.paths ∧ VaultPath.fileName path = VaultPath.fileName link.path

def insertAll (index : Index) (further : List (String × IndexedFile)) : Index :=
  further.foldl (fun grown entry => grown.insert entry.1 entry.2) index

inductive Answer (index : Index) (origin : String) (link : WikiLink) (most : Nat) :
    Except LinkFailure String → Prop where
  | beside (found : beside origin link ∈ index.paths) : Answer index origin link most (.ok (beside origin link))
  | root (away : beside origin link ∉ index.paths) (found : link.path ∈ index.paths) :
      Answer index origin link most (.ok link.path)
  | sole {path} (away : beside origin link ∉ index.paths) (below : link.path ∉ index.paths)
      (one : ∀ other, index.Matches link other ↔ other = path) : Answer index origin link most (.ok path)
  | missing (none : ∀ path, ¬index.Matches link path) :
      Answer index origin link most (.error (.notFound link.target (index.nearest? origin link.target most)))
  | ambiguous {found} (away : beside origin link ∉ index.paths) (below : link.path ∉ index.paths)
      (many : 2 ≤ found.length) (ordered : found.Pairwise (· < ·)) (listed : ∀ path, path ∈ found ↔ index.Matches link path) :
      Answer index origin link most (.error (.ambiguous link.target found))

/-- A link is looked up in the documented order, and of what is indexed only the files with its file name count. -/
structure InOrder (index : Index) (origin : String) (link : WikiLink) (most : Nat) : Prop where
  beside : Index.beside origin link ∈ index.paths → index.resolve origin link most = .ok (Index.beside origin link)
  root : Index.beside origin link ∉ index.paths → link.path ∈ index.paths →
    index.resolve origin link most = .ok link.path
  sole : Index.beside origin link ∉ index.paths → link.path ∉ index.paths →
    ∀ path, (∀ other, index.Matches link other ↔ other = path) → index.resolve origin link most = .ok path
  missing : (∃ target nearest, index.resolve origin link most = .error (.notFound target nearest)) ↔
    ∀ path, ¬index.Matches link path
  ambiguous : (∃ target found, index.resolve origin link most = .error (.ambiguous target found)) ↔
    Index.beside origin link ∉ index.paths ∧ link.path ∉ index.paths ∧
      ∃ path other, path ≠ other ∧ index.Matches link path ∧ index.Matches link other
  listed : ∀ target found, index.resolve origin link most = .error (.ambiguous target found) →
    target = link.target ∧ found.Pairwise (· < ·) ∧ ∀ path, path ∈ found ↔ index.Matches link path
  indexed : ∀ path, index.resolve origin link most = .ok path → path ∈ index.paths
  stable : ∀ further : List (String × IndexedFile),
    (∀ entry ∈ further, VaultPath.fileName entry.1 ≠ VaultPath.fileName link.path) →
      (∀ path, (index.insertAll further).resolve origin link most = .ok path ↔
        index.resolve origin link most = .ok path) ∧
      ∀ target found, (index.insertAll further).resolve origin link most = .error (.ambiguous target found) ↔
        index.resolve origin link most = .error (.ambiguous target found)

variable {index : Index} {origin : String} {link : WikiLink} {most : Nat}

theorem containsIff {path : String} : index.contains path = true ↔ path ∈ index.paths := List.contains_iff_mem

theorem memNamed {path : String} : path ∈ index.named link.path ↔ index.Matches link path := by
  simp [named, Matches]

theorem namedOrdered (index : Index) (target : String) : (index.named target).Pairwise (· < ·) :=
  index.files.ordered.sublist List.filter_sublist

theorem namedEq {found : List String} (ordered : found.Pairwise (· < ·))
    (listed : ∀ path, path ∈ found ↔ index.Matches link path) : index.named link.path = found := by
  apply (namedOrdered index link.path).eq_of_mem_iff ordered
  intro path
  rw [memNamed, listed]

theorem answered (index : Index) (origin : String) (link : WikiLink) (most : Nat) :
    Answer index origin link most (index.resolve origin link most) := by
  have away : ∀ {path}, ¬index.contains path = true → path ∉ index.paths := fun absent => mt containsIff.mpr absent
  unfold resolve
  dsimp only
  split
  · rename_i found
    exact .beside (containsIff.mp found)
  · rename_i absent
    split
    · rename_i found
      exact .root (away absent) (containsIff.mp found)
    · rename_i below
      have listed : ∀ path, path ∈ index.named link.path ↔ index.Matches link path := fun path => memNamed
      have ordered := namedOrdered index link.path
      rw [WikiLink.path] at listed ordered
      generalize index.named (VaultPath.withExtension (Text.trim link.target)) = found at listed ordered
      cases found with
      | nil =>
        apply Answer.missing
        intro path here
        cases (listed path).mpr here
      | cons one more =>
        cases more with
        | nil =>
          apply Answer.sole (away absent) (away below)
          intro other
          rw [← listed, List.mem_singleton]
        | cons two more => exact .ambiguous (away absent) (away below) (by simp) ordered listed

theorem besideMatches (found : beside origin link ∈ index.paths) : index.Matches link (beside origin link) :=
  ⟨found, VaultPath.fileNameJoin _ _⟩

theorem rootMatches (found : link.path ∈ index.paths) : index.Matches link link.path := ⟨found, rfl⟩

theorem resolveOfAnswer {answer : Except LinkFailure String} (answers : Answer index origin link most answer) :
    index.resolve origin link most = answer := by
  unfold resolve
  dsimp only
  rw [← WikiLink.path, ← beside]
  simp only [containsIff]
  cases answers with
  | beside found => rw [if_pos found]
  | root away found => rw [if_neg away, if_pos found]
  | sole away below one =>
    have named : index.named link.path = [_] :=
      namedEq (List.pairwise_singleton _ _) fun path => by rw [one, List.mem_singleton]
    rw [if_neg away, if_neg below, named]
  | missing none =>
    have named : index.named link.path = [] := namedEq List.Pairwise.nil fun path => by simp [none path]
    rw [if_neg fun found => none _ (besideMatches found), if_neg fun found => none _ (rootMatches found), named]
  | @ambiguous found away below many ordered listed =>
    rw [if_neg away, if_neg below, namedEq ordered listed]
    cases found with
    | nil => cases many
    | cons one more =>
      cases more with
      | nil => simp at many
      | cons two more => rfl

theorem resolveIff {answer : Except LinkFailure String} :
    index.resolve origin link most = answer ↔ Answer index origin link most answer := by
  constructor
  · intro same
    exact same ▸ answered index origin link most
  · exact resolveOfAnswer

theorem twoMatches {found : List String} (many : 2 ≤ found.length) (ordered : found.Pairwise (· < ·)) :
    ∃ path ∈ found, ∃ other ∈ found, path ≠ other := by
  match found, many with
  | one :: two :: more, _ =>
    have before : one < two := (List.pairwise_cons.mp ordered).1 two List.mem_cons_self
    exact ⟨one, by simp, two, by simp, fun same => String.lt_irrefl two (same ▸ before)⟩

theorem missingIff : (∃ target nearest, index.resolve origin link most = .error (.notFound target nearest)) ↔
    ∀ path, ¬index.Matches link path := by
  constructor
  · intro missed
    obtain ⟨target, nearest, missed⟩ := missed
    cases resolveIff.mp missed with
    | missing none => exact none
  · intro none
    exact ⟨_, _, resolveIff.mpr (.missing none)⟩

theorem ambiguousIff : (∃ target found, index.resolve origin link most = .error (.ambiguous target found)) ↔
    beside origin link ∉ index.paths ∧ link.path ∉ index.paths ∧
      ∃ path other, path ≠ other ∧ index.Matches link path ∧ index.Matches link other := by
  constructor
  · intro failed
    obtain ⟨target, found, failed⟩ := failed
    cases resolveIff.mp failed with
    | ambiguous away below many ordered listed =>
      obtain ⟨path, here, other, there, apart⟩ := twoMatches many ordered
      exact ⟨away, below, path, other, apart, (listed path).mp here, (listed other).mp there⟩
  · intro several
    obtain ⟨away, below, path, other, apart, here, there⟩ := several
    have answers := answered index origin link most
    generalize index.resolve origin link most = answer at answers ⊢
    cases answers with
    | beside found => exact absurd found away
    | root _ found => exact absurd found below
    | sole _ _ one => exact absurd (((one path).mp here).trans ((one other).mp there).symm) apart
    | missing none => exact absurd here (none path)
    | ambiguous => exact ⟨_, _, rfl⟩

theorem Answer.indexed {path : String} (answers : Answer index origin link most (.ok path)) : path ∈ index.paths := by
  cases answers with
  | beside found => exact found
  | root _ found => exact found
  | sole _ _ one => exact ((one path).mpr rfl).1

theorem memInsertAll {further : List (String × IndexedFile)} {path : String} :
    path ∈ (index.insertAll further).paths ↔ path ∈ index.paths ∨ ∃ entry ∈ further, entry.1 = path := by
  induction further generalizing index with
  | nil => simp [insertAll]
  | cons entry more ih =>
    have grown : path ∈ (index.insert entry.1 entry.2).paths ↔ path = entry.1 ∨ path ∈ index.paths :=
      FileMap.memInsertPaths
    rw [insertAll, List.foldl_cons, ← insertAll, ih, grown]
    simp only [List.mem_cons, or_and_right, exists_or, exists_eq_left, eq_comm (a := path)]
    tauto

theorem resolveAgrees (origin : String) (most : Nat) {grown : Index} (agree : ∀ path, grown.Matches link path ↔ index.Matches link path) :
    grown.resolve origin link most = index.resolve origin link most ∨
      (∃ target nearest, grown.resolve origin link most = .error (.notFound target nearest)) ∧
        ∃ target nearest, index.resolve origin link most = .error (.notFound target nearest) := by
  have named : ∀ path, VaultPath.fileName path = VaultPath.fileName link.path →
      (path ∈ grown.paths ↔ path ∈ index.paths) := by
    intro path same
    have either := agree path
    rwa [Matches, Matches, and_iff_left same, and_iff_left same] at either
  have besideNamed := named (beside origin link) (VaultPath.fileNameJoin _ _)
  have rootNamed := named link.path rfl
  have answers := answered index origin link most
  generalize index.resolve origin link most = answer at answers
  cases answers with
  | beside found => exact .inl (resolveOfAnswer (.beside (besideNamed.mpr found)))
  | root away found => exact .inl (resolveOfAnswer (.root (mt besideNamed.mp away) (rootNamed.mpr found)))
  | sole away below one =>
    have one' := fun other => (agree other).trans (one other)
    exact .inl (resolveOfAnswer (.sole (mt besideNamed.mp away) (mt rootNamed.mp below) one'))
  | missing none => exact .inr ⟨missingIff.mpr fun path => mt (agree path).mp (none path), _, _, rfl⟩
  | ambiguous away below many ordered listed =>
    have listed' := fun path => (listed path).trans (agree path).symm
    exact .inl (resolveOfAnswer (.ambiguous (mt besideNamed.mp away) (mt rootNamed.mp below) many ordered listed'))

theorem insertAllMatches (index : Index) {further : List (String × IndexedFile)}
    (apart : ∀ entry ∈ further, VaultPath.fileName entry.1 ≠ VaultPath.fileName link.path) (path : String) :
    (index.insertAll further).Matches link path ↔ index.Matches link path := by
  simp only [Matches, memInsertAll]
  constructor
  · intro grown
    obtain ⟨either, named⟩ := grown
    cases either with
    | inl before => exact ⟨before, named⟩
    | inr later =>
      obtain ⟨entry, member, rfl⟩ := later
      exact absurd named (apart entry member)
  · intro before
    exact ⟨.inl before.1, before.2⟩

theorem resolvedInOrder (index : Index) (origin : String) (link : WikiLink) (most : Nat) :
    InOrder index origin link most where
  beside found := resolveIff.mpr (.beside found)
  root away found := resolveIff.mpr (.root away found)
  sole away below path one := resolveIff.mpr (.sole away below one)
  missing := missingIff
  ambiguous := ambiguousIff
  listed target found failed := by
    cases resolveIff.mp failed with
    | ambiguous _ _ _ ordered listed => exact ⟨rfl, ordered, listed⟩
  indexed path found := (resolveIff.mp found).indexed
  stable further apart := by
    cases resolveAgrees origin most (insertAllMatches index apart) with
    | inl same => simp only [same, implies_true, and_self]
    | inr both =>
      obtain ⟨⟨_, _, grown⟩, _, _, before⟩ := both
      simp [grown, before]

end Index
end Syllabus
