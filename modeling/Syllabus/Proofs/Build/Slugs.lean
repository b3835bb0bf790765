import Mathlib.Data.List.Nodup
import Syllabus.Proofs.Build.Entries
import Syllabus.Proofs.Expansion.Account
import Syllabus.Proofs.Listing
import Syllabus.Proofs.Uniqueness

/-! Slugs in an artifact. Of the documents that take part, the first one of a slug is built and every later
one of its kind is reported and left out. So a slug names one module and one course at most, and whatever
slug a course lists is that of a module beside it, even where the course refers to one that was left out. -/
namespace Syllabus.Build

variable [Library]

def Partakes (files : FileMap String) (config : Config) (path : String) (d : Document) : Prop :=
  ∃ text kind, files.get? path = some text ∧ config.layout.kindOf? path = some kind ∧
    (Document.parse kind config.reach.fields path text).value = some d ∧ d.tier.isIgnored = false

def UsesSlug (files : FileMap String) (config : Config) (kind : Kind) (slug path : String) : Prop :=
  ∃ d line, Partakes files config path d ∧ d.kind = kind ∧ d.slug? = some (slug, line)

def FirstUse (files : FileMap String) (config : Config) (kind : Kind) (slug path : String) : Prop :=
  UsesSlug files config kind slug path ∧ ∀ earlier, earlier < path → ¬UsesSlug files config kind slug earlier

def ModuleMade (files : FileMap String) (config : Config) (path : String) (made : Artifact.Module) : Prop :=
  ∃ m, Partakes files config path (.module m) ∧
    (∀ earlier, earlier < path → ¬UsesSlug files config .module m.slug earlier) ∧
    made = ((expansion files config).expandModule path m).1

def CourseMade (files : FileMap String) (config : Config) (path : String) (made : Artifact.Course) : Prop :=
  ∃ c, Partakes files config path (.course c) ∧
    (∀ earlier, earlier < path → ¬UsesSlug files config .course c.slug earlier) ∧
    made = ((expansion files config).expandCourse path c).1

structure SlugsSettled (files : FileMap String) (config : Config) (a : Artifact) : Prop where
  modules : Listing (ModuleMade files config) a.modules
  courses : Listing (CourseMade files config) a.courses
  moduleSlugs : (a.modules.map Artifact.Module.slug).Nodup
  courseSlugs : (a.courses.map Artifact.Course.slug).Nodup
  reported : ∀ path d slug line, Partakes files config path d → d.slug? = some (slug, line) →
    (∃ earlier, earlier < path ∧ UsesSlug files config d.kind slug earlier) →
    ∃ first, first < path ∧ FirstUse files config d.kind slug first ∧
      a.found.count ⟨path, some line, "Duplicate " ++ d.kind.label ++ " slug '" ++ slug ++ "': already used by " ++ first,
        none, .error⟩ = 1
  progressions : ∀ c ∈ a.courses, ∀ slug ∈ c.progression, (a.modules.map Artifact.Module.slug).count slug = 1

variable {files : FileMap String} {config : Config}

theorem memActive {path : String} {d : Document} :
    (path, d) ∈ active (expansion files config).index ↔ Partakes files config path d := by
  rw [activeEntries, List.mem_filterMap]
  constructor
  · rintro ⟨⟨path, text⟩, member, active⟩
    obtain ⟨kind, placed, active⟩ := Option.bind_eq_some_iff.mp active
    split at active
    · cases active
    · rename_i kept
      obtain ⟨d, read, same⟩ := Option.map_eq_some_iff.mp active
      cases same
      refine ⟨text, kind, FileMap.get?Iff.mpr member, placed, read, ?_⟩
      rw [parseTier read]
      exact Bool.eq_false_iff.mpr kept
  · rintro ⟨text, kind, present, placed, read, kept⟩
    refine ⟨(path, text), FileMap.get?Iff.mp present, ?_⟩
    rw [parseTier read] at kept
    simp [activeDocument?, placed, kept, read]

theorem activeOrdered (files : FileMap String) (config : Config) :
    ((active (expansion files config).index).map Prod.fst).Pairwise (· < ·) := by
  have documents : ((expansion files config).index.documents.map Prod.fst).Pairwise (· < ·) :=
    (expansion files config).index.files.ordered.sublist
      (FileMap.filterMapPaths (fun _ (file : IndexedFile) => file.document) (expansion files config).index.files.entries)
  exact documents.sublist (List.filter_sublist.map _)

theorem partakesOnce {path : String} {d d' : Document} (left : Partakes files config path d)
    (right : Partakes files config path d') : d = d' :=
  FileMap.uniqueValue (activeOrdered files config) (memActive.mpr left) (memActive.mpr right)

theorem usesPlace {kind : Kind} {slug path : String} : UsesSlug files config kind slug path ↔
    ∃ line, ⟨path, kind, slug, line⟩ ∈ Uniqueness.slugPlaces (active (expansion files config).index) := by
  simp only [UsesSlug, Uniqueness.memSlugPlaces, memActive]
  constructor
  · rintro ⟨d, line, partakes, kind, found⟩
    exact ⟨line, d, partakes, kind, found⟩
  · rintro ⟨line, d, partakes, kind, found⟩
    exact ⟨d, line, partakes, kind, found⟩

theorem repeatsFirst {again first : Uniqueness.SlugPlace}
    (told : (again, first) ∈ Uniqueness.slugRepeats (active (expansion files config).index)) :
    again ∈ Uniqueness.slugPlaces (active (expansion files config).index) ∧ first.file < again.file ∧
      FirstUse files config again.kind again.slug first.file := by
  obtain ⟨present, member, less, same, others⟩ :=
    (Uniqueness.memRepeatsOrdered (Uniqueness.slugPlacesOrdered (activeOrdered files config))).mp told
  cases again with
  | mk path kind slug line =>
  cases first with
  | mk path' kind' slug' line' =>
  cases same
  refine ⟨present, less, usesPlace.mpr ⟨line', member⟩, fun earlier before uses => ?_⟩
  obtain ⟨line'', other⟩ := usesPlace.mp uses
  exact others _ other before rfl

theorem usesRepeated {path : String} {d : Document} {slug : String} {line : Nat}
    (partakes : Partakes files config path d) (found : d.slug? = some (slug, line))
    (again : ∃ earlier, earlier < path ∧ UsesSlug files config d.kind slug earlier) :
    ∃ first, (⟨path, d.kind, slug, line⟩, first) ∈ Uniqueness.slugRepeats (active (expansion files config).index) := by
  obtain ⟨earlier, less, uses⟩ := again
  obtain ⟨line', other⟩ := usesPlace.mp uses
  exact Uniqueness.repeated (Uniqueness.slugPlacesOrdered (activeOrdered files config))
    (Uniqueness.memSlugPlaces.mpr ⟨d, memActive.mpr partakes, rfl, found⟩) other less rfl

theorem memDropped {path : String} {d : Document} (partakes : Partakes files config path d) :
    path ∈ Uniqueness.dropped (active (expansion files config).index) ↔
      ∃ slug line, d.slug? = some (slug, line) ∧
        ∃ earlier, earlier < path ∧ UsesSlug files config d.kind slug earlier := by
  rw [Uniqueness.dropped, List.mem_map]
  constructor
  · rintro ⟨⟨again, first⟩, told, rfl⟩
    obtain ⟨present, less, uses, _⟩ := repeatsFirst told
    obtain ⟨d', member, kind, found⟩ := Uniqueness.memSlugPlaces.mp present
    have same := partakesOnce partakes (memActive.mp member)
    subst same
    rw [← kind] at uses
    exact ⟨again.slug, again.line, found, first.file, less, uses⟩
  · rintro ⟨slug, line, found, again⟩
    obtain ⟨first, told⟩ := usesRepeated partakes found again
    exact ⟨_, told, rfl⟩

theorem memKept {path : String} {d : Document} : (path, d) ∈ kept (active (expansion files config).index) ↔
    Partakes files config path d ∧ ∀ slug line, d.slug? = some (slug, line) →
      ∀ earlier, earlier < path → ¬UsesSlug files config d.kind slug earlier := by
  rw [kept, List.mem_filter, memActive]
  refine and_congr_right fun partakes => ?_
  simp only [Bool.not_eq_true', List.contains_eq_mem, decide_eq_false_iff_not, memDropped partakes]
  constructor
  · intro fresh slug line found earlier less uses
    exact fresh ⟨slug, line, found, earlier, less, uses⟩
  · rintro fresh ⟨slug, line, found, earlier, less, uses⟩
    exact fresh slug line found earlier less uses

theorem firstUse {kind : Kind} {slug path : String} (uses : UsesSlug files config kind slug path) :
    ∃ first, FirstUse files config kind slug first := by
  by_cases again : ∃ earlier, earlier < path ∧ UsesSlug files config kind slug earlier
  · obtain ⟨d, line, partakes, rfl, found⟩ := uses
    obtain ⟨first, told⟩ := usesRepeated partakes found again
    exact ⟨first.file, (repeatsFirst told).2.2⟩
  · exact ⟨path, uses, fun earlier less other => again ⟨earlier, less, other⟩⟩

def keptMap (files : FileMap String) (config : Config) : FileMap Document :=
  ⟨kept (active (expansion files config).index), (activeOrdered files config).sublist (List.filter_sublist.map _)⟩

def moduleOf? (x : Expansion) (path : String) : Document → Option Artifact.Module
  | .module m => some (x.expandModule path m).1
  | _ => none

def courseOf? (x : Expansion) (path : String) : Document → Option Artifact.Course
  | .course c => some (x.expandCourse path c).1
  | _ => none

theorem modulesKept (files : FileMap String) (config : Config) : (run files config).modules =
    (keptMap files config).entries.filterMap fun entry => moduleOf? (expansion files config) entry.1 entry.2 := by
  simp only [run, keptMap, expansion, List.filterMap_filterMap]
  congr 1
  funext entry
  obtain ⟨path, d⟩ := entry
  cases d <;> rfl

theorem coursesKept (files : FileMap String) (config : Config) : (run files config).courses =
    (keptMap files config).entries.filterMap fun entry => courseOf? (expansion files config) entry.1 entry.2 := by
  simp only [run, keptMap, expansion, List.filterMap_filterMap]
  congr 1
  funext entry
  obtain ⟨path, d⟩ := entry
  cases d <;> rfl

theorem modulesListed (files : FileMap String) (config : Config) :
    Listing (ModuleMade files config) (run files config).modules := by
  rw [modulesKept]
  refine (Listing.ofEntries (moduleOf? (expansion files config)) (keptMap files config)).congr fun path made => ?_
  constructor
  · rintro ⟨d, member, here⟩
    obtain ⟨partakes, fresh⟩ := memKept.mp member
    cases d with
    | module m => exact ⟨m, partakes, fresh m.slug m.slugLine rfl, (Option.some.inj here).symm⟩
    | _ => cases here
  · rintro ⟨m, partakes, fresh, rfl⟩
    refine ⟨.module m, memKept.mpr ⟨partakes, fun slug line found => ?_⟩, rfl⟩
    cases found
    exact fresh

theorem coursesListed (files : FileMap String) (config : Config) :
    Listing (CourseMade files config) (run files config).courses := by
  rw [coursesKept]
  refine (Listing.ofEntries (courseOf? (expansion files config)) (keptMap files config)).congr fun path made => ?_
  constructor
  · rintro ⟨d, member, here⟩
    obtain ⟨partakes, fresh⟩ := memKept.mp member
    cases d with
    | course c => exact ⟨c, partakes, fresh c.slug c.slugLine rfl, (Option.some.inj here).symm⟩
    | _ => cases here
  · rintro ⟨c, partakes, fresh, rfl⟩
    refine ⟨.course c, memKept.mpr ⟨partakes, fun slug line found => ?_⟩, rfl⟩
    cases found
    exact fresh

theorem moduleSlugsNodup (files : FileMap String) (config : Config) :
    ((run files config).modules.map Artifact.Module.slug).Nodup := by
  refine (modulesListed files config).mapNodup ?_
  rintro path made later made' ⟨m, partakes, _, rfl⟩ ⟨m', _, fresh, rfl⟩ less (same : m.slug = m'.slug)
  exact fresh path less ⟨.module m, m.slugLine, partakes, rfl, congrArg (fun slug => some (slug, m.slugLine)) same⟩

theorem courseSlugsNodup (files : FileMap String) (config : Config) :
    ((run files config).courses.map Artifact.Course.slug).Nodup := by
  refine (coursesListed files config).mapNodup ?_
  rintro path made later made' ⟨c, partakes, _, rfl⟩ ⟨c', _, fresh, rfl⟩ less (same : c.slug = c'.slug)
  exact fresh path less ⟨.course c, c.slugLine, partakes, rfl, congrArg (fun slug => some (slug, c.slugLine)) same⟩

theorem repetitionReported {path : String} {d : Document} {slug : String} {line : Nat}
    (partakes : Partakes files config path d) (found : d.slug? = some (slug, line))
    (again : ∃ earlier, earlier < path ∧ UsesSlug files config d.kind slug earlier) :
    ∃ first, first < path ∧ FirstUse files config d.kind slug first ∧
      (run files config).found.count ⟨path, some line,
        "Duplicate " ++ d.kind.label ++ " slug '" ++ slug ++ "': already used by " ++ first, none, .error⟩ = 1 := by
  obtain ⟨first, told⟩ := usesRepeated partakes found again
  obtain ⟨_, less, firstUse⟩ := repeatsFirst told
  refine ⟨first.file, less, firstUse, ?_⟩
  have listed : Uniqueness.slugError ⟨path, d.kind, slug, line⟩ first ∈ stages files config := by
    have reported : Uniqueness.slugError ⟨path, d.kind, slug, line⟩ first ∈
        Uniqueness.slugs (active (expansion files config).index) := List.mem_map.mpr ⟨_, told, rfl⟩
    simp [stages, reported]
  rw [runFound]
  exact List.count_eq_one_of_mem (eraseDupsNodup _) (List.mem_eraseDups.mpr listed)

theorem grantedPartakes {origin : Referrer} {reference : Reference} {expected : Kind} {path : String} {d : Document}
    (granted : (expansion files config).granted? origin reference expected = some (path, d)) :
    Partakes files config path d := by
  obtain ⟨_, file, leads, active, read⟩ := Expansion.grantedFiled (indexFiled files config) granted
  obtain ⟨text, present, indexed⟩ := getIndexed.mp leads.found
  obtain ⟨kind, placed, rfl⟩ := Option.map_eq_some_iff.mp indexed
  have read : (Document.parse kind config.reach.fields path text).value = some d := read
  exact ⟨text, kind, present, placed, read, (congrArg Tier.isIgnored (parseTier read)).trans active⟩

theorem moduleMade {path slug : String} (uses : UsesSlug files config .module slug path) :
    ∃ made ∈ (run files config).modules, made.slug = slug := by
  obtain ⟨first, ⟨d, line, partakes, kind, found⟩, fresh⟩ := firstUse uses
  cases d with
  | module m =>
    cases found
    exact ⟨_, (modulesListed files config).member.mpr ⟨first, m, partakes, fresh, rfl⟩, rfl⟩
  | _ => cases kind

theorem progressionClosed {c : Artifact.Course} (course : c ∈ (run files config).courses) {slug : String}
    (member : slug ∈ c.progression) : ((run files config).modules.map Artifact.Module.slug).count slug = 1 := by
  obtain ⟨path, course, _, _, rfl⟩ := (coursesListed files config).member.mp course
  obtain ⟨reference, there, m, granted, rfl⟩ := Expansion.progressionGranted member
  -- The module that the course refers to may be left out itself; the first of its slug never is.
  obtain ⟨made, listed, same⟩ := moduleMade ⟨.module m, m.slugLine, grantedPartakes granted, rfl, rfl⟩
  exact List.count_eq_one_of_mem (moduleSlugsNodup files config) (List.mem_map.mpr ⟨made, listed, same⟩)

theorem slugsSettled (files : FileMap String) (config : Config) : SlugsSettled files config (run files config) where
  modules := modulesListed files config
  courses := coursesListed files config
  moduleSlugs := moduleSlugsNodup files config
  courseSlugs := courseSlugsNodup files config
  reported _ _ _ _ := repetitionReported
  progressions _ course _ := progressionClosed course

end Syllabus.Build
