import Syllabus.Proofs.Build.Slugs
import Syllabus.Proofs.Document.Rejection
import Syllabus.Proofs.Expansion.Walk

/-! The order of findings. A build reads, compares names and expands, and tells what it finds in this order.
Readings come by path. Of the names, repeated UUIDs come by path, and then repeated slugs come by path. The
walks come by the paths of their roots; a walk tells of the files that it comes through, in its own order. So
the paths of a stage go down where a UUID is repeated in a file that lies behind one with a repeated slug, and
where a walk comes from one file to another that lies before it. -/
namespace Syllabus.Build

def told (before entries : List Diagnostic) : List Diagnostic := (entries.removeAll before).eraseDups

def InPathOrder (entries : List Diagnostic) : Prop := (entries.map Diagnostic.file).Pairwise (· ≤ ·)

theorem toldSublist (before entries : List Diagnostic) : (told before entries).Sublist entries :=
  (eraseDupsSublist _).trans List.filter_sublist

theorem groupsOrdered {α β : Type} {entries : List (String × α)} (ordered : (entries.map Prod.fst).Pairwise (· < ·))
    {f : String × α → List β} {file : β → String} (own : ∀ entry ∈ entries, ∀ b ∈ f entry, file b = entry.1) :
    ((entries.flatMap f).map file).Pairwise (· ≤ ·) := by
  rw [List.pairwise_map] at ordered
  rw [List.pairwise_map, List.pairwise_flatMap]
  constructor
  · intro entry member
    refine List.pairwise_of_forall_mem_list fun b left c right => ?_
    have same : file b = file c := (own entry member b left).trans (own entry member c right).symm
    exact same ▸ String.le_refl _
  · refine ordered.imp_of_mem fun {entry later} here there less b left c right => ?_
    rw [own entry here b left, own later there c right]
    exact Std.le_of_lt less

theorem repeatsOrdered {α κ : Type} [BEq κ] (key : α → κ) {file : α → String} {e : α → α → Diagnostic}
    (named : ∀ again first, (e again first).file = file again) {order : String → String → Prop} {uses : List α}
    (ordered : (uses.map file).Pairwise order) :
    (((Uniqueness.repeats key [] uses).map fun pair => e pair.1 pair.2).map Diagnostic.file).Pairwise order := by
  have repeated : ((Uniqueness.repeats key [] uses).map Prod.fst).Sublist uses := Uniqueness.repeatsSublist [] uses
  have files := repeated.map file
  rw [List.map_map] at files
  rw [List.map_map]
  simp only [Function.comp_def, named] at files ⊢
  exact ordered.sublist files

theorem identityNoSlug (again first : Uniqueness.IdentityPlace) (use other : Uniqueness.SlugPlace) :
    Uniqueness.identityError again first ≠ Uniqueness.slugError use other := by
  intro same
  have letters := congrArg (fun d : Diagnostic => d.message.toList[10]?) same
  simp only [Uniqueness.identityError, Uniqueness.slugError, String.toList_append, List.append_assoc] at letters
  rw [List.getElem?_append_left (by decide), List.getElem?_append_right (by decide)] at letters
  revert letters
  cases use.kind <;> rw [List.getElem?_append_left (by decide)] <;> decide

theorem removeNothing {α : Type} [BEq α] [LawfulBEq α] {items others : List α} (apart : ∀ a ∈ items, a ∉ others) :
    items.removeAll others = items := by
  refine List.filter_eq_self.mpr fun a member => ?_
  simpa using apart a member

theorem toldOrdered {entries : List Diagnostic} (ordered : InPathOrder entries) (before : List Diagnostic) :
    InPathOrder (told before entries) :=
  ordered.sublist ((toldSublist before entries).map _)

section Arranged

variable [Library]

def readStage (files : FileMap String) (config : Config) : List Diagnostic := readFindings (readFiles files config)

def identityStage (files : FileMap String) (config : Config) : List Diagnostic :=
  Uniqueness.identities (active (expansion files config).index)

def slugStage (files : FileMap String) (config : Config) : List Diagnostic :=
  Uniqueness.slugs (active (expansion files config).index)

def nameStage (files : FileMap String) (config : Config) : List Diagnostic :=
  identityStage files config ++ slugStage files config

def walkStage (files : FileMap String) (config : Config) : List Diagnostic :=
  ((kept (active (expansion files config).index)).filterMap (product? (expansion files config))).flatMap Prod.snd

instance (entries : List Diagnostic) : Decidable (InPathOrder entries) := by unfold InPathOrder; infer_instance

/-- Every stage goes by the paths of the files that its findings name. -/
structure StagesByPath (files : FileMap String) (config : Config) : Prop where
  read : InPathOrder (told [] (readStage files config))
  names : InPathOrder (told (readStage files config) (nameStage files config))
  walks : InPathOrder (told (readStage files config ++ nameStage files config) (walkStage files config))

inductive WalkFrom (files : FileMap String) (config : Config) (path : String) : List Diagnostic → Prop where
  | module {m : Module} (partakes : Partakes files config path (.module m))
      (first : ∀ earlier, earlier < path → ¬UsesSlug files config .module m.slug earlier) :
      WalkFrom files config path ((expansion files config).expandModule path m).2
  | course {c : Course} (partakes : Partakes files config path (.course c))
      (first : ∀ earlier, earlier < path → ¬UsesSlug files config .course c.slug earlier) :
      WalkFrom files config path ((expansion files config).expandCourse path c).2

structure Arranged (files : FileMap String) (config : Config) (found : List Diagnostic) : Prop where
  stages : found = told [] (readStage files config) ++ told (readStage files config) (nameStage files config) ++
    told (readStage files config ++ nameStage files config) (walkStage files config)
  read : InPathOrder (told [] (readStage files config))
  identities : InPathOrder (identityStage files config)
  slugs : ((slugStage files config).map Diagnostic.file).Pairwise (· < ·)
  names : InPathOrder (told (readStage files config) (nameStage files config)) ↔
    ∀ identity ∈ identityStage files config, ∀ slug ∈ slugStage files config, identity.file ≤ slug.file
  roots : ∃ walks, Listing (WalkFrom files config) walks ∧ walkStage files config = walks.flatten
  moduleWalks : ∀ path m, Listing ((expansion files config).ModuleFinds path m) ((expansion files config).expandModule path m).2
  courseWalks : ∀ path c, Listing ((expansion files config).CourseFinds path c) ((expansion files config).expandCourse path c).2
  walks : (∀ path walk, WalkFrom files config path walk → ∀ d ∈ walk, d.file = path) →
    InPathOrder (told (readStage files config ++ nameStage files config) (walkStage files config))

variable {files : FileMap String} {config : Config}

theorem stagesTold (files : FileMap String) (config : Config) : (run files config).found =
    told [] (readStage files config) ++ told (readStage files config) (nameStage files config) ++
      told (readStage files config ++ nameStage files config) (walkStage files config) := by
  have whole : (run files config).found =
      (readStage files config ++ nameStage files config ++ walkStage files config).eraseDups := rfl
  have first : told [] (readStage files config) = (readStage files config).eraseDups := by
    simp [told, List.removeAll]
  rw [whole, List.eraseDups_append, List.eraseDups_append, first]
  rfl

theorem readOrdered (files : FileMap String) (config : Config) : InPathOrder (readStage files config) := by
  rw [readStage, readFindingsEntries]
  refine groupsOrdered files.ordered fun entry _ d found => ?_
  unfold entryFindings at found
  split at found
  · cases found
  · split at found
    · cases found
    · obtain ⟨_, _, rfl⟩ := List.mem_map.mp found
      rfl

theorem identitiesOrdered (files : FileMap String) (config : Config) : InPathOrder (identityStage files config) := by
  have places : ((Uniqueness.identityPlaces (active (expansion files config).index)).map
      Uniqueness.IdentityPlace.file).Pairwise (· ≤ ·) := by
    refine groupsOrdered (activeOrdered files config) fun entry _ use declared => ?_
    obtain ⟨_, _, rfl⟩ := List.mem_map.mp declared
    rfl
  exact repeatsOrdered _ (e := Uniqueness.identityError) (fun _ _ => rfl) places

theorem slugsOrdered (files : FileMap String) (config : Config) :
    ((slugStage files config).map Diagnostic.file).Pairwise (· < ·) :=
  repeatsOrdered _ (e := Uniqueness.slugError) (fun _ _ => rfl)
    (Uniqueness.slugPlacesOrdered (activeOrdered files config))

theorem readingQuiet {path : String} {d : Document} (partakes : Partakes files config path d) {found : Diagnostic}
    (named : found.file = path) (severe : found.severity = .error) : found ∉ readStage files config := by
  -- What a reading says of a document that takes part is no error, as an error leaves no document.
  obtain ⟨text, kind, present, placed, read, _⟩ := partakes
  intro told
  rw [readStage, readFindingsEntries] at told
  obtain ⟨⟨path', text'⟩, inside, found'⟩ := List.mem_flatMap.mp told
  unfold entryFindings at found'
  split at found'
  · cases found'
  · split at found'
    · cases found'
    · rename_i kind' placed' _
      have here : path' = path := by
        obtain ⟨_, _, rfl⟩ := List.mem_map.mp found'
        exact named
      subst here
      have same : text' = text := Option.some.inj ((FileMap.get?Iff.mpr inside).symm.trans present)
      subst same
      rw [Option.some.inj (placed'.symm.trans placed)] at found'
      have blocking : (Document.parse kind config.reach.fields path' text').blocking = true :=
        (Diagnostic.blockingIff _).mpr ⟨found, found', severe⟩
      rw [Document.refusedOfBlocking blocking] at read
      cases read

theorem namesFresh : ∀ d ∈ nameStage files config, d ∉ readStage files config := by
  intro d member
  rcases List.mem_append.mp member with identity | slug
  · obtain ⟨⟨again, first⟩, told, rfl⟩ := List.mem_map.mp identity
    obtain ⟨before, after, split, _⟩ := Uniqueness.memRepeats.mp told
    have present : again ∈ Uniqueness.identityPlaces (active (expansion files config).index) := by simp [split]
    obtain ⟨⟨path, document⟩, taking, declared⟩ := List.mem_flatMap.mp present
    obtain ⟨use, inside, rfl⟩ := List.mem_map.mp declared
    exact readingQuiet (memActive.mp taking) rfl rfl
  · obtain ⟨⟨again, first⟩, told, rfl⟩ := List.mem_map.mp slug
    obtain ⟨document, taking, _, _⟩ := Uniqueness.memSlugPlaces.mp (repeatsFirst told).1
    exact readingQuiet (memActive.mp taking) rfl rfl

theorem slugsFresh : ∀ d ∈ slugStage files config, d ∉ identityStage files config := by
  intro d slug identity
  obtain ⟨⟨use, other⟩, _, rfl⟩ := List.mem_map.mp slug
  obtain ⟨⟨again, first⟩, _, same⟩ := List.mem_map.mp identity
  exact identityNoSlug again first use other same

theorem namesOrdered (files : FileMap String) (config : Config) :
    InPathOrder (told (readStage files config) (nameStage files config)) ↔
      ∀ identity ∈ identityStage files config, ∀ slug ∈ slugStage files config, identity.file ≤ slug.file := by
  have parted : told (readStage files config) (nameStage files config) =
      (identityStage files config).eraseDups ++ (slugStage files config).eraseDups := by
    rw [told, removeNothing namesFresh, nameStage, List.eraseDups_append, removeNothing slugsFresh]
  have identities := (identitiesOrdered files config).sublist ((eraseDupsSublist (identityStage files config)).map Diagnostic.file)
  have slugs := ((slugsOrdered files config).imp fun less => Std.le_of_lt less).sublist
    ((eraseDupsSublist (slugStage files config)).map Diagnostic.file)
  rw [InPathOrder, parted, List.map_append, List.pairwise_append, and_iff_right identities, and_iff_right slugs]
  simp only [List.mem_map, List.mem_eraseDups, forall_exists_index, and_imp, forall_apply_eq_imp_iff₂]

theorem walksListed (files : FileMap String) (config : Config) :
    ∃ walks, Listing (WalkFrom files config) walks ∧ walkStage files config = walks.flatten := by
  have listing := Listing.ofEntries (fun path d => (product? (expansion files config) (path, d)).map Prod.snd)
    (keptMap files config)
  refine ⟨_, listing.congr fun path walk => ?_, ?_⟩
  · constructor
    · rintro ⟨d, member, made⟩
      obtain ⟨partakes, fresh⟩ := memKept.mp member
      cases d with
      | module m =>
        cases made
        exact .module partakes (fresh m.slug m.slugLine rfl)
      | course c =>
        cases made
        exact .course partakes (fresh c.slug c.slugLine rfl)
      | _ => cases made
    · rintro (⟨partakes, first⟩ | ⟨partakes, first⟩)
      · refine ⟨_, memKept.mpr ⟨partakes, fun slug line found => ?_⟩, rfl⟩
        cases found
        exact first
      · refine ⟨_, memKept.mpr ⟨partakes, fun slug line found => ?_⟩, rfl⟩
        cases found
        exact first
  · rw [walkStage, List.flatMap_def, List.map_filterMap]
    rfl

theorem walksOrdered (own : ∀ path walk, WalkFrom files config path walk → ∀ d ∈ walk, d.file = path) :
    InPathOrder (walkStage files config) := by
  obtain ⟨walks, ⟨entries, rfl, ordered, same⟩, whole⟩ := walksListed files config
  rw [whole, InPathOrder, ← List.flatMap_def]
  exact groupsOrdered ordered fun entry member d found => own entry.1 entry.2 ((same ..).mp member) d found

theorem findingsArranged (files : FileMap String) (config : Config) : Arranged files config (run files config).found where
  stages := stagesTold files config
  read := toldOrdered (readOrdered files config) []
  identities := identitiesOrdered files config
  slugs := slugsOrdered files config
  names := namesOrdered files config
  roots := walksListed files config
  moduleWalks path m := Expansion.moduleFinds _ path m
  courseWalks path c := Expansion.courseFinds _ path c
  walks own := toldOrdered (walksOrdered own) _

end Arranged

def twinCourse : String := "---\nslug: c\ntitle: A\n---\n# Module: [[m]]\n"

def twinOutcome : String := "---\nid: 6ba7b810-9dad-11d1-80b4-00c04fd430c8\n---\n## Lens:\nsource:: [[l]]\n"

def twinVault : FileMap String :=
  ⟨[("courses/a.md", twinCourse), ("courses/b.md", twinCourse), ("learning outcomes/o.md", twinOutcome),
      ("learning outcomes/p.md", twinOutcome)],
    by simp only [List.map_cons, List.map_nil]; decide⟩

theorem twinDocuments : active (expansion twinVault .standard).index =
    [("courses/a.md", .course ⟨"c", 2, "A", .production, [⟨⟨"m", none, none⟩, false, 5⟩]⟩),
      ("courses/b.md", .course ⟨"c", 2, "A", .production, [⟨⟨"m", none, none⟩, false, 5⟩]⟩),
      ("learning outcomes/o.md", .learningOutcome
        ⟨⟨"6ba7b810-9dad-11d1-80b4-00c04fd430c8", 2⟩, none, .production, [⟨⟨"l", none, none⟩, false, 5⟩]⟩),
      ("learning outcomes/p.md", .learningOutcome
        ⟨⟨"6ba7b810-9dad-11d1-80b4-00c04fd430c8", 2⟩, none, .production, [⟨⟨"l", none, none⟩, false, 5⟩]⟩)] := by
  decide +kernel

theorem twinNamesOutOfOrder : ¬StagesByPath twinVault .standard := by
  intro byPath
  have behind := (namesOrdered twinVault .standard).mp byPath.names
  rw [identityStage, slugStage, twinDocuments] at behind
  revert behind
  decide +kernel

end Syllabus.Build
