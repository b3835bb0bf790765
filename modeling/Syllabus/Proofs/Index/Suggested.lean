import Syllabus.Proofs.Index.Resolution
import Syllabus.Proofs.Suggestion
import Syllabus.Proofs.WikiLink.Printing

/-! Where a suggestion leads that is written as a link. It is the name of an indexed file behind the directory of the
link that was not found, and no one asks whether this text is read as it was meant: a name may hold the signs that end
a target, and the directory may be written with more slashes than the one that is looked up. -/
namespace Syllabus

namespace WikiLink

structure Linkable (s : String) : Prop where
  bare : Chars.Bare s.toList
  unsigned : '#' ∉ s.toList ∧ '|' ∉ s.toList
  level : ¬Climbing s.toList
  named : s ≠ ".."

def bracketed (s : String) : String := "[[" ++ s ++ "]]"

theorem bracketedInner {s : String} {inner : List Char} (brackets : Brackets (bracketed s) inner) :
    inner = Chars.trim s.toList := by
  have whole : (bracketed s).toList = "[[".toList ++ s.toList ++ "]]".toList := by simp [bracketed]
  have bare : Chars.Bare (bracketed s).toList := by
    rw [whole]
    exact bareBracketed s.toList
  obtain ⟨between, same, rfl⟩ := brackets
  rw [(Chars.bareIff.mp bare).2, whole, List.append_assoc, List.append_assoc] at same
  rw [List.append_cancel_right (List.append_cancel_left same)]

theorem linkableIff {s : String} : parse (bracketed s) = .ok ⟨s, none, none⟩ ↔ Linkable s := by
  constructor
  · intro read
    have proper := parsedProper read
    obtain ⟨inner, brackets, level, _⟩ := parseIff.mp read
    have same := bracketedInner brackets
    rw [(Chars.bareIff.mp proper.target).2] at same
    subst same
    refine ⟨proper.target, ⟨proper.anchored, ?_⟩, proper.level.1, fun points => level (.alone (by rw [points]))⟩
    simpa [marked] using proper.labelled
  · intro linkable
    obtain ⟨bare, ⟨hash, bar⟩, level, named⟩ := linkable
    have proper : Proper ⟨s, none, none⟩ :=
      ⟨bare, by simp, by simp, hash, by simpa [marked] using bar, level, by simp, by simp⟩
    have text : text ⟨s, none, none⟩ = bracketed s := by simp [WikiLink.text, bracketed]
    rw [← text]
    exact parseText proper named

theorem CutAt.uncut {sign : Char} {s left : List Char} {right : Option String} (cut : CutAt sign s left right)
    (absent : sign ∉ s) : left = s ∧ right = none := by
  cases cut with
  | whole => exact ⟨rfl, rfl⟩
  | parts split => exact absurd (by rw [split]; simp) absent

theorem bracketedPlain {s : String} {l : WikiLink} (read : parse (bracketed s) = .ok l) (hash : '#' ∉ s.toList)
    (bar : '|' ∉ s.toList) : l = ⟨Text.trim s, none, none⟩ := by
  obtain ⟨inner, brackets, _, ⟨left, label, anchor⟩, _⟩ := parseIff.mp read
  rw [bracketedInner brackets] at label
  obtain ⟨rfl, unlabelled⟩ := label.uncut fun member => bar ((trimInfix s.toList).subset member)
  obtain ⟨same, unanchored⟩ := anchor.uncut fun member => hash ((trimInfix s.toList).subset member)
  cases l with
  | mk target anchor label =>
    cases unlabelled
    cases unanchored
    rw [Text.trim, ← same, String.ofList_toList]

end WikiLink

namespace VaultPath

theorem trimmedName {dir name : String} (headed : ∀ c ∈ dir.toList.head?, Text.isBlank c = false)
    (bare : '/' ∉ name.toList) : (fileName (Text.trim (join dir name))).toList.length ≤ name.toList.length ∧
      (fileName (Text.trim (join dir name)) = name → Text.trim (join dir name) = join dir name) := by
  by_cases root : dir = ""
  · have inside : Chars.trim name.toList <:+: name.toList := WikiLink.trimInfix name.toList
    have whole : fileName (Text.trim name) = Text.trim name := by
      apply fileNameWhole
      rw [Text.trimToList]
      exact fun slash => bare (inside.subset slash)
    rw [root, joinRoot, whole, Text.trimToList]
    exact ⟨inside.length_le, id⟩
  · have trimmed : Text.trim (join dir name) = dir ++ "/" ++ Text.trimEnd name := by
      have filled : dir.toList ≠ [] := fun none => root (String.toList_inj.mp none)
      obtain ⟨c, rest, first⟩ := List.exists_cons_of_ne_nil filled
      have solid : Text.isBlank c = false := headed c (by rw [first]; rfl)
      have slash : Text.isBlank '/' = false := by decide
      apply String.toList_inj.mp
      rw [joinBelow root, Text.trimToList]
      simp only [String.toList_append, first, Text.trimEnd, String.toList_ofList, List.append_assoc, List.cons_append]
      rw [Chars.trimSolid solid]
      exact congrArg (c :: ·) (Chars.trimEndPast rest slash name.toList)
    obtain ⟨tail, whole, _⟩ := Chars.trimEndSplit name.toList
    have shorter : (Text.trimEnd name).toList <+: name.toList := by
      rw [Text.trimEnd, String.toList_ofList]
      exact ⟨tail, whole.symm⟩
    have named : fileName (Text.trim (join dir name)) = Text.trimEnd name :=
      fileNameIff.mpr ⟨fun slash => bare (shorter.subset slash), .inr ⟨dir, trimmed⟩⟩
    rw [named, trimmed, joinBelow root]
    exact ⟨shorter.length_le, fun same => by rw [same]⟩

theorem trimmedWhole {dir name : String} (headed : ∀ c ∈ dir.toList.head?, Text.isBlank c = false)
    (bare : '/' ∉ name.toList) (same : stem (withExtension (Text.trim (join dir name))) = name) :
    Text.trim (join dir name) = join dir name ∧ ¬isMarkdown name = true := by
  obtain ⟨shorter, kept⟩ := trimmedName headed bare
  by_cases markdown : isMarkdown (Text.trim (join dir name)) = true
  · rw [withExtension, if_pos markdown] at same
    rw [fileNameMarkdown markdown, same, String.toList_append, List.length_append] at shorter
    have longer : 0 < extension.toList.length := by decide
    omega
  · rw [withExtension, if_neg markdown, stemExtended] at same
    refine ⟨kept same, ?_⟩
    rwa [← same, markdownFileName]

end VaultPath

namespace Index
open VaultPath (parent stem fileName join isMarkdown extension)
open WikiLink (Linkable bracketed)

structure Nameable (name : String) : Prop where
  bare : Chars.Bare name.toList
  unsigned : '#' ∉ name.toList ∧ '|' ∉ name.toList
  level : ¬"..\\".toList <:+: name.toList
  named : name ≠ ".."

def Follows (index : Index) (origin : String) (link : WikiLink) (most : Nat) (s name : String) : Prop :=
  ∃ l found, WikiLink.parse (bracketed s) = .ok l ∧ index.resolve origin l most = .ok found ∧ found ∈ index.paths ∧
    stem found = name ∧ EditDistance.between (stem link.target) (stem found) ≤ most

def Locates (index : Index) (origin s path : String) : Prop :=
  join (parent origin) (s ++ extension) ∈ index.paths ∨ s ++ extension ∈ index.paths ∨
    ∀ other ∈ index.paths, fileName other = fileName path → other = path

def Slashed (dir : String) : Prop := dir.toList.getLast? = some '/'

def directoryOf (origin : String) (link : WikiLink) : String :=
  if parent link.target = "" then parent origin else parent link.target

structure Suggests (index : Index) (origin : String) (link : WikiLink) (most : Nat) (s path : String) : Prop where
  indexed : path ∈ index.paths
  directory : parent path ∈ directoriesOf origin link.target
  written : s = join (parent link.target) (stem path)
  near : EditDistance.between (stem link.target) (stem path) ≤ most
  read : WikiLink.parse (bracketed s) = .ok ⟨s, none, none⟩ ↔ Linkable s
  linkable : Nameable (stem path) → Linkable s
  followed : Follows index origin link most s (stem path) ↔
    Linkable s ∧ ¬isMarkdown (stem path) = true ∧ Locates index origin s path
  located : ¬Slashed (directoryOf origin link) → Locates index origin s path
  leads : Nameable (stem path) → ¬isMarkdown (stem path) = true → ¬Slashed (directoryOf origin link) →
    Follows index origin link most s (stem path)

variable {index : Index} {origin : String} {link : WikiLink} {most : Nat}

theorem nearestSuggests {target s : String} (nearest : index.nearest? origin target most = some s) :
    ∃ path ∈ index.paths, parent path ∈ directoriesOf origin target ∧ s = join (parent target) (stem path) ∧
      EditDistance.between (stem target) (stem path) ≤ most := by
  obtain ⟨name, closest, rfl⟩ := Option.map_eq_some_iff.mp nearest
  obtain ⟨member, near⟩ := Suggestion.closestNear closest
  obtain ⟨path, listed, rfl⟩ := List.mem_map.mp member
  obtain ⟨indexed, within⟩ := List.mem_filter.mp listed
  exact ⟨path, indexed, List.contains_iff_mem.mp within, rfl, near⟩

theorem stemOfFileName {path other : String} (same : fileName path = fileName other) : stem path = stem other := by
  rw [stem, same, stem]

theorem foundStem {found : String} (resolved : index.resolve origin link most = .ok found) :
    stem found = stem link.path := by
  apply stemOfFileName
  cases resolveIff.mp resolved with
  | beside _ => exact VaultPath.fileNameJoin _ _
  | root _ _ => rfl
  | sole _ _ one => exact ((one found).mpr rfl).2

theorem directoryHead {text : String} (read : WikiLink.parse text = .ok link) :
    ∀ c ∈ (parent link.target).toList.head?, Text.isBlank c = false := by
  intro c first
  obtain ⟨d, rest, whole, solid⟩ := (WikiLink.parsedProper read).target.head
  obtain ⟨behind, starts⟩ := VaultPath.parentPrefix link.target
  have same : link.target.toList.head? = some c := by rw [← starts, List.head?_append, Option.mem_def.mp first]; rfl
  rw [whole] at same
  cases same
  exact solid

theorem directoryUnsigned {text : String} (read : WikiLink.parse text = .ok link) :
    '#' ∉ (parent link.target).toList ∧ '|' ∉ (parent link.target).toList := by
  have inside := (VaultPath.parentPrefix link.target).subset
  have proper := WikiLink.parsedProper read
  exact ⟨fun member => proper.anchored (inside member),
    fun member => proper.labelled (List.mem_append_left _ (inside member))⟩

theorem stemInside (target : String) : (stem (VaultPath.withExtension target)).toList <:+: target.toList := by
  rw [VaultPath.withExtension]
  split
  · exact ((VaultPath.stemPrefix target).isInfix).trans (VaultPath.fileNameSuffix target).isInfix
  · rw [VaultPath.stemExtended]
    exact (VaultPath.fileNameSuffix target).isInfix

theorem followedAsWritten {text name : String} {l : WikiLink} (read : WikiLink.parse text = .ok link)
    (bare : '/' ∉ name.toList) (again : WikiLink.parse (bracketed (join (parent link.target) name)) = .ok l)
    (same : stem l.path = name) :
    l = ⟨join (parent link.target) name, none, none⟩ ∧ ¬isMarkdown name = true := by
  have proper := WikiLink.parsedProper again
  have trimmed := (WikiLink.parseFormed again).trimmed
  obtain ⟨hash, bar⟩ := directoryUnsigned read
  rw [WikiLink.path, trimmed] at same
  -- The name stands in a target, which has no signs, and so the text has none that could end the target early.
  have inside : name.toList <:+: l.target.toList := same ▸ stemInside l.target
  have joined {c : Char} (inDir : c ∉ (parent link.target).toList) (other : c ≠ '/') (inName : c ∉ name.toList) :
      c ∉ (join (parent link.target) name).toList := by
    unfold join
    split <;> simp [inDir, other, inName]
  have unhashed := joined hash (by decide) fun member => proper.anchored (inside.subset member)
  have unbarred := joined bar (by decide) fun member => proper.labelled (List.mem_append_left _ (inside.subset member))
  obtain rfl := WikiLink.bracketedPlain again unhashed unbarred
  obtain ⟨whole, plain⟩ := VaultPath.trimmedWhole (directoryHead read) bare same
  exact ⟨by rw [whole], plain⟩

theorem flatBare {name : String} (bare : '/' ∉ name.toList) (flat : ¬"..\\".toList <:+: name.toList) :
    ¬WikiLink.Climbing name.toList := by
  intro climbing
  cases climbing with
  | inl slash => exact bare (slash.subset (by decide))
  | inr backslash => exact flat backslash

theorem flatBehind {dir name : List Char} (level : ¬WikiLink.Climbing (dir ++ ['/'])) (bare : '/' ∉ name)
    (flat : ¬"..\\".toList <:+: name) : ¬WikiLink.Climbing (dir ++ '/' :: name) := by
  intro climbing
  cases climbing with
  | inl slash =>
    obtain ⟨start, stop, same⟩ := slash
    have cut : (start ++ "../".toList) ++ stop = (dir ++ ['/']) ++ name := by rw [same]; simp
    cases List.append_eq_append_iff.mp cut with
    | inl early =>
      obtain ⟨rest, whole, _⟩ := early
      exact level (.inl ⟨start, rest, whole.symm⟩)
    | inr late =>
      -- The slash that ends the points would be one of the name.
      obtain ⟨rest, whole, behind⟩ := late
      cases List.eq_nil_or_concat rest with
      | inl none => exact level (.inl ⟨start, [], by rw [whole, none, List.append_nil, List.append_nil]⟩)
      | inr more =>
        obtain ⟨before, last, rfl⟩ := more
        rw [List.concat_eq_append] at whole behind
        have ends : (start ++ ['.', '.']) ++ ['/'] = (dir ++ ['/'] ++ before) ++ [last] := by
          rw [List.append_assoc, List.append_assoc _ before, ← whole]
          rfl
        obtain ⟨_, same⟩ := List.append_inj' ends rfl
        cases same
        exact bare (by rw [behind]; simp)
  | inr backslash =>
    cases Chars.infixApart (by decide) backslash with
    | inl early => exact level (.inr (early.trans (List.prefix_append _ _).isInfix))
    | inr late => exact flat late

theorem bareBehind {dir name : List Char} (filled : dir ≠ []) (headed : ∀ c ∈ dir.head?, Text.isBlank c = false)
    (bare : Chars.Bare name) : Chars.Bare (dir ++ '/' :: name) := by
  obtain ⟨c, rest, rfl⟩ := List.exists_cons_of_ne_nil filled
  obtain ⟨before, last, rfl, solid⟩ := bare.last
  exact ⟨⟨c, _, rfl, headed c rfl⟩, c :: rest ++ '/' :: before, last, by simp, solid⟩

theorem nameableLinkable {text name : String} (read : WikiLink.parse text = .ok link) (bare : '/' ∉ name.toList)
    (nameable : Nameable name) : Linkable (join (parent link.target) name) := by
  obtain ⟨whole, ⟨hash, bar⟩, flat, named⟩ := nameable
  by_cases root : parent link.target = ""
  · rw [root, VaultPath.joinRoot]
    exact ⟨whole, ⟨hash, bar⟩, flatBare bare flat, named⟩
  · obtain ⟨dirHash, dirBar⟩ := directoryUnsigned read
    have starts : (parent link.target).toList ++ ['/'] <+: link.target.toList := by
      have same := congrArg String.toList (VaultPath.pathJoined root)
      rw [VaultPath.joinBelow root] at same
      exact ⟨(fileName link.target).toList, by simpa using same.symm⟩
    have level : ¬WikiLink.Climbing ((parent link.target).toList ++ ['/']) :=
      fun climbing => (WikiLink.parsedProper read).level.1 (climbing.wider starts.isInfix)
    have filled : (parent link.target).toList ≠ [] := fun none => root (String.toList_inj.mp none)
    have joined : (join (parent link.target) name).toList = (parent link.target).toList ++ '/' :: name.toList := by
      rw [VaultPath.joinBelow root]
      simp
    constructor
    case bare =>
      rw [joined]
      exact bareBehind filled (directoryHead read) whole
    case unsigned => simp [joined, dirHash, dirBar, hash, bar]
    case level =>
      rw [joined]
      exact flatBehind level bare flat
    case named =>
      intro points
      have slash : '/' ∈ (join (parent link.target) name).toList := by simp [joined]
      rw [points] at slash
      exact absurd slash (by decide)

theorem trimSlashesKept {dir : String} (plain : ¬Slashed dir) : trimSlashes dir = dir := by
  rw [Slashed, ← List.head?_reverse] at plain
  apply String.toList_inj.mp
  rw [trimSlashes, String.toList_ofList]
  cases turned : dir.toList.reverse with
  | nil => rw [List.reverse_eq_nil_iff.mp turned]; rfl
  | cons c rest =>
    rw [turned] at plain
    have other : ¬c = '/' := fun same => plain (congrArg some same)
    rw [List.dropWhile_cons_of_neg (by simpa using other), ← turned, List.reverse_reverse]

theorem trimSlashesEnd (dir : String) : trimSlashes (dir ++ "/") = trimSlashes dir := by
  simp [trimSlashes]

theorem joinSlashed {dir : String} (below : dir ≠ "") (before : String) : Slashed (join before dir) ↔ Slashed dir := by
  have filled : dir.toList ≠ [] := fun none => below (String.toList_inj.mp none)
  unfold join
  split
  · rfl
  · rw [Slashed, String.toList_append, List.getLast?_append_of_ne_nil _ filled, Slashed]

theorem directoriesWritten {dir : String} (below : dir ≠ "") (directory : dir ∈ directoriesOf origin link.target)
    (plain : ¬Slashed (directoryOf origin link)) :
    dir = parent link.target ∨ parent link.target ≠ "" ∧ dir = join (parent origin) (parent link.target) ∨
      parent link.target = "" ∧ dir = parent origin := by
  have either : dir = trimSlashes (parent link.target) ∨
      dir = trimSlashes (join (parent origin) (parent link.target)) := by
    simpa [directoriesOf] using directory
  by_cases root : parent link.target = ""
  · rw [directoryOf, if_pos root] at plain
    rw [root] at either
    have beside : dir = trimSlashes (join (parent origin) "") := either.resolve_left below
    by_cases top : parent origin = ""
    · rw [top] at beside
      exact absurd beside below
    · rw [VaultPath.joinBelow top, String.append_empty, trimSlashesEnd, trimSlashesKept plain] at beside
      exact .inr (.inr ⟨root, beside⟩)
  · rw [directoryOf, if_neg root] at plain
    rw [trimSlashesKept plain, trimSlashesKept (mt (joinSlashed root _).mp plain)] at either
    cases either with
    | inl same => exact .inl same
    | inr same => exact .inr (.inl ⟨root, same⟩)

theorem locatedSuggestion {path : String} (indexed : path ∈ index.paths) (markdown : isMarkdown path = true)
    (below : parent path ≠ "") (directory : parent path ∈ directoriesOf origin link.target)
    (plain : ¬Slashed (directoryOf origin link)) :
    Locates index origin (join (parent link.target) (stem path)) path := by
  have whole := VaultPath.pathJoined below
  rw [VaultPath.fileNameMarkdown markdown] at whole
  rw [Locates, VaultPath.joinAppend]
  rcases directoriesWritten below directory plain with same | ⟨inner, same⟩ | ⟨root, same⟩
  · rw [← same, ← whole]
    exact .inr (.inl indexed)
  · rw [VaultPath.joinJoin inner, ← same, ← whole]
    exact .inl indexed
  · rw [root, VaultPath.joinRoot, ← same, ← whole]
    exact .inl indexed

theorem linkablePath {s : String} (linkable : Linkable s) (plain : ¬isMarkdown s = true) :
    WikiLink.path ⟨s, none, none⟩ = s ++ extension := by
  have kept : Text.trim s = s := by rw [Text.trim, (Chars.bareIff.mp linkable.bare).2, String.ofList_toList]
  rw [WikiLink.path, kept, VaultPath.withExtension, if_neg plain]

theorem resolvesIff {path : String} (here : index.Matches link path) :
    (∃ found, index.resolve origin link most = .ok found) ↔
      beside origin link ∈ index.paths ∨ link.path ∈ index.paths ∨ ∀ other, index.Matches link other → other = path := by
  constructor
  · intro resolved
    obtain ⟨found, resolved⟩ := resolved
    cases resolveIff.mp resolved with
    | beside stands => exact .inl stands
    | root _ stands => exact .inr (.inl stands)
    | sole _ _ one =>
      exact .inr (.inr fun other there => ((one other).mp there).trans ((one path).mp here).symm)
  · intro located
    by_cases near : beside origin link ∈ index.paths
    · exact ⟨_, resolveIff.mpr (.beside near)⟩
    · by_cases root : link.path ∈ index.paths
      · exact ⟨_, resolveIff.mpr (.root near root)⟩
      · have one := (located.resolve_left near).resolve_left root
        exact ⟨path, resolveIff.mpr (.sole near root fun other => ⟨one other, fun same => same ▸ here⟩)⟩

theorem locatesIff {s path : String} (indexed : path ∈ index.paths) (markdown : isMarkdown path = true)
    (named : fileName s = stem path) (looked : WikiLink.path ⟨s, none, none⟩ = s ++ extension) :
    (∃ found, index.resolve origin ⟨s, none, none⟩ most = .ok found) ↔ Locates index origin s path := by
  have same : fileName (WikiLink.path ⟨s, none, none⟩) = fileName path := by
    rw [looked, VaultPath.fileNameExtended, named, VaultPath.fileNameMarkdown markdown]
  rw [resolvesIff ⟨indexed, same.symm⟩, beside, Locates, looked]
  simp only [Matches, same, and_imp]

theorem followsIff {text s path : String} (read : WikiLink.parse text = .ok link)
    (indexed : path ∈ index.paths) (markdown : isMarkdown path = true)
    (written : s = join (parent link.target) (stem path))
    (near : EditDistance.between (stem link.target) (stem path) ≤ most) :
    Follows index origin link most s (stem path) ↔
      Linkable s ∧ ¬isMarkdown (stem path) = true ∧ Locates index origin s path := by
  have bare := VaultPath.stemBare path
  have named : fileName s = stem path := by rw [written, VaultPath.fileNameJoin, VaultPath.fileNameWhole bare]
  have plainIff : isMarkdown (stem path) = true ↔ isMarkdown s = true := by rw [← named, VaultPath.markdownFileName]
  constructor
  · intro follows
    obtain ⟨l, found, again, resolved, _, same, _⟩ := follows
    have stemmed : stem l.path = stem path := (foundStem resolved).symm.trans same
    rw [written] at again
    obtain ⟨rfl, plain⟩ := followedAsWritten read bare again stemmed
    rw [← written] at again resolved
    have linkable := WikiLink.linkableIff.mp again
    have looked := linkablePath linkable (mt plainIff.mpr plain)
    exact ⟨linkable, plain, (locatesIff indexed markdown named looked).mp ⟨found, resolved⟩⟩
  · intro stands
    obtain ⟨linkable, plain, located⟩ := stands
    have looked := linkablePath linkable (mt plainIff.mpr plain)
    obtain ⟨found, resolved⟩ := (locatesIff indexed markdown named looked).mpr located
    have same : stem found = stem path := by
      rw [foundStem resolved, looked, VaultPath.stemExtended, named]
    exact ⟨_, found, WikiLink.linkableIff.mpr linkable, resolved, (resolveIff.mp resolved).indexed, same,
      by rw [same]; exact near⟩

theorem suggestionLeads {text target s : String}
    (indexed : ∀ path ∈ index.paths, parent path ≠ "" ∧ isMarkdown path = true)
    (read : WikiLink.parse text = .ok link)
    (missed : index.resolve origin link most = .error (.notFound target (some s))) :
    ∃ path, Suggests index origin link most s path := by
  have nearest : index.nearest? origin link.target most = some s := by
    have none := missingIff.mp ⟨target, some s, missed⟩
    have answer := resolveOfAnswer (Answer.missing none : Answer index origin link most _)
    rw [missed] at answer
    exact (LinkFailure.notFound.inj (Except.error.inj answer)).2.symm
  obtain ⟨path, member, directory, written, near⟩ := nearestSuggests nearest
  obtain ⟨below, markdown⟩ := indexed path member
  have linkable : Nameable (stem path) → Linkable s := fun nameable =>
    written ▸ nameableLinkable read (VaultPath.stemBare path) nameable
  have followed : Follows index origin link most s (stem path) ↔
      Linkable s ∧ ¬isMarkdown (stem path) = true ∧ Locates index origin s path :=
    followsIff read member markdown written near
  have located : ¬Slashed (directoryOf origin link) → Locates index origin s path := fun plain =>
    written ▸ locatedSuggestion member markdown below directory plain
  exact ⟨path, member, directory, written, near, WikiLink.linkableIff, linkable, followed, located,
    fun nameable plain unslashed => followed.mpr ⟨linkable nameable, plain, located unslashed⟩⟩

def ofLenses (paths : List String) : Index :=
  paths.foldl (fun index path => index.insert path ⟨.lens, .production, none⟩) empty

theorem swappedLettersLead :
    let index := ofLenses ["articles/intro.md", "lenses/intro.md"]
    let link : WikiLink := ⟨"lenses/itnro", some "Part 2", none⟩
    (∀ path ∈ index.paths, parent path ≠ "" ∧ isMarkdown path = true) ∧
      WikiLink.parse "[[lenses/itnro#Part 2]]" = .ok link ∧
      index.resolve "modules/one.md" link 2 = .error (.notFound "lenses/itnro" (some "lenses/intro")) ∧
      ∃ path, Suggests index "modules/one.md" link 2 "lenses/intro" path := by
  intro index link
  have indexed : ∀ path ∈ index.paths, parent path ≠ "" ∧ isMarkdown path = true := by decide +kernel
  have read : WikiLink.parse "[[lenses/itnro#Part 2]]" = .ok link := by decide +kernel
  have missed : index.resolve "modules/one.md" link 2 = .error (.notFound "lenses/itnro" (some "lenses/intro")) := by
    decide +kernel
  exact ⟨indexed, read, missed, suggestionLeads indexed read missed⟩

theorem suggestionsMislead :
    let signed := ofLenses ["lenses/C# basics.md"]
    let twice := ofLenses ["articles/intro.md", "lenses/intro.md"]
    (∀ path ∈ signed.paths ++ twice.paths, parent path ≠ "" ∧ isMarkdown path = true) ∧
      (WikiLink.parse "[[lenses/C basics]]" = .ok ⟨"lenses/C basics", none, none⟩ ∧
        signed.resolve "modules/one.md" ⟨"lenses/C basics", none, none⟩ 2 =
          .error (.notFound "lenses/C basics" (some "lenses/C# basics")) ∧
        WikiLink.parse "[[lenses/C# basics]]" = .ok ⟨"lenses/C", some "basics", none⟩ ∧
        signed.resolve "modules/one.md" ⟨"lenses/C", some "basics", none⟩ 2 = .error (.notFound "lenses/C" none)) ∧
      WikiLink.parse "[[lenses//itnro]]" = .ok ⟨"lenses//itnro", none, none⟩ ∧
        twice.resolve "modules/one.md" ⟨"lenses//itnro", none, none⟩ 2 =
          .error (.notFound "lenses//itnro" (some "lenses//intro")) ∧
        WikiLink.parse "[[lenses//intro]]" = .ok ⟨"lenses//intro", none, none⟩ ∧
        twice.resolve "modules/one.md" ⟨"lenses//intro", none, none⟩ 2 =
          .error (.ambiguous "lenses//intro" ["articles/intro.md", "lenses/intro.md"]) := by
  decide +kernel

end Index

end Syllabus
