import Syllabus.Proofs.Text
import Syllabus.VaultPath

/-! The file name of a path is what follows its last slash, so that a path in a directory has the file name that it
has outside of it, and a path is put together again from its directory and its file name. -/
namespace Syllabus.VaultPath

theorem splitBare {s name : List Char} (cut : splitLast s = (none, name)) : name = s ∧ '/' ∉ s := by
  induction s generalizing name with
  | nil =>
    cases cut
    exact ⟨rfl, List.not_mem_nil⟩
  | cons c rest ih =>
    rw [splitLast] at cut
    split at cut
    · cases cut
    · rename_i later cutLater
      split at cut
      · cases cut
      · rename_i plain
        cases cut
        obtain ⟨rfl, bare⟩ := ih cutLater
        exact ⟨rfl, by simp [bare, Ne.symm plain]⟩

theorem splitSlash {s dir name : List Char} (cut : splitLast s = (some dir, name)) :
    s = dir ++ '/' :: name ∧ '/' ∉ name := by
  induction s generalizing dir with
  | nil => cases cut
  | cons c rest ih =>
    rw [splitLast] at cut
    split at cut
    · rename_i before later cutLater
      cases cut
      obtain ⟨whole, bare⟩ := ih cutLater
      exact ⟨congrArg (c :: ·) whole, bare⟩
    · rename_i later cutLater
      split at cut
      · rename_i slash
        cases cut
        obtain ⟨rfl, bare⟩ := splitBare cutLater
        exact ⟨by rw [slash, List.nil_append], bare⟩
      · cases cut

theorem splitOfBare {s : List Char} (bare : '/' ∉ s) : splitLast s = (none, s) := by
  induction s with
  | nil => rfl
  | cons c rest ih =>
    rw [List.mem_cons, not_or] at bare
    obtain ⟨plain, bare⟩ := bare
    rw [splitLast, ih bare]
    exact if_neg (Ne.symm plain)

theorem splitOfSlash (dir : List Char) {name : List Char} (bare : '/' ∉ name) :
    splitLast (dir ++ '/' :: name) = (some dir, name) := by
  induction dir with
  | nil => rw [List.nil_append, splitLast, splitOfBare bare]; rfl
  | cons c rest ih => rw [List.cons_append, splitLast, ih]

def Ends (path name : String) : Prop := '/' ∉ name.toList ∧ (path = name ∨ ∃ dir, path = dir ++ "/" ++ name)

theorem endsFileName (path : String) : Ends path (fileName path) := by
  cases cut : splitLast path.toList with
  | mk dir name =>
    have named : (fileName path).toList = name := by rw [fileName, cut, String.toList_ofList]
    cases dir with
    | none =>
      obtain ⟨rfl, bare⟩ := splitBare cut
      exact ⟨named ▸ bare, .inl (String.toList_inj.mp named.symm)⟩
    | some dir =>
      obtain ⟨whole, bare⟩ := splitSlash cut
      refine ⟨named ▸ bare, .inr ⟨.ofList dir, String.toList_inj.mp ?_⟩⟩
      simp [whole, named]

theorem fileNameIff {path name : String} : fileName path = name ↔ Ends path name := by
  constructor
  · intro same
    exact same ▸ endsFileName path
  · intro ends
    obtain ⟨bare, whole⟩ := ends
    apply String.toList_inj.mp
    cases whole with
    | inl same => rw [fileName, String.toList_ofList, same, splitOfBare bare]
    | inr below =>
      obtain ⟨dir, same⟩ := below
      have cut := splitOfSlash dir.toList bare
      rw [fileName, String.toList_ofList, same]
      simp [cut]

theorem joinRoot (rest : String) : join "" rest = rest := rfl

theorem joinBelow {dir : String} (below : dir ≠ "") (rest : String) : join dir rest = dir ++ "/" ++ rest := by
  rw [join, if_neg (by simpa using below)]

theorem joinAppend (dir rest tail : String) : join dir rest ++ tail = join dir (rest ++ tail) := by
  unfold join
  split
  · rfl
  · rw [String.append_assoc]

theorem joinJoin {dir : String} (below : dir ≠ "") (before rest : String) :
    join before (join dir rest) = join (join before dir) rest := by
  by_cases root : before = ""
  · rw [root, joinRoot, joinRoot]
  · have filled : before ++ "/" ++ dir ≠ "" := by simp [String.append_eq_empty_iff, below]
    rw [joinBelow below, joinBelow root, joinBelow root, joinBelow filled]
    simp only [String.append_assoc]

theorem endsJoin (dir : String) {rest name : String} (ends : Ends rest name) : Ends (join dir rest) name := by
  obtain ⟨bare, whole⟩ := ends
  unfold join
  split
  · exact ⟨bare, whole⟩
  · cases whole with
    | inl same => exact ⟨bare, .inr ⟨dir, by rw [same]⟩⟩
    | inr below =>
      obtain ⟨inner, same⟩ := below
      exact ⟨bare, .inr ⟨dir ++ "/" ++ inner, by rw [same]; simp only [String.append_assoc]⟩⟩

theorem fileNameJoin (dir rest : String) : fileName (join dir rest) = fileName rest :=
  fileNameIff.mpr (endsJoin dir (endsFileName rest))

theorem fileNameWhole {path : String} (root : '/' ∉ path.toList) : fileName path = path :=
  fileNameIff.mpr ⟨root, .inl rfl⟩

theorem fileNameSuffix (path : String) : (fileName path).toList <:+ path.toList := by
  obtain ⟨_, whole⟩ := endsFileName path
  cases whole with
  | inl same => exact ⟨[], by rw [← same]; rfl⟩
  | inr below =>
    obtain ⟨dir, same⟩ := below
    refine ⟨dir.toList ++ ['/'], ?_⟩
    conv_rhs => rw [same]
    simp

theorem pathJoined {path : String} (below : parent path ≠ "") : path = join (parent path) (fileName path) := by
  rw [joinBelow below]
  rw [parent, fileName] at *
  cases cut : splitLast path.toList with
  | mk dir name =>
    cases dir with
    | none => simp [cut] at below
    | some dir =>
      apply String.toList_inj.mp
      simp [(splitSlash cut).1]

theorem parentPrefix (path : String) : (parent path).toList <+: path.toList := by
  by_cases root : parent path = ""
  · rw [root]
    exact List.nil_prefix
  · have whole := congrArg String.toList (pathJoined root)
    rw [joinBelow root] at whole
    refine ⟨'/' :: (fileName path).toList, ?_⟩
    conv_rhs => rw [whole]
    simp

theorem markdownIff {path : String} : isMarkdown path = true ↔ ∃ before, path = before ++ extension := by
  rw [isMarkdown, Text.endsWith, List.isSuffixOf_iff_suffix]
  constructor
  · intro ends
    obtain ⟨before, whole⟩ := ends
    exact ⟨.ofList before, String.toList_inj.mp (by simp [whole])⟩
  · intro whole
    obtain ⟨before, rfl⟩ := whole
    exact ⟨before.toList, by simp⟩

theorem fileNameExtended (path : String) : fileName (path ++ extension) = fileName path ++ extension := by
  obtain ⟨bare, whole⟩ := endsFileName path
  have plain : '/' ∉ (fileName path ++ extension).toList := by simp [bare, extension]
  refine fileNameIff.mpr ⟨plain, ?_⟩
  cases whole with
  | inl same => exact .inl (by rw [← same])
  | inr below =>
    obtain ⟨dir, same⟩ := below
    refine .inr ⟨dir, ?_⟩
    conv_lhs => rw [same]
    simp only [String.append_assoc]

theorem stemExtended (path : String) : stem (path ++ extension) = fileName path := by
  rw [stem, fileNameExtended, Text.dropSuffix, Text.before?, String.toList_append, Chars.suffixOfAppend]
  exact String.ofList_toList

theorem fileNameMarkdown {path : String} (markdown : isMarkdown path = true) :
    fileName path = stem path ++ extension := by
  obtain ⟨before, rfl⟩ := markdownIff.mp markdown
  rw [stemExtended, fileNameExtended]

theorem markdownFileName {path : String} : isMarkdown (fileName path) = true ↔ isMarkdown path = true := by
  constructor
  · intro markdown
    have tail := List.isSuffixOf_iff_suffix.mp markdown
    exact List.isSuffixOf_iff_suffix.mpr (tail.trans (fileNameSuffix path))
  · intro markdown
    obtain ⟨before, rfl⟩ := markdownIff.mp markdown
    exact markdownIff.mpr ⟨fileName before, fileNameExtended before⟩

theorem stemPlain {path : String} (plain : ¬isMarkdown path = true) : stem path = fileName path := by
  cases cut : Text.before? extension (fileName path) with
  | none => rw [stem, Text.dropSuffix, cut, Option.getD_none]
  | some before =>
    obtain ⟨start, found, rfl⟩ := Option.map_eq_some_iff.mp cut
    have markdown : isMarkdown (fileName path) = true :=
      List.isSuffixOf_iff_suffix.mpr ⟨start, (Chars.suffixSplit found).symm⟩
    exact absurd (markdownFileName.mp markdown) plain

theorem stemPrefix (path : String) : (stem path).toList <+: (fileName path).toList := by
  by_cases markdown : isMarkdown path = true
  · rw [fileNameMarkdown markdown, String.toList_append]
    exact List.prefix_append ..
  · exact ⟨[], by rw [stemPlain markdown, List.append_nil]⟩

theorem stemBare (path : String) : '/' ∉ (stem path).toList := by
  intro slash
  exact (endsFileName path).1 ((stemPrefix path).subset slash)

end Syllabus.VaultPath
