import Syllabus.Proofs.Json.Compact

/-! JSON values and the texts that spell them. Blanks between the tokens of a text mean nothing; without them the
indented text of a value is the compact one. Two texts say the same when they spell values that differ in the order of
the members of objects only. -/
namespace Syllabus.Json

/-- The text without the blanks outside of its strings; a backslash takes the character behind it along. -/
def bare : (quoted : Bool) → List Char → List Char
  | _, [] => []
  | true, ['\\'] => ['\\']
  | true, '\\' :: c :: rest => '\\' :: c :: bare true rest
  | true, c :: rest => c :: bare (c != '"') rest
  | false, c :: rest => if isSpace c then bare false rest else c :: bare (c == '"') rest

theorem bareOutside (c : Char) (rest : List Char) :
    bare false (c :: rest) = if isSpace c then bare false rest else c :: bare (c == '"') rest := by
  rw [bare]

theorem bareTaken (c : Char) (rest : List Char) : bare true ('\\' :: c :: rest) = '\\' :: c :: bare true rest := rfl

def Spells (v : Json) (text : String) : Prop := v.Plain ∧ bare false text.toList = v.compact.toList

theorem bareInert {cs : List Char} (inert : ∀ c ∈ cs, c ≠ '"' ∧ isSpace c = false) (rest : List Char) :
    bare false (cs ++ rest) = cs ++ bare false rest := by
  induction cs with
  | nil => rfl
  | cons c more ih =>
    obtain ⟨plain, solid⟩ := inert c List.mem_cons_self
    rw [List.cons_append, bareOutside, if_neg (by simp [solid]), beq_eq_false_iff_ne.mpr plain,
      ih fun d member => inert d (List.mem_cons_of_mem _ member)]
    rfl

theorem bareBlanks {cs : List Char} (blank : ∀ c ∈ cs, isSpace c = true) (rest : List Char) :
    bare false (cs ++ rest) = bare false rest := by
  induction cs with
  | nil => rfl
  | cons c more ih =>
    rw [List.cons_append, bareOutside, if_pos (blank c List.mem_cons_self),
      ih fun d member => blank d (List.mem_cons_of_mem _ member)]

theorem bareLetter {c : Char} (backslash : c ≠ '\\') (quote : c ≠ '"') (rest : List Char) :
    bare true (c :: rest) = c :: bare true rest := by
  rw [bare, bne_iff_ne.mpr quote]
  · exact fun same => absurd same backslash
  · exact fun _ _ same => absurd same backslash

theorem bareEscape (c : Char) (rest : List Char) : bare true (escape c ++ rest) = escape c ++ bare true rest := by
  have digits : ∀ n < 16, hexDigit n ≠ '\\' ∧ hexDigit n ≠ '"' := by decide
  have shape := escaped c
  generalize escape c = written at shape
  cases shape with
  | short => rfl
  | control low =>
    obtain ⟨backslash, quote⟩ := digits (c.toNat / 16) (by omega)
    obtain ⟨backslash', quote'⟩ := digits (c.toNat % 16) (by omega)
    simp only [List.cons_append, List.nil_append, bareTaken]
    rw [bareLetter (by decide) (by decide), bareLetter (by decide) (by decide), bareLetter backslash quote,
      bareLetter backslash' quote']
  | plain high quote backslash => exact bareLetter backslash quote rest

theorem bareQuote (s : String) (rest : List Char) :
    bare false ((quote s).toList ++ rest) = (quote s).toList ++ bare false rest := by
  have inner (cs : List Char) : bare true (cs.flatMap escape ++ '"' :: rest) = cs.flatMap escape ++ '"' :: bare false rest := by
    induction cs with
    | nil => rfl
    | cons c more ih => rw [List.flatMap_cons, List.append_assoc, bareEscape, ih, List.append_assoc]
  -- The opening quote leads into the string, and the first quote that no escape takes along leads out of it.
  simp only [quoteChars, List.cons_append, List.append_assoc, List.nil_append]
  exact congrArg ('"' :: ·) (inner s.toList)

section Blanks

variable {α : Type} {f : α → List Char} {g : α → List Char} {xs : List α}

theorem bareEntries (each : ∀ x ∈ xs, ∀ rest, bare false (f x ++ rest) = g x ++ bare false rest) (blanks : List Char)
    (blank : ∀ c ∈ blanks, isSpace c = true) (rest : List Char) :
    bare false ((',' :: blanks).intercalate (xs.map f) ++ rest) = [','].intercalate (xs.map g) ++ bare false rest := by
  induction xs with
  | nil => rfl
  | cons x more ih =>
    rw [List.forall_mem_cons] at each
    cases more with
    | nil => simpa only [List.map_cons, List.map_nil, List.intercalate_singleton] using each.1 rest
    | cons y more =>
      have later := ih each.2
      have comma (s : List Char) : bare false (',' :: (blanks ++ s)) = ',' :: bare false s :=
        congrArg (',' :: ·) (bareBlanks blank s)
      simp only [List.map_cons, List.intercalate_cons_cons, List.append_assoc, List.cons_append, List.nil_append] at later ⊢
      rw [each.1, comma, later]

theorem lineBreakBlank (depth : Nat) : ∀ c ∈ (lineBreak depth).toList, isSpace c = true := by
  intro c member
  rw [lineBreak, String.toList_append, List.mem_append] at member
  rcases member with newline | spaces
  · rw [List.mem_singleton.mp newline]
    rfl
  · rw [String.toList_ofList] at spaces
    rw [List.eq_of_mem_replicate spaces]
    rfl

theorem bareBlock {texts : α → String} (each : ∀ x ∈ xs, ∀ rest, bare false ((texts x).toList ++ rest) = g x ++ bare false rest)
    {left right : String} {l r : Char} (starts : left.toList = [l]) (ends : right.toList = [r])
    (inert : ∀ rest, bare false (l :: rest) = l :: bare false rest) (inert' : ∀ rest, bare false (r :: rest) = r :: bare false rest)
    (depth : Nat) (rest : List Char) :
    bare false ((block left right depth (xs.map texts)).toList ++ rest) =
      l :: ([','].intercalate (xs.map g) ++ r :: bare false rest) := by
  cases xs with
  | nil =>
    rw [block, List.map_nil, List.isEmpty_nil, if_pos rfl, String.toList_append, starts, ends]
    exact (inert _).trans (congrArg (l :: ·) (inert' rest))
  | cons x more =>
    have entries := bareEntries (f := fun x => (texts x).toList) each _ (lineBreakBlank (depth + 1))
    have glue : ("," ++ lineBreak (depth + 1)).toList = ',' :: (lineBreak (depth + 1)).toList := String.toList_append
    have letters : (texts x :: more.map texts).map String.toList = (x :: more).map fun x => (texts x).toList := by
      simp [Function.comp_def]
    rw [block, List.map_cons, List.isEmpty_cons, if_neg Bool.false_ne_true]
    simp only [String.toList_append, String.toList_intercalate, starts, ends, glue, List.append_assoc, List.cons_append,
      List.nil_append]
    rw [inert, bareBlanks (lineBreakBlank _), letters, entries, bareBlanks (lineBreakBlank _), inert']

end Blanks

theorem bareNumeral {n : Number} (plain : (Json.number n).Plain) (rest : List Char) :
    bare false (n.text.toList ++ rest) = n.text.toList ++ bare false rest := by
  refine bareInert (fun c member => ?_) rest
  have numeral := (Number.numeral plain).2 c member
  constructor
  · rintro rfl
    cases numeral
  · refine Bool.eq_false_iff.mpr fun space => ?_
    simp only [isSpace, Bool.or_eq_true, decide_eq_true_eq] at space
    rcases space with ((rfl | rfl) | rfl) | rfl <;> cases numeral

theorem bareMember (name : String) {written value : List Char}
    (bares : ∀ rest, bare false (written ++ rest) = value ++ bare false rest) (blanks : List Char)
    (blank : ∀ c ∈ blanks, isSpace c = true) (rest : List Char) :
    bare false ((quote name).toList ++ ':' :: (blanks ++ (written ++ rest))) =
      (quote name).toList ++ ':' :: (value ++ bare false rest) := by
  have colon (s : List Char) : bare false (':' :: (blanks ++ s)) = ':' :: bare false s :=
    congrArg (':' :: ·) (bareBlanks blank s)
  rw [bareQuote, colon, bares]

theorem bareChars {v : Json} (plain : v.Plain) (rest : List Char) : bare false (chars v ++ rest) = chars v ++ bare false rest := by
  have word (s : String) (inert : (s.toList.all fun c => c != '"' && !isSpace c) = true) (rest : List Char) :
      bare false (s.toList ++ rest) = s.toList ++ bare false rest :=
    bareInert (fun c member => by simpa using List.all_eq_true.mp inert c member) rest
  induction plain generalizing rest with
  | null => exact word "null" rfl rest
  | bool value =>
    cases value with
    | true => exact word "true" rfl rest
    | false => exact word "false" rfl rest
  | integer e => exact bareNumeral (.integer e) rest
  | real finite => exact bareNumeral (.real finite) rest
  | text text => exact bareQuote text rest
  | list each ih =>
    have items (rest : List Char) := bareEntries ih [] nofun (']' :: rest)
    simp only [listChars, List.cons_append, List.append_assoc, List.nil_append]
    exact congrArg ('[' :: ·) (items rest)
  | @object members each ih =>
    have bares (member : String × Json) (inside : member ∈ members) (rest : List Char) :
        bare false (entry member ++ rest) = entry member ++ bare false rest := by
      simp only [entry, List.append_assoc, List.cons_append]
      exact bareMember member.1 (ih member inside) [] nofun rest
    have entries (rest : List Char) := bareEntries bares [] nofun ('\x7d' :: rest)
    simp only [objectChars, List.cons_append, List.append_assoc, List.nil_append]
    exact congrArg ('\x7b' :: ·) (entries rest)

theorem itemsPretty (depth : Nat) (items : List Json) : prettyItems depth items = items.map (pretty depth) := by
  induction items with
  | nil => rfl
  | cons item more ih => rw [prettyItems, ih, List.map_cons]

theorem membersPretty (depth : Nat) (members : List (String × Json)) :
    prettyMembers depth members = members.map fun member => quote member.1 ++ ": " ++ pretty depth member.2 := by
  induction members with
  | nil => rfl
  | cons member more ih => rw [prettyMembers, ih, List.map_cons]

theorem barePretty {v : Json} (plain : v.Plain) (depth : Nat) (rest : List Char) :
    bare false ((v.pretty depth).toList ++ rest) = chars v ++ bare false rest := by
  induction plain generalizing depth rest with
  | list each ih =>
    rw [pretty, itemsPretty, listChars,
      bareBlock (l := '[') (r := ']') (fun item member => ih item member (depth + 1)) rfl rfl (fun _ => rfl) (fun _ => rfl)]
    simp
  | @object members each ih =>
    have bares (member : String × Json) (inside : member ∈ members) (rest : List Char) :
        bare false ((quote member.1 ++ ": " ++ pretty (depth + 1) member.2).toList ++ rest) = entry member ++ bare false rest := by
      simp only [String.toList_append, entry, List.append_assoc, List.cons_append]
      exact bareMember member.1 (ih member inside (depth + 1)) [' '] (List.forall_mem_singleton.mpr rfl) rest
    rw [pretty, membersPretty, objectChars,
      bareBlock (l := '\x7b') (r := '\x7d') bares rfl rfl (fun _ => rfl) (fun _ => rfl)]
    simp
  | null => exact bareChars .null rest
  | bool value => exact bareChars (.bool value) rest
  | integer e => exact bareChars (.integer e) rest
  | real finite => exact bareChars (.real finite) rest
  | text text => exact bareChars (.text text) rest

theorem spellsCompact {v : Json} (plain : v.Plain) : v.Spells v.compact := by
  have same := bareChars plain []
  rw [List.append_nil] at same
  exact ⟨plain, same.trans (List.append_nil _)⟩

theorem spellsPretty {v : Json} (plain : v.Plain) (depth : Nat) : v.Spells (v.pretty depth) := by
  have same := barePretty plain depth []
  rw [List.append_nil] at same
  exact ⟨plain, same.trans (List.append_nil _)⟩

theorem spellsOnce {v w : Json} {text : String} (left : v.Spells text) (right : w.Spells text) : v = w :=
  compactOnce left.1 right.1 (String.toList_inj.mp (left.2.symm.trans right.2))

end Syllabus.Json
