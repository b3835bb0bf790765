import Syllabus.Proofs.Frontmatter

/-! The block of a file. It lies between the first line and the next delimiter, and together they are the whole file
with the body behind them. Whatever reads the block is handed the lines between the delimiters, and its keys are
looked for on these lines alone. -/
namespace Syllabus

namespace Text

def stretch (text : String) (first last : Nat) : String :=
  .ofList (((Chars.rawLines text.toList).take last).drop first).flatten

end Text

namespace Frontmatter
open Text (LineAt isBlank)

def Delimits (line : String) : Prop := Text.trimEnd line = "---"

def Opens (text : String) : Prop :=
  ∃ line, LineAt text 1 1 line ∧ Delimits (.ofList (line.toList.dropWhile (· == '\uFEFF')))

structure ClosesAt (text : String) (n : Nat) : Prop where
  below : 1 < n
  closing : ∃ line, LineAt text 1 n line ∧ Delimits line
  first : ∀ m line, 1 < m → m < n → LineAt text 1 m line → ¬Delimits line

structure Unquotes (s t : List Char) : Prop where
  around : ∃ left right, s = left ++ (t ++ right) ∧ (∀ c ∈ left, isQuote c = true) ∧ ∀ c ∈ right, isQuote c = true
  head : ∀ c ∈ t.head?, isQuote c = false
  last : ∀ c ∈ t.getLast?, isQuote c = false

/-- The line starts a key: it is not indented, no item and no comment, and the key stands before its first colon. -/
structure Keys (line key : String) : Prop where
  start : ∃ c ∈ line.toList.head?, isBlank c = false ∧ c ≠ '-' ∧ c ≠ '#'
  key : ∃ before after, line.toList = before ++ ':' :: after ∧ ':' ∉ before ∧ Unquotes (Chars.trim before) key.toList

structure Extends (text : String) (n : Nat) (x : Extracted) : Prop where
  body : text = Text.stretch text 0 n ++ x.body
  bodyLine : x.bodyLine = n + 1
  lines : ∀ k line, LineAt x.body 1 k line ↔ 1 ≤ k ∧ LineAt text 1 (x.bodyLine - 1 + k) line
  keys : ∀ key m, x.frontmatter.lineOf? key = some m ↔ (1 < m ∧ m < n ∧ ∃ line, LineAt text 1 m line ∧ Keys line key) ∧
    ∀ k line, 1 < k → k < m → LineAt text 1 k line → ¬Keys line key

structure Extracts (read : String → Except String Yaml) (text : String) : Prop where
  missing : extractWith read text = .error .missing ↔ ¬Opens text
  unclosed : extractWith read text = .error .unclosed ↔ Opens text ∧ ∀ n, ¬ClosesAt text n
  refused : ∀ n, Opens text → ClosesAt text n → ∀ cause,
    entriesOf read (Text.stretch text 1 (n - 1)).toList = .error cause → extractWith read text = .error cause
  accepted : ∀ n, Opens text → ClosesAt text n → ∀ entries,
    entriesOf read (Text.stretch text 1 (n - 1)).toList = .ok entries →
      ∃ x, extractWith read text = .ok x ∧ x.frontmatter.entries = entries ∧ Extends text n x

theorem unquotesKey (s : List Char) : Unquotes s (unquoteKey s) := by
  have front := List.takeWhile_append_dropWhile (p := isQuote) (l := s)
  have back := congrArg List.reverse
    (List.takeWhile_append_dropWhile (p := isQuote) (l := (s.dropWhile isQuote).reverse))
  rw [List.reverse_append, List.reverse_reverse] at back
  constructor
  case around =>
    refine ⟨s.takeWhile isQuote, ((s.dropWhile isQuote).reverse.takeWhile isQuote).reverse, ?_, ?_, ?_⟩
    · rw [unquoteKey, back, front]
    · exact fun c member => List.mem_takeWhile_imp member
    · exact fun c member => List.mem_takeWhile_imp (List.mem_reverse.mp member)
  case head =>
    intro c first
    have stops := List.head?_dropWhile_not isQuote s
    rw [← back, List.head?_append, ← unquoteKey, Option.mem_def.mp first] at stops
    simpa using stops
  case last =>
    intro c ending
    have stops := List.head?_dropWhile_not isQuote (s.dropWhile isQuote).reverse
    rw [unquoteKey, List.getLast?_reverse] at ending
    rw [Option.mem_def.mp ending] at stops
    simpa using stops

theorem Unquotes.key {s t : List Char} (unquotes : Unquotes s t) : unquoteKey s = t := by
  obtain ⟨⟨left, right, rfl, quotesLeft, quotesRight⟩, head, last⟩ := unquotes
  cases t with
  | nil =>
    have quotes : ∀ c ∈ left ++ ([] ++ right), isQuote c = true := by
      intro c member
      cases List.mem_append.mp member with
      | inl before => exact quotesLeft c before
      | inr behind => exact quotesRight c behind
    rw [unquoteKey, List.dropWhile_eq_nil_iff.mpr quotes]
    rfl
  | cons c rest =>
    have turned : (c :: rest ++ right).reverse = right.reverse ++ (c :: rest).reverse := List.reverse_append
    have front : (left ++ (c :: rest ++ right)).dropWhile isQuote = c :: rest ++ right :=
      Chars.dropWhileAll quotesLeft (by simpa using head c rfl)
    have back : (right.reverse ++ (c :: rest).reverse).dropWhile isQuote = (c :: rest).reverse :=
      Chars.dropWhileAll (fun d member => quotesRight d (List.mem_reverse.mp member)) (by rwa [List.head?_reverse])
    rw [unquoteKey, front, turned, back, List.reverse_reverse]

theorem keyOfIff {line : List Char} {key : String} : keyOf? line = some key ↔ Keys (.ofList line) key := by
  cases line with
  | nil =>
    refine iff_of_false (by simp [keyOf?]) fun keys => ?_
    obtain ⟨c, head, _⟩ := keys.start
    cases head
  | cons c rest =>
    rw [keyOf?]
    split
    · rename_i other
      refine iff_of_false (by simp) fun keys => ?_
      obtain ⟨d, head, solid, item, comment⟩ := keys.start
      rw [String.toList_ofList] at head
      cases head
      simp [solid, item, comment] at other
    · rename_i start
      simp only [Bool.or_eq_true, decide_eq_true_eq, not_or, Bool.not_eq_true] at start
      obtain ⟨⟨solid, item⟩, comment⟩ := start
      rw [Option.map_eq_some_iff]
      constructor
      · intro found
        obtain ⟨⟨before, after⟩, cut, rfl⟩ := found
        obtain ⟨whole, first⟩ := Chars.cutFirst.mp cut
        refine ⟨⟨c, by simp, solid, item, comment⟩, before, after, ?_, first, ?_⟩
        · rw [String.toList_ofList, whole]
        · rw [String.toList_ofList]
          exact unquotesKey _
      · intro keys
        obtain ⟨before, after, whole, first, unquotes⟩ := keys.key
        rw [String.toList_ofList] at whole
        refine ⟨(before, after), Chars.cutFirst.mpr ⟨whole, first⟩, ?_⟩
        show String.ofList (unquoteKey (Chars.trim before)) = key
        rw [unquotes.key, String.ofList_toList]

theorem keyOfLine (raw : List Char) : keyOf? raw = keyOf? (Chars.lineOf raw) := by
  obtain ⟨tail, whole, ends⟩ := Chars.lineOfEnd raw
  cases line : Chars.lineOf raw with
  | nil =>
    -- The end of a line starts with a blank, and so no key starts there.
    rw [line, List.nil_append] at whole
    rcases ends with none | feed | both
    · rw [whole, none]
    · rw [whole, feed]
      rfl
    · rw [whole, both]
      rfl
  | cons c rest =>
    -- What stands behind the colon has no part in the key.
    have absent : ':' ∉ tail := by rcases ends with rfl | rfl | rfl <;> decide
    have cut := Chars.cutAppend absent (c :: rest)
    rw [line] at whole
    rw [whole, List.cons_append, keyOf?, keyOf?, ← List.cons_append, cut, Option.map_map]
    rfl

structure FirstKeyed (lines : List (List Char)) (key : String) (i : Nat) : Prop where
  here : ∃ raw, lines[i]? = some raw ∧ keyOf? raw = some key
  first : ∀ j other, j < i → lines[j]? = some other → keyOf? other ≠ some key

section
variable {line : List Char} {more : List (List Char)} {key : String}

theorem firstKeyedHead (here : keyOf? line = some key) {i : Nat} : FirstKeyed (line :: more) key i ↔ i = 0 := by
  constructor
  · intro keyed
    cases i with
    | zero => rfl
    | succ i => exact absurd here (keyed.first 0 line (by omega) rfl)
  · rintro rfl
    exact ⟨⟨line, rfl, here⟩, by simp⟩

theorem firstKeyedTail (away : keyOf? line ≠ some key) {i : Nat} :
    FirstKeyed (line :: more) key i ↔ ∃ j, i = j + 1 ∧ FirstKeyed more key j := by
  constructor
  · intro keyed
    obtain ⟨⟨raw, stands, here⟩, first⟩ := keyed
    cases i with
    | zero =>
      cases stands
      exact absurd here away
    | succ j => exact ⟨j, rfl, ⟨raw, stands, here⟩, fun k other below found => first (k + 1) other (by omega) found⟩
  · intro later
    obtain ⟨j, rfl, ⟨raw, stands, here⟩, first⟩ := later
    refine ⟨⟨raw, stands, here⟩, fun k other below found => ?_⟩
    cases k with
    | zero =>
      cases found
      exact away
    | succ k => exact first k other (by omega) found

def firstLine? (start : Nat) (key : String) (lines : List (List Char)) : Option Nat :=
  (((lines.zipIdx start).filterMap fun (line, number) => (keyOf? line).map fun key => (key, number)).find?
    fun entry => entry.1 == key).map Prod.snd

theorem firstLineCons (start : Nat) (line : List Char) (more : List (List Char)) : firstLine? start key (line :: more) =
    if keyOf? line = some key then some start else firstLine? (start + 1) key more := by
  simp only [firstLine?, List.zipIdx_cons, List.filterMap_cons]
  cases keyed : keyOf? line with
  | none => simp
  | some name =>
    by_cases same : name = key
    · simp [same]
    · simp [same, beq_false_of_ne same]

theorem firstLineIff {lines : List (List Char)} {start m : Nat} :
    firstLine? start key lines = some m ↔ ∃ i, m = start + i ∧ FirstKeyed lines key i := by
  induction lines generalizing start with
  | nil =>
    refine iff_of_false (by simp [firstLine?]) fun keyed => ?_
    obtain ⟨i, _, ⟨raw, stands, _⟩, _⟩ := keyed
    cases stands
  | cons line more ih =>
    rw [firstLineCons]
    by_cases here : keyOf? line = some key
    · simp [here, firstKeyedHead, eq_comm]
    · rw [if_neg here, ih]
      simp only [firstKeyedTail here]
      constructor
      · intro later
        obtain ⟨j, same, keyed⟩ := later
        exact ⟨j + 1, by omega, j, rfl, keyed⟩
      · intro later
        obtain ⟨_, same, j, rfl, keyed⟩ := later
        exact ⟨j, by omega, keyed⟩

end

theorem delimitsBefore (line : List Char) {tail : List Char} (blanks : ∀ c ∈ tail, isBlank c = true) :
    isDelimiter (line ++ tail) = true ↔ Delimits (.ofList line) := by
  rw [isDelimiter, Chars.trimEndBlanks _ blanks, beq_iff_eq, Delimits, ← String.toList_inj]
  simp [Text.trimEnd]

theorem delimitsIff (raw : List Char) : Delimits (.ofList (Chars.lineOf raw)) ↔ isDelimiter raw = true := by
  obtain ⟨tail, whole, ends⟩ := Chars.lineOfEnd raw
  have blanks := Chars.endBlanks ends
  conv_rhs => rw [whole]
  exact (delimitsBefore _ blanks).symm

theorem opensIff {text : String} {first : List Char} {more : List (List Char)}
    (raw : Chars.rawLines text.toList = first :: more) : Opens text ↔ isOpening first = true := by
  obtain ⟨tail, whole, ends⟩ := Chars.lineOfEnd first
  have blanks := Chars.endBlanks ends
  have marked : tail.dropWhile (· == '\uFEFF') = tail := by rcases ends with rfl | rfl | rfl <;> rfl
  have rest : first.dropWhile (· == '\uFEFF') = (Chars.lineOf first).dropWhile (· == '\uFEFF') ++ tail := by
    conv_lhs => rw [whole, List.dropWhile_append, marked]
    split
    · rename_i marks
      rw [List.isEmpty_iff.mp marks, List.nil_append]
    · rfl
  rw [isOpening, rest, delimitsBefore _ blanks, Opens]
  constructor
  · intro opens
    obtain ⟨line, found, delimits⟩ := opens
    obtain ⟨_, other, stands, rfl⟩ := Text.lineAtRaw.mp found
    rw [raw] at stands
    cases stands
    rwa [String.toList_ofList] at delimits
  · intro delimits
    refine ⟨.ofList (Chars.lineOf first), Text.lineAtRaw.mpr ⟨le_rfl, first, by rw [raw]; rfl, rfl⟩, ?_⟩
    rwa [String.toList_ofList]

theorem insideLine {text : String} {first closing : List Char} {inside rest : List (List Char)}
    (raw : Chars.rawLines text.toList = first :: (inside ++ closing :: rest)) {i : Nat}
    (within : i < inside.length) {line : String} :
    LineAt text 1 (i + 2) line ↔ ∃ raw, inside[i]? = some raw ∧ line = .ofList (Chars.lineOf raw) := by
  have same : (first :: (inside ++ closing :: rest))[i + 2 - 1]? = inside[i]? :=
    List.getElem?_append_left within
  rw [Text.lineAtRaw, raw, same]
  exact and_iff_right (by omega)

theorem closesIff {text : String} {first : List Char} {more : List (List Char)}
    (raw : Chars.rawLines text.toList = first :: more) {n : Nat} :
    ClosesAt text n ↔ ∃ inside rest, closeAt? more = some (inside, rest) ∧ n = inside.length + 2 := by
  constructor
  · intro closes
    obtain ⟨line, found, delimits⟩ := closes.closing
    obtain ⟨_, closing, stands, rfl⟩ := Text.lineAtRaw.mp found
    obtain ⟨k, rfl⟩ : ∃ k, n = k + 2 := ⟨n - 2, by have := closes.below; omega⟩
    rw [raw] at stands
    obtain ⟨within, here⟩ := List.getElem?_eq_some_iff.mp (show more[k]? = some closing from stands)
    have whole : more = more.take k ++ closing :: more.drop (k + 1) := by
      rw [← here, List.getElem_cons_drop, List.take_append_drop]
    have counted : (more.take k).length = k := List.length_take_of_le within.le
    refine ⟨more.take k, more.drop (k + 1), closeAtIff.mpr ⟨closing, whole, (delimitsIff closing).mp delimits, ?_⟩, ?_⟩
    · intro other member
      obtain ⟨i, stands⟩ := List.mem_iff_getElem?.mp member
      have below : i < (more.take k).length := (List.getElem?_eq_some_iff.mp stands).1
      have found := (insideLine (whole ▸ raw) below).mpr ⟨other, stands, rfl⟩
      have before := closes.first (i + 2) _ (by omega) (by omega) found
      rw [delimitsIff] at before
      exact Bool.eq_false_iff.mpr before
    · rw [counted]
  · intro closed
    obtain ⟨inside, rest, closed, rfl⟩ := closed
    obtain ⟨closing, rfl, delimits, apart⟩ := closeAtIff.mp closed
    constructor
    case below => omega
    case closing =>
      refine ⟨.ofList (Chars.lineOf closing), Text.lineAtRaw.mpr ⟨by omega, closing, ?_, rfl⟩, ?_⟩
      · rw [raw]
        simp
      · exact (delimitsIff closing).mpr delimits
    case first =>
      intro m line below above found delimits
      obtain ⟨i, rfl⟩ : ∃ i, m = i + 2 := ⟨m - 2, by omega⟩
      obtain ⟨other, stands, rfl⟩ := (insideLine raw (by omega)).mp found
      rw [delimitsIff, apart other (List.mem_of_getElem? stands)] at delimits
      cases delimits

section
variable {text : String} {first closing : List Char} {inside rest : List (List Char)}

theorem keyedLine (raw : Chars.rawLines text.toList = first :: (inside ++ closing :: rest)) {i : Nat}
    (within : i < inside.length) {key : String} :
    (∃ line, LineAt text 1 (i + 2) line ∧ Keys line key) ↔ ∃ raw, inside[i]? = some raw ∧ keyOf? raw = some key := by
  constructor
  · intro keyed
    obtain ⟨line, found, keys⟩ := keyed
    obtain ⟨other, stands, rfl⟩ := (insideLine raw within).mp found
    exact ⟨other, stands, by rw [keyOfLine, keyOfIff.mpr keys]⟩
  · intro keyed
    obtain ⟨other, stands, keyed⟩ := keyed
    refine ⟨.ofList (Chars.lineOf other), (insideLine raw within).mpr ⟨other, stands, rfl⟩, keyOfIff.mp ?_⟩
    rw [← keyOfLine, keyed]

theorem stretchInside (raw : Chars.rawLines text.toList = first :: (inside ++ closing :: rest)) :
    Text.stretch text 1 (inside.length + 1) = .ofList inside.flatten := by
  rw [Text.stretch, raw, List.take_succ_cons, List.take_left, List.drop_succ_cons, List.drop_zero]

theorem stretchBody (raw : Chars.rawLines text.toList = first :: (inside ++ closing :: rest)) :
    text = Text.stretch text 0 (inside.length + 2) ++ .ofList rest.flatten := by
  have cut : Chars.rawLines text.toList = (first :: inside ++ [closing]) ++ rest := by
    rw [raw]
    simp
  have above : (Chars.rawLines text.toList).take (inside.length + 2) = first :: inside ++ [closing] := by
    rw [cut]
    exact List.take_left' (by simp)
  have whole := Chars.rawLinesJoin text.toList
  rw [cut, List.flatten_append] at whole
  rw [Text.stretch, above, List.drop_zero, ← String.ofList_append, whole, String.ofList_toList]

theorem keyLineWithin (raw : Chars.rawLines text.toList = first :: (inside ++ closing :: rest))
    {entries : List (Yaml × Yaml)} {key : String} {m : Nat} :
    Frontmatter.lineOf? ⟨entries, keyLinesOf inside⟩ key = some m ↔
      (1 < m ∧ m < inside.length + 2 ∧ ∃ line, LineAt text 1 m line ∧ Keys line key) ∧
        ∀ k line, 1 < k → k < m → LineAt text 1 k line → ¬Keys line key := by
  have numbered : Frontmatter.lineOf? ⟨entries, keyLinesOf inside⟩ key = firstLine? 2 key inside := rfl
  rw [numbered, firstLineIff]
  constructor
  · intro found
    obtain ⟨i, rfl, ⟨other, stands, keyed⟩, earliest⟩ := found
    have within : i < inside.length := (List.getElem?_eq_some_iff.mp stands).1
    rw [Nat.add_comm 2 i]
    refine ⟨⟨by omega, by omega, (keyedLine raw within).mpr ⟨other, stands, keyed⟩⟩, fun k line below above found keys => ?_⟩
    obtain ⟨j, rfl⟩ : ∃ j, k = j + 2 := ⟨k - 2, by omega⟩
    obtain ⟨early, stands, keyed⟩ := (keyedLine raw (by omega)).mp ⟨line, found, keys⟩
    exact earliest j early (by omega) stands keyed
  · intro found
    obtain ⟨⟨below, above, keyed⟩, earliest⟩ := found
    obtain ⟨i, rfl⟩ : ∃ i, m = i + 2 := ⟨m - 2, by omega⟩
    refine ⟨i, Nat.add_comm i 2, (keyedLine raw (by omega)).mp keyed, fun j early before stands keyed => ?_⟩
    obtain ⟨line, found, keys⟩ := (keyedLine raw (by omega)).mpr ⟨early, stands, keyed⟩
    exact earliest (j + 2) line (by omega) (by omega) found keys

theorem extendsPast (raw : Chars.rawLines text.toList = first :: (inside ++ closing :: rest))
    {read : String → Except String Yaml} {entries : List (Yaml × Yaml)}
    (extracted : extractWith read text = .ok ⟨⟨entries, keyLinesOf inside⟩, .ofList rest.flatten, inside.length + 3⟩) :
    Extends text (inside.length + 2) ⟨⟨entries, keyLinesOf inside⟩, .ofList rest.flatten, inside.length + 3⟩ := by
  obtain ⟨above, cut⟩ := extractCut extracted
  constructor
  case body => exact stretchBody raw
  case bodyLine => rfl
  case keys => exact fun key m => keyLineWithin raw
  case lines =>
    intro k line
    have counted : inside.length + 3 = above.length + 1 := cut.bodyLine
    simp only [Text.lineAtIff, cut.lines, counted]
    refine and_congr_right fun least => ?_
    rw [and_iff_right (by omega), List.getElem?_append_right (by omega)]
    have same : above.length + 1 - 1 + k - 1 - above.length = k - 1 := by omega
    rw [same]

end

theorem entriesRefused {read : String → Except String Yaml} {block : List Char} {cause : FrontmatterError}
    (refused : entriesOf read block = .error cause) : cause ≠ .missing ∧ cause ≠ .unclosed := by
  unfold entriesOf at refused
  split at refused
  · cases refused
  · split at refused <;> cases refused <;> exact ⟨nofun, nofun⟩

theorem extractsMissing {read : String → Except String Yaml} {text : String}
    (missing : extractWith read text = .error .missing) (never : ¬Opens text) : Extracts read text where
  missing := by simp [missing, never]
  unclosed := by simp [missing, never]
  refused _ opens := absurd opens never
  accepted _ opens := absurd opens never

theorem extractsUnclosed {read : String → Except String Yaml} {text : String}
    (unclosed : extractWith read text = .error .unclosed) (opens : Opens text) (never : ∀ n, ¬ClosesAt text n) :
    Extracts read text where
  missing := by simp [unclosed, opens]
  unclosed := by simp [unclosed, opens, never]
  refused n _ closes := absurd closes (never n)
  accepted n _ closes := absurd closes (never n)

theorem extractsBlock {read : String → Except String Yaml} {text : String} {first : List Char}
    {more inside rest : List (List Char)} (raw : Chars.rawLines text.toList = first :: more)
    (opening : isOpening first = true) (closed : closeAt? more = some (inside, rest)) : Extracts read text := by
  have extracted : extractWith read text = (entriesOf read inside.flatten).map fun entries =>
      ⟨⟨entries, keyLinesOf inside⟩, .ofList rest.flatten, inside.length + 3⟩ := by
    simp [extractWith, raw, opening, closed]
  have opens : Opens text := (opensIff raw).mpr opening
  have closes : ClosesAt text (inside.length + 2) := (closesIff raw).mpr ⟨inside, rest, closed, rfl⟩
  have only {n : Nat} (other : ClosesAt text n) : n = inside.length + 2 := by
    obtain ⟨_, _, found, same⟩ := (closesIff raw).mp other
    rw [closed] at found
    cases found
    exact same
  obtain ⟨closing, whole, _, _⟩ := closeAtIff.mp closed
  rw [whole] at raw
  have block : (Text.stretch text 1 (inside.length + 1)).toList = inside.flatten := by
    rw [stretchInside raw, String.toList_ofList]
  have cause {e : FrontmatterError} (failed : extractWith read text = .error e) :
      e ≠ .missing ∧ e ≠ .unclosed := by
    rw [extracted] at failed
    cases entries : entriesOf read inside.flatten with
    | error e' =>
      rw [entries] at failed
      cases failed
      exact entriesRefused entries
    | ok entries' =>
      rw [entries] at failed
      cases failed
  constructor
  case missing => exact iff_of_false (fun failed => (cause failed).1 rfl) fun never => never opens
  case unclosed =>
    exact iff_of_false (fun failed => (cause failed).2 rfl) fun never => never.2 _ closes
  case refused =>
    intro n _ other e refused
    obtain rfl := only other
    rw [show inside.length + 2 - 1 = inside.length + 1 from rfl, block] at refused
    rw [extracted, refused]
    rfl
  case accepted =>
    intro n _ other entries read'
    obtain rfl := only other
    rw [show inside.length + 2 - 1 = inside.length + 1 from rfl, block] at read'
    rw [read'] at extracted
    exact ⟨_, extracted, rfl, extendsPast raw extracted⟩

theorem blockExtracts (read : String → Except String Yaml) (text : String) : Extracts read text := by
  cases raw : Chars.rawLines text.toList with
  | nil =>
    refine extractsMissing (by rw [extractWith, raw]) fun opens => ?_
    obtain ⟨line, found, _⟩ := opens
    obtain ⟨_, other, stands, _⟩ := Text.lineAtRaw.mp found
    rw [raw] at stands
    cases stands
  | cons first more =>
    by_cases opening : isOpening first = true
    case neg =>
      exact extractsMissing (by simp [extractWith, raw, opening]) fun opens => opening ((opensIff raw).mp opens)
    case pos =>
      cases closed : closeAt? more with
      | none =>
        refine extractsUnclosed (by simp [extractWith, raw, opening, closed]) ((opensIff raw).mpr opening) fun n closes => ?_
        obtain ⟨inside, rest, found, _⟩ := (closesIff raw).mp closes
        rw [closed] at found
        cases found
      | some parts => exact extractsBlock raw opening closed

end Frontmatter
end Syllabus
