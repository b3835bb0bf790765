import Mathlib.Tactic.SplitIfs
import Syllabus.Json.Printer
import Syllabus.Json.Reader
import Syllabus.Proofs.Number.Text

/-! The compact text of a JSON value tells the value. Strings show where they end, the first letter shows what kind of
value comes, no text of a number goes on with the commas and brackets that may come after it, and these show the
rest. -/
namespace Syllabus.Json

inductive Plain : Json → Prop where
  | null : Plain .null
  | bool (value : Bool) : Plain (.bool value)
  | integer (value : Int) : Plain (.number (.integer value))
  | real {value : Binary64} (finite : value.Representable) : Plain (.number (.real value))
  | text (value : String) : Plain (.text value)
  | list {items : List Json} (each : ∀ item ∈ items, Plain item) : Plain (.list items)
  | object {members : List (String × Json)} (each : ∀ member ∈ members, Plain member.2) : Plain (.object members)

def body (s : String) : List Char := s.toList.flatMap escape

theorem quoteChars (s : String) : (quote s).toList = '"' :: (body s ++ ['"']) := by
  rw [quote, String.toList_ofList]
  rfl

inductive Escaped (c : Char) : List Char → Prop where
  | short {mark : Char} (means : plainEscape? mark = some c.toNat) (other : mark ≠ 'u') : Escaped c ['\\', mark]
  | control (low : c.toNat < 32) :
      Escaped c ['\\', 'u', '0', '0', hexDigit (c.toNat / 16), hexDigit (c.toNat % 16)]
  | plain (high : 32 ≤ c.toNat) (quote : c ≠ '"') (backslash : c ≠ '\\') : Escaped c [c]

theorem escaped (c : Char) : Escaped c (escape c) := by
  unfold escape
  split_ifs with quote backslash newline carriage tab backspace page low
  · subst quote
    exact .short rfl (by decide)
  · subst backslash
    exact .short rfl (by decide)
  · subst newline
    exact .short rfl (by decide)
  · subst carriage
    exact .short rfl (by decide)
  · subst tab
    exact .short rfl (by decide)
  · subst backspace
    exact .short rfl (by decide)
  · subst page
    exact .short rfl (by decide)
  · exact .control low
  · exact .plain (not_lt.mp low) quote backslash

theorem quotedEscape (c : Char) (rest : List Char) :
    quoted? (escape c ++ rest) = (quoted? rest).map fun read => (c.toNat :: read.1, read.2) := by
  have codes : ∀ n < 32, hex4? '0' '0' (hexDigit (n / 16)) (hexDigit (n % 16)) = some n := by decide
  have shape := escaped c
  generalize escape c = written at shape
  cases shape with
  | short means other =>
    rw [List.cons_append, List.cons_append, List.nil_append, quoted?, means]
    · cases quoted? rest <;> rfl
    · exact fun _ _ _ _ _ same => absurd same other
  | control low =>
    simp only [List.cons_append, List.nil_append, quoted?, codes _ low]
    cases quoted? rest <;> rfl
  | plain high quote backslash =>
    rw [List.cons_append, List.nil_append, quoted?, if_neg (by simp [high, backslash])]
    · cases quoted? rest <;> rfl
    · exact quote
    · exact fun _ _ _ _ _ same => absurd same backslash
    · exact fun _ _ same => absurd same backslash

theorem quotedBody (cs rest : List Char) : quoted? (cs.flatMap escape ++ '"' :: rest) = some (cs.map Char.toNat, rest) := by
  induction cs with
  | nil => simp [quoted?]
  | cons c more ih =>
    rw [List.flatMap_cons, List.append_assoc, quotedEscape, ih]
    rfl

theorem quoteOnce {s t : String} {after after' : List Char} (same : (quote s).toList ++ after = (quote t).toList ++ after') :
    s = t ∧ after = after' := by
  have read (s : String) (after : List Char) :
      quoted? ((quote s).toList ++ after).tail = some (s.toList.map Char.toNat, after) := by
    rw [quoteChars, List.cons_append, List.tail_cons, List.append_assoc]
    exact quotedBody s.toList after
  have codes := read s after
  rw [same, read t after'] at codes
  obtain ⟨letters, rest⟩ := Prod.mk.inj (Option.some.inj codes)
  have apart : Function.Injective Char.toNat := fun c d same => Char.toNat_inj.mp same
  have letters : s.toList = t.toList := apart.list_map letters.symm
  exact ⟨String.toList_inj.mp letters, rest.symm⟩

def Ends (s : List Char) : Prop := ∀ c, s.head? = some c → Decimal.numeralChar c = false

theorem Number.numeral {n : Number} (plain : (Json.number n).Plain) :
    n.text.toList ≠ [] ∧ ∀ c ∈ n.text.toList, Decimal.numeralChar c = true := by
  cases plain with
  | integer e =>
    constructor
    · show (toString e).toList ≠ []
      rw [Literal.integerText]
      simp
    · intro c member
      rcases Decimal.integerChars e c member with digit | rfl
      · simp [Decimal.numeralChar, digit]
      · rfl
  | real finite =>
    obtain ⟨numeral, c, member, _⟩ := Binary64.textNumeral numberLayout "null" finite
    exact ⟨List.ne_nil_of_mem member, numeral⟩

theorem spanOnce {a b s t : List Char} (left : ∀ c ∈ a, Decimal.numeralChar c = true)
    (right : ∀ c ∈ b, Decimal.numeralChar c = true) (ends : Ends s) (ends' : Ends t) (same : a ++ s = b ++ t) :
    a = b ∧ s = t := by
  have taken {a s : List Char} (numeral : ∀ c ∈ a, Decimal.numeralChar c = true) (ends : Ends s) :
      (a ++ s).takeWhile Decimal.numeralChar = a := by
    rw [List.takeWhile_append_of_pos numeral]
    cases s with
    | nil => simp
    | cons c rest => simp [ends c rfl]
  -- Either numeral is what its text begins with as far as numerals go.
  have first : a = b := by rw [← taken left ends, same, taken right ends']
  subst first
  exact ⟨rfl, List.append_cancel_left same⟩

theorem Number.textOnce {n n' : Number} (left : (Json.number n).Plain) (right : (Json.number n').Plain)
    (same : n.text = n'.text) : n = n' := by
  have apart {e : Int} {x : Binary64} (finite : x.Representable) : (toString e : String) ≠ x.text numberLayout "null" := by
    intro same
    obtain ⟨_, c, member, mark⟩ := Binary64.textNumeral numberLayout "null" finite
    rw [← same] at member
    rcases Decimal.integerChars e c member with digit | rfl
    · rcases mark with rfl | rfl <;> cases digit
    · revert mark
      decide
  cases left with
  | integer e =>
    cases right with
    | integer e' => rw [Literal.integerOnce same]
    | real finite => exact absurd same (apart finite)
  | real finite =>
    cases right with
    | integer e => exact absurd same.symm (apart finite)
    | real finite' => rw [Binary64.textOnce finite finite' same]

def chars (v : Json) : List Char := v.compact.toList

def entry (member : String × Json) : List Char := (quote member.1).toList ++ ':' :: chars member.2

theorem itemsChars (items : List Json) : (compactItems items).map String.toList = items.map chars := by
  induction items with
  | nil => rfl
  | cons item more ih => rw [compactItems, List.map_cons, ih, List.map_cons, chars]

theorem membersChars (members : List (String × Json)) :
    (compactMembers members).map String.toList = members.map entry := by
  induction members with
  | nil => rfl
  | cons member more ih =>
    rw [compactMembers, List.map_cons, ih, List.map_cons, String.toList_append, String.toList_append, List.append_assoc]
    rfl

theorem listChars (items : List Json) : chars (.list items) = '[' :: ([','].intercalate (items.map chars) ++ [']']) := by
  rw [chars, compact, String.toList_append, String.toList_append, String.toList_intercalate, itemsChars]
  rfl

theorem objectChars (members : List (String × Json)) :
    chars (.object members) = '\x7b' :: ([','].intercalate (members.map entry) ++ ['\x7d']) := by
  rw [chars, compact, String.toList_append, String.toList_append, String.toList_intercalate, membersChars]
  rfl

def lead (c : Char) : Nat :=
  if c = '"' then 0 else if c = '[' then 1 else if c = '\x7b' then 2 else if c = 'n' then 3 else if c = 't' ∨ c = 'f' then 4
  else if Decimal.numeralChar c then 5 else 6

def form : Json → Nat
  | .text _ => 0
  | .list _ => 1
  | .object _ => 2
  | .null => 3
  | .bool _ => 4
  | _ => 5

theorem leadNumeral {c : Char} (numeral : Decimal.numeralChar c = true) : lead c = 5 := by
  have other {d : Char} (letter : Decimal.numeralChar d = false) : c ≠ d := by
    rintro rfl
    rw [letter] at numeral
    cases numeral
  rw [lead, if_neg (other rfl), if_neg (other rfl), if_neg (other rfl), if_neg (other rfl),
    if_neg (not_or.mpr ⟨other rfl, other rfl⟩), if_pos numeral]

theorem endsOfLead {c : Char} (other : lead c = 6) (s : List Char) : Ends (c :: s) := by
  intro d head
  cases head
  refine Bool.eq_false_iff.mpr fun numeral => ?_
  rw [leadNumeral numeral] at other
  cases other

theorem numberLeads {n : Number} (plain : (Json.number n).Plain) :
    ∃ c rest, n.text.toList = c :: rest ∧ Decimal.numeralChar c = true := by
  obtain ⟨nonempty, numeral⟩ := Number.numeral plain
  obtain ⟨c, rest, text⟩ := List.exists_cons_of_ne_nil nonempty
  rw [text] at numeral
  exact ⟨c, rest, text, numeral c List.mem_cons_self⟩

theorem leads {v : Json} (plain : v.Plain) : ∃ c rest, chars v = c :: rest ∧ lead c = v.form := by
  have number {n : Number} (plain : (Json.number n).Plain) : ∃ c rest, chars (.number n) = c :: rest ∧ lead c = 5 := by
    obtain ⟨c, rest, text, numeral⟩ := numberLeads plain
    exact ⟨c, rest, text, leadNumeral numeral⟩
  cases plain with
  | null => exact ⟨_, _, rfl, rfl⟩
  | bool value => cases value <;> exact ⟨_, _, rfl, rfl⟩
  | text s => exact ⟨_, _, quoteChars s, rfl⟩
  | list each => exact ⟨_, _, listChars _, rfl⟩
  | object each => exact ⟨_, _, objectChars _, rfl⟩
  | integer e => exact number (.integer e)
  | real finite => exact number (.real finite)

theorem formOnce {v w : Json} (plain : v.Plain) (plain' : w.Plain) {s t : List Char} (same : chars v ++ s = chars w ++ t) :
    v.form = w.form := by
  obtain ⟨c, rest, text, shown⟩ := leads plain
  obtain ⟨c', rest', text', shown'⟩ := leads plain'
  rw [text, text'] at same
  rw [← shown, ← shown', (List.cons_eq_cons.mp same).1]

theorem formKnown {v : Json} : v.form < 6 := by
  cases v <;> simp [form]

section Entries

variable {α : Type} {P : α → Prop} {f : α → List Char} {close : Char} {s t : List Char} {xs ys : List α}

def Tells (P : α → Prop) (f : α → List Char) (a : α) : Prop :=
  ∀ b, P b → ∀ s t, Ends s → Ends t → f a ++ s = f b ++ t → a = b ∧ s = t

def after (f : α → List Char) (close : Char) (s : List Char) : List α → List Char
  | [] => close :: s
  | a :: more => ',' :: (f a ++ after f close s more)

theorem entriesText (x : α) (more : List α) :
    [','].intercalate ((x :: more).map f) ++ close :: s = f x ++ after f close s more := by
  induction more generalizing x with
  | nil => rw [List.map_cons, List.map_nil, List.intercalate_singleton, after]
  | cons y more ih =>
    have later := ih y
    rw [List.map_cons] at later
    rw [List.map_cons, List.map_cons, List.intercalate_cons_cons, List.append_assoc, List.append_assoc, later, after]
    rfl

theorem endsAfter (closes : lead close = 6) (s : List Char) (xs : List α) : Ends (after f close s xs) := by
  cases xs with
  | nil => exact endsOfLead closes s
  | cons x more => exact endsOfLead rfl _

theorem afterOnce (closes : lead close = 6) (comma : close ≠ ',') (each : ∀ x ∈ xs, Tells P f x) (plain : ∀ y ∈ ys, P y)
    (same : after f close s xs = after f close t ys) : xs = ys ∧ s = t := by
  -- After each entry one letter says whether another comes, and only then is the entry's own text read.
  induction xs generalizing ys with
  | nil =>
    cases ys with
    | nil => exact ⟨rfl, (List.cons_eq_cons.mp same).2⟩
    | cons y more => exact absurd (List.cons_eq_cons.mp same).1 comma
  | cons x more ih =>
    cases ys with
    | nil => exact absurd (List.cons_eq_cons.mp same).1.symm comma
    | cons y more' =>
      rw [List.forall_mem_cons] at each plain
      obtain ⟨rfl, rest⟩ := each.1 y plain.1 _ _ (endsAfter closes s more) (endsAfter closes t more')
        (List.cons_eq_cons.mp same).2
      obtain ⟨rfl, ending⟩ := ih each.2 plain.2 rest
      exact ⟨rfl, ending⟩

theorem entriesOnce (closes : lead close = 6) (comma : close ≠ ',')
    (starts : ∀ x, P x → ∃ c rest, f x = c :: rest ∧ lead c < 6) (each : ∀ x ∈ xs, Tells P f x)
    (plain : ∀ x ∈ xs, P x) (plain' : ∀ y ∈ ys, P y)
    (same : [','].intercalate (xs.map f) ++ close :: s = [','].intercalate (ys.map f) ++ close :: t) : xs = ys ∧ s = t := by
  have apart {x : α} (plain : P x) {rest s : List Char} : f x ++ rest ≠ close :: s := by
    obtain ⟨c, more, text, known⟩ := starts x plain
    rw [text]
    intro same
    rw [(List.cons_eq_cons.mp same).1, closes] at known
    exact absurd known (by decide)
  cases xs with
  | nil =>
    cases ys with
    | nil => exact ⟨rfl, (List.cons_eq_cons.mp same).2⟩
    | cons y more =>
      rw [entriesText] at same
      exact (apart (plain' y List.mem_cons_self) same.symm).elim
  | cons x more =>
    cases ys with
    | nil =>
      rw [entriesText] at same
      exact (apart (plain x List.mem_cons_self) same).elim
    | cons y more' =>
      rw [entriesText, entriesText] at same
      rw [List.forall_mem_cons] at each plain'
      obtain ⟨rfl, rest⟩ := each.1 y plain'.1 _ _ (endsAfter closes s more) (endsAfter closes t more') same
      obtain ⟨rfl, ending⟩ := afterOnce closes comma each.2 plain'.2 rest
      exact ⟨rfl, ending⟩

end Entries

theorem numberOnce {n n' : Number} (plain : (Json.number n).Plain) (plain' : (Json.number n').Plain) {s t : List Char}
    (ends : Ends s) (ends' : Ends t) (same : chars (.number n) ++ s = chars (.number n') ++ t) :
    Json.number n = .number n' ∧ s = t := by
  obtain ⟨texts, rest⟩ := spanOnce (Number.numeral plain).2 (Number.numeral plain').2 ends ends' same
  exact ⟨congrArg Json.number (Number.textOnce plain plain' (String.toList_inj.mp texts)), rest⟩

theorem numberTells {n : Number} (plain : (Json.number n).Plain) : Tells Plain chars (.number n) := by
  intro w plain' s t ends ends' same
  have forms := formOnce plain plain' same
  cases plain' with
  | integer e => exact numberOnce plain (.integer e) ends ends' same
  | real finite => exact numberOnce plain (.real finite) ends ends' same
  | _ => cases forms

theorem listTells {items : List Json} (each : ∀ item ∈ items, item.Plain) (tells : ∀ item ∈ items, Tells Plain chars item) :
    Tells Plain chars (.list items) := by
  intro w plain' s t _ _ same
  have forms := formOnce (.list each) plain' same
  cases plain' with
  | list each' =>
    simp only [listChars, List.cons_append, List.append_assoc, List.nil_append, List.cons.injEq, true_and] at same
    have starts (v : Json) (plain : v.Plain) : ∃ c rest, chars v = c :: rest ∧ lead c < 6 := by
      obtain ⟨c, rest, text, shown⟩ := leads plain
      exact ⟨c, rest, text, shown ▸ formKnown⟩
    obtain ⟨rfl, rest⟩ := entriesOnce rfl (by decide) starts tells each each' same
    exact ⟨rfl, rest⟩
  | _ => cases forms

theorem entryTells {member : String × Json} (tells : Tells Plain chars member.2) :
    Tells (fun member => member.2.Plain) entry member := by
  intro other plain' s t ends ends' same
  rw [entry, entry, List.append_assoc, List.append_assoc] at same
  obtain ⟨names, rest⟩ := quoteOnce same
  obtain ⟨values, rest⟩ := tells other.2 plain' s t ends ends' (List.cons_eq_cons.mp rest).2
  exact ⟨Prod.ext names values, rest⟩

theorem objectTells {members : List (String × Json)} (each : ∀ member ∈ members, member.2.Plain)
    (tells : ∀ member ∈ members, Tells Plain chars member.2) : Tells Plain chars (.object members) := by
  intro w plain' s t _ _ same
  have forms := formOnce (.object each) plain' same
  cases plain' with
  | object each' =>
    simp only [objectChars, List.cons_append, List.append_assoc, List.nil_append, List.cons.injEq, true_and] at same
    have starts (member : String × Json) (_ : member.2.Plain) : ∃ c rest, entry member = c :: rest ∧ lead c < 6 := by
      rw [entry, quoteChars, List.cons_append]
      exact ⟨_, _, rfl, by decide⟩
    have told (member : String × Json) (inside : member ∈ members) := entryTells (tells member inside)
    obtain ⟨rfl, rest⟩ := entriesOnce rfl (by decide) starts told each each' same
    exact ⟨rfl, rest⟩
  | _ => cases forms

theorem charsTell {v : Json} (plain : v.Plain) : Tells Plain chars v := by
  induction plain with
  | null =>
    intro w plain' s t _ _ same
    have forms := formOnce .null plain' same
    cases plain' with
    | null => exact ⟨rfl, List.append_cancel_left same⟩
    | _ => cases forms
  | bool value =>
    intro w plain' s t _ _ same
    have forms := formOnce (.bool value) plain' same
    cases plain' with
    | bool value' =>
      have apart {s t : List Char} : chars (.bool true) ++ s ≠ chars (.bool false) ++ t := fun same =>
        absurd (List.cons_eq_cons.mp same).1 (by decide)
      cases value <;> cases value' <;>
        first | exact ⟨rfl, List.append_cancel_left same⟩ | exact absurd same apart | exact absurd same.symm apart
    | _ => cases forms
  | integer e => exact numberTells (.integer e)
  | real finite => exact numberTells (.real finite)
  | text text =>
    intro w plain' s t _ _ same
    have forms := formOnce (.text text) plain' same
    cases plain' with
    | text text' =>
      obtain ⟨rfl, rest⟩ := quoteOnce same
      exact ⟨rfl, rest⟩
    | _ => cases forms
  | list each tells => exact listTells each tells
  | object each tells => exact objectTells each tells

theorem compactOnce {v w : Json} (plain : v.Plain) (plain' : w.Plain) (same : v.compact = w.compact) : v = w := by
  have none : Ends [] := nofun
  have chars : chars v ++ [] = chars w ++ [] := congrArg (·.toList ++ []) same
  exact (charsTell plain w plain' [] [] none none chars).1

end Syllabus.Json
