import Mathlib.Data.Nat.Digits.Defs
import Syllabus.Proofs.Identifiers
import Syllabus.Proofs.Lowercase
import Syllabus.Proofs.Text

/-! UUIDs and the keys that they are compared by. A valid text is its thirty-two digits with the hyphens at
their places. Its key spells the digits small, and a small digit is the one of its value, so that two texts
have one key when their digits have the same values, and that is when they denote the same number. -/
namespace Syllabus

open Text (isBlank)

theorem Text.ofAscii {P : Char → Prop} (each : ∀ n < 128, P (Char.ofNat n)) {c : Char} (ascii : c.toNat < 128) : P c := by
  have here := each c.toNat ascii
  rwa [Char.ofNat_toNat] at here

theorem Text.lowerAfterAscii {s : List Char} (ascii : ∀ c ∈ s, c.toNat < 128) (before : List Char) :
    lowerAfter before s = s.map Char.toLower := by
  induction s generalizing before with
  | nil => rfl
  | cons c rest ih =>
    have here := ascii c List.mem_cons_self
    have sigma : c ≠ '\u03A3' := by
      rintro rfl
      revert here
      decide
    have lowered := ofAscii (P := fun c => lowerChar c = [c.toLower]) lowerAscii here
    rw [lowerAfter, if_neg sigma, lowered, ih fun d member => ascii d (List.mem_cons_of_mem _ member)]
    rfl

theorem Chars.trimEndSolidEach {s : List Char} (solid : ∀ c ∈ s, isBlank c = false) : trimEnd s = s := by
  induction s with
  | nil => rfl
  | cons c rest ih =>
    rw [trimEndSolid (solid c List.mem_cons_self), ih fun d member => solid d (List.mem_cons_of_mem _ member)]

theorem Chars.trimSolidEach {s : List Char} (solid : ∀ c ∈ s, isBlank c = false) : trim s = s := by
  cases s with
  | nil => rfl
  | cons c rest =>
    rw [trimSolid (solid c List.mem_cons_self), trimEndSolidEach fun d member => solid d (List.mem_cons_of_mem _ member)]

namespace Uuid

structure Digit (c : Char) : Prop where
  solid : isBlank c = false
  bound : hexValue c < 16
  lower : c.toLower = Nat.digitChar (hexValue c)

theorem hexAscii {c : Char} (hex : isHexDigit c = true) : c.toNat < 128 := by
  have below (top : Char) (low : top.toNat < 128) (least : c ≤ top) : c.toNat < 128 := Nat.lt_of_le_of_lt least low
  simp only [isHexDigit, Bool.or_eq_true, Bool.and_eq_true, decide_eq_true_eq] at hex
  rcases hex with (⟨_, least⟩ | ⟨_, least⟩) | ⟨_, least⟩
  · exact below '9' (by decide) least
  · exact below 'f' (by decide) least
  · exact below 'F' (by decide) least

theorem digitOfHex {c : Char} (hex : isHexDigit c = true) : Digit c := by
  have table : ∀ n < 128, isHexDigit (Char.ofNat n) = true → isBlank (Char.ofNat n) = false ∧
      hexValue (Char.ofNat n) < 16 ∧ (Char.ofNat n).toLower = Nat.digitChar (hexValue (Char.ofNat n)) := by
    decide +kernel
  obtain ⟨solid, bound, lower⟩ := Text.ofAscii (P := fun c => isHexDigit c = true → isBlank c = false ∧
    hexValue c < 16 ∧ c.toLower = Nat.digitChar (hexValue c)) table (hexAscii hex) hex
  exact ⟨solid, bound, lower⟩

theorem digitCharInjective : ∀ v < 16, ∀ w < 16, Nat.digitChar v = Nat.digitChar w → v = w := by decide

theorem Digit.lowerIff {c d : Char} (left : Digit c) (right : Digit d) : c.toLower = d.toLower ↔ hexValue c = hexValue d := by
  rw [left.lower, right.lower]
  exact ⟨digitCharInjective _ left.bound _ right.bound, congrArg _⟩

theorem lowerIffValues {s t : List Char} (left : ∀ c ∈ s, Digit c) (right : ∀ c ∈ t, Digit c) :
    s.map Char.toLower = t.map Char.toLower ↔ s.map hexValue = t.map hexValue := by
  induction s generalizing t with
  | nil => cases t <;> simp
  | cons c rest ih =>
    cases t with
    | nil => simp
    | cons d more =>
      rw [List.forall_mem_cons] at left right
      simp only [List.map_cons, List.cons_eq_cons, left.1.lowerIff right.1, ih left.2 right.2]

structure Grouped (s : String) (digits : List (List Char)) : Prop where
  shape : s.toList = ['-'].intercalate digits
  lengths : digits.map List.length = [8, 4, 4, 4, 12]
  hex : ∀ group ∈ digits, ∀ c ∈ group, isHexDigit c = true

theorem groupedOfForm {s : String} (form : Form s.toList) : ∃ digits, Grouped s digits := by
  obtain ⟨digits, shape, lengths, hex⟩ := form
  exact ⟨digits, shape, lengths, hex⟩

theorem memIntercalate {digits : List (List Char)} {c : Char} (member : c ∈ ['-'].intercalate digits) :
    c = '-' ∨ ∃ group ∈ digits, c ∈ group := by
  induction digits with
  | nil => cases member
  | cons group more ih =>
    cases more with
    | nil =>
      rw [List.intercalate_singleton] at member
      exact .inr ⟨group, List.mem_cons_self, member⟩
    | cons next rest =>
      rw [List.intercalate_cons_cons, List.append_assoc, List.mem_append, List.mem_append, List.mem_singleton] at member
      rcases member with here | hyphen | later
      · exact .inr ⟨group, List.mem_cons_self, here⟩
      · exact .inl hyphen
      · exact (ih later).imp_right fun ⟨other, among, inside⟩ => ⟨other, List.mem_cons_of_mem _ among, inside⟩

theorem intercalateInjective {digits others : List (List Char)} (lengths : digits.map List.length = others.map List.length)
    (same : ['-'].intercalate digits = ['-'].intercalate others) : digits = others := by
  induction digits generalizing others with
  | nil =>
    cases others with
    | nil => rfl
    | cons _ _ => cases lengths
  | cons group more ih =>
    cases others with
    | nil => cases lengths
    | cons group' more' =>
      obtain ⟨length, lengths⟩ := List.cons_eq_cons.mp lengths
      cases more with
      | nil =>
        cases more' with
        | nil => simpa only [List.intercalate_singleton, List.cons_eq_cons, and_true] using same
        | cons _ _ => cases lengths
      | cons next rest =>
        cases more' with
        | nil => cases lengths
        | cons next' rest' =>
          simp only [List.intercalate_cons_cons, List.append_assoc] at same
          obtain ⟨here, later⟩ := List.append_inj same length
          rw [here, ih lengths (List.append_cancel_left later)]

theorem mapIntercalate (digits : List (List Char)) : (['-'].intercalate digits).map Char.toLower =
    ['-'].intercalate (digits.map (List.map Char.toLower)) := by
  induction digits with
  | nil => rfl
  | cons group more ih =>
    cases more with
    | nil => simp only [List.map_cons, List.map_nil, List.intercalate_singleton]
    | cons next rest =>
      simp only [List.map_cons, List.intercalate_cons_cons, List.map_append] at ih ⊢
      rw [ih]
      rfl

theorem filterIntercalate {digits : List (List Char)} (hex : ∀ group ∈ digits, ∀ c ∈ group, isHexDigit c = true) :
    (['-'].intercalate digits).filter isHexDigit = digits.flatten := by
  induction digits with
  | nil => rfl
  | cons group more ih =>
    rw [List.forall_mem_cons] at hex
    have here : group.filter isHexDigit = group := List.filter_eq_self.mpr hex.1
    cases more with
    | nil => rw [List.intercalate_singleton, here, List.flatten_singleton]
    | cons next rest =>
      rw [List.intercalate_cons_cons, List.filter_append, List.filter_append, ih hex.2, here, List.flatten_cons]
      simp [isHexDigit]

namespace Grouped

variable {s t : String} {digits others : List (List Char)}

theorem flat (grouped : Grouped s digits) : ∀ c ∈ digits.flatten, Digit c := by
  intro c member
  obtain ⟨group, among, inside⟩ := List.mem_flatten.mp member
  exact digitOfHex (grouped.hex group among c inside)

theorem lengthFlat (grouped : Grouped s digits) : digits.flatten.length = 32 := by
  rw [List.length_flatten, grouped.lengths]
  rfl

theorem key (grouped : Grouped s digits) :
    (Uuid.key s).toList = ['-'].intercalate (digits.map (List.map Char.toLower)) := by
  have characters : ∀ c ∈ s.toList, c = '-' ∨ isHexDigit c = true := by
    intro c member
    rw [grouped.shape] at member
    exact (memIntercalate member).imp_right fun ⟨group, among, inside⟩ => grouped.hex group among c inside
  have solid : ∀ c ∈ s.toList, isBlank c = false := by
    intro c member
    rcases characters c member with rfl | hex
    · decide
    · exact (digitOfHex hex).solid
  have ascii : ∀ c ∈ s.toList, c.toNat < 128 := by
    intro c member
    rcases characters c member with rfl | hex
    · decide
    · exact hexAscii hex
  rw [Uuid.key, Text.lower, Chars.lower, String.toList_ofList, Text.trimToList, Chars.trimSolidEach solid,
    Text.lowerAfterAscii ascii, grouped.shape, mapIntercalate]

theorem bits (grouped : Grouped s digits) :
    Uuid.bits s = Nat.ofDigits 16 (digits.flatten.map hexValue).reverse := by
  rw [Uuid.bits, grouped.shape, filterIntercalate grouped.hex, Nat.ofDigits_eq_foldr, List.foldr_reverse,
    List.foldl_map]
  simp [Nat.add_comm]

theorem bound (grouped : Grouped s digits) : ∀ v ∈ (digits.flatten.map hexValue).reverse, v < 16 := by
  intro v member
  obtain ⟨c, inside, rfl⟩ := List.mem_map.mp (List.mem_reverse.mp member)
  exact (grouped.flat c inside).bound

theorem keyIff (left : Grouped s digits) (right : Grouped t others) :
    Uuid.key s = Uuid.key t ↔ digits.flatten.map hexValue = others.flatten.map hexValue := by
  have lengths : (digits.map (List.map Char.toLower)).map List.length =
      (others.map (List.map Char.toLower)).map List.length := by
    simp only [List.map_map, Function.comp_def, List.length_map]
    exact left.lengths.trans right.lengths.symm
  rw [← String.toList_inj, left.key, right.key]
  calc ['-'].intercalate (digits.map (List.map Char.toLower)) = ['-'].intercalate (others.map (List.map Char.toLower))
      ↔ digits.map (List.map Char.toLower) = others.map (List.map Char.toLower) :=
        ⟨intercalateInjective lengths, congrArg _⟩
    _ ↔ digits.flatten.map Char.toLower = others.flatten.map Char.toLower := by
        rw [List.eq_iff_flatten_eq, and_iff_left lengths, ← List.map_flatten, ← List.map_flatten]
    _ ↔ digits.flatten.map hexValue = others.flatten.map hexValue := lowerIffValues left.flat right.flat

end Grouped

variable {s t : String}

theorem bitsBound (form : Form s.toList) : bits s < 2 ^ 128 := by
  obtain ⟨digits, grouped⟩ := groupedOfForm form
  have bound := Nat.ofDigits_lt_base_pow_length (by decide) grouped.bound
  rw [List.length_reverse, List.length_map, grouped.lengthFlat] at bound
  rw [grouped.bits]
  exact bound

theorem keyIffBits (left : Form s.toList) (right : Form t.toList) : key s = key t ↔ bits s = bits t := by
  obtain ⟨digits, grouped⟩ := groupedOfForm left
  obtain ⟨others, grouped'⟩ := groupedOfForm right
  rw [grouped.keyIff grouped', grouped.bits, grouped'.bits]
  refine ⟨fun same => by rw [same], fun same => ?_⟩
  have lengths : (digits.flatten.map hexValue).reverse.length = (others.flatten.map hexValue).reverse.length := by
    simp only [List.length_reverse, List.length_map, grouped.lengthFlat, grouped'.lengthFlat]
  exact List.reverse_inj.mp (Nat.ofDigits_inj_of_len_eq (by decide) lengths grouped.bound grouped'.bound same)

end Uuid
end Syllabus
