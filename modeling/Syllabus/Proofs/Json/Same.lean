import Syllabus.Artifact.Encoding
import Syllabus.Proofs.Json.Spelling

/-! Values that say the same differ in the order of the members of objects only. An encoding tells what it encodes when
different things never say the same; a member tells it whether it may be left out or not. -/
namespace Syllabus.Json

inductive Same : Json → Json → Prop where
  | null : Same .null .null
  | bool (value : Bool) : Same (.bool value) (.bool value)
  | number (value : Number) : Same (.number value) (.number value)
  | text (value : String) : Same (.text value) (.text value)
  | list {items others : List Json} (each : List.Forall₂ Same items others) : Same (.list items) (.list others)
  | object {members others : List (String × Json)}
      (each : ∀ name, Option.Rel Same (get? name (.object members)) (get? name (.object others))) :
      Same (.object members) (.object others)

theorem sameRefl {v : Json} (plain : v.Plain) : v.Same v := by
  induction plain with
  | null => exact .null
  | bool value => exact .bool value
  | integer => exact .number _
  | real => exact .number _
  | text text => exact .text text
  | list each ih => exact .list (List.forall₂_same.mpr ih)
  | @object members each ih =>
    -- Every member says the same, so also the first of each name.
    refine .object fun name => ?_
    cases found : members.find? fun member => member.1 == name with
    | none =>
      rw [get?, found]
      exact .none
    | some member =>
      rw [get?, found]
      exact .some (ih member (List.mem_of_find?_eq_some found))

def SameValue (s t : String) : Prop := ∃ v w : Json, v.Spells s ∧ w.Spells t ∧ v.Same w

theorem Spells.sameValue {v w : Json} {s t : String} (left : v.Spells s) (right : w.Spells t) :
    SameValue s t ↔ v.Same w := by
  constructor
  · rintro ⟨v', w', left', right', same⟩
    rwa [spellsOnce left left', spellsOnce right right']
  · exact fun same => ⟨v, w, left, right, same⟩

section Members

variable {α : Type} {name : String}

@[simp] theorem getNil : get? name (.object []) = none := rfl

@[simp] theorem getCons (other : String) (value : Json) (more : List (String × Json)) :
    get? name (.object ((other, value) :: more)) = if other = name then some value else get? name (.object more) := by
  rw [get?, get?, List.find?_cons]
  by_cases same : other = name
  · rw [if_pos same, beq_iff_eq.mpr same]
    rfl
  · rw [if_neg same, beq_eq_false_iff_ne.mpr same]

@[simp] theorem getAppend (members others : List (String × Json)) :
    get? name (.object (members ++ others)) = (get? name (.object members)).or (get? name (.object others)) := by
  rw [get?, List.find?_append, Option.map_or]
  rfl

@[simp] theorem getMember (other : String) (encode : α → Json) (a? : Option α) :
    get? name (.object (member? other encode a?)) = if other = name then a?.map encode else none := by
  cases a? <;> simp [member?]

theorem Same.member {v w : Json} (same : v.Same w) (name : String) : Option.Rel Same (v.get? name) (w.get? name) := by
  cases same with
  | object each => exact each name
  | _ => exact .none

attribute [simp] Plain.bool Plain.text

@[simp] theorem plainNatural (n : Nat) : (natural n).Plain := .integer n

@[simp] theorem plainReal (x : Binary64) : (real x).Plain ↔ x.Representable := by
  constructor
  · rintro ⟨⟩
    assumption
  · exact .real

@[simp] theorem plainList (encode : α → Json) (items : List α) :
    (list (items.map encode)).Plain ↔ ∀ a ∈ items, (encode a).Plain := by
  constructor
  · intro plain
    cases plain with
    | list each => rwa [List.forall_mem_map] at each
  · exact fun each => .list (List.forall_mem_map.mpr each)

theorem plainObject {members : List (String × Json)} : (object members).Plain ↔ ∀ member ∈ members, member.2.Plain := by
  constructor
  · rintro ⟨⟩
    assumption
  · exact .object

@[simp] theorem plainNil : (object []).Plain := .object nofun

@[simp] theorem plainCons (value : Json) (more : List (String × Json)) :
    (object ((name, value) :: more)).Plain ↔ value.Plain ∧ (object more).Plain := by
  rw [plainObject, plainObject, List.forall_mem_cons]

@[simp] theorem plainAppend (members others : List (String × Json)) :
    (object (members ++ others)).Plain ↔ (object members).Plain ∧ (object others).Plain := by
  rw [plainObject, plainObject, plainObject, List.forall_mem_append]

@[simp] theorem plainMember (encode : α → Json) (a? : Option α) :
    (object (member? name encode a?)).Plain ↔ ∀ a ∈ a?, (encode a).Plain := by
  cases a? <;> simp [member?]

end Members

def Told {α : Type} (encode : α → Json) : Prop := ∀ a b, (encode a).Same (encode b) → a = b

section Encodings

variable {α : Type} {encode : α → Json}

theorem toldText : Told text := by
  rintro a b ⟨⟩
  rfl

theorem toldBool : Told bool := by
  rintro a b ⟨⟩
  rfl

theorem toldNatural : Told natural := by
  intro a b same
  cases same
  rfl

theorem toldReal : Told real := by
  rintro a b ⟨⟩
  rfl

theorem toldList (each : Told encode) : Told fun items : List α => .list (items.map encode) := by
  intro as bs same
  cases same with
  | list pairs =>
    rw [List.forall₂_map_left_iff, List.forall₂_map_right_iff] at pairs
    exact List.forall₂_eq_eq_eq ▸ pairs.imp each

theorem Told.here (told : Told encode) {a b : α} (same : Option.Rel Same (some (encode a)) (some (encode b))) : a = b := by
  cases same with
  | some same => exact told a b same

theorem Told.given (told : Told encode) {a? b? : Option α} (same : Option.Rel Same (a?.map encode) (b?.map encode)) :
    a? = b? := by
  cases a? with
  | none =>
    cases b? with
    | none => rfl
    | some b => cases same
  | some a =>
    cases b? with
    | none => cases same
    | some b => rw [told.here same]

end Encodings

end Syllabus.Json
