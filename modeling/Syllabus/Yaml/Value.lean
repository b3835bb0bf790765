import Syllabus.Number.Literal
import Syllabus.Number.Shortest
import Syllabus.Yaml.Tag

/-! YAML values and the core schema: what an untagged plain scalar denotes, and what the standard
tags make of a scalar. A number beyond the words but within twice their width denotes nothing. -/
namespace Syllabus

inductive Yaml where
  | null
  | bool (value : Bool)
  | integer (value : Int)
  | real (value : Binary64)
  | text (value : String)
  | list (items : List Yaml)
  | mapping (entries : List (Yaml × Yaml))
  | tagged (tag : String) (value : Yaml)
  deriving Repr, Inhabited

namespace Yaml

mutual
def same : Yaml → Yaml → Bool
  | .null, .null => true
  | .bool a, .bool b => a == b
  | .integer a, .integer b => a == b
  | .real a, .real b => a == b || Binary64.eq a b
  | .text a, .text b => a == b
  | .list a, .list b => sameItems a b
  | .mapping a, .mapping b => a.length == b.length && foundIn b a
  | .tagged s a, .tagged t b => s == t && same a b
  | _, _ => false

def sameItems : List Yaml → List Yaml → Bool
  | [], [] => true
  | a :: as, b :: bs => same a b && sameItems as bs
  | _, _ => false

def foundIn (others : List (Yaml × Yaml)) : List (Yaml × Yaml) → Bool
  | [] => true
  | (k, a) :: as => (others.any fun (l, b) => same k l && same a b) && foundIn others as
end

def numberLayout : Decimal.Layout := ⟨16, 5⟩

def realText : Binary64 → String
  | .infinite negative => if negative then "-.inf" else ".inf"
  | .undefined => ".nan"
  | x => x.text numberLayout ".nan"

def isNull (s : String) : Bool := s == "null" || s == "Null" || s == "NULL" || s == "~"

def bool? (s : String) : Option Bool :=
  if s == "true" || s == "True" || s == "TRUE" then some true
  else if s == "false" || s == "False" || s == "FALSE" then some false
  else none

def digitsButNoNumber (s : List Char) : Bool :=
  match (Literal.sign s).2 with
  | '0' :: rest => !rest.isEmpty && rest.all Char.isDigit
  | _ => false

def whole? (s : List Char) : Option (Bool × Nat) :=
  let (negative, body) := Literal.sign s
  let based := match body with
    | '0' :: 'x' :: digits => Literal.natural? 16 digits
    | '0' :: 'o' :: digits => Literal.natural? 8 digits
    | '0' :: 'b' :: digits => Literal.natural? 2 digits
    | _ => none
  match based with
  | some n => some (negative, n)
  | none =>
    if digitsButNoNumber s then none else (Literal.natural? 10 body).map fun n => (negative, n)

def real? (s : String) : Option Binary64 :=
  let body := match s.toList with
    | '+' :: rest => String.ofList rest
    | _ => s
  if body == ".inf" || body == ".Inf" || body == ".INF" then some (.infinite false)
  else if s == "-.inf" || s == "-.Inf" || s == "-.INF" then some (.infinite true)
  else if s == ".nan" || s == ".NaN" || s == ".NAN" then some .undefined
  else (Literal.binary? s.toList).filter Binary64.isFinite

/-- The reading of a whole number: `none` when the text is no such number, `some none` when the
number is too large to hold and yet too small to be read as a fraction. -/
def integer? (s : String) : Option (Option Int) :=
  match whole? s.toList with
  | none => none
  | some (false, n) => if n < UInt64.size then some (some n) else if n < Nat.pow 2 128 then some none else none
  | some (true, n) =>
    if n ≤ Nat.pow 2 63 then some (some (-(n : Int))) else if n ≤ Nat.pow 2 127 then some none else none

def ofPlain? (s : String) : Option Yaml :=
  if s.isEmpty || isNull s then some .null
  else match bool? s with
    | some b => some (.bool b)
    | none =>
      match integer? s with
      | some value => value.map .integer
      | none =>
        if digitsButNoNumber s.toList then some (.text s)
        else some ((real? s).elim (.text s) .real)

def ofScalar? (tag : Option Tag) (s : String) (plain : Bool) : Option Yaml :=
  let untagged := if plain then ofPlain? s else some (.text s)
  match tag with
  | none => untagged
  | some .bool => (bool? s).map .bool
  | some .integer => ((integer? s).bind id).map .integer
  | some .real => (real? s).map .real
  | some .null => if isNull s then some .null else none
  | some (.named name) => untagged.map (.tagged name)
  | some .foreign => some (.text s)

end Yaml
end Syllabus
