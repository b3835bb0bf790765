/-! Tags of YAML values. A tag is written as octets, and what it makes of the value under it is told by
the name that they spell. Local names begin with an exclamation mark. -/
namespace Syllabus.Yaml

abbrev Octets := List UInt8

def untilZero (octets : Octets) : Octets := octets.takeWhile (· != 0)

def octetsOf (s : List Char) : Octets := (String.ofList s).toUTF8.toList

def textOf? (octets : Octets) : Option String := String.fromUTF8? ⟨octets.toArray⟩

inductive Tag where
  | bool | integer | real | null
  | named (name : String)
  | foreign
  deriving DecidableEq, Repr

namespace Tag

def standard (name : String) : String := "tag:yaml.org,2002:" ++ name

def unmarked (name : List Char) : List Char :=
  match name with
  | '!' :: c :: rest => c :: rest
  | _ => name

def ofOctets? (octets : Octets) : Option Tag :=
  match textOf? octets with
  | some name =>
    if name.toList.head? = some '!' then some (.named (.ofList (unmarked (unmarked name.toList))))
    else if name == standard "bool" then some .bool
    else if name == standard "int" then some .integer
    else if name == standard "float" then some .real
    else if name == standard "null" then some .null
    else some .foreign
  | none => if octets.head? = some 0x21 then none else some .foreign

end Tag
end Syllabus.Yaml
