import Syllabus.Json.Basic

/-! JSON as text, compact or indented by two spaces. Numbers that are not finite are written as
null. In strings the quote, the backslash and the control characters are escaped, nothing else. -/
namespace Syllabus.Json

def numberLayout : Decimal.Layout := ⟨16, 5⟩

def hexDigit (n : Nat) : Char := if n < 10 then Char.ofNat (48 + n) else Char.ofNat (87 + n)

def escape (c : Char) : List Char :=
  if c = '"' then ['\\', '"']
  else if c = '\\' then ['\\', '\\']
  else if c = '\n' then ['\\', 'n']
  else if c = '\r' then ['\\', 'r']
  else if c = '\t' then ['\\', 't']
  else if c = '\x08' then ['\\', 'b']
  else if c = '\x0c' then ['\\', 'f']
  else if c.toNat < 0x20 then
    ['\\', 'u', '0', '0', hexDigit (c.toNat / 16), hexDigit (c.toNat % 16)]
  else [c]

def quote (s : String) : String := .ofList ('"' :: s.toList.flatMap escape ++ ['"'])

def Number.text : Number → String
  | .integer value => toString value
  | .real value => value.text numberLayout "null"
  | .beyond => "null"

mutual
def compact : Json → String
  | .null => "null"
  | .bool value => if value then "true" else "false"
  | .number value => value.text
  | .text value => quote value
  | .broken => "null"
  | .list items => "[" ++ String.intercalate "," (compactItems items) ++ "]"
  | .object members => "\x7b" ++ String.intercalate "," (compactMembers members) ++ "\x7d"

def compactItems : List Json → List String
  | [] => []
  | item :: more => compact item :: compactItems more

def compactMembers : List (String × Json) → List String
  | [] => []
  | (name, value) :: more => (quote name ++ ":" ++ compact value) :: compactMembers more
end

def lineBreak (depth : Nat) : String := "\n" ++ .ofList (List.replicate (2 * depth) ' ')

def block (left right : String) (depth : Nat) (entries : List String) : String :=
  if entries.isEmpty then left ++ right
  else left ++ lineBreak (depth + 1) ++ String.intercalate ("," ++ lineBreak (depth + 1)) entries
    ++ lineBreak depth ++ right

mutual
def pretty (depth : Nat) : Json → String
  | .list items => block "[" "]" depth (prettyItems (depth + 1) items)
  | .object members => block "\x7b" "\x7d" depth (prettyMembers (depth + 1) members)
  | .null => "null"
  | .bool value => if value then "true" else "false"
  | .number value => value.text
  | .text value => quote value
  | .broken => "null"

def prettyItems (depth : Nat) : List Json → List String
  | [] => []
  | item :: more => pretty depth item :: prettyItems depth more

def prettyMembers (depth : Nat) : List (String × Json) → List String
  | [] => []
  | (name, value) :: more => (quote name ++ ": " ++ pretty depth value) :: prettyMembers depth more
end

end Syllabus.Json
