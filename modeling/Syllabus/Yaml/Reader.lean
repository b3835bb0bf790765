import Syllabus.Yaml.Node
import Syllabus.Yaml.Token

/-! YAML tokens as a document: the node at its root and the meanings of its anchors. -/
namespace Syllabus.Yaml

structure Reading where
  tokens : List Token
  names : List (String × Nat)
  anchors : List (Nat × Option Node)
  stems : List (String × Octets)
  marks : Nat
  deriving Repr

abbrev Read := StateT Reading Option

namespace Reading

def peek : Read (Option Token) := do return (← get).tokens.head?

def skip : Read Unit := modify fun r => { r with tokens := r.tokens.drop 1 }

def mark (n : Nat) : Read Unit := modify fun r => { r with marks := r.marks + n }

def setAnchor (name : Option String) (node : Option Node) : Read Unit :=
  match name with
  | some name => modify fun r =>
    let number := r.names.length
    let names := (name, number) :: r.names.filter fun entry => entry.1 != name
    { r with names := names, anchors := (number, node) :: r.anchors }
  | none => pure ()

def closeAnchor (name : Option String) (n : Nat) (node : Node) : Read Unit :=
  if name.isNone then pure ()
  else modify fun r =>
    { r with anchors := r.anchors.modify (r.anchors.length - n) fun entry => (entry.1, some node) }

def fail : Read α := fun _ => none

def empty : Read Node := do
  mark 1
  return .scalar none "" true

def properties : Read (Option String × Option (String × Octets)) := do
  match ← peek with
  | some (.anchor name) =>
    skip
    match ← peek with
    | some (.tag handle suffix) => skip; return (some name, some (handle, suffix))
    | _ => return (some name, none)
  | some (.tag handle suffix) =>
    skip
    match ← peek with
    | some (.anchor name) => skip; return (some name, some (handle, suffix))
    | _ => return (none, some (handle, suffix))
  | _ => return (none, none)

def resolveTag (tag : Option (String × Octets)) : Read (Option Tag) := do
  match tag with
  | none => return none
  | some ("", suffix) => return Tag.ofOctets? suffix
  | some (handle, suffix) =>
    match (← get).stems.find? fun entry => entry.1 == handle with
    | some (_, stem) => return Tag.ofOctets? (stem ++ suffix)
    | none => fail

def isOneOf (tokens : List Token) (token : Option Token) : Bool := token.any fun t => tokens.contains t

def scalar (anchor : Option String) (tag : Option Tag) (s : String) (plain : Bool) : Read Node := do
  mark 1
  let node : Node := .scalar tag s plain
  setAnchor anchor (some node)
  return node

/- Every call takes a token or is answered at once, so that the number of tokens bounds their
nesting: `fuel` is never used up. -/
mutual
def node (fuel : Nat) (inBlock indentless : Bool) : Read Node := do
  match fuel with
  | 0 => fail
  | fuel + 1 =>
    match ← peek with
    | some (.alias name) =>
      skip; mark 1
      match (← get).names.find? fun entry => entry.1 == name with
      | some (_, number) => return .alias number
      | none => fail
    | _ =>
      let (anchor, written) ← properties
      let tag ← resolveTag written
      /- Properties with no content stand for an empty scalar. -/
      let unwritten : Read Node :=
        if anchor.isNone && written.isNone then fail else scalar anchor tag "" true
      let collection (read : Read Node) : Read Node := do
        setAnchor anchor none
        let n := (← get).anchors.length
        mark 2
        let node ← read
        closeAnchor anchor n node
        return node
      match ← peek with
      | some (.scalar s plain) =>
        skip
        scalar anchor tag s plain
      | some .blockEntry =>
        if indentless then collection (do return .list tag (← indentlessItems fuel))
        else unwritten
      | some .flowSequence => skip; collection (do return .list tag (← flowItems fuel true))
      | some .flowMapping => skip; collection (do return .mapping tag (← flowEntries fuel true))
      | some .blockSequence =>
        if inBlock then do skip; collection (do return .list tag (← blockItems fuel)) else unwritten
      | some .blockMapping =>
        if inBlock then do skip; collection (do return .mapping tag (← blockEntries fuel)) else unwritten
      | _ => unwritten

def blockItems (fuel : Nat) : Read (List Node) := do
  match fuel with
  | 0 => fail
  | fuel + 1 =>
    match ← peek with
    | some .blockEnd => skip; return []
    | some .blockEntry =>
      skip
      let item ← if isOneOf [.blockEntry, .blockEnd] (← peek) then empty else node fuel true false
      return item :: (← blockItems fuel)
    | _ => fail

def indentlessItems (fuel : Nat) : Read (List Node) := do
  match fuel with
  | 0 => fail
  | fuel + 1 =>
    match ← peek with
    | some .blockEntry =>
      skip
      let item ←
        if isOneOf [.blockEntry, .key, .value, .blockEnd] (← peek) then empty else node fuel true false
      return item :: (← indentlessItems fuel)
    | _ => return []

def blockEntries (fuel : Nat) : Read (List (Node × Node)) := do
  match fuel with
  | 0 => fail
  | fuel + 1 =>
    let part : Read Node := do
      if isOneOf [.key, .value, .blockEnd] (← peek) then empty else node fuel true true
    match ← peek with
    | some .blockEnd => skip; return []
    | some .key =>
      skip
      let key ← part
      let value ← match ← peek with
        | some .value => do skip; part
        | _ => empty
      return (key, value) :: (← blockEntries fuel)
    | _ => fail

def flowItems (fuel : Nat) (first : Bool) : Read (List Node) := do
  match fuel with
  | 0 => fail
  | fuel + 1 =>
    if (← peek) = some .flowSequenceEnd then do skip; return []
    if !first then
      if (← peek) ≠ some .flowEntry then fail
      skip
    match ← peek with
    | some .flowSequenceEnd => skip; return []
    | some .key =>
      skip; mark 2
      let key ←
        if isOneOf [.value, .flowEntry, .flowSequenceEnd] (← peek) then do skip; empty
        else node fuel false false
      let value ← match ← peek with
        | some .value => do
          skip
          if isOneOf [.flowEntry, .flowSequenceEnd] (← peek) then empty else node fuel false false
        | _ => empty
      return .mapping none [(key, value)] :: (← flowItems fuel false)
    | _ =>
      let item ← node fuel false false
      return item :: (← flowItems fuel false)

def flowEntries (fuel : Nat) (first : Bool) : Read (List (Node × Node)) := do
  match fuel with
  | 0 => fail
  | fuel + 1 =>
    if (← peek) = some .flowMappingEnd then do skip; return []
    if !first then
      if (← peek) ≠ some .flowEntry then fail
      skip
    match ← peek with
    | some .flowMappingEnd => skip; return []
    | some .key =>
      skip
      let key ←
        if isOneOf [.value, .flowEntry, .flowMappingEnd] (← peek) then empty else node fuel false false
      let value ← match ← peek with
        | some .value => do
          skip
          if isOneOf [.flowEntry, .flowMappingEnd] (← peek) then empty else node fuel false false
        | _ => empty
      return (key, value) :: (← flowEntries fuel false)
    | _ =>
      let key ← node fuel false false
      let value ← empty
      return (key, value) :: (← flowEntries fuel false)
end

def directives (version : Bool) (stems : List (String × Octets)) :
    List Token → Option (List (String × Octets) × List Token)
  | .version major minor :: rest =>
    if version || major ≠ 1 || (minor ≠ 1 && minor ≠ 2) then none else directives true stems rest
  | .tagDirective handle stem :: rest =>
    if stems.any fun entry => entry.1 == handle then none
    else directives version ((handle, stem) :: stems) rest
  | rest => some (stems, rest)

def standardStems : List (String × Octets) :=
  [("!", octetsOf ['!']), ("!!", octetsOf (Tag.standard "").toList)]

def document? (tokens : List Token) : Option Document := do
  let explicit := match tokens.head? with
    | some (.version ..) | some (.tagDirective ..) | some .documentStart => true
    | _ => false
  let (stems, rest) ← directives false [] tokens
  let body ← if explicit then
      match rest with
      | .documentStart :: body => some body
      | _ => none
    else some tokens
  let start : Reading := ⟨body, [], [], stems ++ standardStems, 0⟩
  let written := !explicit || match body.head? with
    | none | some .documentStart | some .documentEnd => false
    | some (.version ..) | some (.tagDirective ..) => false
    | some _ => true
  let (root, last) ←
    if written then (node (4 * tokens.length + 4) true false).run start else empty.run start
  let anchors := last.anchors.filterMap fun (number, node) => node.map fun node => (number, node)
  if last.tokens.all (· == .documentEnd) then some ⟨root, anchors, last.marks⟩ else none

end Reading

def read? (s : String) : Option Yaml := do
  let tokens ← tokens? s.toList
  if tokens.isEmpty then some .null else (← Reading.document? tokens).value?

end Syllabus.Yaml
