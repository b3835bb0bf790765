import Syllabus.Markdown.Token

/-! The tokens of running text, read once from left to right. Only what the images of the text need is
kept: their places and targets, and the plain characters. Brackets are held open until
their closing bracket tells whether they are a link, an image or plain. Signs of emphasis inside an
image stay plain as far as no other sign answers them. An image is recorded with where it comes from, what is said in its
place, and the line it starts on. -/
namespace Syllabus

structure Image where
  url : String
  alt : String
  line : Nat
  deriving DecidableEq, Repr

namespace Markdown

structure SignRun where
  sign : Char
  length : Nat
  opens : Bool
  closes : Bool
  left : Nat
  deriving Repr

inductive Piece where
  | text (s : List Char)
  | run (r : SignRun)
  | backslash
  | imageStart (url : List Char) (place : Nat)
  | imageEnd
  deriving Repr

def Piece.isRun : Piece → Bool
  | .run _ => true
  | _ => false

namespace SignRun

/-- Whether a closing run may answer an opening one: of two runs that each could do both, the
lengths may not add up to a multiple of three unless both are such multiples. -/
def answers (closer opener : SignRun) : Bool :=
  opener.opens && 0 < opener.left && opener.sign = closer.sign
    && ((!(opener.closes && opener.opens) && !(closer.opens && closer.closes))
      || (opener.length + closer.length) % 3 != 0 || closer.length % 3 = 0)

end SignRun

def answer : Nat → SignRun → List SignRun → SignRun × List SignRun
  | 0, closer, before => (closer, before)
  | n + 1, closer, before =>
    if closer.left = 0 then (closer, before)
    else
      let between := before.takeWhile fun opener => !closer.answers opener
      match before.drop between.length with
      | [] => (closer, before)
      | opener :: more =>
        let met := min closer.left opener.left
        let silent := between.map fun run => { run with opens := false }
        answer n { closer with left := closer.left - met }
          (silent ++ { opener with left := opener.left - met } :: more)

def settleRuns (runs : List SignRun) : List SignRun :=
  runs.foldl (fun before run =>
    if run.closes then
      let (run, before) := answer run.length run before
      run :: before
    else run :: before) []

def plainRuns : List SignRun → List Piece → List Piece
  | run :: runs, .run _ :: more => .text (List.replicate run.left run.sign) :: plainRuns runs more
  | runs, piece :: more => piece :: plainRuns runs more
  | _, [] => []

def settlePieces (pieces : List Piece) : List Piece :=
  let runs := pieces.filterMap fun piece => match piece with
    | .run r => some r
    | _ => none
  plainRuns (settleRuns runs).reverse pieces

def settled (pieces : List Piece) : List Piece :=
  let pieces := match pieces with
    | .backslash :: before => (if before.any Piece.isRun then Piece.text ['\\'] else .backslash) :: before
    | _ => pieces
  (settlePieces pieces.reverse).reverse

structure Bracket where
  image : Bool
  active : Bool
  place : Nat
  before : List Piece
  inside : List Char
  deriving Repr

def Bracket.plain (b : Bracket) : Piece := .text (if b.image then ['!', '['] else ['['])

def unwind : List Bracket → List Piece → List Piece
  | [], pieces => pieces
  | b :: outer, pieces => unwind outer (pieces ++ b.plain :: b.before)

def freeWeight : Nat := 100000

structure Context where
  definitions : List Definition
  next : Continuation
  length : Nat

namespace Context

def ofLeaf (definitions : List Definition) (leaf : Leaf) : Context :=
  ⟨definitions, fun s => some (afterContainers leaf.containers s), leaf.text.length + leaf.underline.length⟩

def placeOf (context : Context) (rest : List Char) : Nat := context.length - rest.length

def definition? (context : Context) (label : List Char) : Option Definition :=
  context.definitions.find? fun d => d.label == label

def inTitle (context : Context) (tokens : List Token) : Continuation := fun s =>
  match tokens.dropWhile fun t => t.stop ≤ context.placeOf s with
  | t :: _ => some t.rest
  | [] => some s

structure Target where
  url : List Char
  weight : Nat
  deriving Repr

def Target.ofDefinition (d : Definition) : Target := ⟨d.url, d.weight⟩

def pointsTo? (context : Context) (budget : Nat) (b : Bracket) (close : Token) (tokens : List Token) :
    Option (Target × List Token) :=
  let defined (label : List Char) : Option Target :=
    if budget = 0 then none else (context.definition? label).map Target.ofDefinition
  let inline := match close.behind with
    | '(' :: tail => inlineTarget? context.next (context.inTitle tokens) tail
    | _ => none
  let own := ((label? context.next b.inside).filter fun (_, tail) => context.placeOf tail = close.stop).bind
    fun (label, _) => defined label
  match inline with
  | some (url, tail) => some (⟨url, 0⟩, Token.since (context.placeOf tail) tokens)
  | none =>
    match tokens.head?.map Token.rest with
    | some ('[' :: ']' :: _) => own.map fun target => (target, tokens.drop 2)
    | some ('[' :: inside) =>
      match label? context.next inside with
      | some (label, tail) =>
        (defined label).map fun target => (target, Token.since (context.placeOf tail) tokens)
      | none => own.map fun target => (target, tokens)
    | _ => own.map fun target => (target, tokens)

structure Reading where
  budget : Nat
  brackets : List Bracket
  pieces : List Piece
  deriving Repr

def closeBracket (context : Context) (r : Reading) (close : Token) (tokens : List Token) :
    Reading × List Token :=
  match r.brackets with
  | [] => ({ r with pieces := .text close.chars :: r.pieces }, tokens)
  | b :: outer =>
    match if b.active then context.pointsTo? r.budget b close tokens else none with
    | none => (⟨r.budget, outer, .text close.chars :: r.pieces ++ b.plain :: b.before⟩, tokens)
    | some (target, rest) =>
      let inner := settled r.pieces
      let left := r.budget - target.weight
      if b.image then (⟨left, outer, .imageEnd :: inner ++ .imageStart target.url b.place :: b.before⟩, rest)
      else
        let outer := outer.map fun other => if other.image then other else { other with active := false }
        (⟨left, outer, .text [] :: inner ++ b.before⟩, rest)

def codeText (context : Context) (s : List Char) : List Char :=
  let s := joined s.length s
  if s.head? = some ' ' && s.getLast? = some ' ' && !s.all (· == ' ') then (s.drop 1).dropLast else s
where
  joined : Nat → List Char → List Char
    | 0, _ => []
    | _, [] => []
    | n + 1, c :: rest => if isLineEnd c then ' ' :: joined n ((context.next rest).getD rest) else c :: joined n rest

def meaning (context : Context) (t : Token) (tokens : List Token) : List Piece × List Token :=
  let plain := ([.text t.chars], tokens)
  match t.mark with
  | .text | .openBracket _ | .closeBracket => plain
  | .character stands => ([.text stands], tokens)
  | .signs flanks => ([.run ⟨t.chars.head?.getD '*', t.chars.length, flanks.opens, flanks.closes, t.chars.length⟩], tokens)
  | .lineEnd escaped => ([if escaped then .backslash else .text []], tokens)
  | .angle =>
    match tokens with
    | [] => plain
    | u :: _ =>
      match address? u.rest with
      | some (address, tail) => ([.text address], Token.since (context.placeOf tail) tokens)
      | none =>
        match afterMarkup? context.next u.rest with
        | some tail => ([.text []], Token.since (context.placeOf tail) tokens)
        | none => plain
  | .ticks escaped =>
    let length := if escaped then t.chars.length - 1 else t.chars.length
    let closes (u : Token) : Bool := match u.mark with
      | .ticks _ => u.chars.length = length
      | _ => false
    match tokens.dropWhile (!closes ·) with
    | [] => plain
    | u :: rest =>
      let code := context.codeText (t.behind.take (u.place - t.stop))
      (.text code :: (if escaped then [.text ['\x60']] else []), rest)

def read (context : Context) : Nat → List Token → Reading → Reading
  | 0, _, r => r
  | _, [], r => r
  | n + 1, t :: tokens, r =>
    match t.mark with
    | .openBracket image =>
      context.read n tokens { r with brackets := ⟨image, true, t.place, r.pieces, t.behind⟩ :: r.brackets, pieces := [] }
    | .closeBracket =>
      let (r, rest) := context.closeBracket r t tokens
      context.read n rest r
    | _ =>
      let (made, rest) := context.meaning t tokens
      context.read n rest { r with pieces := made ++ r.pieces }

end Context

def piecesOf (definitions : List Definition) : (budget : Nat) → List Leaf → List (Leaf × List Piece)
  | _, [] => []
  | budget, leaf :: more =>
    let tokens := Token.ofLeaf leaf
    let r := (Context.ofLeaf definitions leaf).read tokens.length tokens ⟨budget, [], []⟩
    (leaf, (unwind r.brackets r.pieces).reverse) :: piecesOf definitions r.budget more

def imagesFrom (rowAt : Nat → Nat) : Option Image → List Piece → List Image
  | _, [] => []
  | _, .imageStart url place :: more => imagesFrom rowAt (some ⟨.ofList url, "", rowAt place⟩) more
  | some image, .text s :: more => imagesFrom rowAt (some { image with alt := image.alt ++ .ofList s }) more
  | current, .imageEnd :: more => current.toList ++ imagesFrom rowAt none more
  | current, _ :: more => imagesFrom rowAt current more

end Markdown

namespace Image

def find (text : String) (first : Nat) : List Image :=
  let s := text.toList
  let blocks := Markdown.Blocks.ofText s
  let budget := max text.utf8ByteSize Markdown.freeWeight
  (Markdown.piecesOf blocks.definitions budget blocks.leaves).flatMap fun (leaf, pieces) =>
    let rowAt (place : Nat) : Nat :=
      first + (Markdown.rowsOf s - Markdown.rowsOf leaf.start) + Markdown.rowsOf (leaf.text.take place)
    Markdown.imagesFrom rowAt none pieces

end Image
end Syllabus
