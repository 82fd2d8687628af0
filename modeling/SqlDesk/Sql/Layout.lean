/-
The layout of a statement over lines.

Each group decides where its own lines break, then the groups in it do, from left to right; what has
been written so far is then final, and a group aligns itself with the column it starts at. A group
decides on pieces: nodes that will be written, and white space put in between.

Inside a group lines start at the indent and the offset of its context. The indent counts steps, the
offset columns. A break at the start of a piece drops the white space before it.
-/
import SqlDesk.Sql.Column
import SqlDesk.Sql.Tree
import SqlDesk.Text.Replace

namespace SqlDesk.Sql

/-- How a statement is laid out: the columns of a step, the column after which a list wraps, and
whether a comma goes to the line of the item after it. -/
structure Style where
  step : Nat
  wrapAfter : Int
  commaFirst : Bool
  deriving DecidableEq, Repr

/-- Where a group stands. -/
structure Context where
  indent : Int := 0
  offset : Int := 0
  inCall : Bool := false

/-- What has been written: the text, the column it ends at, and the length of the name of the last
call. -/
structure Written where
  text : List (List Char) := []
  column : Column := {}
  lastCall : Option Nat := none

namespace Written

/-- More text. -/
def put (written : Written) (cs : List Char) : Written :=
  { written with text := cs :: written.text, column := written.column.advance cs }

end Written

/-- A node that is going to be written, and how its group writes it. -/
structure Piece where
  node : Node
  write : Context → Written → Written

namespace Piece

/-- White space. -/
def blank (cs : List Char) : Piece :=
  ⟨.leaf (.space cs), fun _ written => written.put cs⟩

/-- A node that is written as it is. -/
def plain (node : Node) : Piece :=
  ⟨node, fun _ written => written.put node.text⟩

/-- Whether a piece is white space. -/
def isBlank (piece : Piece) : Bool :=
  piece.node.isBlank

end Piece

/-- The text of pieces as they stand. -/
def textOfPieces (pieces : List Piece) : List Char :=
  pieces.flatMap (·.node.text)

/-- Writes pieces from left to right. -/
def writeAll (context : Context) (written : Written) (pieces : List Piece) : Written :=
  pieces.foldl (fun written piece => piece.write context written) written

namespace Context

/-- The column at which lines start. -/
def leading (context : Context) (style : Style) : Int :=
  context.offset + context.indent * style.step

/-- A line end and the spaces up to the column at which lines start, or some columns from it. -/
def newLine (context : Context) (style : Style) (extra : Int) : Piece :=
  .blank ('\n' :: List.replicate (context.leading style + extra).toNat ' ')

/-- How far a column is from the column at which lines start. -/
def offsetOf (context : Context) (style : Style) (column : Column) : Int :=
  column.length - max 0 (context.leading style)

end Context

/-- Breaks before each verb, unless nothing stands before it. -/
def breakVerbs (newLine : Piece) : List Piece → List Piece → List Piece
  | made, [] => made.reverse
  | made, piece :: rest =>
    if piece.node.isOneOf [.verb] then
      match made with
      | [] => breakVerbs newLine [piece] rest
      | last :: more =>
        breakVerbs newLine (piece :: newLine :: (if last.isBlank then more else made)) rest
    else breakVerbs newLine (piece :: made) rest

/-- The phrases a word has to contain so that a line breaks before it. -/
def breakingPhrases : List String :=
  ["FROM", "AND", "OR", "GROUP BY", "ORDER BY", "UNION", "VALUES", "SET", "BETWEEN", "EXCEPT",
    "HAVING", "LIMIT"]

/-- Whether a line breaks before a node. -/
def breaksBefore (node : Node) : Bool :=
  node.isLeaf fun token =>
    let word := capitals token.text
    token.kind = .keyword &&
      (breakingPhrases.any (fun phrase => (Text.cut? phrase.toList word).isSome) ||
        "JOIN".toList.isSuffixOf word)

/-- Whether a text ends with a line end. -/
def endsLine (cs : List Char) : Bool :=
  cs.getLast?.any fun c => c = '\n' || c = '\r'

/-- Breaks before each word that starts a line; BETWEEN does not, nor does the AND that belongs to
it. `pending` counts the words BETWEEN whose AND is still to come. -/
def breakWords (newLine : Piece) (pending : Nat) : List Piece → List Piece → List Piece
  | made, [] => made.reverse
  | made, piece :: rest =>
    if !breaksBefore piece.node then breakWords newLine pending (piece :: made) rest
    else if piece.node.isKeyword "BETWEEN" then
      breakWords newLine (pending + 1) (piece :: made) rest
    else if pending > 0 && piece.node.isKeyword "AND" then
      breakWords newLine (pending - 1) (piece :: made) rest
    else
      let kept := match made with
        | last :: more => if last.isBlank then more else made
        | [] => []
      let fresh := made.head?.any fun last => endsLine last.node.text
      breakWords newLine 0 (piece :: (if fresh then kept else newLine :: kept)) rest

/-- Writes pieces with the breaks that any group has; verbs count only if `verbs`. -/
def writeBroken (style : Style) (verbs : Bool) (context : Context) (written : Written)
    (pieces : List Piece) : Written :=
  let newLine := context.newLine style 0
  let pieces := if verbs then breakVerbs newLine [] pieces else pieces
  writeAll context written (breakWords newLine 0 [] pieces)

/-- A filter starts a line at its WHERE and goes one step in. It is left as it is if that word has
become part of a group in it. -/
def writeFilter (style : Style) (context : Context) (written : Written) (pieces : List Piece) :
    Written :=
  let before := pieces.takeWhile fun piece => !piece.node.isKeyword "WHERE"
  match pieces.drop before.length with
  | [] => written.put (textOfPieces pieces)
  | rest =>
    let inner := { context with indent := context.indent + 1 }
    writeBroken style true inner written (before ++ context.newLine style 0 :: rest)

/-- A bracket that holds a statement starts a line, one step in; the inside of a bracket starts
right after it, and with the verb if there is one. All is left as it is if the opening bracket has
become part of a group in it. -/
def writeBrackets (style : Style) (context : Context) (written : Written) (pieces : List Piece) :
    Written :=
  let nested := pieces.any (·.node.isOneOf [.verb])
  let inner := { context with indent := context.indent + (if nested then 1 else 0) }
  let start := if nested then [inner.newLine style 0] else []
  let before := pieces.takeWhile fun piece => !piece.node.isMark '('
  if before.length = pieces.length then written.put (textOfPieces pieces)
  else
    let column := written.column.advance (textOfPieces (start ++ before))
    let inner := { inner with offset := inner.offset + inner.offsetOf style column + 1 }
    writeBroken style (!nested) inner written (start ++ pieces)

/-- A call is remembered by the length of its name. -/
def writeCall (style : Style) (context : Context) (written : Written) (pieces : List Piece) :
    Written :=
  let written := { written with lastCall := pieces.head?.map (·.node.size) }
  writeBroken style true { context with inCall := true } written pieces

/-- Whether a piece is an item of a list. -/
def Piece.isItem (piece : Piece) : Bool :=
  !piece.isBlank && !piece.node.isMark ','

/-- Breaks a list before each item that does not fit, or before the comma in front of it. `position`
is the width since the last break, `due` says whether the next item starts a line. -/
def wrapItems (style : Style) (limit : Int) (newLine : Piece) (position : Nat) (due : Bool) :
    List Piece → List Piece
  | [] => []
  | piece :: rest =>
    if piece.node.isMark ',' then
      let width := position + ((rest.find? Piece.isItem).map (·.node.size)).getD 0 + 1
      let breaks := (width : Int) > limit
      let position := if breaks then 0 else width
      if breaks && style.commaFirst then
        let isNear := rest.head?.any fun next => !next.node.isOneOf [.blank]
        let gap := if isNear then [.blank [' ']] else []
        newLine :: piece :: gap ++ wrapItems style limit newLine position false rest
      else piece :: wrapItems style limit newLine position (due || breaks) rest
    else if due && piece.isItem then
      newLine :: piece :: wrapItems style limit newLine position false rest
    else piece :: wrapItems style limit newLine position due rest

/-- A list on its own is aligned with its first item. -/
def alignItems (style : Style) (context : Context) (column : Column) (pieces : List Piece) :
    List Piece :=
  let inner := { context with offset := context.offset + context.offsetOf style column }
  wrapItems style (style.wrapAfter - inner.offset)
    (inner.newLine style (if style.commaFirst then -2 else 0)) 0 false pieces

/-- The items of a list with a space after each comma that has none. -/
def spaceCommas : List Piece → List Piece
  | [] => []
  | [piece] => [piece]
  | piece :: next :: rest =>
    if piece.node.isMark ',' && !next.isBlank then
      piece :: .blank [' '] :: spaceCommas (next :: rest)
    else piece :: spaceCommas (next :: rest)

/-- Breaks before the second item of a list, and before each later one. -/
def breakSecond (newLine : Piece) : Bool → List Piece → List Piece
  | _, [] => []
  | started, piece :: rest =>
    if piece.isItem then
      if started then newLine :: piece :: rest else piece :: breakSecond newLine true rest
    else piece :: breakSecond newLine started rest

/-- A list in a call wraps one step in, and goes back under the call's name if it is too wide. -/
def wrapArguments (style : Style) (context : Context) (lastCall : Option Nat)
    (pieces : List Piece) : List Piece :=
  let pieces := spaceCommas pieces
  let items := (pieces.filter Piece.isItem).drop 1
  let width := context.offset + (items.foldr (fun item n => item.node.size + 1 + n) 0 : Nat)
  let back : Int :=
    match lastCall with
    | some length =>
      if style.wrapAfter > 0 && width > style.wrapAfter - context.offset then
        -(length : Int) - 1
      else 0
    | none => 0
  let inner := { context with offset := context.offset + back, indent := context.indent + 1 }
  let newLine := inner.newLine style 0
  let limit := style.wrapAfter - inner.offset
  let pieces :=
    if style.wrapAfter > 0 then
      wrapItems { style with commaFirst := false } limit newLine 0 false pieces
    else pieces
  if back < 0 then breakSecond newLine false pieces else pieces

/-- A list. -/
def writeList (style : Style) (context : Context) (written : Written) (pieces : List Piece) :
    Written :=
  let pieces :=
    if context.inCall then wrapArguments style context written.lastCall pieces
    else alignItems style context written.column pieces
  writeBroken style true context written pieces

/-- Whether a piece opens a branch of a choice. -/
def opensBranch (piece : Piece) : Bool :=
  piece.node.isKeyword "WHEN" || piece.node.isKeyword "ELSE"

/-- Breaks before each branch of a choice that does not fit, and before its end. -/
def breakBranches (limit : Int) (branch finish : Piece) : List Piece → List Piece
  | [] => []
  | piece :: rest =>
    if piece.node.isKeyword "END" then finish :: piece :: rest
    else if opensBranch piece then
      let more := rest.takeWhile fun next => !opensBranch next && !next.node.isKeyword "END"
      let width := piece.node.text.length + (textOfPieces more).length
      if (width : Int) > limit then branch :: piece :: breakBranches limit branch finish rest
      else piece :: breakBranches limit branch finish rest
    else piece :: breakBranches limit branch finish rest

/-- A choice has its branches under the place after its first word. -/
def writeChoice (style : Style) (context : Context) (written : Written) (pieces : List Piece) :
    Written :=
  let head := pieces.takeWhile fun piece => piece.node.isKeyword "CASE"
  let outer := { context with offset := context.offset + context.offsetOf style written.column }
  let column := written.column.advance (textOfPieces head)
  let inner := { outer with offset := outer.offset + outer.offsetOf style column }
  let limit := style.wrapAfter - inner.offset - 1
  let rest := pieces.drop head.length
  let rest := breakBranches limit (inner.newLine style 0) (outer.newLine style 0) rest
  writeBroken style true { inner with offset := inner.offset + 5 } written (head ++ rest)

/-- How far the writing of rows has come: the column of the first row, the columns of the rows whose
comma is still to come, and the breaks that are due before the next row. -/
structure RowProgress where
  first : Option Column := none
  rows : List Column := []
  due : List Char := []

/-- Writes rows with breaks between them: before each comma, to the column of the first row, or
after it, to the column of the row before. Rows without a comma between them each break at the next
one. -/
def breakRows (style : Style) (context : Context) :
    RowProgress → Written → List Piece → Written
  | progress, written, [] => written.put progress.due
  | progress, written, piece :: rest =>
    let text := piece.node.text
    if piece.isBlank then breakRows style context progress (written.put text) rest
    else
      let written := written.put progress.due
      let here := written.column
      if piece.node.isGroup [.parenthesis] then
        let progress := ⟨progress.first.orElse fun _ => some here, progress.rows ++ [here], []⟩
        breakRows style context progress (written.put text) rest
      else
        match piece.node.isMark ',', progress.first with
        | true, some start =>
          let gap (column : Column) (extra : Int) :=
            (context.newLine style (context.offsetOf style column + extra)).node.text
          if style.commaFirst then
            let gaps := progress.rows.flatMap fun _ => gap start (-2)
            breakRows style context ⟨progress.first, [], []⟩ ((written.put gaps).put text) rest
          else
            let gaps := progress.rows.flatMap (gap · 0)
            breakRows style context ⟨progress.first, [], gaps⟩ (written.put text) rest
        | _, _ => breakRows style context { progress with due := [] } (written.put text) rest

/-- Rows start a line. -/
def writeRows (style : Style) (context : Context) (written : Written) (pieces : List Piece) :
    Written :=
  breakRows style context {} written (context.newLine style 0 :: pieces)

/-- Writes the pieces of a group. -/
def writeGroup (style : Style) (kind : GroupKind) (context : Context) (written : Written)
    (pieces : List Piece) : Written :=
  match kind with
  | .filter => writeFilter style context written pieces
  | .parenthesis => writeBrackets style context written pieces
  | .call => writeCall style context written pieces
  | .list => writeList style context written pieces
  | .choice => writeChoice style context written pieces
  | .rows => writeRows style context written pieces
  | _ => writeBroken style true context written pieces

namespace Node

mutual

/-- A node as a piece. -/
def piece (style : Style) : Node → Piece
  | leaf token => .plain (leaf token)
  | group kind size children =>
    ⟨group kind size children, fun context written =>
      writeGroup style kind context written (pieces style children)⟩

/-- Nodes as pieces. -/
def pieces (style : Style) : List Node → List Piece
  | [] => []
  | node :: rest => piece style node :: pieces style rest

end

end Node

/-- The text of a statement laid out over lines. -/
def layOut (style : Style) (nodes : List Node) : List Char :=
  (writeBroken style true {} {} (Node.pieces style nodes)).text.reverse.flatten

end SqlDesk.Sql
