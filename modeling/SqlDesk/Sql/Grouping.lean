/-
How the tokens of a statement become a tree.

The passes run one after another over the whole tree, each from the inside out: comments, square and
round brackets, choices (CASE to END), calls, filters (from WHERE on), dotted names, subscripts,
single names, a name with its word of order, operations, comparisons, aliases with AS and without,
comments again, which then join what stands before them, lists and rows.

Most passes look at one node and what follows (`scan`), or join what stands on both sides of a token
(`join`). Joining goes from left to right: what has been joined on the right side of a token is then
the left side of the next one, and it is the group made last that grows or is nested.
-/
import SqlDesk.Sql.Tree

namespace SqlDesk.Sql

open Node

/-- Replaces nodes from left to right by groups. `step` looks at a node and at what follows; it
gives the group and how many of the nodes that follow are in it. -/
def scan (step : Node → List Node → Option (Node × Nat)) : Nat → List Node → List Node
  | _, [] => []
  | skip + 1, _ :: rest => scan step skip rest
  | 0, node :: rest =>
    match step node rest with
    | some (made, taken) => made :: scan step taken rest
    | none => node :: scan step 0 rest

/-- The white space at the start of some nodes, and the node after it. -/
def upToNext (nodes : List Node) : List Node × Option Node :=
  let blanks := nodes.takeWhile Node.isBlank
  (blanks, nodes[blanks.length]?)

/-- A comment with the comments and line ends after it, unless nothing else follows. -/
def groupComment (node : Node) (rest : List Node) : Option (Node × Nat) :=
  let belongs (n : Node) := n.isLeaf fun token => token.isComment || token.kind = .newline
  let run := rest.takeWhile belongs
  if node.isLeaf Token.isComment && run.length < rest.length then
    some (gather .comment (node :: run), run.length)
  else none

/-- Groups what stands between an opening and a closing token. The open groups are lists of nodes,
the last node first; an opening token that is never closed and a closing one without its partner
stay where they are. -/
def matchPairs (kind : GroupKind) (opens closes : Node → Bool) (nodes : List Node) : List Node :=
  let close : List (List Node) → Node → List (List Node)
    | inner :: outer :: more, node =>
      (gather kind (inner.reverse ++ [node]) :: outer) :: more
    | frames, node =>
      match frames with
      | [] => [[node]]
      | frame :: more => (node :: frame) :: more
  let push : List (List Node) → Node → List (List Node)
    | [], node => [[node]]
    | frame :: more, node => (node :: frame) :: more
  let frames := nodes.foldl (fun frames node =>
    if opens node then [node] :: frames
    else if closes node then close frames node
    else push frames node) [[]]
  (frames.reverse.map List.reverse).flatten

/-- A name with the bracket after it. -/
def groupCall (node : Node) (rest : List Node) : Option (Node × Nat) :=
  match node.isOneOf [.name], upToNext rest with
  | true, (blanks, some next) =>
    if next.isGroup [.parenthesis] then
      some (gather .call (node :: blanks ++ [next]), blanks.length + 1)
    else none
  | _, _ => none

/-- The words before which a filter ends. -/
def filterEnds : List String :=
  ["ORDER BY", "GROUP BY", "UNION", "UNION ALL", "HAVING", "INTO"]

/-- A filter: from WHERE on, up to a word that ends it or to the end of the nodes, of which a
closing bracket is no part. -/
def groupFilter (kind : Option GroupKind) (node : Node) (rest : List Node) : Option (Node × Nat) :=
  if node.isKeyword "WHERE" then
    let run := rest.takeWhile fun n => !filterEnds.any fun word => n.isKeyword word
    let inBrackets := kind = some .parenthesis || kind = some .subscript
    let run := if run.length = rest.length && inBrackets then run.dropLast else run
    some (gather .filter (node :: run), run.length)
  else none

/-- A single name. -/
def groupName (node : Node) (_ : List Node) : Option (Node × Nat) :=
  if node.isOneOf [.symbol, .name] then some (gather .identifier [node], 0) else none

/-- Something with the name after it, which is then its alias. -/
def groupAlias (node : Node) (rest : List Node) : Option (Node × Nat) :=
  let named :=
    node.isOneOf [.number] ||
      node.isGroup [.parenthesis, .call, .choice, .identifier, .operation, .comparison]
  match named, upToNext rest with
  | true, (blanks, some next) =>
    if next.isGroup [.identifier] then
      let more := blanks ++ [next]
      let group :=
        if node.isGroup [.identifier] then node.extend more
        else gather .identifier (node :: more)
      some (group, more.length)
    else none
  | _, _ => none

/-- How far a joint reaches to the right: not at all, only over itself, or to the next node. -/
inductive Reach where
  | nowhere
  | itself
  | next
  deriving DecidableEq, Repr

/-- A way to join nodes on both sides of a token. -/
structure Joint where
  kind : GroupKind
  joins : Node → Bool
  before : Node → Bool
  reach : Option Node → Reach
  grows : Bool

namespace Joint

/-- The group that a joint makes of the node before it and what it reaches. -/
def combine (joint : Joint) (first : Node) (more : List Node) : Node :=
  if joint.grows && first.isGroup [joint.kind] then first.extend more
  else gather joint.kind (first :: more)

/-- A group that ends in a node which joins in its turn, with all that it reaches: the group, the
node it ends in, and how many of the nodes that follow have been taken. -/
def prolong (joint : Joint) : Nat → Node → Node → List Node → Node × Node × Nat
  | 0, made, last, _ => (made, last, 0)
  | fuel + 1, made, last, rest =>
    let (gap, next) := upToNext rest
    match joint.joins last, joint.reach next, next with
    | true, .next, some next =>
      let (made, last, taken) :=
        prolong joint fuel (joint.combine made (gap ++ [next])) next (rest.drop (gap.length + 1))
      (made, last, gap.length + 1 + taken)
    | _, _, _ => (made, last, 0)

/-- The state of joining: the nodes made so far, the last first, and what the next joint takes for
the node before it. -/
structure Progress where
  made : List Node := []
  last : Option Node := none

/-- Joins a token with what stands before it and what it reaches; how many nodes after it are taken,
or nothing if it joins nothing. -/
def step? (joint : Joint) (progress : Progress) (node : Node) (rest : List Node) :
    Option (Progress × Nat) :=
  if joint.joins node && progress.last.any joint.before then
    let blanks := progress.made.takeWhile Node.isBlank
    match progress.made.drop blanks.length with
    | [] => none
    | first :: made =>
      let (gap, next) := upToNext rest
      match joint.reach next, next with
      | .next, some next =>
        let group := joint.combine first (blanks.reverse ++ node :: gap ++ [next])
        let rest := rest.drop (gap.length + 1)
        let (whole, last, taken) := joint.prolong rest.length group next rest
        some (⟨whole :: made, some last⟩, gap.length + 1 + taken)
      | .itself, _ =>
        let group := joint.combine first (blanks.reverse ++ [node])
        some (⟨group :: made, some group⟩, 0)
      | _, _ => none
  else none

/-- Joins nodes from left to right, after `skip` more nodes of the last group. -/
def run (joint : Joint) (progress : Progress) : Nat → List Node → List Node
  | _, [] => progress.made.reverse
  | skip + 1, _ :: rest => run joint progress skip rest
  | 0, node :: rest =>
    if node.isBlank then run joint { progress with made := node :: progress.made } 0 rest
    else
      match joint.step? progress node rest with
      | some (progress, taken) => run joint progress taken rest
      | none => run joint ⟨node :: progress.made, some node⟩ 0 rest

/-- Joins everywhere in a tree; groups of the kind that is made are not entered. -/
def apply (joint : Joint) (nodes : List Node) : List Node :=
  rearrange (· = joint.kind) (fun _ => joint.run {} 0) nodes

end Joint

/-- The kinds of token that stand for a value. -/
def valueTokens : List TokenKind := [.number, .string, .symbol, .name]

/-- The reach of a joint that needs a certain node after it. -/
def reachIf (test : Node → Bool) (next : Option Node) : Reach :=
  if next.any test then .next else .nowhere

/-- Dotted names. The dot belongs to the name even if nothing that can follow it does, and the next
dot then goes on with that name. -/
def dotted : Joint where
  kind := .identifier
  joins := (·.isMark '.')
  before := fun node =>
    node.isOneOf [.name, .symbol] || node.isGroup [.call, .subscript, .identifier]
  reach := fun next =>
    if next.any fun node =>
        node.isOneOf [.name, .symbol, .wildcard, .string] || node.isGroup [.call, .subscript]
    then .next else .itself
  grows := true

/-- Names with subscripts. -/
def subscripted : Joint where
  kind := .identifier
  joins := (·.isGroup [.subscript])
  before := fun node =>
    node.isOneOf [.name, .symbol] || node.isGroup [.call, .subscript, .identifier]
  reach := fun _ => .itself
  grows := true

/-- Whether a node can stand on a side of an operator. -/
def isOperand (node : Node) : Bool :=
  node.isOneOf valueTokens ||
    node.isGroup [.parenthesis, .subscript, .call, .identifier, .operation]

/-- Operations. A wildcard between operands is an operator. -/
def operation : Joint where
  kind := .operation
  joins := (·.isOneOf [.operator, .wildcard])
  before := isOperand
  reach := reachIf isOperand
  grows := false

/-- Whether a node can stand on a side of a comparison: what an operator takes, but no square
brackets of their own, and NULL. -/
def isCompared (node : Node) : Bool :=
  (isOperand node && !node.isGroup [.subscript]) || node.isKeyword "NULL"

/-- Comparisons. -/
def comparison : Joint where
  kind := .comparison
  joins := (·.isOneOf [.comparison])
  before := isCompared
  reach := reachIf isCompared
  grows := false

/-- Aliases with AS. -/
def aliasing : Joint where
  kind := .identifier
  joins := (·.isKeyword "AS")
  before := fun node => node.isKeyword "NULL" || !node.isLeaf Token.isReserved
  reach := reachIf fun node => !node.isOneOf [.verb, .tables]
  grows := true

/-- Whether a node can be an item of a list. -/
def isItem (node : Node) : Bool :=
  node.isOneOf (.keyword :: .wildcard :: valueTokens) ||
    node.isGroup [.call, .choice, .identifier, .comparison, .list, .operation]

/-- Lists. -/
def listing : Joint where
  kind := .list
  joins := (·.isMark ',')
  before := isItem
  reach := reachIf isItem
  grows := true

/-- Joins a node to what stands before it if `joins` holds of both. -/
def attach (joins : Node → Node → Bool) (combine : Node → List Node → Node) (nodes : List Node) :
    List Node :=
  (nodes.foldl (fun made node =>
    let blanks := made.takeWhile Node.isBlank
    match made.drop blanks.length with
    | [] => node :: made
    | first :: more =>
      if joins first node then combine first (blanks.reverse ++ [node]) :: more
      else node :: made) []).reverse

/-- A name or a number with the word of order after it. -/
def groupOrder (nodes : List Node) : List Node :=
  attach (fun first node =>
      node.isOneOf [.order] && (first.isGroup [.identifier] || first.isOneOf [.number]))
    (fun first more => gather .identifier (first :: more)) nodes

/-- A group with the comment after it. -/
def attachComments (nodes : List Node) : List Node :=
  attach (fun first node => node.isGroup [.comment] && first.hasChildren)
    Node.extend nodes

/-- The rows after VALUES, up to the last bracket. -/
def groupRows (nodes : List Node) : List Node :=
  let before := nodes.takeWhile fun node => !node.isKeyword "VALUES"
  let after := nodes.drop before.length
  let tail := (after.reverse.takeWhile fun node => !node.isGroup [.parenthesis]).reverse
  let rows := after.take (after.length - tail.length)
  if rows.isEmpty then nodes else before ++ gather .rows rows :: tail

/-- The tree of a statement. -/
def groupAll (statement : List Token) : List Node :=
  let everywhere (_ : GroupKind) := false
  let nodes := scan groupComment 0 (statement.map .leaf)
  let nodes := rearrange (· = .subscript)
    (fun _ => matchPairs .subscript (·.isMark '[') (·.isMark ']')) nodes
  let nodes := rearrange (· = .parenthesis)
    (fun _ => matchPairs .parenthesis (·.isMark '(') (·.isMark ')')) nodes
  let nodes := rearrange (· = .choice)
    (fun _ => matchPairs .choice (·.isKeyword "CASE") (·.isKeyword "END")) nodes
  let nodes := rearrange (· = .call) (fun _ => scan groupCall 0) nodes
  let nodes := rearrange (· = .filter) (fun kind => scan (groupFilter kind) 0) nodes
  let nodes := dotted.apply nodes
  let nodes := subscripted.run {} 0 nodes
  let nodes := rearrange (· = .identifier) (fun _ => scan groupName 0) nodes
  let nodes := rearrange (· = .identifier) (fun _ => groupOrder) nodes
  let nodes := operation.apply nodes
  let nodes := comparison.apply nodes
  let nodes := aliasing.apply nodes
  let nodes := rearrange everywhere (fun _ => scan groupAlias 0) nodes
  let nodes := rearrange everywhere (fun _ => attachComments) nodes
  let nodes := listing.apply nodes
  groupRows nodes

end SqlDesk.Sql
