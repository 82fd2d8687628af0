/-
White space inside the groups of a tree.

From the inside out, white space at the start of a group goes and every other run of it becomes one
space. In a list the white space right before a comma goes, and in round brackets what stands right
after the opening and right before the closing one, unless a comment has joined the group behind
them. Tokens of white space stay where they are; what goes is their text.
-/
import SqlDesk.Sql.Tree

namespace SqlDesk.Sql

open Node

/-- White space becomes nothing after white space and at the start, and one space elsewhere. -/
def squeezeFrom (afterBlank : Bool) : List Node → List Node
  | [] => []
  | .leaf token :: rest =>
    if token.isBlank then
      .leaf { token with text := if afterBlank then [] else [' '] } :: squeezeFrom true rest
    else .leaf token :: squeezeFrom false rest
  | node :: rest => node :: squeezeFrom false rest

/-- Nodes with their white space as it has to be in any group. -/
def squeeze (nodes : List Node) : List Node :=
  squeezeFrom true nodes

/-- The items of a list without the white space right before each comma. -/
def closeUpCommas : List Node → List Node
  | [] => []
  | [node] => [node]
  | node :: next :: rest =>
    if node.isBlank && next.isMark ',' then closeUpCommas (next :: rest)
    else node :: closeUpCommas (next :: rest)

/-- Nodes without white space at their end. -/
def dropBlankEnd (nodes : List Node) : List Node :=
  (nodes.reverse.dropWhile Node.isBlank).reverse

/-- A group without white space at its end. -/
def closeUpEnd : Node → Node
  | .leaf token => .leaf token
  | .group kind size children => .group kind size (dropBlankEnd children)

/-- The nodes of round brackets without white space next to the brackets. -/
def closeUpBrackets : List Node → List Node
  | [] => []
  | first :: rest =>
    match (rest.dropWhile Node.isBlank).reverse with
    | [] => [first]
    | last :: inner =>
      match inner.dropWhile Node.isBlank with
      | [] => [first, last]
      | node :: more => first :: (more.reverse ++ [closeUpEnd node, last])

/-- Nodes with the white space that the group they are in demands. -/
def space (kind : Option GroupKind) (nodes : List Node) : List Node :=
  match kind with
  | some .list => squeeze (closeUpCommas nodes)
  | some .parenthesis =>
    if nodes.getLast?.any (·.isMark ')') then squeeze (closeUpBrackets nodes) else squeeze nodes
  | _ => squeeze nodes

/-- The nodes of a statement with their white space in order. A token of white space at the very end
goes. -/
def spaceAll (nodes : List Node) : List Node :=
  let nodes := rearrange (fun _ => false) space nodes
  match nodes.reverse with
  | [] => []
  | last :: rest => if last.isBlank then rest.reverse else nodes

end SqlDesk.Sql
