/-
SQL statements as trees.

A node is a token or a group of nodes. A group remembers the length of its text as it was when the
group was made; the layout measures by it, whatever happens to the white space inside.
-/
import SqlDesk.Sql.Token

namespace SqlDesk.Sql

/-- The kinds of groups. -/
inductive GroupKind where
  | comment
  | parenthesis
  | subscript
  | choice
  | call
  | filter
  | identifier
  | operation
  | comparison
  | list
  | rows
  deriving DecidableEq, Repr

/-- A token, or a group of nodes with the length its text had at first. -/
inductive Node where
  | leaf (token : Token)
  | group (kind : GroupKind) (size : Nat) (children : List Node)

namespace Node

/-- The length that the text of a node had at first. -/
def size : Node → Nat
  | leaf token => token.text.length
  | group _ size _ => size

/-- The length that the text of several nodes had at first. -/
def totalSize (nodes : List Node) : Nat :=
  nodes.foldr (fun node n => node.size + n) 0

/-- A group of nodes. -/
def gather (kind : GroupKind) (children : List Node) : Node :=
  group kind (totalSize children) children

/-- A group with further nodes at its end. -/
def extend : Node → List Node → Node
  | group kind n children, more => group kind (n + totalSize more) (children ++ more)
  | leaf token, _ => leaf token

/-- Whether a node is a token that a test accepts. -/
def isLeaf (test : Token → Bool) : Node → Bool
  | leaf token => test token
  | group _ _ _ => false

/-- Whether a node is a group of any kind. -/
def hasChildren : Node → Bool
  | leaf _ => false
  | group _ _ _ => true

/-- Whether a node is white space. -/
def isBlank (node : Node) : Bool :=
  node.isLeaf Token.isBlank

/-- Whether a node is a group of some kind. -/
def isGroup (kinds : List GroupKind) : Node → Bool
  | leaf _ => false
  | group kind _ _ => kinds.contains kind

/-- Whether a node is a token of some kind. -/
def isOneOf (kinds : List TokenKind) (node : Node) : Bool :=
  node.isLeaf fun token => kinds.contains token.kind

/-- Whether a node is a certain word. -/
def isKeyword (word : String) (node : Node) : Bool :=
  node.isLeaf (·.isKeyword word)

/-- Whether a node is a certain punctuation mark. -/
def isMark (mark : Char) (node : Node) : Bool :=
  node.isLeaf (·.isMark mark)

mutual

/-- The text of a node. -/
def text : Node → List Char
  | leaf token => token.text
  | group _ _ children => textAll children

/-- The text of nodes. -/
def textAll : List Node → List Char
  | [] => []
  | node :: rest => node.text ++ textAll rest

end

mutual

/-- A node all of whose groups have been arranged anew from the inside out, apart from what is
inside groups of a kind that is left alone. -/
def arrange (leave : GroupKind → Bool) (pass : Option GroupKind → List Node → List Node) :
    Node → Node
  | leaf token => leaf token
  | group kind n children =>
    if leave kind then group kind n children
    else group kind n (pass (some kind) (arrangeAll leave pass children))

/-- Each of some nodes arranged anew. -/
def arrangeAll (leave : GroupKind → Bool) (pass : Option GroupKind → List Node → List Node) :
    List Node → List Node
  | [] => []
  | node :: rest => arrange leave pass node :: arrangeAll leave pass rest

end

/-- The nodes of a statement arranged anew, the groups among them first. -/
def rearrange (leave : GroupKind → Bool) (pass : Option GroupKind → List Node → List Node)
    (nodes : List Node) : List Node :=
  pass none (arrangeAll leave pass nodes)

end Node

end SqlDesk.Sql
