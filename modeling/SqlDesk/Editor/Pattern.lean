/-
Patterns of texts.

A pattern takes a part of a text from a place on. It can do so in several ways, which stand in the
order in which they are tried: of two patterns those of the first come first, and what is repeated
goes on as long as it can before it stops earlier. The first way is the match.
-/

namespace SqlDesk.Highlight

/-- A place in a text: the character before it if there is one, and what follows. -/
structure Place where
  before : Option Char
  rest : List Char
  deriving DecidableEq, Repr

/-- Whether a character is part of a word: a letter from A to Z, a digit or the underscore. -/
def isWordChar (c : Char) : Bool :=
  c.isAlphanum || c = '_'

/-- Whether a word starts or ends at a place. -/
def Place.isBoundary (place : Place) : Bool :=
  place.before.any isWordChar != place.rest.head?.any isWordChar

/-- A pattern of texts. -/
inductive Pattern where
  /-- One character of some kind. -/
  | char (accepts : Char → Bool)
  /-- The empty text where a word starts or ends. -/
  | boundary
  | empty
  | seq (first second : Pattern)
  | alt (first second : Pattern)
  /-- As many times as possible, but not more than needed for what follows. -/
  | star (body : Pattern)

namespace Pattern

/-- The places behind as many steps as possible, and then behind fewer and fewer of them. A step that
takes nothing is none, so as many steps as there are characters are enough. -/
def repeated (step : Place → List Place) : Nat → Place → List Place
  | 0, place => [place]
  | fuel + 1, place =>
    ((step place).filter fun next => next.rest.length < place.rest.length).flatMap
      (repeated step fuel) ++ [place]

/-- The places behind what a pattern takes, in the order in which they are tried. -/
def ways : Pattern → Place → List Place
  | char accepts, place =>
    match place.rest with
    | [] => []
    | c :: rest => if accepts c then [⟨some c, rest⟩] else []
  | boundary, place => if place.isBoundary then [place] else []
  | empty, place => [place]
  | seq first second, place => (first.ways place).flatMap fun next => second.ways next
  | alt first second, place => first.ways place ++ second.ways place
  | star body, place => repeated (fun next => body.ways next) place.rest.length place

/-- The length of what a pattern takes from the start of a text, given the character before. -/
def find (pattern : Pattern) (before : Option Char) (cs : List Char) : Option Nat :=
  (pattern.ways ⟨before, cs⟩).head?.map fun place => cs.length - place.rest.length

/-- One certain character. -/
def only (c : Char) : Pattern :=
  char (· = c)

/-- Once or not at all. -/
def optional (body : Pattern) : Pattern :=
  alt body empty

/-- Once or more. -/
def plus (body : Pattern) : Pattern :=
  seq body (star body)

/-- One of several patterns. -/
def oneOf (patterns : List Pattern) : Pattern :=
  patterns.foldr alt (char fun _ => false)

/-- A word in which characters that fold to the same one count as the same. -/
def caseless (fold : Char → Char) (word : String) : Pattern :=
  word.toList.foldr (fun k rest => seq (char fun c => fold c = fold k) rest) empty

end Pattern

end SqlDesk.Highlight
