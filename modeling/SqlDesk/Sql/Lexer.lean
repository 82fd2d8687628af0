/-
SQL text as tokens.

At each place the first rule that fits decides: comments, white space, then the words that stay
words whatever follows them, names that are names because of a dot or a bracket beside them,
numbers, quoted texts, phrases of several words, single words, and marks. Each character of white
space is a token of its own, a carriage return with its line feed is one. A quote that is never
closed is a token by itself.
-/
import SqlDesk.Sql.Token
import SqlDesk.Text.Digit

namespace SqlDesk.Sql

/-- The words that open a statement. -/
def verbs : List String := ["SELECT", "INSERT", "UPDATE", "DELETE"]

/-- The words of the language that are words even before a bracket. -/
def firmWords : List String := ["CASE", "IN", "VALUES", "FROM", "AS"]

/-- The other words of the language. -/
def looseWords : List String :=
  ["AND", "BETWEEN", "DISTINCT", "ELSE", "END", "EXISTS", "HAVING", "INTO", "IS", "NOT", "NULL",
    "ON", "OR", "SET", "THEN", "UNION", "WHEN", "WHERE", "ALL", "BY", "CROSS", "FULL", "GROUP",
    "INNER", "JOIN", "LEFT", "ORDER", "OUTER", "RIGHT"]

/-- The words of order. -/
def orderWords : List String := ["ASC", "DESC"]

/-- The words that compare. -/
def comparingWords : List String := ["LIKE", "ILIKE", "RLIKE"]

/-- The phrases that are one token. -/
def phrases : List (List String) :=
  let sides := [["LEFT"], ["RIGHT"], ["FULL"], []]
  let depths := [["INNER"], ["OUTER"], []]
  sides.flatMap (fun side => depths.map fun depth => side ++ depth ++ ["JOIN"]) ++
    [["CROSS", "JOIN"], ["NOT", "NULL"], ["UNION", "ALL"], ["GROUP", "BY"], ["ORDER", "BY"]]

/-- The phrases that compare. -/
def comparingPhrases : List (List String) :=
  comparingWords.map fun word => ["NOT", word]

/-- The kind of a single word. -/
def wordKind (word : List Char) : TokenKind :=
  let spelled := String.ofList (capitals word)
  if verbs.contains spelled then .verb
  else if spelled = "WITH" then .tables
  else if orderWords.contains spelled then .order
  else if comparingWords.contains spelled then .comparison
  else if firmWords.contains spelled || looseWords.contains spelled then .keyword
  else .name

/-- The length of the word at the start of a text. -/
def wordLength (cs : List Char) : Nat :=
  (cs.takeWhile Text.isWordChar).length

/-- Whether a text starts with a certain word; whatever follows is no part of a word. -/
def startsWithWord (word : String) (cs : List Char) : Bool :=
  capitals (cs.takeWhile Text.isWordChar) = word.toList

/-- The length of a phrase at the start of a text: its words with white space in between. -/
def phraseLength? : List String → List Char → Option Nat
  | [], _ => none
  | [word], cs => if startsWithWord word cs then some word.length else none
  | word :: words, cs =>
    let gap := ((cs.drop word.length).takeWhile Text.isBlank).length
    if startsWithWord word cs && gap > 0 then
      (phraseLength? words (cs.drop (word.length + gap))).map (word.length + gap + ·)
    else none

/-- The length of a line comment, with the line end that closes it. -/
def lineCommentLength : List Char → Nat
  | [] => 0
  | '\r' :: '\n' :: _ => 2
  | c :: rest => if c = '\r' || c = '\n' then 1 else lineCommentLength rest + 1

/-- The length of the rest of a block comment, if it is closed. -/
def blockCommentLength? : List Char → Option Nat
  | [] => none
  | '*' :: '/' :: _ => some 2
  | _ :: rest => (blockCommentLength? rest).map (· + 1)

/-- The length of the rest of a quoted text, if it is closed. A quote that is written twice or after
a backslash is part of the text as far as another quote closes it later. -/
def quotedLength? (quote : Char) : List Char → Option Nat
  | [] => none
  | [c] => if c = quote then some 1 else none
  | c :: d :: rest =>
    if c = quote then
      if d = quote then
        match quotedLength? quote rest with
        | some n => some (n + 2)
        | none => some 1
      else some 1
    else if c = '\\' && d = quote then
      match quotedLength? quote rest with
      | some n => some (n + 2)
      | none => (quotedLength? quote (d :: rest)).map (· + 1)
    else (quotedLength? quote (d :: rest)).map (· + 1)

/-- The length of the rest of a name in square brackets, if it is closed and not empty. -/
def bracketedLength? (cs : List Char) : Option Nat :=
  let inner := cs.takeWhile fun c => c != '[' && c != ']'
  if !inner.isEmpty && cs[inner.length]? = some ']' then some (inner.length + 1) else none

/-- Whether a name may not follow a number without a break: after an underscore and the characters
A to Z and À to Ü in either case. Without regard to case the dotless and the dotted i, the long s
and the signs of Kelvin and of Ångström are among them. -/
def opensWord (c : Char) : Bool :=
  let n := c.toNat
  c = '_' || c.isAlpha || (0xC0 ≤ n && n ≤ 0xDC) || (0xE0 ≤ n && n ≤ 0xFC && n ≠ 0xF7) ||
    [0x130, 0x131, 0x17F, 0x212A, 0x212B].contains n

/-- Whether a text starts with a character that may open a name. -/
def startsWord (cs : List Char) : Bool :=
  cs.head?.any opensWord

/-- The length of a run of digits after which no name starts. If one does, the last digit is left
to it. -/
def digitsLength? (cs : List Char) : Option Nat :=
  let run := (cs.takeWhile fun c => (Text.digit? c).isSome).length
  if startsWord (cs.drop run) then (if run > 1 then some (run - 1) else none)
  else if run > 0 then some run else none

/-- The length of a number without its sign: digits, or digits with a point among them. -/
def unsignedLength? (cs : List Char) : Option Nat :=
  let whole := (cs.takeWhile fun c => (Text.digit? c).isSome).length
  match cs.drop whole with
  | '.' :: rest =>
    match digitsLength? rest with
    | some n => some (whole + 1 + n)
    | none => if whole > 0 && !startsWord rest then some (whole + 1) else digitsLength? cs
  | _ => digitsLength? cs

/-- The length of a number. -/
def numberLength? : List Char → Option Nat
  | '-' :: rest => (unsignedLength? rest).map (· + 1)
  | cs => unsignedLength? cs

/-- Whether a character belongs to a comparison sign. -/
def compares (c : Char) : Bool :=
  ['<', '>', '=', '~', '!'].contains c

/-- Whether a character belongs to an operator. -/
def operates (c : Char) : Bool :=
  ['+', '/', '@', '#', '%', '^', '&', '|', '-'].contains c

/-- Whether a character is a punctuation mark. -/
def punctuates (c : Char) : Bool :=
  [';', ':', '(', ')', '[', ']', ',', '.'].contains c

/-- The length of a name that opens with a mark: the mark, a letter and at least one character more.
-/
def markedLength? (cs : List Char) : Option Nat :=
  let marks := match cs with
    | '#' :: '#' :: _ => 2
    | '#' :: _ => 1
    | '@' :: _ => 1
    | _ => 0
  let name := cs.drop marks
  if marks > 0 && startsWord name && name.head? != some '_' && wordLength name > 1 then
    some (marks + wordLength name)
  else none

/-- The first of some phrases that a text starts with, by its length. -/
def anyPhraseLength? (choices : List (List String)) (cs : List Char) : Option Nat :=
  choices.findSome? (phraseLength? · cs)

/-- Whether a text starts with a dot that belongs to no number. -/
def startsWithDot : List Char → Bool
  | '.' :: c :: _ => (Text.digit? c).isNone
  | cs => cs = ['.']

/-- Whether a name is one because of what stands beside it: a dot before it, a dot or a bracket
after it. -/
def namedByNeighbour (before : Option Char) (cs : List Char) : Bool :=
  let rest := cs.drop (wordLength cs)
  before = some '.' || rest.head? = some '(' || startsWithDot (rest.dropWhile Text.isBlank)

/-- A token that starts with a word: its kind and its length. -/
def wordToken (before : Option Char) (cs : List Char) : TokenKind × Nat :=
  let length := wordLength cs
  if firmWords.contains (String.ofList (capitals (cs.take length))) then (.keyword, length)
  else if startsWord cs && cs.head? != some '_' && namedByNeighbour before cs then (.name, length)
  else
    match numberLength? cs with
    | some n => (.number, n)
    | none =>
      match anyPhraseLength? phrases cs, anyPhraseLength? comparingPhrases cs with
      | some n, _ => (.keyword, n)
      | _, some n => (.comparison, n)
      | none, none =>
        let whole := cs.takeWhile fun c => Text.isWordChar c || c = '$' || c = '#'
        (wordKind whole, whole.length)

/-- A token that starts with a mark: its kind and its length. -/
def markToken (before : Option Char) (c : Char) (rest : List Char) : TokenKind × Nat :=
  let cs := c :: rest
  match markedLength? cs, numberLength? cs with
  | some n, _ => (.name, n)
  | _, some n => (.number, n)
  | none, none =>
    let quoted := match c with
      | '\'' => (quotedLength? c rest).map fun n => (TokenKind.string, n + 1)
      | '"' => (quotedLength? c rest).map fun n => (TokenKind.symbol, n + 1)
      | '[' =>
        if before.any fun b => Text.isWordChar b || b = ']' || b = ')' then none
        else (bracketedLength? rest).map fun n => (TokenKind.name, n + 1)
      | _ => none
    match quoted with
    | some found => found
    | none =>
      if punctuates c then (.punctuation, 1)
      else if c = '-' then (.operator, 1)
      else if compares c then (.comparison, (cs.takeWhile compares).length)
      else if operates c then (.operator, (cs.takeWhile operates).length)
      else (.other, 1)

/-- The token at the start of a text that is not empty: its kind and its length. -/
def tokenAt (before : Option Char) (c : Char) (rest : List Char) : TokenKind × Nat :=
  let next := rest.head?
  let comment := if c = '/' && next = some '*' then blockCommentLength? (rest.drop 1) else none
  if (c = '-' && next = some '-') || (c = '#' && next = some ' ') then
    (.lineComment, 2 + lineCommentLength (rest.drop 1))
  else
    match comment with
    | some n => (.blockComment, n + 2)
    | none =>
      if c = '\r' then (.newline, if next = some '\n' then 2 else 1)
      else if c = '\n' then (.newline, 1)
      else if Text.isBlank c then (.blank, 1)
      else if c = '*' then (.wildcard, 1)
      else if Text.isWordChar c then wordToken before (c :: rest)
      else markToken before c rest

/-- The tokens of a text after `skip` more characters of the last one. -/
def tokensFrom : Option Char → Nat → List Char → List Token
  | _, _, [] => []
  | _, skip + 1, c :: rest => tokensFrom (some c) skip rest
  | before, 0, c :: rest =>
    let (kind, length) := tokenAt before c rest
    ⟨kind, (c :: rest).take length⟩ :: tokensFrom (some c) (length - 1) rest

/-- The tokens of a text. -/
def tokens (cs : List Char) : List Token :=
  tokensFrom none 0 cs

end SqlDesk.Sql
