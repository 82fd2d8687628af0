/-
The boxes that the program shows, and the user who reads them.

A question is answered with yes or no; a file box is answered with a path, and with an empty one if
it was closed. The other boxes are only read. A user has the next answers ready and says no when
there are none left.
-/
namespace SqlDesk

/-- A box, with its title and its message; a file box has the path it starts at. -/
inductive Box where
  | question (title message : String)
  | warning (title message : String)
  | critical (title message : String)
  | about (title message : String)
  | openFile (title start : String)
  | saveFile (title start : String)
  deriving DecidableEq, Repr

/-- A user: the boxes seen so far, and the answers to the next questions. -/
structure User where
  seen : List Box := []
  answers : List Bool := []
  deriving DecidableEq, Repr

namespace User

/-- The user after a box was shown. -/
def shown (user : User) (box : Box) : User :=
  { user with seen := user.seen ++ [box] }

/-- The answer to the question that comes after `count` others. -/
def reply (user : User) (count : Nat) : Bool :=
  user.answers.getD count false

/-- The answer to a question. -/
def ask (user : User) (title message : String) : Bool × User :=
  (user.reply 0, { user.shown (.question title message) with answers := user.answers.tail })

end User

end SqlDesk
