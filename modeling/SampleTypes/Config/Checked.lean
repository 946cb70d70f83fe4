import SampleTypes.Config.Data
import SampleTypes.Shape.Expr

/-!
# Checked values

Configuration data is checked as a whole: a check gives a value, or every problem of the data,
each with the place where it stands.

* `Complaint`, `Problem`   what is wrong, and where;
* `Checked α`              a value or problems; two checks side by side add up their problems;
* `Checked.within step`    the check of a part, whose problems stand below `step`.
-/

namespace SampleTypes

inductive Complaint where
  | missing
  | extra
  | keysNotText
  | notText
  | notDecoded
  | tooShort (least : Nat)
  | notMapping
  | notModel (name : String)
  | notList
  | notBool
  | unclearBool
  | notInt
  | fractional
  | notFinite
  | hugeInt
  | unreadableInt
  | below (least : Int)
  | above (greatest : Int)
  | notOver (bound : Int)
  | noChoice (names : List String)
  deriving DecidableEq, Repr

/-- names in quotes, the last one after "or" -/
def choiceText : List String → String
  | [] => ""
  | [a] => "'" ++ a ++ "'"
  | [a, b] => "'" ++ a ++ "' or '" ++ b ++ "'"
  | a :: as => "'" ++ a ++ "', " ++ choiceText as

def Complaint.message : Complaint → String
  | .missing => "Field required"
  | .extra => "Extra inputs are not permitted"
  | .keysNotText => "Keys should be strings"
  | .notText => "Input should be a valid string"
  | .notDecoded =>
    "Input should be a valid string, unable to parse raw data as a unicode string"
  | .tooShort n =>
    "String should have at least " ++ toString n ++ (if n = 1 then " character" else " characters")
  | .notMapping => "Input should be a valid dictionary"
  | .notModel name => "Input should be a valid dictionary or instance of " ++ name
  | .notList => "Input should be a valid list"
  | .notBool => "Input should be a valid boolean"
  | .unclearBool => "Input should be a valid boolean, unable to interpret input"
  | .notInt => "Input should be a valid integer"
  | .fractional => "Input should be a valid integer, got a number with a fractional part"
  | .notFinite => "Input should be a finite number"
  | .hugeInt => "Unable to parse input string as an integer, exceeded maximum size"
  | .unreadableInt => "Input should be a valid integer, unable to parse string as an integer"
  | .below n => "Input should be greater than or equal to " ++ toString n
  | .above n => "Input should be less than or equal to " ++ toString n
  | .notOver n => "Input should be greater than " ++ toString n
  | .noChoice names => "Input should be " ++ choiceText names

/-- what is wrong, and the steps to the place where it is -/
structure Problem where
  place : List String
  complaint : Complaint
  deriving DecidableEq, Repr

/-- the line for a problem; a place without a name is the root -/
def Problem.line (p : Problem) : String :=
  let place := TypeExpr.joinTexts "." p.place
  "  " ++ (if place = "" then "<root>" else place) ++ ": " ++ p.complaint.message

inductive Checked (α : Type) where
  | accepted (value : α)
  | rejected (problems : List Problem)

namespace Checked

variable {α β : Type}

def problems : Checked α → List Problem
  | .accepted _ => []
  | .rejected ps => ps

/-- a rejection of the whole value -/
def reject (c : Complaint) : Checked α := .rejected [⟨[], c⟩]

def map (f : α → β) : Checked α → Checked β
  | .accepted a => .accepted (f a)
  | .rejected ps => .rejected ps

/-- two checks side by side: the problems of both -/
def both : Checked (α → β) → Checked α → Checked β
  | .accepted f, .accepted a => .accepted (f a)
  | .accepted _, .rejected qs => .rejected qs
  | .rejected ps, x => .rejected (ps ++ x.problems)

instance : Applicative Checked where
  pure := .accepted
  map := map
  seq f x := both f (x ())

/-- the check of a part: its problems stand below a step -/
def within (step : String) : Checked α → Checked α
  | .accepted a => .accepted a
  | .rejected ps => .rejected (ps.map fun p => { p with place := step :: p.place })

/-- a check with further problems found beside it -/
def besides (x : Checked α) (ps : List Problem) : Checked α :=
  match x, ps with
  | .accepted a, [] => .accepted a
  | x, ps => .rejected (x.problems ++ ps)

/-- a check that the value has to pass further -/
def andThen (x : Checked α) (f : α → Checked β) : Checked β :=
  match x with
  | .accepted a => f a
  | .rejected ps => .rejected ps

/-- the checks of several values, one after the other -/
def all : List (Checked α) → Checked (List α)
  | [] => .accepted []
  | x :: xs => both (x.map List.cons) (all xs)

/-- the first of two checks that accepts, or the problems of both -/
def either (x y : Checked α) : Checked α :=
  match x, y with
  | .accepted a, _ => .accepted a
  | .rejected _, .accepted a => .accepted a
  | .rejected ps, .rejected qs => .rejected (ps ++ qs)

theorem both_accepted_iff {f : Checked (α → β)} {x : Checked α} {b : β} :
    both f x = .accepted b ↔ ∃ g a, f = .accepted g ∧ x = .accepted a ∧ g a = b := by
  cases f <;> cases x <;> simp [both]

theorem within_accepted_iff {step : String} {x : Checked α} {a : α} :
    x.within step = .accepted a ↔ x = .accepted a := by
  cases x <;> simp [within]

theorem andThen_accepted_iff {x : Checked α} {f : α → Checked β} {b : β} :
    x.andThen f = .accepted b ↔ ∃ a, x = .accepted a ∧ f a = .accepted b := by
  cases x <;> simp [andThen]

theorem besides_accepted_iff {x : Checked α} {ps : List Problem} {a : α} :
    x.besides ps = .accepted a ↔ x = .accepted a ∧ ps = [] := by
  cases x <;> cases ps <;> simp [besides]

end Checked

end SampleTypes
