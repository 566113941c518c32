import Rendezvous.Unicode.GeneralCategory
import Rendezvous.Unicode.Property

/-! Pattern expressions and the search for them. A search keeps the expressions that may
still have to follow: reading a character replaces each by its partial derivatives, and an
expression starts anew at every position. No count is ever expanded. -/
namespace Rendezvous.Pattern

open Unicode (CodePoints)

/-- A place beside a word. -/
inductive WordEdge where
  | boundary
  | interior
  | start
  | stop
  /-- Only what stands before matters. -/
  | startHalf
  /-- Only what stands behind matters. -/
  | stopHalf
  deriving DecidableEq, Repr

/-- A condition on the place between two characters. -/
inductive Look where
  | textStart
  | textStop
  | lineStart (crlf : Bool)
  | lineStop (crlf : Bool)
  | word (unicode : Bool) (edge : WordEdge)
  deriving DecidableEq, Repr

inductive Expr where
  | empty
  /-- One character of a set. -/
  | one (set : CodePoints)
  | look (condition : Look)
  | capture (body : Expr)
  | seq (first second : Expr)
  | alt (first second : Expr)
  /-- From `low` to `high` times, or without an upper bound. -/
  | rounds (low : Nat) (high : Option Nat) (body : Expr)
  deriving DecidableEq, Repr

/-- Characters of words: alphabetic ones, marks, decimal digits, connectors and joiners. -/
def wordSet : CodePoints :=
  let part (name : String) := (Unicode.GeneralCategory.find? name).getD []
  let property (name : String) := (Unicode.Property.find? name).getD []
  ((((property "alphabetic").union (part "m")).union (part "nd")).union (part "pc")).union
    (property "joincontrol")

def asciiWordSet : CodePoints := [(0x30, 0x39), (0x41, 0x5A), (0x5F, 0x5F), (0x61, 0x7A)]

def isWord (unicode : Bool) : Option Char → Bool
  | none => false
  | some c =>
    if unicode then if c.toNat < 0x80 then asciiWordSet.mem c.toNat else wordSet.mem c.toNat
    else asciiWordSet.mem c.toNat

def WordEdge.holds : WordEdge → (before after : Bool) → Bool
  | .boundary, before, after => before != after
  | .interior, before, after => before == after
  | .start, before, after => !before && after
  | .stop, before, after => before && !after
  | .startHalf, before, _ => !before
  | .stopHalf, _, after => !after

/-- Whether a condition holds between two characters, which are missing at the ends. -/
def Look.holds (before after : Option Char) : Look → Bool
  | .textStart => before = none
  | .textStop => after = none
  | .lineStart false => before = none || before = some '\n'
  | .lineStop false => after = none || after = some '\n'
  | .lineStart true =>
    before = none || before = some '\n' || (before = some '\r' && after != some '\n')
  | .lineStop true =>
    after = none || after = some '\r' || (after = some '\n' && before != some '\r')
  | .word unicode edge => edge.holds (isWord unicode before) (isWord unicode after)

namespace Expr

/-- Whether the expression matches the empty text at a place. -/
def nullable (before after : Option Char) : Expr → Bool
  | .empty => true
  | .one _ => false
  | .look condition => condition.holds before after
  | .capture body => body.nullable before after
  | .seq first second => first.nullable before after && second.nullable before after
  | .alt first second => first.nullable before after || second.nullable before after
  | .rounds low _ body => low = 0 || body.nullable before after

/-- What may have to follow after the expression has taken one character: each answer is a
list of expressions to be matched in order. Where the body of a repetition can be empty, the
rounds that are still due can be passed at once. -/
def step (before : Option Char) (c : Char) : Expr → List (List Expr)
  | .empty => []
  | .one set => if set.mem c.toNat then [[]] else []
  | .look _ => []
  | .capture body => body.step before c
  | .seq first second =>
    (first.step before c).map (· ++ [second]) ++
      if first.nullable before (some c) then second.step before c else []
  | .alt first second => first.step before c ++ second.step before c
  | .rounds low high body =>
    if high = some 0 then []
    else
      let low := if body.nullable before (some c) then 0 else low - 1
      (body.step before c).map (· ++ [.rounds low (high.map (· - 1)) body])

/-- The same for expressions in order. -/
def stepAll (before : Option Char) (c : Char) : List Expr → List (List Expr)
  | [] => []
  | first :: rest =>
    (first.step before c).map (· ++ rest) ++
      if first.nullable before (some c) then stepAll before c rest else []

def nullableAll (before after : Option Char) (exprs : List Expr) : Bool :=
  exprs.all (nullable before after)

/-- Adds to a list what is not yet in it. -/
def merge [BEq α] (found : List α) : List α → List α
  | [] => found
  | a :: rest => merge (if found.contains a then found else a :: found) rest

/-- Whether the expression matches somewhere in a text, given what lies before the text and
what may still have to follow there. -/
def searchFrom (expr : Expr) (before : Option Char) (pending : List (List Expr)) :
    List Char → Bool
  | [] => ([expr] :: pending).any (nullableAll before none)
  | c :: rest =>
    let pending := merge pending [[expr]]
    pending.any (nullableAll before (some c)) ||
      searchFrom expr (some c) (merge [] (pending.flatMap (stepAll before c))) rest

/-- Whether the expression matches somewhere in a text. -/
def occursIn (expr : Expr) (text : String) : Bool := searchFrom expr none [] text.toList

end Expr
end Rendezvous.Pattern
