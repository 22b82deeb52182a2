/-! Patterns for names, which are ASCII texts: sets of characters put one after the other, chosen
from and repeated. Of several ways to match, the first in order of preference counts. -/
namespace LatexTree

inductive CharSet where
  | empty
  | range (first last : Char)
  | union (first second : CharSet)
  | inter (first second : CharSet)
  | compl (set : CharSet)
  | anyCase (set : CharSet)
deriving DecidableEq, Repr

namespace CharSet

def contains : CharSet → Char → Bool
  | .empty, _ => false
  | .range first last, c => first ≤ c && c ≤ last
  | .union first second, c => first.contains c || second.contains c
  | .inter first second, c => first.contains c && second.contains c
  | .compl set, c => !set.contains c
  | .anyCase set, c => set.contains c || set.contains c.toLower || set.contains c.toUpper

def single (c : Char) : CharSet := .range c c

def ofRanges (ranges : List (Char × Char)) : CharSet :=
  ranges.foldl (fun set (first, last) => .union set (.range first last)) .empty

def without (first second : CharSet) : CharSet := .inter first (.compl second)

def digit : CharSet := .range '0' '9'

def word : CharSet := ofRanges [('0', '9'), ('A', 'Z'), ('a', 'z'), ('_', '_')]

def space : CharSet := ofRanges [('\t', '\r'), (' ', ' ')]

end CharSet

inductive Pattern where
  | empty
  | one (set : CharSet)
  | start
  | stop
  | both (first second : Pattern)
  | either (first second : Pattern)
  /-- Any number of times, more or fewer of them preferred. -/
  | many (more : Bool) (inner : Pattern)
deriving DecidableEq, Repr

namespace Pattern

/-- Adds what is left of a text after each number of steps, in order of preference. A step that takes
nothing is no step, and what is left already is not gone through again. -/
def repeated (more : Bool) (step : List Char → List (List Char)) :
    Nat → List (List Char) → List Char → List (List Char)
  | 0, found, text => if text ∈ found then found else found ++ [text]
  | fuel + 1, found, text =>
    if text ∈ found then found
    else
      let next := (step text).filter fun rest => rest.length < text.length
      if more then next.foldl (repeated more step fuel) found ++ [text]
      else next.foldl (repeated more step fuel) (found ++ [text])

/-- What is left of the end of a text, after each match at its beginning, in order of preference. -/
def rests (whole : Nat) : Pattern → List Char → List (List Char)
  | .empty, text => [text]
  | .one set, c :: rest => if set.contains c then [rest] else []
  | .one _, [] => []
  | .start, text => if text.length = whole then [text] else []
  | .stop, text => if text.isEmpty then [text] else []
  | .both first second, text => ((rests whole first text).flatMap (rests whole second)).eraseDups
  | .either first second, text => (rests whole first text ++ rests whole second text).eraseDups
  | .many more inner, text => repeated more (rests whole inner) text.length [] text

def firstRest? (whole : Nat) (pattern : Pattern) : List Char → Option (List Char)
  | [] => (pattern.rests whole []).head?
  | c :: rest => (pattern.rests whole (c :: rest)).head?.or (firstRest? whole pattern rest)

/-- A pattern fits a text if its first match in it reaches the end. -/
def fits (pattern : Pattern) (text : String) : Bool :=
  pattern.firstRest? text.toList.length text.toList == some []

def optional (more : Bool) (inner : Pattern) : Pattern :=
  if more then .either inner .empty else .either .empty inner

def atLeastOnce (more : Bool) (inner : Pattern) : Pattern := .both inner (.many more inner)

end Pattern

end LatexTree
