import Polyglot.Regex.CharTest
import Polyglot.Text.StandIn

namespace Polyglot

namespace Regex

/-- A test of a place in a text that takes no character. -/
inductive Anchor where
  | textStart
  | textEnd
  /-- At the start of the text or, with `lines`, behind a line feed. -/
  | lineStart (lines : Bool)
  /-- At the end of the text or in front of a line feed: any, or only a last one. -/
  | lineEnd (lines : Bool)
  | wordEdge (negated ascii : Bool)
  deriving DecidableEq, Repr

/-- Which of its numbers of times a repetition tries first: the greatest, the least, or the greatest
and no other. -/
inductive Greed where
  | greedy
  | lazy
  | possessive
  deriving DecidableEq, Repr

end Regex

open Regex in
/-- A pattern for a part of a text. -/
inductive Regex where
  | empty
  /-- The end of a list of alternatives, where none is left. -/
  | never
  | one (test : CharTest)
  | anchor (edge : Anchor)
  | seq (first second : Regex)
  | either (first others : Regex)
  | group (number : Nat) (body : Regex)
  /-- A copy of what a group matched, up to its case. -/
  | reference (number : Nat) (folding : Folding)
  | many (greed : Greed) (least : Nat) (most : Option Nat) (body : Regex)
  | atomic (body : Regex)
  /-- What follows, or what stands before if a width is given, matches or does not. -/
  | look (behind : Option Nat) (negated : Bool) (body : Regex)
  | ifGroup (number : Nat) (yes no : Regex)
  deriving Repr

namespace Regex

def seqOf : List Regex → Regex
  | [] => .empty
  | [part] => part
  | part :: parts => .seq part (seqOf parts)

def eitherOf : List Regex → Regex
  | [] => .never
  | alternative :: alternatives => .either alternative (eitherOf alternatives)

def single? : Regex → Option CharTest
  | .one test => some test
  | _ => none

/-- What a pattern starts with, as far as the next character alone decides about it. -/
inductive Lead where
  | char (code : Nat)
  | members (test : CharTest)
  | other

def CharTest.lead (test : CharTest) : Lead :=
  match test with
  | .char false .keep code => .char code
  | .members _ .keep _ => .members test
  | _ => .other

def lead? : Regex → Option Lead
  | .empty => none
  | .one test => some test.lead
  | .seq first second =>
    match first.lead? with
    | some lead => some lead
    | none => second.lead?
  | _ => some .other

namespace Lead

def missing (lead : Lead) (next : Option Char) : Bool :=
  match lead with
  | .char code => next.all (·.toNat != code)
  | _ => false

/-- The next character is not the one that must come, or none of those. -/
def refuses (lead : Lead) (next : Option Char) : Bool :=
  match lead with
  | .members test => next.all (!test.accepts ·)
  | lead => lead.missing next

end Lead

end Regex

end Polyglot
