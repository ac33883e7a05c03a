import Polyglot.Regex.Basic

/-!
The search for a pattern by backtracking.

A pattern runs from a place with a continuation for what follows it: it tries its ways to match in
order and answers with the first that the continuation accepts. An attempt that fails is not quite
undone: marks of groups stay where no repetition is around them, and a possessive repetition goes on
from the position that was noted last.
-/
namespace Polyglot.Regex

/-- Where the groups start and end: group `n` starts at the mark `2 * n - 2` and ends at the next. -/
abbrev Marks := List (Option Nat)

namespace Marks

def put (marks : Marks) (index pos : Nat) : Marks :=
  if index < marks.length then marks.set index (some pos)
  else marks ++ List.replicate (index - marks.length) none ++ [some pos]

/-- The marks behind an attempt that failed. Inside of a repetition they are what they were before
it; elsewhere only marks beyond those are dropped. -/
def undo (repeated : Bool) (before after : Marks) : Marks :=
  if repeated then before else after.take before.length

/-- Where a group lies, once it has a start and an end in this order. -/
def group? (marks : Marks) (number : Nat) : Option (Nat × Nat) :=
  match marks[2 * number - 2]?.join, marks[2 * number - 1]?.join with
  | some start, some stop => if start ≤ stop then some (start, stop) else none
  | _, _ => none

end Marks

/-- What an attempt leaves behind: the marks, and the position noted last. -/
structure Memory where
  marks : Marks := []
  noted : Nat := 0

/-- A position in the text, and the memory there. -/
structure Place extends Memory where
  pos : Nat

def Memory.note (memory : Memory) (pos : Nat) : Memory := { memory with noted := pos }

namespace Place

def settle (place : Place) : Place := { place with noted := place.pos }

def mark (place : Place) (index : Nat) : Place :=
  { place with marks := place.marks.put index place.pos }

end Place

/-- How an attempt ends. -/
inductive Outcome where
  | found (place : Place)
  | failed (left : Memory)

def Outcome.orElse (outcome : Outcome) (next : Memory → Outcome) : Outcome :=
  match outcome with
  | .found place => .found place
  | .failed left => next left

abbrev Continuation := Place → Outcome

def done : Continuation := fun place => .found place.settle

def wordAt (text : Array Char) (ascii : Bool) (pos : Nat) : Bool :=
  match text[pos]? with
  | some c => CharClass.word.holds ascii c.toNat
  | none => false

/-- An anchor holds between two characters. There is no edge and no place without an edge in the
empty text. -/
def Anchor.holds (text : Array Char) (pos : Nat) : Anchor → Bool
  | .textStart => pos == 0
  | .textEnd => pos == text.size
  | .lineStart lines => pos == 0 || (lines && text[pos - 1]? == some '\n')
  | .lineEnd lines =>
    pos == text.size || (text[pos]? == some '\n' && (lines || pos + 1 == text.size))
  | .wordEdge negated ascii =>
    let before := pos != 0 && wordAt text ascii (pos - 1)
    text.size != 0 && ((before != wordAt text ascii pos) != negated)

/-- The position behind a copy of the `length` characters at `start`. -/
def copyEnd? (text : Array Char) (folding : Folding) (start pos : Nat) : (length : Nat) → Option Nat
  | 0 => some pos
  | length + 1 =>
    match text[start]?, text[pos]? with
    | some a, some b =>
      if folding.fold a.toNat == folding.fold b.toNat then
        copyEnd? text folding (start + 1) (pos + 1) length
      else none
    | _, _ => none

/-- How many of the next characters a test accepts one after the other, `limit` at the most. -/
def runLength (text : Array Char) (test : CharTest) (pos : Nat) : (limit : Nat) → Nat
  | 0 => 0
  | limit + 1 =>
    match text[pos]? with
    | some c => if test.accepts c then runLength text test (pos + 1) limit + 1 else 0
    | none => 0

/-- Tries the ends from `first + extra` down to `first`. An end in front of which the character that
must come is missing is left out. -/
def fromLongest (text : Array Char) (repeated : Bool) (next : Lead) (before : Marks)
    (k : Continuation) (first : Nat) : (extra : Nat) → Memory → Outcome
  | extra, memory =>
    let pos := first + extra
    let tried : Outcome :=
      if next.missing text[pos]? then .failed memory
      else (k { memory with noted := pos, pos := pos }).orElse fun left =>
        .failed { left with marks := before.undo repeated left.marks }
    match extra with
    | 0 => tried
    | extra + 1 => tried.orElse (fromLongest text repeated next before k first extra)

/-- Tries the ends from `pos` up, `extra` more, as far as the test accepts the characters. -/
def fromShortest (text : Array Char) (test : CharTest) (repeated : Bool) (before : Marks)
    (k : Continuation) (pos : Nat) : (extra : Nat) → Memory → Outcome
  | extra, memory =>
    (k { memory with noted := pos, pos := pos }).orElse fun left =>
      let marks := before.undo repeated left.marks
      if text[pos]?.any test.accepts then
        let memory := ⟨marks, if test.foldsMembers then pos + 1 else pos⟩
        match extra with
        | 0 => .failed memory
        | extra + 1 => fromShortest text test repeated before k (pos + 1) extra memory
      else .failed ⟨marks, pos⟩

def repeatOne (text : Array Char) (repeated : Bool) (next : Lead) (test : CharTest) (greed : Greed)
    (least : Nat) (most : Option Nat) (place : Place) (k : Continuation) : Outcome :=
  let room := text.size - place.pos
  let limit := (most.getD room).min room
  let count := runLength text test place.pos (if greed = .lazy then least else limit)
  let pos := place.pos + count
  let memory := place.toMemory.note (if test.foldsMembers then pos else place.pos)
  if room < least then .failed place.toMemory
  else if count < least then .failed memory
  else match greed with
    | .greedy =>
      fromLongest text repeated next place.marks k (place.pos + least) (count - least) memory
    | .lazy => fromShortest text test repeated place.marks k pos (limit - least) memory
    | .possessive => k { memory with noted := pos, pos := pos }

def repeatGreedy (body : Place → Continuation → Outcome) (least : Nat) (most : Option Nat) :
    (fuel count : Nat) → (last : Option Nat) → Place → Continuation → Outcome
  | 0, _, _, place, k => k place
  | fuel + 1, count, last, place, k =>
    let place := place.settle
    let giveUp (left : Memory) : Outcome := .failed (left.note place.pos)
    let round (last : Option Nat) : Outcome :=
      body place fun place => repeatGreedy body least most fuel (count + 1) last place k
    if count < least then (round last).orElse giveUp
    else if most.all (count < ·) && last != some place.pos then
      (round (some place.pos)).orElse fun _ => (k place).orElse giveUp
    else (k place).orElse giveUp

def repeatLazy (repeated : Bool) (body : Place → Continuation → Outcome) (least : Nat)
    (most : Option Nat) :
    (fuel count : Nat) → (last : Option Nat) → Place → Continuation → Outcome
  | 0, _, _, place, k => k place
  | fuel + 1, count, last, place, k =>
    let place := place.settle
    let giveUp (left : Memory) : Outcome := .failed (left.note place.pos)
    let round (last : Option Nat) (place : Place) : Outcome :=
      (body place fun place => repeatLazy repeated body least most fuel (count + 1) last place k).orElse
        giveUp
    if count < least then round last place
    else (k place).orElse fun left =>
      let place := { place with marks := place.marks.undo repeated left.marks }
      if most.all (count < ·) && last != some place.pos then round (some place.pos) place
      else .failed place.toMemory

/-- The rounds beyond the least number. A round that fails ends them at the position noted last. -/
def allRounds (body : Place → Continuation → Outcome) (most : Option Nat) :
    (fuel count : Nat) → (last : Option Nat) → Place → Place
  | 0, _, _, place => place
  | fuel + 1, count, last, place =>
    if most.all (count < ·) && last != some place.pos then
      match body place done with
      | .found next => allRounds body most fuel (count + 1) (some place.pos) next
      | .failed left => { place with noted := left.noted, pos := left.noted }
    else place

def repeatPossessive (body : Place → Continuation → Outcome) (least : Nat) (most : Option Nat)
    (fuel : Nat) : (missing : Nat) → Place → Outcome
  | 0, place => .found (allRounds body most fuel least none place)
  | missing + 1, place =>
    match body place done with
    | .found next => repeatPossessive body least most fuel missing next
    | .failed left => .failed left

/-- Runs a pattern from a place and continues behind it. `repeated` says that a repetition is around
it, `next` what follows it at once. -/
def run (text : Array Char) : Regex → (repeated : Bool) → (next : Lead) → Place → Continuation → Outcome
  | .empty, _, _, place, k => k place
  | .never, _, _, place, _ => .failed place.toMemory
  | .one test, _, _, place, k =>
    match text[place.pos]? with
    | some c => if test.accepts c then k { place with pos := place.pos + 1 } else .failed place.toMemory
    | none => .failed place.toMemory
  | .anchor edge, _, _, place, k =>
    if edge.holds text place.pos then k place else .failed place.toMemory
  | .seq first second, repeated, next, place, k =>
    first.run text repeated (second.lead?.getD next) place fun place =>
      second.run text repeated next place k
  | .either first others, repeated, next, place, k =>
    if (first.lead?.getD .other).refuses text[place.pos]? then others.run text repeated next place k
    else (first.run text repeated .other place.settle k).orElse fun left =>
      others.run text repeated next
        { left with marks := place.marks.undo repeated left.marks, pos := place.pos } k
  | .group number body, repeated, _, place, k =>
    body.run text repeated .other (place.mark (2 * number - 2)) fun place =>
      k (place.mark (2 * number - 1))
  | .reference number folding, _, _, place, k =>
    match place.marks.group? number with
    | some (start, stop) =>
      match copyEnd? text folding start place.pos (stop - start) with
      | some pos => k { place with pos := pos }
      | none => .failed place.toMemory
    | none => .failed place.toMemory
  | .many greed least most body, repeated, next, place, k =>
    match body.single? with
    | some test => repeatOne text repeated next test greed least most place k
    | none =>
      let fuel := least + text.size + 2
      match greed with
      | .greedy => repeatGreedy (body.run text true .other) least most fuel 0 none place k
      | .lazy => repeatLazy repeated (body.run text true .other) least most fuel 0 none place k
      | .possessive =>
        match repeatPossessive (body.run text repeated .other) least most fuel least place.settle with
        | .found place => k place
        | .failed left => .failed (left.note place.pos)
  | .atomic body, repeated, _, place, k =>
    match body.run text repeated .other place.settle done with
    | .found place => k place
    | .failed left => .failed (left.note place.pos)
  | .look behind negated body, repeated, _, place, k =>
    let back := behind.getD 0
    if place.pos < back then (if negated then k place else .failed place.toMemory)
    else
      let start := place.pos - back
      match body.run text repeated .other { place with noted := start, pos := start } done with
      | .found found =>
        if negated then .failed found.toMemory else k { found with pos := place.pos }
      | .failed left =>
        if negated then k { left with marks := place.marks.undo repeated left.marks, pos := place.pos }
        else .failed left
  | .ifGroup number yes no, repeated, next, place, k =>
    if (place.marks.group? number).isSome then
      yes.run text repeated (if no.lead?.isNone then next else .other) place k
    else no.run text repeated next place k

def matchAt? (regex : Regex) (text : Array Char) (pos : Nat) : Option Place :=
  match regex.run text false .other { pos := pos, noted := pos } done with
  | .found place => some place
  | .failed _ => none

/-- The first match that starts at an admitted position, from `pos` up to `more` behind it. -/
def searchFrom (regex : Regex) (text : Array Char) (admits : Nat → Bool) (pos : Nat) :
    (more : Nat) → Option Place
  | 0 => if admits pos then regex.matchAt? text pos else none
  | more + 1 =>
    match if admits pos then regex.matchAt? text pos else none with
    | some place => some place
    | none => searchFrom regex text admits (pos + 1) more

def search? (regex : Regex) (text : Array Char) : Option Place :=
  regex.searchFrom text (fun _ => true) 0 text.size

end Polyglot.Regex
