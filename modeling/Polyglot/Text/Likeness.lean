namespace Polyglot.Text

/-- How many characters two texts have in common at their starts. -/
def commonStart : List Char → List Char → Nat
  | a :: as, b :: bs => if a = b then commonStart as bs + 1 else 0
  | _, _ => 0

/-- The longest run that two texts share: where it starts in each, and its length. Of several the
first counts. -/
def longestRun (a b : List Char) : Nat × Nat × Nat :=
  let starts := (List.range a.length).flatMap fun i => (List.range b.length).map fun j => (i, j)
  starts.foldl (fun best (i, j) =>
    let length := commonStart (a.drop i) (b.drop j)
    if best.2.2 < length then (i, j, length) else best) (0, 0, 0)

def matchedCount : (fuel : Nat) → List Char → List Char → Nat
  | 0, _, _ => 0
  | fuel + 1, a, b =>
    match longestRun a b with
    | (_, _, 0) => 0
    | (i, j, length) =>
      length + matchedCount fuel (a.take i) (b.take j) +
        matchedCount fuel (a.drop (i + length)) (b.drop (j + length))

/-- How alike two texts are, as a fraction: twice the characters matched of those of both. -/
structure Likeness where
  matched : Nat
  total : Nat

def likeness (a b : String) : Likeness :=
  ⟨2 * matchedCount (a.length + 1) a.toList b.toList, a.length + b.length⟩

def Likeness.isClose (l : Likeness) : Bool := 3 * l.total ≤ 5 * l.matched

def Likeness.le (a b : Likeness) : Bool := a.matched * b.total ≤ b.matched * a.total

/-- The three texts that are most like a text, among those that are close to it. -/
def closest (text : String) (texts : List String) : List String :=
  let close := (texts.map fun other => (likeness other text, other)).filter (·.1.isClose)
  ((close.mergeSort fun a b => b.1.le a.1 && (!a.1.le b.1 || b.2 ≤ a.2)).take 3).map Prod.snd

end Polyglot.Text
