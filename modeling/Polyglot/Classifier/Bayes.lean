import Polyglot.Classifier.Token
import Polyglot.Data.Rounding

namespace Polyglot.Classifier

/-- How often each token was seen, in the order of first sight. -/
abbrev Tally := List (Token × Nat)

namespace Tally

def count (tally : Tally) (token : Token) : Nat :=
  match tally.find? (·.1 == token) with
  | some entry => entry.2
  | none => 0

def see (token : Token) : Tally → Tally
  | [] => [(token, 1)]
  | entry :: entries =>
    if entry.1 = token then (entry.1, entry.2 + 1) :: entries else entry :: see token entries

def seeAll (tally : Tally) (tokens : List Token) : Tally :=
  tokens.foldl (fun tally token => see token tally) tally

def total (tally : Tally) : Nat := tally.foldr (Prod.snd · + ·) 0

end Tally

/-- What was learnt of a label: its documents, the counts of their tokens and their number. -/
structure Profile (α : Type) where
  label : α
  documents : Nat
  tally : Tally
  total : Nat

def Profile.learn {α : Type} (tokens : List Token) (profile : Profile α) : Profile α :=
  { profile with
    documents := profile.documents + 1
    tally := profile.tally.seeAll tokens
    total := profile.total + tokens.length }

/-- What is kept of the numbers from which the share of a token is formed. -/
structure Arithmetic where
  /-- What is kept of a sum or a product; none is beyond all numbers. -/
  sum? : Rat → Option Rat
  quotient : Rat → Rat

namespace Arithmetic

def exact : Arithmetic := ⟨some, id⟩

def double : Arithmetic := ⟨Data.Rounding.toDouble?, Data.Rounding.toLeastUnit⟩

end Arithmetic

/-- A classifier with what it was taught: a profile for each label, and every token seen. -/
structure Bayes (α : Type) where
  smoothing : Rat := 1
  arithmetic : Arithmetic := .exact
  profiles : List (Profile α) := []
  vocabulary : List Token := []

/-- The label that a classifier gives a text, and how sure it is of each. -/
structure Prediction (α : Type) where
  label : α
  /-- The probability of each label, in the order of training. -/
  shares : List (α × Rat)

/-- Why a classifier cannot predict. -/
inductive PredictError where
  | untrained
  | divisionByZero
  | logarithmOfNonpositive
  deriving DecidableEq, Repr

def PredictError.message : PredictError → String
  | .untrained => "classifier has not been trained"
  | .divisionByZero => ""
  | .logarithmOfNonpositive => "math domain error"

namespace Bayes

variable {α : Type} [DecidableEq α]

def labels (bayes : Bayes α) : List α := bayes.profiles.map Profile.label

def learnLabel (tokens : List Token) (label : α) : List (Profile α) → List (Profile α)
  | [] => [Profile.learn tokens ⟨label, 0, [], 0⟩]
  | profile :: profiles =>
    if profile.label = label then Profile.learn tokens profile :: profiles
    else profile :: learnLabel tokens label profiles

def meet (vocabulary : List Token) (token : Token) : List Token :=
  if token ∈ vocabulary then vocabulary else vocabulary ++ [token]

/-- Learns one document of a label. A label seen for the first time comes last. -/
def train (bayes : Bayes α) (text : List Char) (label : α) : Bayes α :=
  let tokens := tokenize text
  { bayes with
    profiles := learnLabel tokens label bayes.profiles
    vocabulary := tokens.foldl meet bayes.vocabulary }

def documents (bayes : Bayes α) : Nat := bayes.profiles.foldr (Profile.documents · + ·) 0

/-- The size of the vocabulary, or one while it is empty. -/
def vocabularySize (bayes : Bayes α) : Nat := max bayes.vocabulary.length 1

/-- What the smoothed counts of a label's tokens are divided by. -/
def denominator? (bayes : Bayes α) (profile : Profile α) : Option Rat := do
  let smoothing ← bayes.arithmetic.sum? (bayes.smoothing * bayes.vocabularySize)
  bayes.arithmetic.sum? (profile.total + smoothing)

/-- How often a token was seen among those of a label, smoothed. -/
def smoothedCount? (bayes : Bayes α) (profile : Profile α) (token : Token) : Option Rat :=
  bayes.arithmetic.sum? (profile.tally.count token + bayes.smoothing)

/-- The smoothed share of a token among the tokens of a label. Nothing is left of a share in a number
beyond all others. -/
def tokenShare (bayes : Bayes α) (profile : Profile α) (token : Token) : Rat :=
  match bayes.smoothedCount? profile token, bayes.denominator? profile with
  | some count, some denominator => bayes.arithmetic.quotient (count / denominator)
  | _, _ => 0

/-- The share of the documents that have the label. -/
def documentShare (bayes : Bayes α) (profile : Profile α) : Rat :=
  (profile.documents : Rat) / bayes.documents

/-- The score of a label for the tokens of a text. -/
def score (bayes : Bayes α) (tokens : List Token) (profile : Profile α) : Rat :=
  tokens.foldl (fun score token => score * bayes.tokenShare profile token) (bayes.documentShare profile)

/-- A share that cannot be formed, or has no logarithm. -/
def fault? (bayes : Bayes α) (tokens : List Token) (profile : Profile α) : Option PredictError :=
  if tokens.isEmpty then none
  else if bayes.denominator? profile = some 0 then some .divisionByZero
  else if tokens.any fun token => bayes.tokenShare profile token ≤ 0 then some .logarithmOfNonpositive
  else none

def best (first : α × Rat) (others : List (α × Rat)) : α × Rat :=
  others.foldl (fun best entry => if best.2 < entry.2 then entry else best) first

/-- The label with the greatest score, of several the one trained first. -/
def predict (bayes : Bayes α) (text : List Char) : Except PredictError (Prediction α) :=
  let tokens := tokenize text
  match bayes.profiles.findSome? (bayes.fault? tokens) with
  | some fault => .error fault
  | none =>
    match bayes.profiles.map fun profile => (profile.label, bayes.score tokens profile) with
    | [] => .error .untrained
    | first :: others =>
      let sum := (first :: others).foldr (Prod.snd · + ·) 0
      .ok ⟨(best first others).1, (first :: others).map fun (label, score) => (label, score / sum)⟩

end Bayes

end Polyglot.Classifier
