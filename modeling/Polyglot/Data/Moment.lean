namespace Polyglot.Data

def isLeap (year : Nat) : Bool := year % 4 == 0 && (year % 100 != 0 || year % 400 == 0)

def daysIn (year month : Nat) : Nat :=
  if month = 2 then (if isLeap year then 29 else 28)
  else if month = 4 ∨ month = 6 ∨ month = 9 ∨ month = 11 then 30
  else 31

/-- The number of a day, where the first day of the first year is the first. -/
def dayNumber (year month day : Nat) : Nat :=
  let years := year - 1
  365 * years + years / 4 - years / 100 + years / 400 +
    (List.range (month - 1)).foldr (fun earlier sum => daysIn year (earlier + 1) + sum) 0 + day

/-- A moment of the calendar with the time of the day and, where one was given, the offset of its
zone in minutes. -/
structure Moment where
  year : Nat
  month : Nat
  day : Nat
  hour : Nat
  minute : Nat
  second : Nat
  microsecond : Nat
  offset : Option Int
  deriving DecidableEq, Repr

/-- What moments of one instant have in common: a moment with an offset by the number of its day and
the time of that day where the offset is none. -/
def Moment.key (m : Moment) : Moment :=
  match m.offset with
  | none => m
  | some offset =>
    let minutes :=
      ((dayNumber m.year m.month m.day + 1) * 1440 + m.hour * 60 + m.minute - offset).toNat
    { m with
      year := 0, month := 0, day := minutes / 1440, hour := minutes % 1440 / 60
      minute := minutes % 60, offset := some 0 }

end Polyglot.Data
