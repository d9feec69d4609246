import SignalGraph.Decimal.Numeral
import SignalGraph.Value.Yaml.Fault

/-!
Moments: a date, perhaps with a time of day and the distance of a place from the common time.
-/

namespace SignalGraph.Yaml

/-- A time of day, and how many minutes the clock of its place is ahead of the common time. -/
structure ClockTime where
  hour : Nat
  minute : Nat
  second : Nat
  ahead : Int
deriving Repr, DecidableEq

structure Moment where
  year : Nat
  month : Nat
  day : Nat
  time : Option ClockTime
deriving Repr, DecidableEq

/-- The number that a run of `least` to `most` digits writes, and what follows the run. -/
def takeDigits? (least most : Nat) (cs : List Char) : Option (Nat × List Char) :=
  let run := cs.takeWhile Decimal.isDigit
  if least ≤ run.length && run.length ≤ most then
    some (Text.natOfDigits (Decimal.digitValues run), cs.drop run.length)
  else none

/-- What follows a character. -/
def dropChar? (c : Char) : List Char → Option (List Char)
  | d :: cs => if c = d then some cs else none
  | [] => none

/-- A distance from the common time at the end of a text: a letter for none, or a sign and hours with
or without minutes, behind any blanks; or nothing at all. -/
def readAhead? (cs : List Char) : Option Int := do
  match cs.dropWhile fun c => c = ' ' || c = '\t' with
  | [] => if cs.isEmpty then some 0 else none
  | ['Z'] => some 0
  | sign :: rest =>
      if sign ≠ '+' && sign ≠ '-' then none
      else
        let (hours, rest) ← takeDigits? 1 2 rest
        let (minutes, rest) ←
          if rest.isEmpty then some (0, []) else takeDigits? 2 2 (← dropChar? ':' rest)
        if !rest.isEmpty then none
        else
          let minutes : Int := (60 * hours + minutes : Nat)
          some (if sign = '-' then -minutes else minutes)

/-- A time of day, with or without a fraction of a second. -/
def readClockTime? (cs : List Char) : Option ClockTime := do
  let (hour, cs) ← takeDigits? 1 2 cs
  let (minute, cs) ← takeDigits? 2 2 (← dropChar? ':' cs)
  let (second, cs) ← takeDigits? 2 2 (← dropChar? ':' cs)
  let cs :=
    match cs with
    | '.' :: fraction => fraction.dropWhile Decimal.isDigit
    | cs => cs
  return { hour, minute, second, ahead := ← readAhead? cs }

/-- A moment. The month and the day of a date without a time of day have at least `least` digits. -/
def Moment.read? (least : Nat) (cs : List Char) : Option Moment := do
  let (year, cs) ← takeDigits? 4 4 cs
  let monthAndDay ← dropChar? '-' cs
  let (month, cs) ← takeDigits? 1 2 monthAndDay
  let (day, cs) ← takeDigits? 1 2 (← dropChar? '-' cs)
  match cs with
  | [] =>
      if 2 * least + 1 ≤ monthAndDay.length then some { year, month, day, time := none } else none
  | c :: rest =>
      let time ←
        if c = 'T' || c = 't' then readClockTime? rest
        else if c = ' ' || c = '\t' then
          readClockTime? (rest.dropWhile fun c => c = ' ' || c = '\t')
        else none
      some { year, month, day, time := some time }

def isLeapYear (year : Nat) : Bool :=
  year % 4 = 0 && (year % 100 ≠ 0 || year % 400 = 0)

def daysOfMonth (year month : Nat) : Nat :=
  if month = 2 then if isLeapYear year then 29 else 28
  else if month ∈ [4, 6, 9, 11] then 30
  else 31

/-- Checks the distance from the common time first, then the date, then the time of day. -/
def Moment.check (m : Moment) : Except MomentFault Unit := do
  if let some time := m.time then
    if 1440 ≤ time.ahead.natAbs then throw (.zone time.ahead)
  if m.year = 0 then throw (.year m.year)
  if m.month = 0 || 12 < m.month then throw .month
  if m.day = 0 || daysOfMonth m.year m.month < m.day then throw .day
  if let some time := m.time then
    if 23 < time.hour then throw .hour
    if 59 < time.minute then throw .minute
    if 59 < time.second then throw .second

end SignalGraph.Yaml
