import UnitHealth.Toml.Number

/-!
# Dates and times

A date is a year, a month and a day, and a time is an hour, a minute and a second, all with a fixed
number of digits and each within its bounds. A time may follow a date after a letter or a space,
and may then have an offset from universal time. Of a date only that it is one is kept.

A year with a hyphen after it has to become a date, and an hour with a colon after it a time.
-/

namespace UnitHealth.Toml

def daysInMonth (year month : Nat) : Nat :=
  let leap := year % 4 = 0 ∧ (year % 100 ≠ 0 ∨ year % 400 = 0)
  if month = 2 then (if leap then 29 else 28)
  else if month = 4 ∨ month = 6 ∨ month = 9 ∨ month = 11 then 30
  else 31

def takeDigits (count : Nat) (cs : List Char) : Except Failure (List Char × List Char) :=
  let front := cs.take count
  if front.length = count ∧ front.all Char.isDigit then .ok (front, cs.drop count)
  else .error ⟨cs, .bare, false⟩

namespace Reader

/-- A number of exactly so many digits that lies between the bounds. -/
def field (digits low high : Nat) : Reader Nat :=
  judged false
    (fun cs =>
      let n := ofDigits 10 cs
      if low ≤ n ∧ n ≤ high then .ok n else .error (.ofCause .outOfRange))
    (ofFunction (takeDigits digits))

def date : Reader Unit := do
  let year ← field 4 0 9999
  char '-'
  commit do
    let month ← field 2 1 12
    char '-'
    let _ ← field 2 1 (daysInMonth year month)
    return

def secondFraction : Reader Unit := do
  char '.'
  let _ ← one Char.isDigit
  let _ ← longest Char.isDigit
  return

/-- A time of the day. A minute may have a leap second. -/
def time : Reader Unit := do
  let _ ← field 2 0 23
  char ':'
  commit do
    let _ ← field 2 0 59
    char ':'
    let _ ← field 2 0 60
    let _ ← attempt? secondFraction
    return

def offset : Reader Unit :=
  reading .offset do
    let mark ← one fun c => c == 'Z' || c == 'z' || c == '+' || c == '-'
    if mark == '+' || mark == '-' then
      commit do
        let _ ← field 2 0 23
        char ':'
        let _ ← field 2 0 59
        return

/-- What makes a date a date with a time. -/
def timeOfDate : Reader Unit := do
  let _ ← one fun c => c == 'T' || c == 't' || c == ' '
  time
  let _ ← attempt? offset
  return

def dateTime : Reader Unit :=
  orElse
    (reading .dateTime do
      date
      let _ ← attempt? timeOfDate
      return)
    (reading .time time)

end Reader

end UnitHealth.Toml
