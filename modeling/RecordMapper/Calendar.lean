import RecordMapper.Number.Numeral

/-!
Dates of the calendar as they are written: four digits for the year, two for the month and two for
the day, with hyphens between them. Readers of parts of a text return what is left behind the part.
-/
namespace RecordMapper.Calendar

def digits? (width : Nat) (cs : List Char) : Option (Nat × List Char) :=
  let ds := cs.take width
  if ds.length == width && ds.all Char.isDigit then some (Number.positional ds, cs.drop width)
  else none

def char? (p : Char → Bool) : List Char → Option (List Char)
  | c :: cs => if p c then some cs else none
  | [] => none

def twoDigits? (bound : Nat) (cs : List Char) : Option (Nat × List Char) := do
  let (n, rest) ← digits? 2 cs
  if n ≤ bound then some (n, rest) else none

def isLeap (year : Nat) : Bool := year % 4 == 0 && (year % 100 != 0 || year % 400 == 0)

def daysIn (year month : Nat) : Nat :=
  if month == 2 then (if isLeap year then 29 else 28)
  else if month == 4 || month == 6 || month == 9 || month == 11 then 30 else 31

abbrev Date := Nat × Nat × Nat

def dateForm? (cs : List Char) : Option (Date × List Char) := do
  let (year, cs) ← digits? 4 cs
  let (month, cs) ← twoDigits? 12 (← char? (· == '-') cs)
  let (day, cs) ← twoDigits? 31 (← char? (· == '-') cs)
  if month == 0 || day == 0 then none else some ((year, month, day), cs)

/-- Does a date of the right form occur in the calendar? There is no year zero. -/
def occurs (date : Date) : Bool :=
  let (year, month, day) := date
  year != 0 && day ≤ daysIn year month

def ofText? (s : String) : Option Date := do
  let (date, rest) ← dateForm? s.toList
  if rest.isEmpty && occurs date then some date else none

end RecordMapper.Calendar
