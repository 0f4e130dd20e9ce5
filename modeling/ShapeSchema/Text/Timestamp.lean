/-!
# `ShapeSchema.Text.Timestamp`: date-times of RFC 3339

A date, one of `T`, `t` and a blank, a time with an optional fraction of a second, and an offset.
The date has to exist, the second may be a leap second in any minute, and the offset is less than a
day.
-/

set_option autoImplicit false

namespace ShapeSchema.Text

/-- A number of exactly `count` digits, and the rest. -/
def digits? (count : Nat) (s : List Char) : Option (Nat × List Char) :=
  let digits := s.take count
  if digits.length = count && digits.all Char.isDigit then
    some (digits.foldl (fun n d => n * 10 + (d.toNat - '0'.toNat)) 0, s.drop count)
  else none

/-- The rest after one of the given characters. -/
def oneOf? (allowed : List Char) : List Char → Option (List Char)
  | c :: rest => if allowed.contains c then some rest else none
  | [] => none

/-- Every fourth year, but of the centuries only every fourth. -/
def isLeapYear (year : Nat) : Bool := year % 4 == 0 && (year % 100 != 0 || year % 400 == 0)

/-- The number of days of a month, counted from one. -/
def daysInMonth (year month : Nat) : Nat :=
  if month = 2 then (if isLeapYear year then 29 else 28)
  else if [4, 6, 9, 11].contains month then 30 else 31

/-- The rest after a date that exists. -/
def date? (s : List Char) : Option (List Char) := do
  let (year, s) ← digits? 4 s
  let s ← oneOf? ['-'] s
  let (month, s) ← digits? 2 s
  let s ← oneOf? ['-'] s
  let (day, s) ← digits? 2 s
  if 1 ≤ month ∧ month ≤ 12 ∧ 1 ≤ day ∧ day ≤ daysInMonth year month then some s else none

/-- The rest after a fraction, if a point comes next: at least one digit follows it. -/
def fraction? : List Char → Option (List Char)
  | '.' :: s => do
    let (_, s) ← digits? 1 s
    return s.dropWhile Char.isDigit
  | s => some s

/-- The rest after a time of day. -/
def time? (s : List Char) : Option (List Char) := do
  let (hour, s) ← digits? 2 s
  let s ← oneOf? [':'] s
  let (minute, s) ← digits? 2 s
  let s ← oneOf? [':'] s
  let (second, s) ← digits? 2 s
  if hour ≤ 23 ∧ minute ≤ 59 ∧ second ≤ 60 then fraction? s else none

/-- The rest after an offset. The minus may be the sign U+2212 too. -/
def offset? (s : List Char) : Option (List Char) :=
  match oneOf? ['Z', 'z'] s with
  | some rest => some rest
  | none => do
    let s ← oneOf? ['+', '-', '−'] s
    let (hour, s) ← digits? 2 s
    let s ← oneOf? [':'] s
    let (minute, s) ← digits? 2 s
    if hour ≤ 23 ∧ minute ≤ 59 then some s else none

/-- The text is a date-time and nothing else. -/
def isTimestamp (text : String) : Bool :=
  let rest : Option (List Char) := do
    let s ← date? text.toList
    let s ← oneOf? ['T', 't', ' '] s
    offset? (← time? s)
  rest == some []

end ShapeSchema.Text
