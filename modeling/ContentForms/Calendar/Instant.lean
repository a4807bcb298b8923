import ContentForms.Calendar.Date
import ContentForms.Text.Blank
import ContentForms.Text.Digits

/-!
Instants as milliseconds from the start of 1970 in universal time, and the texts that name them: a
full timestamp with date, time of day and offset, or a date alone, which is its first instant.

A timestamp has fixed widths. A date alone may have a sign, short numbers and blanks before its
numbers, and only a year with a sign may have more than four digits.
-/

namespace ContentForms.Calendar

abbrev Instant := Int

def millisPerDay : Int := 86400000

namespace Instant

def ofDate (d : Date) : Instant :=
  d.dayNumber * millisPerDay

/-- A number of exactly so many digits, and the rest. -/
def readFixed? (width : Nat) (cs : List Char) : Option (Nat × List Char) :=
  let digits := cs.take width
  if digits.length = width && digits.all Char.isDigit then
    some (Text.ofDigits 10 digits, cs.drop width)
  else none

def expect? (c : Char) : List Char → Option (List Char)
  | [] => none
  | d :: rest => if d = c then some rest else none

/-- The milliseconds of a fraction of a second, which has at least one digit if it is there. Digits
after the third do not count. -/
def readFraction? : List Char → Option (Nat × List Char)
  | '.' :: rest =>
      let digits := rest.takeWhile Char.isDigit
      if digits.isEmpty then none
      else
        some (Text.ofDigits 10 ((digits ++ ['0', '0']).take 3), rest.dropWhile Char.isDigit)
  | rest => some (0, rest)

def isMinus (c : Char) : Bool :=
  c = '-' || c = '\u2212'

/-- The minutes by which a local time is ahead of universal time, to the end of the text. -/
def readOffset? : List Char → Option Int
  | [] => none
  | sign :: rest =>
      if sign = 'Z' || sign = 'z' then if rest.isEmpty then some 0 else none
      else if sign = '+' || isMinus sign then do
        let (hours, rest) ← readFixed? 2 rest
        let rest ← expect? ':' rest
        let (minutes, rest) ← readFixed? 2 rest
        if rest.isEmpty && hours ≤ 23 && minutes ≤ 59 then
          let ahead : Int := hours * 60 + minutes
          pure (if isMinus sign then -ahead else ahead)
        else none
      else none

/-- A full timestamp. The second sixty is the first one of the next minute. -/
def ofTimestamp? (cs : List Char) : Option Instant := do
  let (year, cs) ← readFixed? 4 cs
  let cs ← expect? '-' cs
  let (month, cs) ← readFixed? 2 cs
  let cs ← expect? '-' cs
  let (day, cs) ← readFixed? 2 cs
  let cs ← ((expect? 'T' cs).or (expect? 't' cs)).or (expect? ' ' cs)
  let (hour, cs) ← readFixed? 2 cs
  let cs ← expect? ':' cs
  let (minute, cs) ← readFixed? 2 cs
  let cs ← expect? ':' cs
  let (second, cs) ← readFixed? 2 cs
  let (millis, cs) ← readFraction? cs
  let offset ← readOffset? cs
  let date ← Date.ofParts? year month day
  if hour ≤ 23 && minute ≤ 59 && second ≤ 60 then
    let seconds : Int := (hour * 60 + minute) * 60 + second
    pure (ofDate date + seconds * 1000 + millis - offset * 60000)
  else none

def readShort? (most : Nat) (cs : List Char) : Option (Nat × List Char) :=
  let digits := (cs.take most).takeWhile Char.isDigit
  if digits.isEmpty then none else some (Text.ofDigits 10 digits, cs.drop digits.length)

/-- A year, which has any number of digits if it has a sign. -/
def readYear? (cs : List Char) : Option (Int × List Char) :=
  match cs with
  | '-' :: rest => (readShort? rest.length rest).map fun (n, rest) => (-(n : Int), rest)
  | '+' :: rest => (readShort? rest.length rest).map fun (n, rest) => ((n : Int), rest)
  | cs => (readShort? 4 cs).map fun (n, rest) => ((n : Int), rest)

def isDatedYear (year : Int) : Bool :=
  -262143 ≤ year && year ≤ 262142

def ofDateText? (cs : List Char) : Option Instant := do
  let (year, cs) ← readYear? (cs.dropWhile Text.isBlank)
  let cs ← expect? '-' cs
  let (month, cs) ← readShort? 2 (cs.dropWhile Text.isBlank)
  let cs ← expect? '-' cs
  let (day, cs) ← readShort? 2 (cs.dropWhile Text.isBlank)
  let date ← Date.ofParts? year month day
  if cs.isEmpty && isDatedYear year then pure (ofDate date) else none

/-- The instant that a text names; blanks around it do not count. -/
def ofText? (s : String) : Option Instant :=
  let cs := Text.trimChars s.toList
  (ofTimestamp? cs).or (ofDateText? cs)

end Instant

end ContentForms.Calendar
