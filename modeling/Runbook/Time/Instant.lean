import Runbook.Number.Reading
import Runbook.Time.Calendar

/-!
# Instants

Instants of universal time with a resolution of one nanosecond, as they are
written in RFC 3339.  Reading accepts blanks between the parts, a blank or a
small `t` before the time and any offset of less than a day; writing uses the
offset `Z` and as many groups of three fraction digits as are needed.
-/

namespace Runbook

/-- An instant of universal time.  The second 60 is a leap second. -/
structure Instant where
  date : Date
  minute : Nat
  second : Nat
  nanosecond : Nat
  valid : minute < 1440 ∧ second ≤ 60 ∧ nanosecond < 1000000000
deriving DecidableEq

namespace Instant

def epoch : Instant :=
  ⟨Date.newYear 1970, 0, 0, 0, by decide⟩

instance : Inhabited Instant := ⟨epoch⟩

/-- The numbers of an instant, the most significant one first. -/
def numbers (instant : Instant) : List Int :=
  [instant.date.year, instant.date.month, instant.date.day, instant.minute,
    instant.second, instant.nanosecond]

def compare (left right : Instant) : Ordering :=
  Ord.compare left.numbers right.numbers

/-- The instant so many nanoseconds after the first instant of 1970. -/
def ofNanoseconds (nanoseconds : Int) : Instant :=
  let seconds := nanoseconds.fdiv 1000000000
  let days := seconds.fdiv 86400
  let within := (seconds.fmod 86400).toNat
  ⟨Date.ofDays days, within / 60 % 1440, within % 60,
    (nanoseconds.fmod 1000000000).toNat % 1000000000, by omega⟩

/-- The fraction of a second: none, or as many groups of three digits as are
needed. -/
def fractionChars (nanosecond : Nat) : List Char :=
  if nanosecond = 0 then []
  else if nanosecond % 1000000 = 0 then
    '.' :: Date.padded 3 (nanosecond / 1000000)
  else if nanosecond % 1000 = 0 then
    '.' :: Date.padded 6 (nanosecond / 1000)
  else '.' :: Date.padded 9 nanosecond

def render (instant : Instant) : String :=
  String.ofList (instant.date.chars ++ 'T' ::
    Date.padded 2 (instant.minute / 60) ++ ':' ::
    Date.padded 2 (instant.minute % 60) ++ ':' ::
    Date.padded 2 instant.second ++ fractionChars instant.nanosecond ++ ['Z'])

def stamp (instant : Instant) : String :=
  String.ofList (Date.yearChars instant.date.year ++
    Date.padded 2 instant.date.month ++ Date.padded 2 instant.date.day ++
    'T' :: Date.padded 2 (instant.minute / 60) ++
    Date.padded 2 (instant.minute % 60) ++ Date.padded 2 instant.second ++
    '.' :: Date.padded 3 (instant.nanosecond / 1000000))

/-- Read a number of at most `width` digits, after blanks. -/
def number? (width : Nat) (text : List Char) : Option (Nat × List Char) :=
  let text := Text.trimLeft text
  let digits := (text.take width).takeWhile Char.isDigit
  if digits.isEmpty then none
  else some (Reading.digitsValue 0 digits, text.drop digits.length)

def numberTo? (limit width : Nat) (text : List Char) :
    Option (Nat × List Char) :=
  (number? width text).filter fun found => decide (found.1 ≤ limit)

/-- Read a year: four digits at most, or a sign and any number of digits. -/
def year? (text : List Char) : Option (Int × List Char) :=
  match Text.trimLeft text with
  | '-' :: rest =>
    if rest.head?.any Char.isDigit then
      (number? rest.length rest).map fun (year, rest) => (-(year : Int), rest)
    else none
  | '+' :: rest =>
    if rest.head?.any Char.isDigit then
      (number? rest.length rest).map fun (year, rest) => ((year : Int), rest)
    else none
  | rest => (number? 4 rest).map fun (year, rest) => ((year : Int), rest)

def yearRange : Int × Int := (-262143, 262142)

def separator? (separator : Char) (text : List Char) : Option (List Char) :=
  match Text.trimLeft text with
  | found :: rest => if found = separator then some rest else none
  | [] => none

/-- Read the fraction of a second; digits after the ninth do not count. -/
def fraction? (text : List Char) : Option (Nat × List Char) :=
  match text with
  | '.' :: rest =>
    let (digits, after) := Reading.digitRun rest
    if digits.isEmpty then none
    else
      let kept := digits.take 9
      some (Reading.digitsValue 0 kept * Nat.pow 10 (9 - kept.length), after)
  | rest => some (0, rest)

def afterUniversal? (text : List Char) : Option (List Char) :=
  if (text.take 3).map Char.toUpper = ['U', 'T', 'C'] then some (text.drop 3)
  else none

/-- Read an offset in minutes: `Z`, or a sign, two digits of hours and two of
minutes. -/
def offset? (text : List Char) : Option (Int × List Char) :=
  match text with
  | [] => none
  | sign :: rest =>
    if sign = 'Z' ∨ sign = 'z' then some (0, rest)
    else if sign = '+' ∨ sign = '-' ∨ sign = '\u2212' then
      match rest with
      | first :: second :: rest => do
        let hours ← Reading.digit? first
        let moreHours ← Reading.digit? second
        match rest.dropWhile fun next => next == ':' || Text.isBlank next with
        | first :: second :: rest =>
          let minutes ← (Reading.digit? first).filter (· ≤ 5)
          let moreMinutes ← Reading.digit? second
          let total := 60 * (10 * hours + moreHours) +
            (10 * minutes + moreMinutes)
          if 1440 ≤ total then none
          else some (if sign = '+' then (total : Int) else -(total : Int), rest)
        | _ => none
      | _ => none
    else none

/-- The instant of a local date and time with an offset in minutes. -/
def ofLocal? (date : Date) (minute second nanosecond : Nat) (offset : Int) :
    Option Instant :=
  let shifted : Int := minute - offset
  let date :=
    if shifted < 0 then date.previous
    else if 1440 ≤ shifted then date.next
    else date
  let minute := (shifted.emod 1440).toNat
  if valid : minute < 1440 ∧ second ≤ 60 ∧ nanosecond < 1000000000 then
    some ⟨date, minute, second, nanosecond, valid⟩
  else none

def read? (text : String) : Option Instant := do
  let (year, rest) ← year? text.toList
  let rest ← separator? '-' rest
  let (month, rest) ← numberTo? 12 2 rest
  let rest ← separator? '-' rest
  let (day, rest) ← numberTo? 31 2 rest
  let rest ←
    match rest with
    | 'T' :: rest | 't' :: rest | ' ' :: rest => some rest
    | _ => none
  let (hour, rest) ← numberTo? 23 2 rest
  let rest ← separator? ':' rest
  let (minute, rest) ← numberTo? 59 2 rest
  let rest ← separator? ':' rest
  let (second, rest) ← numberTo? 60 2 rest
  let (nanosecond, rest) ← fraction? rest
  let rest := Text.trimLeft rest
  let (offset, rest) ←
    match afterUniversal? rest with
    | some rest => some (0, rest)
    | none => offset? rest
  if !rest.isEmpty ∨ year < yearRange.1 ∨ yearRange.2 < year then none
  else
    let date ← Date.ofNumbers? year month day
    ofLocal? date (60 * hour + minute) second nanosecond offset

end Instant

end Runbook
