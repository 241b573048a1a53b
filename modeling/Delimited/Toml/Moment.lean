import Delimited.Json.Parser

/-!
# Dates and times of TOML

A date, a time, or both with an optional offset. Only the text is of use, so a moment is read to its
normal form: a capital `T` between date and time, `Z` or hours and minutes for the offset, and up to
nine places of the seconds without zeros at the end.

A moment that stands in a document is handed on as a table with its text under `momentKey`. A text
under that key is a moment if nothing is left over behind the moment it starts with, `momentOfText?`.
-/

namespace Delimited.Toml

/-- Read a number of exactly so many decimal digits. -/
def fixedDigits? (count : Nat) (chars : List Char) : Option (Nat × List Char) :=
  let digits := chars.take count
  if digits.length = count && digits.all Char.isDigit then
    some (Json.digitsValue digits, chars.drop count)
  else none

/-- The number of days of a month. -/
def daysOfMonth (year month : Nat) : Nat :=
  if month = 2 then
    if year % 4 = 0 && (year % 100 != 0 || year % 400 = 0) then 29 else 28
  else if month = 4 || month = 6 || month = 9 || month = 11 then 30
  else 31

/-- A number with zeros in front up to a width. -/
def padded (width number : Nat) : String :=
  let digits := Nat.toDigits 10 number
  String.ofList (List.replicate (width - digits.length) '0' ++ digits)

/-- Drop a character that must come first. -/
def expect? (char : Char) : List Char → Option (List Char)
  | [] => none
  | first :: rest => if first = char then some rest else none

/-- Read a date. -/
def date? (chars : List Char) : Option (String × List Char) := do
  let (year, rest) ← fixedDigits? 4 chars
  let rest ← expect? '-' rest
  let (month, rest) ← fixedDigits? 2 rest
  let rest ← expect? '-' rest
  let (day, rest) ← fixedDigits? 2 rest
  if month = 0 || 12 < month || day = 0 || daysOfMonth year month < day then none
  else some (padded 4 year ++ "-" ++ padded 2 month ++ "-" ++ padded 2 day, rest)

/-- Read the places of the seconds, if there are any. -/
def secondPlaces (chars : List Char) : String × List Char :=
  match chars with
  | '.' :: rest =>
      let places := rest.takeWhile Char.isDigit
      if places.isEmpty then ("", chars)
      else
        let kept := ((places.take 9).reverse.dropWhile (· == '0')).reverse
        (if kept.isEmpty then "" else "." ++ String.ofList kept, rest.drop places.length)
  | chars => ("", chars)

/-- Read hours and minutes. -/
def hourMinute? (chars : List Char) : Option (String × List Char) := do
  let (hour, rest) ← fixedDigits? 2 chars
  let rest ← expect? ':' rest
  let (minute, rest) ← fixedDigits? 2 rest
  if 23 < hour || 59 < minute then none
  else some (padded 2 hour ++ ":" ++ padded 2 minute, rest)

/-- Read a time of day; a minute may have a leap second. -/
def time? (chars : List Char) : Option (String × List Char) := do
  let (start, rest) ← hourMinute? chars
  let rest ← expect? ':' rest
  let (second, rest) ← fixedDigits? 2 rest
  if 60 < second then none
  else
    let (places, rest) := secondPlaces rest
    some (start ++ ":" ++ padded 2 second ++ places, rest)

/-- Read the offset of a time, if there is one; an offset of nothing is positive. -/
def offset (chars : List Char) : String × List Char :=
  match chars with
  | 'Z' :: rest => ("Z", rest)
  | 'z' :: rest => ("Z", rest)
  | '+' :: rest =>
      match hourMinute? rest with
      | some (shown, rest) => ("+" ++ shown, rest)
      | none => ("", chars)
  | '-' :: rest =>
      match hourMinute? rest with
      | some (shown, rest) => ((if shown == "00:00" then "+" else "-") ++ shown, rest)
      | none => ("", chars)
  | chars => ("", chars)

/-- The character may stand between a date and a time. -/
def isTimeMark (char : Char) : Bool :=
  char == 'T' || char == 't' || char == ' '

/-- Read a date with or without a time, or a time. -/
def moment? (chars : List Char) : Option (String × List Char) :=
  match date? chars with
  | none => time? chars
  | some (date, rest) =>
      match rest with
      | mark :: following =>
          if isTimeMark mark then
            match time? following with
            | some (time, rest) =>
                let (shown, rest) := offset rest
                some (date ++ "T" ++ time ++ shown, rest)
            | none => some (date, rest)
          else some (date, rest)
      | [] => some (date, rest)

/-- The key under which a moment has its text. -/
def momentKey : String := "$__toml_private_datetime"

/-- The normal form of a text that is a moment as a whole. -/
def momentOfText? (text : String) : Option String :=
  match moment? text.toList with
  | some (shown, []) => some shown
  | _ => none

end Delimited.Toml
