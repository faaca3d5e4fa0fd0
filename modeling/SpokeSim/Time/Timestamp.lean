import SpokeSim.Json.Codec
import SpokeSim.Text.Blank
import SpokeSim.Time.Calendar

/-!
# Timestamps

A `Timestamp` is a second of universal time, leap seconds included.  It is written as
`2024-05-01T10:30:45Z`; a year outside 0 to 9999 carries its sign.

`Timestamp.parse` reads the relaxed form of RFC 3339: blanks may stand before and behind each part,
the date is parted from the time by a `T` of either case or by a space, numbers may be short, any
number of fractional digits is dropped, and the zone is `Z`, `UTC` or hours and minutes with a sign.
A time of another zone is moved to universal time.
-/

namespace SpokeSim.Time

/-- A second of universal time. -/
structure Timestamp where
  date : Date
  /-- Minute of the day. -/
  minute : Nat
  /-- Second of the minute; 60 is a leap second. -/
  second : Nat
  date_valid : date.isValid = true
  minute_lt : minute < 1440
  second_le : second ≤ 60
deriving DecidableEq

namespace Timestamp

/-! ## Writing -/

/-- A number with at least `width` digits. -/
def padded (width n : Nat) : List Char :=
  let ds := Nat.toDigits 10 n
  List.replicate (width - ds.length) '0' ++ ds

/-- A year: four digits, or a sign and at least four. -/
def yearChars (year : Int) : List Char :=
  if 0 ≤ year ∧ year ≤ 9999 then padded 4 year.toNat
  else (if year < 0 then '-' else '+') :: padded 4 year.natAbs

/-- The written form. -/
def toText (t : Timestamp) : String :=
  String.ofList <|
    yearChars t.date.year ++ '-' :: padded 2 t.date.month ++ '-' :: padded 2 t.date.day
      ++ 'T' :: padded 2 (t.minute / 60) ++ ':' :: padded 2 (t.minute % 60)
      ++ ':' :: padded 2 t.second ++ ['Z']

/-! ## Reading -/

/-- Why a text is no timestamp. -/
inductive Fault where
  /-- The text ends too soon. -/
  | short
  | character
  /-- A number does not fit its place. -/
  | range
  /-- There is something behind the timestamp. -/
  | trailing
  /-- The time is out of the range of universal time. -/
  | impossible
deriving DecidableEq, Repr

/-- The wording of a fault. -/
def Fault.message : Fault → String
  | short => "premature end of input"
  | character => "input contains invalid characters"
  | range => "input is out of range"
  | trailing => "trailing input"
  | impossible => "no possible date and time matching input"

/-- A step of reading from the front of the characters that are left. -/
abbrev Reader := StateT (List Char) (Except Fault)

/-- The value of a run of decimal digits. -/
def digitsValue (ds : List Char) : Nat := ds.foldl (fun n d => 10 * n + (d.toNat - 48)) 0

/-- Skip blanks. -/
def blanks : Reader Unit := modify Text.dropBlanks

/-- The next character. -/
def next : Reader Char := do
  match ← get with
  | c :: cs =>
    set cs
    return c
  | [] => throw .short

/-- A character of some kind. -/
def oneOf (isGood : Char → Bool) : Reader Unit := do
  if !isGood (← next) then throw .character

/-- A decimal digit. -/
def digit : Reader Char := do
  let c ← next
  if c.isDigit then return c else throw .character

/-- A number of one digit or more, up to `width`. -/
def digits (width : Nat) : Reader Nat := do
  let d ← digit
  let ds := ((← get).take (width - 1)).takeWhile Char.isDigit
  modify (·.drop ds.length)
  return digitsValue (d :: ds)

/-- A number of one digit or two between bounds, behind blanks. -/
def number (least greatest : Nat) : Reader Nat := do
  blanks
  let n ← digits 2
  if least ≤ n ∧ n ≤ greatest then return n else throw .range

/-- A year: up to four digits, or a sign and any number of them. -/
def year : Reader Int := do
  blanks
  match ← get with
  | '-' :: cs =>
    set cs
    return -(← digits cs.length)
  | '+' :: cs =>
    set cs
    return ← digits cs.length
  | _ => return ← digits 4

/-- A mark, behind blanks. -/
def mark (m : Char) : Reader Unit := do
  blanks
  oneOf (· == m)

/-- What parts the time from the date. -/
def separator : Reader Unit := oneOf fun c => c == 't' || c == 'T' || c == ' '

/-- Skip a fraction of a second; a point must be followed by a digit. -/
def fraction : Reader Unit := do
  if (← get).head? = some '.' then
    let _ ← next
    let _ ← digit
    modify (·.dropWhile Char.isDigit)

/-- Two decimal digits. -/
def twoDigits : Reader Nat := do
  if (← get).length < 2 then throw .short
  return digitsValue [← digit, ← digit]

/-- Minutes east of universal time behind a sign: hours, perhaps a colon, minutes. -/
def hoursAndMinutes : Reader Nat := do
  let hours ← twoDigits
  modify (·.dropWhile fun c => c == ':' || Text.isBlank c)
  let minutes ← twoDigits
  if minutes < 60 then return hours * 60 + minutes else throw .range

/-- The zone of a time, in minutes east of universal time. -/
def zone : Reader Int := do
  blanks
  if ((← get).take 3).map Char.toUpper = ['U', 'T', 'C'] then
    modify (·.drop 3)
    return 0
  let c ← next
  if c = 'Z' ∨ c = 'z' then return 0
  else if c = '+' then return ← hoursAndMinutes
  else if c = '-' ∨ c = '\u2212' then return -(← hoursAndMinutes)
  else throw .character

/-- The end of the text, behind blanks. -/
def finish : Reader Unit := do
  blanks
  if (← get) ≠ [] then throw .trailing

/-- The timestamp of these parts, if there is one. -/
def ofParts? (date : Date) (minute second : Nat) : Option Timestamp :=
  if h : date.isValid = true ∧ minute < 1440 ∧ second ≤ 60 then
    some ⟨date, minute, second, h.1, h.2.1, h.2.2⟩
  else none

/-- The timestamp so many seconds after the begin of 1970, leap seconds not counted. -/
def ofSeconds? (seconds : Nat) : Option Timestamp :=
  let date := Nat.repeat Date.next (seconds / 86400) ⟨1970, 1, 1⟩
  ofParts? date (seconds % 86400 / 60) (seconds % 60)

/-- The begin of 1970. -/
def epoch : Timestamp := ⟨⟨1970, 1, 1⟩, 0, 0, by decide, by decide, by decide⟩

instance : Inhabited Timestamp := ⟨epoch⟩

/-- The timestamp of a local time in a zone less than a day away. -/
def ofLocal (date : Date) (minute second : Nat) (zone : Int) : Except Fault Timestamp :=
  if date.isValid && zone.natAbs < 1440 then
    let m : Int := minute - zone
    let t :=
      if m < 0 then ofParts? date.previous (m + 1440).toNat second
      else if m < 1440 then ofParts? date m.toNat second
      else ofParts? date.next (m - 1440).toNat second
    match t with
    | some t => .ok t
    | none => .error .impossible
  else .error .range

/-- Read the relaxed form of RFC 3339. -/
def reader : Reader Timestamp := do
  let year ← year
  mark '-'
  let month ← number 1 12
  mark '-'
  let day ← number 1 31
  separator
  let hour ← number 0 23
  mark ':'
  let minute ← number 0 59
  mark ':'
  let second ← number 0 60
  fraction
  let zone ← zone
  finish
  ofLocal ⟨year, month, day⟩ (hour * 60 + minute) second zone

/-- The timestamp of a text, or what is wrong about it. -/
def parse (s : String) : Except Fault Timestamp := reader.run' s.toList

/-- The timestamp of a text. -/
def parse? (s : String) : Option Timestamp := (parse s).toOption

/-! ## Order -/

/-- The parts of a timestamp, the largest first. -/
def parts (t : Timestamp) : List Int := [t.date.year, t.date.month, t.date.day, t.minute, t.second]

/-- Whether a timestamp is earlier than another one. -/
def isBefore (t u : Timestamp) : Bool := decide (t.parts < u.parts)

/-- Timestamps as strings. -/
def codec : Codec Timestamp := .spelled toText parse?

end Timestamp

end SpokeSim.Time
