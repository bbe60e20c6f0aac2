import Mooring.Text.Blank
import Mooring.Time.Instant

set_option autoImplicit false

/-!
# Times as text

Times are written in RFC 3339 form with no, three, six or nine digits after the second, as few as
lose nothing. Two readers accept them: `ofStrict?` takes the form as the standard has it, and
`ofRelaxed?` also allows blanks between the parts, short and signed numbers, `UTC` for the zone
and a zone without a colon or minutes.
-/

namespace Mooring.Instant

/-! ## Writing -/

/-- A number with zeros in front to fill `width` digits. -/
def padded (width n : Nat) : List Char :=
  let ds := Nat.toDigits 10 n
  List.replicate (width - ds.length) '0' ++ ds

/-- A year of four digits, a sign before any year outside them. -/
def yearText (year : Int) : List Char :=
  if 0 ≤ year ∧ year ≤ 9999 then padded 4 year.toNat
  else (if year < 0 then '-' else '+') :: padded 4 year.natAbs

/-- The digits after the second. -/
def fractionText (nanos : Nat) : List Char :=
  if nanos = 0 then []
  else if nanos % 1000000 = 0 then '.' :: padded 3 (nanos / 1000000)
  else if nanos % 1000 = 0 then '.' :: padded 6 (nanos / 1000)
  else '.' :: padded 9 nanos

/-- The date and the time of day. -/
def dateTimeText (t : Instant) : List Char :=
  let date := Date.ofDays (t.seconds / 86400)
  let second := (t.seconds % 86400).toNat
  let leap := if 1000000000 ≤ t.nanos then 1 else 0
  yearText date.year ++ '-' :: padded 2 date.month ++ '-' :: padded 2 date.day ++ 'T' ::
    padded 2 (second / 3600) ++ ':' :: padded 2 (second / 60 % 60) ++ ':' ::
    padded 2 (second % 60 + leap) ++ fractionText (t.nanos % 1000000000)

/-- The instant in universal time, the zone written `Z`. -/
def text (t : Instant) : String :=
  String.ofList (dateTimeText t ++ ['Z'])

/-- The instant in universal time, the zone written as an offset. -/
def offsetText (t : Instant) : String :=
  String.ofList (dateTimeText t ++ "+00:00".toList)

/-! ## Reading -/

/-- The parts of a time as they are written; the offset is in seconds. -/
structure Parts where
  date : Date
  hour : Nat
  minute : Nat
  second : Nat
  nanos : Nat
  offset : Int

/-- The instant of a time whose parts are in range; second sixty is a leap second. -/
def Parts.instant? (p : Parts) : Option Instant :=
  if p.date.isValid && p.hour ≤ 23 && p.minute ≤ 59 && p.second ≤ 60 && p.offset.natAbs < 86400
  then
    let second := min p.second 59
    let nanos := if p.second = 60 then p.nanos + 1000000000 else p.nanos
    let seconds := p.date.toDays * 86400 + (p.hour * 3600 + p.minute * 60 + second : Nat) - p.offset
    if inRange seconds then some ⟨seconds, nanos⟩ else none
  else none

/-- The number that digits write. -/
def digitsNumber (ds : List Char) : Nat :=
  ds.foldl (fun n c => n * 10 + (c.toNat - '0'.toNat)) 0

/-- A number of at least `least` and at most `most` digits, and what follows. -/
def number? (least most : Nat) (cs : List Char) : Option (Nat × List Char) :=
  let ds := (cs.take most).takeWhile Char.isDigit
  if ds.length < least then none else some (digitsNumber ds, cs.drop ds.length)

/-- What follows a character that has to be there. -/
def expect? (c : Char) : List Char → Option (List Char)
  | d :: cs => if c = d then some cs else none
  | [] => none

/-- The mark between a date and a time. -/
def separator? : List Char → Option (List Char)
  | c :: cs => if c = 'T' ∨ c = 't' ∨ c = ' ' then some cs else none
  | [] => none

/-- Nanoseconds written after a point, if there is one; digits beyond the ninth are passed over. -/
def fraction? : List Char → Option (Nat × List Char)
  | '.' :: cs => do
    let ds := (cs.take 9).takeWhile Char.isDigit
    if ds.isEmpty then none
    else
      let nanos := digitsNumber ds * Nat.pow 10 (9 - ds.length)
      some (nanos, (cs.drop ds.length).dropWhile Char.isDigit)
  | cs => some (0, cs)

/-- Two digits, the first at most `top`. -/
def twoDigits? (top : Char) : List Char → Option (Nat × List Char)
  | a :: b :: cs =>
    if a.isDigit ∧ a ≤ top ∧ b.isDigit then some (digitsNumber [a, b], cs) else none
  | _ => none

/-- A sign of a zone offset. -/
def zoneSign? : List Char → Option (Bool × List Char)
  | c :: cs =>
    if c = '+' then some (false, cs)
    else if c = '-' ∨ c = '\u2212' then some (true, cs)
    else none
  | [] => none

/-- Seconds east of universal time. -/
def zoneSeconds (negative : Bool) (hours minutes : Nat) : Int :=
  let n : Int := (hours * 3600 + minutes * 60 : Nat)
  if negative then -n else n

/-- A zone as the standard has it: `Z` or a signed offset of hours and minutes. -/
def strictZone? (cs : List Char) : Option (Int × List Char) :=
  match cs with
  | 'Z' :: rest | 'z' :: rest => some (0, rest)
  | _ => do
    let (negative, cs) ← zoneSign? cs
    let (hours, cs) ← twoDigits? '9' cs
    let cs ← expect? ':' cs
    let (minutes, cs) ← twoDigits? '5' cs
    if hours ≤ 23 then some (zoneSeconds negative hours minutes, cs) else none

/-- A time as the standard has it. -/
def ofStrict? (s : String) : Option Instant := do
  let (year, cs) ← number? 4 4 s.toList
  let cs ← expect? '-' cs
  let (month, cs) ← number? 2 2 cs
  let cs ← expect? '-' cs
  let (day, cs) ← number? 2 2 cs
  let cs ← separator? cs
  let (hour, cs) ← number? 2 2 cs
  let cs ← expect? ':' cs
  let (minute, cs) ← number? 2 2 cs
  let cs ← expect? ':' cs
  let (second, cs) ← number? 2 2 cs
  let (nanos, cs) ← fraction? cs
  let (offset, cs) ← strictZone? cs
  if cs.isEmpty then
    Parts.instant? ⟨⟨year, month, day⟩, hour, minute, second, nanos, offset⟩
  else none

/-- A year of four digits, or one of any length after a sign. -/
def relaxedYear? (cs : List Char) : Option (Int × List Char) := do
  match Text.trimStart cs with
  | '-' :: rest =>
    let (y, rest) ← number? 1 rest.length rest
    return (-(y : Int), rest)
  | '+' :: rest =>
    let (y, rest) ← number? 1 rest.length rest
    return (y, rest)
  | rest =>
    let (y, rest) ← number? 1 4 rest
    return (y, rest)

/-- A number of one or two digits, blanks allowed before it. -/
def relaxedNumber? (cs : List Char) : Option (Nat × List Char) :=
  number? 1 2 (Text.trimStart cs)

/-- What follows a mark, blanks allowed before it. -/
def relaxedMark? (c : Char) (cs : List Char) : Option (List Char) :=
  expect? c (Text.trimStart cs)

/-- A zone: `UTC`, `Z`, or a signed offset. -/
def relaxedZone? (cs : List Char) : Option (Int × List Char) := do
  match cs with
  | a :: b :: c :: rest =>
    if a.toUpper = 'U' ∧ b.toUpper = 'T' ∧ c.toUpper = 'C' then return (0, rest)
  | _ => pure ()
  match cs with
  | 'Z' :: rest | 'z' :: rest => some (0, rest)
  | _ =>
    let (negative, cs) ← zoneSign? cs
    let (hours, cs) ← twoDigits? '9' cs
    let cs := cs.dropWhile fun c => c == ':' || Text.isBlank c
    let (minutes, cs) ← twoDigits? '5' cs
    return (zoneSeconds negative hours minutes, cs)

/-- A time with blanks and short forms allowed. -/
def ofRelaxed? (s : String) : Option Instant := do
  let (year, cs) ← relaxedYear? s.toList
  let cs ← relaxedMark? '-' cs
  let (month, cs) ← relaxedNumber? cs
  let cs ← relaxedMark? '-' cs
  let (day, cs) ← relaxedNumber? cs
  let cs ← separator? cs
  let (hour, cs) ← relaxedNumber? cs
  let cs ← relaxedMark? ':' cs
  let (minute, cs) ← relaxedNumber? cs
  let cs ← relaxedMark? ':' cs
  let (second, cs) ← relaxedNumber? cs
  let (nanos, cs) ← fraction? cs
  let (offset, cs) ← relaxedZone? (Text.trimStart cs)
  if (Text.trimStart cs).isEmpty then
    Parts.instant? ⟨⟨year, month, day⟩, hour, minute, second, nanos, offset⟩
  else none

end Mooring.Instant
