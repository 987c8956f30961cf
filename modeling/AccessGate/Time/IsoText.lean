import AccessGate.Number.Shortest
import AccessGate.Time.Moment

/-!
# Moments as text

`Moment.write` gives a moment as `YYYY-MM-DDTHH:MM:SS`, with six decimals of a second unless they
are all zero and with the offset when it is known.  `Moment.read?` accepts that form and its
relatives: dates and clock readings without separators, week dates, any one character between date
and clock, clock readings cut off after the hour or the minute, and fractions of any length, of
which the first six digits count.

A clock reading that is followed by an offset is read leniently: one ASCII character after its last
unit and whatever follows six digits of a fraction are not looked at.
-/

namespace AccessGate.Moment

/-- A number in decimal, with zeros in front up to a width. -/
def padded (width value : Nat) : List Char :=
  let digits := Double.digitsOf value
  List.replicate (width - digits.length) '0' ++ digits

/-- Hours and minutes of a number of microseconds, then the seconds and the fraction as far as
they are wanted. -/
def clockText (micros : Nat) (seconds fraction : Bool) : List Char :=
  padded 2 (micros / 3600000000) ++ ':' :: padded 2 (micros / 60000000 % 60) ++
    (if seconds then ':' :: padded 2 (micros / 1000000 % 60) else []) ++
    (if fraction then '.' :: padded 6 (micros % 1000000) else [])

/-- An offset: its sign, hours and minutes, and the smaller units as far as they are not zero. -/
def offsetText (offset : ClockOffset) : List Char :=
  let size := offset.micros.natAbs
  let fraction := size % 1000000 != 0
  (if offset.micros < 0 then '-' else '+') ::
    clockText size (fraction || size / 1000000 % 60 != 0) fraction

def characters (moment : Moment) : List Char :=
  let date := CalendarDate.ofDayNumber (moment.wall / microsPerDay)
  let clock := moment.wall % microsPerDay
  padded 4 date.year ++ '-' :: padded 2 date.month ++ '-' :: padded 2 date.day ++
    'T' :: clockText clock true (clock % 1000000 != 0) ++
    (moment.offset.map offsetText).getD []

def write (moment : Moment) : String :=
  String.ofList moment.characters

namespace Reader

/-- Reads exactly the given number of ASCII digits. -/
def digits? : (count : Nat) → List Char → Option (Nat × List Char)
  | 0, rest => some (0, rest)
  | _ + 1, [] => none
  | count + 1, character :: rest =>
      if character.isDigit then
        (digits? count rest).map fun (value, rest) =>
          ((character.toNat - 48) * Nat.pow 10 count + value, rest)
      else none

/-- The place of the character between date and clock. -/
def separatorPlace (text : List Char) : Option Nat :=
  let at_ (place : Nat) : Option Char := text[place]?
  let isDigitAt (place : Nat) : Bool := ((at_ place).map Char.isDigit).getD false
  if text.length < 7 then none
  else if text.length = 7 then some 7
  else if at_ 4 = some '-' then
    if at_ 5 = some 'W' then
      if at_ 8 = some '-' then
        if text.length = 9 then none
        else if isDigitAt 10 then some 8
        else some 10
      else some 8
    else some 10
  else if at_ 4 = some 'W' then
    let digitsEnd := 7 + ((text.drop 7).takeWhile Char.isDigit).length
    some (if digitsEnd < 9 then digitsEnd else if digitsEnd % 2 = 0 then 7 else 8)
  else some 8

/-- Drops a hyphen, which has to be there exactly if hyphens are in use. -/
def hyphen? (used : Bool) : List Char → Option (List Char)
  | '-' :: rest => if used then some rest else none
  | rest => if used then none else some rest

/-- Reads a date that fills the given characters. -/
def date? (text : List Char) : Option CalendarDate := do
  let (year, rest) ← digits? 4 text
  let hyphens := rest.head? = some '-'
  let rest := if hyphens then rest.drop 1 else rest
  match rest with
  | 'W' :: rest =>
      let (week, rest) ← digits? 2 rest
      if rest.isEmpty then CalendarDate.ofWeekDate? year week 1
      else
        let rest ← if hyphens then hyphen? true rest else some rest
        let (weekday, _) ← digits? 1 rest
        CalendarDate.ofWeekDate? year week weekday
  | rest =>
      let (month, rest) ← digits? 2 rest
      let rest ← if hyphens then hyphen? true rest else some rest
      let (day, rest) ← digits? 2 rest
      let date : CalendarDate := { year, month, day }
      if rest.isEmpty && date.isValid then some date else none

/-- A clock reading, in the units it was written in. -/
structure Clock where
  hour : Nat
  minute : Nat
  second : Nat
  micros : Nat

def Clock.total (clock : Clock) : Nat :=
  ((clock.hour * 60 + clock.minute) * 60 + clock.second) * 1000000 + clock.micros

/-- Reads a fraction of a second.  The flag tells whether nothing is left over. -/
def fraction? (text : List Char) : Option (Nat × Bool) := do
  let count := min 6 text.length
  let (value, rest) ← digits? count text
  let rest := rest.dropWhile Char.isDigit
  some (value * Nat.pow 10 (6 - count), rest.isEmpty || rest.head? = some '\x00')

/-- Reads the units of a clock reading from the given one on: `parts` holds those already read,
and `separated` tells whether colons are in use.  The flag of the result tells whether nothing is
left over. -/
def clockFrom (separated : Bool) (parts : List Nat) : (units : Nat) → List Char →
    Option (List Nat × Nat × Bool)
  | 0, text => (fraction? text).map fun (micros, complete) => (parts, micros, complete)
  | units + 1, text => do
      let (value, rest) ← digits? 2 text
      let parts := parts ++ [value]
      match rest with
      | [] => some (parts, 0, true)
      | [last] => if last.toNat < 0x80 then some (parts, 0, last = '\x00') else none
      | next :: after =>
          let separated := if parts.length = 1 then next = ':' else separated
          if separated && next = ':' then clockFrom separated parts units after
          else if next = '.' || next = ',' then
            (fraction? after).map fun (micros, complete) => (parts, micros, complete)
          else if separated then none
          else clockFrom separated parts units rest

def clock? (text : List Char) : Option (Clock × Bool) :=
  (clockFrom false [] 3 text).map fun (parts, micros, complete) =>
    ({ hour := (parts[0]?).getD 0, minute := (parts[1]?).getD 0, second := (parts[2]?).getD 0,
       micros }, complete)

/-- Whether a clock reading exists on a day. -/
def Clock.isValid (clock : Clock) : Bool :=
  clock.hour < 24 && clock.minute < 60 && clock.second < 60

def startsOffset (character : Char) : Bool :=
  character = '+' || character = '-' || character = 'Z'

/-- The offset of a number of microseconds.  A lead of less than a second counts as none. -/
def offsetOf? (negative : Bool) (clock : Clock) : Option ClockOffset :=
  let size := if clock.total < 1000000 then 0 else clock.total
  let micros : Int := if negative then -(size : Int) else size
  if bounded : micros.natAbs < microsPerDay then some ⟨micros, bounded⟩ else none

/-- Reads an offset: the letter for universal time, or a sign and a complete clock reading. -/
def offset? : List Char → Option ClockOffset
  | [] => none
  | 'Z' :: rest =>
      if rest.isEmpty || rest.head? = some '\x00' then some .universal else none
  | sign :: rest =>
      match clock? rest with
      | some (clock, true) => offsetOf? (sign = '-') clock
      | _ => none

/-- Reads a clock reading with an optional offset. -/
def timed? (text : List Char) : Option (Nat × Option ClockOffset) := do
  let (reading, offset) := text.span fun character => !startsOffset character
  let (clock, complete) ← clock? reading
  let offset ← if offset.isEmpty then if complete then some none else none
    else (offset? offset).map some
  if clock.isValid then some (clock.total, offset) else none

end Reader

open Reader in
/-- Reads a moment.  A date that nothing follows stands for midnight. -/
def read? (text : String) : Option Moment := do
  let text := text.toList
  let place ← separatorPlace text
  let date ← date? (text.take place)
  let (micros, offset) ←
    match text.drop place with
    | [] => some (0, none)
    | _ :: clock => timed? clock
  (ofWall (date.dayNumber * microsPerDay + micros : Nat) offset).toOption

end AccessGate.Moment
