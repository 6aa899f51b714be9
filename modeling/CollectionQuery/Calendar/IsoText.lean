import CollectionQuery.Calendar.DateTime
import CollectionQuery.Text.Split

/-!
# ISO 8601 texts

Writing gives one form: date, `T`, time with microseconds unless they are zero, offset with seconds
unless they are zero.

Reading accepts the calendar forms `2026-02-26` and `20260226`, the week forms `2026-W09-4`,
`2026W094` and both without a weekday, any one character between date and time, times with and
without colons down to parts of a second behind a point or a comma, and an offset or `Z` at the end.
The length of a date form, and so the place of the character behind it, is found from the first
characters.  Lengths count the bytes of UTF-8: a character beyond ASCII stands for as many
replacement characters as it has bytes.
-/

namespace CollectionQuery.Calendar

/-! ## Writing -/

/-- A number with at least `width` digits. -/
def padded (width n : Nat) : List Char :=
  let digits := Nat.toDigits 10 n
  List.replicate (width - digits.length) '0' ++ digits

/-- A date as `YYYY-MM-DD`. -/
def Date.isoChars (d : Date) : List Char :=
  padded 4 d.year ++ '-' :: padded 2 d.month ++ '-' :: padded 2 d.day

/-- A date as `YYYY-MM-DD`. -/
def Date.isoText (d : Date) : String := String.ofList d.isoChars

/-- The parts of a second, with a point, unless they are zero. -/
def microChars (micro : Nat) : List Char :=
  if micro = 0 then [] else '.' :: padded 6 micro

/-- A time as `HH:MM:SS`, with microseconds unless they are zero. -/
def TimeOfDay.isoChars (t : TimeOfDay) : List Char :=
  padded 2 t.hour ++ ':' :: padded 2 t.minute ++ ':' :: padded 2 t.second ++ microChars t.micro

/-- A wall clock reading with a separator between date and time. -/
def DateTime.chars (separator : Char) (t : DateTime) : List Char :=
  t.date.isoChars ++ separator :: t.time.isoChars

/-- A wall clock reading in ISO form. -/
def DateTime.isoText (t : DateTime) : String := String.ofList (t.chars 'T')

/-- A wall clock reading with a space between date and time, always with microseconds. -/
def DateTime.microText (t : DateTime) : String :=
  String.ofList (t.date.isoChars ++ ' ' :: padded 2 t.time.hour ++ ':' :: padded 2 t.time.minute ++
    ':' :: padded 2 t.time.second ++ '.' :: padded 6 t.time.micro)

/-- An offset as `+HH:MM`, with seconds and microseconds unless they are zero. -/
def Offset.isoChars (o : Offset) : List Char :=
  let total := o.micros.natAbs
  let seconds := total / 1000000
  let micro := total % 1000000
  (if o.micros < 0 then '-' else '+') :: padded 2 (seconds / 3600) ++
    ':' :: padded 2 (seconds / 60 % 60) ++
    (if seconds % 60 = 0 ∧ micro = 0 then []
      else ':' :: padded 2 (seconds % 60) ++ microChars micro)

/-- A timestamp with a separator between date and time. -/
def Timestamp.chars (separator : Char) (t : Timestamp) : List Char :=
  t.wall.chars separator ++ (t.offset.map Offset.isoChars).getD []

/-- A timestamp in ISO form. -/
def Timestamp.isoText (t : Timestamp) : String := String.ofList (t.chars 'T')

/-- A timestamp with a space between date and time. -/
def Timestamp.spacedText (t : Timestamp) : String := String.ofList (t.chars ' ')

/-! ## Reading -/

/-- The character that stands for the bytes of characters beyond ASCII. -/
def replacement : Char := Char.ofNat 0xFFFD

/-- One character per byte. -/
def perByte (text : List Char) : List Char :=
  text.flatMap fun c => if c.toNat < 128 then [c] else List.replicate c.utf8Size replacement

/-- A number of exactly `count` digits, and what follows. -/
def readDigits? : (count : Nat) → List Char → Option (Nat × List Char)
  | 0, rest => some (0, rest)
  | count + 1, c :: rest =>
    if c.isDigit then
      (readDigits? count rest).map fun r => ((c.toNat - 48) * Nat.pow 10 count + r.1, r.2)
    else none
  | _ + 1, [] => none

/-- The date at the start of a text of which `length` characters are set aside for it.  What they
hold behind the day is passed over, and a week form that fills them without a weekday means its
Monday. -/
def readDateOfLength? (text : List Char) (length : Nat) : Option Date := do
  let (year, rest) ← readDigits? 4 text
  let dashed := rest.head? == some '-'
  let rest := if dashed then rest.drop 1 else rest
  match rest with
  | 'W' :: rest =>
    let (week, rest) ← readDigits? 2 rest
    if text.length - rest.length < length then
      let rest ← if dashed then (if rest.head? == some '-' then some (rest.drop 1) else none)
        else some rest
      let (weekday, _) ← readDigits? 1 rest
      Date.ofWeek? year week weekday
    else Date.ofWeek? year week 1
  | _ =>
    let (month, rest) ← readDigits? 2 rest
    let rest ← if dashed then (if rest.head? == some '-' then some (rest.drop 1) else none)
      else some rest
    let (day, _) ← readDigits? 2 rest
    Date.ofParts? year month day

/-- The date that a text of 7, 8 or 10 bytes writes: the longest form has ten, so a shorter form may
be followed by what fills up the ten. -/
def Date.ofIso? (text : String) : Option Date :=
  let chars := perByte text.toList
  if chars.length = 7 ∨ chars.length = 8 ∨ chars.length = 10 then
    readDateOfLength? chars chars.length
  else none

/-- The length of the date at the start of a text of one character per byte. -/
def dateLength? (text : List Char) : Option Nat :=
  let length := text.length
  if length = 7 then some 7
  else if text[4]? = some '-' then
    if text[5]? = some 'W' then
      if length < 8 then none
      else if text[8]? = some '-' then
        if length = 9 then none
        else if (text[10]?.map Char.isDigit).getD false then some 8
        else some 10
      else some 8
    else some 10
  else if text[4]? = some 'W' then
    let position := 7 + ((text.drop 7).takeWhile Char.isDigit).length
    if position < 9 then some position
    else if position % 2 = 0 then some 7
    else some 8
  else some 8

/-- A time of day as written, and whether something that is no part of it follows. -/
structure ClockText where
  hour : Nat
  minute : Nat
  second : Nat
  /-- Microseconds. -/
  micro : Nat
  /-- Whether something follows. -/
  more : Bool

/-- The parts of a second: up to six digits count, further ones are passed over.  `more` says
whether something follows the text. -/
def readMicros? (text : List Char) (more : Bool) : Option (Nat × Bool) := do
  let count := min 6 text.length
  let (n, rest) ← readDigits? count text
  pure (n * Nat.pow 10 (6 - count), more || !(rest.dropWhile Char.isDigit).isEmpty)

/-- Pairs of digits for the hour, the minute and the second, then parts of a second.  `colon` says
whether colons stand between them, once the character behind the hour has shown it.  One stray
character at the end counts as following. -/
def readClock? : (pairs : Nat) → (colon : Option Bool) → (seen : List Nat) → List Char →
    (more : Bool) → Option (List Nat × Nat × Bool)
  | 0, _, seen, text, more => (readMicros? text more).map fun r => (seen, r.1, r.2)
  | pairs + 1, colon, seen, text, more => do
    let (n, rest) ← readDigits? 2 text
    let seen := seen ++ [n]
    match rest with
    | [] => pure (seen, 0, more)
    | [_] => pure (seen, 0, true)
    | c :: tail =>
      let colon := colon.getD (c == ':')
      if colon ∧ c = ':' then readClock? pairs (some colon) seen tail more
      else if c = '.' ∨ c = ',' then (readMicros? tail more).map fun r => (seen, r.1, r.2)
      else if colon then none
      else readClock? pairs (some colon) seen rest more

/-- A time of day as written. -/
def ClockText.read? (text : List Char) (more : Bool) : Option ClockText :=
  (readClock? 3 none [] text more).map fun r =>
    ⟨r.1[0]?.getD 0, r.1[1]?.getD 0, r.1[2]?.getD 0, r.2.1, r.2.2⟩

/-- The offset that a text behind its sign writes.  Parts of a second count only beside seconds. -/
def readOffset? (negative : Bool) (text : List Char) : Option Offset := do
  let clock ← ClockText.read? text false
  guard (!clock.more)
  let seconds := (clock.hour * 60 + clock.minute) * 60 + clock.second
  let micros : Int := if seconds = 0 then 0 else (seconds * 1000000 + clock.micro : Nat)
  Offset.ofMicros? (if negative then -micros else micros)

/-- A time of day with an optional offset. -/
def readTime? (text : List Char) : Option (TimeOfDay × Option Offset) := do
  let isMark (c : Char) := c == '+' || c == '-' || c == 'Z'
  let front := text.takeWhile fun c => !isMark c
  let tail := text.dropWhile fun c => !isMark c
  let clock ← ClockText.read? front (!tail.isEmpty)
  let time ← TimeOfDay.ofParts? clock.hour clock.minute clock.second clock.micro
  match tail with
  | [] => if clock.more then none else pure (time, none)
  | ['Z'] => pure (time, some .universal)
  | 'Z' :: _ => none
  | sign :: rest => (readOffset? (sign == '-') rest).map fun o => (time, some o)

/-- The timestamp that a whole text writes; a date alone means its midnight. -/
def Timestamp.ofIso? (text : String) : Option Timestamp := do
  let bytes := perByte text.toList
  guard (7 ≤ bytes.length)
  let length ← dateLength? bytes
  let date ← readDateOfLength? bytes length
  if length < bytes.length then
    let (time, offset) ← readTime? (perByte (text.toList.drop (length + 1)))
    pure ⟨⟨date, time⟩, offset⟩
  else pure ⟨.startOf date, none⟩

end CollectionQuery.Calendar
