import CollectionQuery.Calendar.Date

/-!
# Date-times

A `DateTime` is a date and a time of day on a wall clock.  A `Timestamp` is a wall clock reading
with an optional offset from universal time.  The readings of one instant in two offsets have the
same `toUniversal?`.
-/

namespace CollectionQuery.Calendar

def microsPerDay : Nat := 86400000000

/-- A time of day in microseconds since midnight. -/
structure TimeOfDay where
  /-- Microseconds since midnight. -/
  micros : Nat
  /-- The day is not over. -/
  inDay : micros < microsPerDay := by decide
deriving DecidableEq

instance : Inhabited TimeOfDay := ⟨⟨0, by decide⟩⟩

namespace TimeOfDay

def midnight : TimeOfDay := ⟨0, by decide⟩

/-- The time of day with the given parts, if it exists. -/
def ofParts? (hour minute second micro : Nat) : Option TimeOfDay :=
  if hour < 24 ∧ minute < 60 ∧ second < 60 ∧ micro < 1000000 then
    let total := ((hour * 60 + minute) * 60 + second) * 1000000 + micro
    if h : total < microsPerDay then some ⟨total, h⟩ else none
  else none

def hour (t : TimeOfDay) : Nat := t.micros / 3600000000

/-- The minute of the hour. -/
def minute (t : TimeOfDay) : Nat := t.micros / 60000000 % 60

/-- The second of the minute. -/
def second (t : TimeOfDay) : Nat := t.micros / 1000000 % 60

/-- The microsecond of the second. -/
def micro (t : TimeOfDay) : Nat := t.micros % 1000000

end TimeOfDay

/-- A reading of a wall clock. -/
structure DateTime where
  date : Date
  time : TimeOfDay
deriving DecidableEq, Inhabited

namespace DateTime

/-- The order of two readings of one clock. -/
def compare (a b : DateTime) : Ordering :=
  (a.date.compare b.date).then (Ord.compare a.time.micros b.time.micros)

/-- The start of a day. -/
def startOf (d : Date) : DateTime := ⟨d, .midnight⟩

/-- The reading `micros` microseconds later, if its date exists. -/
def shift? (t : DateTime) (micros : Int) : Option DateTime :=
  let total := (t.time.micros : Int) + micros
  let rest := (total % (microsPerDay : Int)).toNat
  if h : rest < microsPerDay then
    (t.date.addDays? (total / (microsPerDay : Int))).map fun d => ⟨d, ⟨rest, h⟩⟩
  else none

end DateTime

/-- A distance from universal time of less than a day, eastward positive. -/
structure Offset where
  /-- Microseconds ahead of universal time. -/
  micros : Int
  /-- The distance is less than a day. -/
  inDay : micros.natAbs < microsPerDay := by decide
deriving DecidableEq

instance : Inhabited Offset := ⟨⟨0, by decide⟩⟩

/-- The offset of universal time. -/
def Offset.universal : Offset := ⟨0, by decide⟩

/-- The offset of so many microseconds, if it is less than a day. -/
def Offset.ofMicros? (micros : Int) : Option Offset :=
  if h : micros.natAbs < microsPerDay then some ⟨micros, h⟩ else none

/-- A reading of a wall clock, with its offset from universal time if that is known. -/
structure Timestamp where
  /-- What the clock shows. -/
  wall : DateTime
  /-- The offset of the clock. -/
  offset : Option Offset
deriving DecidableEq, Inhabited

namespace Timestamp

/-- Whether the offset is known. -/
def isAware (t : Timestamp) : Bool := t.offset.isSome

/-- The reading of a universal clock at the same time, if its date exists.  A reading without offset
counts as universal. -/
def toUniversal? (t : Timestamp) : Option DateTime :=
  match t.offset with
  | some offset => t.wall.shift? (-offset.micros)
  | none => some t.wall

end Timestamp

end CollectionQuery.Calendar
