import RecordQuery.DateTime.Calendar

/-!
# Points in time

A date-time is an instant together with the offset of the clock it was read from. Two of them are
equal when the instants are, whatever the offsets. A leap second is kept as the second before it
with a full second or more of nanoseconds, so it sorts after that second and before the next one.

## Main definitions

* `DateTime`: an instant and an offset.
* `DateTime.compare`: the order of the instants.
* `DateTime.localDate`, `DateTime.hour`, `DateTime.minute`, `DateTime.second`: what the clock shows.
* `DateTime.ofLocal`: the point in time at which a clock shows a date and a time.
-/

namespace RecordQuery

/-- A time of day. A leap second has the second 59 and a billion nanoseconds or more. -/
structure TimeOfDay where
  hour : Nat
  minute : Nat
  second : Nat
  nanosecond : Nat
  deriving DecidableEq, Repr

/-- The seconds since 1970-01-01T00:00:00Z and the nanoseconds after them, with the offset of the
clock in seconds. -/
structure DateTime where
  seconds : Int
  nanosecond : Nat
  offset : Int
  deriving DecidableEq, Repr, Inhabited

namespace DateTime

/-! ## Instants -/

/-- The order of the instants. -/
def compare (a b : DateTime) : Ordering :=
  (Ord.compare a.seconds b.seconds).then (Ord.compare a.nanosecond b.nanosecond)

/-- Whether two date-times are the same instant. -/
def sameInstant (a b : DateTime) : Bool :=
  a.seconds == b.seconds && a.nanosecond == b.nanosecond

/-- The same instant on a clock without an offset. -/
def toUtc (d : DateTime) : DateTime := { d with offset := 0 }

/-! ## What the clock shows -/

/-- The seconds since the start of 1970 that the clock shows. -/
def localSeconds (d : DateTime) : Int := d.seconds + d.offset

def localDate (d : DateTime) : Calendar.Date := Calendar.ofDays (d.localSeconds.fdiv 86400)

/-- The second of the day that the clock shows. -/
def secondOfDay (d : DateTime) : Nat := (d.localSeconds.fmod 86400).toNat

def hour (d : DateTime) : Nat := d.secondOfDay / 3600

def minute (d : DateTime) : Nat := d.secondOfDay / 60 % 60

def second (d : DateTime) : Nat := d.secondOfDay % 60

/-- The point in time at which a clock with an offset shows a date and a time. -/
def ofLocal (date : Calendar.Date) (time : TimeOfDay) (offset : Int) : DateTime :=
  let ofDay : Int := time.hour * 3600 + time.minute * 60 + time.second
  ⟨Calendar.toDays date * 86400 + ofDay - offset, time.nanosecond, offset⟩

theorem sameInstant_comm (a b : DateTime) : a.sameInstant b = b.sameInstant a := by
  simp only [sameInstant, BEq.comm]

end DateTime

end RecordQuery
