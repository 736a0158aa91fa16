import PatronGateway.Time.Instant

/-!
# Counting from the beginning of 1970

Clocks count nanoseconds from the beginning of 1970 in UTC.  `Instant.ofEpoch`
is the instant of such a count.  Its date is found in years that begin in March, in
which the leap day is the last one: 400 of them have 146097 days, and from March on
every five months have 153.
-/

namespace PatronGateway
namespace Time

/-- The number of the first day of 1970, counted as `Instant.dayNumber` counts. -/
def epochDay : Nat :=
  719468

/-- The nanoseconds of a day. -/
def dayNanoseconds : Nat :=
  86400000000000

/-- A year that begins in March, within a row of 400, by the number of a day in
the row. -/
def marchYear (day : Nat) : Nat :=
  (day - day / 1460 + day / 36524 - day / 146096) / 365

/-- The number of the first day of such a year. -/
def marchYearStart (year : Nat) : Nat :=
  365 * year + year / 4 - year / 100

/-- The year, the month and the day of the month, by the number of days since the
first of March of the year 0. -/
def dateOfDay (number : Nat) : Nat × Nat × Nat :=
  let day := number % 146097
  let year := marchYear day
  let inYear := day - marchYearStart year
  let fromMarch := (5 * inYear + 2) / 153
  let month := if fromMarch < 10 then fromMarch + 3 else fromMarch - 9
  let calendarYear := number / 146097 * 400 + year + if month ≤ 2 then 1 else 0
  (calendarYear, month, inYear - (153 * fromMarch + 2) / 5 + 1)

namespace Instant

/-- The instant that comes a number of nanoseconds after the beginning of 1970, in
UTC. -/
def ofEpoch (nanoseconds : Nat) : Instant :=
  let (year, month, day) := dateOfDay (epochDay + nanoseconds / dayNanoseconds)
  let inDay := nanoseconds % dayNanoseconds
  { year := year
    month := month
    day := day
    hour := inDay / 3600000000000
    minute := inDay / 60000000000 % 60
    second := inDay / 1000000000 % 60
    nanosecond := inDay % 1000000000
    offset := 0 }

end Instant
end Time
end PatronGateway
