import ElementCode.Value
import ElementCode.Yaml.Place

/-!
# Timestamps

What scalars tagged as timestamps stand for: a date, or a date with a time of day and perhaps the
distance from universal time.
-/

namespace ElementCode.Yaml

/-- The number that decimal digits write. -/
def decimalNat (cs : List Char) : Nat :=
  cs.foldl (fun n c => 10 * n + (c.toNat - '0'.toNat)) 0

/-- Whether a year has a 29th of February. -/
def isLeap (year : Nat) : Bool := year % 4 == 0 && (year % 100 != 0 || year % 400 == 0)

/-- How many days a month has. -/
def daysIn (year month : Nat) : Nat :=
  if month == 2 then if isLeap year then 29 else 28
  else if [4, 6, 9, 11].contains month then 30
  else 31

/-- How many days lie between the first day of the first year and a date. -/
def dayNumber (d : Date) : Nat :=
  let y := d.year - 1
  let months := (List.range (d.month - 1)).foldl (fun n m => n + daysIn d.year (m + 1)) 0
  365 * y + y / 4 - y / 100 + y / 400 + months + d.day - 1

/-- Requires that a date exists. -/
def checkDate (d : Date) : Except Error Unit :=
  if d.year == 0 then .error (.badTime "year 0 is out of range")
  else if d.month < 1 || 12 < d.month then .error (.badTime "month must be in 1..12")
  else if d.day < 1 || daysIn d.year d.month < d.day then
    .error (.badTime "day is out of range for month")
  else .ok ()

/-- Requires that a time of day exists. -/
def checkTime (m : Moment) : Except Error Unit :=
  if 23 < m.hour then .error (.badTime "hour must be in 0..23")
  else if 59 < m.minute then .error (.badTime "minute must be in 0..59")
  else if 59 < m.second then .error (.badTime "second must be in 0..59")
  else .ok ()

/-- A length of time in seconds as messages show it: in days, and in seconds of a day. -/
def showDelta (seconds : Int) : String :=
  let days := Int.fdiv seconds 86400
  let rest := seconds - days * 86400
  let parts := (if days == 0 then [] else ["days=" ++ toString days]) ++
    (if rest == 0 then [] else ["seconds=" ++ toString rest])
  "datetime.timedelta(" ++ (if parts.isEmpty then "0" else ", ".intercalate parts) ++ ")"

/-- Requires that a distance from universal time is less than a day. -/
def checkOffset (seconds : Int) : Except Error Unit :=
  if seconds.natAbs < 86400 then .ok ()
  else .error (.badTime ("offset must be a timedelta strictly between " ++
    "-timedelta(hours=24) and timedelta(hours=24), not " ++ showDelta seconds ++ "."))

/-- The microseconds that the digits after the point of a second write. -/
def microseconds (fraction : List Char) : Nat :=
  let digits := fraction.take 6
  decimalNat (digits ++ List.replicate (6 - digits.length) '0')

/-- The distance from universal time in seconds. -/
def offsetOf (zone : Option Char × List Char × List Char) : Int :=
  let seconds : Int := 3600 * decimalNat zone.2.1 + 60 * decimalNat zone.2.2
  if zone.1 == some '-' then -seconds else seconds

/-- What a timestamp stands for. -/
def timestampValue (text : List Char) : Except Error Value := do
  match Plain.stamp? false (Plain.dropLineFeed text) with
  | none => .error .notTimestamp
  | some s =>
    let date : Date := ⟨decimalNat s.date.1, decimalNat s.date.2.1, decimalNat s.date.2.2⟩
    match s.time with
    | none =>
      checkDate date
      return .date date
    | some (hour, minute, second) =>
      let offset := s.zone.map offsetOf
      match offset with
      | some seconds => checkOffset seconds
      | none => .ok ()
      let m : Moment :=
        { date, hour := decimalNat hour, minute := decimalNat minute, second := decimalNat second
          micro := microseconds s.fraction, offset }
      checkDate date
      checkTime m
      return .moment m

end ElementCode.Yaml

namespace ElementCode

/-- The point in time of a moment with a distance from universal time, in microseconds. -/
def Moment.instant? (m : Moment) : Option Int :=
  m.offset.map fun offset =>
    let seconds := 86400 * Yaml.dayNumber m.date + 3600 * m.hour + 60 * m.minute + m.second
    1000000 * ((seconds : Int) - offset) + m.micro

end ElementCode
