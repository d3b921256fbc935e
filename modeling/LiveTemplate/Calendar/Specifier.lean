import LiveTemplate.Calendar.Moment
import LiveTemplate.Text.Padded

/-!
# Percent patterns

A percent pattern is a text in which a percent sign introduces a specifier: a letter that names one
item or a short sequence of items. A mark between the sign and the letter overrides how a number is
filled up; it belongs to specifiers that stand for a single number, and to no others.
-/

namespace LiveTemplate.Calendar

open Text

/-! ## Items -/

inductive NumberField where
  | year
  | century
  | yearOfCentury
  | weekYear
  | weekYearOfCentury
  | quarter
  | month
  | day
  | weekFromSunday
  | weekFromMonday
  | isoWeek
  | weekdayFromSunday
  | weekdayFromMonday
  | dayOfYear
  | hour
  | hourOnDial
  | minute
  | second
  | nanosecond
  | timestamp
  deriving DecidableEq, Repr

inductive TextField where
  | shortMonth
  | month
  | shortWeekday
  | weekday
  | upperHalf
  | lowerHalf
  /-- The fraction of a second with a point, in as many groups of three digits as it needs. -/
  | fraction
  /-- Some groups of three digits of the fraction, with or without a point. -/
  | fractionGroups (point : Bool) (groups : Nat)
  | zoneName
  /-- The offset of the zone in hours. -/
  | offsetHours
  /-- The offset in hours and minutes, with or without a colon. -/
  | offsetMinutes (colon : Bool)
  /-- The offset in hours, minutes and seconds. -/
  | offsetSeconds
  /-- An offset of any spelling, which can be read but not written. -/
  | offsetAny
  /-- The whole moment in the internet format. -/
  | internet
  deriving DecidableEq, Repr

/-- A piece of a percent pattern. -/
inductive Item where
  | verbatim (text : List Char)
  | number (field : NumberField) (fill : Fill)
  | text (field : TextField)
  deriving DecidableEq, Repr

/-! ## Reading -/

def itemsOfLetter : Char → Option (List Item)
  | 'A' => some [.text .weekday]
  | 'B' => some [.text .month]
  | 'C' => some [.number .century .zero]
  | 'D' => some slashed
  | 'F' => some [.number .year .zero, .verbatim ['-'], .number .month .zero, .verbatim ['-'],
      .number .day .zero]
  | 'G' => some [.number .weekYear .zero]
  | 'H' => some [.number .hour .zero]
  | 'I' => some [.number .hourOnDial .zero]
  | 'M' => some [.number .minute .zero]
  | 'P' => some [.text .lowerHalf]
  | 'R' => some [.number .hour .zero, .verbatim [':'], .number .minute .zero]
  | 'S' => some [.number .second .zero]
  | 'T' => some clock
  | 'U' => some [.number .weekFromSunday .zero]
  | 'V' => some [.number .isoWeek .zero]
  | 'W' => some [.number .weekFromMonday .zero]
  | 'X' => some clock
  | 'Y' => some [.number .year .zero]
  | 'Z' => some [.text .zoneName]
  | 'a' => some [.text .shortWeekday]
  | 'b' => some [.text .shortMonth]
  | 'c' => some ([.text .shortWeekday, .verbatim [' '], .text .shortMonth, .verbatim [' '],
      .number .day .space, .verbatim [' ']] ++ clock ++ [.verbatim [' '], .number .year .zero])
  | 'd' => some [.number .day .zero]
  | 'e' => some [.number .day .space]
  | 'f' => some [.number .nanosecond .zero]
  | 'g' => some [.number .weekYearOfCentury .zero]
  | 'h' => some [.text .shortMonth]
  | 'j' => some [.number .dayOfYear .zero]
  | 'k' => some [.number .hour .space]
  | 'l' => some [.number .hourOnDial .space]
  | 'm' => some [.number .month .zero]
  | 'n' => some [.verbatim ['\n']]
  | 'p' => some [.text .upperHalf]
  | 'q' => some [.number .quarter .none]
  | 'r' => some [.number .hourOnDial .zero, .verbatim [':'], .number .minute .zero,
      .verbatim [':'], .number .second .zero, .verbatim [' '], .text .upperHalf]
  | 's' => some [.number .timestamp .none]
  | 't' => some [.verbatim ['\t']]
  | 'u' => some [.number .weekdayFromMonday .none]
  | 'v' => some [.number .day .space, .verbatim ['-'], .text .shortMonth, .verbatim ['-'],
      .number .year .zero]
  | 'w' => some [.number .weekdayFromSunday .none]
  | 'x' => some slashed
  | 'y' => some [.number .yearOfCentury .zero]
  | 'z' => some [.text (.offsetMinutes false)]
  | '+' => some [.text .internet]
  | '%' => some [.verbatim ['%']]
  | _ => none
where
  /-- The time of day to the second. -/
  clock : List Item :=
    [.number .hour .zero, .verbatim [':'], .number .minute .zero, .verbatim [':'],
      .number .second .zero]
  /-- The month, the day and the year of the century between slashes. -/
  slashed : List Item :=
    [.number .month .zero, .verbatim ['/'], .number .day .zero, .verbatim ['/'],
      .number .yearOfCentury .zero]

/-- Reads a specifier without a mark; the percent sign has been read. -/
def takePlain : List Char → Option (List Item × List Char)
  | ':' :: ':' :: ':' :: 'z' :: rest => some ([.text .offsetHours], rest)
  | ':' :: ':' :: 'z' :: rest => some ([.text .offsetSeconds], rest)
  | ':' :: 'z' :: rest => some ([.text (.offsetMinutes true)], rest)
  | '.' :: '3' :: 'f' :: rest => some ([.text (.fractionGroups true 1)], rest)
  | '.' :: '6' :: 'f' :: rest => some ([.text (.fractionGroups true 2)], rest)
  | '.' :: '9' :: 'f' :: rest => some ([.text (.fractionGroups true 3)], rest)
  | '.' :: 'f' :: rest => some ([.text .fraction], rest)
  | '3' :: 'f' :: rest => some ([.text (.fractionGroups false 1)], rest)
  | '6' :: 'f' :: rest => some ([.text (.fractionGroups false 2)], rest)
  | '9' :: 'f' :: rest => some ([.text (.fractionGroups false 3)], rest)
  | c :: rest => (itemsOfLetter c).map (·, rest)
  | [] => none

/-- Overrides how a specifier that stands for a single number is filled up. -/
def refill? (fill : Fill) : List Item × List Char → Option (List Item × List Char)
  | ([.number field _], rest) => some ([.number field fill], rest)
  | _ => none

/-- Reads a specifier; the percent sign has been read. -/
def takeSpecifier : List Char → Option (List Item × List Char)
  | '-' :: rest => (takePlain rest).bind (refill? .none)
  | '0' :: rest => (takePlain rest).bind (refill? .zero)
  | '_' :: rest => (takePlain rest).bind (refill? .space)
  | '#' :: 'z' :: rest => some ([.text .offsetAny], rest)
  | text => takePlain text

theorem length_lt_of_takePlain {text rest : List Char} {items : List Item}
    (h : takePlain text = some (items, rest)) : rest.length < text.length := by
  unfold takePlain at h
  split at h
  all_goals simp only [Option.some.injEq, Prod.mk.injEq, Option.map_eq_some_iff,
    reduceCtorEq] at h
  all_goals grind

theorem length_lt_of_refill {text rest : List Char} {items : List Item} {fill : Fill}
    (h : (takePlain text).bind (refill? fill) = some (items, rest)) :
    rest.length < text.length := by
  obtain ⟨⟨old, tail⟩, hp, hr⟩ := Option.bind_eq_some_iff.1 h
  have := length_lt_of_takePlain hp
  unfold refill? at hr
  grind

/-- A specifier is never empty. -/
theorem length_lt_of_takeSpecifier {text rest : List Char} {items : List Item}
    (h : takeSpecifier text = some (items, rest)) : rest.length < text.length := by
  unfold takeSpecifier at h
  split at h
  · exact Nat.lt_succ_of_lt (length_lt_of_refill h)
  · exact Nat.lt_succ_of_lt (length_lt_of_refill h)
  · exact Nat.lt_succ_of_lt (length_lt_of_refill h)
  · simp only [Option.some.injEq, Prod.mk.injEq] at h
    grind
  · exact length_lt_of_takePlain h

/-- The items of a percent pattern; there are none if one of its specifiers is unknown. -/
def items? (pattern : List Char) : Option (List Item) :=
  match pattern with
  | [] => some []
  | c :: rest =>
    if c = '%' then
      match h : takeSpecifier rest with
      | some (items, tail) =>
        have := length_lt_of_takeSpecifier h
        (items? tail).map (items ++ ·)
      | none => none
    else (items? rest).map (.verbatim [c] :: ·)
termination_by pattern.length

/-! ## Writing numbers -/

def NumberField.value (m : Moment) : NumberField → Int
  | .year => m.date.year
  | .century => m.date.year / 100
  | .yearOfCentury => m.date.year % 100
  | .weekYear => m.date.isoWeek.1
  | .weekYearOfCentury => m.date.isoWeek.1 % 100
  | .quarter => m.date.quarter
  | .month => m.date.month
  | .day => m.date.day
  | .weekFromSunday => m.date.weekFromSunday
  | .weekFromMonday => m.date.weekFromMonday
  | .isoWeek => m.date.isoWeek.2
  | .weekdayFromSunday => m.date.weekdayFromSunday
  | .weekdayFromMonday => m.date.weekday + 1
  | .dayOfYear => m.date.dayOfYear + 1
  | .hour => m.hour
  | .hourOnDial => m.hourOnDial
  | .minute => m.minute
  | .second => m.countedSecond
  | .nanosecond => m.fraction
  | .timestamp => m.seconds

inductive NumberLayout where
  /-- One digit, whatever the fill. -/
  | single
  /-- Two digits. -/
  | pair
  /-- At least so many places. -/
  | wide (places : Nat)
  /-- Four digits, or a sign and at least four digits outside of four digits. -/
  | year

def NumberField.layout : NumberField → NumberLayout
  | .quarter | .weekdayFromSunday | .weekdayFromMonday => .single
  | .dayOfYear => .wide 3
  | .nanosecond | .timestamp => .wide 9
  | .year | .weekYear => .year
  | _ => .pair

/-- The character that stands for a digit; a value beyond nine goes on in the order of
characters. -/
def digitChar (n : Nat) : Char := Char.ofNat ('0'.toNat + n)

/-- A number of two places, taken modulo 256. -/
def pairOf (fill : Fill) (value : Int) : List Char :=
  let octet := (value % 256).toNat
  let tens := octet / 10
  let front :=
    if tens = 0 then
      match fill with
      | .none => []
      | .zero => ['0']
      | .space => [' ']
    else [digitChar tens]
  front ++ [digitChar (octet % 10)]

def yearText (fill : Fill) (year : Int) : List Char :=
  if 0 ≤ year && year ≤ 9999 then paddedInt fill 4 false year else paddedInt fill 5 true year

def NumberLayout.render (fill : Fill) (value : Int) : NumberLayout → List Char
  | .single => [digitChar value.toNat]
  | .pair => pairOf fill value
  | .wide places => paddedInt fill places false value
  | .year => yearText fill value

/-! ## Writing texts -/

/-- The first digits of the fraction of a second, in groups of three. -/
def fractionDigits (m : Moment) (groups : Nat) : List Char :=
  zeroPadded (3 * groups) (m.fraction / Nat.pow 10 (9 - 3 * groups))

/-- The fraction of a second with a point, or nothing if it is zero. -/
def fractionText (m : Moment) : List Char :=
  if m.fraction = 0 then []
  else if m.fraction % 1000000 = 0 then '.' :: fractionDigits m 1
  else if m.fraction % 1000 = 0 then '.' :: fractionDigits m 2
  else '.' :: fractionDigits m 3

def offsetSign (offset : Int) : Char := if offset < 0 then '-' else '+'

/-- An offset in hours and minutes, its seconds rounded to the nearest minute. -/
def offsetInMinutes (colon : Bool) (offset : Int) : List Char :=
  let minutes := (offset.natAbs + 30) / 60
  offsetSign offset :: zeroPadded 2 (minutes / 60) ++ (if colon then [':'] else []) ++
    zeroPadded 2 (minutes % 60)

def offsetInSeconds (offset : Int) : List Char :=
  let seconds := offset.natAbs
  offsetSign offset :: zeroPadded 2 (seconds / 3600) ++ ':' :: zeroPadded 2 (seconds / 60 % 60) ++
    ':' :: zeroPadded 2 (seconds % 60)

/-- The name of a zone; an offset of whole minutes is shown without seconds. -/
def zoneText : Zone → List Char
  | .universal => ['U', 'T', 'C']
  | .fixed offset =>
    if offset.natAbs % 60 = 0 then offsetInMinutes true offset else offsetInSeconds offset

def internetText (m : Moment) : List Char :=
  yearText .zero m.date.year ++ '-' :: zeroPadded 2 m.date.month ++ '-' ::
    zeroPadded 2 m.date.day ++ 'T' :: zeroPadded 2 m.hour ++ ':' :: zeroPadded 2 m.minute ++ ':' ::
    zeroPadded 2 m.countedSecond ++ fractionText m ++ offsetInMinutes true m.offset

/-- The text of a field; one field cannot be written. -/
def TextField.render? (m : Moment) : TextField → Option (List Char)
  | .shortMonth => some (shortName m.date.monthName)
  | .month => some m.date.monthName
  | .shortWeekday => some (shortName m.date.weekdayName)
  | .weekday => some m.date.weekdayName
  | .upperHalf => some (if m.isAfternoon then ['P', 'M'] else ['A', 'M'])
  | .lowerHalf => some (if m.isAfternoon then ['p', 'm'] else ['a', 'm'])
  | .fraction => some (fractionText m)
  | .fractionGroups point groups =>
    some ((if point then ['.'] else []) ++ fractionDigits m groups)
  | .zoneName => some (zoneText m.zone)
  | .offsetHours => some (offsetSign m.offset :: zeroPadded 2 (m.offset.natAbs / 3600))
  | .offsetMinutes colon => some (offsetInMinutes colon m.offset)
  | .offsetSeconds => some (offsetInSeconds m.offset)
  | .offsetAny => none
  | .internet => some (internetText m)

/-! ## Rendering -/

def Item.render? (m : Moment) : Item → Option (List Char)
  | .verbatim characters => some characters
  | .number field fill => some (field.layout.render fill (field.value m))
  | .text field => field.render? m

end LiveTemplate.Calendar
