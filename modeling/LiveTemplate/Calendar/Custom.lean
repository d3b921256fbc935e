import LiveTemplate.Calendar.Moment
import LiveTemplate.Text.Padded

/-!
# Custom date patterns

A custom pattern is a sequence of tokens. Text between quotes and a character behind a backslash
stand for themselves; a quote that is never closed runs to the end, and a backslash at the end
stands for nothing. Anything else is read as maximal runs of one character: a run of a token letter
is a field, whose form depends on the length of the run, and any other run stands for itself.
-/

namespace LiveTemplate.Calendar

open Text

/-! ## Tokens -/

inductive Token where
  | verbatim (text : List Char)
  | run (letter : Char) (length : Nat)
  deriving DecidableEq, Repr

def tokens (pattern : List Char) : List Token :=
  match pattern with
  | [] => []
  | '\\' :: [] => []
  | '\\' :: c :: rest => .verbatim [c] :: tokens rest
  | c :: rest =>
    if c = '\'' ∨ c = '"' then
      .verbatim (rest.takeWhile (· != c)) :: tokens (rest.dropWhile (· != c)).tail
    else .run c ((rest.takeWhile (· == c)).length + 1) :: tokens (rest.dropWhile (· == c))
termination_by pattern.length
decreasing_by
  · simp only [List.length_cons]
    omega
  · have := (List.dropWhile_sublist (l := rest) (· != c)).length_le
    simp only [List.length_tail, List.length_cons]
    omega
  · have := (List.dropWhile_sublist (l := rest) (· == c)).length_le
    simp only [List.length_cons]
    omega

/-! ## Fields -/

/-- A number of two digits, or unpadded for a single letter. -/
def field (value run : Nat) : List Char :=
  if run = 1 then decimal value else zeroPadded 2 value

def yearField (year : Int) (run : Nat) : List Char :=
  if run ≤ 2 then field (year % 100).toNat run else paddedInt .zero run false year

/-- The month, by number or by name. -/
def monthField (date : Date) (run : Nat) : List Char :=
  if run ≤ 2 then field date.month run
  else if run = 3 then shortName date.monthName else date.monthName

/-- The day, by number within the month or by the name of the weekday. -/
def dayField (date : Date) (run : Nat) : List Char :=
  if run ≤ 2 then field date.day run
  else if run = 3 then shortName date.weekdayName else date.weekdayName

/-- The first digits of the fraction of a second, at most nine. -/
def fractionField (nanoseconds run : Nat) : List Char :=
  let size := min run 9
  zeroPadded size (nanoseconds / Nat.pow 10 (9 - size))

/-- The half of the day. -/
def halfField (isAfternoon : Bool) (run : Nat) : List Char :=
  let marker := if isAfternoon then ['P', 'M'] else ['A', 'M']
  if run = 1 then marker.take 1 else marker

/-- The offset of the zone, in hours or in hours and minutes. -/
def offsetField (offset : Int) (run : Nat) : List Char :=
  let sign := if offset < 0 then '-' else '+'
  let hours := offset.natAbs / 3600
  let minutes := offset.natAbs % 3600 / 60
  if run ≤ 2 then sign :: field hours run
  else sign :: zeroPadded 2 hours ++ ':' :: zeroPadded 2 minutes

/-! ## Rendering -/

def Token.render (m : Moment) : Token → List Char
  | .verbatim text => text
  | .run letter length =>
    if letter = 'y' then yearField m.date.year length
    else if letter = 'M' then monthField m.date length
    else if letter = 'd' then dayField m.date length
    else if letter = 'H' then field m.hour length
    else if letter = 'h' then field m.hourOnDial length
    else if letter = 'm' then field m.minute length
    else if letter = 's' then field m.second length
    else if letter = 'f' then fractionField m.fraction length
    else if letter = 't' then halfField m.isAfternoon length
    else if letter = 'z' then offsetField m.offset length
    else List.replicate length letter

def formatCustom (m : Moment) (pattern : List Char) : List Char :=
  (tokens pattern).flatMap (Token.render m)

end LiveTemplate.Calendar
