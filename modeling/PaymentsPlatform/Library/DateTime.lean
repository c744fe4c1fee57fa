import Mathlib.Tactic.Ring

/-!
# Readings of a UTC clock

`isoformat` writes the fields of a reading at fixed widths and omits the
microseconds when there are none; `fromIsoformat` reads such a text back, so
two readings with one text are one reading.
-/

/-- The number of days of a month of the Gregorian calendar. -/
def monthLength (year month : Nat) : Nat :=
  if month = 2 then
    if year % 4 = 0 ∧ (year % 100 ≠ 0 ∨ year % 400 = 0) then 29 else 28
  else if month ∈ [4, 6, 9, 11] then 30
  else 31

/-- The fields that a clock shows, from the epoch to the last year of four digits. -/
def IsDateTime (year month day hour minute second microsecond : Nat) : Prop :=
  (1970 ≤ year ∧ year ≤ 9999) ∧ (1 ≤ month ∧ month ≤ 12) ∧
    (1 ≤ day ∧ day ≤ monthLength year month) ∧ hour < 24 ∧ minute < 60 ∧ second < 60 ∧
    microsecond < 1000000

instance (year month day hour minute second microsecond : Nat) :
    Decidable (IsDateTime year month day hour minute second microsecond) :=
  inferInstanceAs (Decidable (_ ∧ _))

structure DateTime where
  year : Nat
  month : Nat
  day : Nat
  hour : Nat
  minute : Nat
  second : Nat
  microsecond : Nat
  valid : IsDateTime year month day hour minute second microsecond
  deriving DecidableEq

namespace DateTime

/-! ## Digits of fixed width -/

/-- The last digits of a number, as many as the width says. -/
def padded : Nat → Nat → List Char
  | 0, _ => []
  | width + 1, number => Nat.digitChar (number / 10 ^ width % 10) :: padded width number

def readDigits : Nat → Nat → List Char → Option (Nat × List Char)
  | 0, number, rest => some (number, rest)
  | _ + 1, _, [] => none
  | width + 1, number, digit :: rest =>
      if digit.isDigit then readDigits width (number * 10 + (digit.toNat - 48)) rest else none

theorem digitChar_isDigit {digit : Nat} (small : digit < 10) :
    (Nat.digitChar digit).isDigit = true := by
  revert digit
  decide

theorem digitChar_value {digit : Nat} (small : digit < 10) :
    (Nat.digitChar digit).toNat - 48 = digit := by
  revert digit
  decide

theorem readDigits_padded (width number before : Nat) (rest : List Char) :
    readDigits width before (padded width number ++ rest) =
      some (before * 10 ^ width + number % 10 ^ width, rest) := by
  induction width generalizing before with
  | zero => simp [readDigits, padded, Nat.mod_one]
  | succ width ih =>
      have small : number / 10 ^ width % 10 < 10 := Nat.mod_lt _ (by decide)
      simp only [padded, List.cons_append, readDigits, digitChar_isDigit small,
        digitChar_value small, if_true, ih, Option.some.injEq, Prod.mk.injEq,
        and_true]
      rw [Nat.mod_pow_succ]
      ring

theorem readDigits_of_lt {width number : Nat} (fits : number < 10 ^ width) (rest : List Char) :
    readDigits width 0 (padded width number ++ rest) = some (number, rest) := by
  rw [readDigits_padded, Nat.mod_eq_of_lt fits, Nat.zero_mul, Nat.zero_add]

theorem isDigit_of_mem_padded {width number : Nat} {c : Char} (mem : c ∈ padded width number) :
    c.isDigit = true := by
  induction width with
  | zero => simp [padded] at mem
  | succ width ih =>
      simp only [padded, List.mem_cons] at mem
      rcases mem with
        rfl | later
      · exact digitChar_isDigit (Nat.mod_lt _ (by decide))
      · exact ih later

/-! ## The text of a reading -/

/-- The fraction of a second, omitted when it is zero. -/
def fraction (microsecond : Nat) : List Char :=
  if microsecond = 0 then [] else '.' :: padded 6 microsecond

def isoChars (time : DateTime) : List Char :=
  padded 4 time.year ++ '-' :: (padded 2 time.month ++ '-' :: (padded 2 time.day ++
    'T' :: (padded 2 time.hour ++ ':' :: (padded 2 time.minute ++ ':' :: (padded 2 time.second ++
      (fraction time.microsecond ++ ['+', '0', '0', ':', '0', '0']))))))

/-- `datetime.isoformat` of an aware reading in UTC. -/
def isoformat (time : DateTime) : String := String.ofList time.isoChars

def expect (c : Char) : List Char → Option (List Char)
  | first :: rest => if first = c then some rest else none
  | [] => none

def readFraction : List Char → Option (Nat × List Char)
  | '.' :: rest => readDigits 6 0 rest
  | rest => some (0, rest)

/-- `datetime.fromisoformat`, of texts in UTC. -/
def fromIsoformat (text : String) : Option DateTime := do
  let (year, rest) ← readDigits 4 0 text.toList
  let (month, rest) ← readDigits 2 0 (← expect '-' rest)
  let (day, rest) ← readDigits 2 0 (← expect '-' rest)
  let (hour, rest) ← readDigits 2 0 (← expect 'T' rest)
  let (minute, rest) ← readDigits 2 0 (← expect ':' rest)
  let (second, rest) ← readDigits 2 0 (← expect ':' rest)
  let (microsecond, rest) ← readFraction rest
  if rest = ['+', '0', '0', ':', '0', '0'] then
    if valid : IsDateTime year month day hour minute second microsecond then
      some ⟨year, month, day, hour, minute, second, microsecond, valid⟩
    else none
  else none

theorem readFraction_fraction {microsecond : Nat} (fits : microsecond < 1000000)
    (rest : List Char) (undotted : rest.head? ≠ some '.') :
    readFraction (fraction microsecond ++ rest) = some (microsecond, rest) := by
  unfold fraction
  split
  next zero =>
    cases rest with
    | nil => simp [readFraction, zero]
    | cons c rest =>
        have different : c ≠ '.' := by simpa using undotted
        simp [readFraction, zero, different]
  next => exact readDigits_of_lt (by omega) rest

theorem monthLength_le (year month : Nat) : monthLength year month ≤ 31 := by
  unfold monthLength
  split
  · split <;> omega
  · split <;> omega

theorem fromIsoformat_isoformat (time : DateTime) : fromIsoformat time.isoformat = some time := by
  obtain ⟨year, month, day, hour, minute, second, microsecond, valid⟩ := time
  have short := monthLength_le year month
  obtain ⟨⟨-, lastYear⟩, ⟨-, lastMonth⟩, ⟨-, lastDay⟩, lastHour, lastMinute, lastSecond,
    lastMicrosecond⟩ := id valid
  have readFields := readFraction_fraction lastMicrosecond ['+', '0', '0', ':', '0', '0'] (by simp)
  unfold fromIsoformat isoformat isoChars
  simp only [String.toList_ofList]
  rw [readDigits_of_lt (by omega)]
  simp only [bind, Option.bind, expect, if_true]
  rw [readDigits_of_lt (by omega)]
  simp only [if_true]
  rw [readDigits_of_lt (by omega)]
  simp only [if_true]
  rw [readDigits_of_lt (by omega)]
  simp only [if_true]
  rw [readDigits_of_lt (by omega)]
  simp only [if_true]
  rw [readDigits_of_lt (by omega)]
  simp only [readFields, if_true, valid, dif_pos]

theorem isoformat_injective {time other : DateTime} (same : time.isoformat = other.isoformat) :
    time = other := by
  have read := congrArg fromIsoformat same
  rw [fromIsoformat_isoformat, fromIsoformat_isoformat] at read
  exact Option.some.inj read

theorem mem_isoChars {time : DateTime} {c : Char} (mem : c ∈ time.isoChars) :
    c.isDigit = true ∨ c ∈ ['-', 'T', ':', '.', '+'] := by
  have digit {width number : Nat} : c ∈ padded width number → c.isDigit = true :=
    isDigit_of_mem_padded
  have fractional : c ∈ fraction time.microsecond → c.isDigit = true ∨ c = '.' := by
    intro inFraction
    unfold fraction at inFraction
    split at inFraction
    next => simp at inFraction
    next =>
      rcases List.mem_cons.mp inFraction with
        rfl | later
      · exact .inr rfl
      · exact .inl (digit later)
  have zone : c ∈ ['+', '0', '0', ':', '0', '0'] → c.isDigit = true ∨ c = '+' ∨ c = ':' := by
    simp only [List.mem_cons, List.not_mem_nil, or_false]
    rintro (rfl | rfl | rfl | rfl | rfl | rfl) <;> decide
  simp only [isoChars, List.mem_append, List.mem_cons] at mem
  simp only [List.mem_cons, List.not_mem_nil, or_false] at zone ⊢
  grind

end DateTime
