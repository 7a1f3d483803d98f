import RequestFilter.Proofs.DoubleTexts

/-! # Texts for patterns

The text that a value gives to a pattern, said for each kind of value
(`Value.ShownAs`).  A double gives the decimal that shows it.  A date shows its
year, month and day in digits (`Date.Shows`), and a timestamp goes on with the
time of the day, as much of a fraction of a second as is needed, and its offset
(`Timestamp.Shows`).
-/

namespace RequestFilter

/-- A text is a number in digits, as many as a given width. -/
structure Number.Fills (n width : Nat) (text : List Char) : Prop where
  length : text.length = width
  decimal : ∀ c ∈ text, c.isDigit = true
  value : Number.placeValue text = n

section Numbers

namespace Number

theorem fills_padded {n width : Nat} (wide : 0 < width) (fits : n < 10 ^ width) :
    Fills n width (padded width n).toList := by
  have short : (Nat.toDigits 10 n).length ≤ width :=
    (Nat.length_toDigits_le_iff (by decide) wide).mpr fits
  unfold padded
  rw [String.toList_ofList]
  constructor
  · rw [List.length_append, List.length_replicate]
    omega
  · intro c member
    rcases List.mem_append.mp member with zero | digit
    · rw [List.eq_of_mem_replicate zero]
      decide
    · exact Nat.isDigit_of_mem_toDigits (by decide) (by decide) digit
  · rw [placeValue_zeros_append, placeValue_toDigits]

/-- A text goes on with zeros after the last character that is none. -/
theorem exists_eq_append_zeros (text : List Char) :
    ∃ count, text = (text.reverse.dropWhile (· = '0')).reverse ++ List.replicate count '0' := by
  have zeros : text.reverse.takeWhile (· = '0') =
      List.replicate (text.reverse.takeWhile (· = '0')).length '0' :=
    List.eq_replicate_of_mem fun c member => by simpa using List.mem_takeWhile_imp member
  refine ⟨(text.reverse.takeWhile (· = '0')).length, ?_⟩
  rw [← List.reverse_replicate, ← zeros, ← List.reverse_append, List.takeWhile_append_dropWhile,
    List.reverse_reverse]

end Number

end Numbers

/-- A date shows its year in four digits, after a minus sign before year 0, and its month and its
day in two digits each. -/
inductive Date.Shows (date : Date) : List Char → Prop
  | parts {sign year month day : List Char} (signed : sign = if date.year < 0 then ['-'] else [])
      (years : Number.Fills date.year.natAbs 4 year) (months : Number.Fills date.month 2 month)
      (days : Number.Fills date.day 2 day) :
      Shows date (sign ++ year ++ '-' :: month ++ '-' :: day)

theorem daysInMonth_le (year : Int) (month : Nat) : daysInMonth year month ≤ 31 := by
  unfold daysInMonth
  split_ifs <;> decide

theorem Date.shows_text (date : Date) : date.Shows date.text.toList := by
  have days := date.day_range.2.trans (daysInMonth_le date.year date.month)
  have months := date.month_range.2
  have years := date.year_range
  have whole : date.text.toList = (if date.year < 0 then ['-'] else []) ++
      (Number.padded 4 date.year.natAbs).toList ++ '-' :: (Number.padded 2 date.month).toList ++
        '-' :: (Number.padded 2 date.day).toList := by
    unfold text
    split <;> simp
  rw [whole]
  exact .parts rfl (Number.fills_padded (by decide) (by omega))
    (Number.fills_padded (by decide) (by omega)) (Number.fills_padded (by decide) (by omega))

namespace Timestamp

/-- A fraction of a second shows its digits up to the last that is not zero. -/
inductive ShowsFraction (nanosecond : Nat) : List Char → Prop
  | none (whole : nanosecond = 0) : ShowsFraction nanosecond []
  | digits {front : List Char} {last : Char} (decimal : ∀ c ∈ front ++ [last], c.isDigit = true)
      (needed : last ≠ '0') {zeros : Nat} (places : (front ++ [last]).length + zeros = 9)
      (value : Number.placeValue (front ++ [last]) * 10 ^ zeros = nanosecond) :
      ShowsFraction nanosecond ('.' :: (front ++ [last]))

/-- An offset shows its hours and minutes on their side of universal time. -/
inductive ShowsOffset (offset : Int) : List Char → Prop
  | universal (zero : offset = 0) : ShowsOffset offset ['Z']
  | minutes {sign : Char} {hour minute : Nat} {hours minutes : List Char} (nonzero : offset ≠ 0)
      (signed : sign = if offset < 0 then '-' else '+')
      (value : offset.natAbs = 60 * (60 * hour + minute)) (within : minute < 60)
      (hoursFill : Number.Fills hour 2 hours) (minutesFill : Number.Fills minute 2 minutes) :
      ShowsOffset offset (sign :: (hours ++ ':' :: minutes))

/-- A timestamp, from year 0 on, shows its date, its time of the day and its offset. -/
inductive Shows (time : Timestamp) : List Char → Prop
  | parts {date hour minute second fraction offset : List Char} (era : 0 ≤ time.date.year)
      (dated : time.date.Shows date) (hours : Number.Fills time.hour 2 hour)
      (minutes : Number.Fills time.minute 2 minute) (seconds : Number.Fills time.second 2 second)
      (fractions : ShowsFraction time.nanosecond fraction)
      (offsets : ShowsOffset time.offset offset) :
      Shows time (date ++ 'T' :: hour ++ ':' :: minute ++ ':' :: second ++ fraction ++ offset)

theorem showsFraction_fractionDigits {nanosecond : Nat} (below : nanosecond < 1000000000) :
    ShowsFraction nanosecond
      (if fractionDigits nanosecond = [] then [] else '.' :: fractionDigits nanosecond) := by
  have fills : Number.Fills nanosecond 9 (Number.padded 9 nanosecond).toList :=
    Number.fills_padded (by decide) below
  unfold fractionDigits
  generalize (Number.padded 9 nanosecond).toList = digits at fills ⊢
  obtain ⟨zeros, split⟩ := Number.exists_eq_append_zeros digits
  cases shown : digits.reverse.dropWhile (· = '0') with
  | nil =>
      rw [shown, List.reverse_nil] at split
      refine .none ?_
      rw [← fills.value, split, Number.placeValue_append_zeros]
      exact Nat.zero_mul _
  | cons last front =>
      have nonzero := List.head?_dropWhile_not (· = '0') digits.reverse
      rw [shown] at nonzero
      rw [shown, List.reverse_cons] at split
      rw [List.reverse_cons, if_neg (List.append_ne_nil_of_right_ne_nil _ (List.cons_ne_nil _ _))]
      have decimal : ∀ c ∈ front.reverse ++ [last], c.isDigit = true := fun c member =>
        fills.decimal c (split ▸ List.mem_append_left _ member)
      have places : (front.reverse ++ [last]).length + zeros = 9 := by
        have lengths := congrArg List.length split
        rw [fills.length, List.length_append, List.length_replicate] at lengths
        exact lengths.symm
      have value : Number.placeValue (front.reverse ++ [last]) * 10 ^ zeros = nanosecond := by
        rw [← fills.value, split, Number.placeValue_append_zeros]
      exact .digits decimal (by simpa using nonzero) places value

theorem showsOffset_offsetMinutes {offset : Int} (nonzero : offset ≠ 0)
    (below : offset.natAbs < 24 * 3600) (whole : offset.natAbs % 60 = 0) :
    ShowsOffset offset (offsetSign offset ++ offsetMinutes offset).toList := by
  have signed : (offsetSign offset).toList = [if offset < 0 then '-' else '+'] := by
    unfold offsetSign
    split <;> rfl
  have text : (offsetSign offset ++ offsetMinutes offset).toList =
      (if offset < 0 then '-' else '+') :: ((Number.padded 2 (offset.natAbs / 3600)).toList ++
        ':' :: (Number.padded 2 (offset.natAbs / 60 % 60)).toList) := by
    rw [String.toList_append, signed]
    simp [offsetMinutes]
  rw [text]
  exact .minutes nonzero rfl (by omega) (by omega) (Number.fills_padded (by decide) (by omega))
    (Number.fills_padded (by decide) (by omega))

/-- The internet form shows a timestamp. -/
theorem shows_of_internetText? {time : Timestamp} {text : String}
    (written : time.internetText? = some text) : time.Shows text.toList := by
  unfold internetText? at written
  split at written
  · rename_i has
    obtain rfl := Option.some.inj written
    have fraction := showsFraction_fractionDigits time.nanosecond_lt
    have offset : ShowsOffset time.offset (if time.offset = 0 then "Z"
        else offsetSign time.offset ++ offsetMinutes time.offset).toList := by
      split
      · rename_i zero
        exact .universal zero
      · rename_i nonzero
        exact showsOffset_offsetMinutes nonzero has.2.1 has.2.2
    have hour := time.hour_lt
    have minute := time.minute_lt
    have second := time.second_lt
    have shows := Shows.parts has.1 time.date.shows_text
      (Number.fills_padded (by decide) (by omega)) (Number.fills_padded (by decide) (by omega))
      (Number.fills_padded (by decide) (by omega)) fraction offset
    convert shows using 1
    simp only [String.toList_append]
    split <;> simp
  · cases written

end Timestamp

/-- The text that a value shows in a pattern. -/
inductive Value.ShownAs : Value → String → Prop
  | text (text : String) : ShownAs (.text text) text
  | integer (value : Int64) : ShownAs (.integer value) (toString value.toInt)
  | double {value : Double} {text : String} (written : text = value.text .plain)
      (shows : value.Shows text.toList) : ShownAs (.double value) text
  | bool (value : Bool) : ShownAs (.bool value) (if value then "true" else "false")
  | date {date : Date} {text : String} (shows : date.Shows text.toList) : ShownAs (.date date) text
  | timestamp {time : Timestamp} {text : String} (shows : time.Shows text.toList) :
      ShownAs (.timestamp time) text

theorem Value.shownAs_of_patternText? {value : Value} {text : String}
    (shown : value.patternText? = some text) : value.ShownAs text := by
  cases value with
  | text value =>
      cases shown
      exact .text text
  | integer value =>
      cases shown
      exact .integer value
  | double value =>
      cases shown
      exact .double rfl value.shows_text
  | bool value =>
      cases shown
      exact .bool value
  | date value =>
      cases shown
      exact .date value.shows_text
  | timestamp value => exact .timestamp (Timestamp.shows_of_internetText? shown)
  | null | list items | order directive => cases shown

end RequestFilter
