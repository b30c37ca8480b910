import Mathlib.Data.List.TakeWhile
import RecordSql.Calendar.Pattern

/-!
# Dates and times read back

A pattern reads what it wrote. Each piece takes its own text off the front of a longer one, if what
follows cannot be taken for more of it, and leaves its numbers; so a pattern does whose pieces stop
where they should. What a pattern does not name is lost, and nothing else.

* `Piece.read_write`: one piece reads its own text in front of another.
* `Pattern.readParts_write`: so do the pieces of a pattern, one after the other.
* `Parts.toDateTime?_of`: the numbers of a date and time name it.
* `Pattern.read_spaced`, `Pattern.read_joined`, `Pattern.read_date`, `Pattern.read_document`: what
  comes back of a date and time.
-/

namespace RecordSql

/-! ## What comes back -/

/-- The second without its fraction. A leap second stays one. -/
def Time.truncated (t : Time) : Time where
  hour := t.hour
  minute := t.minute
  second := t.second
  nano := if nanosPerSecond ≤ t.nano then nanosPerSecond else 0
  isTime := by
    obtain ⟨hhour, hminute, hsecond, -, hleap⟩ := t.isTime
    refine ⟨hhour, hminute, hsecond, ?_⟩
    split
    · exact ⟨by decide, fun _ => hleap ‹_›⟩
    · exact ⟨by decide, fun h => absurd h (by decide)⟩

/-- The date and time without the fraction of the second. -/
def DateTime.truncated (t : DateTime) : DateTime := ⟨t.date, t.time.truncated⟩

theorem Time.shownSecond_truncated (t : Time) : t.truncated.shownSecond = t.shownSecond := by
  by_cases h : nanosPerSecond ≤ t.nano
  · simp only [shownSecond, truncated, if_pos h, Nat.le_refl, if_true]
  · simp only [shownSecond, truncated, if_neg h]
    rw [if_neg (by decide)]

theorem Time.shownNano_truncated (t : Time) : t.truncated.shownNano = 0 := by
  by_cases h : nanosPerSecond ≤ t.nano
  · simp only [shownNano, truncated, if_pos h, Nat.mod_self]
  · simp only [shownNano, truncated, if_neg h, Nat.zero_mod]

/-! ## Fields and their bounds -/

theorem Date.of?_self (d : Date) : Date.of? d.year d.month d.day = some d :=
  dif_pos d.isDate

theorem Time.of?_self (t : Time) : Time.of? t.hour t.minute t.second t.nano = some t :=
  dif_pos t.isTime

theorem Time.shownSecond_eq_sixty_iff (t : Time) :
    t.shownSecond = 60 ↔ nanosPerSecond ≤ t.nano := by
  obtain ⟨-, -, hsecond, -, hleap⟩ := t.isTime
  rw [Time.shownSecond]
  split
  · have := hleap ‹_›
    omega
  · omega

/-- A leap second is read as the second before it and a whole second of nanoseconds. -/
theorem Time.of?_leap {t : Time} (h : t.shownSecond = 60) :
    Time.of? t.hour t.minute 59 (nanosPerSecond + t.shownNano) = some t := by
  obtain ⟨-, -, -, hlt, hsecond⟩ := t.isTime
  have hleap := t.shownSecond_eq_sixty_iff.mp h
  have hnano : nanosPerSecond + t.shownNano = t.nano := by
    rw [Time.shownNano, Nat.mod_eq_sub_mod hleap, Nat.mod_eq_of_lt (by omega)]
    omega
  rw [hnano, ← hsecond hleap]
  exact t.of?_self

theorem Time.of?_shown {t : Time} (h : t.shownSecond ≠ 60) :
    Time.of? t.hour t.minute t.shownSecond t.shownNano = some t := by
  have hplain := mt t.shownSecond_eq_sixty_iff.mpr h
  rw [Time.shownSecond, if_neg hplain, Time.shownNano, Nat.mod_eq_of_lt (Nat.not_le.mp hplain)]
  exact t.of?_self

theorem Time.shownSecond_le (t : Time) : t.shownSecond ≤ 60 := by
  obtain ⟨-, -, hsecond, -⟩ := t.isTime
  unfold Time.shownSecond
  split <;> omega

theorem Date.day_le (d : Date) : d.day ≤ 31 := by
  obtain ⟨-, -, -, -, -, hday⟩ := d.isDate
  refine hday.trans ?_
  unfold daysInMonth
  split
  · split <;> decide
  all_goals decide

namespace Calendar

open Numeral Text

/-- The numbers of a date and time, as they are shown. -/
def Parts.of (t : DateTime) : Parts where
  year := t.date.year
  month := t.date.month
  day := t.date.day
  hour := t.time.hour
  minute := t.time.minute
  second := t.time.shownSecond
  nano := t.time.shownNano

theorem Parts.of_truncated (t : DateTime) : of t.truncated = { of t with nano := 0 } := by
  rw [of, DateTime.truncated, Time.shownSecond_truncated, Time.shownNano_truncated]
  rfl

theorem Parts.toDateTime?_of (t : DateTime) : (Parts.of t).toDateTime? = some t := by
  have hdate : Date.of? (of t).year (of t).month (of t).day = some t.date := t.date.of?_self
  simp only [toDateTime?, hdate, Option.bind_eq_bind, Option.bind_some]
  by_cases h : (of t).second = 60
  · have htime : Time.of? (of t).hour (of t).minute 59 (nanosPerSecond + (of t).nano) =
        some t.time := Time.of?_leap h
    rw [if_pos h, htime]
    rfl
  · have htime : Time.of? (of t).hour (of t).minute (of t).second (of t).nano = some t.time :=
      Time.of?_shown h
    rw [if_neg h, htime]
    rfl

/-! ## Numbers in front of a text -/

section Digits

variable {ds rest : List Char}

theorem isBlank_of_isDigit {c : Char} (h : c.isDigit = true) : isBlank c = false := by
  have hdigit : 48 ≤ c.toNat ∧ c.toNat ≤ 57 := by
    simpa [Char.isDigit, UInt32.le_iff_toNat_le] using h
  unfold isBlank
  simp
  omega

theorem takeWhile_of_head? {kind : Char → Bool} (h : ∀ c ∈ rest.head?, kind c = false) :
    rest.takeWhile kind = [] := by
  cases rest with
  | nil => rfl
  | cons c rest => exact List.takeWhile_cons_of_neg (by simp [h c rfl])

theorem dropWhile_of_head? {kind : Char → Bool} (h : ∀ c ∈ rest.head?, kind c = false) :
    rest.dropWhile kind = rest := by
  cases rest with
  | nil => rfl
  | cons c rest => exact List.dropWhile_cons_of_neg (by simp [h c rfl])

/-- The digits in front of a text are read as they are if the limit ends them, or if the text does
    and the limit lets them through. -/
theorem readDigits_append {limit : Option Nat} (hne : ds ≠ [])
    (hdigits : ∀ c ∈ ds, c.isDigit = true) (hvalue : value ds < Nat.pow 2 63)
    (hends : limit = some ds.length ∨
      (∀ n ∈ limit, ds.length ≤ n) ∧ ∀ c ∈ rest.head?, c.isDigit = false) :
    readDigits limit (ds ++ rest) = .ok (value ds, rest) := by
  have hread :
      ((ds ++ rest).take (limit.getD (ds ++ rest).length)).takeWhile Char.isDigit = ds := by
    obtain rfl | ⟨hlimit, hrest⟩ := hends
    · rw [Option.getD_some, List.take_left, List.takeWhile_eq_self_iff.mpr hdigits]
    · cases limit with
      | none =>
        rw [Option.getD_none, List.take_length, List.takeWhile_append_of_pos hdigits,
          takeWhile_of_head? hrest, List.append_nil]
      | some n =>
        rw [Option.getD_some, List.take_append, List.take_of_length_le (hlimit n rfl),
          List.takeWhile_append_of_pos hdigits, takeWhile_of_head?, List.append_nil]
        intro c hc
        rw [List.head?_take] at hc
        split at hc
        · cases hc
        · exact hrest c hc
  unfold readDigits
  rw [hread]
  dsimp only
  rw [if_neg (by simp [hne]), if_neg hne, if_neg (Nat.not_le.mpr hvalue), List.drop_left]

theorem head?_padded_append {width n : Nat} :
    ∀ c ∈ (padded width n ++ rest).head?, c.isDigit = true := by
  obtain ⟨d, ds, hpadded⟩ := List.exists_cons_of_ne_nil (padded_ne_nil width n)
  intro c hc
  rw [hpadded, List.cons_append, List.head?_cons, Option.mem_some_iff] at hc
  have hmem : c ∈ padded width n := by rw [hpadded, hc]; exact List.mem_cons_self
  exact isDigit_of_mem_padded hmem

theorem skipBlanks_padded_append (width n : Nat) :
    skipBlanks (padded width n ++ rest) = padded width n ++ rest :=
  dropWhile_of_head? fun c hc => isBlank_of_isDigit (head?_padded_append c hc)

theorem readDigits_padded {limit : Option Nat} {width n : Nat} (hvalue : n < Nat.pow 2 63)
    (hends : limit = some (padded width n).length ∨
      (∀ m ∈ limit, (padded width n).length ≤ m) ∧ ∀ c ∈ rest.head?, c.isDigit = false) :
    readDigits limit (padded width n ++ rest) = .ok (n, rest) := by
  rw [readDigits_append (padded_ne_nil width n) (fun _ => isDigit_of_mem_padded)
    (by rwa [value_padded]) hends, value_padded]

theorem readWithin_padded {lo hi n : Nat} (hlo : lo ≤ n) (hhi : n ≤ hi) (hn : n < 100) :
    readWithin lo hi (padded 2 n ++ rest) = .ok (n, rest) := by
  have hlength : (padded 2 n).length = 2 := length_padded (by decide) hn
  have hread : readDigits (some 2) (padded 2 n ++ rest) = .ok (n, rest) :=
    readDigits_padded (hn.trans_le (by decide)) (.inl (by rw [hlength]))
  have hwithin : within lo hi n = .ok n := if_pos ⟨hlo, hhi⟩
  rw [readWithin, hread]
  show (within lo hi n).bind (fun m => .ok (m, rest)) = _
  rw [hwithin]
  rfl

/-! ## Years -/

theorem readYear_of_head? (h : ∀ c ∈ rest.head?, c.isDigit = true) :
    readYear rest = (readDigits (some 4) rest).map fun r => (Int.ofNat r.1, r.2) := by
  unfold readYear
  split
  · exact absurd (h '-' rfl) (by decide)
  · exact absurd (h '+' rfl) (by decide)
  · rfl

theorem readYear_writeYear {y : Int} (hy : y.natAbs < Nat.pow 2 63)
    (hrest : ∀ c ∈ rest.head?, c.isDigit = false) :
    readYear (writeYear y ++ rest) = .ok (y, rest) := by
  have hread : readDigits none (padded 4 y.natAbs ++ rest) = .ok (y.natAbs, rest) :=
    readDigits_padded hy (.inr ⟨nofun, hrest⟩)
  unfold writeYear
  split
  case isTrue hplain =>
    have hsmall : y.natAbs < 10000 := by omega
    have hlength : (padded 4 y.natAbs).length = 4 := length_padded (by decide) hsmall
    rw [readYear_of_head? head?_padded_append, readDigits_padded hy (.inl (by rw [hlength]))]
    show Except.ok (Int.ofNat y.natAbs, rest) = _
    rw [Int.ofNat_eq_natCast, Int.natAbs_of_nonneg hplain.1]
  case isFalse hsigned =>
    split
    case isTrue hneg =>
      rw [List.cons_append, readYear, hread]
      show Except.ok (-Int.ofNat y.natAbs, rest) = _
      rw [Int.ofNat_eq_natCast, Int.ofNat_natAbs_of_nonpos (Int.le_of_lt hneg), Int.neg_neg]
    case isFalse hpos =>
      rw [List.cons_append, readYear, hread]
      show Except.ok (Int.ofNat y.natAbs, rest) = _
      rw [Int.ofNat_eq_natCast, Int.natAbs_of_nonneg (Int.not_lt.mp hpos)]

theorem head?_writeYear_append {y : Int} :
    ∀ c ∈ (writeYear y ++ rest).head?, isBlank c = false := by
  unfold writeYear
  split
  · exact fun c hc => isBlank_of_isDigit (head?_padded_append c hc)
  · split <;> simp [isBlank]

/-! ## Fractions -/

theorem readFraction_padded {p : Parts} {width n : Nat} (hpos : 0 < width) (hwidth : width ≤ 9)
    (hn : n < Nat.pow 10 width) (hrest : ∀ c ∈ rest.head?, c.isDigit = false) :
    readFraction p ('.' :: padded width n ++ rest) =
      .ok ({ p with nano := n * Nat.pow 10 (9 - width) }, rest) := by
  have hlength : (padded width n).length = width := length_padded hpos hn
  have hvalue : n < Nat.pow 2 63 :=
    hn.trans_le ((Nat.pow_le_pow_right (by decide) hwidth).trans (by decide))
  have hread : readDigits (some 9) (padded width n ++ rest) = .ok (n, rest) :=
    readDigits_padded hvalue (.inr ⟨fun m hm => by cases hm; omega, hrest⟩)
  have hplaces : (padded width n ++ rest).length - rest.length = width := by
    rw [List.length_append, hlength]
    omega
  rw [List.cons_append, readFraction, hread]
  show Except.ok (_, _) = _
  rw [hplaces, dropWhile_of_head? hrest]

theorem readFraction_of_head? {p : Parts} (h : ∀ c ∈ rest.head?, c ≠ '.') :
    readFraction p rest = .ok (p, rest) := by
  unfold readFraction
  split
  · exact absurd rfl (h '.' rfl)
  · rfl

theorem readFraction_writeFraction {p : Parts} {nano : Nat} (hnano : nano < nanosPerSecond)
    (hrest : ∀ c ∈ rest.head?, c.isDigit = false ∧ c ≠ '.') :
    readFraction p (writeFraction nano ++ rest) =
      .ok (if nano = 0 then p else { p with nano := nano }, rest) := by
  have hdigit := fun c hc => (hrest c hc).1
  rw [nanosPerSecond] at hnano
  unfold writeFraction
  split
  case isTrue => exact readFraction_of_head? fun c hc => (hrest c hc).2
  case isFalse =>
    split
    case isTrue hmillis =>
      have hdigits : nano / 1000000 < 1000 := by omega
      have hnano : nano / 1000000 * Nat.pow 10 (9 - 3) = nano :=
        Nat.div_mul_cancel (Nat.dvd_of_mod_eq_zero hmillis)
      rw [readFraction_padded (by decide) (by decide) hdigits hdigit, hnano]
    case isFalse =>
      split
      case isTrue hmicros =>
        have hdigits : nano / 1000 < 1000000 := by omega
        have hnano : nano / 1000 * Nat.pow 10 (9 - 6) = nano :=
          Nat.div_mul_cancel (Nat.dvd_of_mod_eq_zero hmicros)
        rw [readFraction_padded (by decide) (by decide) hdigits hdigit, hnano]
      case isFalse =>
        have hnano' : nano * Nat.pow 10 (9 - 9) = nano := Nat.mul_one nano
        rw [readFraction_padded (by decide) (by decide) hnano hdigit, hnano']

end Digits

/-! ## Pieces -/

/-- What follows cannot be taken for more of the piece. A number of two digits is read to its width,
    but a year with a sign is read as far as there are digits. -/
def Piece.Stops (rest : List Char) : Piece → Prop
  | .part .year => ∀ c ∈ rest.head?, c.isDigit = false
  | .part _ | .mark _ => True
  | .fraction => ∀ c ∈ rest.head?, c.isDigit = false ∧ c ≠ '.'
  | .space | .blanks => ∀ c ∈ rest.head?, isBlank c = false

/-- The numbers read so far with that of a part among them. -/
def DatePart.record (t : DateTime) (p : Parts) : DatePart → Parts
  | .year => { p with year := t.date.year }
  | .month => { p with month := t.date.month }
  | .day => { p with day := t.date.day }
  | .hour => { p with hour := t.time.hour }
  | .minute => { p with minute := t.time.minute }
  | .second => { p with second := t.time.shownSecond }

/-- The numbers read so far with those of a piece among them. -/
def Piece.record (t : DateTime) (p : Parts) : Piece → Parts
  | .part f => f.record t p
  | .fraction => if t.time.shownNano = 0 then p else { p with nano := t.time.shownNano }
  | .mark _ | .space | .blanks => p

theorem DatePart.read_write (t : DateTime) (f : DatePart) {rest : List Char} (p : Parts)
    (h : (Piece.part f).Stops rest) : f.read (f.write t ++ rest) p = .ok (f.record t p, rest) := by
  obtain ⟨hfirst, hlast, hmonth, hmonth', hday, -⟩ := t.date.isDate
  obtain ⟨hhour, hminute, -⟩ := t.time.isTime
  cases f with
  | year =>
    have hyear : t.date.year.natAbs < 300000 := by
      simp only [firstYear, lastYear] at hfirst hlast
      omega
    have hword : Int32.minValue.toInt ≤ t.date.year ∧ t.date.year ≤ Int32.maxValue.toInt :=
      ⟨Int.le_trans (by decide) hfirst, Int.le_trans hlast (by decide)⟩
    have hread : readYear (writeYear t.date.year ++ rest) = .ok (t.date.year, rest) :=
      readYear_writeYear (hyear.trans_le (by decide)) h
    unfold read write
    dsimp only
    rw [skipBlanks, dropWhile_of_head? head?_writeYear_append, hread]
    show (if _ then _ else _) = _
    rw [if_pos hword]
    rfl
  | month =>
    simp only [read, write, skipBlanks_padded_append, readWithin_padded hmonth hmonth' (by omega)]
    rfl
  | day =>
    have hday' := Date.day_le t.date
    simp only [read, write, skipBlanks_padded_append, readWithin_padded hday hday' (by omega)]
    rfl
  | hour =>
    simp only [read, write, skipBlanks_padded_append,
      readWithin_padded (Nat.zero_le _) (Nat.le_of_lt_succ hhour) (by omega)]
    rfl
  | minute =>
    simp only [read, write, skipBlanks_padded_append,
      readWithin_padded (Nat.zero_le _) (Nat.le_of_lt_succ hminute) (by omega)]
    rfl
  | second =>
    have hsecond := Time.shownSecond_le t.time
    simp only [read, write, skipBlanks_padded_append,
      readWithin_padded (Nat.zero_le _) hsecond (by omega)]
    rfl

theorem Piece.read_write (t : DateTime) (piece : Piece) {rest : List Char} (p : Parts)
    (h : piece.Stops rest) :
    piece.read (piece.write t ++ rest) p = .ok (piece.record t p, rest) := by
  cases piece with
  | part f => exact f.read_write t p h
  | fraction => exact readFraction_writeFraction (Nat.mod_lt _ (by decide)) h
  | mark c => simp [read, write, record]
  | space =>
    have hblank : skipBlanks (' ' :: rest) = rest :=
      (List.dropWhile_cons_of_pos (by decide)).trans (dropWhile_of_head? h)
    exact congrArg (fun cs => Except.ok (p, cs)) hblank
  | blanks => exact congrArg (fun cs => Except.ok (p, cs)) (dropWhile_of_head? h)

/-! ## Patterns -/

namespace Pattern

variable {t : DateTime} {rest : List Char}

/-- In a text of the pattern with a rest behind it, every piece stops where its own text does. -/
def Stops (t : DateTime) (rest : List Char) : Pattern → Prop
  | [] => True
  | piece :: pieces => piece.Stops (Pattern.write pieces t ++ rest) ∧ Stops t rest pieces

/-- The numbers read so far with those of all pieces among them. -/
def record (t : DateTime) (pattern : Pattern) (p : Parts) : Parts :=
  pattern.foldl (Piece.record t) p

theorem write_append (pieces others : Pattern) (t : DateTime) :
    write (pieces ++ others) t = write pieces t ++ write others t :=
  List.flatMap_append

theorem readParts_append (pieces others : Pattern) (cs : List Char) (p : Parts) :
    readParts (pieces ++ others) cs p =
      (pieces.readParts cs p).bind fun r => others.readParts r.2 r.1 := by
  induction pieces generalizing cs p with
  | nil => rfl
  | cons piece pieces ih =>
    rw [List.cons_append, readParts, readParts]
    cases piece.read cs p with
    | error e => rfl
    | ok r => exact ih r.2 r.1

theorem readParts_write {pattern : Pattern} (p : Parts) (h : pattern.Stops t rest) :
    pattern.readParts (pattern.write t ++ rest) p = .ok (pattern.record t p, rest) := by
  -- for any numbers read so far, since each piece hands on what it has added
  induction pattern generalizing p with
  | nil => rfl
  | cons piece pieces ih =>
    obtain ⟨hpiece, hpieces⟩ := h
    have hwrite : write (piece :: pieces) t = piece.write t ++ write pieces t := List.flatMap_cons
    rw [hwrite, List.append_assoc, readParts, piece.read_write t p hpiece]
    exact ih (piece.record t p) hpieces

/-- What comes back is the date and time whose numbers the pattern names. -/
theorem read_write {pattern : Pattern} {back : DateTime} (hstops : pattern.Stops t [])
    (hback : pattern.record t {} = Parts.of back) :
    pattern.read (pattern.write t) = .ok back := by
  have hparts := readParts_write {} hstops
  rw [List.append_nil, hback] at hparts
  rw [read, hparts]
  dsimp only
  rw [Parts.toDateTime?_of]

/-! ## The patterns in use -/

theorem stops_append (pieces others : Pattern) :
    Stops t rest (pieces ++ others) ↔
      Stops t (write others t ++ rest) pieces ∧ Stops t rest others := by
  induction pieces with
  | nil => exact (and_iff_right trivial).symm
  | cons piece pieces ih =>
    rw [List.cons_append, Stops, Stops, ih, write_append, List.append_assoc, and_assoc]

theorem stops_date : date.Stops t rest := by
  refine ⟨fun c hc => ?_, trivial, trivial, trivial, trivial, trivial⟩
  -- the year is the one piece of its own width, and the hyphen ends it
  obtain rfl : '-' = c := Option.some.inj hc
  rfl

theorem stops_time : time.Stops t rest :=
  ⟨trivial, trivial, trivial, trivial, trivial, trivial⟩

theorem stops_spaced : spaced.Stops t rest := by
  have hspace : Piece.space.Stops (time.write t ++ rest) := by
    have hwrite : time.write t = padded 2 t.time.hour ++ write time.tail t := List.flatMap_cons
    intro c hc
    rw [hwrite, List.append_assoc] at hc
    exact isBlank_of_isDigit (head?_padded_append c hc)
  exact (stops_append _ _).mpr ⟨stops_date, hspace, stops_time⟩

theorem stops_joined : joined.Stops t rest :=
  (stops_append _ _).mpr ⟨stops_date, trivial, stops_time⟩

/-- Blanks are read before marks and at the end only, and there the pattern writes none. -/
theorem stops_document : document.Stops t [] := by
  simp [document, Stops, Piece.Stops, write, Piece.write, isBlank]

theorem read_spaced (t : DateTime) : spaced.read (spaced.write t) = .ok t.truncated :=
  read_write stops_spaced (Parts.of_truncated t).symm

theorem read_joined (t : DateTime) : joined.read (joined.write t) = .ok t.truncated :=
  read_write stops_joined (Parts.of_truncated t).symm

/-- A date alone comes back as its start. -/
theorem read_date (t : DateTime) : date.read (date.write t) = .ok t.date.start :=
  read_write stops_date rfl

/-- Nothing is lost where the fraction is written. -/
theorem read_document (t : DateTime) : document.read (document.write t) = .ok t := by
  refine read_write stops_document ?_
  have hfraction : ∀ p : Parts, p.nano = 0 →
      Piece.record t p .fraction = { p with nano := t.time.shownNano } := by
    rintro ⟨⟩ rfl
    rw [Piece.record]
    split
    case isTrue hnano => rw [hnano]
    case isFalse => rfl
  exact hfraction _ rfl

/-- Behind a date that was written, a pattern that begins with one reads on. -/
theorem readParts_date_append (others : Pattern) :
    readParts (date ++ others) (date.write t ++ rest) {} =
      others.readParts rest (date.record t {}) := by
  rw [readParts_append, readParts_write {} stops_date]
  rfl

/-- A text with a time joined to the date is none with the time apart. -/
theorem read_spaced_joined (t : DateTime) : spaced.read (joined.write t) = .error .invalid := by
  have hparts : spaced.readParts (joined.write t) {} = .error .invalid := by
    rw [joined, write_append]
    exact readParts_date_append (.space :: time)
  rw [read, hparts]

/-- A date alone is no date and time. -/
theorem read_joined_date (t : DateTime) : joined.read (date.write t) = .error .tooShort := by
  have hparts : joined.readParts (date.write t) {} = .error .tooShort := by
    rw [← List.append_nil (date.write t)]
    exact readParts_date_append (.mark 'T' :: time)
  rw [read, hparts]

end Pattern

end Calendar

end RecordSql
