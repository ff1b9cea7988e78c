import AlbListener.Json.Printer
import AlbListener.Json.Reader
import AlbListener.Proofs.Json

/-!
# Reading written strings and numbers

A string and an integer are read back as they were written. What a double is written as is read as
one double, up to its end; which one that is, is not said here.

A character beyond the basic plane is written as two surrogates, which are joined again when they
are read. A number is read up to the first character that cannot continue it, so it has to be known
what comes behind a value (`Ends`).

Results:
* `scanString_stringChars`: strings are read back.
* `scanScalar?_intChars`: integers are read back.
* `numberText_layout`: doubles are written as numbers.
* `exists_rereadDouble`: doubles are read as one double.
-/

namespace AlbListener.Json

variable {c : Char} {rest : List Char}

/-! ## Strings -/

/-- The UTF-16 units of a character. -/
def unitsOf (c : Char) : List ℕ :=
  if c.toNat < 0x10000 then [c.toNat]
  else [0xD800 + (c.toNat - 0x10000) / 0x400, 0xDC00 + (c.toNat - 0x10000) % 0x400]

theorem toNat_lt (c : Char) : c.toNat < 0x110000 := by
  rcases c.valid with h | ⟨-, h⟩
  · have : c.toNat < 0xD800 := h
    omega
  · exact h

theorem not_surrogate (c : Char) : c.toNat < 0xD800 ∨ 0xE000 ≤ c.toNat := by
  rcases c.valid with h | ⟨h, -⟩
  · exact .inl h
  · exact .inr h

theorem unitsOf_of_lt (h : c.toNat < 0x10000) : unitsOf c = [c.toNat] := if_pos h

/-- What is escaped with one letter is read as one unit. -/
theorem scanUnits_letter {e : Char} (h : escaped? e = some c) (hc : c.toNat < 0x10000)
    (opened : ℕ) (rest : List Char) :
    scanUnits opened ('\\' :: e :: rest) = (unitsOf c).foldr prepend (scanUnits opened rest) := by
  have hu : e ≠ 'u' := by
    rintro rfl
    cases h
  rw [unitsOf_of_lt hc, scanUnits, h]
  · rfl
  · rintro _ _ _ _ _ rfl
    exact absurd rfl hu
  · exact hu

/-- A unit that is written in hexadecimal is read back. -/
theorem scanUnits_escapeUnit {n : ℕ} (h : n < 0x10000) (opened : ℕ) (hrest : rest ≠ []) :
    scanUnits opened (escapeUnit n ++ rest) = prepend n (scanUnits opened rest) := by
  have hhex := Text.hexValueOf?_fixedHex4 h
  have hempty : rest.isEmpty = false := by simpa using hrest
  have hdigits : ∃ a b c d, Text.fixedHex 4 n = [a, b, c, d] := ⟨_, _, _, _, rfl⟩
  obtain ⟨a, b, c, d, hdigits⟩ := hdigits
  rw [hdigits] at hhex
  rw [escapeUnit, hdigits]
  show scanUnits opened ('\\' :: 'u' :: a :: b :: c :: d :: rest) = _
  rw [scanUnits, hhex]
  simp only [hempty, Bool.false_eq_true, if_false]

/-- A character that is written is read as its units. -/
theorem scanUnits_escape (c : Char) (opened : ℕ) (hrest : rest ≠ []) :
    scanUnits opened (escape c ++ rest) = (unitsOf c).foldr prepend (scanUnits opened rest) := by
  unfold escape
  split_ifs with h1 h2 h3 h4 h5 h6 h7 hplain hbasic
  · rw [h1]; exact scanUnits_letter rfl (by decide) opened rest
  · rw [h2]; exact scanUnits_letter rfl (by decide) opened rest
  · rw [h3]; exact scanUnits_letter rfl (by decide) opened rest
  · rw [h4]; exact scanUnits_letter rfl (by decide) opened rest
  · rw [h5]; exact scanUnits_letter rfl (by decide) opened rest
  · rw [h6]; exact scanUnits_letter rfl (by decide) opened rest
  · rw [h7]; exact scanUnits_letter rfl (by decide) opened rest
  · -- a printable character stands for itself
    rw [unitsOf_of_lt (by omega), List.singleton_append, scanUnits, if_neg (by omega)]
    · rfl
    · exact h1
    · rintro _ _ _ _ _ rfl
      exact absurd rfl h2
    · rintro _ rfl
      exact absurd rfl h2
    · rintro rfl
      exact absurd rfl h2
    · rintro _ _ rfl
      exact absurd rfl h2
  · rw [unitsOf_of_lt hbasic, scanUnits_escapeUnit hbasic opened hrest]
    rfl
  · have := toNat_lt c
    rw [List.append_assoc, scanUnits_escapeUnit (by omega) opened (by simp [escapeUnit]),
      scanUnits_escapeUnit (by omega) opened hrest, unitsOf, if_neg hbasic]
    rfl

theorem scanUnits_flatMap_escape (cs : List Char) (opened : ℕ) (rest : List Char) :
    scanUnits opened (cs.flatMap escape ++ '"' :: rest) = .ok (cs.flatMap unitsOf, rest) := by
  have hprepend (units more : List ℕ) :
      units.foldr prepend (.ok (more, rest)) = .ok (units ++ more, rest) := by
    induction units with
    | nil => rfl
    | cons n units ih => rw [List.foldr_cons, ih]; rfl
  induction cs with
  | nil => rw [List.flatMap_nil, List.nil_append, scanUnits]; rfl
  | cons c cs ih =>
    rw [List.flatMap_cons, List.append_assoc, scanUnits_escape c opened (by simp), ih, hprepend]
    rfl

theorem joinUnits_cons {n : ℕ} (h : n < 0xD800 ∨ 0xDC00 ≤ n) (units : List ℕ) :
    joinUnits (n :: units) = joinUnits.single n :: joinUnits units := by
  cases units with
  | nil => rfl
  | cons m units => rw [joinUnits, if_neg (by omega)]

theorem single_toNat (c : Char) : joinUnits.single c.toNat = c := by
  have := not_surrogate c
  rw [joinUnits.single, if_neg (by omega), Char.ofNat_toNat]

/-- The units of characters are joined to these characters. -/
theorem joinUnits_flatMap_unitsOf (cs : List Char) : joinUnits (cs.flatMap unitsOf) = cs := by
  induction cs with
  | nil => rfl
  | cons c cs ih =>
    rw [List.flatMap_cons, unitsOf]
    split_ifs with hbasic
    · have := not_surrogate c
      rw [List.singleton_append, joinUnits_cons (by omega), single_toNat, ih]
    · have := toNat_lt c
      have hsum : 0x10000 + (0xD800 + (c.toNat - 0x10000) / 0x400 - 0xD800) * 0x400 +
          (0xDC00 + (c.toNat - 0x10000) % 0x400 - 0xDC00) = c.toNat := by omega
      rw [List.cons_append, List.singleton_append, joinUnits, if_pos (by omega), ih, hsum,
        Char.ofNat_toNat]

/-- A string that is written is read back. -/
theorem scanString_stringChars (s : String) (rest : List Char) :
    scanString (s.toList.flatMap escape ++ '"' :: rest) = .ok (s, rest) := by
  rw [scanString, scanUnits_flatMap_escape]
  show Except.ok (String.ofList (joinUnits (s.toList.flatMap unitsOf)), rest) = _
  rw [joinUnits_flatMap_unitsOf, String.ofList_toList]

/-! ## Digits -/

/-- Whether a text ends the number in front of it. -/
def Ends (rest : List Char) : Prop :=
  ∀ c ∈ rest.head?, c.isDigit = false ∧ c ≠ '.' ∧ c ≠ 'e' ∧ c ≠ 'E'

theorem ends_nil : Ends [] := nofun

theorem ends_cons {c : Char} (h : c.isDigit = false ∧ c ≠ '.' ∧ c ≠ 'e' ∧ c ≠ 'E')
    (rest : List Char) : Ends (c :: rest) := by
  intro d hd
  cases hd
  exact h

/-- Whether a text ends the digits in front of it. -/
def EndsDigits (rest : List Char) : Prop := ∀ c ∈ rest.head?, c.isDigit = false

theorem Ends.digits (h : Ends rest) : EndsDigits rest := fun c hc => (h c hc).1

theorem endsDigits_cons {c : Char} (h : c.isDigit = false) (rest : List Char) :
    EndsDigits (c :: rest) := by
  intro d hd
  cases hd
  exact h

theorem isDigit_of_mem_toDigits {n : ℕ} {c : Char} (h : c ∈ Nat.toDigits 10 n) :
    c.isDigit = true := Nat.isDigit_of_mem_toDigits (by decide) (by decide) h

theorem spanDigits_append {digits : List Char} (hd : ∀ c ∈ digits, c.isDigit = true)
    (h : EndsDigits rest) : spanDigits (digits ++ rest) = (digits, rest) := by
  have hspan : rest.takeWhile Char.isDigit = [] ∧ rest.dropWhile Char.isDigit = rest := by
    cases rest with
    | nil => exact ⟨rfl, rfl⟩
    | cons c rest =>
      have hc := h c rfl
      exact ⟨by rw [List.takeWhile_cons_of_neg (by simp [hc])],
        by rw [List.dropWhile_cons_of_neg (by simp [hc])]⟩
  rw [spanDigits, List.takeWhile_append_of_pos hd, List.dropWhile_append_of_pos hd, hspan.1,
    hspan.2, List.append_nil]

/-- Only zero is written with a zero in front. -/
theorem toDigits_cases (n : ℕ) :
    n = 0 ∨ ∃ c rest, Nat.toDigits 10 n = c :: rest ∧ c ≠ '0' ∧ c.isDigit = true := by
  induction n using Nat.strongRecOn with
  | ind n ih =>
    rcases Nat.eq_zero_or_pos n with hzero | hpos
    · exact .inl hzero
    · refine .inr ?_
      rw [Nat.toDigits_eq_if (by decide)]
      split_ifs with hlt
      · have hdigit : ∀ d < 10, 0 < d → d.digitChar ≠ '0' ∧ d.digitChar.isDigit = true := by decide
        exact ⟨n.digitChar, [], rfl, hdigit n hlt hpos⟩
      · obtain hzero | ⟨c, rest, hdigits, hc⟩ := ih (n / 10) (by omega)
        · omega
        · exact ⟨c, rest ++ [(n % 10).digitChar], by rw [hdigits]; rfl, hc⟩

/-! ## The parts of a number -/

/-- The digits before the point: a zero alone, or digits that do not begin with a zero. -/
inductive Whole : List Char → Prop
  | zero : Whole ['0']
  | digits {c : Char} {more : List Char} (hc : c ≠ '0') (hd : ∀ d ∈ c :: more, d.isDigit = true) :
      Whole (c :: more)

/-- The point and the digits behind it, if there are any. -/
inductive Fraction : List Char → Prop
  | none : Fraction []
  | digits {digits : List Char} (hne : digits ≠ []) (hd : ∀ d ∈ digits, d.isDigit = true) :
      Fraction ('.' :: digits)

/-- The letter, the sign and the digits of an exponent, if there is one. -/
inductive Power : List Char → Prop
  | none : Power []
  | digits {sign : Char} {digits : List Char} (hs : sign = '+' ∨ sign = '-') (hne : digits ≠ [])
      (hd : ∀ d ∈ digits, d.isDigit = true) : Power ('e' :: sign :: digits)

theorem whole_toDigits (n : ℕ) : Whole (Nat.toDigits 10 n) := by
  obtain rfl | ⟨c, more, hdigits, hc, -⟩ := toDigits_cases n
  · exact .zero
  · have hd : ∀ d ∈ Nat.toDigits 10 n, d.isDigit = true := fun d => isDigit_of_mem_toDigits
    rw [hdigits] at hd ⊢
    exact .digits hc hd

theorem isDigit_of_mem_zero : ∀ d ∈ ['0'], d.isDigit = true := by
  intro d hd
  rw [List.mem_singleton.mp hd]
  rfl

theorem Whole.isDigit {whole : List Char} (h : Whole whole) : ∀ d ∈ whole, d.isDigit = true := by
  cases h with
  | zero => exact isDigit_of_mem_zero
  | digits _ hd => exact hd

/-- The first digits before the point could stand alone. -/
theorem Whole.take {whole : List Char} (h : Whole whole) (count : ℕ) :
    Whole (whole.take (count + 1)) := by
  cases h with
  | zero =>
    rw [List.take_succ_cons, List.take_nil]
    exact .zero
  | digits hc hd =>
    rw [List.take_succ_cons]
    refine .digits hc fun d hm => hd d ?_
    rcases List.mem_cons.mp hm with rfl | hm
    · exact List.mem_cons_self
    · exact List.mem_cons_of_mem _ (List.mem_of_mem_take hm)

/-- A number begins with a digit. -/
theorem Whole.exists_cons {whole : List Char} (h : Whole whole) :
    ∃ c more, whole = c :: more ∧ c.isDigit = true := by
  cases h with
  | zero => exact ⟨_, _, rfl, rfl⟩
  | digits _ hd => exact ⟨_, _, rfl, hd _ List.mem_cons_self⟩

theorem scanWhole?_append {whole : List Char} (h : Whole whole) (hr : EndsDigits rest) :
    scanWhole? (whole ++ rest) = some (whole, rest) := by
  cases h with
  | zero => rfl
  | digits hc hd =>
    have hspan := spanDigits_append hd hr
    rw [List.cons_append] at hspan ⊢
    rw [scanWhole?, if_pos (hd _ List.mem_cons_self), hspan]
    exact hc

theorem scanFraction_of_no_point (h : rest.head? ≠ some '.') : scanFraction rest = ([], rest) := by
  cases rest with
  | nil => rfl
  | cons c rest =>
    rw [scanFraction]
    rintro _ hc
    cases hc
    exact h rfl

theorem scanExponent_of_ends (h : Ends rest) : scanExponent rest = (none, rest) := by
  cases rest with
  | nil => rfl
  | cons c rest => exact if_neg (not_or.mpr (h c rfl).2.2)

theorem Fraction.scan {fraction : List Char} (h : Fraction fraction) :
    ∃ digits, (fraction ≠ [] → digits ≠ []) ∧ ∀ rest, EndsDigits rest → rest.head? ≠ some '.' →
      scanFraction (fraction ++ rest) = (digits, rest) := by
  cases h with
  | none => exact ⟨[], absurd rfl, fun rest _ hp => scanFraction_of_no_point hp⟩
  | @digits digits hne hd =>
    refine ⟨digits, fun _ => hne, fun rest hr _ => ?_⟩
    rw [List.cons_append, scanFraction, spanDigits_append hd hr]
    cases digits with
    | nil => exact absurd rfl hne
    | cons _ _ => rfl

theorem Power.scan {power : List Char} (h : Power power) :
    ∃ exponent, (power ≠ [] → exponent ≠ Option.none) ∧
      ∀ rest, Ends rest → scanExponent (power ++ rest) = (exponent, rest) := by
  cases h with
  | none => exact ⟨Option.none, absurd rfl, fun rest hr => scanExponent_of_ends hr⟩
  | @digits sign digits hs hne hd =>
    obtain ⟨d, more, rfl⟩ := List.exists_cons_of_ne_nil hne
    refine ⟨some (if sign = '-' then -(Nat.ofDigitChars 10 (d :: more) 0 : Int)
      else Nat.ofDigitChars 10 (d :: more) 0), fun _ => nofun, fun rest hr => ?_⟩
    have hspan := spanDigits_append hd hr.digits
    rw [List.cons_append] at hspan
    rcases hs with rfl | rfl <;> simp [scanExponent, hspan]

/-- A text whose parts are those of a number with a point or an exponent. -/
def NumberText (cs : List Char) : Prop :=
  ∃ whole fraction power, Whole whole ∧ Fraction fraction ∧ Power power ∧
    (fraction ≠ [] ∨ power ≠ []) ∧ cs = whole ++ (fraction ++ power)

/-- Such a text is read as one double, whatever comes behind it. -/
theorem scanUnsigned?_numberText {cs : List Char} (h : NumberText cs) (negative : Bool) :
    ∃ x, ∀ rest, Ends rest →
      scanUnsigned? negative (cs ++ rest) = some (.float x, rest) := by
  obtain ⟨whole, fraction, power, hw, hf, hp, hne, rfl⟩ := h
  obtain ⟨digits, hsome, hdigits⟩ := hf.scan
  obtain ⟨exponent, hsome', hexponent⟩ := hp.scan
  have hdouble : (digits.isEmpty && exponent.isNone) = false := by
    rcases hne with hne | hne
    · simp [hsome hne]
    · simp [Option.isSome_iff_ne_none, hsome' hne]
  refine ⟨Binary64.ofDecimal negative (Nat.ofDigitChars 10 (whole ++ digits) 0)
    (exponent.getD 0 - digits.length), fun rest hr => ?_⟩
  have hpower : EndsDigits (power ++ rest) ∧ (power ++ rest).head? ≠ some '.' := by
    cases hp with
    | none =>
      refine ⟨hr.digits, fun hpoint => ?_⟩
      exact (hr '.' hpoint).2.1 rfl
    | digits => exact ⟨endsDigits_cons (by decide) _, nofun⟩
  have hfraction : EndsDigits (fraction ++ (power ++ rest)) := by
    cases hf with
    | none => exact hpower.1
    | digits => exact endsDigits_cons (by decide) _
  rw [List.append_assoc, List.append_assoc, scanUnsigned?, scanWhole?_append hw hfraction]
  simp only [hdigits _ hpower.1 hpower.2, hexponent rest hr, hdouble, Bool.false_eq_true, if_false]

/-! ## Signs -/

/-- Whether a number can begin with a character: with a digit, a sign or the letter of a word. -/
def startsNumber (c : Char) : Bool := c.isDigit || c == '-' || c == 'I' || c == 'N'

theorem startsNumber_of_isDigit (h : c.isDigit = true) : startsNumber c = true := by
  simp [startsNumber, h]

theorem ne_of_startsNumber {d : Char} (h : startsNumber c = true) (hd : startsNumber d = false) :
    c ≠ d := by
  rintro rfl
  cases h.symm.trans hd

theorem scanScalar?_of_isDigit {c : Char} (h : c.isDigit = true) (cs : List Char) :
    scanScalar? (c :: cs) = scanUnsigned? false (c :: cs) := by
  have hne {d : Char} (hd : d.isDigit = false) : c ≠ d := by
    rintro rfl
    cases h.symm.trans hd
  rw [scanScalar?]
  all_goals
    rintro _ he
    injection he with he
    exact hne (by decide) he

theorem scanScalar?_negative {c : Char} (h : c.isDigit = true) (cs : List Char) :
    scanScalar? ('-' :: c :: cs) = scanUnsigned? true (c :: cs) := by
  rw [scanScalar?]
  rintro _ he
  injection he with he
  rw [he] at h
  cases h

/-- A number with or without a sign is read whole. -/
theorem scanScalar?_numberText {cs : List Char} (h : NumberText cs) (negative : Bool) :
    ∃ x, ∀ rest, Ends rest →
      scanScalar? ((if negative then ['-'] else []) ++ cs ++ rest) = some (.float x, rest) := by
  obtain ⟨x, hvalue⟩ := scanUnsigned?_numberText h negative
  obtain ⟨whole, fraction, power, hw, -, -, -, hcs⟩ := h
  obtain ⟨c, more, rfl, hc⟩ := hw.exists_cons
  refine ⟨x, fun rest hr => ?_⟩
  have hscan := hvalue rest hr
  rw [hcs] at hscan ⊢
  cases negative with
  | true => exact (scanScalar?_negative hc _).trans hscan
  | false => exact (scanScalar?_of_isDigit hc _).trans hscan

/-! ## Integers -/

theorem scanUnsigned?_toDigits (negative : Bool) (n : ℕ) (h : Ends rest) :
    scanUnsigned? negative (Nat.toDigits 10 n ++ rest) =
      some (.int (if negative then -(n : Int) else n), rest) := by
  have hpoint : rest.head? ≠ some '.' := fun hpoint => (h '.' hpoint).2.1 rfl
  rw [scanUnsigned?, scanWhole?_append (whole_toDigits n) h.digits]
  simp only [scanFraction_of_no_point hpoint, scanExponent_of_ends h, List.isEmpty_nil,
    Option.isNone_none, Bool.and_self, if_true,
    Nat.ofDigitChars_toDigits (show 1 < 10 by decide) (show 10 ≤ 10 by decide)]

theorem exists_intChars (n : Int) :
    ∃ c more, Text.intChars n = c :: more ∧ startsNumber c = true := by
  rw [Text.intChars]
  split_ifs
  · exact ⟨'-', _, rfl, rfl⟩
  · obtain ⟨c, more, hdigits, hc⟩ := (whole_toDigits n.natAbs).exists_cons
    exact ⟨c, more, hdigits, startsNumber_of_isDigit hc⟩

/-- An integer that is written is read back. -/
theorem scanScalar?_intChars (n : Int) (h : Ends rest) :
    scanScalar? (Text.intChars n ++ rest) = some (.int n, rest) := by
  have hscan (negative : Bool) := scanUnsigned?_toDigits negative n.natAbs h
  obtain ⟨c, more, hdigits, hc⟩ := (whole_toDigits n.natAbs).exists_cons
  rw [Text.intChars, hdigits]
  rw [hdigits, List.cons_append] at hscan
  split_ifs with hneg
  · rw [List.cons_append, List.cons_append, scanScalar?_negative hc, hscan, if_pos rfl]
    congr 3
    omega
  · rw [List.cons_append, scanScalar?_of_isDigit hc, hscan, if_neg (by decide)]
    congr 3
    omega

/-! ## Doubles -/

/-- What has no digits is not scaled up. -/
def Decimal.Reduced (d : Decimal) : Prop := d.digits = 0 → d.exponent ≤ 0

theorem digits_reduceWithin (fuel : ℕ) {d : Decimal} (h : d.digits ≠ 0) :
    (Decimal.reduceWithin fuel d).digits ≠ 0 := by
  induction fuel generalizing d with
  | zero => exact h
  | succ fuel ih =>
    rw [Decimal.reduceWithin]
    split_ifs with hten
    · exact ih (by simp only; omega)
    · exact h

theorem reduced_reduce (d : Decimal) : Decimal.Reduced d.reduce := by
  unfold Decimal.reduce
  split_ifs with h
  · exact fun _ => Int.le_refl 0
  · exact fun hd => absurd hd (digits_reduceWithin _ h)

theorem reduced_shortest (significand exponent : ℕ) :
    Decimal.Reduced (Binary64.shortest significand exponent) := by
  unfold Binary64.shortest
  split
  · exact fun _ => Int.le_refl 0
  · dsimp only
    split
    · exact reduced_reduce _
    · exact fun _ => Int.le_refl 0

theorem power_exponentText (e : Int) : Power ('e' :: (Binary64.exponentText e).toList) := by
  have hdigits : ∀ c ∈ (Text.natText e.natAbs).toList, c.isDigit = true := by
    rw [Text.natText, String.toList_ofList]
    exact fun c => isDigit_of_mem_toDigits
  have hne : (Text.natText e.natAbs).toList ≠ [] := by
    rw [Text.natText, String.toList_ofList]
    exact Nat.toDigits_ne_nil
  have hsign : ∃ sign, (sign = '+' ∨ sign = '-') ∧
      (if e < 0 then "-" else "+").toList = [sign] := by
    split_ifs
    · exact ⟨'-', .inr rfl, rfl⟩
    · exact ⟨'+', .inl rfl, rfl⟩
  have hpadded : ∃ digits, (if (Text.natText e.natAbs).length < 2 then "0" ++ Text.natText e.natAbs
      else Text.natText e.natAbs).toList = digits ∧ digits ≠ [] ∧
      ∀ c ∈ digits, c.isDigit = true := by
    split_ifs
    · exact ⟨'0' :: (Text.natText e.natAbs).toList, by rw [String.toList_append]; rfl,
        List.cons_ne_nil _ _, List.forall_mem_cons.mpr ⟨rfl, hdigits⟩⟩
    · exact ⟨_, rfl, hne, hdigits⟩
  obtain ⟨sign, hs, hsign⟩ := hsign
  obtain ⟨digits, hpadded, hne, hd⟩ := hpadded
  rw [Binary64.exponentText, String.toList_append, hsign, hpadded]
  exact .digits hs hne hd

theorem fraction_of_digits {digits : List Char} (h : ∀ c ∈ digits, c.isDigit = true) :
    Fraction (if digits.isEmpty then [] else '.' :: digits) := by
  split_ifs with he
  · exact .none
  · exact .digits (by simpa using he) h

/-- Digits that do not begin with a zero can be followed by zeros. -/
theorem Whole.append_zeros {whole : List Char} (h : Whole whole) {count : ℕ}
    (hz : whole = ['0'] → count = 0) : Whole (whole ++ List.replicate count '0') := by
  cases h with
  | zero =>
    rw [hz rfl, List.replicate_zero, List.append_nil]
    exact .zero
  | digits hc hd =>
    refine .digits hc fun c hm => ?_
    rcases List.mem_append.mp ((List.cons_append ▸ hm : c ∈ (_ :: _) ++ _)) with hm | hm
    · exact hd c hm
    · rw [List.eq_of_mem_replicate hm]
      rfl

theorem digits_eq_zero_of_toDigits {n : ℕ} (h : Nat.toDigits 10 n = ['0']) : n = 0 := by
  rcases toDigits_cases n with hn | ⟨c, more, hdigits, hc, -⟩
  · exact hn
  · rw [hdigits] at h
    injection h with h
    exact absurd h hc

/-- A decimal is written as a number. -/
theorem numberText_layout {d : Decimal} (h : Decimal.Reduced d) :
    NumberText (Binary64.shortestLayout.text d).toList := by
  have hwhole := whole_toDigits d.digits
  have hdigits := hwhole.isDigit
  have hzero : Nat.toDigits 10 d.digits = ['0'] → d.exponent ≤ 0 := fun hd =>
    h (digits_eq_zero_of_toDigits hd)
  rw [Binary64.Layout.text]
  generalize Nat.toDigits 10 d.digits = digits at hwhole hdigits hzero
  obtain ⟨first, more, hne, -⟩ := hwhole.exists_cons
  have hlength : digits.length = more.length + 1 := by rw [hne, List.length_cons]
  dsimp only
  by_cases hscientific : d.exponent + digits.length - 1 < Binary64.shortestLayout.first ∨
      Binary64.shortestLayout.last ≤ d.exponent + digits.length - 1
  · -- one digit before the point, and an exponent
    rw [if_pos hscientific]
    refine ⟨digits.take 1, if (digits.drop 1).isEmpty then [] else '.' :: digits.drop 1, _,
      hwhole.take 0, fraction_of_digits fun c hc => hdigits c (List.mem_of_mem_drop hc),
      power_exponentText (d.exponent + digits.length - 1), .inr (List.cons_ne_nil _ _), ?_⟩
    rw [String.toList_append, String.toList_append, String.toList_ofList, List.append_assoc,
      List.append_assoc]
    rfl
  rw [if_neg hscientific]
  by_cases hsmall : d.exponent + digits.length ≤ 0
  · -- zeros between the point and the digits
    rw [if_pos hsmall]
    refine ⟨['0'], '.' :: (List.replicate (-(d.exponent + digits.length)).toNat '0' ++ digits), [],
      .zero, .digits (by simp [hne]) fun c hc => ?_, .none, .inl (List.cons_ne_nil _ _), ?_⟩
    · rcases List.mem_append.mp hc with hc | hc
      · rw [List.eq_of_mem_replicate hc]
        rfl
      · exact hdigits c hc
    · rw [String.toList_append, String.toList_ofList, String.toList_ofList, List.append_nil]
      rfl
  rw [if_neg hsmall]
  by_cases hlarge : digits.length ≤ (d.exponent + digits.length).toNat
  · -- zeros up to the point
    rw [if_pos hlarge]
    refine ⟨digits ++ List.replicate ((d.exponent + digits.length).toNat - digits.length) '0',
      ['.', '0'], [], hwhole.append_zeros fun hz => ?_,
      .digits (List.cons_ne_nil _ _) isDigit_of_mem_zero, .none, .inl (List.cons_ne_nil _ _), ?_⟩
    · have := hzero hz
      omega
    · rw [String.toList_append, String.toList_ofList]
      rfl
  · -- the point among the digits
    rw [if_neg hlarge]
    obtain ⟨count, hcount⟩ : ∃ count, (d.exponent + digits.length).toNat = count + 1 :=
      ⟨(d.exponent + digits.length).toNat - 1, by omega⟩
    rw [hcount] at hlarge ⊢
    refine ⟨digits.take (count + 1), '.' :: digits.drop (count + 1), [], hwhole.take count,
      .digits (fun hnil => ?_) fun c hc => hdigits c (List.mem_of_mem_drop hc), .none,
      .inl (List.cons_ne_nil _ _), ?_⟩
    · exact hlarge (List.drop_eq_nil_iff.mp hnil)
    · simp only [String.toList_append, String.toList_ofList, List.append_assoc, List.append_nil]
      rfl

/-- A double is read as one double. -/
theorem exists_scanScalar?_jsonText (x : Binary64) :
    ∃ y, ∀ rest, Ends rest → scanScalar? (x.jsonText.toList ++ rest) = some (.float y, rest) := by
  cases x with
  | nan => exact ⟨_, fun rest _ => rfl⟩
  | infinite negative => cases negative <;> exact ⟨_, fun rest _ => rfl⟩
  | finite negative significand exponent =>
    obtain ⟨y, hvalue⟩ := scanScalar?_numberText
      (numberText_layout (reduced_shortest significand exponent)) negative
    refine ⟨y, fun rest hr => ?_⟩
    rw [Binary64.jsonText, Binary64.textWith, String.toList_append, ← hvalue rest hr]
    cases negative <;> rfl

/-- The number that a double is read as. -/
def rereadDouble (x : Binary64) : Json :=
  match scanScalar? x.jsonText.toList with
  | some (value, _) => value
  | none => .float x

theorem exists_rereadDouble (x : Binary64) :
    ∃ y, rereadDouble x = .float y ∧
      ∀ rest, Ends rest → scanScalar? (x.jsonText.toList ++ rest) = some (.float y, rest) := by
  obtain ⟨y, hvalue⟩ := exists_scanScalar?_jsonText x
  have hself := hvalue [] ends_nil
  rw [List.append_nil] at hself
  exact ⟨y, by rw [rereadDouble, hself], hvalue⟩

/-- A double begins as a number does. -/
theorem exists_jsonText (x : Binary64) :
    ∃ c more, x.jsonText.toList = c :: more ∧ startsNumber c = true := by
  cases x with
  | nan => exact ⟨_, _, rfl, rfl⟩
  | infinite negative => cases negative <;> exact ⟨_, _, rfl, rfl⟩
  | finite negative significand exponent =>
    obtain ⟨whole, fraction, power, hw, -, -, -, htext⟩ :=
      numberText_layout (reduced_shortest significand exponent)
    obtain ⟨c, more, rfl, hc⟩ := hw.exists_cons
    rw [Binary64.jsonText, Binary64.textWith, String.toList_append, htext]
    cases negative with
    | true => exact ⟨'-', _, rfl, rfl⟩
    | false => exact ⟨c, _, rfl, startsNumber_of_isDigit hc⟩

end AlbListener.Json
