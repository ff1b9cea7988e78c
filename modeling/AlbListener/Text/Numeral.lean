import AlbListener.Text.Blank
import AlbListener.Text.Digit

/-!
# Decimal numerals

An integer is written in ASCII digits with a minus sign if it is negative. It is read more
freely: blanks may stand around it, a sign in front, single underscores between digits, and
the digits may be of any script. A numeral of more than 4300 digits is not read, however, and
neither is one written.

Results:
* `natural?_toDigits`, `readInt?_intText`: what is written is read back.
-/

namespace AlbListener.Text

/-- The decimal numeral of a natural number. -/
def natText (n : Nat) : String := String.ofList (Nat.toDigits 10 n)

/-- The characters of the decimal numeral of an integer. -/
def intChars (n : Int) : List Char :=
  if n < 0 then '-' :: Nat.toDigits 10 n.natAbs else Nat.toDigits 10 n.natAbs

/-- The decimal numeral of an integer. -/
def intText (n : Int) : String := String.ofList (intChars n)

/-- Whether a character may stand around a numeral: any blank but the information
    separators. -/
def isMargin (c : Char) : Bool := isBlank c && !(28 ≤ c.toNat && c.toNat ≤ 31)

/-- The characters of a text without the margins of a numeral. -/
def trimMargins (s : String) : List Char :=
  ((s.toList.dropWhile isMargin).reverse.dropWhile isMargin).reverse

/-- The number that the remaining digits and underscores continue. -/
def continueNatural? (n : Nat) : List Char → Option Nat
  | [] => some n
  | '_' :: c :: rest => (decimalValue? c).bind fun d => continueNatural? (10 * n + d) rest
  | c :: rest => (decimalValue? c).bind fun d => continueNatural? (10 * n + d) rest

/-- The number that digits with single underscores between them stand for. -/
def natural? : List Char → Option Nat
  | [] => none
  | c :: rest => (decimalValue? c).bind fun d => continueNatural? d rest

/-- The integer that digits with a sign or without stand for. -/
def integer? : List Char → Option Int
  | '-' :: rest => (natural? rest).map fun (n : Nat) => -(n : Int)
  | '+' :: rest => (natural? rest).map Int.ofNat
  | rest => (natural? rest).map Int.ofNat

/-! ## Numerals of many digits -/

/-- The most digits that a decimal numeral may have. -/
def digitLimit : Nat := 4300

/-- How many digits stand in front, if no underscore among them is without a digit behind it. -/
def leadingDigits? : List Char → Option Nat
  | [] => some 0
  | ['_'] => none
  | '_' :: c :: rest =>
    if (decimalValue? c).isSome then (leadingDigits? rest).map (· + 1) else none
  | c :: rest => if (decimalValue? c).isSome then (leadingDigits? rest).map (· + 1) else some 0

/-- The characters without a sign in front. -/
def dropSign : List Char → List Char
  | '-' :: rest => rest
  | '+' :: rest => rest
  | cs => cs

/-- How many digits a text begins with, if they are more than a numeral may have. They are
    counted before it is known whether what follows them belongs to a numeral. -/
def tooManyDigits? (s : String) : Option Nat :=
  match dropSign (trimMargins s) with
  | '_' :: _ => none
  | cs => (leadingDigits? cs).filter (digitLimit < ·)

/-- The integer that a text stands for (`int`). -/
def readInt? (s : String) : Option Int :=
  if (tooManyDigits? s).isSome then none else integer? (trimMargins s)

/-! ## Written numerals are read back -/

theorem decimalValue?_digitChar : ∀ d < 10, decimalValue? d.digitChar = some d := by decide

theorem continueNatural?_cons {c : Char} {d : Nat} (h : decimalValue? c = some d) (n : Nat)
    (rest : List Char) : continueNatural? n (c :: rest) = continueNatural? (10 * n + d) rest := by
  have hc : c ≠ '_' := by
    rintro rfl
    exact absurd (h.symm.trans (by decide : decimalValue? '_' = none)) (by simp)
  rw [continueNatural?]
  · simp [h]
  · rintro _ _ rfl; exact absurd rfl hc

theorem continueNatural?_append (n : Nat) {cs : List Char} (rest : List Char)
    (h : ∀ c ∈ cs, (decimalValue? c).isSome) :
    continueNatural? n (cs ++ rest) = (continueNatural? n cs).bind fun m => continueNatural? m rest := by
  induction cs generalizing n with
  | nil => simp [continueNatural?]
  | cons c cs ih =>
    obtain ⟨d, hd⟩ := Option.isSome_iff_exists.mp (h c (by simp))
    rw [List.cons_append, continueNatural?_cons hd, continueNatural?_cons hd,
      ih _ fun c hc => h c (by simp [hc])]

theorem isSome_decimalValue?_toDigits {n : Nat} {c : Char} (h : c ∈ Nat.toDigits 10 n) :
    (decimalValue? c).isSome = true := by
  have hd := Nat.isDigit_of_mem_toDigits (by decide) (by decide) h
  simp only [Char.isDigit, Bool.and_eq_true, decide_eq_true_eq, UInt32.le_iff_toNat_le] at hd
  have h1 : 48 ≤ c.toNat := hd.1
  have h2 : c.toNat ≤ 57 := hd.2
  simp [decimalValue?, decimalZeros, h1, h2]

theorem natural?_toDigits (n : Nat) : natural? (Nat.toDigits 10 n) = some n := by
  induction n using Nat.strongRecOn with
  | ind n ih =>
    rw [Nat.toDigits_eq_if (by decide)]
    split
    case isTrue h => simp [natural?, decimalValue?_digitChar n h, continueNatural?]
    case isFalse h =>
      have ih := ih (n / 10) (by omega)
      have hd := decimalValue?_digitChar (n % 10) (by omega)
      cases hs : Nat.toDigits 10 (n / 10) with
      | nil => rw [hs] at ih; exact absurd ih (by simp [natural?])
      | cons c rest =>
        rw [hs] at ih
        have hr : ∀ d ∈ rest, (decimalValue? d).isSome := fun d hd =>
          isSome_decimalValue?_toDigits (n := n / 10) (by simp [hs, hd])
        rw [natural?] at ih
        obtain ⟨d, hc, hrest⟩ := Option.bind_eq_some_iff.mp ih
        rw [List.cons_append, natural?, hc, Option.bind_some, continueNatural?_append _ _ hr,
          hrest, Option.bind_some, continueNatural?_cons hd, continueNatural?]
        congr 1; omega

theorem dropWhile_of_forall {p : Char → Bool} {cs : List Char} (h : ∀ c ∈ cs, p c = false) :
    cs.dropWhile p = cs := by
  cases cs with
  | nil => rfl
  | cons c rest => simp [h c (by simp)]

theorem trimMargins_of_forall {cs : List Char} (h : ∀ c ∈ cs, isMargin c = false) :
    trimMargins (String.ofList cs) = cs := by
  have hr : ∀ c ∈ cs.reverse, isMargin c = false := fun c hc => h c (by simpa using hc)
  simp only [trimMargins, String.toList_ofList]
  rw [dropWhile_of_forall h, dropWhile_of_forall hr, List.reverse_reverse]

theorem isBlank_of_mem_intChars {n : Int} {c : Char} (h : c ∈ intChars n) :
    isBlank c = false := by
  have digit (hc : c ∈ Nat.toDigits 10 n.natAbs) : isBlank c = false := by
    have hd := Nat.isDigit_of_mem_toDigits (by decide) (by decide) hc
    simp only [Char.isDigit, Bool.and_eq_true, decide_eq_true_eq, UInt32.le_iff_toNat_le] at hd
    have h1 : 48 ≤ c.toNat := hd.1
    have h2 : c.toNat ≤ 57 := hd.2
    simp only [isBlank, Bool.and_eq_false_iff, Bool.or_eq_false_iff, decide_eq_false_iff_not,
      beq_eq_false_iff_ne]
    omega
  unfold intChars at h
  split at h
  · rcases List.mem_cons.mp h with rfl | h
    · decide
    · exact digit h
  · exact digit h

theorem isMargin_of_mem_intChars {n : Int} {c : Char} (h : c ∈ intChars n) :
    isMargin c = false := by
  rw [isMargin, isBlank_of_mem_intChars h, Bool.false_and]

theorem integer?_intChars (n : Int) : integer? (intChars n) = some n := by
  unfold intChars
  split
  case isTrue h =>
    rw [integer?, natural?_toDigits, Option.map_some]
    congr 1; omega
  case isFalse h =>
    have hn := natural?_toDigits n.natAbs
    rw [integer?, hn, Option.map_some]
    · simp only [Int.ofNat_eq_natCast]
      congr 1; omega
    · intro rest e
      rw [e] at hn
      exact absurd hn (by simp [natural?, show decimalValue? '-' = none by decide])
    · intro rest e
      rw [e] at hn
      exact absurd hn (by simp [natural?, show decimalValue? '+' = none by decide])

/-! ## How many digits there are -/

theorem leadingDigits?_cons {c : Char} (h : (decimalValue? c).isSome = true) (rest : List Char) :
    leadingDigits? (c :: rest) = (leadingDigits? rest).map (· + 1) := by
  have hc : c ≠ '_' := by
    rintro rfl
    exact absurd h (by decide)
  rw [leadingDigits?, if_pos h]
  · rintro rfl
    exact fun _ => hc rfl
  · rintro _ _ rfl
    exact absurd rfl hc

/-- Decimal digits are all counted. -/
theorem leadingDigits?_of_decimal {cs : List Char} (h : ∀ c ∈ cs, (decimalValue? c).isSome) :
    leadingDigits? cs = some cs.length := by
  induction cs with
  | nil => rfl
  | cons c rest ih =>
    obtain ⟨hc, hrest⟩ := List.forall_mem_cons.mp h
    rw [leadingDigits?_cons hc, ih hrest]
    rfl

/-- The number of digits of the decimal numeral of an integer. -/
def digitCount (n : Int) : Nat := (Nat.toDigits 10 n.natAbs).length

theorem dropSign_intChars (n : Int) : dropSign (intChars n) = Nat.toDigits 10 n.natAbs := by
  unfold intChars
  split
  case isTrue => rfl
  case isFalse =>
    have hdigit {c : Char} (h : c ∈ Nat.toDigits 10 n.natAbs) := isSome_decimalValue?_toDigits h
    unfold dropSign
    split
    case h_1 rest e => exact absurd (hdigit (e ▸ List.mem_cons_self)) (by decide)
    case h_2 rest e => exact absurd (hdigit (e ▸ List.mem_cons_self)) (by decide)
    case h_3 => rfl

/-- The digits of a numeral that is written are too many exactly if there are more than the
    limit. -/
theorem tooManyDigits?_intText (n : Int) :
    tooManyDigits? (intText n) = (some (digitCount n)).filter (digitLimit < ·) := by
  have hdigits := leadingDigits?_of_decimal fun c hc =>
    isSome_decimalValue?_toDigits (n := n.natAbs) hc
  rw [tooManyDigits?, intText, trimMargins_of_forall fun c hc => isMargin_of_mem_intChars hc,
    dropSign_intChars, digitCount]
  split
  case h_1 rest e =>
    exact absurd (isSome_decimalValue?_toDigits (n := n.natAbs) (e ▸ List.mem_cons_self))
      (by decide)
  case h_2 => rw [hdigits]

theorem readInt?_intText {n : Int} (h : digitCount n ≤ digitLimit) :
    readInt? (intText n) = some n := by
  have hfew : tooManyDigits? (intText n) = none := by
    rw [tooManyDigits?_intText, Option.filter_some, if_neg (by simpa using h)]
  rw [readInt?, hfew, if_neg (by simp), intText,
    trimMargins_of_forall fun c hc => isMargin_of_mem_intChars hc, integer?_intChars]

end AlbListener.Text
