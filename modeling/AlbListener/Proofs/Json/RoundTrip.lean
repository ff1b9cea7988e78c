import AlbListener.Proofs.Json.Scalars

/-!
# Reading written JSON

A value that is written, on one line or over several, is read back as it was, but for doubles, which
are read as the numbers that their texts stand for, and for members whose name comes again
(`reread`). A value that holds no doubles and whose members have distinct names is read back as it
was. A reader that has limits has to be given a value that `fits` them.

Results:
* `scanValue_chars`: what is read of a value that is written, whatever comes behind it.
* `readWithin_render_eq`: what is read of a text.
* `readWithin_render`, `read_renderIndented_line`: values without doubles are read back.
* `readWithin_render_int`: an integer of too many digits is not.
* `strip_render_obj`: the text of an object has no blanks around it.
-/

namespace AlbListener.Json

variable {c : Char} {rest : List Char} {level : Option ℕ} {fuel : ℕ} {limits inside : Limits}

/-! ## Blanks -/

theorem skipBlanks_append {blanks : List Char}
    (h : ∀ c ∈ blanks, c = ' ' ∨ c = '\n') (rest : List Char) :
    skipBlanks (blanks ++ rest) = skipBlanks rest := by
  refine List.dropWhile_append_of_pos fun c hc => ?_
  rcases h c hc with rfl | rfl <;> rfl

theorem skipBlanks_lineBreak (level : Option ℕ) (rest : List Char) :
    skipBlanks (lineBreak level ++ rest) = skipBlanks rest := by
  refine skipBlanks_append (fun c hc => ?_) rest
  cases level with
  | none => cases hc
  | some n =>
    rcases List.mem_cons.mp hc with rfl | hc
    · exact .inr rfl
    · exact .inl (List.eq_of_mem_replicate hc)

theorem exists_separator (level : Option ℕ) :
    ∃ gap, separator level = ',' :: gap ∧ ∀ rest, skipBlanks (gap ++ rest) = skipBlanks rest := by
  cases level with
  | none => exact ⟨[' '], rfl, fun rest => rfl⟩
  | some n => exact ⟨lineBreak (some n), rfl, skipBlanks_lineBreak (some n)⟩

theorem ends_lineBreak (level : Option ℕ) {c : Char}
    (h : c.isDigit = false ∧ c ≠ '.' ∧ c ≠ 'e' ∧ c ≠ 'E') (rest : List Char) :
    Ends (lineBreak level ++ c :: rest) := by
  cases level with
  | none => exact ends_cons h rest
  | some n => exact ends_cons (by decide) _

/-! ## Values -/

mutual

/-- What is read of a value that is written. -/
def reread : Json → Json
  | .float x => rereadDouble x
  | .arr elements => .arr (rereadAll elements)
  | .obj members => .obj (Entries.ofPairs (rereadMembers members))
  | value => value

/-- What is read of elements. -/
def rereadAll : List Json → List Json
  | [] => []
  | element :: rest => reread element :: rereadAll rest

/-- What is read of members. -/
def rereadMembers : List (String × Json) → List (String × Json)
  | [] => []
  | (name, value) :: rest => (name, reread value) :: rereadMembers rest

end

theorem rereadAll_eq_map (elements : List Json) : rereadAll elements = elements.map reread := by
  induction elements with
  | nil => rfl
  | cons element rest ih => rw [rereadAll, ih, List.map_cons]

theorem rereadMembers_eq_map (members : List (String × Json)) :
    rereadMembers members = members.map fun member => (member.1, reread member.2) := by
  induction members with
  | nil => rfl
  | cons member rest ih => rw [rereadMembers, ih, List.map_cons]

/-- A value without doubles. -/
inductive Floatless : Json → Prop
  | plain {value : Json} (h : value.isCompound = false) (hf : ∀ x, value ≠ .float x) :
      Floatless value
  | arr {elements : List Json} (h : ∀ element ∈ elements, Floatless element) :
      Floatless (.arr elements)
  | obj {members : List (String × Json)} (h : ∀ member ∈ members, Floatless member.2) :
      Floatless (.obj members)

theorem floatless_str (s : String) : Floatless (.str s) := .plain rfl fun _ h => by cases h

theorem floatless_int (n : Int) : Floatless (.int n) := .plain rfl fun _ h => by cases h

theorem floatless_arr_iff {elements : List Json} :
    Floatless (.arr elements) ↔ ∀ element ∈ elements, Floatless element := by
  refine ⟨fun h => ?_, .arr⟩
  cases h with
  | plain h => cases h
  | arr h => exact h

theorem floatless_obj_iff {members : List (String × Json)} :
    Floatless (.obj members) ↔ ∀ member ∈ members, Floatless member.2 := by
  refine ⟨fun h => ?_, .obj⟩
  cases h with
  | plain h => cases h
  | obj h => exact h

/-- Values that are read back from their texts pass this on to their parts. -/
theorem hereditary_floatless : Hereditary fun value => value.Distinct ∧ value.Floatless where
  plain := fun h hf => ⟨.plain h, .plain h hf⟩
  arr_iff := by
    intro elements
    rw [distinct_arr_iff, floatless_arr_iff, ← forall₂_and]
  obj_iff := by
    intro members
    rw [distinct_obj_iff, floatless_obj_iff, and_assoc, ← forall₂_and]

/-- Without doubles, what is read is what was written. -/
theorem reread_of_floatless {value : Json} (hf : Floatless value) (hd : Distinct value) :
    reread value = value := by
  induction value using parts_induction with
  | plain value h =>
    cases hf with
    | plain _ hf =>
      cases value with
      | float x => exact absurd rfl (hf x)
      | arr _ | obj _ => cases h
      | _ => rfl
    | arr _ | obj _ => cases h
  | arr elements ih =>
    have hf := floatless_arr_iff.mp hf
    have hd := distinct_arr_iff.mp hd
    rw [reread, rereadAll_eq_map, List.map_congr_left fun element hm => ih element hm (hf element hm)
      (hd element hm), List.map_id']
  | obj members ih =>
    have hf := floatless_obj_iff.mp hf
    obtain ⟨hnames, hvalues⟩ := distinct_obj_iff.mp hd
    have hmap : (members.map fun member => (member.1, reread member.2)) = members := by
      conv_rhs => rw [← List.map_id' members]
      exact List.map_congr_left fun member hm => by
        rw [ih member hm (hf member hm) (hvalues member hm)]
    rw [reread, rereadMembers_eq_map, hmap, Entries.ofPairs_of_distinct hnames]

mutual

/-- Whether a value does not exceed limits: no integer in it has too many digits, and it is not
    nested too deep. -/
def fits : Json → Limits → Bool
  | .int n, limits => (limits.exceededBy? n).isNone
  | .arr elements, limits => limits.inside?.any fun inside => fitAll elements inside
  | .obj members, limits => limits.inside?.any fun inside => fitMembers members inside
  | _, _ => true

/-- Whether elements do not exceed limits. -/
def fitAll : List Json → Limits → Bool
  | [], _ => true
  | element :: rest, limits => fits element limits && fitAll rest limits

/-- Whether the values of members do not exceed limits. -/
def fitMembers : List (String × Json) → Limits → Bool
  | [], _ => true
  | (_, value) :: rest, limits => fits value limits && fitMembers rest limits

end

theorem fitAll_iff {elements : List Json} :
    fitAll elements limits = true ↔ ∀ element ∈ elements, element.fits limits = true := by
  induction elements with
  | nil => simp [fitAll]
  | cons element rest ih => rw [fitAll, Bool.and_eq_true, ih, List.forall_mem_cons]

theorem fitMembers_iff {members : List (String × Json)} :
    fitMembers members limits = true ↔ ∀ member ∈ members, member.2.fits limits = true := by
  induction members with
  | nil => simp [fitMembers]
  | cons member rest ih => rw [fitMembers, Bool.and_eq_true, ih, List.forall_mem_cons]

theorem fits_arr_iff {elements : List Json} :
    fits (.arr elements) limits = true ↔ ∃ inside, limits.inside? = some inside ∧
      ∀ element ∈ elements, element.fits inside = true := by
  simp only [fits, Option.any_eq_true, fitAll_iff]

theorem fits_obj_iff {members : List (String × Json)} :
    fits (.obj members) limits = true ↔ ∃ inside, limits.inside? = some inside ∧
      ∀ member ∈ members, member.2.fits inside = true := by
  simp only [fits, Option.any_eq_true, fitMembers_iff]

/-- Without limits every value fits. -/
theorem fits_unlimited (value : Json) : value.fits .unlimited = true := by
  induction value using parts_induction with
  | plain value h => cases value <;> first | rfl | cases h
  | arr elements ih => exact fits_arr_iff.mpr ⟨.unlimited, rfl, ih⟩
  | obj members ih => exact fits_obj_iff.mpr ⟨.unlimited, rfl, ih⟩

/-- What a number is written as begins with neither a blank nor with a bracket that closes, nor with
    a byte order mark. -/
theorem opens_of_startsNumber {c : Char} (h : startsNumber c = true) :
    (∀ rest, skipBlanks (c :: rest) = c :: rest) ∧ c ≠ ']' ∧ c ≠ '\x7d' ∧ c ≠ '\uFEFF' := by
  have hne {d : Char} (hd : startsNumber d = false) : c ≠ d := ne_of_startsNumber h hd
  refine ⟨fun rest => List.dropWhile_cons_of_neg ?_, hne (by decide), hne (by decide),
    hne (by decide)⟩
  simp [hne (d := ' ') (by decide), hne (d := '\t') (by decide), hne (d := '\n') (by decide),
    hne (d := '\r') (by decide)]

/-- Neither does any other value. -/
theorem exists_chars (value : Json) (level : Option ℕ) :
    ∃ c more, chars level value = c :: more ∧ (∀ rest, skipBlanks (c :: rest) = c :: rest) ∧
      c ≠ ']' ∧ c ≠ '\x7d' ∧ c ≠ '\uFEFF' := by
  cases value with
  | null => exact ⟨_, _, rfl, fun _ => rfl, by decide, by decide, by decide⟩
  | bool b => cases b <;> exact ⟨_, _, rfl, fun _ => rfl, by decide, by decide, by decide⟩
  | str s => exact ⟨_, _, rfl, fun _ => rfl, by decide, by decide, by decide⟩
  | arr elements => cases elements <;> exact ⟨_, _, rfl, fun _ => rfl, by decide, by decide, by decide⟩
  | obj members => cases members <;> exact ⟨_, _, rfl, fun _ => rfl, by decide, by decide, by decide⟩
  | float x =>
    obtain ⟨c, more, htext, hc⟩ := exists_jsonText x
    exact ⟨c, more, by rw [chars, htext], opens_of_startsNumber hc⟩
  | int n =>
    obtain ⟨c, more, hchars, hc⟩ := exists_intChars n
    exact ⟨c, more, by rw [chars, hchars], opens_of_startsNumber hc⟩

theorem skipBlanks_chars (value : Json) (level : Option ℕ) (rest : List Char) :
    skipBlanks (chars level value ++ rest) = chars level value ++ rest := by
  obtain ⟨c, more, hchars, hskip, -⟩ := exists_chars value level
  rw [hchars, List.cons_append, hskip]

/-- Whether what a value is written as is read whole, given fuel enough and an end. -/
def ReadBack (limits : Limits) (level : Option ℕ) (value : Json) : Prop :=
  ∀ fuel rest, Ends rest → 2 * (chars level value).length < fuel →
    scanValue limits fuel (chars level value ++ rest) = .ok (reread value, rest)

theorem scanElements_last {cs more : List Char} {value : Json}
    (hv : scanValue limits fuel cs = .ok (value, more)) (hend : skipBlanks more = ']' :: rest) :
    scanElements limits (fuel + 1) cs = .ok ([value], rest) := by
  rw [scanElements, bind_of_eq_ok hv]
  simp only [hend]
  rfl

theorem scanElements_more {cs more next : List Char} {value : Json} {values : List Json}
    (hv : scanValue limits fuel cs = .ok (value, more)) (hcomma : skipBlanks more = ',' :: next)
    (hvs : scanElements limits fuel (skipBlanks next) = .ok (values, rest)) :
    scanElements limits (fuel + 1) cs = .ok (value :: values, rest) := by
  rw [scanElements, bind_of_eq_ok hv]
  simp only [hcomma, bind_of_eq_ok hvs]
  rfl

theorem scanMembers_last {cs colon gap more : List Char} {name : String} {value : Json}
    (hn : scanString cs = .ok (name, colon)) (hcolon : skipBlanks colon = ':' :: gap)
    (hv : scanValue limits fuel (skipBlanks gap) = .ok (value, more))
    (hend : skipBlanks more = '\x7d' :: rest) :
    scanMembers limits (fuel + 1) ('"' :: cs) = .ok ([(name, value)], rest) := by
  rw [scanMembers, bind_of_eq_ok hn]
  simp only [hcolon, bind_of_eq_ok hv, hend]
  rfl

theorem scanMembers_more {cs colon gap more next : List Char} {name : String} {value : Json}
    {members : List (String × Json)} (hn : scanString cs = .ok (name, colon))
    (hcolon : skipBlanks colon = ':' :: gap)
    (hv : scanValue limits fuel (skipBlanks gap) = .ok (value, more))
    (hcomma : skipBlanks more = ',' :: next)
    (hms : scanMembers limits fuel (skipBlanks next) = .ok (members, rest)) :
    scanMembers limits (fuel + 1) ('"' :: cs) = .ok ((name, value) :: members, rest) := by
  rw [scanMembers, bind_of_eq_ok hn]
  simp only [hcolon, bind_of_eq_ok hv, hcomma, bind_of_eq_ok hms]
  rfl

/-- Elements that are written are read one by one. -/
theorem scanElements_chars {value : Json} {values : List Json}
    (ih : ∀ element ∈ value :: values, ReadBack limits (inner level) element) (rest : List Char)
    (hfuel : 2 * (chars (inner level) value ++ moreElements level values).length < fuel) :
    scanElements limits fuel (chars (inner level) value ++ (moreElements level values ++ rest)) =
      .ok (rereadAll (value :: values), rest) := by
  obtain ⟨fuel, rfl⟩ : ∃ n, fuel = n + 1 := ⟨fuel - 1, by omega⟩
  rw [List.length_append] at hfuel
  induction values generalizing value fuel with
  | nil =>
    rw [moreElements, List.length_append, List.length_singleton] at hfuel
    rw [moreElements, List.append_assoc, List.singleton_append]
    have hvalue := ih value List.mem_cons_self fuel (lineBreak level ++ ']' :: rest)
      (ends_lineBreak level (by decide) rest) (by omega)
    exact scanElements_last hvalue (skipBlanks_lineBreak level _)
  | cons next values ih' =>
    obtain ⟨gap, hgap, hskip⟩ := exists_separator (inner level)
    rw [moreElements, hgap, List.length_append, List.length_append, List.length_cons] at hfuel
    rw [moreElements, hgap, List.append_assoc, List.append_assoc, List.cons_append]
    have hvalue := ih value List.mem_cons_self fuel
      (',' :: (gap ++ (chars (inner level) next ++ (moreElements level values ++ rest))))
      (ends_cons (by decide) _) (by omega)
    have hmore := ih' (fun element hm => ih element (List.mem_cons_of_mem _ hm)) (fuel - 1)
    rw [Nat.sub_add_cancel (by omega)] at hmore
    refine scanElements_more hvalue rfl ?_
    rw [hskip, skipBlanks_chars]
    exact hmore (by omega)

/-- Members that are written are read one by one. -/
theorem scanMembers_chars {name : String} {value : Json} {members : List (String × Json)}
    (ih : ∀ member ∈ (name, value) :: members, ReadBack limits (inner level) member.2)
    (rest : List Char)
    (hfuel : 2 * (stringChars name ++ [':', ' '] ++ chars (inner level) value ++
      moreMembers level members).length < fuel) :
    scanMembers limits fuel (stringChars name ++ ([':', ' '] ++ (chars (inner level) value ++
      (moreMembers level members ++ rest)))) = .ok (rereadMembers ((name, value) :: members), rest) := by
  obtain ⟨fuel, rfl⟩ : ∃ n, fuel = n + 1 := ⟨fuel - 1, by omega⟩
  have hstring (name : String) (rest : List Char) : stringChars name ++ rest =
      '"' :: (name.toList.flatMap escape ++ '"' :: rest) := by
    rw [stringChars, List.cons_append, List.cons_append, List.append_assoc, List.singleton_append]
  simp only [List.length_append, List.length_cons, List.length_nil] at hfuel
  induction members generalizing name value fuel with
  | nil =>
    rw [moreMembers, List.length_append, List.length_singleton] at hfuel
    rw [moreMembers, List.append_assoc (lineBreak level), List.singleton_append, hstring]
    have hvalue := (congrArg (scanValue limits fuel) (skipBlanks_chars _ _ _)).trans
      (ih (name, value) List.mem_cons_self fuel (lineBreak level ++ '\x7d' :: rest)
        (ends_lineBreak level (by decide) rest) (by simp only; omega))
    exact scanMembers_last (scanString_stringChars name _) rfl hvalue (skipBlanks_lineBreak level _)
  | cons next members ih' =>
    obtain ⟨nextName, nextValue⟩ := next
    obtain ⟨gap, hgap, hskip⟩ := exists_separator (inner level)
    rw [moreMembers, hgap] at hfuel
    simp only [List.length_append, List.length_cons, List.length_nil] at hfuel
    have hvalue := (congrArg (scanValue limits fuel) (skipBlanks_chars _ _ _)).trans
      (ih (name, value) List.mem_cons_self fuel
        (',' :: (gap ++ (stringChars nextName ++ ([':', ' '] ++ (chars (inner level) nextValue ++
          (moreMembers level members ++ rest)))))) (ends_cons (by decide) _) (by simp only; omega))
    have hmore := ih' (fun member hm => ih member (List.mem_cons_of_mem _ hm)) (fuel - 1)
    rw [Nat.sub_add_cancel (by omega)] at hmore
    rw [moreMembers, hgap, hstring]
    simp only [List.append_assoc, List.cons_append]
    refine scanMembers_more (scanString_stringChars name _) rfl hvalue rfl ?_
    rw [hskip, hstring, ← hmore (by omega), hstring]
    rfl

theorem scanValue_arr {cs more : List Char} {values : List Json}
    (hi : limits.inside? = some inside) (hcs : skipBlanks cs = c :: more) (hc : c ≠ ']')
    (hvs : scanElements inside fuel (c :: more) = .ok (values, rest)) :
    scanValue limits (fuel + 1) ('[' :: cs) = .ok (.arr values, rest) := by
  rw [scanValue, hi]
  dsimp only
  rw [hcs]
  split
  · rename_i h
    cases h
    exact absurd rfl hc
  · rw [hvs]
    rfl

theorem scanValue_obj {cs more : List Char} {members : List (String × Json)}
    (hi : limits.inside? = some inside) (hcs : skipBlanks cs = c :: more) (hc : c ≠ '\x7d')
    (hms : scanMembers inside fuel (c :: more) = .ok (members, rest)) :
    scanValue limits (fuel + 1) ('\x7b' :: cs) = .ok (.obj (Entries.ofPairs members), rest) := by
  rw [scanValue, hi]
  dsimp only
  rw [hcs]
  split
  · rename_i h
    cases h
    exact absurd rfl hc
  · rw [hms]
    rfl

/-- What begins as a number is read as one, unless it is an integer of too many digits. -/
theorem scanValue_number {c : Char} {cs : List Char} {found : Json × List Char}
    (hc : startsNumber c = true) (hs : scanScalar? (c :: cs) = some found) :
    scanValue limits (fuel + 1) (c :: cs) = checkDigits limits (cs.length + 1) found := by
  have hne {d : Char} (hd : startsNumber d = false) (more : List Char) : c :: cs ≠ d :: more := by
    intro he
    injection he with he
    exact ne_of_startsNumber hc hd he
  rw [scanValue, hs]
  · rfl
  all_goals exact fun _ => hne (by decide) _

/-- The value lemma: what a value within the limits is written as is read whole. -/
theorem scanValue_chars {value : Json} (hfits : value.fits limits = true) (level : Option ℕ) :
    ReadBack limits level value := by
  induction value using parts_induction generalizing limits level with
  | plain value h =>
    intro fuel rest hend hfuel
    obtain ⟨fuel, rfl⟩ : ∃ n, fuel = n + 1 := ⟨fuel - 1, by omega⟩
    cases value with
    | null => rfl
    | bool b => cases b <;> rfl
    | int n =>
      obtain ⟨c, more, hchars, hc⟩ := exists_intChars n
      have hscan := scanScalar?_intChars n hend
      rw [hchars, List.cons_append] at hscan
      rw [chars, hchars, List.cons_append, scanValue_number hc hscan, checkDigits_eq_ok_iff]
      refine ⟨rfl, ?_⟩
      rintro _ ⟨⟩
      exact Option.isNone_iff_eq_none.mp hfits
    | str s =>
      rw [chars, stringChars, List.cons_append, List.cons_append, List.append_assoc,
        List.singleton_append, scanValue, scanString_stringChars]
      rfl
    | float x =>
      obtain ⟨c, more, htext, hc⟩ := exists_jsonText x
      obtain ⟨y, hy, hscan⟩ := exists_rereadDouble x
      have hscan := hscan rest hend
      rw [htext, List.cons_append] at hscan
      rw [chars, reread, hy, htext, List.cons_append, scanValue_number hc hscan]
      rfl
    | arr elements => cases h
    | obj members => cases h
  | arr elements ih =>
    intro fuel rest hend hfuel
    obtain ⟨inside, hi, hfits⟩ := fits_arr_iff.mp hfits
    obtain ⟨fuel, rfl⟩ : ∃ n, fuel = n + 1 := ⟨fuel - 1, by omega⟩
    cases elements with
    | nil =>
      rw [chars, List.cons_append, List.singleton_append, scanValue, hi]
      rfl
    | cons element elements =>
      obtain ⟨c, more, hchars, hskip, hc, -⟩ := exists_chars element (inner level)
      rw [chars, List.length_append, List.cons_append, List.length_cons, List.length_append] at hfuel
      have helements := @scanElements_chars level fuel inside element elements
        (fun element hm => ih element hm (hfits element hm) _) rest (by rw [List.length_append]; omega)
      rw [chars, List.cons_append, List.cons_append, List.cons_append, List.append_assoc,
        List.append_assoc]
      rw [hchars] at helements ⊢
      exact scanValue_arr hi ((skipBlanks_lineBreak _ _).trans (hskip _)) hc helements
  | obj members ih =>
    intro fuel rest hend hfuel
    obtain ⟨inside, hi, hfits⟩ := fits_obj_iff.mp hfits
    obtain ⟨fuel, rfl⟩ : ∃ n, fuel = n + 1 := ⟨fuel - 1, by omega⟩
    cases members with
    | nil =>
      rw [chars, List.cons_append, List.singleton_append, scanValue, hi]
      rfl
    | cons member members =>
      obtain ⟨name, value⟩ := member
      rw [chars] at hfuel ⊢
      simp only [List.length_append, List.length_cons, List.length_nil] at hfuel
      have hmembers := @scanMembers_chars level fuel inside name value members
        (fun member hm => ih member hm (hfits member hm) _) rest
        (by simp only [List.length_append, List.length_cons, List.length_nil]; omega)
      simp only [List.cons_append, List.append_assoc] at hmembers ⊢
      exact scanValue_obj hi (skipBlanks_lineBreak _ _) (by decide) hmembers

theorem ends_blanks {blanks : List Char} (h : ∀ c ∈ blanks, c = ' ' ∨ c = '\n') : Ends blanks := by
  cases blanks with
  | nil => exact ends_nil
  | cons c rest =>
    rcases h c List.mem_cons_self with rfl | rfl <;> exact ends_cons (by decide) rest

/-- Blanks behind a value do not count. -/
theorem scanText_chars_append {value : Json} (hfits : value.fits limits = true) (level : Option ℕ)
    {blanks : List Char} (hb : ∀ c ∈ blanks, c = ' ' ∨ c = '\n') :
    scanText limits (chars level value ++ blanks) = .ok (reread value) := by
  obtain ⟨c, more, hchars, -, -, -, hmark⟩ := exists_chars value level
  have hback := scanValue_chars hfits level (2 * (chars level value ++ blanks).length + 2) blanks
    (ends_blanks hb) (by rw [List.length_append]; omega)
  have hread := skipBlanks_chars value level blanks
  have hend : skipBlanks blanks = [] := by
    have hskip := skipBlanks_append hb []
    rwa [List.append_nil] at hskip
  rw [hchars, List.cons_append] at hback hread ⊢
  rw [scanText, hread, bind_of_eq_ok hback]
  · simp only [hend]
    rfl
  · intro _ he
    injection he with he
    exact hmark he

theorem scanText_chars {value : Json} (hfits : value.fits limits = true) (level : Option ℕ) :
    scanText limits (chars level value) = .ok (reread value) := by
  have hread := scanText_chars_append hfits level (List.forall_mem_nil _)
  rwa [List.append_nil] at hread

/-- What is read of a value that is written on one line. -/
theorem readWithin_render_eq {value : Json} (hfits : value.fits limits = true) :
    readWithin limits value.render = .ok (reread value) := by
  rw [readWithin, render, String.toList_ofList]
  simp only [scanText_chars hfits]

/-- An integer of too many digits is not read back. -/
theorem readWithin_render_int {n : Int} {limit : ℕ} (h : limits.exceededBy? n = some limit) :
    ∃ e, readWithin limits (Json.int n).render = .error e ∧
      e.problem = .tooManyDigits limit (Text.digitCount n) := by
  obtain ⟨c, more, hchars, hc⟩ := exists_intChars n
  have hscan := scanScalar?_intChars n ends_nil
  rw [List.append_nil, hchars] at hscan
  have hvalue : scanValue limits (2 * (c :: more).length + 2) (c :: more) =
      .error ⟨.tooManyDigits limit (Text.digitCount n), more.length + 1⟩ := by
    rw [scanValue_number hc hscan]
    simp only [checkDigits, h]
  obtain ⟨hskip, -, -, hmark⟩ := opens_of_startsNumber hc
  have htext : scanText limits (c :: more) =
      .error ⟨.tooManyDigits limit (Text.digitCount n), more.length + 1⟩ := by
    rw [scanText, hskip, hvalue]
    · rfl
    · rintro _ ⟨⟩
      exact hmark rfl
  rw [readWithin, render, String.toList_ofList, chars, hchars, htext]
  exact ⟨_, rfl, rfl⟩

theorem read_render_eq (value : Json) : read value.render = .ok (reread value) :=
  readWithin_render_eq (fits_unlimited value)

/-- A value that is written on one line is read back. -/
theorem readWithin_render {value : Json} (hfits : value.fits limits = true) (hf : Floatless value)
    (hd : Distinct value) : readWithin limits value.render = .ok value := by
  rw [readWithin_render_eq hfits, reread_of_floatless hf hd]

theorem read_render {value : Json} (hf : Floatless value) (hd : Distinct value) :
    read value.render = .ok value := readWithin_render (fits_unlimited value) hf hd

theorem exists_moreMembers (members : List (String × Json)) :
    ∃ more, moreMembers none members = more ++ ['\x7d'] := by
  induction members with
  | nil => exact ⟨[], rfl⟩
  | cons member rest ih =>
    obtain ⟨more, hmore⟩ := ih
    exact ⟨_, by rw [moreMembers, hmore, ← List.append_assoc]⟩

/-- An object stands between its braces. -/
theorem exists_chars_obj (members : List (String × Json)) :
    ∃ inside, chars none (.obj members) = '\x7b' :: (inside ++ ['\x7d']) := by
  cases members with
  | nil => exact ⟨[], rfl⟩
  | cons member rest =>
    obtain ⟨more, hmore⟩ := exists_moreMembers rest
    exact ⟨_, by rw [chars, hmore, ← List.append_assoc]; rfl⟩

/-- The text of an object has no blanks around it. -/
theorem strip_render_obj (members : List (String × Json)) :
    Text.strip (render (.obj members)) = render (.obj members) := by
  obtain ⟨inside, hinside⟩ := exists_chars_obj members
  rw [render, Text.strip, String.toList_ofList, hinside, Text.stripChars,
    List.dropWhile_cons_of_neg (by decide), List.reverse_cons, List.reverse_append]
  simp only [List.reverse_cons, List.reverse_nil, List.nil_append, List.cons_append]
  rw [List.dropWhile_cons_of_neg (by decide)]
  simp

end AlbListener.Json
