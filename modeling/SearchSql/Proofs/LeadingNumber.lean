import Mathlib.Data.List.TakeWhile
import SearchSql.Proofs.Numeral

/-!
# The number that a text starts with

A text counts as the number at its front. What is taken for the number is a run of digits and
points, with a sign before it perhaps, and the whole run has to be a number. So the longest number
at the front is what counts, unless a second point stands in the run: then the text counts as zero.
-/

namespace SearchSql

/-- The signs that can stand before a number, where none is one of them. -/
def numberSigns : List (List Char) := [[], ['-'], ['+']]

/-- A decimal number, perhaps with a sign. -/
inductive IsSigned : List Char → Prop where
  /-- A sign and a number without one. -/
  | intro {sign body : List Char} (hsign : sign ∈ numberSigns) (hbody : IsUnsigned body) :
      IsSigned (sign ++ body)

/-- Of all numbers at the front of a text, the one that a rest follows is the longest. -/
structure IsLongestNumber (number rest : List Char) : Prop where
  /-- It is a number. -/
  isSigned : IsSigned number
  /-- There is no longer one. -/
  length_le : ∀ other, IsSigned other → other <+: number ++ rest → other.length ≤ number.length

/-- The digits and points right behind a number bring no second point. -/
def KeepsOnePoint (number rest : List Char) : Prop :=
  (number ++ rest.takeWhile isNumberChar).count '.' ≤ 1

instance (number rest : List Char) : Decidable (KeepsOnePoint number rest) :=
  inferInstanceAs (Decidable (_ ≤ 1))

/-! ### The characters of a number -/

/-- A digit is a character of a number. -/
theorem isNumberChar_of_isDigit {c : Char} (hc : c.isDigit = true) : isNumberChar c = true := by
  rw [isNumberChar, hc, Bool.true_or]

/-- No point is among digits. -/
theorem point_not_mem_of_isDigit {cs : List Char} (hcs : ∀ c ∈ cs, c.isDigit = true) :
    '.' ∉ cs :=
  fun hmem => absurd (hcs '.' hmem) (by decide)

/-- A number without a sign is made of digits and points. -/
theorem IsUnsigned.isNumberChar {cs : List Char} (hcs : IsUnsigned cs) :
    ∀ c ∈ cs, isNumberChar c = true := by
  intro c hmem
  cases hcs with
  | whole hdigits => exact isNumberChar_of_isDigit (hdigits.isDigit c hmem)
  | fractional hbefore hafter =>
    rcases List.mem_append.mp hmem with hmem | hmem
    · exact isNumberChar_of_isDigit (hbefore.isDigit c hmem)
    · rcases List.mem_cons.mp hmem with rfl | hmem
      · rfl
      · exact isNumberChar_of_isDigit (hafter.isDigit c hmem)

/-- A number without a sign begins with a digit. -/
theorem IsUnsigned.exists_cons {cs : List Char} (hcs : IsUnsigned cs) :
    ∃ c rest, cs = c :: rest ∧ c.isDigit = true := by
  have hfirst {digits : List Char} (hdigits : IsDigits digits) :
      ∃ c rest, digits = c :: rest ∧ c.isDigit = true := by
    obtain ⟨c, rest, rfl⟩ := List.exists_cons_of_ne_nil hdigits.ne_nil
    exact ⟨c, rest, rfl, hdigits.isDigit c List.mem_cons_self⟩
  cases hcs with
  | whole hdigits => exact hfirst hdigits
  | fractional hbefore hafter =>
    obtain ⟨c, rest, rfl, hc⟩ := hfirst hbefore
    exact ⟨c, _, List.cons_append, hc⟩

/-- A sign is none, a minus or a plus. -/
theorem eq_of_mem_numberSigns {sign : List Char} (hsign : sign ∈ numberSigns) :
    sign = [] ∨ sign = ['-'] ∨ sign = ['+'] := by
  simpa [numberSigns] using hsign

/-- No sign has a point. -/
theorem point_not_mem_of_mem_numberSigns {sign : List Char} (hsign : sign ∈ numberSigns) :
    '.' ∉ sign := by
  rcases eq_of_mem_numberSigns hsign with rfl | rfl | rfl <;> decide

/-- A number has at most one point. -/
theorem IsSigned.count_point_le {cs : List Char} (hcs : IsSigned cs) : cs.count '.' ≤ 1 := by
  have hnone {digits : List Char} (hdigits : IsDigits digits) : digits.count '.' = 0 :=
    List.count_eq_zero.mpr (point_not_mem_of_isDigit hdigits.isDigit)
  obtain ⟨hsign, hbody⟩ := hcs
  rw [List.count_append, List.count_eq_zero.mpr (point_not_mem_of_mem_numberSigns hsign)]
  cases hbody with
  | whole hdigits =>
    rw [hnone hdigits]
    omega
  | fractional hbefore hafter =>
    rw [List.count_append, List.count_cons_self, hnone hbefore, hnone hafter]

/-- One more digit makes a longer number. -/
theorem IsSigned.append_digit {cs : List Char} (hcs : IsSigned cs) {c : Char}
    (hc : c.isDigit = true) : IsSigned (cs ++ [c]) := by
  have hdigit : ∀ x ∈ [c], x.isDigit = true := by simpa using hc
  obtain ⟨hsign, hbody⟩ := hcs
  rw [List.append_assoc]
  refine .intro hsign ?_
  cases hbody with
  | whole hdigits => exact .whole (hdigits.append hdigit)
  | fractional hbefore hafter =>
    rw [List.append_assoc, List.cons_append]
    exact .fractional hbefore (hafter.append hdigit)

/-- A point and a digit make a whole number longer. -/
theorem IsSigned.append_point_digit {cs : List Char} (hcs : IsSigned cs) (hpoint : '.' ∉ cs)
    {c : Char} (hc : c.isDigit = true) : IsSigned (cs ++ ['.', c]) := by
  obtain ⟨hsign, hbody⟩ := hcs
  rw [List.append_assoc]
  refine .intro hsign ?_
  cases hbody with
  | whole hdigits => exact .fractional hdigits ⟨List.cons_ne_nil _ _, by simpa using hc⟩
  | fractional hbefore hafter => exact absurd hpoint (by simp)

/-! ### Reading a number -/

/-- The value of a number without its sign. -/
def readMagnitude (negative : Bool) (body : List Char) : Option Binary64 :=
  match unsignedParts body with
  | none => none
  | some (whole, after) =>
    if whole.isEmpty && after.isEmpty then none
    else some (Binary64.ofRatio negative (digitsValue (whole ++ after)) (Nat.pow 10 after.length))

/-- A sign is read apart from what follows it. -/
theorem readNumber_eq (cs : List Char) :
    readNumber cs =
      match cs with
      | '-' :: rest => readMagnitude true rest
      | '+' :: rest => readMagnitude false rest
      | _ => readMagnitude false cs := by
  have hsplit : readNumber cs =
      (fun parts : Bool × List Char => readMagnitude parts.1 parts.2)
        (match cs with
        | '-' :: rest => (true, rest)
        | '+' :: rest => (false, rest)
        | _ => (false, cs)) := rfl
  rw [hsplit]
  split <;> rfl

/-- A number is read by its sign and its magnitude, whatever follows. -/
theorem readNumber_append {sign body : List Char} (hsign : sign ∈ numberSigns)
    (hbody : IsUnsigned body) (tail : List Char) :
    readNumber (sign ++ body ++ tail) = readMagnitude (sign == ['-']) (body ++ tail) := by
  rcases eq_of_mem_numberSigns hsign with rfl | rfl | rfl
  · -- Without a sign the number begins with a digit, which is none.
    obtain ⟨c, rest, rfl, hc⟩ := hbody.exists_cons
    rw [List.nil_append, List.cons_append, readNumber_eq]
    split
    · next heq =>
      rw [(List.cons.inj heq).1] at hc
      exact absurd hc (by decide)
    · next heq =>
      rw [(List.cons.inj heq).1] at hc
      exact absurd hc (by decide)
    · rfl
  · exact readNumber_eq _
  · exact readNumber_eq _

/-- Digits alone are the part before the point. -/
theorem unsignedParts_digits {digits : List Char} (hdigits : ∀ c ∈ digits, c.isDigit = true) :
    unsignedParts digits = some (digits, []) := by
  have htake := List.takeWhile_eq_self_iff.mpr hdigits
  have hdrop := List.dropWhile_eq_nil_iff.mpr hdigits
  simp only [unsignedParts, htake, hdrop]

/-- A point after digits changes nothing. -/
theorem unsignedParts_digits_point {digits : List Char}
    (hdigits : ∀ c ∈ digits, c.isDigit = true) :
    unsignedParts (digits ++ ['.']) = some (digits, []) := by
  have htake : (digits ++ ['.']).takeWhile Char.isDigit = digits := by
    rw [List.takeWhile_append_of_pos hdigits, List.takeWhile_cons_of_neg (by decide),
      List.append_nil]
  have hdrop : (digits ++ ['.']).dropWhile Char.isDigit = ['.'] := by
    rw [List.dropWhile_append_of_pos hdigits, List.dropWhile_cons_of_neg (by decide)]
  simp only [unsignedParts, htake, hdrop]
  rfl

/-- The parts of a number are what stands before and after its only point. -/
theorem count_point_le_of_unsignedParts {cs : List Char} {parts : List Char × List Char}
    (h : unsignedParts cs = some parts) : cs.count '.' ≤ 1 := by
  have hwhole : (cs.takeWhile Char.isDigit).count '.' = 0 :=
    List.count_eq_zero.mpr
      (point_not_mem_of_isDigit fun c hmem => List.mem_takeWhile_imp hmem)
  rw [← List.takeWhile_append_dropWhile (p := Char.isDigit) (l := cs), List.count_append, hwhole]
  unfold unsignedParts at h
  cases hdrop : cs.dropWhile Char.isDigit with
  | nil => simp
  | cons c after =>
    simp only [hdrop] at h
    obtain ⟨hcond, -⟩ := Option.ite_none_right_eq_some.1 h
    obtain ⟨rfl, hafter⟩ : c = '.' ∧ ∀ c ∈ after, c.isDigit = true := by simpa using hcond
    rw [List.count_cons_self, List.count_eq_zero.mpr (point_not_mem_of_isDigit hafter)]

/-- A run with two points is no number. -/
theorem count_point_le_of_readNumber {cs : List Char} {x : Binary64}
    (h : readNumber cs = some x) : cs.count '.' ≤ 1 := by
  have hmagnitude {negative : Bool} {body : List Char}
      (hbody : readMagnitude negative body = some x) : body.count '.' ≤ 1 := by
    unfold readMagnitude at hbody
    cases hparts : unsignedParts body with
    | none =>
      rw [hparts] at hbody
      cases hbody
    | some parts => exact count_point_le_of_unsignedParts hparts
  rw [readNumber_eq] at h
  split at h
  · rw [List.count_cons_of_ne (by decide)]
    exact hmagnitude h
  · rw [List.count_cons_of_ne (by decide)]
    exact hmagnitude h
  · exact hmagnitude h

/-! ### The number at the front of a text -/

/-- Text without blanks is trimmed already. -/
theorem Text.trimChars_of_forall {cs : List Char} (hcs : ∀ c ∈ cs, isBlank c = false) :
    trimChars cs = cs := by
  have hdrop {ds : List Char} (hds : ∀ c ∈ ds, isBlank c = false) : ds.dropWhile isBlank = ds := by
    cases ds with
    | nil => rfl
    | cons c rest => exact List.dropWhile_cons_of_neg (by simp [hds c List.mem_cons_self])
  unfold trimChars
  rw [hdrop hcs, hdrop fun c hmem => hcs c (List.mem_reverse.mp hmem), List.reverse_reverse]

/-- A number has no blanks. -/
theorem IsSigned.isBlank_eq_false {cs : List Char} (hcs : IsSigned cs) :
    ∀ c ∈ cs, Text.isBlank c = false := by
  intro c hmem
  obtain ⟨hsign, hbody⟩ := hcs
  rcases List.mem_append.mp hmem with hmem | hmem
  · rcases eq_of_mem_numberSigns hsign with rfl | rfl | rfl
    · cases hmem
    · rw [List.mem_singleton.mp hmem]
      decide
    · rw [List.mem_singleton.mp hmem]
      decide
  · have hchar := hbody.isNumberChar c hmem
    rw [isNumberChar, Bool.or_eq_true] at hchar
    rcases hchar with hdigit | hpoint
    · exact Text.isBlank_eq_false_of_isDigit hdigit
    · rw [eq_of_beq hpoint]
      decide

/-- The run that is taken for the number goes on behind the number with digits and points. -/
theorem IsSigned.numberRun_append {number : List Char} (hnumber : IsSigned number)
    (rest : List Char) :
    numberRun (number ++ rest) = number ++ rest.takeWhile isNumberChar := by
  have hrun {c : Char} {cs : List Char}
      (hc : (isNumberChar c || c == '-' || c == '+') = true)
      (hcs : ∀ x ∈ cs, isNumberChar x = true) :
      numberRun (c :: cs ++ rest) = c :: cs ++ rest.takeWhile isNumberChar := by
    rw [List.cons_append, numberRun, if_pos hc, List.takeWhile_append_of_pos hcs, List.cons_append]
  obtain ⟨hsign, hbody⟩ := hnumber
  have hchars := hbody.isNumberChar
  rcases eq_of_mem_numberSigns hsign with rfl | rfl | rfl
  · obtain ⟨c, cs, rfl, hc⟩ := hbody.exists_cons
    rw [List.forall_mem_cons] at hchars
    exact hrun (by rw [hchars.1, Bool.true_or, Bool.true_or]) hchars.2
  · exact hrun (by decide) hchars
  · exact hrun (by decide) hchars

/-- A text that is a number counts as that number. -/
theorem IsSigned.leadingNumber? {number : String} (hnumber : IsSigned number.toList) :
    leadingNumber? number = readNumber number.toList := by
  unfold SearchSql.leadingNumber?
  have hrun := hnumber.numberRun_append []
  rw [List.append_nil, List.takeWhile_nil, List.append_nil] at hrun
  rw [Text.trimChars_of_forall hnumber.isBlank_eq_false, hrun]

/-- Behind the longest number there is no digit, and no point that a digit follows if the number
is whole. So if the run has no second point, it is the number, or a whole number with a point. -/
theorem IsLongestNumber.run_eq {number rest : List Char} (h : IsLongestNumber number rest)
    (hpoint : KeepsOnePoint number rest) :
    rest.takeWhile isNumberChar = [] ∨
      rest.takeWhile isNumberChar = ['.'] ∧ '.' ∉ number := by
  have hlonger {more : List Char} (hmore : more <+: rest.takeWhile isNumberChar)
      (hsigned : IsSigned (number ++ more)) : more = [] := by
    have hprefix : number ++ more <+: number ++ rest :=
      (List.prefix_append_right_inj number).mpr (hmore.trans (List.takeWhile_prefix _))
    have hlength := h.length_le _ hsigned hprefix
    rw [List.length_append] at hlength
    exact List.eq_nil_of_length_eq_zero (by omega)
  have hchars : ∀ c ∈ rest.takeWhile isNumberChar, isNumberChar c = true :=
    fun c hmem => List.mem_takeWhile_imp hmem
  unfold KeepsOnePoint at hpoint
  generalize rest.takeWhile isNumberChar = run at *
  cases run with
  | nil => exact Or.inl rfl
  | cons c run =>
    have hc := hchars c List.mem_cons_self
    rw [isNumberChar, Bool.or_eq_true] at hc
    rcases hc with hdigit | hc
    · have hnil := hlonger (by simp : [c] <+: c :: run) (h.isSigned.append_digit hdigit)
      cases hnil
    · obtain rfl := eq_of_beq hc
      rw [List.count_append, List.count_cons_self] at hpoint
      have hnumber : '.' ∉ number := List.count_eq_zero.mp (by omega)
      cases run with
      | nil => exact Or.inr ⟨rfl, hnumber⟩
      | cons d run =>
        have hd := hchars d (List.mem_cons_of_mem _ List.mem_cons_self)
        rw [isNumberChar, Bool.or_eq_true] at hd
        rcases hd with hdigit | hd
        · have hnil := hlonger (by simp : ['.', d] <+: '.' :: d :: run)
            (h.isSigned.append_point_digit hnumber hdigit)
          cases hnil
        · obtain rfl := eq_of_beq hd
          rw [List.count_cons_self] at hpoint
          omega

/-- A point behind a whole number is read away. -/
theorem IsSigned.readNumber_append_point {number : List Char} (hnumber : IsSigned number)
    (hpoint : '.' ∉ number) : readNumber (number ++ ['.']) = readNumber number := by
  obtain ⟨hsign, hbody⟩ := hnumber
  have halone := readNumber_append hsign hbody []
  rw [List.append_nil, List.append_nil] at halone
  rw [readNumber_append hsign hbody, halone]
  cases hbody with
  | whole hdigits =>
    unfold readMagnitude
    rw [unsignedParts_digits_point hdigits.isDigit, unsignedParts_digits hdigits.isDigit]
  | fractional hbefore hafter => exact absurd hpoint (by simp)

/-- A number that no digit and no point follows is the longest one at its place. -/
theorem IsSigned.isLongestNumber {number rest : List Char} (hnumber : IsSigned number)
    (hrest : ∀ c, rest.head? = some c → isNumberChar c = false) : IsLongestNumber number rest where
  isSigned := hnumber
  length_le := by
    intro other hother hprefix
    by_contra hlonger
    obtain ⟨more, rfl⟩ : number <+: other :=
      List.prefix_of_prefix_length_le (List.prefix_append _ _) hprefix (by omega)
    have hmore : more <+: rest := (List.prefix_append_right_inj number).mp hprefix
    have hrun := hother.numberRun_append []
    rw [List.append_nil, List.takeWhile_nil, List.append_nil, hnumber.numberRun_append,
      List.append_cancel_left_eq] at hrun
    cases more with
    | nil => simp at hlonger
    | cons c more =>
      obtain ⟨tail, rfl⟩ := hmore
      rw [List.takeWhile_cons_of_neg (by simp [hrest c rfl])] at hrun
      cases hrun

/-- A number with a point that another point follows is the longest one at its place. -/
theorem IsSigned.isLongestNumber_point {number : List Char} (hnumber : IsSigned number)
    (hpoint : '.' ∈ number) (rest : List Char) : IsLongestNumber number ('.' :: rest) where
  isSigned := hnumber
  length_le := by
    intro other hother hprefix
    by_contra hlonger
    have hlength : (number ++ ['.']).length ≤ other.length := by
      rw [List.length_append, List.length_singleton]
      omega
    have hmore : number ++ ['.'] <+: other :=
      List.prefix_of_prefix_length_le
        ((List.prefix_append_right_inj number).mpr (by simp)) hprefix hlength
    have htwo := hmore.count_le '.'
    have hone := hother.count_point_le
    have hsome := List.count_pos_iff.mpr hpoint
    rw [List.count_append, List.count_singleton_self] at htwo
    omega

/-- A text counts as the longest number at its front, unless the digits and points behind it bring
a second point. Then it counts as no number. -/
theorem leadingNumber?_eq {text number rest : String} (htrim : Text.trim text = number ++ rest)
    (h : IsLongestNumber number.toList rest.toList) :
    leadingNumber? text =
      if KeepsOnePoint number.toList rest.toList then leadingNumber? number else none := by
  have hchars : Text.trimChars text.toList = number.toList ++ rest.toList := by
    have hlist := congrArg String.toList htrim
    rwa [Text.trim, String.toList_ofList, String.toList_append] at hlist
  have hrun : leadingNumber? text =
      readNumber (number.toList ++ rest.toList.takeWhile isNumberChar) := by
    unfold leadingNumber?
    rw [hchars, h.isSigned.numberRun_append]
  rw [hrun, h.isSigned.leadingNumber?]
  split
  · next hpoint =>
    rcases h.run_eq hpoint with hnil | ⟨hone, hwhole⟩
    · rw [hnil, List.append_nil]
    · rw [hone, h.isSigned.readNumber_append_point hwhole]
  · next hpoint =>
    cases hread : readNumber (number.toList ++ rest.toList.takeWhile isNumberChar) with
    | none => rfl
    | some x => exact absurd (count_point_le_of_readNumber hread) hpoint

namespace Value

/-- As an integer a text counts as its leading number, or as zero. -/
theorem asInt64_text (text : String) :
    (Value.text text).asInt64 = ((leadingNumber? text).map Binary64.toInt64).getD 0 := by
  rw [asInt64]
  cases leadingNumber? text <;> rfl

/-- As an unsigned integer a text counts as a signed one, and a negative one as zero. -/
theorem asUInt64_text (text : String) :
    (Value.text text).asUInt64 =
      if (Value.text text).asInt64 < 0 then 0 else (Value.text text).asInt64.toUInt64 := rfl

/-- A text counts as the longest number at its front, with an optional sign and an optional
fraction, whatever stands behind it, unless the digits and points right behind bring a second
point. Then it counts as zero, as an integer and as a double. -/
theorem asInt64_asBinary64_text {text number rest : String}
    (htrim : Text.trim text = number ++ rest)
    (h : IsLongestNumber number.toList rest.toList) :
    (Value.text text).asInt64 =
        (if KeepsOnePoint number.toList rest.toList then (Value.text number).asInt64 else 0) ∧
      (Value.text text).asUInt64 =
        (if KeepsOnePoint number.toList rest.toList then (Value.text number).asUInt64 else 0) ∧
      (Value.text text).asBinary64 =
        (if KeepsOnePoint number.toList rest.toList then (Value.text number).asBinary64
          else Binary64.zero) := by
  have hnumber := leadingNumber?_eq htrim h
  by_cases hpoint : KeepsOnePoint number.toList rest.toList
  · simp only [if_pos hpoint] at hnumber ⊢
    have hinteger : (Value.text text).asInt64 = (Value.text number).asInt64 := by
      rw [asInt64_text, asInt64_text, hnumber]
    refine ⟨hinteger, ?_, ?_⟩
    · rw [asUInt64_text, asUInt64_text, hinteger]
    · rw [asBinary64, asBinary64, hnumber]
  · simp only [if_neg hpoint] at hnumber ⊢
    have hinteger : (Value.text text).asInt64 = 0 := by
      rw [asInt64_text, hnumber]
      rfl
    refine ⟨hinteger, ?_, ?_⟩
    · rw [asUInt64_text, hinteger]
      rfl
    · rw [asBinary64, hnumber]
      rfl

/-- Letters behind the number are ignored, and so are the blanks around the text. -/
theorem asInt64_asBinary64_text_letters :
    Text.trim " -12.5kg\n" = "-12.5" ++ "kg" ∧ IsLongestNumber "-12.5".toList "kg".toList ∧
      (Value.text " -12.5kg\n").asInt64 = (Value.text "-12.5").asInt64 ∧
      (Value.text " -12.5kg\n").asBinary64 = (Value.text "-12.5").asBinary64 := by
  have hbefore : IsDigits "12".toList := ⟨by decide, List.all_eq_true.mp rfl⟩
  have hafter : IsDigits "5".toList := ⟨by decide, List.all_eq_true.mp rfl⟩
  have hnumber : IsSigned "-12.5".toList :=
    @IsSigned.intro ['-'] _ (by decide) (.fractional hbefore hafter)
  have hlongest : IsLongestNumber "-12.5".toList "kg".toList := by
    refine hnumber.isLongestNumber fun c hc => ?_
    obtain rfl : 'k' = c := Option.some.inj hc
    rfl
  have htrim : Text.trim " -12.5kg\n" = "-12.5" ++ "kg" := rfl
  obtain ⟨hinteger, -, hdouble⟩ := asInt64_asBinary64_text htrim hlongest
  rw [if_pos (by decide)] at hinteger hdouble
  exact ⟨htrim, hlongest, hinteger, hdouble⟩

/-- With a second point the number at the front is lost. -/
theorem asInt64_asBinary64_text_twoPoints :
    Text.trim "1.2.3" = "1.2" ++ ".3" ∧ IsLongestNumber "1.2".toList ".3".toList ∧
      (Value.text "1.2.3").asInt64 = 0 ∧ (Value.text "1.2").asInt64 = 1 ∧
      (Value.text "1.2.3").asBinary64 = Binary64.zero ∧
      (Value.text "1.2").asBinary64 = ⟨0x3FF3333333333333⟩ := by
  have hdigits (digit : Char) (h : digit.isDigit = true) : IsDigits [digit] :=
    ⟨List.cons_ne_nil _ _, by simpa using h⟩
  have hnumber : IsSigned "1.2".toList :=
    @IsSigned.intro [] _ (by decide) (.fractional (hdigits '1' rfl) (hdigits '2' rfl))
  exact ⟨rfl, hnumber.isLongestNumber_point (by decide) ['3'], rfl, rfl, rfl, rfl⟩

end Value

end SearchSql
