import Mathlib.Tactic.Ring
import SmtBackend.Values

/-!
# Printed numerals read back

A numeral prints in SMT-LIB syntax: `true` and `false`, `n` or `(- n)` for
an integer, `p.0`, `(/ p.0 q.0)` or either of them in `(- …)` for a rational
in lowest terms, and `#x` or `#b` with a digit per four or per one bit for a
bit-vector (`NumeralFormat`, which the solver's `Print.termText` keeps).
Reading the text of any printer with that format back as a value of the sort
(`Values.mkValue` without a base) gives the numeral again
(`printed_numerals_read_back`), with one exception: text of the form `(- x)`
must not hold a line break, and the solver's printer breaks a quotient that
does not fit the line after the `(- ` of a negative rational. Such a
rational does not read back (`long_negative_quotient_does_not_read_back`).
-/

namespace SmtBackend

open Text Numeral

/-! ## Digits -/

theorem isAsciiDigit_eq_isDigit (c : Char) : isAsciiDigit c = c.isDigit := by
  simp only [isAsciiDigit, Char.isDigit, Char.le_def]

theorem isAsciiDigit_of_mem_toDigits {n : Nat} {c : Char} (h : c ∈ Nat.toDigits 10 n) :
    isAsciiDigit c = true := by
  rw [isAsciiDigit_eq_isDigit]
  exact Nat.isDigit_of_mem_toDigits (by decide) (by decide) h

theorem runStep_foldl (radix init : Nat) (l : List Char) :
    l.foldl (fun acc c => acc * radix + hexValue c) init =
      init * radix ^ l.length + runValue radix l := by
  induction l generalizing init with
  | nil => simp [runValue]
  | cons c l ih =>
    simp only [List.foldl_cons, runValue, List.length_cons] at ih ⊢
    rw [ih, ih (0 * radix + hexValue c)]
    ring

theorem runValue_append (radix : Nat) (l₁ l₂ : List Char) :
    runValue radix (l₁ ++ l₂) = runValue radix l₁ * radix ^ l₂.length + runValue radix l₂ := by
  rw [runValue, List.foldl_append, runStep_foldl]
  rfl

theorem hexValue_of_isAsciiDigit {c : Char} (h : isAsciiDigit c = true) :
    hexValue c = c.toNat - '0'.toNat := by
  simp [hexValue, h]

/-- Decimal digits read back as the number they print. -/
theorem runValue_toDigits (n : Nat) : runValue 10 (Nat.toDigits 10 n) = n := by
  have hstep : ∀ (l : List Char) (init : Nat), (∀ c ∈ l, isAsciiDigit c = true) →
      l.foldl (fun acc c => acc * 10 + hexValue c) init = Nat.ofDigitChars 10 l init := by
    intro l
    induction l with
    | nil => intro init _; rfl
    | cons c l ih =>
      intro init hl
      rw [List.foldl_cons, Nat.ofDigitChars_cons, hexValue_of_isAsciiDigit (hl c List.mem_cons_self),
        Nat.mul_comm init 10]
      exact ih _ fun d hd => hl d (List.mem_cons_of_mem _ hd)
  rw [runValue, hstep _ _ fun c hc => isAsciiDigit_of_mem_toDigits hc, Nat.ofDigitChars_ten_toDigits]

/-- The character the printer writes for a digit. -/
def paddedDigit (d : Nat) : Char := if d < 10 then Char.ofNat (48 + d) else Char.ofNat (87 + d)

theorem hexValue_paddedDigit {d : Nat} (h : d < 16) : hexValue (paddedDigit d) = d := by
  have hall : ∀ d < 16, hexValue (paddedDigit d) = d := by decide
  exact hall d h

theorem isHexDigit_paddedDigit {d : Nat} (h : d < 16) : isHexDigit (paddedDigit d) = true := by
  have hall : ∀ d < 16, isHexDigit (paddedDigit d) = true := by decide
  exact hall d h

theorem paddedDigit_binary {d : Nat} (h : d < 2) :
    (paddedDigit d == '0' || paddedDigit d == '1') = true := by
  have hall : ∀ d < 2, (paddedDigit d == '0' || paddedDigit d == '1') = true := by decide
  exact hall d h

/-- The digits of `x` in a radix up to sixteen, padded to `k` of them: below
the radix each, and reading back as `x` modulo `radix ^ k`. -/
theorem digitsPadded_go (radix : Nat) (hr₀ : 0 < radix) (hr : radix ≤ 16) (k x : Nat)
    (acc : List Char) :
    ∃ ds, Print.digitsPadded.go radix k x acc = ds ++ acc ∧ ds.length = k ∧
      (∀ c ∈ ds, ∃ d < radix, c = paddedDigit d) ∧ runValue radix ds = x % radix ^ k := by
  induction k generalizing x acc with
  | zero => exact ⟨[], rfl, rfl, by simp, by simp [runValue, Nat.mod_one]⟩
  | succ k ih =>
    -- the last digit is written first, in front of what is already there
    obtain ⟨ds, hgo, hlen, hdigits, hvalue⟩ := ih (x / radix) (paddedDigit (x % radix) :: acc)
    have hlt : x % radix < radix := Nat.mod_lt x hr₀
    refine ⟨ds ++ [paddedDigit (x % radix)], ?_, by simp [hlen], ?_, ?_⟩
    · rw [List.append_assoc]
      exact hgo
    · intro c hc
      rcases List.mem_append.mp hc with hc | hc
      · exact hdigits c hc
      · exact ⟨x % radix, hlt, List.mem_singleton.mp hc⟩
    · rw [runValue_append, hvalue, List.length_singleton, pow_one, Nat.pow_succ', Nat.mod_mul]
      have hlast : runValue radix [paddedDigit (x % radix)] = x % radix := by
        simp [runValue, hexValue_paddedDigit (Nat.lt_of_lt_of_le hlt hr)]
      rw [hlast]
      ring

/-! ## Characters of printed numerals -/

theorem isBlank_of_isAsciiDigit {c : Char} (h : isAsciiDigit c = true) : isBlank c = false := by
  simp only [isAsciiDigit, Bool.and_eq_true, decide_eq_true_eq, Char.le_def] at h
  have h₁ : 48 ≤ c.toNat := h.1
  have h₂ : c.toNat ≤ 57 := h.2
  simp only [isBlank, Bool.or_eq_false_iff, Bool.and_eq_false_iff, decide_eq_false_iff_not,
    beq_eq_false_iff_ne, ne_eq]
  omega

theorem isDecimalChar_of_isAsciiDigit {c : Char} (h : isAsciiDigit c = true) :
    isDecimalChar c = true := by
  simp [isDecimalChar, h]

/-- A digit is none of the characters that shape numeral text. -/
theorem ne_of_isAsciiDigit {c : Char} (h : isAsciiDigit c = true) {d : Char}
    (hd : isAsciiDigit d = false) : c ≠ d := by
  rintro rfl
  rw [h] at hd
  cases hd

/-- The decimal digits of a number: nonempty, and digits throughout. -/
structure DigitRun (ds : List Char) : Prop where
  ne_nil : ds ≠ []
  digits : ∀ c ∈ ds, isAsciiDigit c = true

theorem digitRun_toDigits (n : Nat) : DigitRun (Nat.toDigits 10 n) :=
  ⟨Nat.toDigits_ne_nil, fun _ hc => isAsciiDigit_of_mem_toDigits hc⟩

namespace DigitRun

variable {ds : List Char} (h : DigitRun ds)
include h

theorem exists_cons : ∃ c cs, ds = c :: cs ∧ isAsciiDigit c = true := by
  obtain ⟨c, cs, rfl⟩ := List.exists_cons_of_ne_nil h.ne_nil
  exact ⟨c, cs, rfl, h.digits c List.mem_cons_self⟩

theorem not_mem {d : Char} (hd : isAsciiDigit d = false) : d ∉ ds :=
  fun hmem => ne_of_isAsciiDigit (h.digits d hmem) hd rfl

/-- A run of digits is an integer numeral, of the value it reads as. -/
theorem parseInteger_eq (fuel : Nat) :
    Numeral.parseInteger (fuel + 1) ds = some (runValue 10 ds : Int) := by
  obtain ⟨c, cs, rfl, hc⟩ := h.exists_cons
  have hparen : c ≠ '(' := ne_of_isAsciiDigit hc (by decide)
  have hminus : c ≠ '-' := ne_of_isAsciiDigit hc (by decide)
  have hrun : allOf isAsciiDigit (c :: cs) = true := by
    simpa [allOf] using h.digits
  simp [Numeral.parseInteger, negatedOperand?, isIntegerText, signedRunOf, integerValue, hparen,
    hminus, hrun]

end DigitRun

/-! ## Reading numeral text -/

theorem takeWhile_of_head {p : Char → Bool} {cs : List Char} (h : ∀ c ∈ cs.head?, p c = false) :
    cs.takeWhile p = [] := by
  cases cs with
  | nil => rfl
  | cons c cs => simp [h c rfl]

theorem head_mem_false {p : Char → Bool} {c : Char} (h : p c = false) (rest : List Char) :
    ∀ d ∈ (c :: rest).head?, p d = false := by
  intro d hd
  cases hd
  exact h

theorem takeWhile_append_stop {p : Char → Bool} {xs ys : List Char} (hxs : ∀ c ∈ xs, p c = true)
    (hys : ∀ c ∈ ys.head?, p c = false) : (xs ++ ys).takeWhile p = xs := by
  rw [List.takeWhile_append_of_pos hxs, takeWhile_of_head hys, List.append_nil]

theorem dropWhile_isBlank_of_head {cs : List Char} (h : ∀ c ∈ cs.head?, isBlank c = false) :
    cs.dropWhile isBlank = cs := by
  cases cs with
  | nil => rfl
  | cons c cs => simp [h c rfl]

theorem trimChars_eq_self {cs : List Char} (hhead : ∀ c ∈ cs.head?, isBlank c = false)
    (hlast : ∀ c ∈ cs.getLast?, isBlank c = false) : trimChars cs = cs := by
  unfold trimChars
  rw [dropWhile_isBlank_of_head hhead,
    dropWhile_isBlank_of_head (by rw [List.head?_reverse]; exact hlast), List.reverse_reverse]

/-- Text of the form `(- x)`, for an `x` that starts and ends with no blank,
is a negation exactly when `x` holds no line break. -/
theorem negatedOperand?_wrap {body : List Char} (hne : body ≠ [])
    (hhead : ∀ c ∈ body.head?, isBlank c = false) (hlast : ∀ c ∈ body.getLast?, isBlank c = false) :
    negatedOperand? ('(' :: '-' :: ' ' :: (body ++ [')'])) = if '\n' ∈ body then none else some body := by
  have hafter : ' ' :: (body ++ [')']) = (' ' :: body) ++ [')'] := rfl
  have hempty : body.isEmpty = false := List.isEmpty_eq_false_iff.mpr hne
  simp only [negatedOperand?, List.dropWhile_cons, show isBlank '-' = false by decide,
    Bool.false_eq_true, if_false, hafter, List.getLast?_concat, bne_self_eq_false, List.dropLast_concat,
    show isBlank ' ' = true by decide, Bool.not_true, if_true, dropWhile_isBlank_of_head hhead,
    hempty, trimChars_eq_self hhead hlast, List.contains_iff_mem]

theorem negatedOperand?_of_head {c : Char} (hc : c ≠ '(') (cs : List Char) :
    negatedOperand? (c :: cs) = none := by
  simp [negatedOperand?, hc]

theorem quotientOperands?_of_head {c : Char} (hc : c ≠ '(') (cs : List Char) :
    quotientOperands? (c :: cs) = none := by
  simp [quotientOperands?, hc]

/-- After `(- ` there is no quotient. -/
theorem quotientOperands?_negation (cs : List Char) :
    quotientOperands? ('(' :: '-' :: cs) = none := by
  simp [quotientOperands?, show isBlank '-' = false by decide]

theorem fractionParts?_of_not_mem {cs : List Char} (h : '/' ∉ cs) : fractionParts? cs = none := by
  simp [fractionParts?, List.splitOn_eq_singleton h]

theorem fractionParts?_paren (cs : List Char) : fractionParts? ('(' :: cs) = none := by
  unfold fractionParts?
  rw [List.splitOn, List.splitOnP_cons_eq_if_modifyHead]
  -- the first part starts with the parenthesis, so it is no integer
  generalize List.splitOnP _ cs = parts
  rcases parts with _ | ⟨n, _ | ⟨d, _ | ⟨e, es⟩⟩⟩ <;>
    simp [isIntegerText, signedRunOf, allOf, show isAsciiDigit '(' = false by decide]

theorem isDecimalText_paren (cs : List Char) : isDecimalText ('(' :: cs) = false := by
  simp [isDecimalText, show isAsciiDigit '(' = false by decide]

/-- Parenthesized text that is neither a negation nor a quotient is no real
numeral. -/
theorem parseReal_paren (fuel : Nat) {cs : List Char}
    (hneg : negatedOperand? ('(' :: cs) = none) (hquot : quotientOperands? ('(' :: cs) = none) :
    parseReal (fuel + 1) ('(' :: cs) = .ok none := by
  simp only [parseReal, hneg, hquot, fractionParts?_paren, isDecimalText_paren]
  rfl

/-- An operand of a quotient: a nonempty run of digits and points. -/
structure Operand (cs : List Char) : Prop where
  ne_nil : cs ≠ []
  decimal : ∀ c ∈ cs, isDecimalChar c = true

/-- The blanks between the operands of a quotient: at least one. -/
structure Gap (sep : List Char) : Prop where
  ne_nil : sep ≠ []
  blank : ∀ c ∈ sep, isBlank c = true

theorem gap_space : Gap [' '] :=
  ⟨by simp, fun c hc => by rw [List.mem_singleton.mp hc]; decide⟩

theorem gap_break (k : Nat) : Gap ('\n' :: List.replicate k ' ') := by
  refine ⟨by simp, fun c hc => ?_⟩
  rcases List.mem_cons.mp hc with rfl | hc
  · decide
  · rw [List.eq_of_mem_replicate hc]
    decide

theorem isBlank_of_isDecimalChar {c : Char} (h : isDecimalChar c = true) : isBlank c = false := by
  simp only [isDecimalChar, Bool.or_eq_true, beq_iff_eq] at h
  rcases h with h | rfl
  · exact isBlank_of_isAsciiDigit h
  · decide

theorem isDecimalChar_of_isBlank {c : Char} (h : isBlank c = true) : isDecimalChar c = false := by
  cases hd : isDecimalChar c
  · rfl
  · rw [isBlank_of_isDecimalChar hd] at h
    cases h

theorem Operand.head_not_blank {a : List Char} (ha : Operand a) (rest : List Char) :
    ∀ c ∈ (a ++ rest).head?, isBlank c = false := by
  obtain ⟨c, cs, rfl⟩ := List.exists_cons_of_ne_nil ha.ne_nil
  intro d hd
  cases hd
  exact isBlank_of_isDecimalChar (ha.decimal c List.mem_cons_self)

/-- The operands of `(/ a b)`, with blanks between them. -/
theorem quotientOperands?_eq {a b sep : List Char} (ha : Operand a) (hb : Operand b) (hsep : Gap sep) :
    quotientOperands? ('(' :: '/' :: ' ' :: (a ++ sep ++ b ++ [')'])) = some (a, b) := by
  have hsp₁ : (a ++ (sep ++ (b ++ [')']))).takeWhile isBlank = [] :=
    takeWhile_of_head (ha.head_not_blank _)
  have ha' : (a ++ (sep ++ (b ++ [')']))).takeWhile isDecimalChar = a := by
    refine takeWhile_append_stop ha.decimal fun c hc => ?_
    obtain ⟨d, ds, rfl⟩ := List.exists_cons_of_ne_nil hsep.ne_nil
    cases hc
    exact isDecimalChar_of_isBlank (hsep.blank _ List.mem_cons_self)
  have hsp₂ : (sep ++ (b ++ [')'])).takeWhile isBlank = sep :=
    takeWhile_append_stop hsep.blank (hb.head_not_blank _)
  have hb' : (b ++ [')']).takeWhile isDecimalChar = b :=
    takeWhile_append_stop hb.decimal (head_mem_false (by decide : isDecimalChar ')' = false) [])
  have hsep' : sep.isEmpty = false := List.isEmpty_eq_false_iff.mpr hsep.ne_nil
  have ha'' : a.isEmpty = false := List.isEmpty_eq_false_iff.mpr ha.ne_nil
  have hb'' : b.isEmpty = false := List.isEmpty_eq_false_iff.mpr hb.ne_nil
  simp [quotientOperands?, show isBlank '/' = false by decide, show isBlank ' ' = true by decide,
    hsp₁, ha', hsp₂, hb', hsep', ha'', hb'', show isBlank ')' = false by decide]

namespace DigitRun

variable {ds : List Char} (h : DigitRun ds)
include h

theorem head_not_blank (rest : List Char) : ∀ c ∈ (ds ++ rest).head?, isBlank c = false := by
  obtain ⟨c, cs, rfl, hc⟩ := h.exists_cons
  intro d hd
  cases hd
  exact isBlank_of_isAsciiDigit hc

theorem operand_point_zero : Operand (ds ++ ['.', '0']) := by
  refine ⟨by simp, fun c hc => ?_⟩
  rcases List.mem_append.mp hc with hc | hc
  · exact isDecimalChar_of_isAsciiDigit (h.digits c hc)
  · simp only [List.mem_cons, List.not_mem_nil, or_false] at hc
    rcases hc with rfl | rfl <;> decide

/-- `d.0` is a decimal numeral. -/
theorem isDecimalText_point_zero : isDecimalText (ds ++ ['.', '0']) = true := by
  have hwhole : (ds ++ ['.', '0']).takeWhile isAsciiDigit = ds :=
    takeWhile_append_stop h.digits (head_mem_false (by decide : isAsciiDigit '.' = false) ['0'])
  obtain ⟨c, cs, rfl, hc⟩ := h.exists_cons
  have hminus : c ≠ '-' := ne_of_isAsciiDigit hc (by decide)
  simp only [List.cons_append] at hwhole ⊢
  simp [isDecimalText, hminus, hwhole, allOf, (by decide : isAsciiDigit '0' = true)]

/-- `d.0` has the value of `d`. -/
theorem decimalValue_point_zero : decimalValue (ds ++ ['.', '0']) = (runValue 10 ds : Rat) := by
  have hwhole : (ds ++ ['.', '0']).takeWhile isAsciiDigit = ds :=
    takeWhile_append_stop h.digits (head_mem_false (by decide : isAsciiDigit '.' = false) ['0'])
  have hzero : runValue 10 (ds ++ ['0']) = runValue 10 ds * 10 := by
    rw [runValue_append]
    rfl
  obtain ⟨c, cs, rfl, hc⟩ := h.exists_cons
  have hminus : c ≠ '-' := ne_of_isAsciiDigit hc (by decide)
  simp only [List.cons_append] at hwhole hzero ⊢
  simp [decimalValue, hminus, hwhole, hzero]

theorem negatedOperand?_eq (rest : List Char) : negatedOperand? (ds ++ rest) = none := by
  obtain ⟨c, cs, rfl, hc⟩ := h.exists_cons
  exact negatedOperand?_of_head (ne_of_isAsciiDigit hc (by decide)) _

theorem quotientOperands?_eq (rest : List Char) : quotientOperands? (ds ++ rest) = none := by
  obtain ⟨c, cs, rfl, hc⟩ := h.exists_cons
  exact quotientOperands?_of_head (ne_of_isAsciiDigit hc (by decide)) _

/-- `d.0` reads as the real `d`. -/
theorem parseReal_point_zero (fuel : Nat) :
    parseReal (fuel + 1) (ds ++ ['.', '0']) = .ok (some (runValue 10 ds : Rat)) := by
  have hslash : '/' ∉ ds ++ ['.', '0'] := by
    simp [h.not_mem (show isAsciiDigit '/' = false by decide)]
  rw [parseReal, h.negatedOperand?_eq, h.quotientOperands?_eq, fractionParts?_of_not_mem hslash]
  simp [h.isDecimalText_point_zero, h.decimalValue_point_zero]

end DigitRun

/-- `(/ p.0 q.0)` reads as the quotient of the reals `p` and `q`. -/
theorem parseReal_quotient (fuel : Nat) {ds es sep : List Char} (hds : DigitRun ds) (hes : DigitRun es)
    (hsep : Gap sep) (hq : runValue 10 es ≠ 0) :
    parseReal (fuel + 1) ('(' :: '/' :: ' ' :: ((ds ++ ['.', '0']) ++ sep ++ (es ++ ['.', '0']) ++ [')'])) =
      .ok (some ((runValue 10 ds : Rat) / runValue 10 es)) := by
  have hneg : negatedOperand? ('(' :: '/' :: ' ' ::
      ((ds ++ ['.', '0']) ++ sep ++ (es ++ ['.', '0']) ++ [')'])) = none := by
    simp [negatedOperand?, show isBlank '/' = false by decide]
  rw [parseReal, hneg,
    quotientOperands?_eq hds.operand_point_zero hes.operand_point_zero hsep]
  simp [hds.isDecimalText_point_zero, hes.isDecimalText_point_zero, hds.decimalValue_point_zero,
    hes.decimalValue_point_zero, hq]

/-- `(- x)` reads as the negation of what `x` reads as, for an `x` on one
line. -/
theorem parseReal_negation (fuel : Nat) {body : List Char} {q : Rat} (hne : body ≠ [])
    (hhead : ∀ c ∈ body.head?, isBlank c = false) (hlast : ∀ c ∈ body.getLast?, isBlank c = false)
    (hnl : '\n' ∉ body) (hq : parseReal fuel body = .ok (some q)) :
    parseReal (fuel + 1) ('(' :: '-' :: ' ' :: (body ++ [')'])) = .ok (some (-q)) := by
  rw [parseReal, negatedOperand?_wrap hne hhead hlast, if_neg hnl]
  simp [hq, bind, Except.bind, pure, Except.pure]

/-- `(- x)` with a line break in `x` is no real numeral. -/
theorem parseReal_negation_of_newline (fuel : Nat) {body : List Char} (hne : body ≠ [])
    (hhead : ∀ c ∈ body.head?, isBlank c = false) (hlast : ∀ c ∈ body.getLast?, isBlank c = false)
    (hnl : '\n' ∈ body) :
    parseReal (fuel + 1) ('(' :: '-' :: ' ' :: (body ++ [')'])) = .ok none := by
  refine parseReal_paren fuel ?_ (quotientOperands?_negation _)
  rw [negatedOperand?_wrap hne hhead hlast, if_pos hnl]

theorem parseInteger_negation (fuel : Nat) {body : List Char} {v : Int} (hne : body ≠ [])
    (hhead : ∀ c ∈ body.head?, isBlank c = false) (hlast : ∀ c ∈ body.getLast?, isBlank c = false)
    (hnl : '\n' ∉ body) (hv : parseInteger fuel body = some v) :
    parseInteger (fuel + 1) ('(' :: '-' :: ' ' :: (body ++ [')'])) = some (-v) := by
  rw [parseInteger, negatedOperand?_wrap hne hhead hlast, if_neg hnl]
  simp [hv]

/-! ## Printed rationals -/

/-- The text of a nonnegative rational as it is printed: `p.0`, or
`(/ p.0 q.0)` with blanks between the operands. -/
inductive RealBody (q : Rat) : List Char → Prop
  | whole : q.den = 1 → RealBody q (Nat.toDigits 10 q.num.natAbs ++ ['.', '0'])
  | quotient {sep : List Char} : q.den ≠ 1 → Gap sep →
      RealBody q ('(' :: '/' :: ' ' :: ((Nat.toDigits 10 q.num.natAbs ++ ['.', '0']) ++ sep ++
        (Nat.toDigits 10 q.den ++ ['.', '0']) ++ [')']))

namespace RealBody

variable {q : Rat} {cs : List Char}

theorem ne_nil (h : RealBody q cs) : cs ≠ [] := by
  cases h <;> simp

theorem head_not_blank (h : RealBody q cs) : ∀ c ∈ cs.head?, isBlank c = false := by
  cases h with
  | whole => simpa using (digitRun_toDigits q.num.natAbs).head_not_blank ['.', '0']
  | quotient => simp only [List.head?_cons, Option.mem_def, Option.some.injEq, forall_eq']; decide

theorem last_not_blank (h : RealBody q cs) : ∀ c ∈ cs.getLast?, isBlank c = false := by
  cases h <;> simp [List.getLast?_cons, List.getLast?_append] <;> decide

/-- A printed nonnegative rational reads back as itself. -/
theorem parseReal (h : RealBody q cs) (hq : 0 ≤ q) (fuel : Nat) :
    Numeral.parseReal (fuel + 1) cs = .ok (some q) := by
  have hnum : ((q.num.natAbs : Nat) : Rat) = q.num := by
    rw [← Int.cast_natCast, Int.natAbs_of_nonneg (Rat.num_nonneg.mpr hq)]
  cases h with
  | whole hden =>
    rw [(digitRun_toDigits _).parseReal_point_zero, runValue_toDigits, hnum,
      (Rat.den_eq_one_iff q).mp hden]
  | quotient hden hsep =>
    have hq₀ : runValue 10 (Nat.toDigits 10 q.den) ≠ 0 := by
      rw [runValue_toDigits]
      exact q.den_nz
    rw [parseReal_quotient fuel (digitRun_toDigits _) (digitRun_toDigits _) hsep hq₀,
      runValue_toDigits, runValue_toDigits, hnum, Rat.num_div_den]

end RealBody

/-! ## Layout of numerals -/

section Layout

open Layout Doc

/-- Every layout of `d`, at any indentation and after any text, writes text
of which `P` holds. -/
def Writes (d : Doc) (P : List Char → Prop) : Prop :=
  ∀ i c, ∃ cs, P cs ∧ (place d i c).out.toList = c.out.toList ++ cs

theorem Writes.mono {d : Doc} {P Q : List Char → Prop} (h : Writes d P) (hPQ : ∀ cs, P cs → Q cs) :
    Writes d Q := by
  intro i c
  obtain ⟨cs, hP, hout⟩ := h i c
  exact ⟨cs, hPQ cs hP, hout⟩

theorem Writes.render {d : Doc} {P : List Char → Prop} (h : Writes d P) : P (render d).toList := by
  obtain ⟨cs, hP, hout⟩ := h 0 ⟨0, ""⟩
  rw [Doc.render, hout]
  simpa using hP

theorem writes_text (s : String) : Writes (.text s) (· = s.toList) :=
  fun _ _ => ⟨s.toList, rfl, by simp [place]⟩

/-- A layout of `d` after `(- `, closed by a parenthesis. -/
theorem Writes.negated {d : Doc} {P : List Char → Prop} (h : Writes d P) {i : Nat} {c c' : Cursor}
    (hc' : c'.out.toList = c.out.toList ++ ['(', '-', ' ']) :
    ∃ cs, (∃ b, P b ∧ cs = '(' :: '-' :: ' ' :: (b ++ [')'])) ∧
      (place d i c').out.toList ++ [')'] = c.out.toList ++ cs := by
  obtain ⟨b, hb, hout⟩ := h i c'
  exact ⟨_, ⟨b, hb, rfl⟩, by simp [hout, hc']⟩

/-- A negation writes `(- x)`, where `x` is a layout of the operand, flat or
not. -/
theorem writes_negDoc {d : Doc} {P : List Char → Prop} (hd : Writes d P) (hflat : Writes (flatten d) P) :
    Writes (Print.negDoc d) (fun cs => ∃ b, P b ∧ cs = '(' :: '-' :: ' ' :: (b ++ [')'])) := by
  intro i c
  simp only [Print.negDoc, seq1, group, lines, List.flatMap_nil, place]
  split
  · simpa [place, placeAll, flatten, flattenAll] using hflat.negated (by simp)
  · simpa [place, placeAll] using hd.negated (by simp)

/-- A quotient of two texts writes `(/ a b)`, with a blank or a line break
and indentation between the operands. -/
theorem writes_quotient (a b : String) :
    Writes (seq1 "/" [.text a, .text b])
      (fun cs => ∃ sep, Gap sep ∧ cs = '(' :: '/' :: ' ' :: (a.toList ++ sep ++ b.toList ++ [')'])) := by
  intro i c
  simp only [seq1, group, lines, List.flatMap_cons, List.flatMap_nil, place]
  split
  · exact ⟨_, ⟨[' '], gap_space, rfl⟩, by simp [place, placeAll, flatten, flattenAll]⟩
  · exact ⟨_, ⟨_, gap_break (i + ("/".utf8ByteSize + 2)), rfl⟩, by simp [place, placeAll]⟩

theorem writes_flatten_quotient (a b : String) :
    Writes (flatten (seq1 "/" [.text a, .text b]))
      (fun cs => ∃ sep, Gap sep ∧ cs = '(' :: '/' :: ' ' :: (a.toList ++ sep ++ b.toList ++ [')'])) :=
  fun _ _ => ⟨_, ⟨[' '], gap_space, rfl⟩, by simp [seq1, group, lines, place, placeAll, flatten, flattenAll]⟩

theorem toList_toString_of_nonneg {v : Int} (h : 0 ≤ v) :
    (toString v).toList = Nat.toDigits 10 v.natAbs := by
  obtain ⟨n, rfl⟩ := Int.eq_ofNat_of_zero_le h
  simp [toString, Int.repr, Nat.repr]

theorem toList_toString_nat (n : Nat) : (toString n).toList = Nat.toDigits 10 n := by
  simp [toString, Nat.repr]

theorem realDoc_of_neg {r : Rat} (h : r < 0) : Print.realDoc r = Print.negDoc (Print.realDoc (-r)) := by
  have hpos : ¬ -r < 0 := not_lt.mpr (le_of_lt (neg_pos.mpr h))
  simp [Print.realDoc, h, hpos]

section Nonneg

variable {r : Rat} (hr : 0 ≤ r)
include hr

/-- Both layouts of the numeral of a nonnegative rational print it. -/
theorem writes_realDoc_of_nonneg :
    Writes (Print.realDoc r) (RealBody r) ∧ Writes (flatten (Print.realDoc r)) (RealBody r) := by
  have hnum : (toString r.num ++ ".0").toList = Nat.toDigits 10 r.num.natAbs ++ ['.', '0'] := by
    rw [String.toList_append, toList_toString_of_nonneg (Rat.num_nonneg.mpr hr)]
    rfl
  have hden : (toString r.den ++ ".0").toList = Nat.toDigits 10 r.den ++ ['.', '0'] := by
    rw [String.toList_append, toList_toString_nat]
    rfl
  have hquot : ∀ cs, (∃ sep, Gap sep ∧ cs = '(' :: '/' :: ' ' :: ((toString r.num ++ ".0").toList ++
      sep ++ (toString r.den ++ ".0").toList ++ [')'])) → r.den ≠ 1 → RealBody r cs := by
    rintro cs ⟨sep, hsep, rfl⟩ hden₁
    rw [hnum, hden]
    exact .quotient hden₁ hsep
  simp only [Print.realDoc, not_lt.mpr hr, if_false]
  split
  case isTrue hden₁ =>
    have hwhole : Writes (.text (toString r.num ++ ".0")) (RealBody r) :=
      (writes_text _).mono fun cs hcs => by
        rw [hcs, hnum]
        exact .whole (by simpa using hden₁)
    exact ⟨hwhole, hwhole⟩
  case isFalse hden₁ =>
    have hden₁ : r.den ≠ 1 := by simpa using hden₁
    exact ⟨(writes_quotient _ _).mono fun cs hcs => hquot cs hcs hden₁,
      (writes_flatten_quotient _ _).mono fun cs hcs => hquot cs hcs hden₁⟩

end Nonneg

theorem writes_realDoc_of_neg {r : Rat} (hr : r < 0) :
    Writes (Print.realDoc r) (fun cs => ∃ b, RealBody (-r) b ∧ cs = '(' :: '-' :: ' ' :: (b ++ [')'])) := by
  have hpos : 0 ≤ -r := le_of_lt (neg_pos.mpr hr)
  rw [realDoc_of_neg hr]
  exact writes_negDoc (writes_realDoc_of_nonneg hpos).1 (writes_realDoc_of_nonneg hpos).2

end Layout

/-! ## The numeral format

What reading back asks of a printer is only the shape of numeral text. It is
stated as laws on any printer of terms, and the solver's printer keeps them
(`numeralFormat_termText`). -/

/-- The SMT-LIB text of numerals, as laws on a printer of terms: the Boolean
literals by name; an integer by its decimal digits, in `(- …)` when
negative; a nonnegative rational as `RealBody` has it, in `(- …)` when
negative; a bit-vector as `#x` and a hex digit per four bits when the width
allows, and as `#b` and a digit per bit otherwise, the digits giving its
value modulo the width. -/
structure NumeralFormat (print : Term → String) : Prop where
  bool : ∀ b, print (Term.ofBool b) = toString b
  int_nonneg : ∀ v : Int, 0 ≤ v → (print (Term.ofInt v)).toList = Nat.toDigits 10 v.natAbs
  int_neg : ∀ v : Int, v < 0 →
    (print (Term.ofInt v)).toList = '(' :: '-' :: ' ' :: (Nat.toDigits 10 v.natAbs ++ [')'])
  real_nonneg : ∀ r : Rat, 0 ≤ r → RealBody r (print (Term.ofRat r)).toList
  real_neg : ∀ r : Rat, r < 0 → ∃ b, RealBody (-r) b ∧
    (print (Term.ofRat r)).toList = '(' :: '-' :: ' ' :: (b ++ [')'])
  bits_hex : ∀ w n, w % 4 = 0 → ∃ ds, (print (Term.ofBits w n)).toList = '#' :: 'x' :: ds ∧
    ds.length = w / 4 ∧ (∀ c ∈ ds, ∃ d < 16, c = paddedDigit d) ∧ runValue 16 ds = n % 2 ^ w
  bits_bin : ∀ w n, w % 4 ≠ 0 → ∃ ds, (print (Term.ofBits w n)).toList = '#' :: 'b' :: ds ∧
    ds.length = w ∧ (∀ c ∈ ds, ∃ d < 2, c = paddedDigit d) ∧ runValue 2 ds = n % 2 ^ w

theorem termText_leaf (f : Fn) : Print.termText (.app f []) = Layout.Doc.render (Print.leafDoc f) := by
  unfold Print.termText Print.termDoc
  rfl

theorem render_text (s : String) : Layout.Doc.render (.text s) = s := by
  simp [Layout.Doc.render, Layout.Doc.place]

theorem termText_ofBits (w n : Nat) :
    Print.termText (Term.ofBits w n) = Print.bitsText w (n % 2 ^ w) := by
  rw [Term.ofBits, termText_leaf]
  exact render_text _

theorem termText_ofInt_of_nonneg {v : Int} (hv : 0 ≤ v) :
    (Print.termText (Term.ofInt v)).toList = Nat.toDigits 10 v.natAbs := by
  rw [Term.ofInt, termText_leaf]
  simp only [Print.leafDoc, Print.intDoc, if_pos hv, render_text, toList_toString_of_nonneg hv]

/-- A negative integer is printed `(- m)` on one line, whatever its length. -/
theorem termText_ofInt_of_neg {v : Int} (hv : v < 0) :
    (Print.termText (Term.ofInt v)).toList =
      '(' :: '-' :: ' ' :: (Nat.toDigits 10 v.natAbs ++ [')']) := by
  obtain ⟨b, hb, htext⟩ := (writes_negDoc (writes_text (toString v.natAbs)) (writes_text _)).render
  have hleaf : Print.leafDoc (.intLit v) = Print.negDoc (.text (toString v.natAbs)) := by
    simp [Print.leafDoc, Print.intDoc, not_le.mpr hv]
  rw [toList_toString_nat] at hb
  rw [Term.ofInt, termText_leaf, hleaf, htext, hb]

theorem termText_ofRat_of_nonneg {r : Rat} (hr : 0 ≤ r) :
    RealBody r (Print.termText (Term.ofRat r)).toList := by
  rw [Term.ofRat, termText_leaf]
  exact (writes_realDoc_of_nonneg hr).1.render

theorem termText_ofRat_of_neg {r : Rat} (hr : r < 0) :
    ∃ b, RealBody (-r) b ∧
      (Print.termText (Term.ofRat r)).toList = '(' :: '-' :: ' ' :: (b ++ [')']) := by
  rw [Term.ofRat, termText_leaf]
  exact (writes_realDoc_of_neg hr).render

/-- A width that is a multiple of four is printed with a hexadecimal digit
for every four bits. -/
theorem termText_ofBits_hex (w n : Nat) (h4 : w % 4 = 0) :
    ∃ ds, (Print.termText (Term.ofBits w n)).toList = '#' :: 'x' :: ds ∧
      ds.length = w / 4 ∧ (∀ c ∈ ds, ∃ d < 16, c = paddedDigit d) ∧ runValue 16 ds = n % 2 ^ w := by
  obtain ⟨ds, hgo, hlen, hdigits, hvalue⟩ := digitsPadded_go 16 (by decide) le_rfl (w / 4) (n % 2 ^ w) []
  have hpow : 16 ^ (w / 4) = 2 ^ w := by
    rw [show (16 : Nat) = 2 ^ 4 by rfl, ← Nat.pow_mul, Nat.mul_div_cancel' (Nat.dvd_of_mod_eq_zero h4)]
  refine ⟨ds, ?_, hlen, hdigits, by rw [hvalue, hpow, Nat.mod_mod]⟩
  rw [termText_ofBits]
  simp [Print.bitsText, h4, Print.digitsPadded, hgo]

/-- Any other width is printed with a binary digit for every bit. -/
theorem termText_ofBits_bin (w n : Nat) (h4 : w % 4 ≠ 0) :
    ∃ ds, (Print.termText (Term.ofBits w n)).toList = '#' :: 'b' :: ds ∧
      ds.length = w ∧ (∀ c ∈ ds, ∃ d < 2, c = paddedDigit d) ∧ runValue 2 ds = n % 2 ^ w := by
  obtain ⟨ds, hgo, hlen, hdigits, hvalue⟩ := digitsPadded_go 2 (by decide) (by decide) w (n % 2 ^ w) []
  refine ⟨ds, ?_, hlen, hdigits, by rw [hvalue, Nat.mod_mod]⟩
  rw [termText_ofBits]
  simp [Print.bitsText, h4, Print.digitsPadded, hgo]

/-- The solver's printer keeps the numeral format. -/
theorem numeralFormat_termText : NumeralFormat Print.termText where
  bool b := by cases b <;> rfl
  int_nonneg _ hv := termText_ofInt_of_nonneg hv
  int_neg _ hv := termText_ofInt_of_neg hv
  real_nonneg _ hr := termText_ofRat_of_nonneg hr
  real_neg _ hr := termText_ofRat_of_neg hr
  bits_hex w n h4 := termText_ofBits_hex w n h4
  bits_bin w n h4 := termText_ofBits_bin w n h4

/-! ## Reading printed numerals back -/

/-- Text at a sort other than a bit-vector sort is read as a plain value. -/
theorem mkValue_plain {sort : SmtSort} (hsort : sort.isBitVec = false) (s : String) :
    Values.mkValue (.sort ⟨sort, none⟩) (.text s) none = Values.plainValue (.sort ⟨sort, none⟩) (.text s) := by
  simp [Values.mkValue, Handle.sortView, SortHandle.isBv, hsort]

theorem mkValue_int {s : String} {v : Int} (h : integerNumeral (trimChars s.toList) = some v) :
    Values.mkValue (.sort ⟨.int, none⟩) (.text s) none = .ok ⟨Term.ofInt v, none⟩ := by
  rw [mkValue_plain rfl]
  simp [Values.plainValue, h, Handle.sortView, SortHandle.isBool, SortHandle.isInt]
  rfl

theorem mkValue_real {s : String} {r : Rat} (h : realNumeral (trimChars s.toList) = .ok (some r)) :
    Values.mkValue (.sort ⟨.real, none⟩) (.text s) none = .ok ⟨Term.ofRat r, none⟩ := by
  rw [mkValue_plain rfl]
  simp [Values.plainValue, h, Handle.sortView, SortHandle.isBool, SortHandle.isInt, SortHandle.isReal]
  rfl

theorem mkValue_real_malformed {s : String} (h : realNumeral (trimChars s.toList) = .ok none) :
    Values.mkValue (.sort ⟨.real, none⟩) (.text s) none =
      .error (.config s!"Malformed real numeral '{s}'") := by
  rw [mkValue_plain rfl]
  simp [Values.plainValue, h, Handle.sortView, SortHandle.isBool, SortHandle.isInt, SortHandle.isReal]
  rfl

theorem trimChars_of_not_blank {cs : List Char} (h : ∀ c ∈ cs, isBlank c = false) :
    trimChars cs = cs :=
  trimChars_eq_self (fun c hc => h c (List.mem_of_mem_head? hc))
    (fun c hc => h c (List.mem_of_getLast? hc))

theorem isBlank_paddedDigit {d : Nat} (h : d < 16) : isBlank (paddedDigit d) = false := by
  have hall : ∀ d < 16, isBlank (paddedDigit d) = false := by decide
  exact hall d h

theorem paddedDigit_ne_minus {d : Nat} (h : d < 16) : paddedDigit d ≠ '-' := by
  have hall : ∀ d < 16, paddedDigit d ≠ '-' := by decide
  exact hall d h

theorem not_blank_of_padded {ds : List Char} (hdigits : ∀ c ∈ ds, ∃ d < 16, c = paddedDigit d) :
    ∀ c ∈ ds, isBlank c = false := by
  intro c hc
  obtain ⟨d, hd, rfl⟩ := hdigits c hc
  exact isBlank_paddedDigit hd

/-- A bit-vector literal `#x…` or `#b…` has no blank to trim. -/
theorem literal_not_blank (base : Char) (hbase : isBlank base = false) {ds : List Char}
    (hdigits : ∀ c ∈ ds, ∃ d < 16, c = paddedDigit d) :
    ∀ c ∈ '#' :: base :: ds, isBlank c = false := by
  intro c hc
  rcases List.mem_cons.mp hc with rfl | hc
  · decide
  rcases List.mem_cons.mp hc with rfl | hc
  · exact hbase
  · exact not_blank_of_padded hdigits c hc

/-- Padded digits in a base make the bit-vector of their value, when it fits
the width. -/
theorem bvValue_digits {w : Nat} {b : Base} {ds : List Char} (hw : 0 < w) (hne : ds ≠ [])
    (hdigits : ∀ c ∈ ds, ∃ d < 16, c = paddedDigit d) (haccepts : b.accepts ds = true)
    (hlt : runValue b.radix ds < 2 ^ w) :
    Values.bvValue (.sort ⟨.bitVec w, none⟩) (.text (String.ofList ds)) (.known b) =
      .ok ⟨Term.ofBits w (runValue b.radix ds), none⟩ := by
  have hvalue : b.value ds = runValue b.radix ds := by
    obtain ⟨c, cs, rfl⟩ := List.exists_cons_of_ne_nil hne
    obtain ⟨d, hd, rfl⟩ := hdigits _ List.mem_cons_self
    simp [Base.value, paddedDigit_ne_minus hd]
  have hlt' : ((runValue b.radix ds : Nat) : Int) < 2 ^ w := by exact_mod_cast hlt
  have hnonneg : ¬ ((runValue b.radix ds : Nat) : Int) < 0 := by omega
  simp [Values.bvValue, bvNumeralValue, Handle.sortView, SortHandle.isBv, SmtSort.isBitVec, checkConfig,
    Values.ValueArg.quoted, SmtSort.width, trimChars_of_not_blank (not_blank_of_padded hdigits), haccepts, hvalue, hlt', hnonneg, hw,
    Handle.asSort]
  rfl

theorem mkValue_hex_literal {w : Nat} {ds : List Char} (h4 : w % 4 = 0) (hlen : ds.length = w / 4)
    (hdigits : ∀ c ∈ ds, ∃ d < 16, c = paddedDigit d) :
    Values.mkValue (.sort ⟨.bitVec w, none⟩) (.text (String.ofList ('#' :: 'x' :: ds))) none =
      Values.bvValue (.sort ⟨.bitVec w, none⟩) (.text (String.ofList ds)) (.known .hex) := by
  simp [Values.mkValue, Values.bvLiteral, Handle.sortView, SortHandle.isBv, SmtSort.isBitVec,
    SmtSort.width, checkConfig, trimChars_of_not_blank (literal_not_blank 'x' (by decide) hdigits), h4, hlen]
  rfl

theorem mkValue_binary_literal {w : Nat} {ds : List Char} (hlen : ds.length = w)
    (hdigits : ∀ c ∈ ds, ∃ d < 16, c = paddedDigit d) :
    Values.mkValue (.sort ⟨.bitVec w, none⟩) (.text (String.ofList ('#' :: 'b' :: ds))) none =
      Values.bvValue (.sort ⟨.bitVec w, none⟩) (.text (String.ofList ds)) (.known .bin) := by
  simp [Values.mkValue, Values.bvLiteral, Handle.sortView, SortHandle.isBv, SmtSort.isBitVec,
    SmtSort.width, checkConfig, trimChars_of_not_blank (literal_not_blank 'b' (by decide) hdigits), hlen]
  rfl

theorem ofBits_mod (w n : Nat) : Term.ofBits w (n % 2 ^ w) = Term.ofBits w n := by
  simp [Term.ofBits, Nat.pow_eq]

theorem trimChars_negation (body : List Char) :
    trimChars ('(' :: '-' :: ' ' :: (body ++ [')'])) = '(' :: '-' :: ' ' :: (body ++ [')']) :=
  trimChars_eq_self (by simp only [List.head?_cons, Option.mem_def, Option.some.injEq, forall_eq']; decide)
    (by simp [List.getLast?_cons, List.getLast?_append]; decide)

/-- A numeral reads back at its sort when `mkValue` without a base, given the
numeral's text as `print` writes it, makes the numeral again. -/
def ReadsBack (print : Term → String) (sort : SmtSort) (t : Term) : Prop :=
  Values.mkValue (.sort ⟨sort, none⟩) (.text (print t)) none = .ok ⟨t, none⟩

/-- A bit-vector numeral printed as a literal whose digits, in the literal's
base, give its value modulo the width reads back. -/
theorem readsBack_of_literal {print : Term → String} {w n : Nat} {b : Base} {base : Char}
    {ds : List Char} (hw : 0 < w) (htext : (print (Term.ofBits w n)).toList = '#' :: base :: ds)
    (hmk : Values.mkValue (.sort ⟨.bitVec w, none⟩) (.text (String.ofList ('#' :: base :: ds))) none =
      Values.bvValue (.sort ⟨.bitVec w, none⟩) (.text (String.ofList ds)) (.known b))
    (hne : ds ≠ []) (hdigits : ∀ c ∈ ds, ∃ d < 16, c = paddedDigit d)
    (haccepts : b.accepts ds = true) (hvalue : runValue b.radix ds = n % 2 ^ w) :
    ReadsBack print (.bitVec w) (Term.ofBits w n) := by
  have htext' : print (Term.ofBits w n) = String.ofList ('#' :: base :: ds) := by
    rw [← String.toList_inj, htext, String.toList_ofList]
  unfold ReadsBack
  rw [htext', hmk, bvValue_digits hw hne hdigits haccepts
    (by rw [hvalue]; exact Nat.mod_lt _ (Nat.two_pow_pos w))]
  simp [hvalue, ofBits_mod]

section Printer

variable {print : Term → String} (hp : NumeralFormat print)
include hp

theorem readsBack_bool (b : Bool) : ReadsBack print .bool (Term.ofBool b) := by
  unfold ReadsBack
  rw [hp.bool]
  cases b <;> rfl

theorem readsBack_int (v : Int) : ReadsBack print .int (Term.ofInt v) := by
  apply mkValue_int
  have hrun := digitRun_toDigits v.natAbs
  rcases le_or_gt 0 v with hv | hv
  case inl =>
    -- the digits of `v`
    rw [hp.int_nonneg v hv, trimChars_of_not_blank fun c hc => isBlank_of_isAsciiDigit (hrun.digits c hc),
      integerNumeral, hrun.parseInteger_eq, runValue_toDigits, Int.natAbs_of_nonneg hv]
  case inr =>
    -- `(- m)` with the digits of `m = -v`
    have hnl : '\n' ∉ Nat.toDigits 10 v.natAbs :=
      hrun.not_mem (show isAsciiDigit '\n' = false by decide)
    rw [hp.int_neg v hv, trimChars_negation]
    simp only [integerNumeral, List.length_cons]
    rw [parseInteger_negation _ hrun.ne_nil (by simpa using hrun.head_not_blank []) ?hlast hnl (hrun.parseInteger_eq _),
      runValue_toDigits, Int.ofNat_natAbs_of_nonpos hv.le, neg_neg]
    case hlast =>
      intro c hc
      exact isBlank_of_isAsciiDigit (hrun.digits c (List.mem_of_getLast? hc))

/-- A rational reads back exactly when it is nonnegative or its printed text
is on one line. -/
theorem readsBack_real_iff (r : Rat) :
    ReadsBack print .real (Term.ofRat r) ↔ 0 ≤ r ∨ '\n' ∉ (print (Term.ofRat r)).toList := by
  unfold ReadsBack
  rcases le_or_gt 0 r with hr | hr
  case inl =>
    have hbody : RealBody r (print (Term.ofRat r)).toList := hp.real_nonneg r hr
    refine iff_of_true (mkValue_real ?_) (Or.inl hr)
    rw [trimChars_eq_self hbody.head_not_blank hbody.last_not_blank, realNumeral]
    exact hbody.parseReal hr _
  case inr =>
    -- `(- x)`, where `x` is the text of `-r`
    obtain ⟨b, hb, htext⟩ := hp.real_neg r hr
    have hpos : 0 ≤ -r := le_of_lt (neg_pos.mpr hr)
    have hnot : ¬ 0 ≤ r := not_le.mpr hr
    by_cases hnl : '\n' ∈ b
    case pos =>
      have hmalformed := mkValue_real_malformed (s := print (Term.ofRat r)) (by
        rw [htext, trimChars_negation, realNumeral]
        exact parseReal_negation_of_newline _ hb.ne_nil hb.head_not_blank hb.last_not_blank hnl)
      rw [hmalformed, htext]
      simp [hnot, hnl]
    case neg =>
      have hok := mkValue_real (s := print (Term.ofRat r)) (by
        rw [htext, trimChars_negation, realNumeral]
        exact parseReal_negation _ hb.ne_nil hb.head_not_blank hb.last_not_blank hnl (hb.parseReal hpos _))
      rw [neg_neg] at hok
      rw [hok, htext]
      simp [hnl, Term.ofRat]

theorem readsBack_bits (w n : Nat) (hw : 0 < w) : ReadsBack print (.bitVec w) (Term.ofBits w n) := by
  by_cases h4 : w % 4 = 0
  case pos =>
    -- a hexadecimal digit for every four bits
    obtain ⟨ds, htext, hlen, hdigits, hvalue⟩ := hp.bits_hex w n h4
    have hne : ds ≠ [] := List.ne_nil_of_length_pos (by omega)
    have haccepts : Base.accepts .hex ds = true := by
      simp only [Base.accepts, allOf, List.isEmpty_eq_false_iff.mpr hne, Bool.not_false, Bool.true_and,
        List.all_eq_true]
      intro c hc
      obtain ⟨d, hd, rfl⟩ := hdigits c hc
      exact isHexDigit_paddedDigit hd
    exact readsBack_of_literal hw htext (mkValue_hex_literal h4 hlen hdigits) hne
      hdigits haccepts hvalue
  case neg =>
    -- a binary digit for every bit
    obtain ⟨ds, htext, hlen, hdigits, hvalue⟩ := hp.bits_bin w n h4
    have hne : ds ≠ [] := List.ne_nil_of_length_pos (by omega)
    have hdigits' : ∀ c ∈ ds, ∃ d < 16, c = paddedDigit d := fun c hc => by
      obtain ⟨d, hd, rfl⟩ := hdigits c hc
      exact ⟨d, by omega, rfl⟩
    have haccepts : Base.accepts .bin ds = true := by
      simp only [Base.accepts, allOf, List.isEmpty_eq_false_iff.mpr hne, Bool.not_false, Bool.true_and,
        List.all_eq_true]
      intro c hc
      obtain ⟨d, hd, rfl⟩ := hdigits c hc
      exact paddedDigit_binary hd
    exact readsBack_of_literal hw htext (mkValue_binary_literal hlen hdigits') hne
      hdigits' haccepts hvalue

end Printer

/-- For every printer that keeps the numeral format, every Boolean, integer
and bit-vector numeral reads back from its printed text; a rational does
exactly when it is nonnegative or printed on one line. -/
theorem printed_numerals_read_back (print : Term → String) (hp : NumeralFormat print)
    (b : Bool) (v : Int) (r : Rat) (w n : Nat) :
    ReadsBack print .bool (Term.ofBool b) ∧ ReadsBack print .int (Term.ofInt v) ∧
      (ReadsBack print .real (Term.ofRat r) ↔ 0 ≤ r ∨ '\n' ∉ (print (Term.ofRat r)).toList) ∧
      (0 < w → ReadsBack print (.bitVec w) (Term.ofBits w n)) :=
  ⟨readsBack_bool hp b, readsBack_int hp v, readsBack_real_iff hp r, readsBack_bits hp w n⟩

/-- The solver's printer on a six-bit literal and on `-1/3`. -/
theorem short_numerals_read_back :
    NumeralFormat Print.termText ∧ ReadsBack Print.termText (.bitVec 6) (Term.ofBits 6 45) ∧
      ReadsBack Print.termText .real (Term.ofRat (-1 / 3)) :=
  ⟨numeralFormat_termText,
    (printed_numerals_read_back Print.termText numeralFormat_termText true 0 (-1 / 3) 6 45).2.2.2
      (by decide),
    (printed_numerals_read_back Print.termText numeralFormat_termText true 0 (-1 / 3) 6 45).2.2.1.mpr
      (Or.inr (by decide +kernel))⟩

/-- The text of `-p/q` for two forty-digit `p` and `q` is broken after the
numerator, and does not read back. -/
theorem long_negative_quotient_does_not_read_back :
    let r : Rat := -1234567890123456789012345678901234567890 / 1234567890123456789012345678901234567891;
    Print.termText (Term.ofRat r) = "(- (/ 1234567890123456789012345678901234567890.0\n      1234567890123456789012345678901234567891.0))" ∧
      Values.mkValue (.sort ⟨.real, none⟩) (.text (Print.termText (Term.ofRat r))) none =
        .error (.config "Malformed real numeral '(- (/ 1234567890123456789012345678901234567890.0\n      1234567890123456789012345678901234567891.0))'") := by
  intro r
  have htext : Print.termText (Term.ofRat r) = "(- (/ 1234567890123456789012345678901234567890.0\n      1234567890123456789012345678901234567891.0))" := by
    rw [Term.ofRat, termText_leaf]
    decide +kernel
  refine ⟨htext, ?_⟩
  rw [htext]
  set_option maxRecDepth 10000 in rfl

end SmtBackend
