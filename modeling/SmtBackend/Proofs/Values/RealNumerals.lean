import Mathlib.Algebra.Order.Field.Basic
import SmtBackend.Proofs.Values.IntegerNumerals

/-!
# Real numerals

A real numeral is a decimal `-?[0-9]+(.[0-9]+)?`, a fraction
`-?[0-9]+/[0-9]+`, a quotient `(/ a b)` of two unsigned decimals with blanks
as SMT-LIB allows them, or `(- x)` around a real numeral (`RealText`). Each
denotes an exact rational: a decimal its whole part plus its digits after
the point over a power of ten, a fraction and a quotient the quotient of
their parts, a negation minus its operand. A zero denominator, in a fraction
or a quotient, under any number of negations, is a configuration failure
(`ZeroDivision`).

Making a value of the integer sort from text succeeds exactly on the
integer numerals, and of the real sort exactly on the real numerals, each
with the value it denotes; every other text fails with a configuration
failure (`arithmetic_numerals_read`).
-/

namespace SmtBackend

open Text Numeral

/-! ## Decimals -/

/-- An unsigned decimal `[0-9]+(\.[0-9]+)?`, with the rational it denotes. -/
inductive Unsigned : List Char → Rat → Prop
  | whole {ds : List Char} : DigitRun ds → Unsigned ds (Base.dec.worth ds)
  | point {ds fs : List Char} : DigitRun ds → DigitRun fs →
      Unsigned (ds ++ '.' :: fs) (Base.dec.worth ds + Base.dec.worth fs / 10 ^ fs.length)

/-- A decimal `-?[0-9]+(\.[0-9]+)?`, with the rational it denotes. -/
inductive DecimalText : List Char → Rat → Prop
  | plain {cs : List Char} {q : Rat} : Unsigned cs q → DecimalText cs q
  | negated {cs : List Char} {q : Rat} : Unsigned cs q → DecimalText ('-' :: cs) (-q)

theorem isDecimalText_minus {rest : List Char} (h : ∀ c ∈ rest.head?, c ≠ '-') :
    isDecimalText ('-' :: rest) = isDecimalText rest := by
  cases rest with
  | nil => rfl
  | cons c tl =>
    have hc : c ≠ '-' := h c rfl
    simp [isDecimalText, hc]

theorem decimalValue_minus {rest : List Char} (h : ∀ c ∈ rest.head?, c ≠ '-') :
    decimalValue ('-' :: rest) = -decimalValue rest := by
  cases rest with
  | nil => rfl
  | cons c tl =>
    have hc : c ≠ '-' := h c rfl
    simp [decimalValue, hc]

/-- Without a sign, a decimal is read as its digits, those after the point
included, over the power of ten of the digits after the point. -/
theorem decimalValue_of_head {cs : List Char} (hc : ∀ c ∈ cs.head?, c ≠ '-') :
    decimalValue cs =
      (runValue 10 (cs.takeWhile isAsciiDigit ++ cs.drop ((cs.takeWhile isAsciiDigit).length + 1)) : Rat) /
        ((Nat.pow 10 (cs.drop ((cs.takeWhile isAsciiDigit).length + 1)).length : Nat) : Rat) := by
  simp only [decimalValue]
  split
  · exact absurd rfl (hc '-' rfl)
  · rfl

/-- What the decimal check accepts, without a sign, is an unsigned decimal. -/
theorem unsigned_of_isDecimalText {cs : List Char} (hc : ∀ c ∈ cs.head?, c ≠ '-')
    (h : isDecimalText cs = true) : ∃ q, Unsigned cs q := by
  unfold isDecimalText at h
  split at h
  · exact absurd rfl (hc '-' rfl)
  simp only [Bool.and_eq_true, Bool.not_eq_true', List.isEmpty_eq_false_iff,
    drop_takeWhile_length] at h
  obtain ⟨hwhole, hrest⟩ := h
  have hrun : DigitRun (cs.takeWhile isAsciiDigit) := ⟨hwhole, fun _ => List.mem_takeWhile_imp⟩
  have hsplit := List.takeWhile_append_dropWhile (p := isAsciiDigit) (l := cs)
  -- after the whole part: nothing, or a point and the digits after it
  split at hrest
  · rename_i hnil
    rw [hnil, List.append_nil] at hsplit
    rw [← hsplit]
    exact ⟨_, .whole hrun⟩
  · rename_i frac hfrac
    obtain ⟨hne, hdig⟩ := allOf_iff.mp hrest
    rw [hfrac] at hsplit
    rw [← hsplit]
    exact ⟨_, .point hrun ⟨hne, hdig⟩⟩
  · cases hrest

theorem runValue_dec (ds : List Char) : runValue 10 ds = Base.dec.worth ds :=
  runValue_eq_worth .dec ds

theorem runValue_point (ds fs : List Char) :
    (runValue 10 (ds ++ fs) : Rat) / ((Nat.pow 10 fs.length : Nat) : Rat) =
      Base.dec.worth ds + Base.dec.worth fs / 10 ^ fs.length := by
  have hpow : (10 : Rat) ^ fs.length ≠ 0 := pow_ne_zero _ (by norm_num)
  rw [runValue_append, Nat.pow_eq, runValue_dec, runValue_dec]
  push_cast
  rw [add_div, mul_div_cancel_right₀ _ hpow]

namespace Unsigned

variable {cs : List Char} {q : Rat}

theorem head_ne_minus (h : Unsigned cs q) : ∀ c ∈ cs.head?, c ≠ '-' := by
  -- both forms start with the first digit of the whole part
  have hds : ∃ ds rest, cs = ds ++ rest ∧ DigitRun ds := by
    rcases h with hd | ⟨hd, -⟩
    · exact ⟨_, [], (List.append_nil _).symm, hd⟩
    · exact ⟨_, _, rfl, hd⟩
  obtain ⟨ds, rest, rfl, hd⟩ := hds
  obtain ⟨c, cs, rfl, hc⟩ := hd.exists_cons
  rintro d hd
  cases hd
  exact ne_of_isAsciiDigit hc (by decide)

theorem isDecimalText (h : Unsigned cs q) : Numeral.isDecimalText cs = true := by
  have hhead := h.head_ne_minus
  unfold Numeral.isDecimalText
  split
  · exact absurd rfl (hhead '-' rfl)
  dsimp only
  cases h with
  | whole hd =>
    rw [List.takeWhile_eq_self_iff.mpr hd.digits, List.drop_length]
    simp [hd.ne_nil]
  | point hd hf =>
    rw [takeWhile_append_stop hd.digits (head_mem_false (by decide : isAsciiDigit '.' = false) _),
      List.drop_left]
    simp [hd.ne_nil, allOf_iff.mpr ⟨hf.ne_nil, hf.digits⟩]

theorem decimalValue (h : Unsigned cs q) : Numeral.decimalValue cs = q := by
  rw [decimalValue_of_head h.head_ne_minus]
  cases h with
  | whole hd =>
    rw [List.takeWhile_eq_self_iff.mpr hd.digits, List.drop_of_length_le (by omega), List.append_nil,
      runValue_dec]
    simp
  | point hd hf =>
    rename_i ds fs
    have hfrac : (ds ++ '.' :: fs).drop (ds.length + 1) = fs := by
      simp
    rw [takeWhile_append_stop hd.digits (head_mem_false (by decide : isAsciiDigit '.' = false) _),
      hfrac, runValue_point]

theorem decimalChars (h : Unsigned cs q) : ∀ c ∈ cs, isDecimalChar c = true := by
  cases h with
  | whole hd => exact fun c hc => isDecimalChar_of_isAsciiDigit (hd.digits c hc)
  | point hd hf =>
    intro c hc
    rcases List.mem_append.mp hc with hc | hc | ⟨_, hc⟩
    · exact isDecimalChar_of_isAsciiDigit (hd.digits c hc)
    · rfl
    · exact isDecimalChar_of_isAsciiDigit (hf.digits c hc)

theorem operand (h : Unsigned cs q) : Operand cs := by
  refine ⟨?_, h.decimalChars⟩
  cases h with
  | whole hd => exact hd.ne_nil
  | point => simp

end Unsigned

/-- An operand of a quotient that the decimal check accepts is an unsigned
decimal of the value it is read as. -/
theorem Operand.unsigned {cs : List Char} (h : Operand cs) (hdec : isDecimalText cs = true) :
    Unsigned cs (decimalValue cs) := by
  have hhead : ∀ c ∈ cs.head?, c ≠ '-' := by
    rintro c hc rfl
    have := h.decimal '-' (List.mem_of_mem_head? hc)
    cases this
  obtain ⟨q, hq⟩ := unsigned_of_isDecimalText hhead hdec
  rw [hq.decimalValue]
  exact hq

/-- The decimal check accepts exactly the decimals, and reads each as the
rational it denotes. -/
theorem decimalText_iff {cs : List Char} {q : Rat} :
    isDecimalText cs = true ∧ decimalValue cs = q ↔ DecimalText cs q := by
  constructor
  · rintro ⟨h, rfl⟩
    cases cs with
    | nil => cases h
    | cons c rest =>
      by_cases hc : c = '-'
      · -- a minus, then an unsigned decimal: a second minus is no digit
        subst hc
        have hrest : ∀ d ∈ rest.head?, d ≠ '-' := by
          rintro d hd rfl
          obtain ⟨r, rfl⟩ := List.head?_eq_some_iff.mp hd
          simp [isDecimalText, show isAsciiDigit '-' = false by decide] at h
        rw [isDecimalText_minus hrest] at h
        obtain ⟨q, hq⟩ := unsigned_of_isDecimalText hrest h
        rw [decimalValue_minus hrest, hq.decimalValue]
        exact .negated hq
      · have hhead : ∀ d ∈ (c :: rest).head?, d ≠ '-' := by
          rintro d hd rfl
          cases hd
          exact hc rfl
        obtain ⟨q, hq⟩ := unsigned_of_isDecimalText hhead h
        rw [hq.decimalValue]
        exact .plain hq
  · rintro (hq | hq)
    · exact ⟨hq.isDecimalText, hq.decimalValue⟩
    · rw [isDecimalText_minus hq.head_ne_minus, decimalValue_minus hq.head_ne_minus, hq.decimalValue]
      exact ⟨hq.isDecimalText, rfl⟩

/-! ## Fractions -/

theorem Denotes.not_mem {b : Base} {cs : List Char} {v : Int} (h : Denotes b cs v) {c : Char}
    (hc : b.digit c = false) (hminus : c ≠ '-') : c ∉ cs := by
  rcases h with ⟨-, hdig⟩ | ⟨-, -, hdig⟩
  · exact fun hm => by rw [hdig c hm] at hc; cases hc
  · rintro (_ | ⟨_, hm⟩)
    · exact hminus rfl
    · rw [hdig c hm] at hc
      cases hc

/-- The reader of fractions cuts the text at its slash into an integer
numeral and a run of digits. -/
theorem fractionParts?_eq_some_iff {cs n d : List Char} :
    fractionParts? cs = some (n, d) ↔
      cs = n ++ '/' :: d ∧ isIntegerText n = true ∧ allOf isAsciiDigit d = true := by
  constructor
  · intro h
    unfold fractionParts? at h
    split at h
    · rename_i n' d' hsplit
      split_ifs at h with hcheck
      cases h
      simp only [Bool.and_eq_true] at hcheck
      refine ⟨?_, hcheck⟩
      -- the parts joined at the slash give the text back
      have hjoin : ['/'].intercalate (cs.splitOn '/') = cs := List.intercalate_splitOn '/'
      rw [hsplit] at hjoin
      simpa using hjoin.symm
    · cases h
  · rintro ⟨rfl, hn, hd⟩
    have hslash_n : '/' ∉ n :=
      (Base.denotes_of_accepts (b := .dec) hn).not_mem (by decide) (by decide)
    have hslash_d : '/' ∉ d := fun hm => by
      have := (allOf_iff.mp hd).2 '/' hm
      cases this
    have hsplit : (['/'].intercalate [n, d]).splitOn '/' = [n, d] :=
      List.splitOn_intercalate '/' (by simp [hslash_n, hslash_d]) (by simp)
    simp only [List.intercalate_cons_cons, List.intercalate_singleton, List.append_assoc,
      List.singleton_append] at hsplit
    simp [fractionParts?, hsplit, hn, hd]

/-! ## Quotients -/

/-- Text of the form `(/ a b)` (`\(\s*/\s+([0-9.]+)\s+([0-9.]+)\s*\)`), with its two
operands: runs of digits and points, with blanks as SMT-LIB allows them. -/
inductive QuotientOf : List Char → List Char → List Char → Prop
  | mk {pre gap₁ a gap₂ b post : List Char} (lead : ∀ c ∈ pre, isBlank c = true) (sep₁ : Gap gap₁)
      (num : Operand a) (sep₂ : Gap gap₂) (den : Operand b) (trail : ∀ c ∈ post, isBlank c = true) :
      QuotientOf ('(' :: pre ++ '/' :: gap₁ ++ a ++ gap₂ ++ b ++ post ++ [')']) a b

theorem Gap.head_not_decimal {sp : List Char} (h : Gap sp) (rest : List Char) :
    ∀ c ∈ (sp ++ rest).head?, isDecimalChar c = false := by
  obtain ⟨c, cs, rfl⟩ := List.exists_cons_of_ne_nil h.ne_nil
  intro d hd
  cases hd
  exact isDecimalChar_of_isBlank (h.blank c List.mem_cons_self)

theorem trail_not_decimal {sp : List Char} (h : ∀ c ∈ sp, isBlank c = true) :
    ∀ c ∈ (sp ++ [')']).head?, isDecimalChar c = false := by
  cases sp with
  | nil => intro c hc; cases hc; decide
  | cons c cs =>
    intro d hd
    cases hd
    exact isDecimalChar_of_isBlank (h c List.mem_cons_self)

theorem quotientOperands?_of_form {cs a b : List Char} (h : QuotientOf cs a b) :
    quotientOperands? cs = some (a, b) := by
  obtain ⟨lead, sep₁, num, sep₂, den, trail⟩ := h
  rename_i pre gap₁ gap₂ post
  -- each piece ends where the next begins: at a character of another class
  have hslash := dropWhile_blanks_append lead (by decide : isBlank '/' = false)
    (gap₁ ++ (a ++ (gap₂ ++ (b ++ (post ++ [')'])))))
  have hsp₁ := takeWhile_append_stop sep₁.blank (num.head_not_blank (gap₂ ++ (b ++ (post ++ [')']))))
  have ha := takeWhile_append_stop num.decimal (sep₂.head_not_decimal (b ++ (post ++ [')'])))
  have hsp₂ := takeWhile_append_stop sep₂.blank (den.head_not_blank (post ++ [')']))
  have hb := takeWhile_append_stop den.decimal (trail_not_decimal trail)
  have htrail := dropWhile_blanks_append trail (by decide : isBlank ')' = false) []
  simp only [List.cons_append, List.append_assoc, quotientOperands?, hslash, hsp₁, List.drop_left,
    ha, hsp₂, hb, htrail]
  simp [sep₁.ne_nil, num.ne_nil, sep₂.ne_nil, den.ne_nil]

theorem form_of_quotientOperands? {cs a b : List Char} (h : quotientOperands? cs = some (a, b)) :
    QuotientOf cs a b := by
  unfold quotientOperands? at h
  split at h
  · rename_i rest
    split at h
    · rename_i after hslash
      simp only [drop_takeWhile_length] at h
      split_ifs at h with hcond
      simp only [Option.some.injEq, Prod.mk.injEq] at h
      obtain ⟨rfl, rfl⟩ := h
      simp only [Bool.and_eq_true, Bool.not_eq_true', List.isEmpty_eq_false_iff, beq_iff_eq] at hcond
      obtain ⟨⟨⟨⟨hsp₁, ha⟩, hsp₂⟩, hb⟩, htrail⟩ := hcond
      -- the text is the pieces the reader cut, put back together
      have hcs : '(' :: rest = '(' :: rest.takeWhile isBlank ++ '/' :: after.takeWhile isBlank ++
          (after.dropWhile isBlank).takeWhile isDecimalChar ++
          ((after.dropWhile isBlank).dropWhile isDecimalChar).takeWhile isBlank ++
          (((after.dropWhile isBlank).dropWhile isDecimalChar).dropWhile isBlank).takeWhile isDecimalChar ++
          ((((after.dropWhile isBlank).dropWhile isDecimalChar).dropWhile isBlank).dropWhile
            isDecimalChar).takeWhile isBlank ++ [')'] := by
        simp only [List.cons_append, List.append_assoc]
        rw [← htrail]
        simp only [List.takeWhile_append_dropWhile]
        rw [← hslash, List.takeWhile_append_dropWhile]
      rw [hcs]
      exact .mk (fun _ => List.mem_takeWhile_imp) ⟨hsp₁, fun _ => List.mem_takeWhile_imp⟩
        ⟨ha, fun _ => List.mem_takeWhile_imp⟩ ⟨hsp₂, fun _ => List.mem_takeWhile_imp⟩
        ⟨hb, fun _ => List.mem_takeWhile_imp⟩ (fun _ => List.mem_takeWhile_imp)
    · cases h
  · cases h

theorem QuotientOf.operands {cs a b : List Char} (h : QuotientOf cs a b) : Operand a ∧ Operand b := by
  obtain ⟨-, -, num, -, den, -⟩ := h
  exact ⟨num, den⟩

theorem quotientOperands?_eq_some_iff {cs a b : List Char} :
    quotientOperands? cs = some (a, b) ↔ QuotientOf cs a b :=
  ⟨form_of_quotientOperands?, quotientOperands?_of_form⟩

/-! ## Real numerals -/

/-- The real numerals, with the rational each denotes: decimals, fractions
and quotients whose denominator is not zero, and `(- x)` around a real
numeral once `x` is stripped of blanks, which denotes minus the operand. -/
inductive RealText : List Char → Rat → Prop
  | decimal {cs : List Char} {q : Rat} : DecimalText cs q → RealText cs q
  | fraction {ns ds : List Char} {n : Int} : Denotes .dec ns n → DigitRun ds →
      Base.dec.worth ds ≠ 0 → RealText (ns ++ '/' :: ds) (n / Base.dec.worth ds)
  | quotient {cs a b : List Char} {p q : Rat} : QuotientOf cs a b → Unsigned a p → Unsigned b q →
      q ≠ 0 → RealText cs (p / q)
  | negation {cs x : List Char} {q : Rat} : Negation cs x → RealText (trimChars x) q →
      RealText cs (-q)

/-- The real numerals but for a zero denominator: a fraction or a quotient
whose denominator denotes zero, under any number of negations. -/
inductive ZeroDivision : List Char → Prop
  | fraction {ns ds : List Char} {n : Int} : Denotes .dec ns n → DigitRun ds →
      Base.dec.worth ds = 0 → ZeroDivision (ns ++ '/' :: ds)
  | quotient {cs a b : List Char} {p : Rat} : QuotientOf cs a b → Unsigned a p → Unsigned b 0 →
      ZeroDivision cs
  | negation {cs x : List Char} : Negation cs x → ZeroDivision (trimChars x) → ZeroDivision cs

theorem realText_of_parseReal {fuel : Nat} {cs : List Char} {q : Rat}
    (h : parseReal fuel cs = .ok (some q)) : RealText cs q := by
  induction fuel generalizing cs q with
  | zero => cases h
  | succ fuel ih =>
    rw [parseReal] at h
    split at h
    · -- a negation: its operand is read with the remaining fuel
      rename_i inner hneg
      obtain ⟨x, hx, rfl⟩ := negation_of_negatedOperand? hneg
      cases hr : parseReal fuel (trimChars x) with
      | error e => simp [hr, bind, Except.bind] at h
      | ok r =>
        cases r with
        | none => simp [hr, bind, Except.bind, pure, Except.pure] at h
        | some q' =>
          simp only [hr, bind, Except.bind, pure, Except.pure, Option.map_some, Except.ok.injEq,
            Option.some.injEq] at h
          subst h
          exact .negation hx (ih hr)
    split at h
    · -- a quotient of two decimals
      rename_i a b hquot
      have hform := form_of_quotientOperands? hquot
      obtain ⟨num, den⟩ := hform.operands
      split_ifs at h with hdec hzero
      · simp at h
      · simp only [Except.ok.injEq, Option.some.injEq] at h
        subst h
        simp only [Bool.not_eq_true', Bool.and_eq_false_iff, not_or, Bool.not_eq_false] at hdec
        exact .quotient hform (num.unsigned hdec.1) (den.unsigned hdec.2) (by simpa using hzero)
    split at h
    · -- a fraction of an integer numeral and a run of digits
      rename_i n d hfrac
      obtain ⟨rfl, hn, hd⟩ := fractionParts?_eq_some_iff.mp hfrac
      split_ifs at h with hzero
      simp only [Except.ok.injEq, Option.some.injEq] at h
      subst h
      have hden : Base.dec.worth d ≠ 0 := by
        rw [← runValue_dec]
        simpa using hzero
      rw [runValue_dec, integerValue_eq_value]
      exact .fraction (Base.denotes_of_accepts hn) ⟨(allOf_iff.mp hd).1, (allOf_iff.mp hd).2⟩ hden
    · -- a decimal
      split_ifs at h with hdec
      · simp only [Except.ok.injEq, Option.some.injEq] at h
        exact .decimal (decimalText_iff.mp ⟨hdec, h⟩)
      · simp at h

/-! ## Where each form begins -/

theorem Unsigned.exists_cons {cs : List Char} {q : Rat} (h : Unsigned cs q) :
    ∃ c tl, cs = c :: tl ∧ c ≠ '(' := by
  obtain ⟨c, tl, rfl⟩ := List.exists_cons_of_ne_nil h.operand.ne_nil
  refine ⟨c, tl, rfl, ?_⟩
  rintro rfl
  have := h.decimalChars '(' List.mem_cons_self
  cases this

theorem DecimalText.exists_cons {cs : List Char} {q : Rat} (h : DecimalText cs q) :
    ∃ c tl, cs = c :: tl ∧ c ≠ '(' := by
  rcases h with hq | hq
  · exact hq.exists_cons
  · exact ⟨'-', _, rfl, by decide⟩

theorem DecimalText.not_slash {cs : List Char} {q : Rat} (h : DecimalText cs q) : '/' ∉ cs := by
  have hunsigned {ds : List Char} {p : Rat} (hp : Unsigned ds p) : '/' ∉ ds := fun hm => by
    have := hp.decimalChars '/' hm
    cases this
  rcases h with hq | hq
  · exact hunsigned hq
  · rintro (_ | ⟨_, hm⟩)
    exact hunsigned hq hm

theorem Denotes.exists_cons {cs : List Char} {v : Int} (h : Denotes .dec cs v) :
    ∃ c tl, cs = c :: tl ∧ c ≠ '(' := by
  rcases h with ⟨hne, hdig⟩ | ⟨-, -, -⟩
  · obtain ⟨c, tl, rfl⟩ := List.exists_cons_of_ne_nil hne
    exact ⟨c, tl, rfl, ne_of_isAsciiDigit (hdig c List.mem_cons_self) (by decide)⟩
  · exact ⟨'-', _, rfl, by decide⟩

/-- After `(` and blanks, a quotient has its slash where a negation has its
minus. -/
theorem negatedOperand?_of_quotient {cs a b : List Char} (h : QuotientOf cs a b) :
    negatedOperand? cs = none := by
  obtain ⟨lead, -, -, -, -, -⟩ := h
  rename_i pre gap₁ gap₂ post
  have hslash := dropWhile_blanks_append lead (by decide : isBlank '/' = false)
    (gap₁ ++ (a ++ (gap₂ ++ (b ++ (post ++ [')'])))))
  simp only [List.cons_append, List.append_assoc, negatedOperand?, hslash]
  rfl

/-! ## One step of the reader of real numerals -/

section Step

variable (fuel : Nat)

theorem parseReal_of_decimalText {cs : List Char} {q : Rat} (h : DecimalText cs q) :
    parseReal (fuel + 1) cs = .ok (some q) := by
  obtain ⟨hdec, hval⟩ := decimalText_iff.mpr h
  obtain ⟨c, tl, hcs, hc⟩ := h.exists_cons
  have hfrac := fractionParts?_of_not_mem h.not_slash
  rw [hcs] at hdec hval hfrac ⊢
  rw [parseReal, negatedOperand?_of_head hc, quotientOperands?_of_head hc]
  simp [hfrac, hdec, hval]

/-- A fraction is read as the quotient of its parts, and fails when its
denominator is zero. -/
theorem parseReal_of_fraction {cs ns ds : List Char} {n : Int} (hcs : cs = ns ++ '/' :: ds)
    (hn : Denotes .dec ns n) (hds : DigitRun ds) :
    parseReal (fuel + 1) cs =
      if Base.dec.worth ds = 0 then
        .error (.config s!"Division by zero in real numeral '{String.ofList cs}'")
      else .ok (some ((n : Rat) / Base.dec.worth ds)) := by
  obtain ⟨hint, hval⟩ := Base.accepts_iff_denotes.mpr hn
  have hfrac : fractionParts? cs = some (ns, ds) :=
    fractionParts?_eq_some_iff.mpr ⟨hcs, hint, allOf_iff.mpr ⟨hds.ne_nil, hds.digits⟩⟩
  obtain ⟨c, tl, rfl, hc⟩ := hn.exists_cons
  subst hcs
  rw [List.cons_append] at hfrac ⊢
  rw [parseReal, negatedOperand?_of_head hc, quotientOperands?_of_head hc]
  simp [hfrac, runValue_dec, integerValue_eq_value, hval]

/-- A quotient of two decimals is read as the quotient of their values, and
fails when the divisor is zero. -/
theorem parseReal_of_quotientOf {cs a b : List Char} {p q : Rat} (hform : QuotientOf cs a b)
    (ha : Unsigned a p) (hb : Unsigned b q) :
    parseReal (fuel + 1) cs =
      if q = 0 then .error (.config s!"Division by zero in real numeral '{String.ofList cs}'")
      else .ok (some (p / q)) := by
  rw [parseReal, negatedOperand?_of_quotient hform, quotientOperands?_of_form hform]
  simp [ha.isDecimalText, hb.isDecimalText, ha.decimalValue, hb.decimalValue]

theorem parseReal_of_negation {cs x : List Char} (hx : Negation cs x) :
    parseReal (fuel + 1) cs = (parseReal fuel (trimChars x) >>= fun r => pure (r.map (- ·))) := by
  rw [parseReal, negatedOperand?_of_negation hx]

end Step

/-! ## Reading real numerals -/

/-- With fuel beyond its length, a real numeral is read as the rational it
denotes. -/
theorem parseReal_of_realText {cs : List Char} {q : Rat} (h : RealText cs q) :
    ∀ fuel, cs.length ≤ fuel → parseReal (fuel + 1) cs = .ok (some q) := by
  induction h with
  | decimal hd => exact fun fuel _ => parseReal_of_decimalText fuel hd
  | fraction hn hds hden =>
    intro fuel _
    rw [parseReal_of_fraction fuel rfl hn hds, if_neg hden]
  | quotient hform ha hb hq =>
    intro fuel _
    rw [parseReal_of_quotientOf fuel hform ha hb, if_neg hq]
  | negation hx _ ih =>
    intro fuel hfuel
    -- the operand is shorter, so some fuel is left for it
    have hlt := hx.length_lt
    obtain ⟨fuel, rfl⟩ := Nat.exists_eq_add_one_of_ne_zero (by omega : fuel ≠ 0)
    rw [parseReal_of_negation _ hx, ih fuel (by omega)]
    rfl

theorem parseReal_of_zeroDivision {cs : List Char} (h : ZeroDivision cs) :
    ∀ fuel, cs.length ≤ fuel → ∃ m, parseReal (fuel + 1) cs = .error (.config m) := by
  induction h with
  | fraction hn hds hzero =>
    intro fuel _
    rw [parseReal_of_fraction fuel rfl hn hds, if_pos hzero]
    exact ⟨_, rfl⟩
  | quotient hform ha hb =>
    intro fuel _
    rw [parseReal_of_quotientOf fuel hform ha hb, if_pos rfl]
    exact ⟨_, rfl⟩
  | negation hx _ ih =>
    intro fuel hfuel
    have hlt := hx.length_lt
    obtain ⟨fuel, rfl⟩ := Nat.exists_eq_add_one_of_ne_zero (by omega : fuel ≠ 0)
    -- the failure of the operand is the failure of the negation
    obtain ⟨m, hm⟩ := ih fuel (by omega)
    refine ⟨m, ?_⟩
    rw [parseReal_of_negation _ hx, hm]
    rfl

/-- The reader of real numerals fails only with configuration failures. -/
theorem parseReal_configOnly (fuel : Nat) (cs : List Char) : ConfigOnly (parseReal fuel cs) := by
  induction fuel generalizing cs with
  | zero => exact ConfigOnly.ok _
  | succ fuel ih =>
    rw [parseReal]
    split
    · exact ConfigOnly.bind (ih _) fun _ => ConfigOnly.ok _
    split
    · split_ifs
      · exact ConfigOnly.ok _
      · exact ConfigOnly.config _
      · exact ConfigOnly.ok _
    split
    · split_ifs
      · exact ConfigOnly.config _
      · exact ConfigOnly.ok _
    · exact ConfigOnly.ok _

/-- The reader of real numerals accepts exactly the real numerals, with the
rational each denotes. -/
theorem realNumeral_eq_some_iff {cs : List Char} {q : Rat} :
    realNumeral cs = .ok (some q) ↔ RealText cs q :=
  ⟨realText_of_parseReal, fun h => parseReal_of_realText h _ le_rfl⟩

/-! ## Values of the integer and real sorts -/

section Arithmetic

variable (dom : Option (List SortHandle)) (s : String)

theorem mkValue_int_numeral {v : Int} (hv : integerNumeral (trimChars s.toList) = some v) :
    Values.mkValue (.sort ⟨.int, dom⟩) (.text s) none = .ok ⟨Term.ofInt v, none⟩ := by
  simp [Values.mkValue, Values.plainValue, hv, Handle.sortView, SortHandle.isBv, SortHandle.isBool,
    SortHandle.isInt]
  rfl

theorem mkValue_int_not_numeral (hv : integerNumeral (trimChars s.toList) = none) :
    Values.mkValue (.sort ⟨.int, dom⟩) (.text s) none =
      .error (.config s!"Malformed integer numeral '{s}'") := by
  simp [Values.mkValue, Values.plainValue, hv, Handle.sortView, SortHandle.isBv, SortHandle.isBool,
    SortHandle.isInt]
  rfl

theorem mkValue_real_numeral {q : Rat} (hq : realNumeral (trimChars s.toList) = .ok (some q)) :
    Values.mkValue (.sort ⟨.real, dom⟩) (.text s) none = .ok ⟨Term.ofRat q, none⟩ := by
  simp [Values.mkValue, Values.plainValue, hq, Handle.sortView, SortHandle.isBv, SortHandle.isBool,
    SortHandle.isInt, SortHandle.isReal]
  rfl

theorem mkValue_real_not_numeral (hq : realNumeral (trimChars s.toList) = .ok none) :
    Values.mkValue (.sort ⟨.real, dom⟩) (.text s) none =
      .error (.config s!"Malformed real numeral '{s}'") := by
  simp [Values.mkValue, Values.plainValue, hq, Handle.sortView, SortHandle.isBv, SortHandle.isBool,
    SortHandle.isInt, SortHandle.isReal]
  rfl

theorem mkValue_real_error {e : Failure} (hq : realNumeral (trimChars s.toList) = .error e) :
    Values.mkValue (.sort ⟨.real, dom⟩) (.text s) none = .error e := by
  simp [Values.mkValue, Values.plainValue, hq, Handle.sortView, SortHandle.isBv, SortHandle.isBool,
    SortHandle.isInt, SortHandle.isReal]
  rfl

theorem mkValue_int_ok_iff (t : TermHandle) :
    Values.mkValue (.sort ⟨.int, dom⟩) (.text s) none = .ok t ↔
      ∃ v, IntegerText (trimChars s.toList) v ∧ t = ⟨Term.ofInt v, none⟩ := by
  constructor
  · intro h
    cases hv : integerNumeral (trimChars s.toList) with
    | none =>
      rw [mkValue_int_not_numeral dom s hv] at h
      cases h
    | some v =>
      rw [mkValue_int_numeral dom s hv] at h
      cases h
      exact ⟨v, integerNumeral_eq_some_iff.mp hv, rfl⟩
  · rintro ⟨v, hv, rfl⟩
    exact mkValue_int_numeral dom s (integerNumeral_eq_some_iff.mpr hv)

theorem mkValue_int_configOnly : ConfigOnly (Values.mkValue (.sort ⟨.int, dom⟩) (.text s) none) := by
  cases hv : integerNumeral (trimChars s.toList) with
  | none =>
    rw [mkValue_int_not_numeral dom s hv]
    exact ConfigOnly.config _
  | some v =>
    rw [mkValue_int_numeral dom s hv]
    exact ConfigOnly.ok _

theorem mkValue_real_ok_iff (t : TermHandle) :
    Values.mkValue (.sort ⟨.real, dom⟩) (.text s) none = .ok t ↔
      ∃ q, RealText (trimChars s.toList) q ∧ t = ⟨Term.ofRat q, none⟩ := by
  constructor
  · intro h
    rcases hr : realNumeral (trimChars s.toList) with e | _ | q
    · rw [mkValue_real_error dom s hr] at h
      cases h
    · rw [mkValue_real_not_numeral dom s hr] at h
      cases h
    · rw [mkValue_real_numeral dom s hr] at h
      cases h
      exact ⟨q, realNumeral_eq_some_iff.mp hr, rfl⟩
  · rintro ⟨q, hq, rfl⟩
    exact mkValue_real_numeral dom s (realNumeral_eq_some_iff.mpr hq)

theorem mkValue_real_configOnly : ConfigOnly (Values.mkValue (.sort ⟨.real, dom⟩) (.text s) none) := by
  rcases hr : realNumeral (trimChars s.toList) with e | _ | q
  · rw [mkValue_real_error dom s hr]
    intro e' he'
    cases he'
    exact parseReal_configOnly _ _ e hr
  · rw [mkValue_real_not_numeral dom s hr]
    exact ConfigOnly.config _
  · rw [mkValue_real_numeral dom s hr]
    exact ConfigOnly.ok _

theorem mkValue_real_zeroDivision (h : ZeroDivision (trimChars s.toList)) :
    ∃ m, Values.mkValue (.sort ⟨.real, dom⟩) (.text s) none = .error (.config m) := by
  obtain ⟨m, hm⟩ := parseReal_of_zeroDivision h _ le_rfl
  exact ⟨m, mkValue_real_error dom s hm⟩

end Arithmetic

/-- For every text, making a value of the integer sort succeeds exactly when
the text stripped of blanks is an integer numeral (`IntegerText`: `-?[0-9]+`,
or `(- x)` around an integer numeral), with the integer it denotes; making a
value of the real sort succeeds exactly when it is a real numeral
(`RealText`: a decimal, a fraction, a quotient `(/ a b)` of unsigned
decimals, or `(- x)` around a real numeral), with the exact rational it
denotes. A zero denominator in a fraction or a quotient, under any number
of negations, is a configuration failure, and so is every other text. -/
theorem arithmetic_numerals_read (s : String) (dom : Option (List SortHandle)) :
    (∀ t, Values.mkValue (.sort ⟨.int, dom⟩) (.text s) none = .ok t ↔
      ∃ v, IntegerText (trimChars s.toList) v ∧ t = ⟨Term.ofInt v, none⟩) ∧
    ConfigOnly (Values.mkValue (.sort ⟨.int, dom⟩) (.text s) none) ∧
    (∀ t, Values.mkValue (.sort ⟨.real, dom⟩) (.text s) none = .ok t ↔
      ∃ q, RealText (trimChars s.toList) q ∧ t = ⟨Term.ofRat q, none⟩) ∧
    ConfigOnly (Values.mkValue (.sort ⟨.real, dom⟩) (.text s) none) ∧
    (ZeroDivision (trimChars s.toList) →
      ∃ m, Values.mkValue (.sort ⟨.real, dom⟩) (.text s) none = .error (.config m)) :=
  ⟨mkValue_int_ok_iff dom s, mkValue_int_configOnly dom s, mkValue_real_ok_iff dom s,
    mkValue_real_configOnly dom s, mkValue_real_zeroDivision dom s⟩

/-- A line break may stand among the blanks after the minus, not in the
operand. -/
example : Values.mkValue (.sort ⟨.int, none⟩) (.text "(- \n7)") none = .ok ⟨Term.ofInt (-7), none⟩ ∧
    Values.mkValue (.sort ⟨.int, none⟩) (.text "(- 7\n)") none =
      .error (.config "Malformed integer numeral '(- 7\n)'") :=
  ⟨rfl, rfl⟩

end SmtBackend
