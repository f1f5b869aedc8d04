import Mathlib.Data.List.Basic
import SmtBackend.Proofs.Values.BitLiterals

/-!
# Integer numerals

Integer and real values are read from text stripped of blanks, and both
readers accept a numeral in the form `(- x)` (`Negation`): an opening
parenthesis, any blanks, a minus, at least one blank, an operand `x` on one
line, and a closing parenthesis. The operand is stripped of blanks and read
again. The reader of that form finds exactly the stripped operand of every
such text (`negatedOperand?_eq_some_iff`), and the operand is shorter than
the text, so the fuel of the readers never runs out.

An integer numeral is a run of decimal digits, possibly negated
(`-?[0-9]+`), or `(- x)` around an integer numeral, which denotes minus the
operand (`IntegerText`). The reader of integer numerals accepts exactly
these, with the integer each denotes (`integerNumeral_eq_some_iff`).
-/

namespace SmtBackend

open Text Numeral

/-! ## The negation form -/

/-- Text of the form `(- x)` (`\(\s*-\s+(.+)\)`): an opening parenthesis,
blanks, a minus, at least one blank, a nonempty operand without line feeds,
and a closing parenthesis. -/
inductive Negation : List Char → List Char → Prop
  | mk {pre gap x : List Char} (lead : ∀ c ∈ pre, isBlank c = true) (sep : Gap gap) (ne : x ≠ [])
      (line : '\n' ∉ x) : Negation ('(' :: pre ++ '-' :: gap ++ x ++ [')']) x

theorem trimChars_dropWhile (cs : List Char) : trimChars (cs.dropWhile isBlank) = trimChars cs := by
  conv => rhs; rw [← List.takeWhile_append_dropWhile (p := isBlank) (l := cs)]
  exact (trimChars_blanks_append fun _ => List.mem_takeWhile_imp).symm

theorem trimChars_blanks {cs : List Char} (h : ∀ c ∈ cs, isBlank c = true) : trimChars cs = [] := by
  rw [trimChars, List.dropWhile_eq_nil_iff.mpr h]
  rfl

theorem negatedOperand?_of_negation {cs x : List Char} (h : Negation cs x) :
    negatedOperand? cs = some (trimChars x) := by
  obtain ⟨lead, sep, hne, hline⟩ := h
  rename_i pre gap
  obtain ⟨g, gs, rfl⟩ := List.exists_cons_of_ne_nil sep.ne_nil
  have hg : isBlank g = true := sep.blank g List.mem_cons_self
  -- the pieces the reader cuts: the minus, the closing parenthesis, the operand's blanks
  have hminus := dropWhile_blanks_append lead (by decide : isBlank '-' = false)
    (g :: (gs ++ (x ++ [')'])))
  have hclose : (g :: (gs ++ (x ++ [')']))).getLast? = some ')' := by
    rw [← List.cons_append, ← List.append_assoc, List.getLast?_concat]
  have hinner : (g :: (gs ++ (x ++ [')']))).dropLast = g :: (gs ++ x) := by
    rw [← List.cons_append, ← List.append_assoc, List.dropLast_concat, List.cons_append]
  have hbody : (g :: (gs ++ x)).dropWhile isBlank = x.dropWhile isBlank := by
    rw [← List.cons_append, List.dropWhile_append_of_pos sep.blank]
  simp only [List.cons_append, List.append_assoc, negatedOperand?, hminus, hclose, hinner, hbody,
    hg, bne_self_eq_false, Bool.not_true, Bool.false_eq_true, if_false]
  by_cases hblank : x.dropWhile isBlank = []
  · -- an operand of blanks only: it is stripped to nothing
    have hall := List.dropWhile_eq_nil_iff.mp hblank
    obtain ⟨ys, d, rfl⟩ := (List.eq_nil_or_concat' x).resolve_left hne
    have hd : d ≠ '\n' := by
      rintro rfl
      exact hline (List.mem_append_right _ List.mem_cons_self)
    have hlast : (g :: (gs ++ (ys ++ [d]))).getLast? = some d := by
      rw [← List.append_assoc, ← List.cons_append, List.getLast?_concat]
    simp [hblank, trimChars_blanks hall, hlast, hd]
  · -- a line break in the operand would stand in its stripped part too
    have hnl : '\n' ∉ x.dropWhile isBlank := fun h => hline ((List.dropWhile_sublist _).subset h)
    simp [hblank, hnl, trimChars_dropWhile]

theorem negation_of_negatedOperand? {cs y : List Char} (h : negatedOperand? cs = some y) :
    ∃ x, Negation cs x ∧ y = trimChars x := by
  unfold negatedOperand? at h
  split at h
  · rename_i rest
    split at h
    · rename_i after hminus
      -- the text ends in the closing parenthesis
      have hclose : after.getLast? = some ')' := by
        by_contra hne
        simp [hne] at h
      obtain ⟨inner, rfl⟩ := List.getLast?_eq_some_iff.mp hclose
      have hrest : rest = rest.takeWhile isBlank ++ '-' :: (inner ++ [')']) := by
        rw [← hminus, List.takeWhile_append_dropWhile]
      simp only [hclose, bne_self_eq_false, Bool.false_eq_true, if_false, List.dropLast_concat] at h
      split at h
      · rename_i c tail
        have hc : isBlank c = true := by
          cases hc : isBlank c
          · simp [hc] at h
          · rfl
        simp only [hc, Bool.not_true, Bool.false_eq_true, if_false] at h
        have hlead : ∀ d ∈ rest.takeWhile isBlank, isBlank d = true := fun _ => List.mem_takeWhile_imp
        rw [hrest]
        by_cases hbody : (c :: tail).dropWhile isBlank = []
        · -- only blanks before the closing parenthesis: the operand is the last of them
          have hall := List.dropWhile_eq_nil_iff.mp hbody
          simp only [hbody, List.isEmpty_nil, if_true, Bool.and_eq_true, decide_eq_true_eq,
            bne_iff_ne, ne_eq] at h
          split_ifs at h with hcond
          obtain ⟨hlen, hnl⟩ := hcond
          cases h
          obtain ⟨gap, d, hgd⟩ := (List.eq_nil_or_concat' (c :: tail)).resolve_left (List.cons_ne_nil _ _)
          have hgap : Gap gap := by
            refine ⟨?_, fun e he => hall e (hgd ▸ List.mem_append_left _ he)⟩
            rintro rfl
            rw [hgd] at hlen
            simp at hlen
          have hd : d ≠ '\n' := by
            rintro rfl
            rw [hgd, List.getLast?_concat] at hnl
            exact hnl rfl
          refine ⟨[d], ?_, (trimChars_blanks fun e he => hall e ?_).symm⟩
          · have hneg := Negation.mk hlead hgap (List.cons_ne_nil d []) (by simpa using hd.symm)
            rw [hgd]
            simpa only [List.cons_append, List.append_assoc] using hneg
          · rw [hgd]
            exact List.mem_append_right _ he
        · -- the operand is what follows the blanks after the minus
          simp only [List.isEmpty_eq_false_iff.mpr hbody, Bool.false_eq_true, if_false,
            List.contains_iff_mem] at h
          split_ifs at h with hnl
          cases h
          have hgap : Gap ((c :: tail).takeWhile isBlank) := by
            refine ⟨by simp [hc], fun _ => List.mem_takeWhile_imp⟩
          generalize hB : (c :: tail).dropWhile isBlank = body at hbody hnl
          generalize hG : (c :: tail).takeWhile isBlank = gap at hgap
          have hsplit : c :: tail = gap ++ body := by
            rw [← hB, ← hG, List.takeWhile_append_dropWhile]
          refine ⟨body, ?_, rfl⟩
          rw [hsplit]
          simpa only [List.cons_append, List.append_assoc] using
            Negation.mk hlead hgap hbody (by simpa using hnl)
      · cases h
    · cases h
  · cases h

theorem negatedOperand?_eq_some_iff {cs y : List Char} :
    negatedOperand? cs = some y ↔ ∃ x, Negation cs x ∧ y = trimChars x :=
  ⟨negation_of_negatedOperand?, fun ⟨_, hx, hy⟩ => hy ▸ negatedOperand?_of_negation hx⟩

theorem length_trimChars_le (cs : List Char) : (trimChars cs).length ≤ cs.length := by
  unfold trimChars
  rw [List.length_reverse]
  calc _ ≤ (cs.dropWhile isBlank).reverse.length := List.length_dropWhile_le _ _
    _ ≤ cs.length := by rw [List.length_reverse]; exact List.length_dropWhile_le _ _

namespace Negation

variable {cs x : List Char}

theorem head (h : Negation cs x) : cs.head? = some '(' := by
  obtain ⟨⟩ := h
  rfl

/-- The stripped operand is shorter than the negation, so reading it again
is within the fuel. -/
theorem length_lt (h : Negation cs x) : (trimChars x).length < cs.length := by
  obtain ⟨-, -, -, -⟩ := h
  have := length_trimChars_le x
  simp only [List.cons_append, List.length_cons, List.length_append]
  omega

end Negation

/-! ## Integer numerals -/

/-- The integer numerals, with the integer each denotes: a run of decimal
digits, possibly negated, and `(- x)` around an integer numeral once `x` is
stripped of blanks, which denotes minus the operand. -/
inductive IntegerText : List Char → Int → Prop
  | digits {cs : List Char} {v : Int} : Denotes .dec cs v → IntegerText cs v
  | negation {cs x : List Char} {v : Int} : Negation cs x → IntegerText (trimChars x) v →
      IntegerText cs (-v)

theorem integerValue_eq_value (cs : List Char) : integerValue cs = Base.dec.value cs := rfl

/-- A signed run of digits starts with no parenthesis, so it is no
negation. -/
theorem Denotes.negatedOperand? {b : Base} {cs : List Char} {v : Int} (h : Denotes b cs v) :
    Numeral.negatedOperand? cs = none := by
  rcases h with ⟨hne, hdig⟩ | ⟨-, -, -⟩
  · obtain ⟨c, cs, rfl⟩ := List.exists_cons_of_ne_nil hne
    refine negatedOperand?_of_head ?_ cs
    rintro rfl
    have := hdig '(' List.mem_cons_self
    cases b <;> simp_all [Base.digit, isHexDigit, isAsciiDigit]
  · exact negatedOperand?_of_head (by decide) _

theorem integerText_of_parseInteger {fuel : Nat} {cs : List Char} {v : Int}
    (h : parseInteger fuel cs = some v) : IntegerText cs v := by
  induction fuel generalizing cs v with
  | zero => cases h
  | succ fuel ih =>
    rw [parseInteger] at h
    split at h
    · -- a negation: its operand is read with the remaining fuel
      rename_i inner hneg
      obtain ⟨x, hx, rfl⟩ := negation_of_negatedOperand? hneg
      obtain ⟨w, hw, rfl⟩ := Option.map_eq_some_iff.mp h
      exact .negation hx (ih hw)
    · split_ifs at h with hint
      cases h
      exact .digits (Base.accepts_iff_denotes.mp ⟨hint, rfl⟩)

/-- With fuel beyond its length, an integer numeral is read as the integer
it denotes. -/
theorem parseInteger_of_integerText {cs : List Char} {v : Int} (h : IntegerText cs v) :
    ∀ fuel, cs.length ≤ fuel → parseInteger (fuel + 1) cs = some v := by
  induction h with
  | digits hd =>
    intro fuel _
    obtain ⟨hint, hval⟩ := Base.accepts_iff_denotes.mpr hd
    rw [parseInteger, hd.negatedOperand?]
    simp [show isIntegerText _ = true from hint, integerValue_eq_value, hval]
  | negation hx _ ih =>
    intro fuel hfuel
    -- the operand is shorter, so some fuel is left for it
    have hlt := hx.length_lt
    obtain ⟨fuel, rfl⟩ := Nat.exists_eq_add_one_of_ne_zero (by omega : fuel ≠ 0)
    rw [parseInteger, negatedOperand?_of_negation hx]
    dsimp only
    rw [ih fuel (by omega)]
    rfl

/-- The reader of integer numerals accepts exactly the integer numerals, with
the integer each denotes. -/
theorem integerNumeral_eq_some_iff {cs : List Char} {v : Int} :
    integerNumeral cs = some v ↔ IntegerText cs v :=
  ⟨integerText_of_parseInteger, fun h => parseInteger_of_integerText h _ le_rfl⟩

end SmtBackend
