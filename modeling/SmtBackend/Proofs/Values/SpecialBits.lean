import SmtBackend.Proofs.Values.BitLiterals

/-!
# Special values of bit-vector sorts

The five special values of a `w`-bit sort are written as binary digits and
read as a numeral of the width: zero is `0`, one is `1`, all ones are `w`
ones, the least signed value is a one followed by `w - 1` zeros and the
greatest a zero followed by `w - 1` ones. For every width `w ≥ 1` each of
these numerals fits the width, so making a special value of the family
never fails, and it is the bit-vector of `0`, `1`, `2 ^ w - 1`,
`2 ^ (w - 1)` and `2 ^ (w - 1) - 1` (`SpecialValue.bitsValue?`). At width
one the least signed value is `1` and the greatest `0`. Every other special
value kind, and text naming none, fails on a bit-vector sort with a
configuration failure (`bit_special_values`).
-/

namespace SmtBackend

open Text Numeral

/-- The number a special value of the bit-vector family stands for at width
`w`; `none` for the kinds of the other families. -/
def SpecialValue.bitsValue? (w : Nat) : SpecialValue → Option Nat
  | .bvZero => some 0
  | .bvOne => some 1
  | .bvOnes => some (2 ^ w - 1)
  | .bvMinSigned => some (2 ^ (w - 1))
  | .bvMaxSigned => some (2 ^ (w - 1) - 1)
  | _ => none

/-- At width one the least signed value is one and the greatest zero. -/
example : SpecialValue.bitsValue? 1 .bvMinSigned = some 1 ∧
    SpecialValue.bitsValue? 1 .bvMaxSigned = some 0 := by decide

/-! ## Runs of one digit -/

theorem runValue_cons (radix : Nat) (c : Char) (l : List Char) :
    runValue radix (c :: l) = hexValue c * radix ^ l.length + runValue radix l := by
  rw [← List.singleton_append, runValue_append]
  simp [runValue]

theorem runValue_replicate_zero (radix k : Nat) : runValue radix (List.replicate k '0') = 0 := by
  induction k with
  | zero => rfl
  | succ k ih =>
    rw [List.replicate_succ, runValue_cons, ih]
    simp [show hexValue '0' = 0 by decide]

theorem runValue_replicate_one (k : Nat) : runValue 2 (List.replicate k '1') = 2 ^ k - 1 := by
  induction k with
  | zero => rfl
  | succ k ih =>
    rw [List.replicate_succ, runValue_cons, ih, List.length_replicate,
      show hexValue '1' = 1 by decide, Nat.one_mul, Nat.pow_succ]
    have hpos := Nat.one_le_two_pow (n := k)
    omega

/-! ## The digits of the special values -/

section Width

variable {w : Nat}

/-- A nonempty run of binary digits reads as its number when that fits the
width. -/
theorem bvNumeralValue_binary (hw : 0 < w) {s : String} {l : List Char} {n : Nat}
    (hs : s.toList = l) (hne : l ≠ []) (hdig : ∀ c ∈ l, c = '0' ∨ c = '1') (hn : runValue 2 l = n)
    (hlt : n < 2 ^ w) : bvNumeralValue s (.known .bin) w = .ok n := by
  have hbin : ∀ c ∈ l, Base.bin.digit c = true := by
    intro c hc
    rcases hdig c hc with rfl | rfl <;> rfl
  have hrun : Denotes .bin (trimChars s.toList) n := by
    rw [hs, trimChars_digits hbin, ← hn, show 2 = Base.bin.radix from rfl, runValue_eq_worth]
    exact .run hne hbin
  exact (bvNumeralValue_ok_iff_denotes hw).mpr
    ⟨_, hrun, (unsigned_range (Int.natCast_nonneg _)).mpr ⟨by exact_mod_cast hlt, rfl⟩⟩

theorem toList_digit_append (d : Char) (l : List Char) :
    (String.singleton d ++ String.ofList l).toList = d :: l := by
  simp only [String.toList_append, String.toList_ofList, String.toList_singleton, List.singleton_append]

/-- A digit followed by copies of another is a run of binary digits when
both are. -/
theorem binary_cons_replicate {d e : Char} (hd : d = '0' ∨ d = '1') (he : e = '0' ∨ e = '1')
    (k : Nat) : ∀ c ∈ d :: List.replicate k e, c = '0' ∨ c = '1' := by
  intro c hc
  rcases List.mem_cons.mp hc with rfl | hc
  · exact hd
  · rw [List.eq_of_mem_replicate hc]
    exact he

/-- The digits of every special value of the family read, at every positive
width, as the number it stands for. -/
theorem bvSpecialDigits_reads (hw : 0 < w) {k : SpecialValue} {ds : String}
    (h : Values.bvSpecialDigits w k = some ds) :
    ∃ n, k.bitsValue? w = some n ∧ bvNumeralValue ds (.known .bin) w = .ok n := by
  -- the values below `2 ^ w`, each by its own bound
  have hhalf : 2 ^ (w - 1) < 2 ^ w := Nat.pow_lt_pow_right (by decide) (by omega)
  have hone : 1 < 2 ^ w := Nat.one_lt_two_pow (by omega)
  have hall : 2 ^ w - 1 < 2 ^ w := Nat.sub_lt (Nat.two_pow_pos w) Nat.one_pos
  have hmax : 2 ^ (w - 1) - 1 < 2 ^ w := lt_of_le_of_lt (Nat.sub_le _ _) hhalf
  cases k <;> simp only [Values.bvSpecialDigits, Option.some.injEq, reduceCtorEq] at h <;> subst h
  case bvZero =>
    exact ⟨0, rfl, bvNumeralValue_binary hw (l := ['0']) rfl (by simp) (by simp) (by decide)
      (Nat.two_pow_pos w)⟩
  case bvOne =>
    exact ⟨1, rfl, bvNumeralValue_binary hw (l := ['1']) rfl (by simp) (by simp) (by decide) hone⟩
  case bvOnes =>
    have hne : List.replicate w '1' ≠ [] := by simp; omega
    exact ⟨2 ^ w - 1, rfl, bvNumeralValue_binary hw String.toList_ofList hne (by simp)
      (runValue_replicate_one w) hall⟩
  case bvMinSigned =>
    have hval : runValue 2 ('1' :: List.replicate (w - 1) '0') = 2 ^ (w - 1) := by
      rw [runValue_cons, runValue_replicate_zero, List.length_replicate]
      simp [show hexValue '1' = 1 by decide]
    exact ⟨2 ^ (w - 1), rfl, bvNumeralValue_binary hw (toList_digit_append '1' _) (by simp)
      (binary_cons_replicate (.inr rfl) (.inl rfl) _) hval hhalf⟩
  case bvMaxSigned =>
    have hval : runValue 2 ('0' :: List.replicate (w - 1) '1') = 2 ^ (w - 1) - 1 := by
      rw [runValue_cons, runValue_replicate_one, List.length_replicate]
      simp [show hexValue '0' = 0 by decide]
    exact ⟨2 ^ (w - 1) - 1, rfl, bvNumeralValue_binary hw (toList_digit_append '0' _) (by simp)
      (binary_cons_replicate (.inl rfl) (.inr rfl) _) hval hmax⟩

/-- On a bit-vector sort a special value with digits is made from them. -/
theorem mkSpecial_bits_of_digits {k : SpecialValue} {ds : String}
    (h : Values.bvSpecialDigits w k = some ds) :
    Values.mkSpecial (.sort ⟨.bitVec w, none⟩) (.known k) =
      Values.bvValue (.sort ⟨.bitVec w, none⟩) (.text ds) (.known .bin) := by
  simp [Values.mkSpecial, Handle.sortView, SortHandle.isBv, SmtSort.isBitVec, SmtSort.width, h]

/-- A special value kind without digits is refused on a bit-vector sort. -/
theorem mkSpecial_bits_of_none {k : SpecialValue} (h : Values.bvSpecialDigits w k = none) :
    ∃ m, Values.mkSpecial (.sort ⟨.bitVec w, none⟩) (.known k) = .error (.config m) := by
  simp [Values.mkSpecial, Handle.sortView, SortHandle.isBv, SmtSort.isBitVec, SmtSort.width, h,
    throw, throwThe, MonadExceptOf.throw]

/-- Text naming no special value kind is refused on a bit-vector sort. -/
theorem mkSpecial_bits_unknown (text : String) :
    ∃ m, Values.mkSpecial (.sort ⟨.bitVec w, none⟩) (.unknown text) = .error (.config m) := by
  simp [Values.mkSpecial, Handle.sortView, SortHandle.isBv, SmtSort.isBitVec, throw, throwThe,
    MonadExceptOf.throw]

theorem bvSpecialDigits_isSome (k : SpecialValue) :
    (Values.bvSpecialDigits w k).isSome = (k.bitsValue? w).isSome := by
  cases k <;> rfl

end Width

/-- For every width `w ≥ 1`, each of the five special values of the
bit-vector family is made on a `w`-bit sort, as the bit-vector of the
number it stands for, which is below `2 ^ w`. Every special value kind of
the other families, and text naming no kind, fails there with a
configuration failure. -/
theorem bit_special_values (w : Nat) (hw : 0 < w) :
    (∀ k n, k.bitsValue? w = some n →
      Values.mkSpecial (.sort ⟨.bitVec w, none⟩) (.known k) = .ok ⟨Term.ofBits w n, none⟩ ∧
        n < 2 ^ w) ∧
    (∀ k, k.bitsValue? w = none →
      ∃ m, Values.mkSpecial (.sort ⟨.bitVec w, none⟩) (.known k) = .error (.config m)) ∧
    ∀ text, ∃ m, Values.mkSpecial (.sort ⟨.bitVec w, none⟩) (.unknown text) = .error (.config m) := by
  refine ⟨fun k n hn => ?_, fun k hk => ?_, fun text => mkSpecial_bits_unknown text⟩
  · -- a kind with a number has digits, and they read as that number
    obtain ⟨ds, hds⟩ := Option.isSome_iff_exists.mp
      ((bvSpecialDigits_isSome k).trans (Option.isSome_iff_exists.mpr ⟨n, hn⟩))
    obtain ⟨n', hn', hread⟩ := bvSpecialDigits_reads hw hds
    obtain rfl : n = n' := Option.some.inj (hn.symm.trans hn')
    rw [mkSpecial_bits_of_digits hds]
    exact ⟨bvValue_ok_iff.mpr ⟨n, hread, rfl⟩, bvNumeralValue_lt hread⟩
  · -- a kind without a number has no digits
    refine mkSpecial_bits_of_none (Option.not_isSome_iff_eq_none.mp ?_)
    rw [bvSpecialDigits_isSome, hk]
    exact Bool.false_ne_true

/-- At width one, where the least signed value is `1` and the greatest `0`. -/
theorem one_bit_special_values : 0 < 1 ∧
    (∀ k n, k.bitsValue? 1 = some n →
      Values.mkSpecial (.sort ⟨.bitVec 1, none⟩) (.known k) = .ok ⟨Term.ofBits 1 n, none⟩ ∧
        n < 2 ^ 1) ∧
    (∀ k, k.bitsValue? 1 = none →
      ∃ m, Values.mkSpecial (.sort ⟨.bitVec 1, none⟩) (.known k) = .error (.config m)) ∧
    ∀ text, ∃ m, Values.mkSpecial (.sort ⟨.bitVec 1, none⟩) (.unknown text) = .error (.config m) :=
  ⟨by decide, bit_special_values 1 (by decide)⟩

end SmtBackend
