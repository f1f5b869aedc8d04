import Mathlib.Data.List.Induction
import Mathlib.Data.Nat.Digits.Defs
import SmtBackend.Proofs.Values.Readback

/-!
# Bit-vector numerals in a base

A numeral given with a base is read as a bit-vector value in two steps. The
text, stripped of blanks, must be a run of the base's digits, a decimal run
possibly negated, and the integer it denotes must fit the width: below
`2 ^ w`, and when negative at least `-2 ^ (w - 1)`. The value is then that
integer modulo `2 ^ w`, so a negative decimal stands for its two's
complement. Nothing is truncated: every other text, and every width that is
not positive, is a configuration failure (`bvNumeralValue_ok_iff`,
`bit_numerals_read_in_range`).

The grammar is stated on its own (`Denotes`), with the positional value of
the digits (`Nat.ofDigits`).
-/

namespace SmtBackend

open Text Numeral

/-! ## The numerals of a base -/

/-- The digit class of a base's pattern: `[01]`, `[0-9]` or `[0-9a-fA-F]`. -/
def Base.digit : Base → Char → Bool
  | .bin => fun c => c == '0' || c == '1'
  | .dec => isAsciiDigit
  | .hex => isHexDigit

/-- The number a run of digits stands for, most significant digit first. -/
def Base.worth (b : Base) (ds : List Char) : Nat := Nat.ofDigits b.radix (ds.reverse.map hexValue)

/-- Text that fully matches a base's numeral pattern (`[01]+`, `-?[0-9]+`
or `[0-9a-fA-F]+`), with the integer it denotes. -/
inductive Denotes (b : Base) : List Char → Int → Prop
  | run {ds : List Char} : ds ≠ [] → (∀ c ∈ ds, b.digit c = true) → Denotes b ds (b.worth ds)
  | negated {ds : List Char} : b = .dec → ds ≠ [] → (∀ c ∈ ds, b.digit c = true) →
      Denotes b ('-' :: ds) (-(b.worth ds : Int))

theorem Base.digit_minus (b : Base) : b.digit '-' = false := by
  cases b <;> decide

/-- Reading digits left to right is their positional value. -/
theorem runValue_eq_worth (b : Base) (ds : List Char) : runValue b.radix ds = b.worth ds := by
  induction ds using List.reverseRecOn with
  | nil => rfl
  | append_singleton ds c ih =>
    have hlast : runValue b.radix [c] = hexValue c := by simp [runValue]
    rw [runValue_append, ih, hlast, Base.worth, Base.worth, List.reverse_append, List.reverse_singleton,
      List.singleton_append, List.map_cons, Nat.ofDigits_cons, List.length_singleton, pow_one]
    ring

theorem allOf_iff {p : Char → Bool} {cs : List Char} :
    allOf p cs = true ↔ cs ≠ [] ∧ ∀ c ∈ cs, p c = true := by
  simp [allOf, List.all_eq_true]

/-- A run of digits reads as its positional value. -/
theorem Base.value_run {b : Base} {ds : List Char} (hne : ds ≠ []) (hdig : ∀ c ∈ ds, b.digit c = true) :
    b.value ds = b.worth ds := by
  obtain ⟨c, cs, rfl⟩ := List.exists_cons_of_ne_nil hne
  have hc : c ≠ '-' := by
    rintro rfl
    simp [Base.digit_minus] at hdig
  simp [Base.value, hc, runValue_eq_worth]

theorem Base.accepts_run {b : Base} {ds : List Char} (hne : ds ≠ []) (hdig : ∀ c ∈ ds, b.digit c = true) :
    b.accepts ds = true := by
  obtain ⟨c, cs, rfl⟩ := List.exists_cons_of_ne_nil hne
  have hc : c ≠ '-' := by
    rintro rfl
    simp [Base.digit_minus] at hdig
  cases b <;> simpa [Base.accepts, signedRunOf, hc, allOf_iff, Base.digit] using hdig

/-- What a base accepts is text of its pattern, and it reads as the number
the text denotes. -/
theorem Base.denotes_of_accepts {b : Base} {cs : List Char} (h : b.accepts cs = true) :
    Denotes b cs (b.value cs) := by
  cases b
  case dec =>
    rcases cs with _ | ⟨c, rest⟩
    · simp [Base.accepts, signedRunOf, allOf] at h
    by_cases hc : c = '-'
    -- a minus sign, then a run of decimal digits
    · subst hc
      obtain ⟨hne, hdig⟩ := allOf_iff.mp (by simpa [Base.accepts, signedRunOf] using h)
      rw [show Base.dec.value ('-' :: rest) = -(runValue 10 rest : Int) from rfl,
        show (10 : Nat) = Base.dec.radix from rfl, runValue_eq_worth]
      exact .negated rfl hne hdig
    · obtain ⟨hne, hdig⟩ := allOf_iff.mp (by simpa [Base.accepts, signedRunOf, hc] using h)
      rw [Base.value_run (b := .dec) hne hdig]
      exact .run hne hdig
  case bin =>
    obtain ⟨hne, hdig⟩ := allOf_iff.mp h
    rw [Base.value_run (b := .bin) hne hdig]
    exact .run hne hdig
  case hex =>
    obtain ⟨hne, hdig⟩ := allOf_iff.mp h
    rw [Base.value_run (b := .hex) hne hdig]
    exact .run hne hdig

/-- A base accepts exactly the text of its pattern, and reads it as the
number it denotes. -/
theorem Base.accepts_iff_denotes {b : Base} {cs : List Char} {v : Int} :
    b.accepts cs = true ∧ b.value cs = v ↔ Denotes b cs v := by
  constructor
  · rintro ⟨h, rfl⟩
    exact Base.denotes_of_accepts h
  · rintro (⟨hne, hdig⟩ | ⟨rfl, hne, hdig⟩)
    · exact ⟨Base.accepts_run hne hdig, Base.value_run hne hdig⟩
    · refine ⟨allOf_iff.mpr ⟨hne, hdig⟩, ?_⟩
      show -(runValue 10 _ : Int) = _
      rw [show (10 : Nat) = Base.dec.radix from rfl, runValue_eq_worth]

/-- A text denotes one number. -/
theorem Denotes.unique {b : Base} {cs : List Char} {v v' : Int} (h : Denotes b cs v)
    (h' : Denotes b cs v') : v = v' :=
  (Base.accepts_iff_denotes.mpr h).2.symm.trans (Base.accepts_iff_denotes.mpr h').2

/-! ## Failures -/

/-- A computation whose every failure is a configuration failure. -/
def ConfigOnly {α : Type} (r : Except Failure α) : Prop := ∀ e, r = .error e → ∃ m, e = .config m

namespace ConfigOnly

variable {α β : Type}

theorem ok (a : α) : ConfigOnly (.ok a : Except Failure α) := by
  intro e h
  cases h

theorem config (m : String) : ConfigOnly (.error (.config m) : Except Failure α) := by
  intro e h
  cases h
  exact ⟨m, rfl⟩

theorem checkConfig (c : Bool) (m : String) : ConfigOnly (SmtBackend.checkConfig c m) := by
  unfold SmtBackend.checkConfig
  split
  · exact ok ()
  · exact config m

theorem bind {x : Except Failure α} {f : α → Except Failure β} (hx : ConfigOnly x)
    (hf : ∀ a, ConfigOnly (f a)) : ConfigOnly (x >>= f) := by
  intro e h
  cases x with
  | error e' =>
    simp only [Bind.bind, Except.bind, Except.error.injEq] at h
    exact h ▸ hx e' rfl
  | ok a => exact hf a e h

end ConfigOnly

/-- Reading a numeral fails only with a configuration failure. -/
theorem bvNumeralValue_configOnly (value : String) (base : KindArg Base) (width : Int) :
    ConfigOnly (bvNumeralValue value base width) := by
  intro e h
  cases base with
  | unknown t =>
    simp only [bvNumeralValue, bind, Except.bind] at h
    exact ⟨_, (Except.error.inj h).symm⟩
  | known b =>
    simp only [bvNumeralValue, checkConfig, bind, Except.bind, pure, Except.pure] at h
    split_ifs at h <;> exact ⟨_, (Except.error.inj h).symm⟩

/-! ## Range and residue -/

/-- A numeral in a base reads exactly when its width is positive, the text
is of the base's pattern, and its integer fits the width; the value is the
integer modulo `2 ^ w`. -/
theorem bvNumeralValue_ok_iff {value : String} {b : Base} {width : Int} {n : Nat} :
    bvNumeralValue value (.known b) width = .ok n ↔
      0 < width ∧ b.accepts (trimChars value.toList) = true ∧
        -(2 ^ (width.toNat - 1) : Int) ≤ b.value (trimChars value.toList) ∧
        b.value (trimChars value.toList) < 2 ^ width.toNat ∧
        (n : Int) = b.value (trimChars value.toList) % 2 ^ width.toNat := by
  simp only [bvNumeralValue, checkConfig, bind, Except.bind, pure, Except.pure, Nat.pow_eq,
    Nat.cast_pow, Nat.cast_ofNat]
  generalize b.value (trimChars value.toList) = v
  by_cases hw : width > 0
  case neg => simp [hw]
  by_cases hacc : b.accepts (trimChars value.toList) = true
  case neg => simp [hw, hacc]
  -- the unsigned range is twice the signed one
  have hhalf : (2 : Int) ^ width.toNat = 2 * 2 ^ (width.toNat - 1) := by
    rw [← pow_succ']
    congr 1
    omega
  have hpos : (0 : Int) < 2 ^ (width.toNat - 1) := by positivity
  simp only [hw, hacc, decide_true, if_true, true_and]
  generalize (2 : Int) ^ (width.toNat - 1) = half at *
  generalize (2 : Int) ^ width.toNat = full at *
  subst hhalf
  by_cases hneg : v < 0
  -- a negative decimal must fit the signed range, and stands for its two's complement
  · by_cases hlo : -half ≤ v
    · have hres : v % (2 * half) = v + 2 * half := by
        rw [← Int.add_emod_right, Int.emod_eq_of_lt (by omega) (by omega)]
      simp only [hneg, if_true, ge_iff_le, hlo, decide_true, Except.ok.injEq, hres, true_and]
      constructor <;> intro h <;> omega
    · simp [hneg, hlo]
  · by_cases hhi : v < 2 * half
    · have hres : v % (2 * half) = v := Int.emod_eq_of_lt (by omega) hhi
      simp only [hneg, if_false, hhi, decide_true, if_true, Except.ok.injEq, hres, true_and]
      constructor <;> intro h <;> omega
    · simp [hneg, hhi]

/-- A literal made with a base is the bit-vector of the numeral's value. -/
theorem mkValue_based (w : Nat) (s : String) (b : Base) :
    Values.mkValue (.sort ⟨.bitVec w, none⟩) (.text s) (some (.known b)) =
      (bvNumeralValue s (.known b) w).map fun n => ⟨Term.ofBits w n, none⟩ := by
  simp only [Values.mkValue, Values.bvValue, Handle.sortView, SortHandle.isBv, SmtSort.isBitVec,
    SmtSort.width, Values.ValueArg.quoted, Handle.asSort]
  cases bvNumeralValue s (.known b) w <;> rfl

/-! ## Numerals in a base -/

section Width

variable {s : String} {b : Base} {w : Nat}

/-- At a positive width, a numeral reads exactly when its text denotes an
integer that fits the width, as that integer modulo `2 ^ w`. -/
theorem bvNumeralValue_ok_iff_denotes (hw : 0 < w) {n : Nat} :
    bvNumeralValue s (.known b) w = .ok n ↔
      ∃ v, Denotes b (trimChars s.toList) v ∧ -(2 ^ (w - 1) : Int) ≤ v ∧ v < 2 ^ w ∧
        (n : Int) = v % 2 ^ w := by
  rw [bvNumeralValue_ok_iff, Int.toNat_natCast]
  constructor
  · rintro ⟨-, hacc, hlo, hhi, hn⟩
    exact ⟨_, Base.denotes_of_accepts hacc, hlo, hhi, hn⟩
  · rintro ⟨v, hd, hlo, hhi, hn⟩
    obtain ⟨hacc, rfl⟩ := Base.accepts_iff_denotes.mpr hd
    exact ⟨by exact_mod_cast hw, hacc, hlo, hhi, hn⟩

/-- The value read is below `2 ^ w`. -/
theorem bvNumeralValue_lt {n : Nat} (h : bvNumeralValue s (.known b) w = .ok n) : n < 2 ^ w := by
  obtain ⟨hw, -, -, -, hn⟩ := bvNumeralValue_ok_iff.mp h
  rw [Int.toNat_natCast] at hn
  have hlt : (n : Int) < 2 ^ w := hn ▸ Int.emod_lt_of_pos _ (by positivity)
  exact_mod_cast hlt

theorem bvNumeralValue_nonpos (width : Int) (hw : width ≤ 0) :
    ∃ m, bvNumeralValue s (.known b) width = .error (.config m) := by
  simp [bvNumeralValue, checkConfig, bind, Except.bind, pure, Except.pure, not_lt.mpr hw]

/-- A text denoting a number that fits makes the bit-vector of that number
modulo `2 ^ w`. -/
theorem mkValue_of_denotes (hw : 0 < w) {v : Int} (hd : Denotes b (trimChars s.toList) v)
    (hlo : -(2 ^ (w - 1) : Int) ≤ v) (hhi : v < 2 ^ w) :
    Values.mkValue (.sort ⟨.bitVec w, none⟩) (.text s) (some (.known b)) =
      .ok ⟨Term.ofBits w (v % 2 ^ w).toNat, none⟩ := by
  have hmod : (((v % 2 ^ w).toNat : Nat) : Int) = v % 2 ^ w :=
    Int.toNat_of_nonneg (Int.emod_nonneg _ (by positivity))
  rw [mkValue_based, (bvNumeralValue_ok_iff_denotes hw).mpr ⟨v, hd, hlo, hhi, hmod⟩]
  rfl

/-- Two texts denoting one number, in any bases, make the same literal. -/
theorem mkValue_based_agree (hw : 0 < w) {s' : String} {b' : Base} {v : Int} {t : TermHandle}
    (hd : Denotes b (trimChars s.toList) v) (hd' : Denotes b' (trimChars s'.toList) v)
    (h : Values.mkValue (.sort ⟨.bitVec w, none⟩) (.text s) (some (.known b)) = .ok t) :
    Values.mkValue (.sort ⟨.bitVec w, none⟩) (.text s') (some (.known b')) = .ok t := by
  rw [mkValue_based] at h ⊢
  obtain ⟨n, hn, rfl⟩ : ∃ n, bvNumeralValue s (.known b) w = .ok n ∧ ⟨Term.ofBits w n, none⟩ = t := by
    cases hr : bvNumeralValue s (.known b) w <;> rw [hr] at h <;> cases h
    exact ⟨_, rfl, rfl⟩
  -- the value is read off the number the text denotes, whatever the text
  obtain ⟨v₀, hd₀, hlo, hhi, hv⟩ := (bvNumeralValue_ok_iff_denotes hw).mp hn
  rw [hd.unique hd₀] at hd'
  rw [(bvNumeralValue_ok_iff_denotes hw).mpr ⟨v₀, hd', hlo, hhi, hv⟩]
  rfl

end Width

/-- For every base, every positive width `w` and every text, reading the
text as a bit-vector numeral succeeds exactly when the stripped text is of
the base's pattern and the integer `v` it denotes satisfies
`-2 ^ (w - 1) ≤ v < 2 ^ w`; the value is then `v` modulo `2 ^ w`, below
`2 ^ w`. Every failure is a configuration failure, and so is every width
that is not positive. The literal made with the base is the bit-vector of
`v` modulo `2 ^ w`, so one number written in two bases makes one term. -/
theorem bit_numerals_read_in_range (s : String) (b : Base) (w : Nat) (hw : 0 < w) :
    (∀ n : Nat, bvNumeralValue s (.known b) w = .ok n ↔
      ∃ v, Denotes b (trimChars s.toList) v ∧ -(2 ^ (w - 1) : Int) ≤ v ∧ v < 2 ^ w ∧
        (n : Int) = v % 2 ^ w) ∧
    (∀ n, bvNumeralValue s (.known b) w = .ok n → n < 2 ^ w) ∧
    ConfigOnly (bvNumeralValue s (.known b) w) ∧
    (∀ width : Int, width ≤ 0 → ∃ m, bvNumeralValue s (.known b) width = .error (.config m)) ∧
    (∀ v, Denotes b (trimChars s.toList) v → -(2 ^ (w - 1) : Int) ≤ v → v < 2 ^ w →
      Values.mkValue (.sort ⟨.bitVec w, none⟩) (.text s) (some (.known b)) =
        .ok ⟨Term.ofBits w (v % 2 ^ w).toNat, none⟩) ∧
    ∀ (s' : String) (b' : Base) (v : Int) (t : TermHandle),
      Denotes b (trimChars s.toList) v → Denotes b' (trimChars s'.toList) v →
      Values.mkValue (.sort ⟨.bitVec w, none⟩) (.text s) (some (.known b)) = .ok t →
      Values.mkValue (.sort ⟨.bitVec w, none⟩) (.text s') (some (.known b')) = .ok t :=
  ⟨fun _ => bvNumeralValue_ok_iff_denotes hw, fun _ => bvNumeralValue_lt,
    bvNumeralValue_configOnly s _ w, bvNumeralValue_nonpos,
    fun _ hd hlo hhi => mkValue_of_denotes hw hd hlo hhi,
    fun _ _ _ _ hd hd' h => mkValue_based_agree hw hd hd' h⟩

/-- `-128` at eight bits: the least signed byte, read as its two's
complement `128`. -/
example : bvNumeralValue "-128" (.known .dec) 8 = .ok 128 := by decide

/-- The least signed byte, in decimal. -/
theorem least_signed_byte_reads : 0 < 8 ∧
    (∀ n : Nat, bvNumeralValue "-128" (.known .dec) 8 = .ok n ↔
      ∃ v, Denotes .dec (trimChars "-128".toList) v ∧ -(2 ^ (8 - 1) : Int) ≤ v ∧ v < 2 ^ 8 ∧
        (n : Int) = v % 2 ^ 8) ∧
    (∀ n, bvNumeralValue "-128" (.known .dec) 8 = .ok n → n < 2 ^ 8) ∧
    ConfigOnly (bvNumeralValue "-128" (.known .dec) 8) ∧
    (∀ width : Int, width ≤ 0 → ∃ m, bvNumeralValue "-128" (.known .dec) width = .error (.config m)) ∧
    (∀ v, Denotes .dec (trimChars "-128".toList) v → -(2 ^ (8 - 1) : Int) ≤ v → v < 2 ^ 8 →
      Values.mkValue (.sort ⟨.bitVec 8, none⟩) (.text "-128") (some (.known .dec)) =
        .ok ⟨Term.ofBits 8 (v % 2 ^ 8).toNat, none⟩) ∧
    ∀ (s' : String) (b' : Base) (v : Int) (t : TermHandle),
      Denotes .dec (trimChars "-128".toList) v → Denotes b' (trimChars s'.toList) v →
      Values.mkValue (.sort ⟨.bitVec 8, none⟩) (.text "-128") (some (.known .dec)) = .ok t →
      Values.mkValue (.sort ⟨.bitVec 8, none⟩) (.text s') (some (.known b')) = .ok t :=
  ⟨by decide, bit_numerals_read_in_range "-128" .dec 8 (by decide)⟩

end SmtBackend
