import Mathlib.Data.List.TakeWhile
import SmtBackend.Proofs.Values.BitNumerals

/-!
# Bit-vector literals in SMT-LIB form

Without a base, a bit-vector value is read from its SMT-LIB text: `#b`
followed by as many characters as the width, `#x` followed by a quarter as
many, or `(_ bvN m)` with `m` the width and `N` below `2 ^ m`. The count is
taken of the characters right after the prefix, but those characters are
stripped of blanks once more before they are read as digits, so blanks
between the prefix and the digits count towards the width: `#b 1` is a
two-bit literal.

`BitLiteral` is the grammar the reader accepts, that padding included, and
`bit_literals_read` says that a value is made exactly for these texts, as
the bit-vector of the number they denote, and that every other text is a
configuration failure.
-/

namespace SmtBackend

open Text Numeral

/-! ## Digits and blanks -/

/-- The three classes of hexadecimal digits, by code point. -/
theorem isHexDigit_ranges {c : Char} (h : isHexDigit c = true) :
    48 ≤ c.toNat ∧ c.toNat ≤ 57 ∨ 97 ≤ c.toNat ∧ c.toNat ≤ 102 ∨ 65 ≤ c.toNat ∧ c.toNat ≤ 70 := by
  simp only [isHexDigit, isAsciiDigit, Bool.or_eq_true, Bool.and_eq_true, decide_eq_true_eq,
    Char.le_def] at h
  rcases h with (h | h) | h
  · exact Or.inl ⟨h.1, h.2⟩
  · exact Or.inr (Or.inl ⟨h.1, h.2⟩)
  · exact Or.inr (Or.inr ⟨h.1, h.2⟩)

theorem Base.hexValue_lt {b : Base} {c : Char} (h : b.digit c = true) : hexValue c < b.radix := by
  cases b with
  | bin =>
    simp only [Base.digit, Bool.or_eq_true, beq_iff_eq] at h
    rcases h with rfl | rfl <;> decide
  | dec =>
    rw [hexValue_of_isAsciiDigit h]
    simp only [Base.digit, isAsciiDigit, Bool.and_eq_true, decide_eq_true_eq, Char.le_def] at h
    have h₂ : c.toNat ≤ 57 := h.2
    show c.toNat - 48 < 10
    omega
  | hex =>
    have hr := isHexDigit_ranges h
    simp only [hexValue, isAsciiDigit, Bool.and_eq_true, decide_eq_true_eq, Char.le_def]
    show _ < 16
    split_ifs with h₁ h₂
    · show c.toNat - 48 < 16
      have : c.toNat ≤ 57 := h₁.2
      omega
    · show c.toNat - 97 + 10 < 16
      have : c.toNat ≤ 102 := h₂.2
      omega
    · show c.toNat - 65 + 10 < 16
      have : ¬ (48 ≤ c.toNat ∧ c.toNat ≤ 57) := h₁
      have : ¬ (97 ≤ c.toNat ∧ c.toNat ≤ 102) := h₂
      omega

theorem Base.blank_of_digit {b : Base} {c : Char} (h : b.digit c = true) : isBlank c = false := by
  cases b with
  | bin =>
    simp only [Base.digit, Bool.or_eq_true, beq_iff_eq] at h
    rcases h with rfl | rfl <;> decide
  | dec => exact isBlank_of_isAsciiDigit h
  | hex =>
    have hr := isHexDigit_ranges h
    simp only [isBlank, Bool.or_eq_false_iff, Bool.and_eq_false_iff, decide_eq_false_iff_not,
      beq_eq_false_iff_ne, ne_eq]
    omega

/-- A run of a base's digits stands for less than the radix to its length. -/
theorem Base.worth_lt {b : Base} {ds : List Char} (h : ∀ c ∈ ds, b.digit c = true) :
    b.worth ds < b.radix ^ ds.length := by
  have hlen : (ds.reverse.map hexValue).length = ds.length := by simp
  rw [Base.worth, ← hlen]
  refine Nat.ofDigits_lt_base_pow_length (by cases b <;> decide) ?_
  intro x hx
  obtain ⟨c, hc, rfl⟩ := List.mem_map.mp hx
  exact Base.hexValue_lt (h c (List.mem_reverse.mp hc))

/-! ## Stripped text -/

/-- Stripped text does not end in a blank. -/
theorem getLast?_trimChars (cs : List Char) : ∀ c ∈ (trimChars cs).getLast?, isBlank c = false := by
  intro c hc
  have h := List.head?_dropWhile_not isBlank (cs.dropWhile isBlank).reverse
  rw [trimChars, List.getLast?_reverse] at hc
  rw [Option.mem_def.mp hc] at h
  exact h

theorem getLast?_of_append {p : Char → Bool} (pre : List Char) {cs : List Char}
    (h : ∀ c ∈ (pre ++ cs).getLast?, p c = false) : ∀ c ∈ cs.getLast?, p c = false := by
  intro c hc
  apply h
  rw [List.getLast?_append, Option.mem_def.mp hc]
  rfl

/-- Text that does not end in a blank is stripped by dropping its leading
blanks. -/
theorem trimChars_of_getLast {cs : List Char} (h : ∀ c ∈ cs.getLast?, isBlank c = false) :
    trimChars cs = cs.dropWhile isBlank := by
  obtain ⟨pre, hpre⟩ := List.dropWhile_suffix isBlank (l := cs)
  have hlast : ∀ c ∈ (cs.dropWhile isBlank).reverse.head?, isBlank c = false := by
    rw [List.head?_reverse]
    rw [← hpre] at h
    exact getLast?_of_append pre h
  rw [trimChars, dropWhile_isBlank_of_head hlast, List.reverse_reverse]

theorem trimChars_blanks_append {pad cs : List Char} (hpad : ∀ c ∈ pad, isBlank c = true) :
    trimChars (pad ++ cs) = trimChars cs := by
  rw [trimChars, trimChars, List.dropWhile_append_of_pos hpad]

/-- Blanks are dropped up to the first character that is no blank. -/
theorem dropWhile_blanks_append {pad : List Char} (hpad : ∀ c ∈ pad, isBlank c = true) {c : Char}
    (hc : isBlank c = false) (rest : List Char) : (pad ++ c :: rest).dropWhile isBlank = c :: rest := by
  simp [List.dropWhile_append_of_pos hpad, hc]

theorem drop_takeWhile_length {α : Type} (p : α → Bool) (l : List α) :
    l.drop (l.takeWhile p).length = l.dropWhile p := by
  have h := @List.drop_left _ (l.takeWhile p) (l.dropWhile p)
  rwa [List.takeWhile_append_dropWhile] at h

/-! ## Digits after a prefix -/

/-- A run of digits is its own stripped form. -/
theorem trimChars_digits {b : Base} {ds : List Char} (hdig : ∀ c ∈ ds, b.digit c = true) :
    trimChars ds = ds :=
  trimChars_eq_self (fun c hc => Base.blank_of_digit (hdig c (List.mem_of_mem_head? hc)))
    (fun c hc => Base.blank_of_digit (hdig c (List.mem_of_mem_getLast? hc)))

/-- The characters after a `#b` or `#x` prefix as they are read: blanks,
then a nonempty run of the base's digits. -/
inductive Padded (b : Base) : List Char → List Char → Prop
  | mk {pad ds : List Char} (blank : ∀ c ∈ pad, isBlank c = true) (ne : ds ≠ [])
      (digits : ∀ c ∈ ds, b.digit c = true) : Padded b (pad ++ ds) ds

namespace Padded

variable {b : Base} {cs ds : List Char}

theorem trimChars_eq (h : Padded b cs ds) : trimChars cs = ds := by
  obtain ⟨blank, -, digits⟩ := h
  rw [trimChars_blanks_append blank]
  exact trimChars_digits digits

theorem all_digits (h : Padded b cs ds) : ∀ c ∈ ds, b.digit c = true := by
  obtain ⟨-, -, digits⟩ := h
  exact digits

theorem length_le (h : Padded b cs ds) : ds.length ≤ cs.length := by
  obtain ⟨-, -, -⟩ := h
  simp

/-- Text not ending in a blank is padded digits exactly when its stripped
form is a run of digits. -/
theorem of_trimChars (hlast : ∀ c ∈ cs.getLast?, isBlank c = false) (hne : trimChars cs ≠ [])
    (hdig : ∀ c ∈ trimChars cs, b.digit c = true) : Padded b cs (trimChars cs) := by
  rw [trimChars_of_getLast hlast] at hne hdig ⊢
  have h : Padded b (cs.takeWhile isBlank ++ cs.dropWhile isBlank) (cs.dropWhile isBlank) :=
    .mk (fun _ hc => List.mem_takeWhile_imp hc) hne hdig
  rwa [List.takeWhile_append_dropWhile] at h

end Padded

/-- Below `2 ^ w` the signed bound is no constraint, and a number that is not
negative is its own residue. -/
theorem unsigned_range {w k : Nat} {v : Int} (hv : 0 ≤ v) :
    (-(2 ^ (w - 1) : Int) ≤ v ∧ v < 2 ^ w ∧ (k : Int) = v % 2 ^ w) ↔
      v < 2 ^ w ∧ (k : Int) = v := by
  constructor
  · rintro ⟨-, hhi, hk⟩
    exact ⟨hhi, hk.trans (Int.emod_eq_of_lt hv hhi)⟩
  · rintro ⟨hhi, hk⟩
    have hlo : -(2 ^ (w - 1) : Int) ≤ 0 := neg_nonpos.mpr (by positivity)
    exact ⟨hlo.trans hv, hhi, hk.trans (Int.emod_eq_of_lt hv hhi).symm⟩

section Width

variable {w : Nat} {b : Base} {k : Nat}

/-- The characters after a `#b` or `#x` prefix, which end the stripped
text, read as a numeral exactly when they are blanks and then digits of the
base, the digits' number fitting the width. -/
theorem bvNumeralValue_padded (hw : 0 < w) (hb : b ≠ .dec) {cs : List Char}
    (hlast : ∀ c ∈ cs.getLast?, isBlank c = false) :
    bvNumeralValue (String.ofList cs) (.known b) w = .ok k ↔
      ∃ ds, Padded b cs ds ∧ b.worth ds < 2 ^ w ∧ k = b.worth ds := by
  rw [bvNumeralValue_ok_iff_denotes hw, String.toList_ofList]
  constructor
  · rintro ⟨v, hd, hrange⟩
    generalize ht : trimChars cs = t at hd
    cases hd with
    | run hne hdig =>
      obtain ⟨hlt, hk⟩ := (unsigned_range (Int.natCast_nonneg _)).mp hrange
      subst ht
      exact ⟨_, Padded.of_trimChars hlast hne hdig, by exact_mod_cast hlt, by exact_mod_cast hk⟩
    | negated hdec => exact absurd hdec hb
  · rintro ⟨ds, hp, hlt, rfl⟩
    refine ⟨b.worth ds, ?_, (unsigned_range (Int.natCast_nonneg _)).mpr ⟨by exact_mod_cast hlt, rfl⟩⟩
    rw [hp.trimChars_eq]
    obtain ⟨-, hne, hdig⟩ := hp
    exact .run hne hdig

/-- A run of decimal digits reads as its number when that fits the width. -/
theorem bvNumeralValue_digitRun (hw : 0 < w) {ns : List Char} (h : DigitRun ns) :
    bvNumeralValue (String.ofList ns) (.known .dec) w = .ok k ↔
      Base.dec.worth ns < 2 ^ w ∧ k = Base.dec.worth ns := by
  have hrun : Denotes .dec ns (Base.dec.worth ns) := .run h.ne_nil h.digits
  rw [bvNumeralValue_ok_iff_denotes hw, String.toList_ofList, trimChars_digits (b := .dec) h.digits]
  constructor
  · rintro ⟨v, hd, hrange⟩
    rw [← hrun.unique hd] at hrange
    obtain ⟨hlt, hk⟩ := (unsigned_range (Int.natCast_nonneg _)).mp hrange
    exact ⟨by exact_mod_cast hlt, by exact_mod_cast hk⟩
  · rintro ⟨hlt, rfl⟩
    exact ⟨_, hrun, (unsigned_range (Int.natCast_nonneg _)).mpr ⟨by exact_mod_cast hlt, rfl⟩⟩

end Width

/-! ## The indexed form -/

/-- `(_ bvN m)` with blanks where SMT-LIB allows them (`\(\s*_\s+bv([0-9]+)\s+([0-9]+)\s*\)`),
with the digits of `N` and of `m`. -/
inductive IndexedBits : List Char → List Char → List Char → Prop
  | mk {sp₀ sp₁ sp₂ sp₃ ns ms : List Char} (lead : ∀ c ∈ sp₀, isBlank c = true) (gap₁ : Gap sp₁)
      (value : DigitRun ns) (gap₂ : Gap sp₂) (width : DigitRun ms)
      (trail : ∀ c ∈ sp₃, isBlank c = true) :
      IndexedBits ('(' :: sp₀ ++ '_' :: sp₁ ++ 'b' :: 'v' :: ns ++ sp₂ ++ ms ++ sp₃ ++ [')']) ns ms

theorem Gap.head_not_digit {sp : List Char} (h : Gap sp) (rest : List Char) :
    ∀ c ∈ (sp ++ rest).head?, isAsciiDigit c = false := by
  obtain ⟨c, cs, rfl⟩ := List.exists_cons_of_ne_nil h.ne_nil
  intro d hd
  cases hd
  cases hdig : isAsciiDigit c
  · rfl
  · have hblank := h.blank c List.mem_cons_self
    rw [isBlank_of_isAsciiDigit hdig] at hblank
    cases hblank


namespace IndexedBits

variable {cs ns ms : List Char}

theorem head (h : IndexedBits cs ns ms) : cs.head? = some '(' := by
  obtain ⟨⟩ := h
  rfl

theorem value_run (h : IndexedBits cs ns ms) : DigitRun ns := by
  obtain ⟨-, -, value, -⟩ := h
  exact value

end IndexedBits

/-- Every character of the closing blanks and parenthesis is no digit. -/
theorem trail_not_digit {sp : List Char} (h : ∀ c ∈ sp, isBlank c = true) :
    ∀ c ∈ (sp ++ [')']).head?, isAsciiDigit c = false := by
  cases sp with
  | nil => intro c hc; cases hc; decide
  | cons c cs =>
    intro d hd
    cases hd
    cases hdig : isAsciiDigit c
    · rfl
    · have hblank := h c List.mem_cons_self
      rw [isBlank_of_isAsciiDigit hdig] at hblank
      cases hblank

/-- The reader finds the digits of every indexed literal. -/
theorem indexedBits?_of_form {cs ns ms : List Char} (h : IndexedBits cs ns ms) :
    Values.indexedBits? cs = some (ns, ms) := by
  obtain ⟨lead, gap₁, value, gap₂, width, trail⟩ := h
  rename_i sp₀ sp₁ sp₂ sp₃
  -- each piece ends where the next begins: at a character of another class
  have hunder := dropWhile_blanks_append lead (by decide : isBlank '_' = false)
    (sp₁ ++ 'b' :: 'v' :: (ns ++ (sp₂ ++ (ms ++ (sp₃ ++ [')'])))))
  have hsp₁ := takeWhile_append_stop gap₁.blank (head_mem_false (p := isBlank) (c := 'b') rfl
    ('v' :: (ns ++ (sp₂ ++ (ms ++ (sp₃ ++ [')']))))))
  have hns := takeWhile_append_stop value.digits (gap₂.head_not_digit (ms ++ (sp₃ ++ [')'])))
  have hsp₂ := takeWhile_append_stop gap₂.blank (width.head_not_blank (sp₃ ++ [')']))
  have hms := takeWhile_append_stop width.digits (trail_not_digit trail)
  have htrail := dropWhile_blanks_append trail (by decide : isBlank ')' = false) []
  simp only [List.cons_append, List.append_assoc, Values.indexedBits?, hunder, hsp₁, List.drop_left,
    hns, hsp₂, hms, htrail]
  simp [gap₁.ne_nil, value.ne_nil, gap₂.ne_nil, width.ne_nil]


/-- Whatever the reader finds is an indexed literal. -/
theorem form_of_indexedBits? {cs ns ms : List Char} (h : Values.indexedBits? cs = some (ns, ms)) :
    IndexedBits cs ns ms := by
  unfold Values.indexedBits? at h
  split at h
  · rename_i rest
    split at h
    · rename_i after hunder
      simp only [drop_takeWhile_length] at h
      split at h
      · rename_i r hbv
        split_ifs at h with hcond
        simp only [Option.some.injEq, Prod.mk.injEq] at h
        obtain ⟨rfl, rfl⟩ := h
        simp only [Bool.and_eq_true, Bool.not_eq_true', List.isEmpty_eq_false_iff, beq_iff_eq] at hcond
        obtain ⟨⟨⟨⟨hsp₁, hns⟩, hsp₂⟩, hms⟩, htrail⟩ := hcond
        -- the text is the pieces the reader cut, put back together
        have hcs : '(' :: rest = '(' :: rest.takeWhile isBlank ++ '_' :: after.takeWhile isBlank ++
            'b' :: 'v' :: r.takeWhile isAsciiDigit ++
            (r.dropWhile isAsciiDigit).takeWhile isBlank ++
            ((r.dropWhile isAsciiDigit).dropWhile isBlank).takeWhile isAsciiDigit ++
            (((r.dropWhile isAsciiDigit).dropWhile isBlank).dropWhile isAsciiDigit).takeWhile isBlank ++
            [')'] := by
          simp only [List.cons_append, List.append_assoc]
          rw [← htrail]
          simp only [List.takeWhile_append_dropWhile]
          rw [← hbv, List.takeWhile_append_dropWhile, ← hunder, List.takeWhile_append_dropWhile]
        rw [hcs]
        exact .mk (fun _ => List.mem_takeWhile_imp) ⟨hsp₁, fun _ => List.mem_takeWhile_imp⟩
          ⟨hns, fun _ => List.mem_takeWhile_imp⟩ ⟨hsp₂, fun _ => List.mem_takeWhile_imp⟩
          ⟨hms, fun _ => List.mem_takeWhile_imp⟩ (fun _ => List.mem_takeWhile_imp)
      · cases h
    · cases h
  · cases h


theorem indexedBits?_eq_some_iff {cs ns ms : List Char} :
    Values.indexedBits? cs = some (ns, ms) ↔ IndexedBits cs ns ms :=
  ⟨form_of_indexedBits?, indexedBits?_of_form⟩

/-! ## Literals -/

/-- The texts of a bit-vector literal of width `w` that are read, with the
number each denotes: `#b` followed by `w` characters and `#x` followed by
`w / 4`, each time blanks and then digits, or the indexed form `(_ bvN w)`
with `N` below `2 ^ w`. -/
inductive BitLiteral (w : Nat) : List Char → Nat → Prop
  | binary {digits ds : List Char} (run : Padded .bin digits ds) (count : digits.length = w) :
      BitLiteral w ('#' :: 'b' :: digits) (Base.bin.worth ds)
  | hex {digits ds : List Char} (run : Padded .hex digits ds) (whole : w % 4 = 0)
      (count : digits.length = w / 4) : BitLiteral w ('#' :: 'x' :: digits) (Base.hex.worth ds)
  | indexed {cs ns ms : List Char} (form : IndexedBits cs ns ms) (width : Base.dec.worth ms = w)
      (fits : Base.dec.worth ns < 2 ^ w) : BitLiteral w cs (Base.dec.worth ns)

theorem bvValue_ok_iff {w : Nat} {x : String} {b : Base} {t : TermHandle} :
    Values.bvValue (.sort ⟨.bitVec w, none⟩) (.text x) (.known b) = .ok t ↔
      ∃ n, bvNumeralValue x (.known b) w = .ok n ∧ t = ⟨Term.ofBits w n, none⟩ := by
  change Values.mkValue (.sort ⟨.bitVec w, none⟩) (.text x) (some (.known b)) = .ok t ↔ _
  rw [mkValue_based]
  cases bvNumeralValue x (.known b) w <;> simp [Except.map, eq_comm]

section Read

variable {w : Nat} {s : String} {t : TermHandle}

/-- Whatever is read is a literal of the width, made as the bit-vector of
the number it denotes. -/
theorem bitLiteral_of_mkValue (hw : 0 < w)
    (h : Values.mkValue (.sort ⟨.bitVec w, none⟩) (.text s) none = .ok t) :
    ∃ n, BitLiteral w (trimChars s.toList) n ∧ t = ⟨Term.ofBits w n, none⟩ := by
  have hlast := getLast?_trimChars s.toList
  simp only [Values.mkValue, Values.bvLiteral, Handle.sortView, SortHandle.isBv, SmtSort.isBitVec,
    SmtSort.width, if_true] at h
  generalize trimChars s.toList = text at hlast h ⊢
  split at h
  · rename_i digits
    obtain ⟨hcount, h⟩ := checkConfig_bind_ok.mp h
    obtain ⟨n, hn, rfl⟩ := bvValue_ok_iff.mp h
    obtain ⟨ds, run, -, rfl⟩ :=
      (bvNumeralValue_padded hw (by decide) (getLast?_of_append ['#', 'b'] hlast)).mp hn
    exact ⟨_, .binary run (by simpa using hcount), rfl⟩
  · rename_i digits
    obtain ⟨hcount, h⟩ := checkConfig_bind_ok.mp h
    simp only [Bool.and_eq_true, beq_iff_eq] at hcount
    obtain ⟨n, hn, rfl⟩ := bvValue_ok_iff.mp h
    obtain ⟨ds, run, -, rfl⟩ :=
      (bvNumeralValue_padded hw (by decide) (getLast?_of_append ['#', 'x'] hlast)).mp hn
    exact ⟨_, .hex run hcount.1 hcount.2, rfl⟩
  · split at h
    · cases h
    · rename_i ns ms hread
      obtain ⟨hwidth, h⟩ := checkConfig_bind_ok.mp h
      obtain ⟨n, hn, rfl⟩ := bvValue_ok_iff.mp h
      have form := form_of_indexedBits? hread
      obtain ⟨hfits, rfl⟩ := (bvNumeralValue_digitRun hw form.value_run).mp hn
      refine ⟨_, .indexed form ?_ hfits, rfl⟩
      rw [← runValue_eq_worth]
      exact beq_iff_eq.mp hwidth

/-- Every literal of the width is read, as the bit-vector of the number it
denotes. -/
theorem mkValue_of_bitLiteral (hw : 0 < w) {n : Nat} (h : BitLiteral w (trimChars s.toList) n) :
    Values.mkValue (.sort ⟨.bitVec w, none⟩) (.text s) none = .ok ⟨Term.ofBits w n, none⟩ := by
  have hlast := getLast?_trimChars s.toList
  simp only [Values.mkValue, Values.bvLiteral, Handle.sortView, SortHandle.isBv, SmtSort.isBitVec,
    SmtSort.width, if_true]
  generalize trimChars s.toList = text at hlast h ⊢
  cases h with
  | binary run count =>
    -- at most `w` binary digits fit `w` bits
    have hfit : Base.bin.worth _ < 2 ^ w :=
      (Base.worth_lt run.all_digits).trans_le (Nat.pow_le_pow_right (by decide) (count ▸ run.length_le))
    refine checkConfig_bind_ok.mpr ⟨by simpa using count, bvValue_ok_iff.mpr ⟨_, ?_, rfl⟩⟩
    exact (bvNumeralValue_padded hw (by decide) (getLast?_of_append ['#', 'b'] hlast)).mpr
      ⟨_, run, hfit, rfl⟩
  | hex run whole count =>
    -- at most `w / 4` hexadecimal digits fit `w` bits when four divides `w`
    have hpow : (16 : Nat) ^ (w / 4) = 2 ^ w := by
      rw [show (16 : Nat) = 2 ^ 4 from rfl, ← pow_mul]
      congr 1
      omega
    have hfit : Base.hex.worth _ < 2 ^ w :=
      (Base.worth_lt run.all_digits).trans_le
        (hpow ▸ Nat.pow_le_pow_right (by decide) (count ▸ run.length_le))
    refine checkConfig_bind_ok.mpr ⟨by simp [whole, count], bvValue_ok_iff.mpr ⟨_, ?_, rfl⟩⟩
    exact (bvNumeralValue_padded hw (by decide) (getLast?_of_append ['#', 'x'] hlast)).mpr
      ⟨_, run, hfit, rfl⟩
  | indexed form width fits =>
    have hread := indexedBits?_of_form form
    have hhead := form.head
    -- the text opens with a parenthesis, so neither prefix matches
    split
    · simp at hhead
    · simp at hhead
    · rw [hread]
      refine checkConfig_bind_ok.mpr ⟨?_, bvValue_ok_iff.mpr ⟨_, ?_, rfl⟩⟩
      · rw [beq_iff_eq, ← width]
        exact runValue_eq_worth .dec _
      · exact (bvNumeralValue_digitRun hw form.value_run).mpr ⟨fits, rfl⟩

theorem ConfigOnly.map {α β : Type} {x : Except Failure α} (hx : ConfigOnly x) (f : α → β) :
    ConfigOnly (x.map f) := by
  intro e h
  cases x with
  | error e' =>
    simp only [Except.map, Except.error.injEq] at h
    exact h ▸ hx e' rfl
  | ok a => cases h

/-- Reading a literal fails only with a configuration failure. -/
theorem mkValue_bare_configOnly (w : Nat) (s : String) :
    ConfigOnly (Values.mkValue (.sort ⟨.bitVec w, none⟩) (.text s) none) := by
  have hbv : ∀ x b, ConfigOnly (Values.bvValue (.sort ⟨.bitVec w, none⟩) (.text x) (.known b)) := by
    intro x b
    change ConfigOnly (Values.mkValue (.sort ⟨.bitVec w, none⟩) (.text x) (some (.known b)))
    rw [mkValue_based]
    exact (bvNumeralValue_configOnly _ _ _).map _
  simp only [Values.mkValue, Values.bvLiteral, Handle.sortView, SortHandle.isBv, SmtSort.isBitVec,
    SmtSort.width, if_true]
  generalize trimChars s.toList = text
  split
  · exact ConfigOnly.bind (ConfigOnly.checkConfig _ _) fun _ => hbv _ _
  · exact ConfigOnly.bind (ConfigOnly.checkConfig _ _) fun _ => hbv _ _
  · split
    · exact ConfigOnly.config _
    · exact ConfigOnly.bind (ConfigOnly.checkConfig _ _) fun _ => hbv _ _

end Read

/-- For every positive width and every text, a bit-vector value is made
without a base exactly when the stripped text is a literal of the width
(`BitLiteral`): `#b` followed by `w` characters, `#x` followed by `w / 4`
when four divides `w`, each time blanks and then digits, or `(_ bvN w)`
with `N < 2 ^ w`. The value is the bit-vector of the number denoted, and
every other text is a configuration failure. -/
theorem bit_literals_read (s : String) (w : Nat) (hw : 0 < w) :
    (∀ t, Values.mkValue (.sort ⟨.bitVec w, none⟩) (.text s) none = .ok t ↔
      ∃ n, BitLiteral w (trimChars s.toList) n ∧ t = ⟨Term.ofBits w n, none⟩) ∧
    ConfigOnly (Values.mkValue (.sort ⟨.bitVec w, none⟩) (.text s) none) :=
  ⟨fun _ => ⟨bitLiteral_of_mkValue hw, fun ⟨_, hlit, ht⟩ => ht ▸ mkValue_of_bitLiteral hw hlit⟩,
    mkValue_bare_configOnly w s⟩

/-- A two-bit literal in binary. -/
theorem two_bit_literal_reads : 0 < 2 ∧
    ((∀ t, Values.mkValue (.sort ⟨.bitVec 2, none⟩) (.text "#b01") none = .ok t ↔
      ∃ n, BitLiteral 2 (trimChars "#b01".toList) n ∧ t = ⟨Term.ofBits 2 n, none⟩) ∧
    ConfigOnly (Values.mkValue (.sort ⟨.bitVec 2, none⟩) (.text "#b01") none)) :=
  ⟨by decide, bit_literals_read "#b01" 2 (by decide)⟩

/-- A blank after the prefix counts towards the width, and the digit after
it is read: `#b 1` is a two-bit literal and `#x 5` an eight-bit one, though
neither prefix is followed by digits only. -/
theorem blank_after_prefix_counts :
    Values.mkValue (.sort ⟨.bitVec 2, none⟩) (.text "#b 1") none = .ok ⟨Term.ofBits 2 1, none⟩ ∧
    Values.mkValue (.sort ⟨.bitVec 8, none⟩) (.text "#x 5") none = .ok ⟨Term.ofBits 8 5, none⟩ ∧
    (" 1".toList.all fun c => Base.bin.digit c) = false ∧
    (" 5".toList.all fun c => Base.hex.digit c) = false :=
  ⟨rfl, rfl, rfl, rfl⟩

end SmtBackend
