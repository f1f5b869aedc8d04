import SmtBackend.Proofs.Build.Dispatch

/-!
# Indexed bit-vector operators

Six operator kinds take integer indices besides one bit-vector operand:
`extract [h, l]`, `repeat [n]`, `zero_extend [n]`, `sign_extend [n]`,
`rotate_left [n]` and `rotate_right [n]`. A request for one of them is
first validated: as many indices as the kind declares, each a non-negative
integer, or a configuration failure before anything is built. The builders
then check their own bounds, `w > h ≥ l` for an extract of a `w`-bit
operand and `n ≥ 1` for a repeat, again as configuration failures.

`OpKind.indexedWidth?` states the SMT-LIB side: which indices each operator
accepts and the width of its result. Making the term succeeds exactly on
those indices, with a result of that width (`indexed_bits_widths`).
-/

namespace SmtBackend

/-- The kinds of indexed bit-vector operators. -/
def OpKind.bitsIndexed : List OpKind :=
  [.bvExtract, .bvRepeat, .bvZeroExtend, .bvSignExtend, .bvRotateLeft, .bvRotateRight]

/-- The width of the result of an indexed bit-vector operator on a `w`-bit
operand, for the indices the operator accepts: bits `h` down to `l` of the
operand, `n` copies of it, `n` more bits, or the operand rotated. -/
def OpKind.indexedWidth? : OpKind → Nat → List Nat → Option Nat
  | .bvExtract, w, [h, l] => if l ≤ h ∧ h < w then some (h - l + 1) else none
  | .bvRepeat, w, [n] => if 1 ≤ n then some (n * w) else none
  | .bvZeroExtend, w, [n] | .bvSignExtend, w, [n] => some (w + n)
  | .bvRotateLeft, w, [_] | .bvRotateRight, w, [_] => some w
  | _, _, _ => none

namespace Build

/-- What a request of an indexed operator comes to, given the width its
result should have: a term of that width, or a configuration failure where
there is none. -/
def IndexedOutcome (r : Except Failure Term) : Option Nat → Prop
  | some width => ∃ t, r = .ok t ∧ t.sort = .bitVec width
  | none => ∃ m, r = .error (.config m)

/-! ## The symbols of the indexed operators -/

theorem sort_app_single (f : Fn) (a : Term) : (Term.app f [a]).sort = (f.result? [a.sort]).getD .bool :=
  rfl

theorem result_extract (h l w : Nat) :
    (Fn.extract h l).result? [.bitVec w] = if l ≤ h && h < w then some (.bitVec (h - l + 1)) else none :=
  rfl

theorem result_repeat (n w : Nat) :
    (Fn.repeat n).result? [.bitVec w] = if n ≥ 1 then some (.bitVec (w * n)) else none := rfl

theorem result_zeroExtend (n w : Nat) : (Fn.zeroExtend n).result? [.bitVec w] = some (.bitVec (w + n)) :=
  rfl

theorem result_signExtend (n w : Nat) : (Fn.signExtend n).result? [.bitVec w] = some (.bitVec (w + n)) :=
  rfl

theorem result_rotateLeft (n w : Nat) : (Fn.rotateLeft n).result? [.bitVec w] = some (.bitVec w) := rfl

theorem result_rotateRight (n w : Nat) : (Fn.rotateRight n).result? [.bitVec w] = some (.bitVec w) := rfl

/-- An operator has a width only on as many indices as it declares. -/
theorem indexedWidth?_length {K : OpKind} {w width : Nat} {ns : List Nat}
    (h : K.indexedWidth? w ns = some width) : ns.length = K.indexCount := by
  unfold OpKind.indexedWidth? at h
  split at h <;> first | rfl | cases h

/-! ## Indices -/

/-- Indices that are all non-negative integers are the integers of their
natural numbers. -/
theorem eq_map_int_of_nat {indices : List IndexArg} (h : ∀ i ∈ indices, i.nat?.isSome) :
    indices = (indices.filterMap IndexArg.nat?).map fun n : Nat => .int n := by
  induction indices with
  | nil => rfl
  | cons i rest ih =>
    have hrest := ih fun j hj => h j (List.mem_cons_of_mem _ hj)
    cases i with
    | int v =>
      have hv : 0 ≤ v := by simpa [IndexArg.nat?] using h (.int v) List.mem_cons_self
      simp only [IndexArg.nat?, hv, if_true, List.filterMap_cons, List.map_cons, Int.toNat_of_nonneg hv]
      rw [← hrest]
    | other t => simp [IndexArg.nat?] at h

theorem filterMap_nat?_map_int (ns : List Nat) :
    (ns.map fun n : Nat => IndexArg.int n).filterMap IndexArg.nat? = ns := by
  induction ns with
  | nil => rfl
  | cons n ns ih => simp [IndexArg.nat?, ih]

theorem nat?_isSome_of_map_int {ns : List Nat} : ∀ i ∈ ns.map (fun n : Nat => IndexArg.int n), i.nat?.isSome := by
  intro i hi
  obtain ⟨n, -, rfl⟩ := List.mem_map.mp hi
  simp [IndexArg.nat?]

/-! ## Each builder -/

section Operand

variable {a : Term} {w : Nat}

theorem build_extract (ha : a.sort = .bitVec w) (h l : Nat) :
    IndexedOutcome (build .bvExtract [a] [h, l]) (OpKind.indexedWidth? .bvExtract w [h, l]) := by
  unfold build
  simp only [dispatch, Builder.run, ha, SmtSort.isBitVec, SmtSort.width, if_true, mkApp, List.map_cons,
    List.map_nil, result_extract, OpKind.indexedWidth?]
  by_cases hc : l ≤ h ∧ h < w
  · simp [hc, checkConfig, IndexedOutcome, sort_app_single, ha, result_extract]
  · have hc' : ¬ (h < w ∧ l ≤ h) := fun h' => hc ⟨h'.2, h'.1⟩
    simp [hc, hc', checkConfig, IndexedOutcome, bind, Except.bind]

theorem build_repeat (ha : a.sort = .bitVec w) (n : Nat) :
    IndexedOutcome (build .bvRepeat [a] [n]) (OpKind.indexedWidth? .bvRepeat w [n]) := by
  unfold build
  simp only [dispatch, Builder.run, ha, SmtSort.isBitVec, if_true, mkApp, List.map_cons,
    List.map_nil, result_repeat, OpKind.indexedWidth?, expect]
  by_cases hn : 1 ≤ n
  · simp [hn, checkConfig, IndexedOutcome, sort_app_single, ha, result_repeat, Nat.mul_comm]
  · simp [hn, checkConfig, IndexedOutcome, bind, Except.bind]

theorem build_zeroExtend (ha : a.sort = .bitVec w) (n : Nat) :
    IndexedOutcome (build .bvZeroExtend [a] [n]) (OpKind.indexedWidth? .bvZeroExtend w [n]) := by
  unfold build
  simp [dispatch, Builder.run, ha, SmtSort.isBitVec, mkApp, result_zeroExtend, OpKind.indexedWidth?,
    expect, IndexedOutcome, sort_app_single, pure, Except.pure, bind, Except.bind]

theorem build_signExtend (ha : a.sort = .bitVec w) (n : Nat) :
    IndexedOutcome (build .bvSignExtend [a] [n]) (OpKind.indexedWidth? .bvSignExtend w [n]) := by
  unfold build
  simp [dispatch, Builder.run, ha, SmtSort.isBitVec, mkApp, result_signExtend, OpKind.indexedWidth?,
    expect, IndexedOutcome, sort_app_single, pure, Except.pure, bind, Except.bind]

theorem build_rotateLeft (ha : a.sort = .bitVec w) (n : Nat) :
    IndexedOutcome (build .bvRotateLeft [a] [n]) (OpKind.indexedWidth? .bvRotateLeft w [n]) := by
  unfold build
  simp [dispatch, Builder.run, ha, mkApp, result_rotateLeft, OpKind.indexedWidth?, IndexedOutcome,
    sort_app_single, pure, Except.pure]

theorem build_rotateRight (ha : a.sort = .bitVec w) (n : Nat) :
    IndexedOutcome (build .bvRotateRight [a] [n]) (OpKind.indexedWidth? .bvRotateRight w [n]) := by
  unfold build
  simp [dispatch, Builder.run, ha, mkApp, result_rotateRight, OpKind.indexedWidth?, IndexedOutcome,
    sort_app_single, pure, Except.pure]

/-- Every indexed bit-vector operator comes to the outcome its SMT-LIB
width says, on indices as many as it declares. -/
theorem build_indexed {K : OpKind} (hK : K ∈ OpKind.bitsIndexed) (ha : a.sort = .bitVec w)
    {ns : List Nat} (hlen : ns.length = K.indexCount) :
    IndexedOutcome (build K [a] ns) (K.indexedWidth? w ns) := by
  simp only [OpKind.bitsIndexed, List.mem_cons, List.not_mem_nil, or_false] at hK
  rcases hK with rfl | rfl | rfl | rfl | rfl | rfl
  · obtain ⟨h, l, rfl⟩ := List.length_eq_two.mp hlen
    exact build_extract ha h l
  · obtain ⟨n, rfl⟩ := List.length_eq_one_iff.mp hlen
    exact build_repeat ha n
  · obtain ⟨n, rfl⟩ := List.length_eq_one_iff.mp hlen
    exact build_zeroExtend ha n
  · obtain ⟨n, rfl⟩ := List.length_eq_one_iff.mp hlen
    exact build_signExtend ha n
  · obtain ⟨n, rfl⟩ := List.length_eq_one_iff.mp hlen
    exact build_rotateLeft ha n
  · obtain ⟨n, rfl⟩ := List.length_eq_one_iff.mp hlen
    exact build_rotateRight ha n

/-- Finishing a request keeps the outcome of its build, on the terms. -/
theorem finish_outcome {kindName : String} {K : OpKind} {terms : List TermHandle} {ns : List Nat}
    {o : Option Nat} (h : IndexedOutcome (build K (terms.map (·.native)) ns) o) :
    IndexedOutcome ((finish kindName K terms ns).map (·.native)) o := by
  cases o with
  | some width =>
    obtain ⟨t, hb, hsort⟩ := h
    refine ⟨t, ?_, hsort⟩
    rw [finish_ok_iff.mpr ⟨t, hb, rfl⟩]
    exact congrArg Except.ok (wrapResult_native t terms)
  | none =>
    obtain ⟨m, hb⟩ := h
    exact ⟨m, by rw [finish_config hb]; rfl⟩

end Operand

/-- What the outcome of a request says of its terms: a term of the width
where there is one, else a configuration failure. -/
theorem IndexedOutcome.of_map {r : Except Failure TermHandle} {o : Option Nat}
    (h : IndexedOutcome (r.map (·.native)) o) :
    (∀ t, r = .ok t → ∃ width, o = some width ∧ t.native.sort = .bitVec width) ∧
    (∀ width, o = some width → ∃ t, r = .ok t) ∧
    (∀ e, r = .error e → ∃ m, e = .config m) := by
  cases r with
  | ok t =>
    cases o with
    | some width =>
      obtain ⟨t', ht', hsort⟩ := h
      cases ht'
      refine ⟨fun t'' ht'' => ?_, fun _ _ => ⟨t, rfl⟩, fun e he => by cases he⟩
      cases ht''
      exact ⟨width, rfl, hsort⟩
    | none =>
      obtain ⟨m, hm⟩ := h
      cases hm
  | error e =>
    cases o with
    | some width =>
      obtain ⟨t', ht', -⟩ := h
      cases ht'
    | none =>
      obtain ⟨m, hm⟩ := h
      cases hm
      refine ⟨fun _ ht => (nomatch ht), fun _ hw => (nomatch hw), fun e' he' => ?_⟩
      cases he'
      exact ⟨m, rfl⟩

theorem map_int_injective : Function.Injective (List.map fun n : Nat => IndexArg.int n) :=
  List.map_injective_iff.mpr fun _ _ h => by exact_mod_cast IndexArg.int.inj h

/-- A request of an indexed operator on one term, past validation, comes to
the outcome of its build. -/
theorem mkTerm_indexed {kindName : String} {K : OpKind} (hk : OpKind.ofName? kindName = some K)
    (hK : K ∈ OpKind.bitsIndexed) {x : TermHandle} {indices : List IndexArg}
    (hv : validate kindName K [.term x] indices = .ok ()) :
    mkTerm kindName [.term x] indices = finish kindName K [x] (indices.filterMap IndexArg.nat?) := by
  have happ : K ≠ .ufApply := by
    rintro rfl
    simp [OpKind.bitsIndexed] at hK
  rw [mkTerm_eq hk happ, hv]
  rfl

theorem arity_of_bitsIndexed {K : OpKind} (hK : K ∈ OpKind.bitsIndexed) : K.arity = .exactly 1 := by
  simp only [OpKind.bitsIndexed, List.mem_cons, List.not_mem_nil, or_false] at hK
  rcases hK with rfl | rfl | rfl | rfl | rfl | rfl <;> rfl

/-- For every indexed bit-vector operator, every bit-vector term `x` of
width `w` and every list of indices, making the term succeeds exactly when
the indices are non-negative integers the operator accepts (`w > h ≥ l` for
an extract, `n ≥ 1` for a repeat, every `n` for the extensions and
rotations), and the result has the operator's SMT-LIB width (`h - l + 1`,
`n * w`, `w + n` or `w`). Every failure is a configuration failure; a wrong
number of indices, or an index that is negative or no integer, fails
validation, before anything is built. -/
theorem indexed_bits_widths (kindName : String) (K : OpKind) (hk : OpKind.ofName? kindName = some K)
    (hK : K ∈ OpKind.bitsIndexed) (x : TermHandle) (w : Nat) (hx : x.native.sort = .bitVec w)
    (indices : List IndexArg) :
    (∀ t, mkTerm kindName [.term x] indices = .ok t →
      ∃ (ns : List Nat) (width : Nat), indices = ns.map (fun n : Nat => .int n) ∧ K.indexedWidth? w ns = some width ∧
        t.native.sort = .bitVec width) ∧
    (∀ (ns : List Nat) (width : Nat), indices = ns.map (fun n : Nat => .int n) →
      K.indexedWidth? w ns = some width →
      ∃ t, mkTerm kindName [.term x] indices = .ok t) ∧
    (∀ e, mkTerm kindName [.term x] indices = .error e → ∃ m, e = .config m) ∧
    ((indices.length ≠ K.indexCount ∨ ∃ i ∈ indices, i.nat? = none) →
      ∃ m, validate kindName K [.term x] indices = .error (.config m) ∧
        mkTerm kindName [.term x] indices = .error (.config m)) := by
  cases hv : validate kindName K [.term x] indices with
  | error e =>
    -- validation fails first, with its configuration failure
    have hreq : mkTerm kindName [.term x] indices = .error e := by
      simp [mkTerm, hk, hv, bind, Except.bind]
    obtain ⟨m, rfl⟩ := validate_failsWith kindName K [.term x] indices _ hv
    have hvalid : ∀ ns : List Nat, indices = ns.map (fun n : Nat => .int n) → ns.length = K.indexCount →
        validate kindName K [.term x] indices = .ok () := by
      rintro ns rfl hlen
      have hone : K.arity.Admits [Handle.term x].length := by
        rw [arity_of_bitsIndexed hK]
        rfl
      exact validate_ok_iff.mpr ⟨hone, (List.length_map _).trans hlen, nat?_isSome_of_map_int⟩
    refine ⟨?_, ?_, ?_, fun _ => ⟨m, rfl, hreq⟩⟩
    · intro t ht
      rw [hreq] at ht
      cases ht
    · intro ns width hns hw
      rw [hvalid ns hns (indexedWidth?_length hw)] at hv
      cases hv
    · intro e he
      rw [hreq] at he
      exact ⟨m, (Except.error.inj he).symm⟩
  | ok u =>
    -- past validation the indices are the integers of natural numbers
    obtain ⟨-, hlen, hnat⟩ := validate_ok_iff.mp hv
    have hns := eq_map_int_of_nat hnat
    generalize hgen : indices.filterMap IndexArg.nat? = ns at hns
    subst hns
    have hreq := mkTerm_indexed hk hK hv
    rw [filterMap_nat?_map_int] at hreq
    have hout : IndexedOutcome ((mkTerm kindName [.term x] (ns.map fun n : Nat => .int n)).map
        (·.native)) (K.indexedWidth? w ns) := by
      rw [hreq]
      exact finish_outcome (build_indexed hK hx (by simpa using hlen))
    obtain ⟨hsound, hcomplete, hconfig⟩ := hout.of_map
    refine ⟨fun t ht => ?_, fun ns' width hns' hw => ?_, hconfig, ?_⟩
    · obtain ⟨width, hw, hsort⟩ := hsound t ht
      exact ⟨ns, width, rfl, hw, hsort⟩
    · rw [← map_int_injective hns'] at hw
      exact hcomplete width hw
    · -- the indices passed validation, so they are neither too many nor too few nor bad
      rintro (hne | ⟨i, hi, hnone⟩)
      · exact absurd hlen hne
      · simpa [hnone] using hnat i hi

/-- An extract of bits 3 to 0 of a byte. -/
theorem byte_extract_widths :
    OpKind.ofName? "OP_BV_EXTRACT" = some .bvExtract ∧ OpKind.bvExtract ∈ OpKind.bitsIndexed ∧
    (Term.ofBits 8 5).sort = .bitVec 8 ∧
    (∀ t, mkTerm "OP_BV_EXTRACT" [.term ⟨Term.ofBits 8 5, none⟩] [.int 3, .int 0] = .ok t →
      ∃ (ns : List Nat) (width : Nat), [IndexArg.int 3, .int 0] = ns.map (fun n : Nat => .int n) ∧
        OpKind.bvExtract.indexedWidth? 8 ns = some width ∧ t.native.sort = .bitVec width) ∧
    (∀ (ns : List Nat) (width : Nat), [IndexArg.int 3, .int 0] = ns.map (fun n : Nat => .int n) →
      OpKind.bvExtract.indexedWidth? 8 ns = some width →
      ∃ t, mkTerm "OP_BV_EXTRACT" [.term ⟨Term.ofBits 8 5, none⟩] [.int 3, .int 0] = .ok t) ∧
    (∀ e, mkTerm "OP_BV_EXTRACT" [.term ⟨Term.ofBits 8 5, none⟩] [.int 3, .int 0] = .error e →
      ∃ m, e = .config m) ∧
    (([IndexArg.int 3, .int 0].length ≠ OpKind.bvExtract.indexCount ∨
        ∃ i ∈ [IndexArg.int 3, .int 0], i.nat? = none) →
      ∃ m, validate "OP_BV_EXTRACT" .bvExtract [.term ⟨Term.ofBits 8 5, none⟩] [.int 3, .int 0] =
          .error (.config m) ∧
        mkTerm "OP_BV_EXTRACT" [.term ⟨Term.ofBits 8 5, none⟩] [.int 3, .int 0] = .error (.config m)) :=
  ⟨rfl, by simp [OpKind.bitsIndexed], rfl,
    indexed_bits_widths "OP_BV_EXTRACT" .bvExtract rfl (by simp [OpKind.bitsIndexed]) _ 8 rfl _⟩

end Build

end SmtBackend
