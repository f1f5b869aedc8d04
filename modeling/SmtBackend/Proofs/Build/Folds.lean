import SmtBackend.Proofs.Build.Dispatch

/-!
# N-ary operators are strict left folds

Conjunction, disjunction, the arithmetic operators and string concatenation
take two arguments or more (`OpKind.folds`). Their builder folds the kind's
binary term from the left: on terms `a₀, a₁, …, aₙ` the term is
`(…(a₀ ∘ a₁) ∘ …) ∘ aₙ`, where `x ∘ y` is the term the kind builds from the
two arguments `x` and `y` (`build_folds`). So a request for such a kind
succeeds exactly when it has two arguments at least, each a term, and every
step of the fold is built; and cutting the arguments at any point `i ≥ 2`,
making a term of the first `i` and a request of it followed by the rest,
gives the same term (`nary_kinds_fold_left`). Subtraction and division are
not associative, so the grouping matters: `a₀ - a₁ - a₂` is
`(a₀ - a₁) - a₂`.
-/

namespace SmtBackend

/-- The operator kinds that fold a binary operator over two arguments or
more. -/
def OpKind.folds : List OpKind :=
  [.and, .or, .intAdd, .intSub, .intMul, .intDiv, .realAdd, .realSub, .realMul, .realDiv,
    .strConcat]

namespace Build

/-! ## Successful computations -/

section Ok

variable {α β : Type}

theorem bind_eq_ok {x : Except Failure α} {f : α → Except Failure β} {b : β} :
    x >>= f = .ok b ↔ ∃ a, x = .ok a ∧ f a = .ok b := by
  cases x <;> simp [bind, Except.bind]

theorem map_eq_ok {x : Except Failure α} {f : α → β} {b : β} :
    x.map f = .ok b ↔ ∃ a, x = .ok a ∧ f a = b := by
  cases x <;> simp [Except.map]

/-- A sequence succeeds with a value of its second part exactly when the
first succeeds with an intermediate result that the second accepts. -/
theorem map_bind_eq_ok {x : Except Failure α} {f : α → Except Failure β} {g : β → Term}
    {u : Term} : (x >>= f).map g = .ok u ↔ ∃ a, x = .ok a ∧ (f a).map g = .ok u := by
  simp only [map_eq_ok, bind_eq_ok]
  constructor
  · rintro ⟨b, ⟨a, hx, hf⟩, rfl⟩
    exact ⟨a, hx, b, hf, rfl⟩
  · rintro ⟨a, hx, b, hf, rfl⟩
    exact ⟨b, ⟨a, hx, hf⟩, rfl⟩

theorem asTerm_mapM_eq_ok {args : List Handle} {terms : List TermHandle} :
    args.mapM Handle.asTerm = .ok terms ↔ args = terms.map .term := by
  induction args generalizing terms with
  | nil => cases terms <;> simp [pure, Except.pure]
  | cons a args ih =>
    simp only [List.mapM_cons, bind_eq_ok, ih]
    cases a with
    | sort s => cases terms <;> simp [Handle.asTerm, throw, throwThe, MonadExceptOf.throw]
    | term t => cases terms <;> simp [Handle.asTerm, pure, Except.pure, and_comm]

end Ok

/-! ## The builder of a fold kind -/

section Fold

variable {K : OpKind}

theorem dispatch_of_folds (hK : K ∈ OpKind.folds) : ∃ step, dispatch K = .fold step := by
  simp only [OpKind.folds, List.mem_cons, List.not_mem_nil, or_false] at hK
  rcases hK with rfl | rfl | rfl | rfl | rfl | rfl | rfl | rfl | rfl | rfl | rfl <;> exact ⟨_, rfl⟩

theorem shape_of_folds (hK : K ∈ OpKind.folds) : K.arity = .atLeastTwo ∧ K.indexCount = 0 := by
  simp only [OpKind.folds, List.mem_cons, List.not_mem_nil, or_false] at hK
  rcases hK with rfl | rfl | rfl | rfl | rfl | rfl | rfl | rfl | rfl | rfl | rfl <;> exact ⟨rfl, rfl⟩

/-- A fold kind's term of `a` and `rest` folds its binary term over `rest`,
starting from `a`. -/
theorem build_folds (hK : K ∈ OpKind.folds) (a : Term) (rest : List Term) (idx : List Nat) :
    build K (a :: rest) idx = rest.foldlM (fun x y => build K [x, y] []) a := by
  obtain ⟨step, hstep⟩ := dispatch_of_folds hK
  -- the binary term is the fold's step
  have hbinary : (fun x y => build K [x, y] []) = step := by
    funext x y
    simp [build, hstep, Builder.run]
  rw [hbinary]
  simp only [build, hstep, Builder.run]

/-- The term of arguments cut in two is the term of the first part followed
by the second. -/
theorem build_append (hK : K ∈ OpKind.folds) {ts : List Term} (hts : ts ≠ []) (ys : List Term) :
    build K (ts ++ ys) [] = (build K ts [] >>= fun v => build K (v :: ys) []) := by
  obtain ⟨a, rest, rfl⟩ := List.exists_cons_of_ne_nil hts
  have hrest : (fun v => build K (v :: ys) []) =
      fun v => ys.foldlM (fun x y => build K [x, y] []) v :=
    funext fun v => build_folds hK v ys []
  rw [List.cons_append, build_folds hK, build_folds hK, hrest, List.foldlM_append]

/-- A term of arguments cut in two is a term of the first part that is the
first argument of a term of the second. -/
theorem build_append_eq_ok (hK : K ∈ OpKind.folds) {ts : List Term} (hts : ts ≠ [])
    (ys : List Term) (u : Term) :
    build K (ts ++ ys) [] = .ok u ↔ ∃ v, build K ts [] = .ok v ∧ build K (v :: ys) [] = .ok u := by
  rw [build_append hK hts, bind_eq_ok]

end Fold

/-! ## Requests of a fold kind -/

section Request

variable {kindName : String} {K : OpKind}

theorem validate_folds (hK : K ∈ OpKind.folds) {args : List Handle} :
    validate kindName K args [] = .ok () ↔ 2 ≤ args.length := by
  obtain ⟨harity, hcount⟩ := shape_of_folds hK
  rw [validate_ok_iff, harity, hcount]
  simp [Arity.Admits]

/-- A request of a fold kind builds its term from the terms of its handles,
when it has two of them at least. -/
theorem mkTerm_folds_ok (hk : OpKind.ofName? kindName = some K) (hK : K ∈ OpKind.folds)
    (args : List Handle) (u : Term) :
    (mkTerm kindName args []).map (·.native) = .ok u ↔
      2 ≤ args.length ∧ ∃ terms : List TermHandle, args = terms.map Handle.term ∧
        build K (terms.map (·.native)) [] = .ok u := by
  have happ : K ≠ .ufApply := by
    rintro rfl
    simp [OpKind.folds] at hK
  rw [mkTerm_eq hk happ, map_bind_eq_ok]
  constructor
  · rintro ⟨_, hv, hrest⟩
    obtain ⟨terms, hterms, hfin⟩ := map_bind_eq_ok.mp hrest
    obtain ⟨h, hh, rfl⟩ := map_eq_ok.mp hfin
    obtain ⟨t, hb, rfl⟩ := finish_ok_iff.mp hh
    rw [wrapResult_native]
    exact ⟨(validate_folds hK).mp hv, terms, asTerm_mapM_eq_ok.mp hterms, hb⟩
  · rintro ⟨hn, terms, rfl, hb⟩
    have hfin : finish kindName K terms [] = .ok (wrapResult u terms) := finish_ok_iff.mpr ⟨u, hb, rfl⟩
    exact ⟨(), (validate_folds hK).mpr hn, map_bind_eq_ok.mpr
      ⟨terms, asTerm_mapM_eq_ok.mpr rfl, map_eq_ok.mpr ⟨_, hfin, wrapResult_native u terms⟩⟩⟩

/-- The term of a request of a fold kind is the left fold of the kind's
binary term over the terms of its handles. -/
theorem mkTerm_folds_left (hk : OpKind.ofName? kindName = some K) (hK : K ∈ OpKind.folds)
    (args : List Handle) (u : Term) :
    (mkTerm kindName args []).map (·.native) = .ok u ↔
      2 ≤ args.length ∧ ∃ (x : TermHandle) (xs : List TermHandle), args = (x :: xs).map Handle.term ∧
        (xs.map (·.native)).foldlM (fun a b => build K [a, b] []) x.native = .ok u := by
  rw [mkTerm_folds_ok hk hK]
  constructor
  · rintro ⟨hn, terms, rfl, hb⟩
    -- two handles at least, so the terms are not empty
    obtain ⟨x, xs, rfl⟩ := List.exists_cons_of_ne_nil (show terms ≠ [] by rintro rfl; simp at hn)
    rw [List.map_cons, build_folds hK] at hb
    exact ⟨hn, x, xs, rfl, hb⟩
  · rintro ⟨hn, x, xs, rfl, hb⟩
    refine ⟨hn, x :: xs, rfl, ?_⟩
    rw [List.map_cons, build_folds hK]
    exact hb

theorem natives_ne_nil {ts : List TermHandle} (h : 2 ≤ (ts.map Handle.term).length) :
    ts.map (·.native) ≠ [] := by
  rw [List.length_map] at h
  rw [ne_eq, List.map_eq_nil_iff]
  rintro rfl
  simp at h

/-- A request on `pre ++ post` builds the term that a request on `pre`,
followed by one on that term and `post`, builds. -/
theorem mkTerm_folds_append (hk : OpKind.ofName? kindName = some K) (hK : K ∈ OpKind.folds)
    (pre post : List Handle) (hpre : 2 ≤ pre.length) (hpost : post ≠ []) (u : Term) :
    (mkTerm kindName (pre ++ post) []).map (·.native) = .ok u ↔
      (mkTerm kindName pre [] >>= fun t => mkTerm kindName (.term t :: post) []).map (·.native) =
        .ok u := by
  rw [map_bind_eq_ok, mkTerm_folds_ok hk hK]
  constructor
  · rintro ⟨-, terms, hterms, hb⟩
    obtain ⟨ts, ys, rfl, rfl, rfl⟩ := List.map_eq_append_iff.mp hterms.symm
    rw [List.map_append, build_append_eq_ok hK (natives_ne_nil hpre)] at hb
    obtain ⟨v, hv, hu⟩ := hb
    -- the term of the first part is made by its own request
    obtain ⟨t, ht, rfl⟩ := map_eq_ok.mp ((mkTerm_folds_ok hk hK _ v).mpr ⟨hpre, ts, rfl, hv⟩)
    refine ⟨t, ht, (mkTerm_folds_ok hk hK _ u).mpr ⟨?_, t :: ys, rfl, hu⟩⟩
    simp only [List.length_cons, List.length_map]
    have : ys ≠ [] := by rintro rfl; exact hpost rfl
    have := List.length_pos_of_ne_nil this
    omega
  · rintro ⟨t, ht, hrest⟩
    obtain ⟨-, ts, rfl, hv⟩ := (mkTerm_folds_ok hk hK _ _).mp (map_eq_ok.mpr ⟨t, ht, rfl⟩)
    obtain ⟨-, terms, hterms, hu⟩ := (mkTerm_folds_ok hk hK _ u).mp hrest
    -- the second request's terms are the first part's term and those of `post`
    obtain ⟨t', ys, rfl⟩ := List.exists_cons_of_ne_nil (show terms ≠ [] by rintro rfl; cases hterms)
    obtain ⟨rfl, rfl⟩ : t = t' ∧ post = ys.map Handle.term := by
      simpa only [List.map_cons, List.cons.injEq, Handle.term.injEq] using hterms
    refine ⟨by simp only [List.length_map, List.length_append] at hpre ⊢; omega, ts ++ ys, by simp, ?_⟩
    rw [List.map_append, build_append_eq_ok hK (natives_ne_nil hpre)]
    exact ⟨t.native, hv, hu⟩

end Request

/-- For every operator kind that folds a binary operator (conjunction,
disjunction, the arithmetic operators and string concatenation) and every
list of arguments, the request succeeds exactly when it has two arguments at
least, each a term, and the left fold of the kind's binary term over them
succeeds, and its term is that fold. Cutting the arguments at any point
`i` with `2 ≤ i < n`, and making the term of the first `i` the first
argument of a request on the rest, builds the same term: when either
succeeds, both do. -/
theorem nary_kinds_fold_left (kindName : String) (K : OpKind) (hk : OpKind.ofName? kindName = some K)
    (hK : K ∈ OpKind.folds) (args : List Handle) :
    (∀ u, (mkTerm kindName args []).map (·.native) = .ok u ↔
      2 ≤ args.length ∧ ∃ (x : TermHandle) (xs : List TermHandle), args = (x :: xs).map Handle.term ∧
        (xs.map (·.native)).foldlM (fun a b => build K [a, b] []) x.native = .ok u) ∧
    ∀ i, 2 ≤ i → i < args.length → ∀ u,
      (mkTerm kindName args []).map (·.native) = .ok u ↔
        (mkTerm kindName (args.take i) [] >>= fun t =>
          mkTerm kindName (.term t :: args.drop i) []).map (·.native) = .ok u := by
  refine ⟨mkTerm_folds_left hk hK args, fun i hi hin u => ?_⟩
  -- the arguments are their first `i` followed by the rest
  have hsplit := mkTerm_folds_append hk hK (args.take i) (args.drop i)
    (by simp only [List.length_take]; omega) (by simp only [ne_eq, List.drop_eq_nil_iff]; omega) u
  rwa [List.take_append_drop] at hsplit

/-- Three integers subtracted, `(5 - 3) - 1`, however the request is cut. -/
theorem int_difference_folds_left :
    OpKind.ofName? "OP_INT_SUB" = some .intSub ∧ OpKind.intSub ∈ OpKind.folds ∧
    ((∀ u, (mkTerm "OP_INT_SUB"
          [.term ⟨Term.ofInt 5, none⟩, .term ⟨Term.ofInt 3, none⟩, .term ⟨Term.ofInt 1, none⟩]
          []).map (·.native) = .ok u ↔
      2 ≤ [Handle.term ⟨Term.ofInt 5, none⟩, .term ⟨Term.ofInt 3, none⟩,
        .term ⟨Term.ofInt 1, none⟩].length ∧
      ∃ (x : TermHandle) (xs : List TermHandle),
        [Handle.term ⟨Term.ofInt 5, none⟩, .term ⟨Term.ofInt 3, none⟩,
          .term ⟨Term.ofInt 1, none⟩] = (x :: xs).map Handle.term ∧
        (xs.map (·.native)).foldlM (fun a b => build .intSub [a, b] []) x.native = .ok u) ∧
    ∀ i, 2 ≤ i → i < [Handle.term ⟨Term.ofInt 5, none⟩, .term ⟨Term.ofInt 3, none⟩,
        .term ⟨Term.ofInt 1, none⟩].length → ∀ u,
      (mkTerm "OP_INT_SUB"
          [.term ⟨Term.ofInt 5, none⟩, .term ⟨Term.ofInt 3, none⟩, .term ⟨Term.ofInt 1, none⟩]
          []).map (·.native) = .ok u ↔
        (mkTerm "OP_INT_SUB" ([Handle.term ⟨Term.ofInt 5, none⟩, .term ⟨Term.ofInt 3, none⟩,
            .term ⟨Term.ofInt 1, none⟩].take i) [] >>= fun t =>
          mkTerm "OP_INT_SUB" (.term t :: [Handle.term ⟨Term.ofInt 5, none⟩,
            .term ⟨Term.ofInt 3, none⟩, .term ⟨Term.ofInt 1, none⟩].drop i) []).map (·.native) =
          .ok u) :=
  ⟨rfl, by simp [OpKind.folds], nary_kinds_fold_left "OP_INT_SUB" .intSub rfl (by simp [OpKind.folds]) _⟩

/-- Integer division groups to the left: `8 div 4 div 2` is `(8 div 4) div 2`. -/
example : build .intDiv [Term.ofInt 8, Term.ofInt 4, Term.ofInt 2] [] =
    .ok (.app .intDiv [.app .intDiv [Term.ofInt 8, Term.ofInt 4], Term.ofInt 2]) := by rfl

end Build

end SmtBackend
