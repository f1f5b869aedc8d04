import SmtBackend.Options

/-!
# Solver parameters

The solver describes the parameters it accepts: each has a name, a kind
of value and the module that declares it. A parameter setting is checked
against these descriptions before it takes effect. Names are compared
after normalization (lower case, `-` read as `_`, a leading `:` dropped),
and a name `module.name` also finds a parameter of that module. The kind
of the value must be the declared kind; only an unsigned value may stand
for a numeral. The checks take the descriptions as an argument; `catalogue`
is the table a session starts with.

Option values reach the solver typed: a flag as a Boolean, an integer as
an unsigned word (a negative integer wraps), a binary64 number as a
double, and text as a symbol, so that a parameter declared as a string
cannot be set from option text.
-/

namespace SmtBackend.Solver

open SmtBackend.Options

/-- The kind of value a parameter takes. -/
inductive ParamKind where
  | unsigned
  | flag
  | double
  | numeral
  | text
  | symbol
  deriving DecidableEq, Repr

/-- The description of one parameter. -/
structure ParamInfo where
  name : String
  kind : ParamKind
  /-- The module that declares the parameter. -/
  module : String
  deriving Repr

/-- Parameters declared by the solver object itself. -/
def solverParams : List ParamInfo :=
  [⟨"timeout", .unsigned, "solver"⟩, ⟨"smtlib2_log", .symbol, "solver"⟩,
   ⟨"cancel_backup_file", .symbol, "solver"⟩, ⟨"lemmas2console", .flag, "solver"⟩,
   ⟨"instantiations2console", .flag, "solver"⟩, ⟨"axioms2files", .flag, "solver"⟩,
   ⟨"proof.log", .symbol, "solver"⟩, ⟨"proof.check", .flag, "solver"⟩,
   ⟨"proof.check_rup", .flag, "solver"⟩, ⟨"proof.save", .flag, "solver"⟩,
   ⟨"proof.trim", .flag, "solver"⟩]

/-- Parameters of the SMT core. -/
def coreParams : List ParamInfo :=
  let flags := ["auto_config", "macro_finder", "quasi_macros", "restricted_quasi_macros",
    "ematching", "delay_units", "elim_unconstrained", "solve_eqs", "propagate_values",
    "bound_simplifier", "pull_nested_quantifiers", "refine_inj_axioms", "candidate_models",
    "mbqi", "mbqi.trace", "q.lite", "qi.profile", "induction", "ho_matching", "bv.reflect",
    "bv.enable_int2bv", "bv.watch_diseq", "bv.delay", "bv.size_reduce",
    "arith.random_initial_value", "arith.nl", "arith.nl.nra", "arith.nl.branching",
    "arith.nl.expensive_patching", "arith.nl.grobner", "arith.nl.order", "arith.nl.tangents",
    "arith.nl.horner", "arith.nl.expp", "arith.nl.propagate_linear_monomials",
    "arith.nl.optimize_bounds", "arith.nl.cross_nested", "arith.nl.log",
    "arith.propagate_eqs", "arith.int_eq_branch", "arith.ignore_int", "arith.dump_lemmas",
    "arith.greatest_error_pivot", "arith.eager_eq_axioms", "arith.auto_config_simplex",
    "arith.min", "arith.print_stats", "arith.validate", "arith.enable_hnf",
    "arith.bprop_on_pivoted_rows", "arith.print_ext_var_names", "pb.learn_complements",
    "array.weak", "array.extensional", "clause_proof", "dack.eq", "theory_case_split",
    "theory_aware_branching", "core.validate", "sls.enable", "sls.parallel", "qsat_use_qel",
    "seq.split_w_len", "seq.validate", "up.persist_clauses", "core.minimize",
    "core.extend_patterns", "core.extend_nonlocal_patterns", "lemmas2console", "proof"]
  let unsigneds := ["random_seed", "relevancy", "phase_selection", "phase_caching_on",
    "phase_caching_off", "restart_strategy", "case_split", "delay_units_threshold",
    "max_conflicts", "restart.max", "cube_depth", "threads", "threads.max_conflicts",
    "threads.cube_frequency", "mbqi.max_cexs", "mbqi.max_cexs_incr",
    "mbqi.max_iterations", "mbqi.force_template", "qi.profile_freq", "qi.max_instances",
    "qi.max_persistent_instances", "qi.max_multi_patterns", "qi.quick_checker",
    "bv.solver", "arith.solver", "arith.nl.rounds", "arith.nl.delay",
    "arith.nl.horner_subs_fixed", "arith.nl.horner_frequency",
    "arith.nl.horner_row_length_limit", "arith.nl.grobner_frequency",
    "arith.nl.grobner_row_length_limit", "arith.nl.grobner_subs_fixed",
    "arith.nl.grobner_eqs_growth", "arith.nl.grobner_expr_size_growth",
    "arith.nl.grobner_expr_degree_growth", "arith.nl.grobner_max_simplified",
    "arith.nl.grobner_cnfl_to_report", "arith.propagation_mode",
    "arith.branch_cut_ratio", "arith.rep_freq", "arith.simplex_strategy",
    "pb.conflict_frequency", "dack", "dack.gc", "dack.threshold", "lemma_gc_strategy",
    "dt_lazy_splits", "seq.max_unfolding", "seq.min_unfolding", "seq.parikh_k",
    "core.extend_patterns.max_distance"]
  let doubles := ["restart_factor", "qi.eager_threshold", "qi.lazy_threshold",
    "arith.epsilon", "arith.nl.transcendental_tolerance", "dack.factor",
    "dack.gc_inv_decay"]
  let symbols := ["logic", "string_solver"]
  let texts := ["mbqi.id", "qi.cost"]
  flags.map (⟨·, .flag, "smt"⟩) ++ unsigneds.map (⟨·, .unsigned, "smt"⟩) ++
    doubles.map (⟨·, .double, "smt"⟩) ++ symbols.map (⟨·, .symbol, "smt"⟩) ++
    texts.map (⟨·, .text, "smt"⟩)

/-- Parameters of the term simplifier that preprocesses every problem. -/
def rewriterParams : List ParamInfo :=
  let flags := ["flat", "flat_and_or", "coalesce_chars", "push_ite_arith", "push_ite_bv",
    "pull_cheap_ite", "cache_all", "enable_der", "rewrite_patterns",
    "ignore_patterns_on_ground_qbody", "ite_extra_rules", "elim_and", "elim_ite",
    "local_ctx", "blast_distinct", "algebraic_number_evaluator", "mul_to_power",
    "expand_power", "expand_tan", "sort_sums", "gcd_rounding", "arith_lhs",
    "arith_ineq_lhs", "elim_to_real", "push_to_real", "eq2ineq", "elim_rem", "som",
    "hoist_mul", "hoist_ite", "hoist_ite_nested", "udiv2mul", "split_concat_eq",
    "bit2bool", "blast_eq_value", "elim_sign_ext", "hi_div0", "mul2concat", "bv_sort_ac",
    "bv_extract_prop", "bv_not_simpl", "bv_ite2id", "bv_le_extra", "bv_le2extract",
    "expand_select_store", "expand_nested_stores", "expand_select_ite", "expand_store_eq",
    "sort_store", "hi_fp_unspecified"]
  let unsigneds := ["max_steps", "bv_ineq_consistency_test_max", "local_ctx_limit",
    "blast_distinct_threshold", "max_degree", "som_blowup"]
  flags.map (⟨·, .flag, "rewriter"⟩) ++ unsigneds.map (⟨·, .unsigned, "rewriter"⟩)

/-- Parameters of the preprocessing steps that no module declares. -/
def preprocessingParams : List ParamInfo :=
  [⟨"max_depth", .unsigned, ""⟩, ⟨"propagate_eq", .flag, ""⟩,
   ⟨"solve_eqs_max_occs", .unsigned, ""⟩, ⟨"theory_solver", .flag, ""⟩,
   ⟨"ite_solver", .flag, ""⟩, ⟨"context_solve", .flag, ""⟩,
   ⟨"compile_equality", .flag, ""⟩, ⟨"ff.unique", .flag, ""⟩,
   ⟨"ff.max_steps", .unsigned, ""⟩]

/-- Parameters that choose between the two solving engines. -/
def combinationParams : List ParamInfo :=
  [⟨"solver2_timeout", .unsigned, "combined_solver"⟩,
   ⟨"ignore_solver1", .flag, "combined_solver"⟩,
   ⟨"solver2_unknown", .unsigned, "combined_solver"⟩]

/-- Parameters of the context that every solver takes. -/
def contextParams : List ParamInfo :=
  [⟨"model", .flag, ""⟩, ⟨"unsat_core", .flag, ""⟩, ⟨"rlimit", .unsigned, ""⟩,
   ⟨"max_memory", .unsigned, ""⟩, ⟨"ctrl_c", .flag, ""⟩]

/-- The parameter descriptions of the solver library, the first of one name
winning. -/
def catalogue : List ParamInfo :=
  solverParams ++ coreParams ++ rewriterParams ++ preprocessingParams ++ combinationParams ++
    contextParams

/-- The description of a parameter by its exact name. -/
def describe? (params : List ParamInfo) (name : String) : Option ParamInfo :=
  params.find? (·.name == name)

/-- A parameter name in normal form: a leading `:` dropped, capitals lowered,
`-` read as `_`, and the empty name written `_`. -/
def normalizeName (name : String) : String :=
  let cs := match name.toList with
    | ':' :: rest => rest
    | cs => cs
  if cs.isEmpty then "_"
  else String.ofList (cs.map fun c =>
    if 'A' ≤ c && c ≤ 'Z' then Char.ofNat (c.toNat + 32) else if c == '-' then '_' else c)

/-- The kind of a typed option value as the solver receives it. -/
def kindOf : ParamValue → ParamKind
  | .flag _ => .flag
  | .integer _ => .unsigned
  | .real _ => .double
  | .word _ => .symbol

/-- The description that a normalized name finds: its own, or, for
`module.name`, that of `name` when `module` declares it. -/
def lookup? (params : List ParamInfo) (name : String) : Option ParamInfo :=
  match describe? params name with
  | some info => some info
  | none =>
    match name.toList.splitOn '.' with
    | pre :: first :: more =>
      let suffix := String.ofList (List.intercalate ['.'] (first :: more))
      match describe? params suffix with
      | some info => if info.module == String.ofList pre then some info else none
      | none => none
    | _ => none

/-- Whether a value of one kind may set a parameter of another. -/
def ParamKind.admits (declared given : ParamKind) : Bool :=
  declared == given || (given == .unsigned && declared == .numeral)

/-- The parameter a setting takes effect on, if the solver accepts the
setting: the description's name under which it is stored. -/
def accept? (params : List ParamInfo) (name : String) (value : ParamValue) : Option String :=
  match lookup? params (normalizeName name) with
  | some info => if info.kind.admits (kindOf value) then some info.name else none
  | none => none

/-- Settings in force, by parameter name; a later setting replaces an
earlier one of the same name. -/
abbrev Settings := List (String × ParamValue)

/-- Record a setting. -/
def Settings.put (s : Settings) (name : String) (value : ParamValue) : Settings :=
  s.filter (·.1 != name) ++ [(name, value)]

/-- The Boolean value of a flag parameter, with its default. -/
def Settings.flag (s : Settings) (name : String) (default : Bool) : Bool :=
  match s.find? (·.1 == name) with
  | some (_, .flag b) => b
  | _ => default

/-- The unsigned value of a parameter as the solver stores it (a 32-bit
word), if it is set. -/
def Settings.word? (s : Settings) (name : String) : Option Nat :=
  match s.find? (·.1 == name) with
  | some (_, .integer i) => some (i % 4294967296).toNat
  | _ => none

end SmtBackend.Solver
