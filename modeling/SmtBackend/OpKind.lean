import SmtBackend.Kinds
/-!
# Operator kinds

Operator kinds are named by text, so that a backend can announce kinds of
its own beside the canonical ones. The kinds this backend can build form
`OpKind`; each has an arity (a fixed number of arguments, or two or more)
and a number of integer indices. Canonical kinds without a constructor here
are reported as unsupported.
-/

namespace SmtBackend

/-- Number of term arguments of an operator kind. -/
inductive Arity where
  /-- Exactly this many arguments. -/
  | exactly (n : Nat)
  /-- Two or more arguments. -/
  | atLeastTwo
  deriving DecidableEq, Repr

/-- The harness's code for an arity: the number, or -1 for two or more. -/
def Arity.code : Arity → Int
  | .exactly n => n
  | .atLeastTwo => -1

/-- Operator kinds with a way to build them. -/
inductive OpKind where
  | distinct | equal | ite | and | or | not | xor | implies | arraySelect | arrayStore
  | bvExtract | bvRepeat | bvRotateLeft | bvRotateRight | bvSignExtend | bvZeroExtend | bvAdd
  | bvAnd | bvAshr | bvConcat | bvLshr | bvMult | bvNand | bvNeg | bvNor | bvNot | bvOr
  | bvSdiv | bvSge | bvSgt | bvShl | bvSle | bvSlt | bvSmod | bvSrem | bvSub | bvUdiv | bvUge
  | bvUgt | bvUle | bvUlt | bvUrem | bvXnor | bvXor | fpAbs | fpAdd | fpDiv | fpEq | fpFma
  | fpFp | fpGeq | fpGt | fpIsInf | fpIsNan | fpIsNeg | fpIsNormal | fpIsPos | fpIsSubnormal
  | fpIsZero | fpLeq | fpLt | fpMax | fpMin | fpMul | fpNeg | fpRem | fpRti | fpSqrt | fpSub
  | fpToFpFromBv | fpToFpFromFp | fpToFpFromReal | fpToFpFromSbv | fpToFpFromUbv | fpToReal
  | fpToSbv | fpToUbv | intAbs | intAdd | intDiv | intGe | intGt | intLe | intLt | intMod
  | intMul | intNeg | intSub | intToReal | realAdd | realDiv | realGe | realGt | realIsInt
  | realLe | realLt | realMul | realNeg | realSub | realToInt | quantAll | quantSome | strAt
  | strConcat | strContains | strFromInt | strIndexof | strLe | strLen | strLt | strPrefixof
  | strReplace | strSubstr | strSuffixof | strToInt | ufApply | bvExtRotateLeft
  | bvExtRotateRight | bvRedand | bvRedor
  deriving DecidableEq, Repr

namespace OpKind

/-- Name of an operator kind as the harness writes it. -/
def name : OpKind → String
  | .distinct => "OP_DISTINCT"
  | .equal => "OP_EQUAL"
  | .ite => "OP_ITE"
  | .and => "OP_AND"
  | .or => "OP_OR"
  | .not => "OP_NOT"
  | .xor => "OP_XOR"
  | .implies => "OP_IMPLIES"
  | .arraySelect => "OP_ARRAY_SELECT"
  | .arrayStore => "OP_ARRAY_STORE"
  | .bvExtract => "OP_BV_EXTRACT"
  | .bvRepeat => "OP_BV_REPEAT"
  | .bvRotateLeft => "OP_BV_ROTATE_LEFT"
  | .bvRotateRight => "OP_BV_ROTATE_RIGHT"
  | .bvSignExtend => "OP_BV_SIGN_EXTEND"
  | .bvZeroExtend => "OP_BV_ZERO_EXTEND"
  | .bvAdd => "OP_BV_ADD"
  | .bvAnd => "OP_BV_AND"
  | .bvAshr => "OP_BV_ASHR"
  | .bvConcat => "OP_BV_CONCAT"
  | .bvLshr => "OP_BV_LSHR"
  | .bvMult => "OP_BV_MULT"
  | .bvNand => "OP_BV_NAND"
  | .bvNeg => "OP_BV_NEG"
  | .bvNor => "OP_BV_NOR"
  | .bvNot => "OP_BV_NOT"
  | .bvOr => "OP_BV_OR"
  | .bvSdiv => "OP_BV_SDIV"
  | .bvSge => "OP_BV_SGE"
  | .bvSgt => "OP_BV_SGT"
  | .bvShl => "OP_BV_SHL"
  | .bvSle => "OP_BV_SLE"
  | .bvSlt => "OP_BV_SLT"
  | .bvSmod => "OP_BV_SMOD"
  | .bvSrem => "OP_BV_SREM"
  | .bvSub => "OP_BV_SUB"
  | .bvUdiv => "OP_BV_UDIV"
  | .bvUge => "OP_BV_UGE"
  | .bvUgt => "OP_BV_UGT"
  | .bvUle => "OP_BV_ULE"
  | .bvUlt => "OP_BV_ULT"
  | .bvUrem => "OP_BV_UREM"
  | .bvXnor => "OP_BV_XNOR"
  | .bvXor => "OP_BV_XOR"
  | .fpAbs => "OP_FP_ABS"
  | .fpAdd => "OP_FP_ADD"
  | .fpDiv => "OP_FP_DIV"
  | .fpEq => "OP_FP_EQ"
  | .fpFma => "OP_FP_FMA"
  | .fpFp => "OP_FP_FP"
  | .fpGeq => "OP_FP_GEQ"
  | .fpGt => "OP_FP_GT"
  | .fpIsInf => "OP_FP_IS_INF"
  | .fpIsNan => "OP_FP_IS_NAN"
  | .fpIsNeg => "OP_FP_IS_NEG"
  | .fpIsNormal => "OP_FP_IS_NORMAL"
  | .fpIsPos => "OP_FP_IS_POS"
  | .fpIsSubnormal => "OP_FP_IS_SUBNORMAL"
  | .fpIsZero => "OP_FP_IS_ZERO"
  | .fpLeq => "OP_FP_LEQ"
  | .fpLt => "OP_FP_LT"
  | .fpMax => "OP_FP_MAX"
  | .fpMin => "OP_FP_MIN"
  | .fpMul => "OP_FP_MUL"
  | .fpNeg => "OP_FP_NEG"
  | .fpRem => "OP_FP_REM"
  | .fpRti => "OP_FP_RTI"
  | .fpSqrt => "OP_FP_SQRT"
  | .fpSub => "OP_FP_SUB"
  | .fpToFpFromBv => "OP_FP_TO_FP_FROM_BV"
  | .fpToFpFromFp => "OP_FP_TO_FP_FROM_FP"
  | .fpToFpFromReal => "OP_FP_TO_FP_FROM_REAL"
  | .fpToFpFromSbv => "OP_FP_TO_FP_FROM_SBV"
  | .fpToFpFromUbv => "OP_FP_TO_FP_FROM_UBV"
  | .fpToReal => "OP_FP_TO_REAL"
  | .fpToSbv => "OP_FP_TO_SBV"
  | .fpToUbv => "OP_FP_TO_UBV"
  | .intAbs => "OP_INT_ABS"
  | .intAdd => "OP_INT_ADD"
  | .intDiv => "OP_INT_DIV"
  | .intGe => "OP_INT_GE"
  | .intGt => "OP_INT_GT"
  | .intLe => "OP_INT_LE"
  | .intLt => "OP_INT_LT"
  | .intMod => "OP_INT_MOD"
  | .intMul => "OP_INT_MUL"
  | .intNeg => "OP_INT_NEG"
  | .intSub => "OP_INT_SUB"
  | .intToReal => "OP_INT_TO_REAL"
  | .realAdd => "OP_REAL_ADD"
  | .realDiv => "OP_REAL_DIV"
  | .realGe => "OP_REAL_GE"
  | .realGt => "OP_REAL_GT"
  | .realIsInt => "OP_REAL_IS_INT"
  | .realLe => "OP_REAL_LE"
  | .realLt => "OP_REAL_LT"
  | .realMul => "OP_REAL_MUL"
  | .realNeg => "OP_REAL_NEG"
  | .realSub => "OP_REAL_SUB"
  | .realToInt => "OP_REAL_TO_INT"
  | .quantAll => "OP_FORALL"
  | .quantSome => "OP_EXISTS"
  | .strAt => "OP_STR_AT"
  | .strConcat => "OP_STR_CONCAT"
  | .strContains => "OP_STR_CONTAINS"
  | .strFromInt => "OP_STR_FROM_INT"
  | .strIndexof => "OP_STR_INDEXOF"
  | .strLe => "OP_STR_LE"
  | .strLen => "OP_STR_LEN"
  | .strLt => "OP_STR_LT"
  | .strPrefixof => "OP_STR_PREFIXOF"
  | .strReplace => "OP_STR_REPLACE"
  | .strSubstr => "OP_STR_SUBSTR"
  | .strSuffixof => "OP_STR_SUFFIXOF"
  | .strToInt => "OP_STR_TO_INT"
  | .ufApply => "OP_UF_APPLY"
  | .bvExtRotateLeft => "z3-OP_BV_EXT_ROTATE_LEFT"
  | .bvExtRotateRight => "z3-OP_BV_EXT_ROTATE_RIGHT"
  | .bvRedand => "z3-OP_BV_REDAND"
  | .bvRedor => "z3-OP_BV_REDOR"

/-- Number of term arguments of an operator kind. -/
def arity : OpKind → Arity
  | .distinct | .and | .or | .intAdd | .intDiv | .intMul | .intSub | .realAdd | .realDiv
  | .realMul | .realSub | .quantAll | .quantSome | .strConcat | .ufApply => .atLeastTwo
  | .equal | .xor | .implies | .arraySelect | .bvAdd | .bvAnd | .bvAshr | .bvConcat | .bvLshr
  | .bvMult | .bvNand | .bvNor | .bvOr | .bvSdiv | .bvSge | .bvSgt | .bvShl | .bvSle | .bvSlt
  | .bvSmod | .bvSrem | .bvSub | .bvUdiv | .bvUge | .bvUgt | .bvUle | .bvUlt | .bvUrem
  | .bvXnor | .bvXor | .fpEq | .fpGeq | .fpGt | .fpLeq | .fpLt | .fpMax | .fpMin | .fpRem
  | .fpRti | .fpSqrt | .fpToFpFromFp | .fpToFpFromReal | .fpToFpFromSbv | .fpToFpFromUbv
  | .fpToSbv | .fpToUbv | .intGe | .intGt | .intLe | .intLt | .intMod | .realGe | .realGt
  | .realLe | .realLt | .strAt | .strContains | .strLe | .strLt | .strPrefixof | .strSuffixof
  | .bvExtRotateLeft | .bvExtRotateRight => .exactly 2
  | .ite | .arrayStore | .fpAdd | .fpDiv | .fpFp | .fpMul | .fpSub | .strIndexof | .strReplace
  | .strSubstr => .exactly 3
  | .not | .bvExtract | .bvRepeat | .bvRotateLeft | .bvRotateRight | .bvSignExtend
  | .bvZeroExtend | .bvNeg | .bvNot | .fpAbs | .fpIsInf | .fpIsNan | .fpIsNeg | .fpIsNormal
  | .fpIsPos | .fpIsSubnormal | .fpIsZero | .fpNeg | .fpToFpFromBv | .fpToReal | .intAbs
  | .intNeg | .intToReal | .realIsInt | .realNeg | .realToInt | .strFromInt | .strLen
  | .strToInt | .bvRedand | .bvRedor => .exactly 1
  | .fpFma => .exactly 4

/-- Number of integer indices of an operator kind. -/
def indexCount : OpKind → Nat
  | .bvExtract | .fpToFpFromBv | .fpToFpFromFp | .fpToFpFromReal | .fpToFpFromSbv | .fpToFpFromUbv => 2
  | .bvRepeat | .bvRotateLeft | .bvRotateRight | .bvSignExtend | .bvZeroExtend | .fpToSbv | .fpToUbv => 1
  | _ => 0

/-- Every operator kind, in the order of the dispatch table. -/
def all : List OpKind :=
  [.distinct, .equal, .ite, .and, .or, .not, .xor, .implies, .arraySelect, .arrayStore,
   .bvExtract, .bvRepeat, .bvRotateLeft, .bvRotateRight, .bvSignExtend, .bvZeroExtend,
   .bvAdd, .bvAnd, .bvAshr, .bvConcat, .bvLshr, .bvMult, .bvNand, .bvNeg, .bvNor, .bvNot,
   .bvOr, .bvSdiv, .bvSge, .bvSgt, .bvShl, .bvSle, .bvSlt, .bvSmod, .bvSrem, .bvSub,
   .bvUdiv, .bvUge, .bvUgt, .bvUle, .bvUlt, .bvUrem, .bvXnor, .bvXor, .fpAbs, .fpAdd,
   .fpDiv, .fpEq, .fpFma, .fpFp, .fpGeq, .fpGt, .fpIsInf, .fpIsNan, .fpIsNeg, .fpIsNormal,
   .fpIsPos, .fpIsSubnormal, .fpIsZero, .fpLeq, .fpLt, .fpMax, .fpMin, .fpMul, .fpNeg,
   .fpRem, .fpRti, .fpSqrt, .fpSub, .fpToFpFromBv, .fpToFpFromFp, .fpToFpFromReal,
   .fpToFpFromSbv, .fpToFpFromUbv, .fpToReal, .fpToSbv, .fpToUbv, .intAbs, .intAdd, .intDiv,
   .intGe, .intGt, .intLe, .intLt, .intMod, .intMul, .intNeg, .intSub, .intToReal, .realAdd,
   .realDiv, .realGe, .realGt, .realIsInt, .realLe, .realLt, .realMul, .realNeg, .realSub,
   .realToInt, .quantAll, .quantSome, .strAt, .strConcat, .strContains, .strFromInt,
   .strIndexof, .strLe, .strLen, .strLt, .strPrefixof, .strReplace, .strSubstr,
   .strSuffixof, .strToInt, .ufApply, .bvExtRotateLeft, .bvExtRotateRight, .bvRedand,
   .bvRedor]

/-- The operator kind of a name, if this backend builds it. -/
def ofName? (s : String) : Option OpKind := all.find? (·.name == s)

end OpKind

/-- Every canonical operator kind of the harness. -/
def canonicalOpNames : List String :=
  ["OP_DISTINCT", "OP_EQUAL", "OP_ITE", "OP_AND", "OP_OR", "OP_NOT", "OP_XOR",
   "OP_IMPLIES", "OP_ARRAY_SELECT", "OP_ARRAY_STORE", "OP_BV_EXTRACT", "OP_BV_REPEAT",
   "OP_BV_ROTATE_LEFT", "OP_BV_ROTATE_RIGHT", "OP_BV_SIGN_EXTEND", "OP_BV_ZERO_EXTEND",
   "OP_BV_ADD", "OP_BV_AND", "OP_BV_ASHR", "OP_BV_COMP", "OP_BV_CONCAT", "OP_BV_LSHR",
   "OP_BV_MULT", "OP_BV_NAND", "OP_BV_NEG", "OP_BV_NOR", "OP_BV_NOT", "OP_BV_OR",
   "OP_BV_SDIV", "OP_BV_SGE", "OP_BV_SGT", "OP_BV_SHL", "OP_BV_SLE", "OP_BV_SLT",
   "OP_BV_SMOD", "OP_BV_SREM", "OP_BV_SUB", "OP_BV_UDIV", "OP_BV_UGE", "OP_BV_UGT",
   "OP_BV_ULE", "OP_BV_ULT", "OP_BV_UREM", "OP_BV_XNOR", "OP_BV_XOR", "OP_FP_ABS",
   "OP_FP_ADD", "OP_FP_DIV", "OP_FP_EQ", "OP_FP_FMA", "OP_FP_FP", "OP_FP_GEQ", "OP_FP_GT",
   "OP_FP_IS_INF", "OP_FP_IS_NAN", "OP_FP_IS_NEG", "OP_FP_IS_NORMAL", "OP_FP_IS_POS",
   "OP_FP_IS_SUBNORMAL", "OP_FP_IS_ZERO", "OP_FP_LEQ", "OP_FP_LT", "OP_FP_MAX",
   "OP_FP_MIN", "OP_FP_MUL", "OP_FP_NEG", "OP_FP_REM", "OP_FP_RTI", "OP_FP_SQRT",
   "OP_FP_SUB", "OP_FP_TO_FP_FROM_BV", "OP_FP_TO_FP_FROM_FP", "OP_FP_TO_FP_FROM_REAL",
   "OP_FP_TO_FP_FROM_SBV", "OP_FP_TO_FP_FROM_UBV", "OP_FP_TO_REAL", "OP_FP_TO_SBV",
   "OP_FP_TO_UBV", "OP_INT_ABS", "OP_INT_ADD", "OP_INT_DIV", "OP_INT_GE", "OP_INT_GT",
   "OP_INT_IS_DIV", "OP_INT_LE", "OP_INT_LT", "OP_INT_MOD", "OP_INT_MUL", "OP_INT_NEG",
   "OP_INT_SUB", "OP_INT_TO_REAL", "OP_REAL_ADD", "OP_REAL_DIV", "OP_REAL_GE",
   "OP_REAL_GT", "OP_REAL_IS_INT", "OP_REAL_LE", "OP_REAL_LT", "OP_REAL_MUL",
   "OP_REAL_NEG", "OP_REAL_SUB", "OP_REAL_TO_INT", "OP_FORALL", "OP_EXISTS", "OP_STR_AT",
   "OP_STR_CONCAT", "OP_STR_CONTAINS", "OP_STR_FROM_INT", "OP_STR_INDEXOF",
   "OP_STR_IS_DIGIT", "OP_STR_LE", "OP_STR_LEN", "OP_STR_LT", "OP_STR_PREFIXOF",
   "OP_STR_REPLACE", "OP_STR_REPLACE_ALL", "OP_STR_SUBSTR", "OP_STR_SUFFIXOF",
   "OP_STR_TO_INT", "OP_UF_APPLY"]

/-- Canonical operator kinds this backend cannot build, sorted. -/
def unsupportedOpNames : List String :=
  (canonicalOpNames.filter (fun s => (OpKind.ofName? s).isNone)).mergeSort (fun a b => decide (a ≤ b))

/-- An operator kind of this backend announced to the harness: its name,
arity, indices, result sort kind, argument sort kinds and theory. -/
structure ExtraOpKind where
  kind : OpKind
  sortKind : SortKind
  argSortKinds : List SortKind
  theory : Theory

/-- The operator kinds this backend adds to the canonical ones. -/
def extraOpKinds : List ExtraOpKind :=
  [⟨.bvExtRotateLeft, .bv, [.bv], .bv⟩, ⟨.bvExtRotateRight, .bv, [.bv], .bv⟩,
   ⟨.bvRedand, .bv, [.bv], .bv⟩, ⟨.bvRedor, .bv, [.bv], .bv⟩]

/-- Harness actions this backend cannot serve. -/
def unsupportedActions : List String := ["get-proof", "term-get-children"]

end SmtBackend
