/-!
# Kinds shared with the fuzzing harness

Sort kinds, theories, special values and numeral bases are closed sets.
Requests name them by text, so every kind has its name, and a request may
also carry text that names no kind (`KindArg.unknown`): the backend then
answers with an error that quotes the text.
-/

namespace SmtBackend

/-- Abstract sort kinds of the harness. -/
inductive SortKind where
  | array | bag | bool | bv | dt | ff | fp | fun | int | real | reglan | rm | seq | set
  | string | uninterpreted | any
  deriving DecidableEq, Repr

/-- Name of a sort kind as the harness writes it. -/
def SortKind.name : SortKind → String
  | .array => "SORT_ARRAY" | .bag => "SORT_BAG" | .bool => "SORT_BOOL" | .bv => "SORT_BV"
  | .dt => "SORT_DT" | .ff => "SORT_FF" | .fp => "SORT_FP" | .fun => "SORT_FUN"
  | .int => "SORT_INT" | .real => "SORT_REAL" | .reglan => "SORT_REGLAN" | .rm => "SORT_RM"
  | .seq => "SORT_SEQ" | .set => "SORT_SET" | .string => "SORT_STRING"
  | .uninterpreted => "SORT_UNINTERPRETED" | .any => "SORT_ANY"

/-- Every sort kind, in declaration order. -/
def SortKind.all : List SortKind :=
  [.array, .bag, .bool, .bv, .dt, .ff, .fp, .fun, .int, .real, .reglan, .rm, .seq, .set,
   .string, .uninterpreted, .any]

/-- Theories a backend may declare. -/
inductive Theory where
  | array | bag | bool | bv | dt | ff | fp | int | quant | real | seq | set | string | uf
  deriving DecidableEq, Repr

/-- Name of a theory as the harness writes it. -/
def Theory.name : Theory → String
  | .array => "THEORY_ARRAY" | .bag => "THEORY_BAG" | .bool => "THEORY_BOOL"
  | .bv => "THEORY_BV" | .dt => "THEORY_DT" | .ff => "THEORY_FF" | .fp => "THEORY_FP"
  | .int => "THEORY_INT" | .quant => "THEORY_QUANT" | .real => "THEORY_REAL"
  | .seq => "THEORY_SEQ" | .set => "THEORY_SET" | .string => "THEORY_STRING"
  | .uf => "THEORY_UF"

/-- Named constants of the bit-vector, floating-point and rounding-mode
families. -/
inductive SpecialValue where
  | bvZero | bvOne | bvOnes | bvMinSigned | bvMaxSigned
  | fpNan | fpPosInf | fpNegInf | fpPosZero | fpNegZero
  | rmRna | rmRne | rmRtn | rmRtp | rmRtz
  deriving DecidableEq, Repr

/-- Name of a special value kind as the harness writes it. -/
def SpecialValue.name : SpecialValue → String
  | .bvZero => "SPECIAL_VALUE_BV_ZERO" | .bvOne => "SPECIAL_VALUE_BV_ONE"
  | .bvOnes => "SPECIAL_VALUE_BV_ONES" | .bvMinSigned => "SPECIAL_VALUE_BV_MIN_SIGNED"
  | .bvMaxSigned => "SPECIAL_VALUE_BV_MAX_SIGNED" | .fpNan => "SPECIAL_VALUE_FP_NAN"
  | .fpPosInf => "SPECIAL_VALUE_FP_POS_INF" | .fpNegInf => "SPECIAL_VALUE_FP_NEG_INF"
  | .fpPosZero => "SPECIAL_VALUE_FP_POS_ZERO" | .fpNegZero => "SPECIAL_VALUE_FP_NEG_ZERO"
  | .rmRna => "SPECIAL_VALUE_RM_RNA" | .rmRne => "SPECIAL_VALUE_RM_RNE"
  | .rmRtn => "SPECIAL_VALUE_RM_RTN" | .rmRtp => "SPECIAL_VALUE_RM_RTP"
  | .rmRtz => "SPECIAL_VALUE_RM_RTZ"

/-- Every special value kind. -/
def SpecialValue.all : List SpecialValue :=
  [.bvZero, .bvOne, .bvOnes, .bvMinSigned, .bvMaxSigned, .fpNan, .fpPosInf, .fpNegInf,
   .fpPosZero, .fpNegZero, .rmRna, .rmRne, .rmRtn, .rmRtp, .rmRtz]

/-- Numeral bases of bit-vector literals. -/
inductive Base where
  | bin | dec | hex
  deriving DecidableEq, Repr

/-- Name of a base as the harness writes it. -/
def Base.name : Base → String
  | .bin => "BIN" | .dec => "DEC" | .hex => "HEX"

/-- The radix of a base. -/
def Base.radix : Base → Nat
  | .bin => 2 | .dec => 10 | .hex => 16

/-- Every base. -/
def Base.all : List Base := [.bin, .dec, .hex]

/-- A kind as requested: one of the known kinds, or text naming none. -/
inductive KindArg (α : Type) where
  | known (kind : α)
  | unknown (text : String)
  deriving DecidableEq, Repr

/-- Read a kind from its name; text naming no kind stays as it is. -/
def KindArg.parse {α : Type} (all : List α) (name : α → String) (text : String) : KindArg α :=
  match all.find? (fun k => name k == text) with
  | some k => .known k
  | none => .unknown text

/-- The text of a requested kind, as error messages quote it. -/
def KindArg.text {α : Type} (name : α → String) : KindArg α → String
  | .known k => name k
  | .unknown t => t

end SmtBackend
