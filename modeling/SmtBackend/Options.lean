import SmtBackend.Failure
import SmtBackend.Text.Unicode
import SmtBackend.Number.Binary64

/-!
# Option names and option text

The harness configures a backend with four canonical options and with
solver parameters of its own. Canonical names map to solver parameter
names (`incremental` needs no parameter at all), other names pass
through. Option values are text: `true`/`false` become flags, signed digit
runs integers, digit runs with a point binary64 numbers, and anything else
stays text. Extra options come as `key=value;key=value`.
-/

namespace SmtBackend.Options

open SmtBackend.Text SmtBackend.Number

/-- Name of the option that enables incremental solving. -/
def incremental : String := "incremental"
/-- Name of the option that enables model generation. -/
def produceModels : String := "produce-models"
/-- Name of the option that enables unsat assumptions. -/
def produceUnsatAssumptions : String := "produce-unsat-assumptions"
/-- Name of the option that enables unsat cores. -/
def produceUnsatCores : String := "produce-unsat-cores"

/-- The canonical option names, in the order the harness asks for them. -/
def canonicalNames : List String :=
  [incremental, produceModels, produceUnsatAssumptions, produceUnsatCores]

/-- Name of the environment variable holding extra options. -/
def environmentVariable : String := "MURXLA_Z3_OPTIONS"

/-- The solver parameter an option sets: canonical names map to their
parameter (none for `incremental`), other names are parameters already. -/
def paramKey (opt : String) : Option String :=
  if opt == incremental then none
  else if opt == produceModels then some "model"
  else if opt == produceUnsatAssumptions || opt == produceUnsatCores then some "unsat_core"
  else some opt

/-- A typed option value. -/
inductive ParamValue where
  | flag (b : Bool)
  | integer (i : Int)
  | real (x : Binary64)
  | word (s : String)
  deriving DecidableEq, Repr

/-- Whether text has the shape `-?d+.d*` with decimal digits of any script;
if so, its sign, integer digits and fraction digits. -/
def decimalParts? (cs : List Char) : Option (Bool × List Char × List Char) :=
  let (neg, body) := match cs with
    | '-' :: rest => (true, rest)
    | _ => (false, cs)
  let whole := body.takeWhile isUnicodeDigit
  match body.drop whole.length with
  | '.' :: frac =>
    if !whole.isEmpty && frac.all isUnicodeDigit then some (neg, whole, frac) else none
  | _ => none

/-- The typed value of option text, read after trimming blanks. -/
def paramValue (value : String) : ParamValue :=
  let s := trimChars value.toList
  if s == "true".toList then .flag true
  else if s == "false".toList then .flag false
  else if signedRunOf isUnicodeDigit s then .integer (signedValue s)
  else match decimalParts? s with
    | some (neg, whole, frac) =>
      .real (Binary64.nearest neg (digitsValue (whole ++ frac)) (Nat.pow 10 frac.length))
    | none => .word (String.ofList s)

/-- Split text at every occurrence of a separator character. -/
def splitAt (sep : Char) (s : String) : List String :=
  (s.toList.splitOn sep).map String.ofList

/-- Set a key in an ordered association list: an existing key keeps its
position and takes the new value, a new key goes last. -/
def setKey (pairs : List (String × String)) (key value : String) : List (String × String) :=
  if pairs.any (·.1 == key) then pairs.map (fun p => if p.1 == key then (key, value) else p)
  else pairs ++ [(key, value)]

/-- Read one `key=value` item (already trimmed, nonempty) into the pairs. -/
def addItem (pairs : List (String × String)) (item : String) :
    Except Failure (List (String × String)) :=
  match item.toList.splitOn '=' with
  | [] | [_] => .error (.config s!"Malformed option '{item}', expected key=value")
  | k :: rest =>
    let key := trim (String.ofList k)
    if key.isEmpty then .error (.config s!"Malformed option '{item}', empty option name")
    else .ok (setKey pairs key (trim (String.ofList (List.intercalate ['='] rest))))

/-- Read `key=value;key=value` into ordered pairs. Empty items are skipped;
a repeated key keeps its first position and takes its last value. -/
def parseOptionString (text : String) : Except Failure (List (String × String)) :=
  (splitAt ';' text).foldlM (fun pairs raw =>
    let item := trim raw
    if item.isEmpty then .ok pairs else addItem pairs item) []

/-- The extra options in an environment given as name/value pairs: none if
the variable is unset or empty. -/
def fromEnvironment (env : List (String × String)) : Except Failure (List (String × String)) :=
  match env.find? (·.1 == environmentVariable) with
  | some (_, text) => if text.isEmpty then .ok [] else parseOptionString text
  | none => .ok []

end SmtBackend.Options
