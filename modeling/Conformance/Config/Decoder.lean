import Conformance.Config
import Conformance.Json
import Conformance.Yaml.Resolution
import Conformance.Text.Blank

/-! # Reading configurations

A configuration is read from a tree of values. A `ValueFormat` says how the values of one format are
read; the fields, their defaults and the rules on names are the same for every format. A name that
is not known is an error, except among the exit codes, and so is a known name given twice.
-/

namespace Conformance

structure ValueFormat (V : Type) where
  text : V → Option String
  natural : V → Option Nat
  integer : V → Option Int
  bool : V → Option Bool
  optionalText : V → Option (Option String)
  items : V → Option (List V)
  /-- The fields of a record; a format may leave out their names and rely on the given order. -/
  fields : (names : List String) → V → Option (List (String × V))

namespace ValueFormat

variable {V : Type} (n : ValueFormat V)

def maxCounter : Nat := 18446744073709551615

def counter (v : V) : Option Nat := (n.natural v).filter (· ≤ maxCounter)

def exitCode (v : V) : Option Int :=
  (n.integer v).filter fun code => -2147483648 ≤ code ∧ code ≤ 2147483647

def texts (v : V) : Option (List String) := (n.items v).bind fun items => items.mapM n.text

def fieldOr {α : Type} (fields : List (String × V)) (name : String) (default : α)
    (read : V → Option α) : Option α :=
  match fields.find? fun field => field.1 = name with
  | some field => read field.2
  | none => some default

def field {α : Type} (fields : List (String × V)) (name : String) (read : V → Option α) :
    Option α :=
  (fields.find? fun field => field.1 = name).bind fun field => read field.2

def once (fields : List (String × V)) (names : List String) : Bool :=
  names.all fun name => (fields.filter fun field => field.1 = name).length ≤ 1

/-- The fields of a record in which only the given names may occur. -/
def strict (names : List String) (v : V) : Option (List (String × V)) :=
  (n.fields names v).filter fun fields =>
    once fields names && fields.all fun field => names.contains field.1

/-- The fields of a record in which other names are of no account. -/
def lenient (names : List String) (v : V) : Option (List (String × V)) :=
  (n.fields names v).filter fun fields => once fields names

def exitCodeNames : List String := ["compile_error", "runtime_error"]

def suiteNames : List String :=
  ["name", "executable", "args", "language", "root", "per_directory"]

def configNames : List String :=
  ["exit_codes", "timeout_secs", "jobs", "extension", "exclude", "suites"]

def exitCodes (v : V) : Option ExitCodes := do
  let fields ← n.lenient exitCodeNames v
  let compileError ← fieldOr fields "compile_error" 65 n.exitCode
  let runtimeError ← fieldOr fields "runtime_error" 70 n.exitCode
  some { compileError, runtimeError }

def suite (v : V) : Option SuiteConfig := do
  let fields ← n.strict suiteNames v
  let name ← field fields "name" n.text
  let executable ← field fields "executable" n.text
  let args ← fieldOr fields "args" [] n.texts
  let language ← fieldOr fields "language" none n.optionalText
  let root ← fieldOr fields "root" "tests" n.text
  let perDirectory ← fieldOr fields "per_directory" false n.bool
  some { name, executable, args, language, root, perDirectory }

def config (v : V) : Option Config := do
  let fields ← n.strict configNames v
  let exitCodes ← fieldOr fields "exit_codes" {} n.exitCodes
  let timeoutSecs ← fieldOr fields "timeout_secs" 10 n.counter
  let jobs ← fieldOr fields "jobs" 0 n.counter
  let extension ← fieldOr fields "extension" "lox" n.text
  let exclude ← fieldOr fields "exclude" ["benchmark"] n.texts
  let suites ← fieldOr fields "suites" [] fun v => (n.items v).bind fun items => items.mapM n.suite
  some { exitCodes, timeoutSecs, jobs, extension, exclude, suites }

end ValueFormat

/-- Truth values, texts and integers are what they say; null is no text; a record may be an array
of its first fields in order. -/
def Json.reading : ValueFormat Json where
  text := Json.string?
  natural v := v.integer?.bind Int.toNat?
  integer := Json.integer?
  bool
    | .bool b => some b
    | _ => none
  optionalText
    | .null => some none
    | .string text => some (some text)
    | _ => none
  items := Json.items?
  fields names
    | .object fields => some fields
    | .array items => if items.length ≤ names.length then some (names.zip items) else none
    | _ => none

/-- Plain scalars are read as values, and every scalar as text. -/
def Yaml.reading : ValueFormat Yaml.Node where
  text := Yaml.Node.text?
  natural := Yaml.Node.natural?
  integer := Yaml.Node.integer?
  bool := Yaml.Node.bool?
  optionalText := Yaml.Node.optionalText?
  items := Yaml.Node.items?
  fields _ := Yaml.Node.fields?

namespace Config

def ofJson? (v : Json) : Option Config := Json.reading.config v

/-- How many aliases are followed when exit codes are read; what stands under other names is passed
over. -/
def exitCodeFollows (node : Yaml.Node) : Nat :=
  let own : Nat := match node with
    | .alias .. => 1
    | _ => 0
  match node.target with
  | .mapping pairs =>
    let counts := pairs.map fun (key, value) =>
      key.follows +
        if key.text?.any ValueFormat.exitCodeNames.contains then value.follows else 0
    own + counts.foldl (· + ·) 0
  | _ => own

def follows : Yaml.Node → Nat
  | .mapping pairs =>
    let counts := pairs.map fun (key, value) =>
      key.follows + if key.text? = some "exit_codes" then exitCodeFollows value else value.follows
    counts.foldl (· + ·) 0
  | node => node.follows

/-- The configuration that a node describes, unless too many aliases would have to be followed. -/
def ofNode? (node : Yaml.Node) : Option Config :=
  if Yaml.Node.repetitionLimit * node.marks < follows node then none else Yaml.reading.config node

/-- The configuration that a YAML text describes. A text without a document is a configuration of
defaults. -/
def ofYaml? (text : String) : Option Config :=
  if text.toList.all Text.isBlank then some {}
  else match Yaml.Node.ofText? text with
    | none => none
    | some none => some {}
    | some (some node) => ofNode? node

end Config

end Conformance
