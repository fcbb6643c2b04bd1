/-! # Faults

What stops the harness from judging a fixture. A fault is never about what the interpreter did; that
is a failure.
-/

namespace Conformance

inductive Fault where
  | unreadableFixture (path : String)
  | refusedFixture (path reason : String)
  | notStarted (executable : String)
  | killed (path : String) (signal : Int)
  | unknownStatus (path : String)
  | notAwaited (path : String)
  | unwalkableRoot (root : String)
  | unlistableDirectory (root : String)
  | invalidConfig (message : String)
  | unloadableConfig (path : String)
  | unwritableOutput
  | noWorkers
deriving DecidableEq, Repr

inductive Fault.Kind where
  | io | parse | process | discovery | config | pool
deriving DecidableEq, Repr

namespace Fault

def Kind.name : Kind → String
  | .io => "io"
  | .parse => "parse"
  | .process => "process"
  | .discovery => "discovery"
  | .config => "config"
  | .pool => "pool"

def kind : Fault → Kind
  | .unreadableFixture _ | .unwritableOutput => .io
  | .refusedFixture .. => .parse
  | .notStarted _ | .killed .. | .unknownStatus _ | .notAwaited _ => .process
  | .unwalkableRoot _ | .unlistableDirectory _ => .discovery
  | .invalidConfig _ | .unloadableConfig _ => .config
  | .noWorkers => .pool

def message : Fault → String
  | .unreadableFixture path => "failed to read fixture '" ++ path ++ "'"
  | .refusedFixture path reason => path ++ " failed to parse: " ++ reason
  | .notStarted executable => "failed to start interpreter '" ++ executable ++ "'"
  | .killed path signal =>
    "interpreter was terminated by signal " ++ toString signal ++ " while running '" ++ path ++ "'"
  | .unknownStatus path => "interpreter exit status for '" ++ path ++ "' carried no exit code"
  | .notAwaited path => "failed to wait for interpreter on '" ++ path ++ "'"
  | .unwalkableRoot root => "failed to walk fixture directory '" ++ root ++ "'"
  | .unlistableDirectory root => "failed to list directory '" ++ root ++ "'"
  | .invalidConfig message => "invalid configuration: " ++ message
  | .unloadableConfig path => "failed to load configuration '" ++ path ++ "'"
  | .unwritableOutput => "failed to write output"
  | .noWorkers => "failed to build worker pool"

def code : Fault → String
  | .unreadableFixture _ => "loxtest::io"
  | .refusedFixture .. => "loxtest::parse"
  | .notStarted _ => "loxtest::process::spawn"
  | .killed .. => "loxtest::process::signal"
  | .unknownStatus _ => "loxtest::process::status"
  | .notAwaited _ => "loxtest::process::wait"
  | .unwalkableRoot _ => "loxtest::discovery"
  | .unlistableDirectory _ => "loxtest::discovery::read_dir"
  | .invalidConfig _ => "loxtest::config"
  | .unloadableConfig _ => "loxtest::config::load"
  | .unwritableOutput => "loxtest::output"
  | .noWorkers => "loxtest::pool"

def help : Fault → Option String
  | .unreadableFixture _ => some "check that the fixture exists and is readable"
  | .refusedFixture .. =>
    some "a fixture may expect compile errors or a runtime error, never both"
  | .notStarted _ =>
    some "pass --interpreter or set `executable` in the suite configuration"
  | _ => none

end Fault

end Conformance
