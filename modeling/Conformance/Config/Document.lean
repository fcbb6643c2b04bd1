import Conformance.Config
import Conformance.Json

/-! # Configuration documents

The structured form of a configuration, with every field written out.
-/

namespace Conformance

def ExitCodes.toJson (codes : ExitCodes) : Json :=
  .object [("compile_error", .integer codes.compileError),
    ("runtime_error", .integer codes.runtimeError)]

def SuiteConfig.toJson (s : SuiteConfig) : Json :=
  .object [("name", .string s.name), ("executable", .string s.executable),
    ("args", .array (s.args.map .string)),
    ("language", match s.language with | some l => .string l | none => .null),
    ("root", .string s.root), ("per_directory", .bool s.perDirectory)]

def Config.toJson (c : Config) : Json :=
  .object [("exit_codes", c.exitCodes.toJson), ("timeout_secs", .integer c.timeoutSecs),
    ("jobs", .integer c.jobs), ("extension", .string c.extension),
    ("exclude", .array (c.exclude.map .string)),
    ("suites", .array (c.suites.map SuiteConfig.toJson))]

end Conformance
