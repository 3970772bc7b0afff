import RecordShape.Compile.Options
import RecordShape.Json.Printer

/-!
# Settings

How schemas are compiled and how results are written. Whatever is not set has a default.
-/

namespace RecordShape

/-- The layout of written JSON. -/
inductive OutputFormat where
  | pretty
  | compact
  deriving DecidableEq, Inhabited

namespace OutputFormat

def name : OutputFormat → String
  | pretty => "pretty"
  | compact => "compact"

def toJson (format : OutputFormat) : Json := .str format.name

def render : OutputFormat → Json → String
  | pretty, j => j.pretty
  | compact, j => j.compact

instance : Formed OutputFormat where
  form := .choice ["pretty", "compact"]
  build j := if j = .str "compact" then compact else pretty

end OutputFormat

structure OutputConfig where
  format : OutputFormat := .pretty
  failOnWarnings : Bool := false
  deriving DecidableEq, Inhabited

namespace OutputConfig

def toJson (o : OutputConfig) : Json :=
  .obj [("fail_on_warnings", .bool o.failOnWarnings), ("format", o.format.toJson)]

instance : Formed OutputConfig where
  form := .record "OutputConfig"
    [("format", Formed.form OutputFormat), ("fail_on_warnings", .flag)] []
  build j :=
    { format := Formed.buildAt .pretty "format" j
      failOnWarnings := Formed.buildAt false "fail_on_warnings" j }

end OutputConfig

structure Config where
  compiler : CompileOptions := {}
  output : OutputConfig := {}
  deriving DecidableEq, Inhabited

namespace Config

def toJson (c : Config) : Json :=
  .obj [("compiler", c.compiler.toJson), ("output", c.output.toJson)]

instance : Formed Config where
  form := .record "FixtureConfig"
    [("compiler", Formed.form CompileOptions), ("output", Formed.form OutputConfig)] []
  build j :=
    { compiler := Formed.buildAt {} "compiler" j
      output := Formed.buildAt {} "output" j }

end Config
end RecordShape
