import BlockScan.Json.Basic
import BlockScan.Scan.Options

/-!
# Scan configurations

A configuration is what a user sets: whether comments are kept, as any value that counts as true
or false, and any function on lines, with errors of its own. `ScanConfig.options` turns it into the
options of a scan.
-/

set_option autoImplicit false

namespace BlockScan

/-- A function on lines, which may refuse a line with an error of type `ε`. -/
structure LineFunction (ε : Type) where
  /-- What the function is shown as. -/
  label : Json
  /-- What the function makes of a line. -/
  apply : String → Except ε String

/-- A configuration as a user sets it. -/
structure ScanConfig (ε : Type) where
  /-- Whether comments are kept: the value counts as true or false. -/
  includeComments : Json := .bool true
  /-- The function applied to every line of a heading or paragraph. -/
  transform : Option (LineFunction ε) := none

/-- A value of this kind was given where the fields of a configuration are needed. -/
structure ConfigError where
  kind : Json.Kind
deriving DecidableEq

/-- The wording of an error. -/
def ConfigError.message (e : ConfigError) : String :=
  Text.quoted e.kind.name ++ " object has no attribute 'items'"

namespace ScanConfig

variable {ε : Type}

/-- The configuration that is in force when none was set. -/
def standard : ScanConfig ε := {}

/-- Reads a configuration from an object, whose other fields are ignored. What function a value
stands for, if any, is said by `functionOf?`. -/
def ofJson (functionOf? : Json → Option (LineFunction ε)) (v : Json) :
    Except ConfigError (ScanConfig ε) :=
  match v with
  | .object fields => .ok {
      includeComments := (fields.lookup "include_comments").getD (.bool true)
      transform := (fields.lookup "text_transformer").bind functionOf? }
  | _ => .error ⟨v.kind⟩

/-- A configuration as an object. -/
def toJson (c : ScanConfig ε) : Json :=
  .object [
    ("include_comments", c.includeComments),
    ("text_transformer", (c.transform.map LineFunction.label).getD .null)]

/-- Whether a configuration equals the standard one. -/
def isStandard (c : ScanConfig ε) : Bool := c.includeComments.isOne && c.transform.isNone

/-- The options of a scan under a configuration. -/
def options (c : ScanConfig ε) : ScanOptions ε :=
  { keepComments := c.includeComments.truthy
    transform := c.transform.map LineFunction.apply }

end ScanConfig

end BlockScan
