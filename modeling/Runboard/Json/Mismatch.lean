import Runboard.Json.Basic
import Runboard.Text.Quoted

namespace Runboard.Json

/-- What was expected in place of a value of another type. -/
inductive Expected
  | string
  | boolean
  | sequence
  | headings
  | message
  | kind
deriving DecidableEq, Repr

def Expected.text : Expected → String
  | .string => "a string"
  | .boolean => "a boolean"
  | .sequence => "a sequence"
  | .headings => "struct ReportHeadings"
  | .message => "internally tagged enum Msg"
  | .kind => "variant identifier"

/-- A value as it is named in a type mismatch. -/
def describe : Json → String
  | .null => "null"
  | .bool b => "boolean `" ++ (if b then "true" else "false") ++ "`"
  | .number (.integer n) => "integer `" ++ Number.integerText n ++ "`"
  | .number (.float x) => "floating point `" ++ floatText x ++ "`"
  | .string s => "string " ++ Text.quoted s
  | .array _ => "sequence"
  | .object _ => "map"

inductive Arity
  /-- All the fields of a record in order, of which there are `fields`. -/
  | fields (record : String) (fields : Nat)
  /-- No more than these. -/
  | atMost (count : Nat)
deriving DecidableEq, Repr

def Arity.text : Arity → String
  | .fields record n =>
    "struct variant " ++ record ++ " with " ++ toString n ++
      (if n = 1 then " element" else " elements")
  | .atMost n => toString n ++ (if n = 1 then " element" else " elements") ++ " in sequence"

inductive Mismatch
  | invalidType (found : Json) (expected : Expected)
  | missingField (name : String)
  | duplicateField (name : String)
  | unknownKind (found : String) (known : List String)
  | invalidLength (length : Nat) (expected : Arity)
  | noCounter
deriving Repr

def Mismatch.message : Mismatch → String
  | .invalidType found expected =>
    "invalid type: " ++ found.describe ++ ", expected " ++ expected.text
  | .missingField name => "missing field `" ++ name ++ "`"
  | .duplicateField name => "duplicate field `" ++ name ++ "`"
  | .unknownKind found known =>
    "unknown variant `" ++ found ++ "`, expected one of " ++
      ", ".intercalate (known.map fun kind => "`" ++ kind ++ "`")
  | .invalidLength length expected =>
    "invalid length " ++ toString length ++ ", expected " ++ expected.text
  | .noCounter => "data did not match any variant of untagged enum Wire"

end Runboard.Json
