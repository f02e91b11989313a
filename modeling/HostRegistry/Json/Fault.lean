import HostRegistry.Text.Quoted

/-!
# What can be wrong with a JSON text

Reading stops at the first fault in the order of the text. Either the text ends too early, or it is
not JSON, or it is JSON of another shape than the one asked for. A fault of shape says what was
found, and the steps that lead from the value being read to the place of the fault.
-/

namespace HostRegistry.Json

/-- The kind of value that was found. -/
inductive Found
  | null
  | boolean (b : Bool)
  | integer (n : Int)
  | fraction (text : String)
  | text (s : String)
  | list
  | object
deriving DecidableEq, Repr

/-- The kind of value that was asked for. -/
inductive Expected
  | text
  | list
  | struct (name : String)
deriving DecidableEq, Repr

inductive Mismatch
  | kind (found : Found) (expected : Expected)
  | missingField (name : String)
  | duplicateField (name : String)
  | length (given : Nat) (struct : String) (fields : Nat)
  /-- A text that is not of the form its field asks for. -/
  | rejected (message : String)
deriving DecidableEq, Repr

inductive Step
  | field (name : String)
  | item (index : Nat)
deriving DecidableEq, Repr

inductive Fault
  | truncated
  | malformed
  | shape (path : List Step) (mismatch : Mismatch)
deriving DecidableEq, Repr

def Found.describe : Found → String
  | .null => "null"
  | .boolean b => s!"boolean \x60{b}\x60"
  | .integer n => s!"integer \x60{n}\x60"
  | .fraction t => s!"floating point \x60{t}\x60"
  | .text s => "string " ++ Text.quoted s
  | .list => "sequence"
  | .object => "map"

def Expected.describe : Expected → String
  | .text => "a string"
  | .list => "a sequence"
  | .struct name => s!"struct {name}"

def Mismatch.message : Mismatch → String
  | .kind found expected => s!"invalid type: {found.describe}, expected {expected.describe}"
  | .missingField name => s!"missing field \x60{name}\x60"
  | .duplicateField name => s!"duplicate field \x60{name}\x60"
  | .length given struct fields =>
    let elements := if fields = 1 then "1 element" else s!"{fields} elements"
    s!"invalid length {given}, expected struct {struct} with {elements}"
  | .rejected message => message

/-- The path as text: field names joined by points, positions in brackets. -/
def pathText : List Step → String
  | [] => ""
  | .field name :: rest =>
    name ++ (match rest with | .field _ :: _ => "." | _ => "") ++ pathText rest
  | .item index :: rest =>
    s!"[{index}]" ++ (match rest with | .field _ :: _ => "." | _ => "") ++ pathText rest

def Fault.message : Fault → String
  | .truncated => "the text ends too early"
  | .malformed => "the text is not JSON"
  | .shape _ mismatch => mismatch.message

/-- The fault as seen from one step further out. -/
def Fault.under (step : Step) : Fault → Fault
  | .shape path mismatch => .shape (step :: path) mismatch
  | fault => fault

end HostRegistry.Json
