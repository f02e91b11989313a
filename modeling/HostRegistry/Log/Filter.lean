import HostRegistry.Log
import HostRegistry.Text.Alphanumeric
import HostRegistry.Text.Blank
import HostRegistry.Text.Pieces

/-!
# Log filters

A filter is a list of directives between commas. A directive is a level alone, or tells which lines
it covers and up to which level it lets them through, as in `target[span{field}]=level`, where each
part may be missing. Of the directives that cover a line the most specific one decides.
-/

namespace HostRegistry.Log

/-- A directive covers the lines whose target begins with its own and that have its field. -/
structure Directive where
  target : String
  field : Option String
  /-- Whether lines have to be inside a span. The service opens none while it reports. -/
  inSpan : Bool
  verbosity : Nat
deriving DecidableEq, Repr

/-- Reads a number with perhaps a plus sign before it. -/
def number? (cs : List Char) : Option Nat :=
  let digits := match cs with
    | '+' :: rest => rest
    | _ => cs
  if digits.isEmpty || !digits.all Char.isDigit then none
  else some (digits.foldl (fun n c => n * 10 + (c.toNat - 0x30)) 0)

/-- The verbosity that a number or, in any case, a word stands for; `off` lets nothing through. -/
def verbosity? (level : String) : Option Nat :=
  match number? level.toList with
  | some n => if n ≤ Level.trace.verbosity then some n else none
  | none =>
    match level.toLower with
    | "off" => some 0
    | "error" => some 1
    | "warn" => some 2
    | "info" => some 3
    | "debug" => some 4
    | "trace" => some 5
    | _ => none

namespace Directive

/-- A level, or else a target that is let through in full. -/
def ofWord (word : String) : Directive :=
  match verbosity? word with
  | some verbosity => ⟨"", none, false, verbosity⟩
  | none => ⟨word, none, false, Level.trace.verbosity⟩

/-- The level that stands behind the given number of characters; everything if there is none. -/
def levelBehind? (n : Nat) (piece : List Char) : Option Nat :=
  let level := piece.drop n
  if level.isEmpty then some Level.trace.verbosity else verbosity? (String.ofList level)

/-- What stands in brackets. -/
structure Condition where
  field : Option String
  inSpan : Bool
  /-- The number of characters up to behind the closing bracket. -/
  stop : Nat

/-- Reads what stands in brackets, from behind the opening one; `start` characters come before. A
field may be given with a value, which only spans are asked for. -/
def condition? (start : Nat) (inner piece : List Char) : Option Condition :=
  let span := inner.takeWhile fun c => c ≠ ']' && c ≠ '\x7b'
  match inner.drop span.length with
  | ']' :: _ => some ⟨none, true, start + span.length + 1⟩
  | '\x7b' :: rest =>
    let field := rest.takeWhile (· ≠ '\x7d')
    match field, rest.drop field.length with
    | _ :: _, _ :: ']' :: _ =>
      let fieldStart := start + span.length + 1
      let given := (piece.drop fieldStart).take field.length
      some ⟨some (String.ofList (given.takeWhile (· ≠ '='))), !span.isEmpty || given.contains '=',
        fieldStart + field.length + 2⟩
    | _, _ => none
  | _ => none

/-- Reads a directive with a condition, from behind the bracket. -/
def conditional? (target : String) (start : Nat) (inner form piece : List Char) :
    Option Directive := do
  let condition ← condition? start inner piece
  let verbosity ← match form.drop condition.stop with
    | [] => some Level.trace.verbosity
    | '=' :: _ => levelBehind? (condition.stop + 1) piece
    | _ => none
  pure ⟨target, condition.field, condition.inSpan, verbosity⟩

/-- Whether a directive may begin with the character, when no bracket comes first. -/
def isHeadStart (c : Char) : Bool := Text.isAlphanumeric c || c = '-' || c = ':' || c = '_'

/-- Reads a directive. Blanks around it are no part of its form, but its texts are those that stand
in the piece, blanks included, at the places found without them. -/
def ofText? (s : String) : Option Directive := do
  let piece := s.toList
  let form := (Text.trim s).toList
  let head := form.takeWhile fun c => c ≠ '=' && c ≠ '['
  let target := String.ofList (piece.take head.length)
  if !head.head?.all isHeadStart then none
  else
    match form.drop head.length with
    | '[' :: inner => conditional? target (head.length + 1) inner form piece
    | '=' :: _ =>
      if head.isEmpty then none
      else (levelBehind? (head.length + 1) piece).map fun v => ⟨target, none, false, v⟩
    | _ => if head.isEmpty then none else some (ofWord s)

def covers (d : Directive) (l : Line) : Bool :=
  !d.inSpan && d.target.toList.isPrefixOf l.target.toList && d.field.all l.has

/-- Whether a directive is at least as specific as another: by the length of its target, then by
its field. -/
def atLeast (d other : Directive) : Bool :=
  if d.target.length ≠ other.target.length then other.target.length < d.target.length
  else
    match other.field, d.field with
    | none, _ => true
    | some _, none => false
    | some f, some g => (compare f g).isLE

end Directive

abbrev Filter := List Directive

namespace Filter

/-- Lets a level through for the service. -/
def ofLevel (level : String) : Filter :=
  [⟨"kie_server_router", none, false, (verbosity? level).getD 0⟩]

/-- Reads the directives between commas. Without any, nothing is let through. -/
def ofText? (s : String) : Option Filter :=
  ((Text.cut ',' s).filter (· ≠ "")).mapM Directive.ofText?

/-- The directive that decides for a line: of those that cover it the most specific one, and of
equally specific ones the last. -/
def deciding (f : Filter) (l : Line) : Option Directive :=
  (f.filter (·.covers l)).foldl (fun best d =>
    match best with
    | some b => if d.atLeast b then some d else some b
    | none => some d) none

def lets (f : Filter) (l : Line) : Bool :=
  match f.deciding l with
  | some d => l.level.verbosity ≤ d.verbosity
  | none => false

end Filter

end HostRegistry.Log
