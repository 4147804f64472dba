import JobHooks.Log.Pattern
import JobHooks.Notice
import JobHooks.Text.Alphanumeric
import JobHooks.Text.Blank
import JobHooks.Text.Cut
import JobHooks.Text.Integer

/-!
# Log filters

A filter decides which notices are logged.  It is written as directives with commas between them.  A
directive is a level alone, or the beginning of a target, or a span with a field in braces, or a
target with a span behind it; but for a level alone an equals sign and a level may stand behind, and
without one everything is let through.

Of the directives that apply to a notice the most specific one decides: the one with the longest
target, and among those one that asks for a field.  Directives that name a span, or the value of a
field, apply to nothing here, since there are no spans.

The parts of a directive are found in the text without the blanks around it, but cut out of the text
with them, at the same places.  Where blanks stand in front, a part may therefore begin or end
within a character; reading the directive panics then.
-/

namespace JobHooks.Log

set_option autoImplicit false

/-! ## Thresholds -/

/-- The most verbose level that is let through, as a number: zero lets nothing through, five
everything. -/
abbrev Threshold := Nat

/-- The threshold that lets everything through. -/
def everything : Threshold := Level.trace.verbosity

/-- The threshold that lets errors through. -/
def errorsOnly : Threshold := Level.error.verbosity

/-- The threshold that lets nothing through. -/
def nothing : Threshold := 0

/-- The threshold that a name or a number stands for; case does not count, and no text at all stands
for errors only. -/
def Threshold.ofText? (text : String) : Option Threshold :=
  match Text.integer .word text with
  | .ok number => if number ≤ 5 then some number.toNat else named
  | .error _ => named
where
  named : Option Threshold :=
    match text.toLower with
    | "" => some errorsOnly
    | "off" => some nothing
    | "error" => some Level.error.verbosity
    | "warn" => some Level.warn.verbosity
    | "info" => some Level.info.verbosity
    | "debug" => some Level.debug.verbosity
    | "trace" => some Level.trace.verbosity
    | _ => none

/-! ## Directives -/

/-- Why a text is no filter. -/
inductive FilterFault where
  | directive
  | level
  | value (fault : PatternFault)
  deriving Repr, DecidableEq, Inhabited

/-- The words for a fault of a filter. -/
def FilterFault.message : FilterFault → String
  | directive => "invalid filter directive"
  | level =>
    "error parsing level filter: expected one of \"off\", \"error\", \"warn\", \"info\", "
      ++ "\"debug\", \"trace\", or a number 0-5"
  | value fault => "invalid field filter: " ++ fault.message

/-- What comes of reading a part of a filter: a panic, or else a fault or a value. -/
abbrev Read := ExceptT FilterFault (Except Panic)

/-- A field that a directive asks for, perhaps with a value. -/
structure FieldFilter where
  name : String
  hasValue : Bool
  deriving Repr, DecidableEq, Inhabited

/-- One directive of a filter. -/
structure Directive where
  threshold : Threshold := everything
  target? : Option String := none
  span? : Option String := none
  field? : Option FieldFilter := none
  deriving Repr, DecidableEq, Inhabited

namespace Directive

/-- Whether a directive may begin with a character. -/
def mayStart (character : Char) : Bool :=
  character == '[' || character == '-' || character == ':' || character == '_'
    || Text.isAlphanumeric character

/-- The number of bytes of characters. -/
def byteSize (characters : List Char) : Nat := (String.ofList characters).utf8ByteSize

/-- The level part of a directive; an empty one lets everything through. -/
def levelPart (text : String) : Read Threshold :=
  if text = "" then return everything
  else
    match Threshold.ofText? text with
    | some threshold => return threshold
    | none => throw .level

/-- What a directive without a level part stands for: a level, or a target. -/
def ofName (text : String) : Directive :=
  match Threshold.ofText? text with
  | some threshold => { threshold }
  | none => { target? := some text }

/-- Whether a text is a number, not a pattern: with a sign or without, infinite, no number at all,
or digits with a point and an exponent. -/
def isNumber (text : List Char) : Bool :=
  let unsigned := if text.head? = some '+' ∨ text.head? = some '-' then text.drop 1 else text
  let whole := unsigned.takeWhile Char.isDigit
  let behindWhole := unsigned.drop whole.length
  let pointed := behindWhole.head? = some '.'
  let fraction := if pointed then (behindWhole.drop 1).takeWhile Char.isDigit else []
  let behindDigits := behindWhole.drop (if pointed then fraction.length + 1 else 0)
  ["inf", "infinity", "nan"].contains (String.ofList unsigned).toLower
    || (!whole.isEmpty || !fraction.isEmpty) && isExponent behindDigits
where
  isExponent : List Char → Bool
    | [] => true
    | letter :: rest =>
      let digits := if rest.head? = some '+' ∨ rest.head? = some '-' then rest.drop 1 else rest
      (letter == 'e' || letter == 'E') && !digits.isEmpty && digits.all Char.isDigit

/-- What is wrong with the value of a field: one that is no number must be a pattern. -/
def valueFault? (value : String) : Option FilterFault :=
  if isNumber value.toList then none else (patternFault? value).map .value

/-- A field in braces: its name, perhaps with an equals sign and a value behind it.  The value ends
at a second equals sign. -/
def fieldPart (text : String) : Read FieldFilter :=
  match text.splitOn "=" with
  | name :: value :: _ =>
    match valueFault? value with
    | some fault => throw fault
    | none => return ⟨name, true⟩
  | _ => if text = "" then throw .directive else return ⟨text, false⟩

/-- Reads a directive. -/
def ofText (text : String) : Read Directive := do
  let whole := text.toList
  let trimmed := Text.trim whole
  let place (rest : List Char) : Nat := byteSize trimmed - byteSize rest
  let upTo (start stop : List Char) : Read String := Text.cut (place start) (place stop) whole
  let threshold (behind : List Char) : Read Threshold := do
    levelPart (← Text.cut (place behind) (byteSize whole) whole)
  let finish (found : Directive) (behind : List Char) : Read Directive :=
    match behind with
    | [] => return found
    | '=' :: level => do return { found with threshold := ← threshold level }
    | _ => throw .directive
  let bracketed (found : Directive) (inner : List Char) : Read Directive := do
    let rest := inner.dropWhile fun character => character != ']' && character != '\x7b'
    match rest with
    | ']' :: behind => finish { found with span? := some (← upTo inner rest) } behind
    | _ :: opened => do
      let name ← upTo inner rest
      let closing := opened.dropWhile (· != '\x7d')
      if closing.isEmpty then throw .directive
      let field ← fieldPart (← upTo opened closing)
      match closing.drop 1 with
      | ']' :: behind =>
        finish { found with span? := if name = "" then none else some name, field? := some field }
          behind
      | _ => throw .directive
    | [] => throw .directive
  match trimmed with
  | [] => throw .directive
  | '[' :: inner => bracketed {} inner
  | first :: _ =>
    if !mayStart first then throw .directive
    else
      let rest := trimmed.dropWhile fun character => character != '=' && character != '['
      match rest with
      | [] => return ofName text
      | '=' :: level => do
        let target ← upTo trimmed rest
        return { target? := some target, threshold := ← threshold level }
      | _ :: inner => do bracketed { target? := some (← upTo trimmed rest) } inner

/-- Whether a directive needs a span, or the value of a field. -/
def needsSpan (directive : Directive) : Bool :=
  directive.span?.isSome || directive.field?.any (·.hasValue)

/-- Whether a directive applies to a notice with a target and named values. -/
def appliesTo (directive : Directive) (target : String) (fields : List String) : Bool :=
  directive.target?.all (fun start => start.toList.isPrefixOf target.toList)
    && directive.field?.all (fun field => fields.contains field.name)

/-- Whether one directive is at least as specific as another one that applies to the same notice. -/
def atLeastAsSpecific (directive other : Directive) : Bool :=
  let size (directive : Directive) : Nat := (directive.target?.map (·.utf8ByteSize + 1)).getD 0
  let field (directive : Directive) : String := (directive.field?.map (·.name)).getD ""
  size other < size directive
    || (size other == size directive && field other ≤ field directive)

end Directive

/-! ## Filters -/

/-- A filter: its directives, in the order in which they are written. -/
structure Filter where
  directives : List Directive
  deriving Repr, DecidableEq, Inhabited

namespace Filter

/-- The parts of a text between commas, empty ones left out. -/
def parts (text : String) : List String :=
  (text.splitOn ",").filter (· ≠ "")

/-- The filter that a text stands for; without a directive it lets nothing through. -/
def ofText (text : String) : Read Filter := do
  let directives ← (parts text).mapM Directive.ofText
  return ⟨if directives.isEmpty then [{ threshold := nothing }] else directives⟩

/-- The directive that decides about a notice: of equally specific ones the last. -/
def decisive? (filter : Filter) (target : String) (fields : List String) : Option Directive :=
  (filter.directives.filter fun directive =>
      !directive.needsSpan && directive.appliesTo target fields).foldl
    (fun best directive =>
      match best with
      | none => some directive
      | some found =>
        if directive.atLeastAsSpecific found then some directive else some found) none

/-- Whether a filter lets a notice of a level through. -/
def admits (filter : Filter) (target : String) (fields : List String) (level : Level) : Bool :=
  (filter.decisive? target fields).any fun directive => level.verbosity ≤ directive.threshold

end Filter

end JobHooks.Log
