import Patchbay.Compiler.Event
import Patchbay.Number.Reading
import Patchbay.Text.Alphanumeric

/-!
# Log filters

A filter decides which events are logged.  It is a list of directives, separated by commas:

    LEVEL
    TARGET
    TARGET=LEVEL
    TARGET[SPAN{FIELD}]=LEVEL

The target, the name of a span and the field may each be left out of the last form.  A target alone
stands for its every event.  A directive concerns an event if the event's target begins with the
directive's and the event has the field; no event is inside a span, and none is judged by the value
of a field.  Of the directives that concern an event the most specific one decides.
-/

namespace Patchbay.Cli

/-- The number of a level: digits, with an optional plus sign. -/
def levelNumber? (text : List Char) : Option Nat :=
  let digits := match text with
    | '+' :: rest => rest
    | _ => text
  if digits.isEmpty then none
  else (digits.mapM Text.digit?).map (fun values => values.foldl (fun n d => 10 * n + d) 0)

/-- The rank of a level by its name, in any case, or by its number; rank zero stands for no
event. -/
def levelRank? (text : List Char) : Option Nat :=
  match String.ofList (text.map Char.toLower) with
  | "off" => some 0
  | "error" => some LogLevel.error.rank
  | "warn" => some LogLevel.warn.rank
  | "info" => some LogLevel.info.rank
  | "debug" => some LogLevel.debug.rank
  | "trace" => some LogLevel.trace.rank
  | _ => (levelNumber? text).filter (· ≤ LogLevel.trace.rank)

/-- A field of an event, possibly with a value it has to have. -/
structure FieldPattern where
  name : List Char
  value : Option (List Char)
deriving DecidableEq, Repr

/-- Reads a field: a value follows the first equals sign. -/
def FieldPattern.ofText (text : List Char) : FieldPattern :=
  match text.span (· != '=') with
  | (name, []) => ⟨name, none⟩
  | (name, _ :: value) => ⟨name, some (value.takeWhile (· != '='))⟩

/-- The part of a directive in brackets. -/
structure Selector where
  span : Option (List Char)
  field : Option FieldPattern
deriving DecidableEq, Repr

namespace Selector

/-- The selector of a directive without brackets. -/
def any : Selector := ⟨none, none⟩

/-- Reads a selector behind its opening bracket, and gives what follows the closing one. -/
def ofText? (text : List Char) : Option (Selector × List Char) :=
  match text.span (fun c => c != ']' && c != '\x7b') with
  | (name, ']' :: rest) => some (⟨some name, none⟩, rest)
  | (name, '\x7b' :: rest) =>
    match rest.span (· != '\x7d') with
    | ([], _) => none
    | (field, '\x7d' :: ']' :: rest) =>
      some (⟨if name.isEmpty then none else some name, some (.ofText field)⟩, rest)
    | _ => none
  | _ => none

end Selector

/-- A directive: what it concerns, and the rank up to which events are logged. -/
structure LogDirective where
  target : List Char
  selector : Selector
  rank : Nat
deriving DecidableEq, Repr

namespace LogDirective

/-- Whether a directive can begin with a character. -/
def begins (c : Char) : Bool :=
  c == '[' || c == '-' || c == ':' || c == '_' || Text.isAlphanumeric c

/-- The rank that the end of a directive sets.  Without a level, or with an empty one, every event
is logged. -/
def closing? : List Char → Option Nat
  | [] => some LogLevel.trace.rank
  | ['='] => some LogLevel.trace.rank
  | '=' :: level => levelRank? level
  | _ => none

/-- Reads a directive.  The blanks in front of one belong to its target, and those behind one to
its level; so no event has such a target, and there is no such level. -/
def ofText? (text : List Char) : Option LogDirective := do
  let blanks := text.takeWhile Text.isBlank
  let core := Text.trim text
  let first ← core.head?
  if !begins first then none
  let (name, rest) := core.span (fun c => c != '=' && c != '[')
  match rest with
  | [] =>
    match levelRank? text with
    | some rank => return ⟨[], .any, rank⟩
    | none => return ⟨text, .any, LogLevel.trace.rank⟩
  | '[' :: inner =>
    let (selector, rest) ← Selector.ofText? inner
    if rest.isEmpty || core == text then return ⟨blanks ++ name, selector, ← closing? rest⟩
    else none
  | _ => if core == text then return ⟨name, .any, ← closing? rest⟩ else none

/-- Whether a directive concerns an event. -/
def concerns (directive : LogDirective) (event : LogEvent) : Bool :=
  directive.target.isPrefixOf event.target.toList && directive.selector.span.isNone &&
    match directive.selector.field with
    | none => true
    | some field => field.value.isNone && event.fields.contains (String.ofList field.name)

/-- The name of the field of a directive, or nothing. -/
def fieldName (directive : LogDirective) : List Char :=
  (directive.selector.field.map FieldPattern.name).getD []

/-- Whether one directive is more specific than another: by a longer target, or by a field with a
greater name. -/
def moreSpecific (first second : LogDirective) : Bool :=
  second.target.length < first.target.length ||
    (second.target.length == first.target.length && second.fieldName < first.fieldName)

end LogDirective

/-- A filter of events. -/
abbrev LogFilter := List LogDirective

namespace LogFilter

/-- The filter that applies when none is given: warnings and errors. -/
def standard : LogFilter := [⟨[], .any, LogLevel.warn.rank⟩]

/-- Reads a filter; one that cannot be read is the standard one. -/
def ofText (text : String) : LogFilter :=
  let directives := (Text.pieces (· == ',') text.toList).filter (fun d => !d.isEmpty)
  (directives.mapM LogDirective.ofText?).getD standard

/-- The more specific of two directives; of equally specific ones the later. -/
def prevailing (first second : LogDirective) : LogDirective :=
  if first.moreSpecific second then first else second

/-- Whether an event is logged. -/
def admits (filter : LogFilter) (event : LogEvent) : Bool :=
  match filter.filter (·.concerns event) with
  | [] => false
  | first :: others => event.level.rank ≤ (others.foldl prevailing first).rank

end LogFilter

end Patchbay.Cli
