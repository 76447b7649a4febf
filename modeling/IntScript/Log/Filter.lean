import IntScript.Log.Logger
import IntScript.Text.Alphanumeric
import IntScript.Text.Blank

/-!
# Filters

A `Filter` is a way to say which events are written to the log.  It consists of directives, each
of which sets a limit for the events that it covers.  For an event that several directives cover,
the closest one decides: the one with the longest target, and of these one that names a field.

`Filter.ofSetting?` reads a filter from a setting, a list of directives with commas in between.  A
directive is written `target[span{field=value}]=limit`, and all of its parts can be left out:

* `target` is a text that the targets of the events begin with.
* `span` is the name of a part of a run that events are reported in.  This program does not set
  such parts apart, so a directive that names one covers no event.
* `field` is the name of a field that the events have.  A `value` is about the fields of a span, so
  a directive with a value covers no event either.
* `limit` is read by `Severity.limit?`.  Without it, the log is open to all the events covered.

A text without equals sign and brackets is a limit for all events if it can be read as one, and a
target otherwise.  A setting in which some directive has no meaning is ignored as a whole, and one
without directives selects errors only.

`Logger.filtering` is the logger that reads settings in this way.
-/

namespace IntScript

/-- The `name` of a field, and the `value` that is asked for, if any. -/
structure FieldPattern where
  name : String
  value : Option String
deriving DecidableEq

/-- A limit for the events whose targets begin with `target`, within parts of a run that are called
`span`, and with a field as in `field`. -/
structure Directive where
  target : String
  span : Option String
  field : Option FieldPattern
  limit : Option Severity
deriving DecidableEq

namespace FieldPattern

/-- Whether `event` has a field as in `pattern`; the message is a field too. -/
def covers (pattern : FieldPattern) (event : Event) : Bool :=
  pattern.value.isNone
    && (pattern.name = "message" || event.fields.any fun (name, _) => name = pattern.name)

/-- The pattern `name` or `name=value` that `text` describes. -/
def ofText (text : List Char) : FieldPattern :=
  let name := text.takeWhile (· ≠ '=')
  match text.drop name.length with
  | [] => ⟨String.ofList name, none⟩
  | _ :: value => ⟨String.ofList name, some (String.ofList (value.takeWhile (· ≠ '=')))⟩

end FieldPattern

namespace Directive

/-- Whether `event` falls under `directive`.  No event does if there is a `span` or the value of a
field. -/
def covers (directive : Directive) (event : Event) : Bool :=
  directive.span.isNone && directive.field.all (·.covers event)
    && directive.target.toList.isPrefixOf event.target.toList

/-- Whether the severity of `event` is within the limit of `directive`. -/
def admits (directive : Directive) (event : Event) : Bool :=
  match directive.limit with
  | none => false
  | some limit => limit.admits event.severity

/-- The name of the field that `directive` asks for, or the empty text. -/
def fieldName (directive : Directive) : String :=
  directive.field.elim "" FieldPattern.name

/-- The one of two directives that is closer to the events which both of them cover.  Without any
difference between them, it is `later`. -/
def closer (earlier later : Directive) : Directive :=
  if earlier.target.length < later.target.length then later
  else if later.target.length < earlier.target.length then earlier
  else if later.fieldName < earlier.fieldName then earlier
  else later

/-- Whether a text begins as targets and limits do: with a letter, a digit, or one of `-`, `:` and
`_`. -/
def opens : List Char → Bool
  | [] => false
  | c :: _ => c = '-' || c = ':' || c = '_' || isAlphanumeric c

/-- The limit at the end of a directive: nothing at all, or an equals sign with nothing or with a
text for `Severity.limit?` behind it. -/
def limit? : List Char → Option (Option Severity)
  | [] | ['='] => some (some .trace)
  | '=' :: limit => Severity.limit? (String.ofList limit)
  | _ => none

/-- The directive for `target` that goes on with `text` behind the opening bracket. -/
def ofBracket? (target : String) (text : List Char) : Option Directive :=
  let name := text.takeWhile fun c => c ≠ ']' && c ≠ '\x7b'
  match text.drop name.length with
  | ']' :: rest => (limit? rest).map (Directive.mk target (some (String.ofList name)) none)
  | '\x7b' :: rest =>
    let field := rest.takeWhile (· ≠ '\x7d')
    let span := if name = [] then none else some (String.ofList name)
    match field, rest.drop field.length with
    | _ :: _, '\x7d' :: ']' :: rest =>
      (limit? rest).map (Directive.mk target span (some (.ofText field)))
    | _, _ => none
  | _ => none

/-- The directive that `text` describes.  White space is not cut off, so that a limit with white
space around it is taken for a target. -/
def ofText? (text : List Char) : Option Directive :=
  let target := text.takeWhile fun c => c ≠ '=' && c ≠ '['
  match text.drop target.length with
  | [] =>
    if opens (target.dropWhile isWhiteSpace) then
      match Severity.limit? (String.ofList target) with
      | some limit => some ⟨"", none, none, limit⟩
      | none => some ⟨String.ofList target, none, none, some .trace⟩
    else none
  | '[' :: rest =>
    if target = [] || opens target then ofBracket? (String.ofList target) rest else none
  | rest =>
    if opens target then (limit? rest).map (Directive.mk (String.ofList target) none none) else none

end Directive

/-- The `directives` that select the events written to the log. -/
structure Filter where
  directives : List Directive
deriving DecidableEq

namespace Filter

/-- The directive that decides on `event`: of those in `filter` that cover it, the one that
`Directive.closer` prefers. -/
def decisive? (filter : Filter) (event : Event) : Option Directive :=
  match filter.directives.filter (·.covers event) with
  | [] => none
  | first :: rest => some (rest.foldl Directive.closer first)

/-- Whether `filter` selects `event`; an event that no directive covers is not selected. -/
def selects (filter : Filter) (event : Event) : Bool :=
  match filter.decisive? event with
  | none => false
  | some directive => directive.admits event

/-- The filter with the same `limit` for all events. -/
def uniform (limit : Severity) : Filter :=
  ⟨[⟨"", none, none, some limit⟩]⟩

/-- The filter that `setting` describes, or `none` if a directive in it has no meaning. -/
def ofSetting? (setting : String) : Option Filter :=
  match (setting.toList.splitOn ',').filter (· ≠ []) with
  | [] => some (uniform .error)
  | texts => (texts.mapM Directive.ofText?).map Filter.mk

end Filter

/-- The logger that reads settings by `Filter.ofSetting?`, and writes down `Event.entry` behind the
time that `clock` shows. -/
def Logger.filtering (clock : (moment : Nat) → String) : Logger where
  selection? setting := (Filter.ofSetting? setting).map Filter.selects
  line moment event := clock moment ++ event.entry

end IntScript
