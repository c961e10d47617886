import DocMarkup.Compilation
import DocMarkup.Settings

namespace DocMarkup.Settings

/-!
# Validating settings

Values of settings become the options of a compilation, or the first fault is
told: in the encoding, in a truth value, in the kind of a number, in its range,
or in the members of a list.
-/

/-- The encoding that is set. -/
def encoding (settings : Settings) : Except SettingsFault Encoding :=
  match (settings.value .encoding).text?.bind Encoding.ofName? with
  | some encoding => .ok encoding
  | none => .error .unknownEncoding

/-- The truth value that is set. -/
def boolean (settings : Settings) (key : SettingKey) : Except SettingsFault Bool :=
  match settings.value key with
  | .boolean value => .ok value
  | _ => .error (.notBoolean key)

/-- The integer that is set, if any is. -/
def integer (settings : Settings) (key : SettingKey) : Except SettingsFault (Option Int) :=
  match settings.value key with
  | .none => .ok none
  | .integer value => .ok (some value)
  | _ => .error (.notInteger key)

/-- The texts that are set. -/
def texts (settings : Settings) (key : SettingKey) : Except SettingsFault (List String) :=
  match (settings.value key).elements? with
  | none => .error (.withoutElements key)
  | some elements =>
      match elements.mapM Value.text? with
      | none => .error (.notTexts key)
      | some texts => .ok texts

/-- Check a condition that must hold of settings. -/
def ensure (holds : Bool) (fault : SettingsFault) : Except SettingsFault Unit :=
  if holds then .ok () else .error fault

/-- The options that settings stand for; a clock that is not fixed shows the given moment. -/
def options (settings : Settings) (now : Moment) : Except SettingsFault Options := do
  let encoding ← settings.encoding
  let prettyPrint ← settings.boolean .prettyPrint
  let ideStyle ← settings.boolean .ideStyle
  let fixedClock ← settings.boolean .fixedClock
  let indent ← settings.integer .indent
  let lineWidth ← settings.integer .lineWidth
  ensure (indent.all fun size => 0 ≤ size) .negativeIndent
  ensure (lineWidth.all fun width => 0 < width) .emptyLine
  let includePaths ← settings.texts .includePaths
  let defines ← settings.texts .defines
  ensure (!defines.any Text.isBlankText) .emptyDefinition
  return {
    encoding := encoding
    prettyPrint := prettyPrint
    indent := indent
    lineWidth := lineWidth
    includePaths := includePaths
    defines := defines
    ideStyle := ideStyle
    moment := if fixedClock then .fixed else now }

end DocMarkup.Settings
