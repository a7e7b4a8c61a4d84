import VmSupport.Files.Tree
import VmSupport.Settings.Decode
import VmSupport.Toml.Excerpt

/-!
# Settings from a text or a file

Reading a text decodes it and then checks that the settings can be used; reading a file adds the ways
in which a file cannot be read. The report of a text that does not decode shows the line with the
part that is wrong.
-/

namespace VmSupport.Settings

/-- Why no settings came out. -/
inductive SettingsError where
  | unreadable (cause : Files.FileError)
  /-- The text is no document. -/
  | malformed
  /-- The text is a document, but does not decode. -/
  | undecodable (text : String) (cause : DecodeError)
  | rejected (cause : Rejection)

/-- The report of a text that does not decode: the line with the part that is wrong, and below it
what is wrong. -/
def DecodeError.report (text : String) (e : DecodeError) : String :=
  let excerpt := match Toml.extentOf? text.toList e.spots with
    | some extent => (Toml.Excerpt.ofExtent text.toList extent).render
    | none => ""
  excerpt ++ e.mismatch.message ++ "\n"

namespace SettingsError

/-- The sentence for the cause behind the error, if there is one. -/
def cause? : SettingsError → Option String
  | unreadable cause => some cause.message
  | malformed => some "TOML parse error"
  | undecodable text cause => some (cause.report text)
  | rejected _ => none

/-- The sentence that reports the error. -/
def message : SettingsError → String
  | unreadable cause => "failed to read config: " ++ cause.message
  | malformed => "failed to parse config: TOML parse error"
  | undecodable text cause => "failed to parse config: " ++ cause.report text
  | rejected cause => cause.message

end SettingsError

/-- The settings, if they can be used. -/
def checked (s : Settings) : Except Rejection Settings :=
  match s.rejection? with
  | some r => .error r
  | none => .ok s

/-- Reads usable settings from a text. -/
def parse (text : String) : Except SettingsError Settings :=
  match Toml.read? text with
  | none => .error .malformed
  | some entries =>
    match decode entries with
    | .error e => .error (.undecodable text e)
    | .ok s => s.checked.mapError .rejected

/-- Reads usable settings from the text of a file, if it has one. -/
def parseFile : Except Files.FileError String → Except SettingsError Settings
  | .ok text => parse text
  | .error e => .error (.unreadable e)

end VmSupport.Settings
