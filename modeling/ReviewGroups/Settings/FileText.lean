/-
Module: ReviewGroups.Settings.FileText
Purpose: The text of a file that is written in UTF-8, as another character set reads it.
Trusted boundary: none; beyond sets of single bytes, the words for a malformed byte are approximate
Main exports: FileText.readAs
-/
import ReviewGroups.Charset
import ReviewGroups.Value.Key

namespace ReviewGroups.FileText

/-- A label that stands for the character set of the machine, which is UTF-8. -/
def machineLabel : String := "locale"

/-- The character set of a label; one that reads no text is refused. -/
def charset (label : String) : Except Misuse Charset :=
  if label = machineLabel then .ok Charset.utf8
  else
    match Charset.ofLabel? label.toList with
    | none => .error (.unknownCharset label)
    | some set =>
        match set.refusal? [] with
        | some .notText | some .notBytes => .error (.notACharset label)
        | _ => .ok set

/-- The text of a file as a character set reads it.  The set is asked for by its label; a value that
counts as no asks for UTF-8. -/
def readAs (label : Value) (text : String) : Except Misuse String :=
  if label.isTruthy then
    match label.text? with
    | none => .error (.labelNotText label.kindName)
    | some label => do
        let set ← charset label
        match set.readWhole (Text.Utf8.encode text.toList) with
        | .ok cs => pure (String.ofList cs)
        | .error fault => throw (.unreadable fault)
  else .ok text

end ReviewGroups.FileText
