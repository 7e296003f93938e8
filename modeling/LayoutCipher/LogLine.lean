import LayoutCipher.Event
import LayoutCipher.Text.Quoted

/-!
# Log lines

Each event is logged on a line of its own: its severity, its component if that is asked for, its
message and its fields.
-/

namespace LayoutCipher.LogLine

/-- How a character of a message is logged: those that would steer a terminal are escaped. -/
def messageChar (c : Char) : List Char :=
  if c = '\x1b' then ['\\', 'x', '1', 'b']
  else if c = '\x07' then ['\\', 'x', '0', '7']
  else if c = '\x08' then ['\\', 'x', '0', '8']
  else if c = '\x0c' then ['\\', 'x', '0', 'c']
  else if c = '\x7f' then ['\\', 'x', '7', 'f']
  else if 0x80 ≤ c.toNat ∧ c.toNat ≤ 0x9f then Text.codeEscape c
  else [c]

def messageText (message : String) : String :=
  String.ofList (message.toList.flatMap messageChar)

/-- The value of a field as it is logged. -/
def valueText : FieldValue → String
  | .quoted text => Text.quoted text
  | .shown text => text
  | .count n => toString n

def fieldText (field : String × FieldValue) : String :=
  " " ++ field.1 ++ "=" ++ valueText field.2

/-- The line of an event, with or without its component. -/
def ofEvent (withComponent : Bool) (event : Event) : String :=
  let component := if withComponent then event.component ++ ": " else ""
  event.severity.label ++ " " ++ component ++ messageText event.message ++
    String.join (event.fields.map fieldText)

end LayoutCipher.LogLine
