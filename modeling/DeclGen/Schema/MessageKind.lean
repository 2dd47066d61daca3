import DeclGen.Text.Display

/-!
Kinds of messages. The kind of a message decides the suffix of its payload record and the lookup
record that lists it.
-/

namespace DeclGen

open Text

inductive MessageKind where
  | request
  | response
  | notification
  deriving DecidableEq, Repr

/-- A text that names no message kind. -/
structure UnknownKind where
  text : String
  deriving DecidableEq, Repr

def UnknownKind.message (e : UnknownKind) : String :=
  display e.text ++ " is not a valid MessageKind"

namespace MessageKind

/-- The word for a kind in interface descriptions. -/
def word : MessageKind → String
  | .request => "request"
  | .response => "response"
  | .notification => "notification"

def ofWord? (text : String) : Option MessageKind :=
  [request, response, notification].find? (·.word == text)

def ofWord (text : String) : Except UnknownKind MessageKind :=
  match ofWord? text with
  | some kind => .ok kind
  | none => .error ⟨text⟩

/-- What a function name gets appended to name its payload record. -/
def suffix : MessageKind → String
  | .request => "$Request"
  | .response => "$Response"
  | .notification => ""

/-- The name of the lookup record that lists the messages of a kind. -/
def lookupName : MessageKind → String
  | .request => "SendTypes"
  | .response => "ResponseTypes"
  | .notification => "NotificationTypes"

/-- The order of the lookup records in the output. -/
def lookupOrder : List MessageKind := [.notification, .request, .response]

end MessageKind

end DeclGen
