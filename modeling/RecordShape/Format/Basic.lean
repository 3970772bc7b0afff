import RecordShape.Format.Email
import RecordShape.Format.Identifier
import RecordShape.Format.Calendar
import RecordShape.Format.Url
import RecordShape.Reading.Formed

/-!
# String formats

The formats a schema can ask for by name. A name that is not known asks for nothing.
-/

namespace RecordShape

inductive StringFormat where
  | email
  | uuid
  | url
  | dateTime
  | date
  deriving DecidableEq, Inhabited

namespace StringFormat

def all : List StringFormat := [email, uuid, url, dateTime, date]

/-- The format a schema asks for; `uri` and `url` ask for the same. -/
def ofName? (name : String) : Option StringFormat :=
  if name = "email" then some email
  else if name = "uuid" then some uuid
  else if name = "uri" ∨ name = "url" then some url
  else if name = "date-time" then some dateTime
  else if name = "date" then some date
  else none

/-- The name in exported schemas and messages. -/
def name : StringFormat → String
  | email => "email"
  | uuid => "uuid"
  | url => "uri"
  | dateTime => "date-time"
  | date => "date"

/-- The name in JSON. -/
def variant : StringFormat → String
  | url => "url"
  | format => format.name

def accepts : StringFormat → String → Bool
  | email, s => Email.isAddress s
  | uuid, s => UniqueId.isIdentifier s
  | url, s => Url.isUrl s
  | dateTime, s => Calendar.isDateTime s
  | date, s => Calendar.isDate s

def toJson (format : StringFormat) : Json := .str format.variant

instance : Formed StringFormat where
  form := .choice (all.map variant)
  build j := (all.find? fun format => j = .str format.variant).getD default

end StringFormat
end RecordShape
