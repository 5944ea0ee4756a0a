import ModelForge.Grammar.Draft
import ModelForge.Grammar.Form.Mail
import ModelForge.Grammar.Form.Moment
import ModelForge.Pattern.Matcher
import ModelForge.Uri.Basic
import ModelForge.Json.Pointer
/-!
Forms that a schema can ask of a text by name.
-/

namespace ModelForge.Grammar

inductive Form
  | date
  | time
  | dateTime
  | email
  | internationalEmail
  | hostname
  | internationalHostname
  | version4
  | version6
  | uri
  | uriReference
  | uriTemplate
  | iri
  | iriReference
  | jsonPointer
  | relativeJsonPointer
  | regex
  deriving DecidableEq, Repr

namespace Form

def all : List Form :=
  [date, time, dateTime, email, internationalEmail, hostname, internationalHostname, version4, version6, uri,
    uriReference, uriTemplate, iri, iriReference, jsonPointer, relativeJsonPointer, regex]

def name : Form → String
  | date => "date"
  | time => "time"
  | dateTime => "date-time"
  | email => "email"
  | internationalEmail => "idn-email"
  | hostname => "hostname"
  | internationalHostname => "idn-hostname"
  | version4 => "ipv4"
  | version6 => "ipv6"
  | uri => "uri"
  | uriReference => "uri-reference"
  | uriTemplate => "uri-template"
  | iri => "iri"
  | iriReference => "iri-reference"
  | jsonPointer => "json-pointer"
  | relativeJsonPointer => "relative-json-pointer"
  | regex => "regex"

/-- The first draft that knows the form. -/
def since : Form → Draft
  | jsonPointer | uriReference | uriTemplate => .draft6
  | iri | iriReference | internationalHostname | relativeJsonPointer => .draft7
  | _ => .draft4

def ofName? (d : Draft) (s : String) : Option Form := all.find? fun f => f.name == s && f.since ≤ d

def isEscaped : List Char → Bool
  | '~' :: c :: rest => (c = '0' || c = '1') && isEscaped rest
  | c :: rest => c ≠ '~' && isEscaped rest
  | [] => true

/-- A pointer in which every tilde is part of an escape. -/
def isPointer (cs : List Char) : Bool := cs = [] || (cs.head? = some '/' && isEscaped cs)

/-- A number of steps up and a pointer down from there, or a number sign. -/
def isRelativePointer (cs : List Char) : Bool :=
  let digits := cs.takeWhile Char.isDigit
  let rest := cs.drop digits.length
  digits ≠ [] && (digits.length = 1 || digits.head? ≠ some '0') && (rest = ['#'] || isPointer rest)

/-- Texts with expressions in braces that stand for parts to be filled in. -/
def template : Option Matcher :=
  let part := "(?:[a-z0-9_]|%[0-9a-f]\x7b2\x7d)+(?::[1-9][0-9]\x7b0,3\x7d|\\*)?"
  Matcher.ofText? ("^(?:(?:[^\\x00-\\x20\"'<>%\\\\^\x60\x7b|\x7d]|%[0-9a-f]\x7b2\x7d)|\\\x7b[+#./;?&=,!@|]?" ++ part ++
    "(?:," ++ part ++ ")*\\\x7d)*$")

def isReference (s : Uri.Charset) (needsScheme : Bool) (cs : List Char) : Bool :=
  match Uri.read s cs with
  | .ok u => u.scheme.isSome || !needsScheme
  | .error _ => false

/-- Whether a text has a form. -/
def admits (f : Form) (s : String) : Bool :=
  let cs := s.toList
  match f with
  | date => Moment.isDate cs
  | time => Moment.isTime cs
  | dateTime => Moment.isDateTime cs
  | email | internationalEmail => Mail.isAddress cs
  | hostname | internationalHostname => Mail.isHostname cs
  | version4 => Address.isVersion4 cs
  | version6 => Address.isVersion6 cs
  | uri => isReference .ascii true cs
  | uriReference => isReference .ascii false cs
  | uriTemplate => template.any (·.found s)
  | iri => isReference .international true cs
  | iriReference => isReference .international false cs
  | jsonPointer => isPointer cs
  | relativeJsonPointer => isRelativePointer cs
  | regex => (Matcher.ofText? s).isSome

end Form

end ModelForge.Grammar
