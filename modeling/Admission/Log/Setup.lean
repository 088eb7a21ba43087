import Admission.Text.Case
import Admission.Text.Quoted

/-!
# Setting up the log

The log is set up by a level and a format. Setting it up installs a handler of the format in the place of the one that was
installed before, and then selects the level by its name; a name without a level selects the level of `INFO`. Two names
stand for something that is no level: they are refused, and the handler has been replaced by then.
-/

namespace Admission.Log

/-- The form in which a handler writes. -/
inductive Form where
  | json
  | text
  deriving DecidableEq

/-- The name of a form. -/
def Form.name : Form → Text
  | .json => "json"
  | .text => "text"

/-- The form that a format asks for: every format but `json` asks for text. -/
def Form.ofFormat (format : Text) : Form := if format = Text.ofString "json" then .json else .text

/-- What a name of a level stands for: a level, a text that names none, or something else, which is told as given. -/
inductive LevelEntry where
  | level (n : Nat)
  | unknown (text : Text)
  | foreign (shown : Text)
  deriving DecidableEq

/-- The level that holds for a name without one. -/
def defaultLevel : Nat := 20

/-- The default layout of a line, which has a name among the levels. -/
def defaultLayout : Text := "%(levelname)s:%(name)s:%(message)s"

/-- The layouts of lines that have a name together among the levels. -/
def layouts : Text :=
  Text.concat ["\x7b'%': (<class 'logging.PercentStyle'>, '", defaultLayout,
    "'), '\x7b': (<class 'logging.StrFormatStyle'>, '\x7blevelname\x7d:\x7bname\x7d:\x7bmessage\x7d'), ",
    "'$': (<class 'logging.StringTemplateStyle'>, '$\x7blevelname\x7d:$\x7bname\x7d:$\x7bmessage\x7d')\x7d"]

/-- What the names of levels stand for. -/
def levelEntries : List (Text × LevelEntry) :=
  [("CRITICAL", .level 50), ("FATAL", .level 50), ("ERROR", .level 40), ("WARNING", .level 30), ("WARN", .level 30),
    ("INFO", .level 20), ("DEBUG", .level 10), ("NOTSET", .level 0), ("BASIC_FORMAT", .unknown defaultLayout),
    ("_STYLES", .foreign layouts)]

/-- What a name stands for, letter case disregarded. -/
def levelEntry (name : Text) : LevelEntry := (levelEntries.lookup name.upper).getD (.level defaultLevel)

/-- Why a level is refused. -/
inductive LevelFault where
  | unknown (text : Text)
  | foreign (shown : Text)
  deriving DecidableEq

/-- What is told of a level that is refused. -/
def LevelFault.message : LevelFault → Text
  | .unknown text => "Unknown level: " ++ text.quoted
  | .foreign shown => "Level not an integer or a valid string: " ++ shown

/-- A handler: the name that it was given, if any, and the form in which it writes. -/
structure Handler where
  name : Option Text
  form : Form
  deriving DecidableEq

/-- The name of the handlers that setting up the log installs. -/
def handlerName : Text := "commandgate"

/-- A handler that setting up the log has installed. -/
def Handler.isOurs (h : Handler) : Bool := decide (h.name = some handlerName)

/-- The state of the log: its handlers, those that others have installed among them, and its level. -/
structure State where
  handlers : List Handler
  level : Nat
  deriving DecidableEq

namespace State

/-- The log before it is set up. -/
def initial : State := { handlers := [], level := 30 }

/-- The handlers that have been installed by setting up the log. -/
def installed (s : State) : List Handler := s.handlers.filter Handler.isOurs

/-- A handler of a format behind those that others have installed, and no other. -/
def install (s : State) (format : Text) : State :=
  { s with handlers := (s.handlers.filter fun h => !h.isOurs) ++ [{ name := some handlerName, form := .ofFormat format }] }

/-- A set-up: the handler in place of those installed before, and then the level. -/
def setUp (s : State) (level format : Text) : Except LevelFault Unit × State :=
  let s := s.install format
  match levelEntry level with
  | .level n => (.ok (), { s with level := n })
  | .unknown text => (.error (.unknown text), s)
  | .foreign shown => (.error (.foreign shown), s)

end State

/-- The level and the format of a set-up that names neither. -/
def defaultSetUp : Text × Text := ("INFO", "json")

end Admission.Log
