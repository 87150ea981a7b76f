import Scpi.Cache
import Scpi.Header
import Scpi.Text.Quoted

set_option autoImplicit false

namespace Scpi

inductive Notice where
  | defined (header : Header)
  | cleared
  | evicted (victim : Cache.Victim)
  | stale (query : String)
  | hit (query : String)
  | unknown (header : Header)
  | rejected (query : String) (header : Header)
deriving DecidableEq, Repr

namespace Notice

inductive Severity where
  | debug
  | info
deriving DecidableEq, Repr

def Severity.name : Severity → String
  | .debug => "DEBUG"
  | .info => "INFO"

def Severity.level : Severity → Int
  | .debug => 10
  | .info => 20

def severity : Notice → Severity
  | .rejected .. => .info
  | _ => .debug

def source : Notice → String
  | .defined _ => "scpi_parser.model.registry"
  | .cleared | .evicted _ | .stale _ => "scpi_parser.model.cache"
  | .hit _ => "scpi_parser.dispatcher"
  | .unknown _ => "scpi_parser.parser.commands"
  | .rejected .. => "scpi_parser.main"

def text : Notice → String
  | .defined header => "Registered handler for " ++ header.text
  | .cleared => "Query cache cleared"
  | .evicted victim =>
      "Evicted " ++ Text.quoted victim.query ++ " from query cache (frequency " ++
        toString victim.uses ++ ")"
  | .stale query => "Dropped stale parse of " ++ Text.quoted query
  | .hit query => "Cache hit for " ++ Text.quoted query
  | .unknown header => "No handler for " ++ Text.quoted header.text
  | .rejected query header =>
      "Rejected query " ++ Text.quoted query ++ ": no handler for " ++ Text.quoted header.text

def line (notice : Notice) : String :=
  notice.source ++ " " ++ notice.severity.name ++ " " ++ notice.text

def ofInsertion (query : String) : Cache.Insertion → List Notice
  | .stale => [.stale query]
  | .added victims => victims.map .evicted
  | .refused | .replaced => []

end Notice

namespace Journal

def thresholds : List (String × Int) :=
  [("CRITICAL", 50), ("FATAL", 50), ("ERROR", 40), ("WARNING", 30), ("WARN", 30), ("INFO", 20),
    ("DEBUG", 10), ("NOTSET", 0)]

-- The capital of a character if that is a plain letter: besides a to z, the dotless i and the long s
-- have one.
def capital (c : Char) : Char :=
  if 'a' ≤ c ∧ c ≤ 'z' then Char.ofNat (c.toNat - 32)
  else if c = 'ı' then 'I'
  else if c = 'ſ' then 'S'
  else c

def threshold (otherwise : Int) (setting : Option String) : Int :=
  let name := String.ofList ((Text.trim (setting.getD "")).toList.map capital)
  (thresholds.lookup name).getD otherwise

def standardThreshold : Int := 30

def printed (threshold : Int) (notices : List Notice) : List String :=
  (notices.filter fun notice => threshold ≤ notice.severity.level).map Notice.line

end Journal

end Scpi
