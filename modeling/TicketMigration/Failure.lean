import TicketMigration.Text.Quoted

/-!
# Failures

What the two servers and the network report, and what goes wrong with data that they send.

## Main definitions

* `Failure` lists the failures.
* `Failure.message` is the text that is shown for one.
* `Failure.isRefusal` recognises the answers to a user who may not do what was asked.
-/

namespace TicketMigration

open Text

/-- The request that the issue server did not fulfil. -/
inductive ForgeOperation
  /-- No request in particular. -/
  | any
  /-- Something was to be created. -/
  | create
  /-- The token was to be checked. -/
  | authentication
  /-- A request below the level of operations. -/
  | http
  /-- Something was to be looked up. -/
  | get
  /-- Something was to be listed. -/
  | list
  deriving DecidableEq, Repr

/-- A failure of a request, or of the reading of an answer. -/
inductive Failure
  /-- The issue server did not do what it was asked for. -/
  | forge (operation : ForgeOperation) (code : Option Int) (message : String)
  /-- The issue server could not be reached. -/
  | network (message : String)
  /-- The tracker reported a fault. -/
  | fault (code : Option Int) (message : String)
  /-- The tracker did not speak the expected protocol. -/
  | protocol (url : String) (code : Option Int) (message : String)
  /-- The system refused an operation. -/
  | system (message : String)
  /-- A value cannot be used. -/
  | badValue (message : String)
  /-- The program is in a state it should not be in. -/
  | broken (message : String)
  /-- A value that may not be a key is looked up. -/
  | unhashable
  /-- An answer has fewer members than it should have. -/
  | shortAnswer
  /-- A member of an answer that should be a text is none. -/
  | notText
  /-- A member of an answer is of a wrong kind. -/
  | wrongKind
  deriving DecidableEq, Repr

/-- The text of a code, which may be missing. -/
def codeText : Option Int → String
  | some code => toString code
  | none => "None"

namespace Failure

/-- The text that is shown for a failure; failures that come of malformed data have none. -/
def message : Failure → String
  | forge _ (some code) message => toString code ++ ": " ++ message
  | forge _ none message => message
  | network message => message
  | fault code message => "<Fault " ++ codeText code ++ ": " ++ quotedString message ++ ">"
  | protocol url code message =>
    "<ProtocolError for " ++ url ++ ": " ++ codeText code ++ " " ++ message ++ ">"
  | system message => message
  | badValue message => message
  | broken message => message
  | unhashable | shortAnswer | notText | wrongKind => ""

/-- The codes with which the issue server refuses a request to a user: the user is not known, may
not do this, or may not see the project. -/
def refusalCodes : List Int :=
  [401, 403, 404]

/-- Whether the issue server refused the request to the user. -/
def isRefusal : Failure → Bool
  | forge _ (some code) _ => refusalCodes.contains code
  | _ => false

/-- What the issue server said, if the failure is one of its own. -/
def forgeMessage? : Failure → Option String
  | forge _ _ message => some message
  | _ => none

end Failure

end TicketMigration
