/-
Module: ReviewGroups.Settings.Basic
Purpose: The connection settings of a client.
Trusted boundary: none
Main exports: Settings, Settings.default
-/
import ReviewGroups.Group.Basic

namespace ReviewGroups

/-- Where the server is, who asks, and how long to wait. -/
structure Settings where
  url : String
  username : Option String
  password : Option String
  timeout : Binary64
deriving Repr, Inhabited, DecidableEq

namespace Settings

/-- A server on this machine, nobody in particular, and half a minute. -/
def default : Settings :=
  { url := "http://localhost:8080"
    username := none
    password := none
    timeout := Binary64.ofInt 30 }

/-- Every field of settings by name. -/
def toJson (settings : Settings) : Json :=
  .object
    [("url", .text settings.url),
      ("username", .ofOption .text settings.username),
      ("password", .ofOption .text settings.password),
      ("timeout", .float settings.timeout)]

end Settings

end ReviewGroups
