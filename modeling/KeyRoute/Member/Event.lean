-- What the membership layer reports.
import KeyRoute.Member.Change

namespace KeyRoute

/-- A report that says nothing of any member's status. -/
inductive Announcement where
  /-- The ring was rebuilt, so keys may have other owners. -/
  | ringChanged (added removed : List Address)
  /-- The membership layer is up. -/
  | ready
deriving DecidableEq

/-- A report of the membership layer. -/
inductive Event where
  /-- Status changes, in their order. -/
  | changes (batch : List Change)
  | announcement (content : Announcement)
deriving DecidableEq

/-- How the log shows an announcement. -/
def Announcement.description : Announcement → String
  | .ringChanged added removed =>
    "RingChanged \x7b added: " ++ Text.quotedList added ++ ", removed: " ++
      Text.quotedList removed ++ " \x7d"
  | .ready => "Ready"

/-- The status changes of an event; an announcement has none. -/
def Event.batch : Event → List Change
  | .changes batch => batch
  | .announcement _ => []

end KeyRoute
