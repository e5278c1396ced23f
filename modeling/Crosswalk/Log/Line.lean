import Crosswalk.Log.Filter
import Crosswalk.Log.Setup

/-!
# Log lines

The events that a filter admits, each on a line in one of the log formats.
-/

set_option autoImplicit false

namespace Crosswalk.Log

/-- An event in the log, and what its line shows beside it. -/
structure Line where
  event : Event
  format : Format
  threadIds : Bool
  sourceLocation : Bool

namespace Line

/-- The lines of events under a setup. -/
def ofEvents (setup : Setup) (events : List Event) : List Line :=
  let filter := Filter.ofText setup.level
  (events.filter filter.admits).map fun event =>
    ⟨event, setup.format, setup.threadIds, setup.sourceLocation⟩

/-- All work is reported from one thread. -/
def threadText : String :=
  "ThreadId(1)"

/-- The details of an event after its message. -/
def detailsText (event : Event) : String :=
  String.join (event.details.map fun (name, value) => " " ++ name ++ "=" ++ value.compact)

def toJson (stamp : String) (line : Line) : Json :=
  .object
    ([("timestamp", .string stamp), ("level", .string line.event.level.name),
        ("fields", .object line.event.fields), ("target", .string line.event.origin)]
      ++ (if line.threadIds then [("threadId", .string threadText)] else []))

/-- The text of a line at a time, which is given as a text. -/
def text (stamp : String) (line : Line) : String :=
  match line.format with
  | .json => (line.toJson stamp).compact
  | .compact | .full =>
    let level := line.event.level.name
    let thread := if line.threadIds then threadText ++ " " else ""
    stamp ++ " " ++ String.ofList (List.replicate (5 - level.length) ' ') ++ level ++ " "
      ++ thread ++ line.event.origin ++ ": " ++ line.event.message ++ detailsText line.event

end Line

end Crosswalk.Log
