/-
  ActivityLog.Query.Answer — answering requests and query texts.

  An answer is a set of values of one type, listed in the order of the type, or the
  statement that the text was no query. Its lines are the values in the wording of
  the log: texts as they are, times day first, events and statuses by their words.

  There is one route for every pair of different fields (`Route.all`). A route names
  the question to ask and which bounds of the period count for it: the users behind
  an address are looked up without the upper bound, everything else with both. A
  value of another type than the filter has finds nothing.

  A lookup of a field by itself is answered with no match, whatever its value. A
  filter value has to be read first: an event or status word that does not exist is an
  error, a date that is none finds nothing, with a warning. A text that is no query is
  answered with no match.
-/

import ActivityLog.Entry
import ActivityLog.Ordered
import ActivityLog.Query.Request
import ActivityLog.Store
import ActivityLog.Timestamp

namespace ActivityLog.Query

/-! ## Answers -/

inductive Output where
  /-- Addresses or users. -/
  | texts (values : SortedSet Text)
  | dates (values : SortedSet Timestamp)
  | events (values : SortedSet Event)
  | statuses (values : SortedSet Status)
  /-- The text was no query, or the query makes no sense. -/
  | noMatch
  deriving DecidableEq, Repr

namespace Output

def emptyFor : Field → Output
  | .ip | .user => .texts .empty
  | .date => .dates .empty
  | .event => .events .empty
  | .status => .statuses .empty

def size : Output → Nat
  | .texts values => values.size
  | .dates values => values.size
  | .events values => values.size
  | .statuses values => values.size
  | .noMatch => 0

def isEmpty (o : Output) : Bool := o.size == 0

/-- The name of the type of the values. -/
def kind : Output → Text
  | .texts _ => "strings".toList
  | .dates _ => "dates".toList
  | .events _ => "events".toList
  | .statuses _ => "statuses".toList
  | .noMatch => "no_match".toList

def lines : Output → List Text
  | .texts values => values.toList
  | .dates values => values.toList.map Timestamp.write
  | .events values => values.toList.map Event.token
  | .statuses values => values.toList.map Status.token
  | .noMatch => []

end Output

/-! ## Routes -/

inductive Accessor where
  | usersOfIp | datesOfIp | eventsOfIp | statusesOfIp
  | ipsOfUser | datesOfUser | eventsOfUser | statusesOfUser
  | ipsAt | usersAt | eventsAt | statusesAt
  | ipsOfEvent | usersOfEvent | datesOfEvent | statusesOfEvent
  | ipsOfStatus | usersOfStatus | datesOfStatus | eventsOfStatus
  deriving DecidableEq, Repr

/-- The bounds of a period that a route takes into account. -/
inductive Bounds where
  | both
  | afterOnly
  deriving DecidableEq, Repr

/-- The way to answer lookups of one target by one filter. -/
structure Route where
  target : Field
  filter : Field
  accessor : Accessor
  bounds : Bounds
  deriving DecidableEq, Repr

namespace Route

def all : List Route := [
  ⟨.user, .ip, .usersOfIp, .afterOnly⟩,
  ⟨.date, .ip, .datesOfIp, .both⟩,
  ⟨.event, .ip, .eventsOfIp, .both⟩,
  ⟨.status, .ip, .statusesOfIp, .both⟩,
  ⟨.ip, .user, .ipsOfUser, .both⟩,
  ⟨.date, .user, .datesOfUser, .both⟩,
  ⟨.event, .user, .eventsOfUser, .both⟩,
  ⟨.status, .user, .statusesOfUser, .both⟩,
  ⟨.ip, .date, .ipsAt, .both⟩,
  ⟨.user, .date, .usersAt, .both⟩,
  ⟨.event, .date, .eventsAt, .both⟩,
  ⟨.status, .date, .statusesAt, .both⟩,
  ⟨.ip, .event, .ipsOfEvent, .both⟩,
  ⟨.user, .event, .usersOfEvent, .both⟩,
  ⟨.date, .event, .datesOfEvent, .both⟩,
  ⟨.status, .event, .statusesOfEvent, .both⟩,
  ⟨.ip, .status, .ipsOfStatus, .both⟩,
  ⟨.user, .status, .usersOfStatus, .both⟩,
  ⟨.date, .status, .datesOfStatus, .both⟩,
  ⟨.event, .status, .eventsOfStatus, .both⟩]

/-- The route from the filter to the target; there is none from a field to itself. -/
def find? (target filter : Field) : Option Route :=
  all.find? fun r => r.target = target && r.filter = filter

/-- The part of the period that counts on this route. -/
def effective (r : Route) (p : Period) : Period :=
  match r.bounds with
  | .both => p
  | .afterOnly => p.dropUpper

end Route

/-! ## Following a route -/

inductive Operand where
  | text (value : Text)
  | date (value : Timestamp)
  | event (value : Event)
  | status (value : Status)
  deriving DecidableEq, Repr

def Route.follow (r : Route) (s : Store) (value : Operand) (period : Period) : Output :=
  let p := r.effective period
  match r.accessor, value with
  | .usersOfIp, .text ip => .texts (s.usersOfIp ip p)
  | .datesOfIp, .text ip => .dates (s.datesOfIp ip p)
  | .eventsOfIp, .text ip => .events (s.eventsOfIp ip p)
  | .statusesOfIp, .text ip => .statuses (s.statusesOfIp ip p)
  | .ipsOfUser, .text user => .texts (s.ipsOfUser user p)
  | .datesOfUser, .text user => .dates (s.datesOfUser user p)
  | .eventsOfUser, .text user => .events (s.eventsOfUser user p)
  | .statusesOfUser, .text user => .statuses (s.statusesOfUser user p)
  | .ipsAt, .date date => .texts (s.ipsAt date p)
  | .usersAt, .date date => .texts (s.usersAt date p)
  | .eventsAt, .date date => .events (s.eventsAt date p)
  | .statusesAt, .date date => .statuses (s.statusesAt date p)
  | .ipsOfEvent, .event event => .texts (s.ipsOfEvent event p)
  | .usersOfEvent, .event event => .texts (s.usersOfEvent event p)
  | .datesOfEvent, .event event => .dates (s.datesOfEvent event p)
  | .statusesOfEvent, .event event => .statuses (s.statusesOfEvent event p)
  | .ipsOfStatus, .status status => .texts (s.ipsOfStatus status p)
  | .usersOfStatus, .status status => .texts (s.usersOfStatus status p)
  | .datesOfStatus, .status status => .dates (s.datesOfStatus status p)
  | .eventsOfStatus, .status status => .events (s.eventsOfStatus status p)
  | _, _ => .emptyFor r.target

/-! ## Errors -/

inductive QueryError where
  | unknownEvent (word : Text)
  | unknownStatus (word : Text)
  deriving DecidableEq, Repr

def QueryError.message : QueryError → Text
  | .unknownEvent word => "unknown event ".toList ++ Text.quoted word
  | .unknownStatus word => "unknown status ".toList ++ Text.quoted word

/-! ## Requests -/

/-- All values of the field, whatever the time. -/
def valuesOf (s : Store) : Field → Output
  | .ip => .texts (s.ips .all)
  | .user => .texts s.users
  | .date => .dates s.dates
  | .event => .events (s.events .all)
  | .status => .statuses (s.statuses .all)

/-- The value of the filter field that the text stands for; none, with a warning, where a date
    is none. -/
def readOperand (filter : Field) (text : Text) : Noted (Except QueryError (Option Operand)) :=
  match filter with
  | .ip | .user => { value := .ok (some (.text text)) }
  | .date =>
    match Timestamp.read text with
    | .ok date => { value := .ok (some (.date date)) }
    | .error e => { value := .ok none, warnings := [.badDate e] }
  | .event =>
    match Event.read text with
    | .ok event => { value := .ok (some (.event event)) }
    | .error _ => { value := .error (.unknownEvent text) }
  | .status =>
    match Status.read text with
    | .ok status => { value := .ok (some (.status status)) }
    | .error _ => { value := .error (.unknownStatus text) }

def answerNoted (s : Store) : Request → Noted (Except QueryError Output)
  | .all field => { value := .ok (valuesOf s field) }
  | .lookup l =>
    match Route.find? l.target l.filter with
    | none => { value := .ok .noMatch }
    | some route =>
      let operand := readOperand l.filter l.value
      { value := operand.value.map fun
          | some value => route.follow s value (l.period.getD .all)
          | none => .emptyFor l.target
        warnings := operand.warnings }

def answer (s : Store) (request : Request) : Except QueryError Output := (answerNoted s request).value

/-! ## Query texts -/

/-- The answer to the query text, with the warnings given on the way: first those of its date
    clause, then those of its value. -/
def executeNoted (s : Store) (text : Text) : Noted (Except QueryError Output) :=
  match Request.readNoted? text with
  | none => { value := .ok .noMatch }
  | some request =>
    let result := answerNoted s request.value
    { result with warnings := request.warnings ++ result.warnings }

def execute (s : Store) (text : Text) : Except QueryError Output := (executeNoted s text).value

def warnings (s : Store) (text : Text) : List Warning := (executeNoted s text).warnings

end ActivityLog.Query
