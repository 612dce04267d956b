import Multicast.Session

/-!
# `Multicast.Table` — the sessions of a run

The table holds a bounded number of sessions in the order in which they were added. Sessions are
added all or nothing, and the table keeps count of the families that were resolved, which decides
what sockets a sender opens.

## Contents
- **Table.** `Table`, positions counted from either end, and the queries on it.
- **Adding.** `Table.add?`, `Table.addAll?` and `Table.addToken?`.
- **Resolving.** `Table.resolve`, `Table.resolveAll` and `Table.restart`.
- **Updating.** `Table.modify`, `Table.age` and `Table.clear`.
- **Building.** `Table.build`: from group tokens to resolved sessions.
- **Reporting.** `Table.statistics`.
-/

namespace Multicast

/-- A bounded list of sessions. -/
structure Table where
  capacity : Int := 2048
  sessions : List Session := []
  /-- How often an IPv4 session was resolved. -/
  need4 : Nat := 0
  /-- How often an IPv6 session was resolved. -/
  need6 : Nat := 0
deriving Repr, DecidableEq

namespace Table

/-- The group that a run without groups uses. -/
def defaultGroup : String := "225.1.2.3"

/-- The number of sessions. -/
def size (t : Table) : Nat := t.sessions.length

/-- The position that an index means; negative ones count from the end. -/
def position? (t : Table) (i : Int) : Option Nat :=
  let n := if i < 0 then i + t.size else i
  if 0 ≤ n ∧ n < t.size then some n.toNat else none

/-- The session at an index. -/
def get? (t : Table) (i : Int) : Option Session :=
  (t.position? i).bind fun k => t.sessions[k]?

/-- The packets of all sessions. -/
def total (t : Table) : Int := (t.sessions.map (·.count)).foldl (· + ·) 0

/-- The families that were resolved, IPv4 first. -/
def families (t : Table) : List Family :=
  (if t.need4 = 0 then [] else [.inet]) ++ if t.need6 = 0 then [] else [.inet6]

/-- Whether every session has reached the limit; a limit of zero is never reached. -/
def isComplete (t : Table) (limit : Int) : Bool :=
  limit ≠ 0 && t.sessions.all fun s => limit ≤ s.count

/-- The printed form of a table. -/
def describe (t : Table) : String :=
  let sessions := ", ".intercalate (t.sessions.map Session.describe)
  s!"SessionTable([{sessions}], capacity={t.capacity})"

/-! ## Adding -/

/-- Adds a session, and tells its index. -/
def add? (t : Table) (source : Option String) (group : String) : Except SetupError (Nat × Table) :=
  let s : Session := { source, group }
  if t.capacity ≤ t.size then .error (.tableFull s.label t.capacity)
  else .ok (t.size, { t with sessions := t.sessions ++ [s] })

/-- Adds a session for each pair, or none at all if they do not all fit; tells their indexes. -/
def addAll? (t : Table) (pairs : List Pair) : Except SetupError (List Nat × Table) :=
  if t.capacity < t.size + pairs.length then .error (.tooMany pairs.length t.capacity)
  else
    .ok ((List.range pairs.length).map (t.size + ·),
      { t with sessions := t.sessions ++ pairs.map fun (source, group) => { source, group } })

/-- The free slots. -/
def room (t : Table) : Int := t.capacity - t.size

/-- The pairs that a token adds. -/
def pairs (t : Table) (token : String) : Except Fault (List Pair) :=
  Token.expand token none (some t.room)

/-- Adds the sessions that a token stands for. -/
def addToken? (t : Table) (token : String) : Except Fault (List Nat × Table) :=
  match t.pairs token with
  | .error e => .error e
  | .ok ps =>
    match t.addAll? ps with
    | .error e => .error (.setup e)
    | .ok r => .ok r

/-! ## Resolving -/

/-- Counts a resolved session of a family. -/
def count (family : Family) (t : Table) : Table :=
  match family with
  | .inet => { t with need4 := t.need4 + 1 }
  | .inet6 => { t with need6 := t.need6 + 1 }

/-- Counts the family of a session that was resolved just now. -/
def countResolved (s : Session) (t : Table) : Table :=
  match s.target with
  | some target => t.count target.family
  | none => t

/-- Resolves the session at an index. -/
def resolve (t : Table) (i : Int) (port : Int) : Except Fault Table :=
  match t.position? i with
  | none => .error (.noSession i)
  | some k =>
    match t.sessions[k]? with
    | none => .error (.noSession i)
    | some s =>
      match s.resolve port with
      | .error e => .error (.setup e)
      | .ok s => .ok ({ t with sessions := t.sessions.set k s }.countResolved s)

/-- Resolves and restarts sessions in order, up to the first one that cannot be resolved. Returns
all sessions, those among them that were resolved, and the failure. -/
def resolveEach (port : Int) : List Session → List Session × List Session × Option SetupError
  | [] => ([], [], none)
  | s :: rest =>
    match s.resolve port with
    | .error e => (s :: rest, [], some e)
    | .ok resolved =>
      let (sessions, done, failure) := resolveEach port rest
      (resolved.restart :: sessions, resolved :: done, failure)

/-- Resolves and restarts all sessions; those in front of a failure stay resolved. -/
def resolveAll (t : Table) (port : Int) : Table × Option SetupError :=
  let (sessions, done, failure) := resolveEach port t.sessions
  (done.foldl (fun t s => t.countResolved s) { t with sessions }, failure)

/-- Restarts the session at an index; the history of one without a group is blanked nevertheless. -/
def restart (t : Table) (i : Int) : Table × Option Fault :=
  match t.position? i with
  | none => (t, some (.noSession i))
  | some k =>
    ({ t with sessions := t.sessions.modify k Session.restart },
      if t.sessions[k]?.any (·.group = "") then some .emptyGroup else none)

/-! ## Updating -/

/-- Changes the session at an index. -/
def modify? (t : Table) (i : Int) (f : Session → Session) : Except Fault Table :=
  match t.position? i with
  | none => .error (.noSession i)
  | some k => .ok { t with sessions := t.sessions.modify k f }

/-- Opens a new tick for every session. -/
def age (t : Table) : Table := { t with sessions := t.sessions.map Session.age }

/-- Drops all sessions. -/
def clear (t : Table) : Table := { t with sessions := [], need4 := 0, need6 := 0 }

/-! ## Building -/

/-- Adds the sessions of tokens in order. Returns the remarks on the pairs added, and the table or
the first failure. -/
def expandAll (t : Table) : List String → List String × Except Fault Table
  | [] => ([], .ok t)
  | token :: tokens =>
    match t.pairs token with
    | .error e => ([], .error e)
    | .ok ps =>
      match t.addAll? ps with
      | .error e => (ps.map Token.remark, .error (.setup e))
      | .ok (_, t) =>
        let (remarks, result) := t.expandAll tokens
        (ps.map Token.remark ++ remarks, result)

/-- The remark on a table that was built. -/
def summary (t : Table) : String :=
  s!"{t.size} sessions, {t.need4} IPv4 and {t.need6} IPv6"

/-- Builds a resolved table from group tokens, or from the default group if there are none. Returns
the remarks on the way as well. -/
def build (tokens : List String) (port : Int) (capacity : Int) :
    List String × Except Fault Table :=
  let tokens := if tokens = [] then [defaultGroup] else tokens
  match ({ capacity } : Table).expandAll tokens with
  | (remarks, .error e) => (remarks, .error e)
  | (remarks, .ok t) =>
    match t.resolveAll port with
    | (_, some e) => (remarks, .error (.setup e))
    | (t, none) => (remarks ++ [t.summary], .ok t)

/-! ## Reporting -/

/-- The line of a session in the final report, its group filled up to a width. -/
def statistic (width : Nat) (s : Session) : String :=
  s!"Group {Text.padRight width s.group} received {s.count} packets, gaps: {s.gaps}"

/-- The final report: a line for each session, and the total. -/
def statistics (t : Table) : List String :=
  let width := (t.sessions.map (Text.size ·.group)).foldl max 0
  t.sessions.map (statistic width) ++ [s!"\nReceived total: {t.total} packets"]

end Table

end Multicast
