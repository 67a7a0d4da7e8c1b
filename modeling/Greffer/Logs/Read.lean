import Mathlib
import Greffer.Docker.Containers
import Greffer.Python.Lines

/-! # Reading the logs of an instance

`instanceLogs` answers one request for log lines, and hands out the cursor that the next
request is to bring back.  Of a container's log the cursor is the timestamp of the last
line that was handed out, one for each service; of the deploy log it is a byte offset.

A cursor is opaque text to its caller: base64 of JSON.  Here it is the JSON value it
encodes, or `undecodable`.
-/
namespace Greffer.Logs
open Docker

def logTailDefault : Nat := 200
def logTailMax : Nat := 1000

/-- What a request can fail with. -/
inductive LogsError where
  | badCursor (text : String)
  | raised (e : Exn)
  deriving DecidableEq

/-- `clamp_tail`. -/
def clampTail (tail : PyValue) : Except Exn Nat :=
  match tail.toInt with
  | .ok n => .ok (max 1 (min (logTailMax : Int) n)).toNat
  | .error (.typeError _) | .error (.valueError _) => .ok logTailDefault
  | .error e => .error e

/-- At least one line may be handed out. -/
theorem clampTail_pos {tail : PyValue} {n : Nat} (h : clampTail tail = .ok n) : 0 < n := by
  unfold clampTail at h
  split at h
  · obtain rfl := Except.ok.inj h
    omega
  · obtain rfl := Except.ok.inj h
    decide
  · obtain rfl := Except.ok.inj h
    decide
  · cases h

/-! ## The cursor -/

/-- The text of a cursor. -/
inductive CursorText where
  /-- No base64, or no JSON in it. -/
  | undecodable
  | encodes (data : PyValue)

/-- What a valid cursor says. -/
structure Cursor where
  off : Option Nat
  positions : List (String × String)

/-- `_encode_cursor`. -/
def encodeCursor (payload : PyDict) : CursorText := .encodes (.dict payload)

/-- `data.get("v") == 1`. -/
def versionOne : Option PyValue → Bool
  | some (.int n) => n == 1
  | some (.bool b) => b
  | some (.float q) => q == 1
  | _ => false

/-- A field that is there and not null. -/
def field (data : PyDict) (key : String) : Option PyValue :=
  match data.get? key with
  | some .none => none
  | v => v

/-- An offset, if it is one. -/
def offsetOf : PyValue → Option Nat
  | .int (.ofNat n) => some n
  | _ => none

/-- The entries of a dict, if all of its values are texts. -/
def textEntries : PyDict → Option (List (String × String))
  | [] => some []
  | (key, .str s) :: rest => (textEntries rest).map ((key, s) :: ·)
  | _ :: _ => none

/-- The positions, if they are a dict from texts to texts. -/
def positionsOf : PyValue → Option (List (String × String))
  | .dict entries => textEntries entries
  | _ => none

/-- The fields of a cursor, each of its type. -/
def cursorFields (data : PyDict) : Except LogsError Cursor :=
  match (field data "off").map offsetOf with
  | some none => .error (.badCursor "bad offset")
  | off =>
    match field data "ts" with
    | some (.str _) | none =>
      match (field data "positions").map positionsOf with
      | some none => .error (.badCursor "bad positions")
      | positions => .ok ⟨off.join, positions.join.getD []⟩
    | some _ => .error (.badCursor "bad ts")

/-- `decode_cursor`. -/
def decodeCursor : Option CursorText → Except LogsError (Option Cursor)
  | none => .ok none
  | some .undecodable => .error (.badCursor "undecodable cursor")
  | some (.encodes (.dict data)) =>
    if versionOne (PyDict.get? data "v") then (cursorFields data).map some
    else .error (.badCursor "unsupported cursor")
  | some (.encodes _) => .error (.badCursor "unsupported cursor")

/-- The cursor of these positions. -/
def positionsCursor (positions : List (String × String)) : CursorText :=
  encodeCursor [("v", .int 1), ("positions", .dict (positions.map fun e => (e.1, .str e.2)))]

theorem positionsOf_dict (positions : List (String × String)) :
    positionsOf (.dict (positions.map fun e => (e.1, .str e.2))) = some positions := by
  unfold positionsOf
  induction positions with
  | nil => rfl
  | cons e rest ih => simp [textEntries, ih]

/-- **A cursor says what it was made of.** -/
theorem decodeCursor_positions (positions : List (String × String)) :
    decodeCursor (some (positionsCursor positions)) = .ok (some ⟨none, positions⟩) := by
  have hpositions := positionsOf_dict positions
  simp [decodeCursor, positionsCursor, encodeCursor, versionOne, cursorFields, field,
    PyDict.get?, hpositions, Except.map]

/-! ## One container -/

section Containers
variable (timestamp : String → Option Int)

/-- `_ts_to_unix`.  `timestamp` is what `datetime.fromisoformat` and its `timestamp()` make
of a date, if it is one. -/
def tsToUnix (ts : String) : Int :=
  let head := (partition '.' ts).1
  (timestamp (String.ofList (head.toList.reverse.dropWhile (· == 'Z')).reverse)).getD 0

/-- `_parse_container_lines`: the timestamps and the messages of an output. -/
def parseContainerLines (raw : String) : List (String × String) :=
  ((splitlines raw).filter (· != "")).map fun line =>
    let (ts, _, msg) := partition ' ' line
    (ts, msg)

/-- A line that is handed out. -/
structure LogLine where
  service : String
  ts : Option String
  msg : String
  deriving DecidableEq

/-- The service of a container, or its name. -/
def serviceName (container : Container) : String :=
  (nonEmpty (container.label "com.docker.compose.service")).getD container.name

/-- A container, and what the daemon answers to `logs`, with `since` and `tail`: its
output, or nothing when the call raises one of `_DOCKER_ERRORS`. -/
structure Source where
  container : Container
  logs : Option Int → Nat → Option String

def Source.service (source : Source) : String := serviceName source.container

/-- `sort(key=…)`, which keeps the order of lines with one timestamp. -/
def sortByTs (parsed : List (String × String)) : List (String × String) :=
  parsed.insertionSort fun p q => p.1 ≤ q.1

/-- `_read_one_container`: the lines after the cursor, the next cursor, and whether lines
were skipped. -/
def readOneContainer (source : Source) (sinceTs : Option String) (tail : Nat) :
    List LogLine × Option String × Bool :=
  let since := nonEmpty sinceTs
  let answer := match since with
    | some ts => source.logs (some (tsToUnix timestamp ts)) (tail + 1)
    | none => source.logs none tail
  match answer with
  | none => ([], sinceTs, false)
  | some raw =>
    let parsed := parseContainerLines raw
    let fresh := match since with
      | some ts => parsed.filter fun p => ts < p.1
      | none => parsed
    let sorted := sortByTs fresh
    let truncated := since.isSome && decide (tail < sorted.length)
    let kept := if truncated then sorted.drop (sorted.length - tail) else sorted
    let nextTs := (kept.getLast?.map Prod.fst).or sinceTs
    (kept.map fun p => ⟨source.service, some p.1, p.2⟩, nextTs, truncated)

/-! ## The deploy log -/

/-- `deploy.log`: not there, not readable, or its bytes. -/
inductive DeployLog where
  | absent
  | unreadable
  | content (bytes : List UInt8)

/-- The lines of `data.split(b"\n")[:-1]`: those that are ended. -/
def completeLines (line : List UInt8) : List UInt8 → List (List UInt8)
  | [] => []
  | b :: rest => if b = 10 then line :: completeLines [] rest else completeLines (line ++ [b]) rest

/-- `_read_deploy`: the lines, the next offset, whether the file was rotated, and whether
lines were left for the next poll.  `decode` is `decode("utf-8", errors="replace")`. -/
def readDeploy (decode : List UInt8 → String) (log : DeployLog) (sinceOff : Option Nat)
    (tail : Nat) : Option (List LogLine × Nat × Bool × Bool) :=
  match log with
  | .absent => none
  | .unreadable => some ([], sinceOff.getD 0, false, false)
  | .content bytes =>
    let off := sinceOff.getD 0
    let rotated := decide (bytes.length < off)
    let off := if rotated then 0 else off
    let rawLines := completeLines [] (bytes.drop off)
    let truncated := decide (tail < rawLines.length)
    let rawLines := if truncated then rawLines.take tail else rawLines
    let consumed := (rawLines.map fun b => b.length + 1).sum
    some (rawLines.map fun b => ⟨"deploy", none, decode b⟩, off + consumed, rotated, truncated)

/-! ## A request -/

inductive Stream where
  | container
  | all
  | deploy
  deriving DecidableEq

/-- What the host shows to a request. -/
structure Host where
  deployed : Bool
  /-- `list_instance_containers`. -/
  containers : Except Exn (List Source)
  deployLog : DeployLog

/-- The answer. -/
structure Response where
  instanceId : String
  stream : Stream
  lines : List LogLine
  nextCursor : Option CursorText
  rotated : Bool
  truncated : Bool

/-- What the loop over the containers has gathered. -/
structure Gathered where
  allLines : List LogLine := []
  newPositions : List (String × String) := []
  truncated : Bool := false

/-- One container more. -/
def Gathered.add (positions : List (String × String)) (tail : Nat) (g : Gathered)
    (source : Source) : Gathered :=
  let (lines, nextTs, trunc) :=
    readOneContainer timestamp source (positions.lookup source.service) tail
  { allLines := g.allLines ++ lines
    newPositions := match nonEmpty nextTs with
      | some ts => upsert g.newPositions source.service ts
      | none => g.newPositions
    truncated := g.truncated || trunc }

/-- The loop over the containers. -/
def gather (positions : List (String × String)) (tail : Nat) (sources : List Source) : Gathered :=
  sources.foldl (Gathered.add timestamp positions tail) {}

/-- The merge of the containers' lines. -/
def mergeLines (lines : List LogLine) : List LogLine :=
  lines.insertionSort fun a b => a.ts.getD "" ≤ b.ts.getD ""

/-- The selector: the containers of one service, or all. -/
def narrow (service : Option String) (containers : List Source) : List Source :=
  match service with
  | some name => containers.filter fun c => c.service == name
  | none => containers

/-- `instance_logs`. -/
def instanceLogs (decode : List UInt8 → String) (host : Host) (instanceId : String)
    (stream : Stream) (tail : PyValue) (since : Option CursorText) (service : Option String) :
    Except LogsError (Option Response) := do
  let tail ← (clampTail tail).mapError .raised
  let cursor ← decodeCursor since
  if stream = .deploy then
    match readDeploy decode host.deployLog (cursor.bind Cursor.off) tail with
    | none =>
      if host.deployed then
        return some ⟨instanceId, stream, [], since, false, false⟩
      return none
    | some (lines, nextOff, rotated, truncated) =>
      return some ⟨instanceId, stream, lines,
        some (encodeCursor [("v", .int 1), ("off", .int nextOff)]), rotated, truncated⟩
  if !host.deployed then
    return none
  let containers ← host.containers.mapError .raised
  let g := gather timestamp ((cursor.map Cursor.positions).getD []) tail (narrow service containers)
  let nextCursor := if g.newPositions.isEmpty then since else some (positionsCursor g.newPositions)
  return some ⟨instanceId, stream, mergeLines g.allLines, nextCursor, false, g.truncated⟩

end Containers

end Greffer.Logs
