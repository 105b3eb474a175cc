import MeetingPlatform.Lib.Admission
import MeetingPlatform.Lib.Spans

/- What the face events of one person tell of a meeting: when the person was in the room. The loop over
   the events is as the service has it, with the enter that is open and the cluster of sightings that
   grows. -/
namespace FacePresence
open TimeSpans Admissions

section Types

structure RawEvt where
  eventTime : Int
  direction : Option String
  deriving DecidableEq, Repr

inductive PresenceMethod where
  | interval | approx
  deriving DecidableEq, Repr

inductive SegmentSource where
  | interval | cluster
  deriving DecidableEq, Repr

structure PresenceSegment where
  start : Int
  stop : Int
  source : SegmentSource
  deriving DecidableEq, Repr

def PresenceSegment.span (s : PresenceSegment) : Span Int := ⟨s.start, s.stop⟩

structure SessionResult where
  segments : List PresenceSegment
  durationMs : Int
  method : PresenceMethod
  firstAt : Option Int
  lastAt : Option Int
  deriving DecidableEq, Repr

structure Bound where
  startMs : Int
  endMs : Int
  status : String
  deriving DecidableEq, Repr

def Bound.span (b : Bound) : Span Int := ⟨b.startMs, b.endMs⟩

end Types

section Loop

/-- `gapMs`, the bound and the clock of a call of `buildSession`. -/
structure Reading where
  bound : Bound
  gapMs : Int
  now : Int
  deriving DecidableEq, Repr

structure Loop where
  raw : List PresenceSegment := []
  method : PresenceMethod := .interval
  openEnter : Option Int := none
  clusterStart : Option Int := none
  clusterLast : Option Int := none
  lastActivity : Int := 0
  deriving DecidableEq, Repr

variable (r : Reading)

/-- A cluster of a single instant is taken to last for one gap. -/
def clusterEnd (clusterStart clusterLast : Int) : Int :=
  if clusterStart = clusterLast then min (clusterStart + r.gapMs) r.bound.endMs else clusterLast

def Loop.flushCluster (l : Loop) : Loop :=
  match l.clusterStart, l.clusterLast with
  | some clusterStart, some clusterLast =>
    { l with
      raw := l.raw ++ [⟨clusterStart, clusterEnd r clusterStart clusterLast, .cluster⟩]
      method := .approx
      clusterStart := none
      clusterLast := none }
  | _, _ => l

def Loop.addToCluster (l : Loop) (t : Int) : Loop :=
  match l.clusterStart with
  | none =>
    { l with
      clusterStart := some t
      clusterLast := some t }
  | some _ =>
    if t - l.clusterLast.getD 0 ≤ r.gapMs then { l with clusterLast := some t }
    else
      { l.flushCluster r with
        clusterStart := some t
        clusterLast := some t }

/-- An enter that is followed by another one is closed after one gap at the latest. -/
def Loop.enter (l : Loop) (t : Int) : Loop :=
  let flushed := l.flushCluster r
  match flushed.openEnter with
  | some openEnter =>
    { flushed with
      raw := flushed.raw ++ [⟨openEnter, max (min t (openEnter + r.gapMs)) openEnter, .interval⟩]
      method := .approx
      openEnter := some t }
  | none => { flushed with openEnter := some t }

def Loop.leave (l : Loop) (t : Int) : Loop :=
  match l.openEnter with
  | some openEnter =>
    let flushed := l.flushCluster r
    { flushed with
      raw := flushed.raw ++ [⟨openEnter, max t openEnter, .interval⟩]
      openEnter := none }
  | none => { l.addToCluster r t with method := .approx }

def Loop.seen (l : Loop) (t : Int) : Loop :=
  match l.openEnter with
  | some _ => l
  | none => l.addToCluster r t

def Loop.step (l : Loop) (e : RawEvt) : Loop :=
  let active := { l with lastActivity := e.eventTime }
  if e.direction = some "enter" then active.enter r e.eventTime
  else if e.direction = some "leave" then active.leave r e.eventTime
  else active.seen r e.eventTime

/-- Until when an enter lasts that nothing closes. -/
def Reading.endOrNow (r : Reading) : Int :=
  if r.bound.status ≠ "in_progress" then r.bound.endMs else min r.now r.bound.endMs

def Loop.close (l : Loop) : Loop :=
  let flushed := l.flushCluster r
  match flushed.openEnter with
  | some openEnter =>
    { flushed with
      raw := flushed.raw ++
        [⟨openEnter, max (min r.endOrNow (flushed.lastActivity + r.gapMs)) openEnter, .interval⟩] }
  | none => flushed

end Loop

section Session
variable (r : Reading)

def RawEvt.key (e : RawEvt) : Int × String := (e.eventTime, e.direction.getD "")

def inOrder (events : List RawEvt) : List RawEvt :=
  (fresh RawEvt.key [] events).insertionSort fun a b => a.eventTime ≤ b.eventTime

def PresenceSegment.clip (bound : Bound) (s : PresenceSegment) : PresenceSegment :=
  ⟨max s.start bound.startMs, min s.stop bound.endMs, s.source⟩

def clippedSegments (bound : Bound) (raw : List PresenceSegment) : List PresenceSegment :=
  (raw.map (PresenceSegment.clip bound)).filter fun s => s.start < s.stop

def durationOf (segments : List PresenceSegment) : Int := (segments.map fun s => s.stop - s.start).sum

def buildSession (events : List RawEvt) : SessionResult :=
  match inOrder events with
  | [] => ⟨[], 0, .approx, none, none⟩
  | first :: rest =>
    let loop := ((first :: rest).foldl (Loop.step r) {}).close r
    let segments := clippedSegments r.bound loop.raw
    let span := max 0 (min loop.lastActivity r.bound.endMs - max first.eventTime r.bound.startMs)
    { segments := segments
      durationMs := if segments = [] then span else durationOf segments
      method := if segments = [] then .approx else loop.method
      firstAt := some first.eventTime
      lastAt := some loop.lastActivity }

def absentGaps (segments : List PresenceSegment) (bound : Bound) : List (Span Int) :=
  gaps bound.endMs bound.startMs
    ((segments.map PresenceSegment.span).insertionSort fun a b => a.start ≤ b.start)

end Session

end FacePresence
