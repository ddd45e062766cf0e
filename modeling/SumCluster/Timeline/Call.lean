import SumCluster.Timeline.Basic

/-!
# Calls

A user calls on a member, and things may happen at given times meanwhile. The call goes first when
it can go on, then the tasks in turn; when nothing can go on, the clock moves to the next instant at
which something can.
-/

namespace SumCluster

/-- What a user may ask for. -/
inductive Demand
  /-- To let time pass until an instant. -/
  | pause (wake : Int)
  /-- An activity of a member. -/
  | perform (member : Nat) (activity : Activity)
  deriving Inhabited

/-- Something that happens at an instant. -/
structure Event (C α : Type) where
  instant : Int
  act : Timeline C → α × Timeline C

/-- A call that is not over. -/
structure Call (C α : Type) where
  /-- What is left of the call, or what it ended with and when. -/
  progress : Progress Demand (Outcome × Int)
  /-- What is still to happen, in this order. -/
  events : List (Event C α)
  /-- What came of the events so far, the last first. -/
  noted : List α := []

namespace Call

variable {C α : Type} [Carrier C]

/-- A call that begins now; the times of the events count from now. -/
def start (timeline : Timeline C) (demand : Demand)
    (events : List (Nat × (Timeline C → α × Timeline C))) : Call C α where
  progress := .going demand
  events := events.map fun (wait, act) => ⟨Time.after timeline.now wait, act⟩

/-- When the call itself can go on. -/
def due? (timeline : Timeline C) (call : Call C α) : Option Int :=
  match call.progress with
  | .going (.pause wake) => some wake
  | .going (.perform member activity) => timeline.due? member activity
  | .done _ => none

/-- When the next event is due. -/
def nextEvent? (call : Call C α) : Option Int :=
  call.events.head?.map (·.instant)

/-- Goes on with what is left of a call. -/
def pursue (timeline : Timeline C) : Demand → Timeline C × Progress Demand Outcome
  | .pause wake => (timeline, if wake ≤ timeline.now then .done .nothing else .going (.pause wake))
  | .perform member activity =>
    let (timeline, progress) := timeline.advance member activity
    (timeline, progress.mapWork (.perform member))

/-- Goes on with the call itself, if it can. -/
def advance (timeline : Timeline C) (call : Call C α) : Timeline C × Call C α :=
  match call.progress with
  | .done _ => (timeline, call)
  | .going demand =>
    if timeline.hasCome (call.due? timeline) then
      let (timeline, progress) := pursue timeline demand
      (timeline, { call with progress := progress.mapResult fun result => (result, timeline.now) })
    else (timeline, call)

/-- Lets the due events happen, as far as their order allows. -/
def happen (timeline : Timeline C) (noted : List α) :
    List (Event C α) → Timeline C × List α × List (Event C α)
  | [] => (timeline, noted, [])
  | event :: rest =>
    if event.instant ≤ timeline.now then
      let (note, timeline) := event.act timeline
      happen timeline (note :: noted) rest
    else (timeline, noted, event :: rest)

/-- Goes on with the call, and then with the events. -/
def step (timeline : Timeline C) (call : Call C α) : Timeline C × Call C α :=
  let (timeline, call) := call.advance timeline
  let (timeline, noted, events) := happen timeline call.noted call.events
  (timeline, { call with noted, events })

/-- What a call came to. -/
structure Report (C α : Type) where
  timeline : Timeline C
  outcome : Outcome
  /-- When the call ended; events may have come later. -/
  ended : Int
  /-- What came of the events, in order. -/
  noted : List α

/-- The report of a call that is over, with all its events. -/
def report? (timeline : Timeline C) (call : Call C α) : Option (Report C α) :=
  match call.progress, call.events with
  | .done (outcome, ended), [] => some ⟨timeline, outcome, ended, call.noted.reverse⟩
  | _, _ => none

/-- Lets a call go on until it is over, for a number of turns at most. There is no report if they do
not suffice, or if nothing can ever go on. -/
def run? (timeline : Timeline C) (call : Call C α) : (turns : Nat) → Option (Report C α)
  | 0 => none
  | turns + 1 =>
    match call.report? timeline with
    | some report => some report
    | none =>
      let next := earlier? (call.due? timeline) call.nextEvent?
      if timeline.hasCome next then
        let (timeline, call) := call.step timeline
        run? timeline call turns
      else
        match timeline.stepTask? with
        | some timeline => run? timeline call turns
        | none =>
          match earlier? next timeline.nextTask? with
          | none => none
          | some instant => run? (timeline.moveTo instant) call turns

end Call

end SumCluster
