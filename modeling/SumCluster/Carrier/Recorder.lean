import SumCluster.Carrier.Basic

/-!
# The recorder

A carrier with a single endpoint that carries nothing: it writes down what is sent, fails where it
was told to, and hands over what was put into its inbox.
-/

namespace SumCluster

/-- The recorder. -/
structure Recorder where
  /-- What was sent, with the time, newest first. -/
  log : List (Int × Letter) := []
  /-- The failures of the next sends, by destination. -/
  faults : List (Address × ClusterError) := []
  /-- What is to be handed over, oldest first. -/
  inbox : List Arrival := []
  isClosed : Bool := false
  deriving Inhabited

namespace Recorder

/-- Writes down a letter. One that is to fail is written down too. -/
def send (recorder : Recorder) (now : Int) (letter : Letter) :
    Except ClusterError Unit × Recorder :=
  if recorder.isClosed then (.error .shutdown, recorder)
  else
    let recorder := { recorder with log := (now, letter) :: recorder.log }
    match recorder.faults.find? (·.1 == letter.destination) with
    | none => (.ok (), recorder)
    | some (_, error) =>
      (.error error,
        { recorder with faults := recorder.faults.eraseP (·.1 == letter.destination) })

/-- Puts something into the inbox. -/
def receive (recorder : Recorder) (arrival : Arrival) : Recorder :=
  { recorder with inbox := recorder.inbox ++ [arrival] }

/-- Lets the next sends to an address fail, in this order. -/
def failNext (recorder : Recorder) (destination : Address) (errors : List ClusterError) :
    Recorder :=
  { recorder with faults := recorder.faults ++ errors.map fun error => (destination, error) }

/-- Hands over the inbox, or the news that the recorder is closed. -/
def drain (recorder : Recorder) : List Arrival × Recorder :=
  if recorder.isClosed then ([.error .shutdown], recorder)
  else (recorder.inbox, { recorder with inbox := [] })

instance : Carrier Recorder where
  send recorder _ moment letter := recorder.send moment.now letter
  isReadable recorder _ := recorder.isClosed || !recorder.inbox.isEmpty
  drain recorder _ := recorder.drain
  close recorder _ := { recorder with isClosed := true }

end Recorder

end SumCluster
