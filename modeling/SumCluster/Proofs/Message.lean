import SumCluster.Message

/-!
# What messages carry

Four kinds of messages carry the state of their sender, as a sum with its number (`state?`), and two
acknowledge a number (`acknowledged?`).  What gets lost on the way (`Message.bare`) concerns
neither.
-/

namespace SumCluster.Message

/-- The state that a message carries. -/
def state? : Message → Option (Int64 × Seqn)
  | heartbeat _ sum seqn _ | stateUpdate _ sum seqn _ | victory _ sum seqn _
  | victoryAck _ sum seqn => some (sum, seqn)
  | _ => none

/-- The number that a message acknowledges. -/
def acknowledged? : Message → Option Seqn
  | stateAck _ seqn | victoryAck _ _ seqn => some seqn
  | _ => none

@[simp] theorem sender_bare (message : Message) : message.bare.sender = message.sender := by
  cases message <;> rfl

@[simp] theorem kind_bare (message : Message) : message.bare.kind = message.kind := by
  cases message <;> rfl

@[simp] theorem state?_bare (message : Message) : message.bare.state? = message.state? := by
  cases message <;> rfl

@[simp] theorem acknowledged?_bare (message : Message) :
    message.bare.acknowledged? = message.acknowledged? := by
  cases message <;> rfl

end SumCluster.Message
