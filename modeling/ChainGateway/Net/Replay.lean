import ChainGateway.Net.Network

/-!
# Answers given in advance

Whatever is decided here is a function of what the network answers.  `Network.replay` is a
network whose answers are given in advance, as a list.  The first document for which there is no
answer left is kept in `asked?`: whoever runs the function posts that document, adds what comes
back to the list and runs the function again, until it asks for nothing any more.
-/

namespace ChainGateway.Net

/-- The answers still to be given, and the first document that found none. -/
structure Tape where
  answers : List Delivery := []
  asked? : Option (String × Json.Value) := none

/-- The network that answers from a tape. -/
def Network.replay : Network Tape where
  post := fun tape url document =>
    match tape.answers with
    | answer :: answers => (answer, { tape with answers })
    | [] => (.unanswered, { tape with asked? := tape.asked?.or (some (url, document)) })

end ChainGateway.Net
