import ConsentBanner.Message

/-!
# Where messages go

A recorder keeps all messages that are sent to it.  A channel passes them on until its receiving end
is closed; what is sent after that is lost.
-/

set_option autoImplicit false

namespace ConsentBanner

/-- Keeps messages. -/
structure Recorder where
  messages : List Outbound

namespace Recorder

def empty : Recorder := ⟨[]⟩

def send (recorder : Recorder) (message : Outbound) : Recorder := ⟨recorder.messages ++ [message]⟩

def kinds (recorder : Recorder) : List String := recorder.messages.map Outbound.kind

def count (recorder : Recorder) (kind : String) : Nat := recorder.kinds.count kind

/-- All messages, none of which stays. -/
def take (recorder : Recorder) : List Outbound × Recorder := (recorder.messages, empty)

end Recorder

/-- Passes messages on. -/
structure Channel where
  waiting : List Outbound
  isOpen : Bool

namespace Channel

def fresh : Channel := ⟨[], true⟩

def send (channel : Channel) (message : Outbound) : Channel :=
  if channel.isOpen then { channel with waiting := channel.waiting ++ [message] } else channel

/-- Closes the receiving end.  What was sent before can still be received. -/
def close (channel : Channel) : Channel := { channel with isOpen := false }

/-- Receives the next message, if there is one. -/
def receive? (channel : Channel) : Option (Outbound × Channel) :=
  match channel.waiting with
  | [] => none
  | message :: rest => some (message, { channel with waiting := rest })

end Channel

end ConsentBanner
