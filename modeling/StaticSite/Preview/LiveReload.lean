/-!
# Live reload

Every rebuild is announced on a channel, and each browser that listens gets the announcements made
since it connected as a stream of events. The channel keeps the last announcements only. A browser
that has fallen behind goes on with the oldest that is kept, so that it still gets the latest.
-/

namespace StaticSite.LiveReload

/-- The number of announcements that the channel keeps. -/
def capacity : Nat := 16

/-- The channel on which rebuilds are announced. -/
structure Channel where
  /-- The number of announcements so far. -/
  sent : Nat
  /-- Whether there will be no more. -/
  closed : Bool
  deriving DecidableEq, Repr

/-- The channel after one more announcement. -/
def Channel.announce (channel : Channel) : Channel := { channel with sent := channel.sent + 1 }

/-- The channel after the last announcement. -/
def Channel.close (channel : Channel) : Channel := { channel with closed := true }

/-- One who listens to a channel. -/
structure Listener where
  /-- The number of announcements that are over for this listener. -/
  position : Nat
  deriving DecidableEq, Repr

/-- A new listener, who hears only what is announced from now on. -/
def Channel.subscribe (channel : Channel) : Listener := ⟨channel.sent⟩

/-- What a channel gives to a listener. -/
inductive Receipt where
  /-- The next announcement. -/
  | announcement
  /-- The news that some announcements are no longer kept. -/
  | lagged
  /-- Nothing yet. -/
  | empty
  /-- Nothing any more. -/
  | closed
  deriving DecidableEq, Repr

/-- What the channel gives next, and the listener after it. -/
def Channel.receive (channel : Channel) (listener : Listener) : Receipt × Listener :=
  if listener.position + capacity < channel.sent then (.lagged, ⟨channel.sent - capacity⟩)
  else if listener.position < channel.sent then (.announcement, ⟨listener.position + 1⟩)
  else if channel.closed then (.closed, listener)
  else (.empty, listener)

/-- What a stream of events does next. -/
inductive Step where
  /-- It delivers an event. -/
  | event
  /-- It waits. -/
  | waiting
  /-- It is over. -/
  | ended
  deriving DecidableEq, Repr

/-- The next step of the stream of a listener. It passes over the news that announcements were
dropped, after which there is always one to deliver. -/
def Channel.poll (channel : Channel) (listener : Listener) : Step × Listener :=
  let received :=
    match channel.receive listener with
    | (.lagged, listener) => channel.receive listener
    | received => received
  match received with
  | (.announcement, listener) => (.event, listener)
  | (.lagged, listener) => (.waiting, listener)
  | (.empty, listener) => (.waiting, listener)
  | (.closed, listener) => (.ended, listener)

/-- The events that the stream delivers before it waits or ends, at most the given number. -/
def Channel.drain (channel : Channel) : Nat → Listener → Nat × Listener
  | 0, listener => (0, listener)
  | n + 1, listener =>
    match channel.poll listener with
    | (.event, listener) =>
      let (events, listener) := drain channel n listener
      (events + 1, listener)
    | (_, listener) => (0, listener)

/-- An event as it is written on the stream. -/
def eventText : String := "event: reload\ndata: reload\n\n"

/-- The status of the answer to a browser. -/
def status : Nat := 200

/-- The type of the content of the answer. -/
def contentType : String := "text/event-stream"

/-- The text of the stream that a listener gets from now on. -/
def Channel.body (channel : Channel) (listener : Listener) : String :=
  String.join (List.replicate (channel.drain capacity listener).1 eventText)

end StaticSite.LiveReload
