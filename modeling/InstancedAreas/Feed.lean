/-! A feed of items that any number of readers follow at their own pace. A
reader sees what is published after it subscribed. The feed keeps a window of
the latest items; a reader that falls behind it is told once how many items it
missed and goes on with the oldest that is kept. -/
namespace InstancedAreas

/-- The number by which a reader is known, counted from zero. -/
abbrev ReaderId := Nat

/-- A feed: everything published so far, how many of the latest items are
kept, and the next position of each reader. -/
structure Feed (α : Type) where
  window : Nat
  history : Array α
  readers : List (ReaderId × Nat)
  joined : Nat

namespace Feed

variable {α : Type}

/-- A feed that keeps at least `capacity` items, and at least one: the window
is the next power of two. -/
def new (capacity : Nat) : Feed α := ⟨(max capacity 1).nextPowerOfTwo, #[], [], 0⟩

instance : Inhabited (Feed α) := ⟨new 1⟩

/-- Publishes an item. -/
def publish (feed : Feed α) (item : α) : Feed α :=
  { feed with history := feed.history.push item }

/-- Publishes the items of a list in order. -/
def publishAll (feed : Feed α) (items : List α) : Feed α := items.foldl publish feed

/-- Adds a reader that sees what is published from now on. -/
def subscribe (feed : Feed α) : Feed α × ReaderId :=
  ({ feed with
      readers := feed.readers ++ [(feed.joined, feed.history.size)]
      joined := feed.joined + 1 }, feed.joined)

/-- Takes a reader off the feed. -/
def unsubscribe (feed : Feed α) (reader : ReaderId) : Feed α :=
  { feed with readers := feed.readers.filter (·.1 != reader) }

/-- The number of readers. -/
def readerCount (feed : Feed α) : Nat := feed.readers.length

/-- The position of the oldest item that is kept. -/
def oldest (feed : Feed α) : Nat := feed.history.size - feed.window

/-- What a reader finds. -/
inductive Found (α : Type) where
  | item (value : α)
  | lagged (missed : Nat)
  | nothing
deriving DecidableEq

/-- Moves a reader to a position. -/
def move (feed : Feed α) (reader : ReaderId) (position : Nat) : Feed α :=
  { feed with
    readers := feed.readers.map fun r => if r.1 = reader then (r.1, position) else r }

/-- Reads the next item for a reader. -/
def read (feed : Feed α) (reader : ReaderId) : Feed α × Found α :=
  match feed.readers.lookup reader with
  | none => (feed, .nothing)
  | some position =>
    if position < feed.oldest then
      (feed.move reader feed.oldest, .lagged (feed.oldest - position))
    else
      match feed.history[position]? with
      | some value => (feed.move reader (position + 1), .item value)
      | none => (feed, .nothing)

/-- Reads so many times, or until a reader has caught up. -/
def readUpTo (reader : ReaderId) : Nat → Feed α → Feed α × List (Found α)
  | 0, feed => (feed, [])
  | count + 1, feed =>
    match feed.read reader with
    | (feed, .nothing) => (feed, [])
    | (feed, found) =>
      let (feed, rest) := readUpTo reader count feed
      (feed, found :: rest)

/-- Reads all that a reader has not seen. A gap takes one reading of its own,
so one more than the number of items is enough. -/
def drain (feed : Feed α) (reader : ReaderId) : Feed α × List (Found α) :=
  readUpTo reader (feed.history.size + 1) feed

end Feed

end InstancedAreas
