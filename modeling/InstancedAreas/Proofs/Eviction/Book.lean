import InstancedAreas.Eviction.Relocator

/-! What happens at a channel of eviction notices, kept in a book. The book alone says how
many notices wait and what the next answer has to be, and a channel always stands as its book
says: nothing is lost or put out of order while it is open, and a notice is refused exactly
when there is no room or nobody to receive it. -/
namespace InstancedAreas

namespace Eviction.Channel

/-- What happens at a channel. -/
inductive Dealing where
  /-- A notice is offered and answered. -/
  | answered (notice : Eviction) (reply : Reply)
  /-- The receiver takes a notice. -/
  | received (notice : Eviction)
  /-- The receiver closes the channel. -/
  | closed
deriving DecidableEq

/-- All that has happened at a channel, in order. -/
abbrev Book := List Dealing

namespace Book

/-- The notices that were offered. -/
def offered (book : Book) : List Eviction :=
  book.filterMap fun
    | .answered notice _ => some notice
    | _ => none

/-- The notices that were accepted. -/
def accepted (book : Book) : List Eviction :=
  book.filterMap fun
    | .answered notice (.accepted _) => some notice
    | _ => none

/-- The notices that were refused. -/
def refused (book : Book) : List Eviction :=
  book.filterMap fun
    | .answered notice (.refused _) => some notice
    | _ => none

/-- The notices that were received. -/
def received (book : Book) : List Eviction :=
  book.filterMap fun
    | .received notice => some notice
    | _ => none

/-- The answer that a notice must get at a channel of a size: it is refused once the receiver
has closed the channel, or where as many notices as there is room for were accepted and not
received, and otherwise accepted at once. -/
def reply (book : Book) (size : Nat) (notice : Eviction) : Reply :=
  if .closed ∈ book then .refused (.receiverGone notice.player)
  else if book.accepted.length = book.received.length + size then
    .refused (.channelFull notice.player)
  else .accepted 0

/-- Every notice got the answer that what had happened before asks for. -/
def Answered (book : Book) (size : Nat) : Prop :=
  ∀ before notice reply rest, book = before ++ .answered notice reply :: rest →
    reply = Book.reply before size notice

variable {book more : Book} {size : Nat} {notice : Eviction}

@[simp]
theorem offered_append : offered (book ++ more) = offered book ++ offered more :=
  List.filterMap_append

@[simp]
theorem accepted_append : accepted (book ++ more) = accepted book ++ accepted more :=
  List.filterMap_append

@[simp]
theorem refused_append : refused (book ++ more) = refused book ++ refused more :=
  List.filterMap_append

@[simp]
theorem received_append : received (book ++ more) = received book ++ received more :=
  List.filterMap_append

/-- Of one more dealing only a notice that is offered needs an answer. -/
theorem Answered.concat (answered : book.Answered size) {dealing : Dealing}
    (last : ∀ notice reply, dealing = .answered notice reply → reply = book.reply size notice) :
    (book ++ [dealing]).Answered size := by
  intro before notice reply rest split
  rcases List.eq_nil_or_concat rest with rfl | ⟨earlier, final, rfl⟩
  · obtain ⟨rfl, same⟩ := List.append_inj' split rfl
    exact last notice reply (List.singleton_inj.mp same)
  · have parted : book ++ [dealing] = (before ++ .answered notice reply :: earlier) ++ [final] := by
      simpa using split
    exact answered before notice reply earlier (List.append_inj' parted rfl).1

end Book

/-- A channel of a size stands as its book says. -/
structure Balanced (size : Nat) (book : Book) (channel : Channel) : Prop where
  sized : channel.size = size
  isOpen_iff : channel.isOpen = true ↔ .closed ∉ book
  within : channel.waiting.length ≤ size
  emptied : channel.isOpen = false → channel.waiting = []
  received_prefix : book.received <+: book.accepted
  /-- What was received, and then what waits, is what was accepted. -/
  conserved : channel.isOpen = true → book.received ++ channel.waiting = book.accepted
  answered : book.Answered size

/-- What a receiver may do. -/
inductive Reception where
  | take
  | drain
  | close
deriving DecidableEq

/-- A channel after its receiver has done something, and what happened. -/
def meet (channel : Channel) : Reception → Channel × Book
  | .take =>
    match channel.take with
    | none => (channel, [])
    | some (notice, after) => (after, [.received notice])
  | .drain => (channel.drain.2, channel.drain.1.map .received)
  | .close => (channel.close, [.closed])

namespace Balanced

variable {size : Nat} {book : Book} {channel : Channel}

theorem new (size : Nat) : Balanced (max size 1) [] (.new size) where
  sized := rfl
  isOpen_iff := by simp [Channel.new]
  within := Nat.zero_le _
  emptied := nofun
  received_prefix := List.prefix_refl _
  conserved _ := rfl
  answered := by simp [Book.Answered]

/-- The receiver takes the oldest notice that waits. -/
theorem receive (balanced : Balanced size book channel) {notice : Eviction}
    {rest : List Eviction} (waiting : channel.waiting = notice :: rest) :
    Balanced size (book ++ [.received notice]) { channel with waiting := rest } := by
  have isOpen : channel.isOpen = true := by
    cases shut : channel.isOpen with
    | true => rfl
    | false => simp [balanced.emptied shut] at waiting
  have conserved := balanced.conserved isOpen
  rw [waiting] at conserved
  exact {
    sized := balanced.sized
    isOpen_iff := by simpa using balanced.isOpen_iff
    within := by
      have within := balanced.within
      rw [waiting, List.length_cons] at within
      exact Nat.le_of_succ_le within
    emptied := fun shut => absurd isOpen (by simp [show channel.isOpen = false from shut])
    received_prefix := ⟨rest, by simpa [Book.received, Book.accepted] using conserved⟩
    conserved := fun _ => by simpa [Book.received, Book.accepted] using conserved
    answered := balanced.answered.concat nofun }

/-- The receiver takes all that waits, one notice after the other. -/
theorem drain (balanced : Balanced size book channel) :
    Balanced size (book ++ channel.waiting.map .received) { channel with waiting := [] } := by
  generalize waits : channel.waiting = waiting
  induction waiting generalizing book channel with
  | nil =>
    have same : { channel with waiting := [] } = channel := by rw [← waits]
    simpa [same] using balanced
  | cons notice rest ih =>
    have onward := ih (balanced.receive waits) rfl
    rwa [List.append_assoc] at onward

/-- The receiver closes the channel, and what waits is lost. -/
theorem close (balanced : Balanced size book channel) :
    Balanced size (book ++ [.closed]) channel.close where
  sized := balanced.sized
  isOpen_iff := by simp [Channel.close]
  within := Nat.zero_le _
  emptied _ := rfl
  received_prefix := by simpa [Book.received, Book.accepted] using balanced.received_prefix
  conserved := nofun
  answered := balanced.answered.concat nofun

/-- Whatever the receiver does, the channel stands as the book says. -/
theorem meet (balanced : Balanced size book channel) (act : Reception) :
    Balanced size (book ++ (channel.meet act).2) (channel.meet act).1 := by
  cases act with
  | take =>
    simp only [Channel.meet, Channel.take]
    cases waits : channel.waiting with
    | nil => simpa using balanced
    | cons notice rest => exact balanced.receive waits
  | drain => exact balanced.drain
  | close => exact balanced.close

/-- As many notices wait as were accepted and not received. -/
theorem length_waiting (balanced : Balanced size book channel) (isOpen : channel.isOpen = true) :
    book.accepted.length = book.received.length + channel.waiting.length := by
  rw [← balanced.conserved isOpen, List.length_append]

/-- A notice that is refused leaves the channel as it was. -/
theorem refuse (balanced : Balanced size book channel) {notice : Eviction} {error : EvictionError}
    (due : book.reply size notice = .refused error) :
    Balanced size (book ++ [.answered notice (.refused error)]) channel where
  sized := balanced.sized
  isOpen_iff := by simpa using balanced.isOpen_iff
  within := balanced.within
  emptied := balanced.emptied
  received_prefix := by simpa [Book.received, Book.accepted] using balanced.received_prefix
  conserved isOpen := by simpa [Book.received, Book.accepted] using balanced.conserved isOpen
  answered := balanced.answered.concat fun _ _ same => by
    cases same
    exact due.symm

/-- A notice that is accepted waits behind the others. -/
theorem accept (balanced : Balanced size book channel) {notice : Eviction}
    (isOpen : channel.isOpen = true) (room : channel.waiting.length < size)
    (due : book.reply size notice = .accepted 0) :
    Balanced size (book ++ [.answered notice (.accepted 0)])
      { channel with waiting := channel.waiting ++ [notice] } where
  sized := balanced.sized
  isOpen_iff := by simpa using balanced.isOpen_iff
  within := by
    rw [List.length_append, List.length_singleton]
    exact room
  emptied shut := absurd isOpen (by simp [show channel.isOpen = false from shut])
  received_prefix := by
    simpa [Book.received] using balanced.received_prefix.trans (List.prefix_append ..)
  conserved _ := by
    simp only [Book.received_append, Book.accepted_append, ← balanced.conserved isOpen]
    simp [Book.received, Book.accepted]
  answered := balanced.answered.concat fun _ _ same => by
    cases same
    exact due.symm

/-- A notice that is offered gets the answer that the book asks for. -/
theorem offer (balanced : Balanced size book channel) (notice : Eviction) :
    ∃ after, (Relocator.channel channel).take notice =
        (.channel after, book.reply size notice) ∧
      Balanced size (book ++ [.answered notice (book.reply size notice)]) after := by
  cases isOpen : channel.isOpen with
  | false =>
    have shut : .closed ∈ book := by simpa [isOpen] using balanced.isOpen_iff
    have due : book.reply size notice = .refused (.receiverGone notice.player) := by
      simp [Book.reply, shut]
    rw [due]
    exact ⟨channel, by simp [Relocator.take, Channel.offer, isOpen], balanced.refuse due⟩
  | true =>
    have unshut : .closed ∉ book := balanced.isOpen_iff.mp isOpen
    have count := balanced.length_waiting isOpen
    by_cases full : size ≤ channel.waiting.length
    · have all : channel.waiting.length = size := Nat.le_antisymm balanced.within full
      have due : book.reply size notice = .refused (.channelFull notice.player) := by
        simp [Book.reply, unshut, count, all]
      rw [due]
      exact ⟨channel, by simp [Relocator.take, Channel.offer, isOpen, balanced.sized, full],
        balanced.refuse due⟩
    · have room : channel.waiting.length < size := Nat.not_le.mp full
      have due : book.reply size notice = .accepted 0 := by
        simp [Book.reply, unshut, count, Nat.ne_of_lt room]
      rw [due]
      exact ⟨_, by simp [Relocator.take, Channel.offer, isOpen, balanced.sized, full],
        balanced.accept isOpen room due⟩

end Balanced

end Eviction.Channel

namespace Relocator

open Eviction.Channel (Book Reception)

/-- The notices that wait for a receiver. -/
def waiting : Relocator → List Eviction
  | .channel held => held.waiting
  | _ => []

/-- What happens when notices are handed over one after the other. -/
def dealings : Relocator → List Eviction → Book
  | _, [] => []
  | relocator, notice :: rest =>
    .answered notice (relocator.take notice).2 :: dealings (relocator.take notice).1 rest

/-- A relocator after the receiver of its channel has done something, and what happened. -/
def meet : Relocator → Reception → Relocator × Book
  | .channel held, act => (.channel (held.meet act).1, (held.meet act).2)
  | other, _ => (other, [])

/-- A relocator to which notices are handed over while the receiver is busy: each thing that
it does comes after so many more notices. Yields the number of failures and what happened. -/
def handOver (patience : Duration) :
    Relocator → List Eviction → List (Nat × Reception) → Relocator × Nat × Book
  | relocator, notices, [] =>
    ((relocator.takeAll patience notices).1, (relocator.takeAll patience notices).2,
      relocator.dealings notices)
  | relocator, notices, next :: later =>
    let first := relocator.takeAll patience (notices.take next.1)
    let met := first.1.meet next.2
    let rest := handOver patience met.1 (notices.drop next.1) later
    (rest.1, first.2 + rest.2.1, relocator.dealings (notices.take next.1) ++ met.2 ++ rest.2.2)

/-- A relocator is a channel of a size that stands as its book says. -/
def Balanced (size : Nat) (book : Book) (relocator : Relocator) : Prop :=
  ∃ channel, relocator = .channel channel ∧ channel.Balanced size book

variable {size : Nat} {book : Book} {relocator : Relocator}

theorem offered_dealings (relocator : Relocator) (notices : List Eviction) :
    Book.offered (relocator.dealings notices) = notices := by
  induction notices generalizing relocator with
  | nil => rfl
  | cons notice rest ih =>
    exact congrArg (notice :: ·) (ih (relocator.take notice).1)

/-- A receiver offers no notice and refuses none. -/
theorem no_answer_meet (relocator : Relocator) (act : Reception) :
    Book.offered (relocator.meet act).2 = [] ∧ Book.refused (relocator.meet act).2 = [] := by
  cases relocator with
  | none | layer => exact ⟨rfl, rfl⟩
  | channel held =>
    cases act with
    | take =>
      simp only [meet, Eviction.Channel.meet]
      split <;> exact ⟨rfl, rfl⟩
    | drain => simp [meet, Eviction.Channel.meet, Book.offered, Book.refused]
    | close => exact ⟨rfl, rfl⟩

/-- All notices are offered, in order, whatever the receiver does meanwhile. -/
theorem offered_handOver (patience : Duration) (relocator : Relocator) (notices : List Eviction)
    (meanwhile : List (Nat × Reception)) :
    Book.offered (relocator.handOver patience notices meanwhile).2.2 = notices := by
  induction meanwhile generalizing relocator notices with
  | nil => exact offered_dealings relocator notices
  | cons next later ih =>
    simp only [handOver, Book.offered_append, offered_dealings, ih, (no_answer_meet _ _).1,
      List.append_nil, List.take_append_drop]

theorem Balanced.meet (balanced : relocator.Balanced size book) (act : Reception) :
    (relocator.meet act).1.Balanced size (book ++ (relocator.meet act).2) := by
  obtain ⟨channel, rfl, balanced⟩ := balanced
  exact ⟨_, rfl, balanced.meet act⟩

/-- Notices that are handed over to a channel fail where they are refused. -/
theorem Balanced.takeAll (balanced : relocator.Balanced size book) (patience : Duration)
    (notices : List Eviction) :
    (relocator.takeAll patience notices).1.Balanced size (book ++ relocator.dealings notices) ∧
      (relocator.takeAll patience notices).2 =
        (Book.refused (relocator.dealings notices)).length := by
  induction notices generalizing relocator book with
  | nil => exact ⟨by simpa [Relocator.takeAll, dealings] using balanced, rfl⟩
  | cons notice rest ih =>
    obtain ⟨channel, rfl, stands⟩ := balanced
    obtain ⟨after, taken, next⟩ := stands.offer notice
    obtain ⟨last, failures⟩ := ih ⟨after, rfl, next⟩
    simp only [Relocator.takeAll, dealings, taken]
    refine ⟨by simpa using last, ?_⟩
    -- A channel answers at once, so no patience is too short.
    have settled : (if ((book.reply size notice).settle patience).accepted then 0 else 1) =
        (Book.refused [.answered notice (book.reply size notice)]).length := by
      unfold Book.reply
      split
      · rfl
      · split
        · rfl
        · simp [Reply.settle, Book.refused]
    rw [failures, settled, ← List.length_append, ← Book.refused_append, List.singleton_append]

/-- The same while the receiver is busy. -/
theorem Balanced.handOver (balanced : relocator.Balanced size book) (patience : Duration)
    (notices : List Eviction) (meanwhile : List (Nat × Reception)) :
    let outcome := relocator.handOver patience notices meanwhile
    outcome.1.Balanced size (book ++ outcome.2.2) ∧
      outcome.2.1 = (Book.refused outcome.2.2).length := by
  induction meanwhile generalizing relocator book notices with
  | nil => exact balanced.takeAll patience notices
  | cons next later ih =>
    obtain ⟨first, failures⟩ := balanced.takeAll patience (notices.take next.1)
    obtain ⟨last, more⟩ := ih (first.meet next.2) (notices.drop next.1)
    refine ⟨by simpa only [Relocator.handOver, List.append_assoc] using last, ?_⟩
    simp only [Relocator.handOver, Book.refused_append, (no_answer_meet _ _).2, List.append_nil,
      List.length_append, failures, more]

end Relocator

end InstancedAreas
