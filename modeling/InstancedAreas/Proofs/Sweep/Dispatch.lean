import InstancedAreas.Proofs.Eviction.Book
import InstancedAreas.Proofs.Sweep.Exactness

/-! Eviction notices on their way from sweeps through a channel. Operations on the live
instances, sweeps among them, alternate with what the receiver does, who may also be busy in
the middle of a sweep. Sweeps end what is due whether or not there is room for the notices, and
account for each notice that is refused. -/
namespace InstancedAreas

open Eviction.Channel (Book Reception)

/-- The notices that an operation hands over, of those it has gathered. -/
def Registry.noticesOf (r : Registry) (now : Instant) : Operation → List Eviction
  | .sweep => (r.reclaimDue now).notices
  | .cutSweep point => point.handed (r.reclaimUntil now point).notices
  | _ => []

/-- The live instances, the relocator that takes the notices of sweeps, and the book of what
has happened to notices. -/
structure Dispatch where
  registry : Registry
  relocator : Relocator
  book : Book

namespace Dispatch

/-- Something that happens to live instances or to notices. -/
inductive Step where
  /-- An operation, and what the receiver does meanwhile, each after so many more notices. -/
  | operate (now : Instant) (op : Operation) (meanwhile : List (Nat × Reception))
  | receive (act : Reception)

/-- Nothing is live, and a channel for so many notices is open. -/
def start (templates : List Template) (buffer size : Nat) : Dispatch :=
  ⟨.ofTemplates templates buffer, .channel (.new size), []⟩

/-- What a step leads to. -/
def step (patience : Duration) (d : Dispatch) : Step → Dispatch
  | .operate now op meanwhile =>
    let outcome := d.relocator.handOver patience (d.registry.noticesOf now op) meanwhile
    ⟨d.registry.perform now op, outcome.1, d.book ++ outcome.2.2⟩
  | .receive act => { d with
      relocator := (d.relocator.meet act).1
      book := d.book ++ (d.relocator.meet act).2 }

/-- What steps lead to. -/
def after (patience : Duration) (d : Dispatch) (steps : List Step) : Dispatch :=
  steps.foldl (step patience) d

/-- The report of a complete sweep. -/
def report (patience : Duration) (d : Dispatch) (now : Instant)
    (meanwhile : List (Nat × Reception)) : SweepReport :=
  let harvest := d.registry.reclaimDue now
  harvest.report (d.relocator.handOver patience harvest.notices meanwhile).2.1

/-- The operations among some steps. -/
def operations (steps : List Step) : Run :=
  steps.filterMap fun
    | .operate now op _ => some (now, op)
    | .receive _ => none

variable {patience : Duration} {d : Dispatch} {size : Nat}

/-- What becomes of notices makes no difference to the live instances. -/
theorem registry_after (patience : Duration) (d : Dispatch) (steps : List Step) :
    (d.after patience steps).registry = d.registry.after (operations steps) := by
  induction steps generalizing d with
  | nil => rfl
  | cons first rest ih =>
    cases first with
    | operate now op meanwhile => exact ih (d.step patience (.operate now op meanwhile))
    | receive act => exact ih (d.step patience (.receive act))

/-- Every step leaves the channel as the book says. -/
theorem step_balanced (balanced : d.relocator.Balanced size d.book) (patience : Duration)
    (s : Step) : (d.step patience s).relocator.Balanced size (d.step patience s).book := by
  cases s with
  | operate now op meanwhile => exact (balanced.handOver patience _ meanwhile).1
  | receive act => exact balanced.meet act

/-- After any steps the channel is as the book says. -/
theorem after_balanced (balanced : d.relocator.Balanced size d.book) (patience : Duration)
    (steps : List Step) :
    (d.after patience steps).relocator.Balanced size (d.after patience steps).book := by
  induction steps generalizing d with
  | nil => exact balanced
  | cons first rest ih => exact ih (step_balanced balanced patience first)

/-- Operations, sweeps, and whatever the receiver of a channel does, in any order: what has
been received is at any time a first part of what has been accepted, and while the channel is
open the notices that wait are the rest. Each notice was refused exactly if the channel had
been closed, or if as many as the channel holds had been accepted and not received. A complete
sweep offers the notices of the instances that it ends, in the order in which it releases them
and ascending by player within each. It ends all live instances whose deadline has passed and
no others, whatever becomes of the notices, and reports as many failures as notices were
refused meanwhile. -/
theorem notices_are_kept_in_order_and_failures_counted (templates : List Template)
    (buffer size : Nat) (patience : Duration) (steps : List Step) :
    let d := (start templates buffer size).after patience steps
    d.book.received <+: d.book.accepted ∧
    (.closed ∉ d.book → d.book.received ++ d.relocator.waiting = d.book.accepted) ∧
    (∀ before notice reply rest, d.book = before ++ .answered notice reply :: rest →
      reply = Book.reply before (max size 1) notice) ∧
    ∀ now meanwhile,
      let next := d.step patience (.operate now .sweep meanwhile)
      let report := d.report patience now meanwhile
      (meanwhile = [] → d.registry.sweep now d.relocator patience =
        (next.registry, next.relocator, report)) ∧
      ∃ (ended : List Instance) (dealings : Book),
        (∀ i, i ∈ ended ↔
          d.registry.instance? i.template i.key = some i ∧ i.expiresAt ≤ now) ∧
        (∀ template key i, next.registry.instance? template key = some i ↔
          d.registry.instance? template key = some i ∧ now < i.expiresAt) ∧
        report.released = ended.map (fun i => (i.template, i.key)) ∧ report.released.Nodup ∧
        next.book = d.book ++ dealings ∧
        dealings.offered = ended.flatMap (fun i => i.occupants.players.map (Eviction.of i)) ∧
        (∀ i ∈ ended, i.occupants.players.Pairwise (· < ·)) ∧
        report.notifyFailures = dealings.refused.length := by
  intro d
  have begin : (start templates buffer size).relocator.Balanced (max size 1) [] :=
    ⟨_, rfl, .new size⟩
  have balanced : d.relocator.Balanced (max size 1) d.book := after_balanced begin patience steps
  have reached : d.registry = (operations steps).result templates buffer :=
    registry_after patience _ steps
  have keyed : d.registry.Keyed := reached ▸ (operations steps).keyed templates buffer
  have covered : d.registry.Covered := reached ▸ (operations steps).covered templates buffer
  obtain ⟨channel, isChannel, stands⟩ := balanced
  refine ⟨stands.received_prefix, fun unshut => ?_, stands.answered, fun now meanwhile => ?_⟩
  · rw [isChannel]
    exact stands.conserved (stands.isOpen_iff.mpr unshut)
  · obtain ⟨ended, deferred, tracks⟩ := keyed.reclaimDue_tracks now
    have due (i : Instance) := covered.mem_ended_iff keyed tracks (i := i)
    refine ⟨fun none => by subst none; rfl, ended, _, due, fun template key i => ?_,
      tracks.released, tracks.released_nodup keyed, rfl, ?_, fun i _ => i.occupants.ascending, ?_⟩
    · refine (tracks.live template key i).trans (and_congr_right fun found => ?_)
      have live : d.registry.instance? template key = some i := found
      obtain ⟨rfl, rfl⟩ := keyed.own_place live
      rw [due, and_iff_right live]
      exact Int.not_le
    · exact (Relocator.offered_handOver ..).trans tracks.notices
    · exact (Relocator.Balanced.handOver ⟨channel, isChannel, stands⟩ ..).2

/-- A sweep evicts three players while there is room for one notice. The second is refused;
then the receiver takes the first, and there is room for the third. -/
theorem receiver_makes_room_in_the_middle_of_a_sweep :
    let template := Template.exclusive "a" 100 "entry" (.ofSeconds 3600)
    let entry := Operation.enter (.ofNat 1) ((Request.new 1 900 "a").withCompanions [2, 3])
    let late := (Instant.epoch.after? (.ofSeconds 3600)).getD .epoch
    let steps : List Step :=
      [.operate .epoch entry [], .operate late .sweep [(2, .take)]]
    let d := (start [template] 16 1).after (.ofSeconds 2) steps
    let notice (player : PlayerId) : Eviction := ⟨.ofNat 1, "a", player, 900⟩
    d.book = [.answered (notice 1) (.accepted 0),
      .answered (notice 2) (.refused (.channelFull 2)), .received (notice 1),
      .answered (notice 3) (.accepted 0)] ∧
    d.relocator.waiting = [notice 3] := by
  intro template entry late steps d notice
  have book : d.book = [.answered (notice 1) (.accepted 0),
      .answered (notice 2) (.refused (.channelFull 2)), .received (notice 1),
      .answered (notice 3) (.accepted 0)] := by decide
  have unshut : .closed ∉ d.book := by
    rw [book]
    decide
  have kept : d.book.received ++ d.relocator.waiting = d.book.accepted :=
    (notices_are_kept_in_order_and_failures_counted [template] 16 1 (.ofSeconds 2) steps).2.1 unshut
  rw [book] at kept
  have first : [notice 1] ++ d.relocator.waiting = [notice 1] ++ [notice 3] := kept
  exact ⟨book, List.append_cancel_left first⟩

end Dispatch

end InstancedAreas
