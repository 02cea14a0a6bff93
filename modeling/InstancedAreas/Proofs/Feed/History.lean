import InstancedAreas.Proofs.Registry.Answer

/-! What has been announced. Opening an instance, letting players in and ending
an instance each announce something behind all that was announced before, and
nothing that was announced is taken back. -/
namespace InstancedAreas

namespace Instance

/-- What is announced when players come in. -/
def welcome (i : Instance) (now : Instant) (players : List PlayerId) : List Event :=
  if players.isEmpty then [] else [.of i now (.admitted players)]

/-- What is announced when the deadline ends an instance: that its occupants are
evicted, ascending, and that it is released. -/
def farewell (i : Instance) (now : Instant) : List Event :=
  (i.occupants.players.map fun player => .of i now (.evicted player i.originArea)) ++
    [.of i now (.released .expired)]

variable {i : Instance} {now : Instant} {event : Event}

theorem of_mem_welcome {players : List PlayerId} (member : event ∈ i.welcome now players) :
    ∃ kind, event = .of i now kind := by
  simp only [welcome] at member
  split at member
  · cases member
  · exact ⟨_, List.mem_singleton.mp member⟩

theorem of_mem_farewell (member : event ∈ i.farewell now) : ∃ kind, event = .of i now kind := by
  rcases List.mem_append.mp member with evicted | released
  · obtain ⟨player, -, rfl⟩ := List.mem_map.mp evicted
    exact ⟨_, rfl⟩
  · exact ⟨_, List.mem_singleton.mp released⟩

theorem id_of_welcome {players : List PlayerId} (member : event ∈ i.welcome now players) :
    event.instanceId = i.id := by
  obtain ⟨kind, rfl⟩ := of_mem_welcome member
  rfl

theorem id_of_farewell (member : event ∈ i.farewell now) : event.instanceId = i.id := by
  obtain ⟨kind, rfl⟩ := of_mem_farewell member
  rfl

end Instance

namespace Registry

variable {now : Instant} {r : Registry} {pool : Pool} {i : Instance}

/-- All that has been announced, in order. -/
def history (r : Registry) : List Event := r.feed.history.toList

@[simp]
theorem history_putPool (r : Registry) (pool : Pool) : (r.putPool pool).history = r.history := rfl

@[simp]
theorem history_announce (r : Registry) (event : Event) :
    (r.announce event).history = r.history ++ [event] := by
  simp [history, announce, Feed.publish]

theorem history_opened (r : Registry) (now : Instant) (pool : Pool) (i : Instance) :
    (r.opened now pool i).history =
      r.history ++ [.of i now (.created pool.template.destination i.expiresAt)] :=
  history_announce (r.schedule (.of i)) _

theorem history_joined (r : Registry) (now : Instant) (pool : Pool) (i : Instance)
    (players : List PlayerId) :
    (r.joined now pool i players).history =
      r.history ++ i.welcome now (i.occupants.enterAll players).2 := by
  simp only [joined, Instance.welcome]
  split <;> simp

@[simp]
theorem history_conclude (r : Registry) (now : Instant) (pool : Pool) (i : Instance)
    (reason : ReleaseReason) :
    (r.conclude now pool i reason).history = r.history ++ [.of i now (.released reason)] :=
  history_announce _ _

theorem history_publishAll (r : Registry) (events : List Event) :
    ({ r with feed := r.feed.publishAll events } : Registry).history = r.history ++ events := by
  simp only [history, Feed.publishAll]
  induction events generalizing r with
  | nil => simp
  | cons event rest ih =>
    have onward := ih { r with feed := r.feed.publish event }
    simpa [Feed.publish] using onward

theorem history_expired (r : Registry) (now : Instant) (pool : Pool) (i : Instance) :
    (r.expired now pool i).history = r.history ++ i.farewell now := by
  rw [expired, history_conclude, history_publishAll, Instance.farewell, List.append_assoc]

end Registry

end InstancedAreas
