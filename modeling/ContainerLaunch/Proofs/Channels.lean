import ContainerLaunch.Proofs.Tools

/-!
# Channels between shells and tools

What is written to a channel is read from it in the same order, and no other stream takes notice.
So whatever a tool says on the streams of a shell, if these are channels, is there after all that
has been said before.  By way of a shell that has just begun, a tool says the same as by itself.
-/

namespace ContainerLaunch.Rehearsal.Shell

namespace World

variable {world after : World} {number other : Nat} {bytes : Bytes}

def IsChannel (world : World) (number : Nat) : Prop :=
  ∃ front behind, world.stream? number = some (.channel front behind)

/-- The second world is the first one with more to be read from a channel. -/
structure Gains (world : World) (number : Nat) (bytes : Bytes) (after : World) : Prop where
  isChannel : after.IsChannel number
  unread_eq : after.unread number = world.unread number ++ bytes
  stream?_of_ne : ∀ other, other ≠ number → after.stream? other = world.stream? other
  tree_eq : after.tree = world.tree

theorem unread_of_channel {front : Bytes} {behind : List Bytes}
    (h : world.stream? number = some (.channel front behind)) :
    world.unread number = front ++ behind.reverse.flatten := by
  unfold unread
  rw [h]

theorem stream?_setStream_self {before : Stream} (h : world.stream? number = some before)
    (stream : Stream) : (world.setStream number stream).stream? number = some stream :=
  Array.getElem?_setIfInBounds_self_of_lt (Array.getElem?_eq_some_iff.mp h).1

/-- What is written can be read after all that has been written before. -/
theorem exists_write_eq_ok (h : world.IsChannel number) (bytes : Bytes) :
    ∃ after, world.write number bytes = .ok after ∧ world.Gains number bytes after := by
  obtain ⟨front, behind, hchannel⟩ := h
  have hafter := stream?_setStream_self hchannel (.channel front (bytes :: behind))
  refine ⟨world.setStream number (.channel front (bytes :: behind)), ?_,
    ⟨⟨_, _, hafter⟩, ?_, ?_, rfl⟩⟩
  · rw [write, hchannel]
  · rw [unread_of_channel hafter, unread_of_channel hchannel, List.reverse_cons,
      List.flatten_append, List.flatten_singleton, List.append_assoc]
  · intro other hother
    exact Array.getElem?_setIfInBounds_ne hother.symm

theorem gains_nil (h : world.IsChannel number) : world.Gains number [] world :=
  ⟨h, (List.append_nil _).symm, fun _ _ ↦ rfl, rfl⟩

theorem Gains.isChannel_of_isChannel (h : world.Gains number bytes after)
    (hother : world.IsChannel other) : after.IsChannel other := by
  by_cases hne : other = number
  · rw [hne]
    exact h.isChannel
  · unfold IsChannel
    rwa [h.stream?_of_ne other hne]

theorem Gains.unread_of_ne (h : world.Gains number bytes after) (hother : other ≠ number) :
    after.unread other = world.unread other := by
  unfold unread content
  rw [h.stream?_of_ne other hother, h.tree_eq]

end World

namespace Run

variable {state : State}

/-! ## Speaking -/

theorem run_bind_of_ok {α β : Type} {run : Run α} {value : α} {after : State}
    (h : run.run.run state = (.ok value, after)) (next : α → Run β) :
    (run >>= next).run.run state = (next value).run.run after := by
  rw [ExceptT.run_bind, StateT.run_bind, h]
  rfl

theorem run_writeTo {stream : Nat} {bytes : Bytes} {after : World} (reads : Bool)
    (h : state.world.write stream bytes = .ok after) :
    (writeTo (some ⟨stream, reads, true⟩) bytes).run.run state =
      (.ok (.ok ()), { state with world := after }) := by
  have hget : (get : Run State).run.run state = (.ok state, state) := rfl
  unfold writeTo
  rw [run_bind_of_ok hget]
  simp only [h]
  rfl

/-- The descriptor that is spoken on. -/
def descriptor : Voice → Nat
  | .out => 1
  | .err => 2

/-- Standard output and standard error of the shell are channels of their own. -/
structure Speaks (state : State) (stream : Voice → Nat) : Prop where
  injective : Function.Injective stream
  handle : ∀ voice, ∃ reads,
    state.process.handles.lookup (descriptor voice) = some ⟨stream voice, reads, true⟩
  isChannel : ∀ voice, state.world.IsChannel (stream voice)

theorem Speaks.of_gains {stream : Voice → Nat} {voice : Voice} {bytes : Bytes} {after : World}
    (h : Speaks state stream) (hgains : state.world.Gains (stream voice) bytes after) :
    Speaks { state with world := after } stream :=
  ⟨h.injective, h.handle, fun other ↦ hgains.isChannel_of_isChannel (h.isChannel other)⟩

theorem run_speak_cons {stream : Voice → Nat} (h : Speaks state stream) (tool : Tool)
    (program : Bytes) (code : Nat) (voice : Voice) (bytes : Bytes) (later : List Utterance) :
    ∃ after, state.world.Gains (stream voice) bytes after ∧
      (speak tool program code ((voice, bytes) :: later)).run.run state =
        (speak tool program code later).run.run { state with world := after } := by
  cases bytes with
  | nil =>
    refine ⟨state.world, World.gains_nil (h.isChannel voice), ?_⟩
    cases voice <;> rfl
  | cons b rest =>
    obtain ⟨after, hwrite, hgains⟩ := World.exists_write_eq_ok (h.isChannel voice) (b :: rest)
    obtain ⟨reads, hhandle⟩ := h.handle voice
    have hwritten : (write (descriptor voice) (b :: rest)).run.run state =
        (.ok (.ok ()), { state with world := after }) := by
      have hget : (write (descriptor voice) (b :: rest)).run.run state =
          (writeTo (state.process.handles.lookup (descriptor voice)) (b :: rest)).run.run state :=
        rfl
      rw [hget, hhandle, run_writeTo reads hwrite]
    refine ⟨after, hgains, ?_⟩
    cases voice with
    | out => exact run_bind_of_ok hwritten _
    | err => exact run_bind_of_ok hwritten _

/-- A tool that speaks through a shell is heard as it is by itself. -/
theorem run_speak {stream : Voice → Nat} (h : Speaks state stream) (tool : Tool) (program : Bytes)
    (performance : Performance) :
    ∃ after,
      (speak tool program performance.code performance.said).run.run state =
        (.ok performance.code, { state with world := after }) ∧
      (∀ voice, after.unread (stream voice) =
        state.world.unread (stream voice) ++ performance.heard voice) ∧
      ∀ other, (∀ voice, other ≠ stream voice) → after.unread other = state.world.unread other := by
  obtain ⟨said, code, unread⟩ := performance
  induction said generalizing state with
  | nil =>
    exact ⟨state.world, rfl, fun voice ↦ (List.append_nil _).symm, fun _ _ ↦ rfl⟩
  | cons utterance later ih =>
    obtain ⟨voice, bytes⟩ := utterance
    obtain ⟨middle, hgains, hrun⟩ := run_speak_cons h tool program code voice bytes later
    obtain ⟨after, hlater, hheard, hothers⟩ := ih (h.of_gains hgains)
    refine ⟨after, hrun.trans hlater, fun spoken ↦ ?_, fun other hother ↦ ?_⟩
    · have hcons : Performance.heard ⟨(voice, bytes) :: later, code, unread⟩ spoken =
          (if voice = spoken then bytes else []) ++
            Performance.heard ⟨later, code, unread⟩ spoken := rfl
      rw [hheard, hcons, ← List.append_assoc]
      congr 1
      split
      next heq =>
        subst heq
        exact hgains.unread_eq
      next hne =>
        rw [List.append_nil]
        exact hgains.unread_of_ne fun heq ↦ hne (h.injective heq).symm
    · rw [hothers other hother]
      exact hgains.unread_of_ne (hother voice)

/-! ## The first command of a shell -/

/-- A shell that has just begun, with so much of its standard input left. -/
def firstAfter (name stdin rest : Bytes) : State :=
  let first := firstState name stdin
  { first with world := first.world.leaveUnread 0 rest }

theorem speaks_firstAfter (name stdin rest : Bytes) :
    Speaks (firstAfter name stdin rest) descriptor where
  injective := by rintro (_ | _) (_ | _) ⟨⟩ <;> rfl
  handle voice := by cases voice <;> exact ⟨false, rfl⟩
  isChannel voice := by cases voice <;> exact ⟨[], [], rfl⟩

theorem unread_firstAfter (name stdin rest : Bytes) (voice : Voice) :
    (firstAfter name stdin rest).world.unread (descriptor voice) = [] := by
  cases voice <;> rfl

theorem run_sceneOf (name stdin program : Bytes) :
    (sceneOf program).run.run (firstState name stdin) =
      (.ok (firstScene program stdin), firstState name stdin) := by
  have hscene : (sceneOf program).run.run (firstState name stdin) =
      (.ok (firstScene program (stdin ++ [])), firstState name stdin) := rfl
  rw [hscene, List.append_nil]

/-- Through a shell that has just begun a tool says what it says by itself, and ends as it does. -/
theorem runTool_firstState (name stdin : Bytes) {tool : Tool} (htool : tool ≠ .shell)
    (command : ContainerLaunch.Command) :
    ∃ code after,
      (runTool tool command.program command.arguments).run.run (firstState name stdin) =
        (.ok (some code), after) ∧
      carryOut tool command stdin =
        ⟨after.world.unread 1, after.world.unread 2, .exited (.ofNat code)⟩ := by
  obtain ⟨performance, hperform⟩ :=
    exists_perform_eq_some htool (firstScene command.program stdin) command.arguments
  obtain ⟨after, hrun, hheard, -⟩ := run_speak
    (speaks_firstAfter name stdin performance.unread) tool command.program performance
  have hleave : (leaveUnread 0 performance.unread).run.run (firstState name stdin) =
      (.ok (), firstAfter name stdin performance.unread) := rfl
  have hsaid (voice : Voice) : after.unread (descriptor voice) = performance.heard voice := by
    rw [hheard, unread_firstAfter, List.nil_append]
  refine ⟨performance.code, { firstAfter name stdin performance.unread with world := after },
    ?_, ?_⟩
  · unfold runTool
    rw [run_bind_of_ok (run_sceneOf name stdin command.program), hperform]
    exact (run_bind_of_ok hleave _).trans (run_bind_of_ok hrun _)
  · rw [carryOut_of_perform hperform, Performance.child, ← hsaid .out, ← hsaid .err]
    rfl

end Run

end ContainerLaunch.Rehearsal.Shell
