/-
  ActivityLog.Proofs.Store.Tasks — the questions about tasks agree with each other.

  Attempts are asked about in four ways: which tasks were tried and how often, how often one
  task was tried, by which users it was, and which users tried any task. Each question goes
  through the entries on its own, and so do the four about finished tasks. Together the answers
  make one picture (`task_answers_agree`): the tally lists the tasks that have users, each with
  the number of its entries, and leaves out no user and no entry.

  The tally is built entry by entry, a number is the length of a selection. They meet in the
  tasks of the entries with the event: a task occurs there as often as it is selected
  (`count_map_task`). An entry with the event has a user and a task, so users and tasks lead to
  each other (`mem_keySet_taskTally`, `mem_usersOfEvent`).
-/

import ActivityLog.Proofs.Ordered
import ActivityLog.Proofs.Store.Question
import ActivityLog.Store

namespace ActivityLog.Store

/-- The answers about the tasks of one event fit together. -/
structure TaskAnswersFit (s : Store) (event : Event) (p : Period) (tally : Tally Int) (count : Int → Nat)
    (usersOf : Int → SortedSet Text) (users : SortedSet Text) : Prop where
  /-- The tasks stand in ascending order, each once. -/
  ascending : tally.keys.Pairwise fun a b => a < b
  /-- A task stands there with the number of its entries, if there are any. -/
  counted : ∀ task n, (task, n) ∈ tally.toList ↔ n = count task ∧ 0 < n
  /-- The tasks are those that some user has. -/
  listed : ∀ task, task ∈ tally.keys ↔ (usersOf task).toList ≠ []
  /-- All users have one of the tasks, and nobody else has. -/
  users_eq : .unions (tally.keys.map usersOf) = users
  /-- Every entry with the event counts for one task. -/
  total_eq : tally.total = (s.entries.filter fun e => p.contains e.time && e.event = event).length

section
variable (s : Store) (event : Event) (p : Period)

/-! ## Numbers -/

/-- Of the entries with the event those with the task are as many as the task has occurrences. -/
theorem count_map_task (task : Int) : ((s.within p fun e => e.event = event).map (·.task)).count task =
    (s.within p fun e => e.event = event && e.task = task).length := by
  have hsplit : (s.within p fun e => e.event = event && e.task = task) =
      (s.within p fun e => e.event = event).filter fun e => e.task == task := by
    simp only [within, List.filter_filter]
    refine List.filter_congr fun e _ => ?_
    rw [Bool.eq_iff_iff]
    simp only [Bool.and_eq_true, beq_iff_eq, decide_eq_true_eq]
    exact ⟨fun h => ⟨h.2.2, h.1, h.2.1⟩, fun h => ⟨h.2.1, h.2.2, h.1⟩⟩
  rw [hsplit, List.count, List.countP_map, List.countP_eq_length_filter]
  rfl

/-! ## Users -/

theorem mem_usersOfTask {task : Int} {user : Text} : user ∈ s.usersOfTask event task p ↔
    ∃ e ∈ s.entries, p.contains e.time = true ∧ (e.event = event ∧ e.task = task) ∧ e.user = user := by
  rw [usersOfTask, mem_values]
  simp only [Bool.and_eq_true, decide_eq_true_eq]

/-- A task is tallied when some user has it. -/
theorem mem_keySet_taskTally {task : Int} :
    task ∈ (s.taskTally event p).keySet ↔ ∃ user, user ∈ s.usersOfTask event task p := by
  rw [taskTally, Tally.mem_keySet_ofKeys, mem_map_within]
  simp only [mem_usersOfTask, decide_eq_true_eq]
  constructor
  · intro h
    obtain ⟨e, he, htime, hevent, htask⟩ := h
    exact ⟨e.user, e, he, htime, ⟨hevent, htask⟩, rfl⟩
  · intro h
    obtain ⟨_, e, he, htime, ⟨hevent, htask⟩, -⟩ := h
    exact ⟨e, he, htime, hevent, htask⟩

/-- A user has the event when the user has it for some task. -/
theorem mem_usersOfEvent {user : Text} :
    user ∈ s.usersOfEvent event p ↔ ∃ task, user ∈ s.usersOfTask event task p := by
  rw [usersOfEvent, mem_values]
  simp only [mem_usersOfTask, decide_eq_true_eq]
  constructor
  · intro h
    obtain ⟨e, he, htime, hevent, huser⟩ := h
    exact ⟨e.task, e, he, htime, ⟨hevent, rfl⟩, huser⟩
  · intro h
    obtain ⟨_, e, he, htime, ⟨hevent, -⟩, huser⟩ := h
    exact ⟨e, he, htime, hevent, huser⟩

theorem unions_usersOfTask : .unions ((s.taskTally event p).keys.map fun task => s.usersOfTask event task p) =
    s.usersOfEvent event p := by
  refine SortedSet.ext fun user => ?_
  rw [SortedSet.mem_unions, mem_usersOfEvent]
  constructor
  · intro h
    obtain ⟨_, hset, huser⟩ := h
    obtain ⟨task, -, rfl⟩ := List.mem_map.mp hset
    exact ⟨task, huser⟩
  · intro h
    obtain ⟨task, huser⟩ := h
    have htask : task ∈ (s.taskTally event p).keys := (s.mem_keySet_taskTally event p).mpr ⟨user, huser⟩
    exact ⟨_, List.mem_map.mpr ⟨task, htask, rfl⟩, huser⟩

/-! ## All four questions -/

theorem taskAnswersFit : TaskAnswersFit s event p (s.taskTally event p)
    (fun task => (s.within p fun e => e.event = event && e.task = task).length)
    (fun task => s.usersOfTask event task p) (s.usersOfEvent event p) where
  ascending := (s.taskTally event p).keySet.ascending.imp Int.compare_eq_lt.mp
  counted task n := by rw [taskTally, Tally.mem_toList_ofKeys, count_map_task]
  listed task := by
    refine (s.mem_keySet_taskTally event p).trans ⟨fun h => ?_, fun h => ?_⟩
    · obtain ⟨user, huser⟩ := h
      exact List.ne_nil_of_mem huser
    · exact List.exists_mem_of_ne_nil _ h
  users_eq := s.unions_usersOfTask event p
  total_eq := by
    rw [taskTally, Tally.total_ofKeys, List.length_map]
    rfl

end

/-- For attempts and for finished tasks alike: a task is in the tally with a number exactly when that is
    how many entries it has and there are some, and exactly when it has users. The users of the listed
    tasks are all users with the event, and the numbers add up to all entries with the event. -/
theorem task_answers_agree (s : Store) (p : Period) :
    TaskAnswersFit s .solveTask p (s.attemptTally p) (fun task => s.attemptCount task p)
      (fun task => s.usersAttemptingTask task p) (s.usersAttempting p) ∧
    TaskAnswersFit s .doneTask p (s.finishTally p) (fun task => s.finishCount task p)
      (fun task => s.usersFinishingTask task p) (s.usersFinishing p) :=
  ⟨taskAnswersFit s .solveTask p, taskAnswersFit s .doneTask p⟩

end ActivityLog.Store
