import KoRTOS.Kernel.Scheduler
import KoRTOS.Library.Scan
import Mathlib.Data.List.Basic
import Mathlib.Data.List.Induction
import Mathlib.Data.List.Nodup

/-!
# Waitlist arrays as lists

An array whose first `wait_count` entries are a list of tasks and whose other
entries are null represents that list. Appending, removing from the middle and
the policy-driven selection are described on the list.
-/

namespace KoRTOS

theorem filterMap_range {α : Type} {f : Nat → Option α} {l : List α}
    (h : ∀ i, i < l.length → f i = l[i]?) : (List.range l.length).filterMap f = l := by
  have hEntry : (List.range l.length).filterMap f =
      (List.range l.length).filterMap fun i => l[i]? := by
    apply List.filterMap_congr
    intro i hi
    exact h i (List.mem_range.mp hi)
  rw [hEntry]
  clear h hEntry
  induction l using List.reverseRecOn with
  | nil => rfl
  | append_singleton l a ih =>
    rw [List.length_append, List.length_singleton, List.range_succ, List.filterMap_append]
    have hPrefix : (List.range l.length).filterMap (fun i => (l ++ [a])[i]?) =
        (List.range l.length).filterMap fun i => l[i]? := by
      apply List.filterMap_congr
      intro i hi
      exact List.getElem?_append_left (List.mem_range.mp hi)
    rw [hPrefix, ih]
    simp

def Waitlist.tasks (wl : Waitlist) : List TaskId :=
  (List.range wl.waitCount).filterMap wl.taskWaitlist

structure Waitlist.Represents (wl : Waitlist) (l : List TaskId) : Prop where
  count : wl.waitCount = l.length
  entry : ∀ i, wl.taskWaitlist i = l[i]?

namespace Waitlist

variable {wl : Waitlist} {l : List TaskId} {t : TaskId} {i : Nat}

theorem Represents.tasks_eq (h : wl.Represents l) : wl.tasks = l := by
  rw [tasks, h.count]
  exact filterMap_range fun i _ => h.entry i

theorem Represents.entry_eq_some (h : wl.Represents l) :
    wl.taskWaitlist i = some t ↔ ∃ hi : i < l.length, l[i] = t := by
  rw [h.entry, List.getElem?_eq_some_iff]

theorem represents_init (policy : SchedulePolicy) : (waitlistInit policy).Represents [] where
  count := rfl
  entry _ := rfl

@[simp] theorem tasks_init (policy : SchedulePolicy) : (waitlistInit policy).tasks = [] :=
  (represents_init policy).tasks_eq

theorem Represents.append (h : wl.Represents l) :
    Represents
      { wl with
        taskWaitlist := Function.update wl.taskWaitlist wl.waitCount (some t)
        waitCount := wl.waitCount + 1 } (l ++ [t]) where
  count := by simp [h.count]
  entry j := by
    simp only [Function.update_apply, h.count]
    split
    · simp [*]
    · rename_i hj
      rw [h.entry]
      rcases Nat.lt_or_ge j l.length with hLt | hGe
      · rw [List.getElem?_append_left hLt]
      · rw [List.getElem?_eq_none hGe, List.getElem?_eq_none]
        simp
        omega

/-- The loop moves the entries after `i` down by one, as far as it runs. -/
theorem shiftDown_apply (list : Nat → Option TaskId) (i n j : Nat) :
    shiftDown list i n j = if i ≤ j ∧ j < i + n then list (j + 1) else list j := by
  induction n generalizing list i with
  | zero =>
    rw [shiftDown, if_neg]
    omega
  | succ n ih =>
    rw [shiftDown, ih]
    by_cases hij : j = i
    · subst hij
      rw [if_neg (by omega), if_pos (by omega), Function.update_self]
    · by_cases hRange : i + 1 ≤ j ∧ j < i + 1 + n
      · rw [if_pos hRange, if_pos (by omega), Function.update_of_ne (by omega)]
      · rw [if_neg hRange, if_neg (by omega), Function.update_of_ne hij]

theorem Represents.remove (h : wl.Represents l) (hi : i < l.length) :
    (waitlistRemoveTask wl i).Represents (l.eraseIdx i) where
  count := by
    rw [List.length_eraseIdx_of_lt hi]
    simp [waitlistRemoveTask, h.count]
  entry j := by
    simp only [waitlistRemoveTask, Function.update_apply, shiftDown_apply, h.count]
    rw [List.getElem?_eraseIdx]
    by_cases hLast : j = l.length - 1
    · rw [if_pos hLast, if_neg (by omega), List.getElem?_eq_none (by omega)]
    · rw [if_neg hLast]
      by_cases hShift : i ≤ j ∧ j < i + (l.length - 1 - i)
      · rw [if_pos hShift, if_neg (by omega), if_neg (by omega), h.entry]
      · rw [if_neg hShift]
        by_cases hBefore : j < i
        · rw [if_neg (by omega), if_pos hBefore, h.entry]
        · rw [if_neg (by omega), if_neg hBefore, h.entry, List.getElem?_eq_none (by omega),
            List.getElem?_eq_none (by omega)]

theorem Represents.find (h : wl.Represents l) (ht : t ∈ l) :
    ∃ i, ∃ hi : i < l.length, l[i] = t ∧
      (List.range wl.waitCount).find? (fun j => wl.taskWaitlist j == some t) = some i := by
  cases hFind : (List.range wl.waitCount).find? (fun j => wl.taskWaitlist j == some t) with
  | some i =>
    have hEntry : wl.taskWaitlist i = some t := by
      simpa using List.find?_some hFind
    obtain ⟨hi, hEq⟩ := h.entry_eq_some.mp hEntry
    exact ⟨i, hi, hEq, rfl⟩
  | none =>
    obtain ⟨i, hi, hEq⟩ := List.mem_iff_getElem.mp ht
    have hNone := List.find?_eq_none.mp hFind i (List.mem_range.mpr (h.count ▸ hi))
    simp [h.entry_eq_some.mpr ⟨hi, hEq⟩] at hNone

theorem Represents.find_none (h : wl.Represents l) (ht : t ∉ l) :
    (List.range wl.waitCount).find? (fun j => wl.taskWaitlist j == some t) = none := by
  rw [List.find?_eq_none]
  intro i _ hEntry
  obtain ⟨hi, hEq⟩ := h.entry_eq_some.mp (by simpa using hEntry)
  exact ht (hEq ▸ List.getElem_mem hi)

end Waitlist

/-- The key by which the `PRIORITY` scan compares the `i`-th waiter. -/
def waiterKey (k : Kernel) (l : List TaskId) (i : Nat) : Option Nat :=
  l[i]?.map fun t => (k.userTasks t).effectivePriority

theorem waitlistSelect_priority {k : Kernel} {wl : Waitlist} {l : List TaskId}
    (h : wl.Represents l) (hPolicy : wl.schedulePolicy = .priority) :
    waitlistSelect k wl =
      ((List.range l.length).foldl (Scan.step (waiterKey k l)) (osPriorityLowest + 1, none)).2 := by
  have hStep : selectStep k wl = Scan.step (waiterKey k l) := by
    funext best i
    rw [selectStep, Scan.step, waiterKey, h.entry]
    cases l[i]? <;> rfl
  rw [waitlistSelect, hPolicy, hStep, h.count]

/-- The task at position `i` is the first of the most urgent waiters. -/
def MostUrgent (k : Kernel) (l : List TaskId) (i : Nat) : Prop :=
  ∃ t, l[i]? = some t ∧
    (∀ (j : Nat) (u : TaskId), l[j]? = some u →
      (k.userTasks t).effectivePriority ≤ (k.userTasks u).effectivePriority) ∧
    ∀ (j : Nat) (u : TaskId), j < i → l[j]? = some u →
      (k.userTasks t).effectivePriority < (k.userTasks u).effectivePriority

theorem mostUrgent_of_firstMin {k : Kernel} {l : List TaskId} {i p : Nat}
    (h : Scan.FirstMin (waiterKey k l) (List.range l.length) i p) : MostUrgent k l i := by
  obtain ⟨t, ht, hp⟩ := Option.map_eq_some_iff.mp h.1
  have hKey : ∀ (j : Nat) (u : TaskId), l[j]? = some u →
      j < l.length ∧ waiterKey k l j = some (k.userTasks u).effectivePriority := by
    intro j u hu
    constructor
    · exact (List.getElem?_eq_some_iff.mp hu).1
    · rw [waiterKey, hu, Option.map_some]
  refine ⟨t, ht, ?_, ?_⟩
  · intro j u hu
    obtain ⟨hj, hKey⟩ := hKey j u hu
    rw [hp]
    exact h.le (List.mem_range.mpr hj) hKey
  · intro j u hji hu
    obtain ⟨hj, hKey⟩ := hKey j u hu
    obtain ⟨_, before, after, hSplit, hBefore, _⟩ := h
    -- the positions before `i` in the scan are exactly the smaller ones
    have hLength : before.length = i := by
      have hGet : (List.range l.length)[before.length]? = some i := by rw [hSplit]; simp
      obtain ⟨_, hEq⟩ := List.getElem?_eq_some_iff.mp hGet
      simpa using hEq
    have hMem : j ∈ before := by
      have hGet : (List.range l.length)[j]? = some j := by simp [hj]
      rw [hSplit, List.getElem?_append_left (by omega)] at hGet
      exact List.mem_of_getElem? hGet
    rw [hp]
    exact hBefore j hMem _ hKey

theorem waitlistSelect_of_priority {k : Kernel} {wl : Waitlist} {l : List TaskId}
    (h : wl.Represents l) (hPolicy : wl.schedulePolicy = .priority) (hne : l ≠ [])
    (hLow : ∀ t ∈ l, (k.userTasks t).effectivePriority ≤ osPriorityLowest) :
    ∃ i, waitlistSelect k wl = some i ∧ MostUrgent k l i := by
  rw [waitlistSelect_priority h hPolicy]
  rcases Scan.foldl_cases (waiterKey k l) (List.range l.length) (osPriorityLowest + 1) none with
    ⟨_, hAll⟩ | ⟨i, p, hFold, _, hMin⟩
  · have hPos : 0 < l.length := List.length_pos_iff.mpr hne
    have hFirst := hAll 0 (List.mem_range.mpr hPos) _ (by simp [waiterKey, hPos]; rfl)
    have hBound := hLow l[0] (List.getElem_mem hPos)
    omega
  · exact ⟨i, by rw [hFold], mostUrgent_of_firstMin hMin⟩

end KoRTOS
