import OpenCord.Library.DateTimes
import OpenCord.Library.Effects
import OpenCord.Library.Text
import OpenCord.Platform.TextThenId

/-! The window of an export, and the records of a window. Stored times are compared with the
ends of the window as texts.
-/

namespace OpenCord.Exports

open OpenCord.Library OpenCord.Platform

-----------------------------------------------------------------------------------------
-- The window that is asked for
-----------------------------------------------------------------------------------------

/-- What the calendar library reads and prints. -/
structure Chrono where
  parseFromRfc3339 : String → Option DateTime
  toRfc3339Millis : DateTime → String

/-- The two ends of an export. -/
structure Window where
  fromTime : String
  toTime : String
  deriving DecidableEq

/-- The messages of an export for ends that are no times, or the wrong way round. -/
structure WindowMessages where
  fromMessage : String
  toMessage : String
  orderMessage : String

section Asking

variable (chrono : Chrono) {ε : Type} (invalidInput : String → ε)

def normalizeRfc3339 (value message : String) : Except ε DateTime :=
  match chrono.parseFromRfc3339 (Text.trim value) with
  | some time => .ok time
  | none => .error (invalidInput message)

/-- The ends are compared as they were asked for, and printed to the millisecond. -/
def declaredWindow (messages : WindowMessages) (asked : Window) : Except ε Window := do
  let start ← normalizeRfc3339 chrono invalidInput asked.fromTime messages.fromMessage
  let finish ← normalizeRfc3339 chrono invalidInput asked.toTime messages.toMessage
  if finish < start then
    throw (invalidInput messages.orderMessage)
  else
    return ⟨chrono.toRfc3339Millis start, chrono.toRfc3339Millis finish⟩

variable {chrono invalidInput}

theorem normalizeRfc3339_eq_ok {value message : String} {time : DateTime}
    : normalizeRfc3339 chrono invalidInput value message = .ok time
      ↔ chrono.parseFromRfc3339 (Text.trim value) = some time := by
  rw [normalizeRfc3339]
  cases chrono.parseFromRfc3339 (Text.trim value) <;> simp

/-- A window is accepted exactly when its ends are times in their order. -/
theorem declaredWindow_eq_ok {messages : WindowMessages} {asked window : Window}
    : declaredWindow chrono invalidInput messages asked = .ok window
      ↔ ∃ start finish, chrono.parseFromRfc3339 (Text.trim asked.fromTime) = some start
        ∧ chrono.parseFromRfc3339 (Text.trim asked.toTime) = some finish ∧ start ≤ finish
        ∧ window = ⟨chrono.toRfc3339Millis start, chrono.toRfc3339Millis finish⟩ := by
  simp only [declaredWindow, Eff.check_bind_eq_ok, normalizeRfc3339_eq_ok]
  constructor
  · intro declared
    obtain ⟨start, fromTime, finish, toTime, declared⟩ := declared
    split at declared
    · cases declared
    · next notBefore =>
        cases declared
        exact ⟨start, finish, fromTime, toTime, not_lt.mp notBefore, rfl⟩
  · intro declared
    obtain ⟨start, finish, fromTime, toTime, ordered, rfl⟩ := declared
    exact ⟨start, fromTime, finish, toTime, if_neg (not_lt.mpr ordered)⟩

end Asking

-----------------------------------------------------------------------------------------
-- Times
-----------------------------------------------------------------------------------------

/-- The calendar library prints the instants of the years 0 to 9999 to the millisecond. -/
def Chrono.PrintsInYears (chrono : Chrono) : Prop :=
  ∀ time : DateTime, time.InYears → chrono.toRfc3339Millis time = time.millisText

/-- The ends that are asked for lie in the years 0 to 9999, where they are times. -/
def Window.InYears (chrono : Chrono) (asked : Window) : Prop :=
  ∀ text ∈ [asked.fromTime, asked.toTime], ∀ time,
    chrono.parseFromRfc3339 (Text.trim text) = some time → time.InYears

/-- A window declares the times that were asked for, cut off at the millisecond. -/
def Window.Declares (chrono : Chrono) (asked window : Window) : Prop :=
  ∃ start finish, chrono.parseFromRfc3339 (Text.trim asked.fromTime) = some start
    ∧ chrono.parseFromRfc3339 (Text.trim asked.toTime) = some finish ∧ start ≤ finish
    ∧ start.wholeMilli.WrittenAs window.fromTime ∧ finish.wholeMilli.WrittenAs window.toTime

/-- A text is the text of an instant of the years 0 to 9999, to the millisecond. -/
def IsCanonical (text : String) : Prop :=
  ∃ time : DateTime, time.WrittenAs text

theorem declares_of_declaredWindow {chrono : Chrono} (prints : chrono.PrintsInYears) {ε : Type}
    {invalidInput : String → ε} {messages : WindowMessages} {asked window : Window}
    (inYears : asked.InYears chrono)
    (declared : declaredWindow chrono invalidInput messages asked = .ok window)
    : asked.Declares chrono window := by
  obtain ⟨start, finish, fromTime, toTime, ordered, rfl⟩ := declaredWindow_eq_ok.mp declared
  have startInYears := inYears _ (by simp) start fromTime
  have finishInYears := inYears _ (by simp) finish toTime
  refine ⟨start, finish, fromTime, toTime, ordered, ?_, ?_⟩
  · rw [prints start startInYears]
    exact startInYears.writtenAs
  · rw [prints finish finishInYears]
    exact finishInYears.writtenAs

-----------------------------------------------------------------------------------------
-- The records of a window
-----------------------------------------------------------------------------------------

/-- What an export reads of its records. -/
structure Recorded (α : Type) where
  id : α → Uuid
  organizationId : α → Uuid
  createdAt : α → String

namespace Recorded

variable {α : Type} (recorded : Recorded α)

/-- The records of an organization whose times are between two texts, both inclusive. -/
def listBetween (organizationId : Uuid) (fromTime toTime : String) (records : List α) : List α :=
  let between := records.filter fun record =>
    recorded.organizationId record = organizationId
      ∧ fromTime ≤ recorded.createdAt record ∧ recorded.createdAt record ≤ toTime
  between.insertionSort (TextThenId recorded.createdAt recorded.id)

/-- Records by the instants at which they were created, then by their identifiers. -/
def InTime (first second : α) : Prop :=
  ∃ time later, DateTime.WrittenAs time (recorded.createdAt first)
    ∧ DateTime.WrittenAs later (recorded.createdAt second)
    ∧ (time < later
      ∨ time = later ∧ (recorded.id first).bits ≤ (recorded.id second).bits)

/-- The records of an organization that were created in a window. -/
def InWindow (organizationId : Uuid) (window : Window) (record : α) : Prop :=
  recorded.organizationId record = organizationId
    ∧ DateTime.IsBetween window.fromTime window.toTime (recorded.createdAt record)

open Classical in
/-- The records of an organization and a window are listed, each as often as it is stored and
in the order of time.
-/
structure ListsExactly (organizationId : Uuid) (window : Window) (records listed : List α)
    : Prop where
  perm : listed.Perm (records.filter fun record => recorded.InWindow organizationId window record)
  ordered : listed.Pairwise recorded.InTime

variable {recorded}

/-- Only records of the organization are listed. -/
theorem ListsExactly.organizationId_eq {organizationId : Uuid} {window : Window}
    {records listed : List α}
    (exactly : recorded.ListsExactly organizationId window records listed) {record : α}
    (mem : record ∈ listed)
    : recorded.organizationId record = organizationId := by
  classical
  have own := (List.mem_filter.mp (exactly.perm.mem_iff.mp mem)).2
  exact (of_decide_eq_true own).1

theorem inTime_of_textThenId {first second : α}
    (firstCanonical : IsCanonical (recorded.createdAt first))
    (secondCanonical : IsCanonical (recorded.createdAt second))
    (before : TextThenId recorded.createdAt recorded.id first second)
    : recorded.InTime first second := by
  obtain ⟨time, written⟩ := firstCanonical
  obtain ⟨later, laterWritten⟩ := secondCanonical
  exact ⟨time, later, written, laterWritten,
    before.inTime (written.lt_iff laterWritten) (laterWritten.lt_iff written)⟩

/-- On canonical times, the texts between the ends of a window are the times of the window. -/
theorem listBetween_listsExactly {chrono : Chrono} {asked window : Window}
    (declares : asked.Declares chrono window) (organizationId : Uuid) {records : List α}
    (canonical : ∀ record ∈ records, IsCanonical (recorded.createdAt record))
    : recorded.ListsExactly organizationId window records
        (recorded.listBetween organizationId window.fromTime window.toTime records) := by
  classical
  obtain ⟨start, finish, _, _, _, startWritten, finishWritten⟩ := declares
  have perm := List.perm_insertionSort (TextThenId recorded.createdAt recorded.id)
    (records.filter fun record => recorded.organizationId record = organizationId
      ∧ window.fromTime ≤ recorded.createdAt record ∧ recorded.createdAt record ≤ window.toTime)
  constructor
  · refine perm.trans (.of_eq (List.filter_congr fun record stored => ?_))
    obtain ⟨time, written⟩ := canonical record stored
    refine decide_eq_decide.mpr (and_congr_right fun _ => ?_)
    exact (DateTime.isBetween_iff startWritten written finishWritten).symm
  · refine (List.pairwise_insertionSort _ _).imp_of_mem fun firstListed secondListed before => ?_
    have stored {record : α} (listed : record ∈ recorded.listBetween organizationId
        window.fromTime window.toTime records) : record ∈ records :=
      List.mem_of_mem_filter (perm.mem_iff.mp listed)
    exact inTime_of_textThenId (canonical _ (stored firstListed))
      (canonical _ (stored secondListed)) before

end Recorded

end OpenCord.Exports
