import OpenCord.Library.Effects
import OpenCord.Library.Tables
import OpenCord.Platform.Uuid

/-! Meetings in the connected calendars of their organizers: the stores of accounts and of
provider events, the adapters of the providers, and the synchronization of one meeting.
-/

namespace OpenCord.Calendars

open OpenCord.Library OpenCord.Platform

structure ConnectedCalendarAccount where
  id : Uuid
  userId : Uuid
  provider : String
  externalAccountId : String
  calendarId : String
  accessTokenCiphertext : String
  refreshTokenCiphertext : Option String
  tokenLastFour : String
  syncEnabled : Bool
  createdAt : String
  updatedAt : String
  deriving DecidableEq

structure CalendarEventSync where
  id : Uuid
  meetingId : Uuid
  accountId : Uuid
  provider : String
  providerEventId : String
  providerEventUrl : Option String
  calendarId : String
  status : String
  lastSyncedAt : String
  failureReason : Option String
  createdAt : String
  updatedAt : String
  deriving DecidableEq

structure CalendarEventSyncResult where
  event : CalendarEventSync
  operation : String
  deriving DecidableEq

structure ProviderEventUpsert where
  providerEventId : String
  providerEventUrl : Option String
  deriving DecidableEq

inductive CalendarSyncError where
  | invalidInput (message : String)
  | accountNotConnected (message : String)
  | storeUnavailable
  | providerUnavailable
  deriving DecidableEq

-----------------------------------------------------------------------------------------
-- Stores
-----------------------------------------------------------------------------------------

structure CalendarStore where
  accountsByUserProvider : Table (Uuid × String) ConnectedCalendarAccount
  eventSyncsByMeetingAccountProvider : Table (Uuid × Uuid × String) CalendarEventSync

/-- The store is kept in memory or in a database. -/
inductive CalendarBackend where
  | memory
  | postgres

namespace CalendarStore

def connectedAccount (store : CalendarStore) (userId : Uuid) (provider : String)
    : Option ConnectedCalendarAccount :=
  store.accountsByUserProvider.lookup (userId, provider)

def eventSyncForMeeting (store : CalendarStore) (meetingId accountId : Uuid)
    (provider : String) : Option CalendarEventSync :=
  store.eventSyncsByMeetingAccountProvider.lookup (meetingId, accountId, provider)

/-- The record as it is written. On a conflict the database leaves the identifier and the time
of creation; the memory replaces the record.
-/
def written (backend : CalendarBackend) (store : CalendarStore) (event : CalendarEventSync)
    : CalendarEventSync :=
  match backend with
  | .memory => event
  | .postgres =>
      match store.eventSyncForMeeting event.meetingId event.accountId event.provider with
      | some existing => { event with id := existing.id, createdAt := existing.createdAt }
      | none => event

def upsertEventSync (backend : CalendarBackend) (event : CalendarEventSync)
    : Eff CalendarStore CalendarSyncError CalendarEventSync := do
  let store ← get
  let written := store.written backend event
  set { store with
    eventSyncsByMeetingAccountProvider := store.eventSyncsByMeetingAccountProvider.insert
      (event.meetingId, event.accountId, event.provider) written }
  return written

@[simp] theorem providerEventId_written (backend : CalendarBackend) (store : CalendarStore)
    (event : CalendarEventSync)
    : (store.written backend event).providerEventId = event.providerEventId := by
  cases backend with
  | memory => rfl
  | postgres =>
      unfold written
      dsimp only
      split <;> rfl

end CalendarStore

-----------------------------------------------------------------------------------------
-- Adapters
-----------------------------------------------------------------------------------------

/-- An adapter keeps the event that it is given and creates one if it is given none. -/
def localUpsertEvent (idStart : String) (urlOf : String → Option String) (drawn : Uuid)
    (existing : Option CalendarEventSync) : ProviderEventUpsert :=
  let providerEventId := (existing.map (·.providerEventId)).getD (idStart ++ drawn.simple)
  ⟨providerEventId, urlOf providerEventId⟩

def LocalGoogleCalendarAdapter.upsertEvent
    : Uuid → Option CalendarEventSync → ProviderEventUpsert :=
  localUpsertEvent "google-" fun providerEventId =>
    some ("https://calendar.google.com/calendar/event?eid=" ++ providerEventId)

def LocalMicrosoftCalendarAdapter.upsertEvent
    : Uuid → Option CalendarEventSync → ProviderEventUpsert :=
  localUpsertEvent "microsoft-" fun providerEventId =>
    some ("https://outlook.office.com/calendar/item/" ++ providerEventId)

def LocalCaldavCalendarAdapter.upsertEvent
    : Uuid → Option CalendarEventSync → ProviderEventUpsert :=
  localUpsertEvent "caldav-" fun _ => none

inductive CalendarProvider where
  | google
  | microsoft
  | caldav
  deriving DecidableEq

namespace CalendarProvider

def name : CalendarProvider → String
  | google => "google"
  | microsoft => "microsoft"
  | caldav => "caldav"

def upsertEvent : CalendarProvider → Uuid → Option CalendarEventSync → ProviderEventUpsert
  | google => LocalGoogleCalendarAdapter.upsertEvent
  | microsoft => LocalMicrosoftCalendarAdapter.upsertEvent
  | caldav => LocalCaldavCalendarAdapter.upsertEvent

def notConnectedMessage : CalendarProvider → String
  | google => "google calendar account is not connected"
  | microsoft => "microsoft calendar account is not connected"
  | caldav => "caldav calendar account is not connected"

/-- An event that is already there keeps its identifier at every provider. -/
theorem upsertEvent_some (provider : CalendarProvider) (drawn : Uuid)
    (event : CalendarEventSync)
    : (provider.upsertEvent drawn (some event)).providerEventId = event.providerEventId := by
  cases provider <;> rfl

end CalendarProvider

-----------------------------------------------------------------------------------------
-- Synchronization
-----------------------------------------------------------------------------------------

/-- A user's request to have a meeting in a calendar. -/
structure SyncRequest where
  userId : Uuid
  meetingId : Uuid
  provider : CalendarProvider

namespace SyncRequest

/-- The account that a request is for. -/
def account (request : SyncRequest) (store : CalendarStore)
    : Except CalendarSyncError ConnectedCalendarAccount :=
  match (store.connectedAccount request.userId request.provider.name).filter
    (·.syncEnabled) with
  | some account => .ok account
  | none => .error (.accountNotConnected request.provider.notConnectedMessage)

/-- The record that is already there. -/
def existing (request : SyncRequest) (account : ConnectedCalendarAccount)
    (store : CalendarStore) : Option CalendarEventSync :=
  store.eventSyncForMeeting request.meetingId account.id request.provider.name

def operation (existing : Option CalendarEventSync) : String :=
  if existing.isSome then "updated" else "created"

/-- The record of the event at the provider. -/
def eventSync (request : SyncRequest) (account : ConnectedCalendarAccount)
    (existing : Option CalendarEventSync) (providerEvent : ProviderEventUpsert) (drawn : Uuid)
    (now : String) : CalendarEventSync where
  id := (existing.map (·.id)).getD drawn
  meetingId := request.meetingId
  accountId := account.id
  provider := request.provider.name
  providerEventId := providerEvent.providerEventId
  providerEventUrl := providerEvent.providerEventUrl
  calendarId := account.calendarId
  status := "synced"
  lastSyncedAt := now
  failureReason := none
  createdAt := (existing.map (·.createdAt)).getD now
  updatedAt := now

/-- The record is written, and answered together with what has been done. -/
def storeEvent (backend : CalendarBackend) (request : SyncRequest)
    (account : ConnectedCalendarAccount) (existing : Option CalendarEventSync)
    (providerEvent : ProviderEventUpsert) (drawn : Uuid) (now : String)
    : Eff CalendarStore CalendarSyncError CalendarEventSyncResult := do
  let event ← CalendarStore.upsertEventSync backend
    (request.eventSync account existing providerEvent drawn now)
  return ⟨event, operation existing⟩

end SyncRequest

/-- A synchronization without other requests in between. -/
def syncProviderMeeting (backend : CalendarBackend) (request : SyncRequest)
    (drawnEvent drawnSync : Uuid) (now : String)
    : Eff CalendarStore CalendarSyncError CalendarEventSyncResult := do
  let account ← Eff.reads request.account
  let existing ← Eff.reads fun store => .ok (request.existing account store)
  let providerEvent := request.provider.upsertEvent drawnEvent existing
  request.storeEvent backend account existing providerEvent drawnSync now

end OpenCord.Calendars
