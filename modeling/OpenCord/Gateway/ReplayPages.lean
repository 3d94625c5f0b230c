import OpenCord.Gateway.Sessions
import OpenCord.Library.Effects
import OpenCord.Library.Runs

/-! The events that a session store lists for a replay. The in-memory store keeps the events of
a session sorted, with one for a number; the table of the Postgres store has one row for a
session and a number, and its query sorts them.
-/

namespace OpenCord.Gateway

open OpenCord.Library OpenCord.Platform OpenCord.Bots

-----------------------------------------------------------------------------------------
-- What a page is
-----------------------------------------------------------------------------------------

/-- The session and the number of an event. -/
def CompatGatewayReplayEvent.place (event : CompatGatewayReplayEvent) : String × Int :=
  (event.sessionId, event.sequence)

/-- A page lists the first events of a session after a number, in the order of their numbers.
Of the events that were appended under one number, the last one counts.
-/
def IsReplayPage (history : List CompatGatewayReplayEvent) (sessionId : String)
    (sequence : Int) (limit : Nat) (page : List CompatGatewayReplayEvent) : Prop :=
  ∃ events, KeyedLog.Sorted CompatGatewayReplayEvent.sequence events
    ∧ (∀ event, event ∈ events
        ↔ KeyedLog.LastArrival CompatGatewayReplayEvent.place history event
          ∧ event.sessionId = sessionId ∧ sequence < event.sequence)
    ∧ page = events.take limit

section

variable {history : List CompatGatewayReplayEvent} {sessionId : String} {sequence : Int}
  {limit : Nat} {page other : List CompatGatewayReplayEvent}

/-- What was appended decides the page. -/
theorem IsReplayPage.unique (isPage : IsReplayPage history sessionId sequence limit page)
    (otherIsPage : IsReplayPage history sessionId sequence limit other)
    : page = other := by
  obtain ⟨events, sorted, exactly, rfl⟩ := isPage
  obtain ⟨others, othersSorted, othersExactly, rfl⟩ := otherIsPage
  rw [sorted.ext othersSorted fun event => (exactly event).trans (othersExactly event).symm]

end

-----------------------------------------------------------------------------------------
-- The in-memory store
-----------------------------------------------------------------------------------------

/-- A call of the session store. -/
inductive SessionCall where
  | createSession (session : CompatGatewaySession)
  | updateSequence (sessionId : String) (sequence : Int)
  | resumeSession (sessionId : String) (bot : AuthenticatedBot) (clientSequence : Int)
  | appendReplayEvent (event : CompatGatewayReplayEvent)

/-- The event that a call appends. -/
def SessionCall.appended? : SessionCall → Option CompatGatewayReplayEvent
  | .appendReplayEvent event => some event
  | _ => none

/-- The events that were appended by some calls. -/
def appendedEvents (calls : List SessionCall) : List CompatGatewayReplayEvent :=
  calls.filterMap SessionCall.appended?

namespace SessionStore

def afterCall (store : SessionStore) : SessionCall → SessionStore
  | .createSession session => store.createSession session
  | .updateSequence sessionId sequence => store.updateSequence sessionId sequence
  | .resumeSession sessionId bot clientSequence =>
      (store.resumeSession sessionId bot clientSequence).2
  | .appendReplayEvent event => store.appendReplayEvent event

/-- The store that has taken some calls from its start on. -/
def afterCalls (calls : List SessionCall) : SessionStore := calls.foldl afterCall empty

@[simp] theorem eventsOf_resumeSession (store : SessionStore) (resumed sessionId : String)
    (bot : AuthenticatedBot) (clientSequence : Int)
    : (store.resumeSession resumed bot clientSequence).2.eventsOf sessionId
        = store.eventsOf sessionId := by
  rw [resumeSession]
  split
  · rfl
  · split
    · split <;> rfl
    · rfl

/-- A call changes the recorded events by the event that it appends. -/
theorem eventsOf_afterCall (store : SessionStore) (call : SessionCall) (sessionId : String)
    : (store.afterCall call).eventsOf sessionId
        = match call.appended? with
          | some event => (store.appendReplayEvent event).eventsOf sessionId
          | none => store.eventsOf sessionId := by
  cases call <;> simp [afterCall, SessionCall.appended?]

/-- The recorded events of a session are the last ones of their numbers, sorted. -/
structure Records (store : SessionStore) (history : List CompatGatewayReplayEvent) : Prop where
  sorted : ∀ sessionId,
    KeyedLog.Sorted CompatGatewayReplayEvent.sequence (store.eventsOf sessionId)
  exactly : ∀ sessionId event, event ∈ store.eventsOf sessionId
    ↔ KeyedLog.LastArrival CompatGatewayReplayEvent.place history event
      ∧ event.sessionId = sessionId

theorem Records.empty : Records .empty [] := by
  constructor
  · intro sessionId
    exact List.Pairwise.nil
  · intro sessionId event
    refine iff_of_false List.not_mem_nil ?_
    rintro ⟨arrival, -⟩
    exact KeyedLog.not_lastArrival_nil arrival

/-- An append replaces the event of its number or adds one, in its own session. -/
theorem Records.append {store : SessionStore} {history : List CompatGatewayReplayEvent}
    (records : store.Records history) (event : CompatGatewayReplayEvent)
    : (store.appendReplayEvent event).Records (history ++ [event]) := by
  constructor
  · intro sessionId
    rw [eventsOf_appendReplayEvent]
    split
    · exact (records.sorted _).upsert event
    · exact records.sorted sessionId
  · intro sessionId other
    rw [eventsOf_appendReplayEvent, KeyedLog.lastArrival_concat]
    split
    · next own =>
        subst own
        rw [(records.sorted _).mem_upsert, records.exactly]
        simp only [CompatGatewayReplayEvent.place, ne_eq, Prod.mk.injEq]
        grind
    · next elsewhere =>
        rw [records.exactly]
        simp only [CompatGatewayReplayEvent.place, ne_eq, Prod.mk.injEq]
        grind

/-- Only the recorded events matter. -/
theorem Records.of_eventsOf {store other : SessionStore}
    {history : List CompatGatewayReplayEvent} (records : store.Records history)
    (same : ∀ sessionId, other.eventsOf sessionId = store.eventsOf sessionId)
    : other.Records history :=
  ⟨fun sessionId => same sessionId ▸ records.sorted sessionId,
    fun sessionId => same sessionId ▸ records.exactly sessionId⟩

/-- Calls record the events that they append, by induction over the calls from the last one. -/
theorem records_afterCalls (calls : List SessionCall)
    : (afterCalls calls).Records (appendedEvents calls) := by
  induction calls using List.reverseRecOn with
  | nil => exact .empty
  | append_singleton calls call ih =>
      have unfolded : afterCalls (calls ++ [call]) = (afterCalls calls).afterCall call := by
        rw [afterCalls, List.foldl_append]
        rfl
      have events := (afterCalls calls).eventsOf_afterCall call
      rw [unfolded, appendedEvents, List.filterMap_append, ← appendedEvents]
      cases appended : call.appended? with
      | none =>
          simp only [List.filterMap_cons, appended, List.filterMap_nil, List.append_nil]
          exact ih.of_eventsOf fun sessionId => by rw [events, appended]
      | some event =>
          simp only [List.filterMap_cons, appended, List.filterMap_nil]
          exact (ih.append event).of_eventsOf fun sessionId => by rw [events, appended]

/-- What a store lists of what it records is a page. -/
theorem Records.isReplayPage {store : SessionStore} {history : List CompatGatewayReplayEvent}
    (records : store.Records history) (sessionId : String) (sequence : Int) (limit : Nat)
    : IsReplayPage history sessionId sequence limit
        (store.listReplayEventsAfter sessionId sequence limit) := by
  refine ⟨(store.eventsOf sessionId).filter fun event => decide (sequence < event.sequence),
    (records.sorted sessionId).sublist List.filter_sublist, fun event => ?_, rfl⟩
  rw [List.mem_filter, records.exactly, decide_eq_true_eq, and_assoc]

end SessionStore

-----------------------------------------------------------------------------------------
-- The Postgres store
-----------------------------------------------------------------------------------------

inductive CompatGatewayError where
  | storeUnavailable
  deriving DecidableEq

/-- A `jsonb` column: what it stores of a written value, and what is read back of it. -/
structure Jsonb (column : Type) where
  store : Json → Option column
  load : column → Option Json

/-- The column gives a value back. -/
def Jsonb.Keeps {column : Type} (jsonb : Jsonb column) (payload : Json) : Prop :=
  (jsonb.store payload).bind jsonb.load = some payload

/-- A row of `compat_gateway_replay_events`. -/
structure ReplayRow (column : Type) where
  sessionId : String
  sequence : Int
  eventType : String
  payload : column

/-- The primary key of a row. -/
def ReplayRow.place {column : Type} (row : ReplayRow column) : String × Int :=
  (row.sessionId, row.sequence)

abbrev ReplayTable (column : Type) := Table (String × Int) (ReplayRow column)

namespace ReplayTable

variable {column : Type} (jsonb : Jsonb column)

def rowOf (event : CompatGatewayReplayEvent) : Option (ReplayRow column) :=
  (jsonb.store event.payload).map fun payload =>
    ⟨event.sessionId, event.sequence, event.eventType, payload⟩

def replayEventFromRow (row : ReplayRow column)
    : Except CompatGatewayError CompatGatewayReplayEvent :=
  match jsonb.load row.payload with
  | some payload => .ok ⟨row.sessionId, row.sequence, row.eventType, payload⟩
  | none => .error .storeUnavailable

/-- The insertion of an event, which updates the row with its primary key where there is one. -/
def upsert (table : ReplayTable column) (event : CompatGatewayReplayEvent)
    : Option (ReplayTable column) :=
  (rowOf jsonb event).map fun row => table.insert row.place row

/-- The rows of a session after a number, in the order of their numbers. -/
def rowsAfter (table : ReplayTable column) (sessionId : String) (sequence : Int)
    : List (ReplayRow column) :=
  (table.values.filter fun row =>
    decide (row.sessionId = sessionId ∧ sequence < row.sequence)).insertionSort
      fun left right => left.sequence ≤ right.sequence

def listReplayEventsAfter (table : ReplayTable column) (sessionId : String) (sequence : Int)
    (limit : Nat) : Except CompatGatewayError (List CompatGatewayReplayEvent) :=
  ((table.rowsAfter sessionId sequence).take limit).mapM (replayEventFromRow jsonb)

/-- The table has one row for each last event of a session and a number. -/
structure Records (table : ReplayTable column) (history : List CompatGatewayReplayEvent)
    : Prop where
  keyed : Table.Keyed ReplayRow.place table
  exactly : ∀ row, row ∈ table.values
    ↔ ∃ event, KeyedLog.LastArrival CompatGatewayReplayEvent.place history event
      ∧ rowOf jsonb event = some row

variable {jsonb}

theorem place_of_rowOf {event : CompatGatewayReplayEvent} {row : ReplayRow column}
    (written : rowOf jsonb event = some row)
    : row.place = event.place := by
  obtain ⟨payload, -, rfl⟩ := Option.map_eq_some_iff.mp written
  rfl

/-- A row of a value that the column keeps is read as its event. -/
theorem replayEventFromRow_of_keeps {event : CompatGatewayReplayEvent} {row : ReplayRow column}
    (keeps : jsonb.Keeps event.payload) (written : rowOf jsonb event = some row)
    : replayEventFromRow jsonb row = .ok event := by
  obtain ⟨payload, stored, rfl⟩ := Option.map_eq_some_iff.mp written
  rw [Jsonb.Keeps, stored, Option.bind_some] at keeps
  rw [replayEventFromRow, keeps]

theorem exists_rowOf {event : CompatGatewayReplayEvent} (keeps : jsonb.Keeps event.payload)
    : ∃ row, rowOf jsonb event = some row := by
  obtain ⟨payload, stored, -⟩ := Option.bind_eq_some_iff.mp keeps
  exact ⟨_, Option.map_eq_some_iff.mpr ⟨payload, stored, rfl⟩⟩

theorem Records.empty : Records jsonb ∅ [] := by
  constructor
  · exact Table.forall_empty
  · intro row
    refine iff_of_false ?_ ?_
    · rintro mem
      obtain ⟨place, found⟩ := Table.mem_values.mp mem
      rw [AList.lookup_empty] at found
      cases found
    · rintro ⟨event, arrival, -⟩
      exact KeyedLog.not_lastArrival_nil arrival

/-- An insertion leaves the rows under other primary keys. -/
theorem Records.upsert {table next : ReplayTable column}
    {history : List CompatGatewayReplayEvent} (records : table.Records jsonb history)
    {event : CompatGatewayReplayEvent} (inserted : table.upsert jsonb event = some next)
    : next.Records jsonb (history ++ [event]) := by
  obtain ⟨row, written, rfl⟩ := Option.map_eq_some_iff.mp inserted
  refine ⟨records.keyed.insert row, fun other => ?_⟩
  have keyed := records.keyed.insert row
  have stored : other ∈ Table.values (table.insert row.place row)
      ↔ other = row ∨ other ∈ table.values ∧ other.place ≠ row.place := by
    simp only [Table.mem_values, Table.lookup_insert_eq]
    constructor
    · rintro ⟨place, found⟩
      split at found
      · exact .inl (Option.some.inj found).symm
      · next differs =>
          refine .inr ⟨⟨place, found⟩, ?_⟩
          rw [records.keyed place other found]
          exact differs
    · rintro (rfl | ⟨⟨place, found⟩, differs⟩)
      · exact ⟨other.place, if_pos rfl⟩
      · rw [records.keyed place other found] at differs
        exact ⟨place, (if_neg differs).trans found⟩
  rw [stored, records.exactly]
  constructor
  · rintro (rfl | ⟨⟨earlier, arrival, earlierWritten⟩, differs⟩)
    · exact ⟨event, KeyedLog.lastArrival_concat.mpr (.inl rfl), written⟩
    · rw [place_of_rowOf written, place_of_rowOf earlierWritten] at differs
      exact ⟨earlier, KeyedLog.lastArrival_concat.mpr (.inr ⟨arrival, differs⟩), earlierWritten⟩
  · rintro ⟨earlier, arrival, earlierWritten⟩
    rcases KeyedLog.lastArrival_concat.mp arrival with rfl | ⟨arrival, differs⟩
    · exact .inl (Option.some.inj (earlierWritten.symm.trans written))
    · refine .inr ⟨⟨earlier, arrival, earlierWritten⟩, ?_⟩
      rw [place_of_rowOf written, place_of_rowOf earlierWritten]
      exact differs

/-- Events whose values the column takes are all inserted, by induction over them. -/
theorem exists_records {history : List CompatGatewayReplayEvent}
    (keeps : ∀ event ∈ history, jsonb.Keeps event.payload)
    : ∃ table, run (upsert jsonb) ∅ history = some table ∧ table.Records jsonb history := by
  induction history using List.reverseRecOn with
  | nil => exact ⟨∅, rfl, .empty⟩
  | append_singleton history event ih =>
      obtain ⟨table, ran, records⟩ := ih fun earlier mem => keeps earlier (by simp [mem])
      obtain ⟨row, written⟩ := exists_rowOf (keeps event (by simp))
      have inserted : upsert jsonb table event = some (table.insert row.place row) := by
        rw [upsert, written, Option.map_some]
      exact ⟨_, run_concat ran inserted, records.upsert inserted⟩

/-- The rows of a session have different numbers. -/
theorem Records.sorted_rowsAfter {table : ReplayTable column}
    {history : List CompatGatewayReplayEvent} (records : table.Records jsonb history)
    (sessionId : String) (sequence : Int)
    : KeyedLog.Sorted ReplayRow.sequence (table.rowsAfter sessionId sequence) := by
  apply KeyedLog.sorted_insertionSort
  have places := Table.nodup_map_values records.keyed
  rw [List.Nodup, List.pairwise_map] at places ⊢
  refine (places.sublist List.filter_sublist).imp_of_mem fun {left right} leftMem rightMem => ?_
  simp only [List.mem_filter, decide_eq_true_eq] at leftMem rightMem
  intro differs same
  exact differs (Prod.ext (leftMem.2.1.trans rightMem.2.1.symm) same)

/-- The sorted rows are the rows of the listed events. -/
theorem Records.rowsAfter_eq {table : ReplayTable column}
    {history events : List CompatGatewayReplayEvent} {sessionId : String} {sequence : Int}
    (records : table.Records jsonb history)
    (sorted : KeyedLog.Sorted CompatGatewayReplayEvent.sequence events)
    (exactly : ∀ event, event ∈ events
      ↔ KeyedLog.LastArrival CompatGatewayReplayEvent.place history event
        ∧ event.sessionId = sessionId ∧ sequence < event.sequence)
    : table.rowsAfter sessionId sequence = events.filterMap (rowOf jsonb) := by
  apply (records.sorted_rowsAfter sessionId sequence).ext
  · apply List.pairwise_filterMap.mpr
    apply sorted.imp
    intro first second less row written other otherWritten
    have firstPlace := congrArg Prod.snd (place_of_rowOf written)
    have secondPlace := congrArg Prod.snd (place_of_rowOf otherWritten)
    simp only [ReplayRow.place, CompatGatewayReplayEvent.place] at firstPlace secondPlace
    rw [firstPlace, secondPlace]
    exact less
  · intro row
    rw [rowsAfter, (List.perm_insertionSort _ _).mem_iff, List.mem_filter, records.exactly,
      List.mem_filterMap, decide_eq_true_eq]
    simp only [exactly]
    constructor
    · rintro ⟨⟨event, arrival, written⟩, own, later⟩
      obtain ⟨payload, -, rfl⟩ := Option.map_eq_some_iff.mp written
      exact ⟨event, ⟨arrival, own, later⟩, written⟩
    · rintro ⟨event, ⟨arrival, own, later⟩, written⟩
      refine ⟨⟨event, arrival, written⟩, ?_⟩
      obtain ⟨payload, -, rfl⟩ := Option.map_eq_some_iff.mp written
      exact ⟨own, later⟩

/-- The first rows of some events are read as the first of them, by induction over them. -/
theorem mapM_take_filterMap {events : List CompatGatewayReplayEvent}
    (keeps : ∀ event ∈ events, jsonb.Keeps event.payload) (limit : Nat)
    : ((events.filterMap (rowOf jsonb)).take limit).mapM (replayEventFromRow jsonb)
      = .ok (events.take limit) := by
  induction events generalizing limit with
  | nil =>
      rw [List.filterMap_nil, List.take_nil, List.take_nil]
      rfl
  | cons event events ih =>
      obtain ⟨row, written⟩ := exists_rowOf (keeps event List.mem_cons_self)
      rw [List.filterMap_cons, written]
      cases limit with
      | zero => rfl
      | succ limit =>
          have rest := ih (fun later mem => keeps later (List.mem_cons_of_mem _ mem)) limit
          rw [List.take_succ_cons, List.take_succ_cons, List.mapM_cons, rest,
            replayEventFromRow_of_keeps (keeps event List.mem_cons_self) written]
          rfl

/-- The query lists a page of what was inserted. -/
theorem Records.lists_page {table : ReplayTable column}
    {history page : List CompatGatewayReplayEvent} {sessionId : String} {sequence : Int}
    {limit : Nat} (records : table.Records jsonb history)
    (keeps : ∀ event ∈ history, jsonb.Keeps event.payload)
    (isPage : IsReplayPage history sessionId sequence limit page)
    : listReplayEventsAfter jsonb table sessionId sequence limit = .ok page := by
  obtain ⟨events, sorted, exactly, rfl⟩ := isPage
  rw [listReplayEventsAfter, records.rowsAfter_eq sorted exactly]
  exact mapM_take_filterMap (fun event mem => keeps event ((exactly event).mp mem).1.mem) limit

end ReplayTable

/-- The table of the events, and the sessions that its rows refer to. -/
structure PostgresSessionStore (column : Type) where
  sessions : Table String CompatGatewaySession
  replayEvents : ReplayTable column

namespace PostgresSessionStore

variable {column : Type}

/-- An append, as the table checks it: its number is positive and its session exists. -/
def appendReplayEvent (jsonb : Jsonb column) (store : PostgresSessionStore column)
    (event : CompatGatewayReplayEvent)
    : Except CompatGatewayError (PostgresSessionStore column) :=
  match ReplayTable.upsert jsonb store.replayEvents event with
  | some replayEvents =>
      if 0 < event.sequence ∧ event.sessionId ∈ store.sessions then
        .ok { store with replayEvents := replayEvents }
      else
        .error .storeUnavailable
  | none => .error .storeUnavailable

/-- An append that succeeds is an insertion. -/
theorem upsert_of_appendReplayEvent {jsonb : Jsonb column}
    {store next : PostgresSessionStore column} {event : CompatGatewayReplayEvent}
    (appended : store.appendReplayEvent jsonb event = .ok next)
    : store.replayEvents.upsert jsonb event = some next.replayEvents := by
  rw [appendReplayEvent] at appended
  split at appended
  · next replayEvents inserted =>
      split at appended
      · cases appended
        exact inserted
      · cases appended
  · cases appended

/-- Appends that succeed record their events, by induction over them. -/
theorem records_of_appends {jsonb : Jsonb column} {store last : PostgresSessionStore column}
    {before history : List CompatGatewayReplayEvent}
    (records : store.replayEvents.Records jsonb before)
    (appended : history.foldlM (appendReplayEvent jsonb) store = .ok last)
    : last.replayEvents.Records jsonb (before ++ history) := by
  induction history generalizing store before with
  | nil =>
      cases appended
      rw [List.append_nil]
      exact records
  | cons event history ih =>
      rw [List.foldlM_cons] at appended
      obtain ⟨next, first, rest⟩ := Eff.check_bind_eq_ok.mp appended
      rw [List.append_cons]
      exact ih (records.upsert (upsert_of_appendReplayEvent first)) rest

/-- What the table checks of an event besides its value. -/
def Accepts (store : PostgresSessionStore column) (event : CompatGatewayReplayEvent) : Prop :=
  0 < event.sequence ∧ event.sessionId ∈ store.sessions

/-- Accepted events are all appended, by induction over them; no append touches the sessions. -/
theorem exists_appends {jsonb : Jsonb column} {store : PostgresSessionStore column}
    {history : List CompatGatewayReplayEvent}
    (keeps : ∀ event ∈ history, jsonb.Keeps event.payload)
    (accepted : ∀ event ∈ history, store.Accepts event)
    : ∃ last, history.foldlM (appendReplayEvent jsonb) store = .ok last := by
  induction history generalizing store with
  | nil => exact ⟨store, rfl⟩
  | cons event history ih =>
      obtain ⟨row, written⟩ := ReplayTable.exists_rowOf (keeps event List.mem_cons_self)
      let next : PostgresSessionStore column :=
        { store with replayEvents := store.replayEvents.insert row.place row }
      have first : store.appendReplayEvent jsonb event = .ok next := by
        rw [appendReplayEvent, ReplayTable.upsert, written, Option.map_some]
        exact if_pos (accepted event List.mem_cons_self)
      obtain ⟨last, rest⟩ := @ih next (fun later mem => keeps later (List.mem_cons_of_mem _ mem))
        fun later mem => accepted later (List.mem_cons_of_mem _ mem)
      exact ⟨last, by rw [List.foldlM_cons, first]; exact rest⟩

/-- Appended to a table without events, they are listed in pages. -/
theorem exists_appends_listed {jsonb : Jsonb column} {store : PostgresSessionStore column}
    {history page : List CompatGatewayReplayEvent} {sessionId : String} {sequence : Int}
    {limit : Nat} (new : store.replayEvents = ∅)
    (keeps : ∀ event ∈ history, jsonb.Keeps event.payload)
    (accepted : ∀ event ∈ history, store.Accepts event)
    (isPage : IsReplayPage history sessionId sequence limit page)
    : ∃ last, history.foldlM (appendReplayEvent jsonb) store = .ok last
        ∧ last.replayEvents.listReplayEventsAfter jsonb sessionId sequence limit
          = .ok page := by
  obtain ⟨last, appended⟩ := exists_appends keeps accepted
  have records : store.replayEvents.Records jsonb [] := new ▸ ReplayTable.Records.empty
  have records := records_of_appends records appended
  exact ⟨last, appended, records.lists_page keeps isPage⟩

end PostgresSessionStore

-----------------------------------------------------------------------------------------
-- Both stores
-----------------------------------------------------------------------------------------

/-- The in-memory store lists the pages of the appended events, whatever other calls it takes,
and so does the query over the table into which the same events were inserted, and over that of
a Postgres store that accepts their appends.
-/
theorem listReplayEventsAfter_isReplayPage (calls : List SessionCall) (sessionId : String)
    (sequence : Int) (limit : Nat)
    : IsReplayPage (appendedEvents calls) sessionId sequence limit
          ((SessionStore.afterCalls calls).listReplayEventsAfter sessionId sequence limit)
        ∧ ∀ {column : Type} (jsonb : Jsonb column),
            (∀ event ∈ appendedEvents calls, jsonb.Keeps event.payload) →
            (∃ table, run (ReplayTable.upsert jsonb) ∅ (appendedEvents calls) = some table
              ∧ ReplayTable.listReplayEventsAfter jsonb table sessionId sequence limit
                = .ok ((SessionStore.afterCalls calls).listReplayEventsAfter sessionId sequence
                    limit))
            ∧ ∀ store : PostgresSessionStore column, store.replayEvents = ∅ →
                (∀ event ∈ appendedEvents calls, store.Accepts event) →
                ∃ last, (appendedEvents calls).foldlM
                      (PostgresSessionStore.appendReplayEvent jsonb) store = .ok last
                  ∧ last.replayEvents.listReplayEventsAfter jsonb sessionId sequence limit
                    = .ok ((SessionStore.afterCalls calls).listReplayEventsAfter sessionId
                        sequence limit) := by
  have isPage := (SessionStore.records_afterCalls calls).isReplayPage sessionId sequence limit
  refine ⟨isPage, fun {column} jsonb keeps => ⟨?_, fun store new accepted => ?_⟩⟩
  · obtain ⟨table, ran, records⟩ := ReplayTable.exists_records keeps
    exact ⟨table, ran, records.lists_page keeps isPage⟩
  · exact PostgresSessionStore.exists_appends_listed new keeps accepted isPage

/-- Four dispatches that are recorded out of order, one of them twice. -/
def outOfOrder : List SessionCall :=
  [.appendReplayEvent ⟨"gw_session", 4, "MESSAGE_UPDATE", .string "message-4"⟩,
    .appendReplayEvent ⟨"gw_session", 2, "MESSAGE_CREATE", .string "message-2"⟩,
    .updateSequence "gw_session" 4,
    .appendReplayEvent ⟨"gw_other", 3, "GUILD_UPDATE", .string "guild"⟩,
    .appendReplayEvent ⟨"gw_session", 3, "MESSAGE_CREATE", .string "message-3"⟩,
    .appendReplayEvent ⟨"gw_session", 3, "MESSAGE_DELETE", .string "message-3"⟩]

/-- A store with the sessions of the dispatches. -/
def twoSessions : PostgresSessionStore Json where
  sessions := AList.insert "gw_other" ⟨"gw_other", .ofNat 40, .ofNat 10, .ofNat 5, 3, 1⟩
    (AList.insert "gw_session" ⟨"gw_session", .ofNat 40, .ofNat 10, .ofNat 5, 4, 1⟩ ∅)
  replayEvents := ∅

theorem outOfOrder_listed
    : (∃ table, run (ReplayTable.upsert ⟨some, some⟩) ∅ (appendedEvents outOfOrder) = some table
        ∧ ReplayTable.listReplayEventsAfter ⟨some, some⟩ table "gw_session" 2 10
          = .ok [⟨"gw_session", 3, "MESSAGE_DELETE", .string "message-3"⟩,
              ⟨"gw_session", 4, "MESSAGE_UPDATE", .string "message-4"⟩])
        ∧ ∃ last, (appendedEvents outOfOrder).foldlM
              (PostgresSessionStore.appendReplayEvent ⟨some, some⟩) twoSessions = .ok last
          ∧ last.replayEvents.listReplayEventsAfter ⟨some, some⟩ "gw_session" 2 10
            = .ok [⟨"gw_session", 3, "MESSAGE_DELETE", .string "message-3"⟩,
                ⟨"gw_session", 4, "MESSAGE_UPDATE", .string "message-4"⟩] := by
  obtain ⟨inserted, appended⟩ :=
    (listReplayEventsAfter_isReplayPage outOfOrder "gw_session" 2 10).2 ⟨some, some⟩
      fun _ _ => rfl
  refine ⟨inserted, appended twoSessions rfl fun event listed => ?_⟩
  simp only [appendedEvents, outOfOrder, SessionCall.appended?, List.filterMap_cons,
    List.filterMap_nil, List.mem_cons, List.not_mem_nil, or_false] at listed
  rcases listed with rfl | rfl | rfl | rfl | rfl <;>
    exact ⟨by decide, by decide⟩

end OpenCord.Gateway
