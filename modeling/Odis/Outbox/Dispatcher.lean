import Mathlib.Data.List.Nodup
import Odis.Library.Exceptions
import Odis.Outbox.Events

/-!
# The outbox dispatcher

`OutboxDispatcher.dispatch` (`application/outbox_dispatcher.py`) publishes the undispatched rows one
after the other, in one unit of work: the domain event of a row goes to the handlers of the bus, and
its integration event, if it has one, to the publisher. An exception of the publisher is caught row
by row; one of `_deserialize_domain_event` or of a handler leaves the loop, and the unit of work
rolls back every mark made before.

* `markedAfterLegs_dispatch`: no row is marked before its legs have succeeded.
* `dispatch_isolated_iff`: when exactly the rows whose legs succeed are marked durably.
-/

namespace Odis.Outbox

variable {F E : Type}

/-- What a dispatcher meets, row by row: what the handlers of the bus do with the row's event, in
the order they were registered, and what the publisher does, if there is one. -/
structure Environment (F E : Type) where
  handlers : OutboxEvent F → DomainEvent → List (Except E Unit)
  publisher : Option (OutboxEvent F → IntegrationEvent F → Except E Bool)
  uuid4 : OutboxEvent F → String
  now : Datetime

/-- What escapes from the loop of `dispatch`. -/
inductive DispatchError (E : Type) where
  | deserialize (error : PyException)
  | handler (error : E)
  deriving DecidableEq, Repr

/-- What a dispatcher does: an event went through the bus, its integration event was accepted, its
row was marked in the session, and the end of the unit of work. -/
inductive Action where
  | published (id : String)
  | accepted (id : String)
  | marked (id : String)
  | committed
  | rolledBack
  deriving DecidableEq, Repr

/-- The session of a unit of work: the rows as it sees them, and what was done in it. -/
structure Session (F : Type) where
  rows : List (OutboxEvent F)
  actions : List Action

/-- `row.dispatched_at = now`. -/
def mark (now : Datetime) (id : String) (rows : List (OutboxEvent F)) : List (OutboxEvent F) :=
  rows.map fun row => if row.id = id then { row with dispatchedAt := some now } else row

/-- `DomainEventBus.publish`: the handlers run in the order they were registered, until one
raises. -/
def busPublish (handlers : List (Except E Unit)) : Except E Unit := handlers.forM id

/-- `_publish_integration_event`. -/
def publishIntegrationEvent (env : Environment F E) (row : OutboxEvent F) (event : DomainEvent) :
    Bool × List Action :=
  match env.publisher with
  | none => (true, [])
  | some publisher =>
      match mapDomainEventToIntegrationEvent (env.uuid4 row) event with
      | none => (true, [])
      | some integrationEvent =>
          match publisher row integrationEvent with
          | .ok true => (true, [.accepted row.id])
          | .ok false => (false, [])
          -- the publisher is expected not to raise, and not trusted in that
          | .error _ => (false, [])

variable [JsonText F]

/-- The body of the loop of `dispatch`. -/
def dispatchRow (env : Environment F E) (row : OutboxEvent F) (session : Session F) :
    Session F × Except (DispatchError E) Unit :=
  match deserializeDomainEvent row.eventType row.payload with
  | .error error => (session, .error (.deserialize error))
  -- an unknown type is left unmarked
  | .ok none => (session, .ok ())
  | .ok (some event) =>
      match busPublish (env.handlers row event) with
      | .error error => (session, .error (.handler error))
      | .ok _ =>
          match publishIntegrationEvent env row event with
          -- the broker has refused the event: the row is read again by a later call
          | (false, _) =>
              ({ session with actions := session.actions ++ [.published row.id] }, .ok ())
          | (true, accepted) =>
              (⟨mark env.now row.id session.rows,
                session.actions ++ (.published row.id :: accepted) ++ [.marked row.id]⟩, .ok ())

/-- The loop of `dispatch`. -/
def dispatchRows (env : Environment F E) : List (OutboxEvent F) → Session F →
    Session F × Except (DispatchError E) Unit
  | [], session => (session, .ok ())
  | row :: rows, session =>
      match dispatchRow env row session with
      | (session, .ok _) => dispatchRows env rows session
      | (session, .error error) => (session, .error error)

/-- What a call of `dispatch` leaves: the rows that are stored, what it did, and whether it
raised. -/
structure Dispatched (F E : Type) where
  table : List (OutboxEvent F)
  actions : List Action
  outcome : Except (DispatchError E) Unit

/-- `OutboxDispatcher.dispatch`, where `events` are the undispatched rows as the query lists them.
A session without marks is committed when the unit of work ends. -/
def dispatch (env : Environment F E) (table events : List (OutboxEvent F)) : Dispatched F E :=
  match dispatchRows env events ⟨table, []⟩ with
  | (session, .ok _) => ⟨session.rows, session.actions ++ [.committed], .ok ()⟩
  -- `SqlAlchemyUnitOfWork.__exit__`
  | (session, .error error) => ⟨table, session.actions ++ [.rolledBack], .error error⟩

/-- What the query of `dispatch` can return: the undispatched rows by creation, rows of one instant
in any order. -/
structure Selected (table events : List (OutboxEvent F)) : Prop where
  perm : events.Perm (table.filter fun row => row.dispatchedAt.isNone)
  sorted : events.Pairwise fun a b => a.createdAt.instant ≤ b.createdAt.instant

/-! ## The legs of a row -/

section Legs

variable (env : Environment F E) (row : OutboxEvent F)

/-- The event of the row goes through the bus, and its integration event, if it has one, is
accepted. -/
def LegsSucceed : Prop :=
  ∃ event, deserializeDomainEvent row.eventType row.payload = .ok (some event) ∧
    (∀ outcome ∈ env.handlers row event, outcome = .ok ()) ∧
      ∀ publisher, env.publisher = some publisher → ∀ integrationEvent,
        mapDomainEventToIntegrationEvent (env.uuid4 row) event = some integrationEvent →
          publisher row integrationEvent = .ok true

/-- The row is read back as no event, or a handler of its event raises. -/
def Raises : Prop :=
  (∃ error, deserializeDomainEvent row.eventType row.payload = .error error) ∨
    ∃ event, deserializeDomainEvent row.eventType row.payload = .ok (some event) ∧
      ∃ error, .error error ∈ env.handlers row event

/-- The event of the row has a leg over the integration boundary. -/
def HasIntegrationLeg : Prop :=
  env.publisher.isSome = true ∧ ∃ event,
    deserializeDomainEvent row.eventType row.payload = .ok (some event) ∧
      (mapDomainEventToIntegrationEvent (F := F) (env.uuid4 row) event).isSome = true

end Legs

/-- The bus raises exactly what some handler raises. -/
theorem busPublish_eq_ok_iff {handlers : List (Except E Unit)} :
    busPublish handlers = .ok () ↔ ∀ outcome ∈ handlers, outcome = .ok () := by
  induction handlers with
  | nil => exact iff_of_true rfl fun _ h => absurd h List.not_mem_nil
  | cons outcome handlers ih =>
      rw [List.forall_mem_cons, ← ih]
      cases outcome with
      | ok u => exact (and_iff_right rfl).symm
      | error error => exact iff_of_false (fun h => nomatch h) fun h => nomatch h.1

omit [JsonText F] in
/-- What the integration leg of a row comes to. -/
theorem publishIntegrationEvent_cases (env : Environment F E) (row : OutboxEvent F)
    (event : DomainEvent) :
    (publishIntegrationEvent env row event = (true, []) ∧
      (env.publisher = none ∨
        mapDomainEventToIntegrationEvent (F := F) (env.uuid4 row) event = none)) ∨
    (∃ publisher integrationEvent, env.publisher = some publisher ∧
      mapDomainEventToIntegrationEvent (env.uuid4 row) event = some integrationEvent ∧
        ((publisher row integrationEvent = .ok true ∧
            publishIntegrationEvent env row event = (true, [.accepted row.id])) ∨
          (publisher row integrationEvent ≠ .ok true ∧
            publishIntegrationEvent env row event = (false, [])))) := by
  unfold publishIntegrationEvent
  cases hpublisher : env.publisher with
  | none => exact Or.inl ⟨rfl, Or.inl rfl⟩
  | some publisher =>
      cases hmap : mapDomainEventToIntegrationEvent (F := F) (env.uuid4 row) event with
      | none => exact Or.inl ⟨rfl, Or.inr rfl⟩
      | some integrationEvent =>
          refine Or.inr ⟨publisher, integrationEvent, rfl, rfl, ?_⟩
          cases hpublish : publisher row integrationEvent with
          | error error => exact Or.inr ⟨fun h => (nomatch h), by simp only [hpublish]⟩
          | ok delivered =>
              cases delivered
              · exact Or.inr ⟨fun h => (nomatch h), by simp only [hpublish]⟩
              · exact Or.inl ⟨rfl, by simp only [hpublish]⟩

/-- What the loop does with a row: it raises and leaves the session, it leaves the row undispatched,
or it marks the row after both legs. -/
inductive RowStep (env : Environment F E) (row : OutboxEvent F) (session : Session F) :
    Session F × Except (DispatchError E) Unit → Prop
  | raises {error} (h : Raises env row) (hlegs : ¬ LegsSucceed env row) :
      RowStep env row session (session, .error error)
  | leaves (actions) (h : ¬ Raises env row) (hlegs : ¬ LegsSucceed env row)
      (hactions : ∀ id, .marked id ∉ actions) :
      RowStep env row session ({ session with actions := session.actions ++ actions }, .ok ())
  | marks (accepted) (h : ¬ Raises env row) (hlegs : LegsSucceed env row)
      (haccepted : HasIntegrationLeg env row → .accepted row.id ∈ accepted)
      (hactions : ∀ id, .marked id ∉ accepted) :
      RowStep env row session
        (⟨mark env.now row.id session.rows,
          session.actions ++ (.published row.id :: accepted) ++ [.marked row.id]⟩, .ok ())

/-- The loop takes such a step with every row. -/
theorem rowStep_dispatchRow (env : Environment F E) (row : OutboxEvent F) (session : Session F) :
    RowStep env row session (dispatchRow env row session) := by
  cases hevent : deserializeDomainEvent row.eventType row.payload with
  | error error =>
      simp only [dispatchRow, hevent]
      -- the row cannot be read back
      refine .raises (Or.inl ⟨error, hevent⟩) ?_
      rintro ⟨event, h, _⟩
      cases hevent.symm.trans h
  | ok found =>
      cases found with
      | none =>
          -- an unknown event type is skipped, and the row left unmarked
          have hstep : dispatchRow env row session =
              ({ session with actions := session.actions ++ [] }, .ok ()) := by
            simp only [dispatchRow, hevent, List.append_nil]
          rw [hstep]
          refine .leaves [] ?_ ?_ fun id => List.not_mem_nil
          · rintro (⟨error, h⟩ | ⟨event, h, _⟩) <;> cases hevent.symm.trans h
          · rintro ⟨event, h, _⟩
            cases hevent.symm.trans h
      | some event =>
          have hunique : ∀ {event'}, deserializeDomainEvent row.eventType row.payload =
              .ok (some event') → event' = event := fun h =>
            (Option.some.inj (Except.ok.inj (hevent.symm.trans h))).symm
          cases hbus : busPublish (env.handlers row event) with
          | error error =>
              -- a handler of the bus has raised
              have hraised : ¬ ∀ outcome ∈ env.handlers row event, outcome = .ok () := by
                rw [← busPublish_eq_ok_iff, hbus]
                exact fun h => nomatch h
              simp only [dispatchRow, hevent, hbus]
              refine .raises (Or.inr ⟨event, hevent, ?_⟩) ?_
              · by_contra hnone
                refine hraised fun outcome houtcome => ?_
                cases outcome with
                | ok u => rfl
                | error error => exact absurd ⟨error, houtcome⟩ hnone
              · rintro ⟨event', h, hhandlers, _⟩
                obtain rfl := hunique h
                exact hraised hhandlers
          | ok u =>
              have hhandlers := busPublish_eq_ok_iff.mp hbus
              have hquiet : ¬ Raises env row := by
                rintro (⟨error, h⟩ | ⟨event', h, error, herror⟩)
                · cases hevent.symm.trans h
                · obtain rfl := hunique h
                  cases hhandlers _ herror
              rcases publishIntegrationEvent_cases env row event with
                ⟨hpublish, hnone⟩ | ⟨publisher, integrationEvent, hpublisher, hmap, hpublish⟩
              · -- the row has no integration leg
                simp only [dispatchRow, hevent, hbus, hpublish]
                refine .marks [] hquiet ⟨event, hevent, hhandlers, ?_⟩ ?_ ?_
                · intro publisher hpublisher integrationEvent hmap
                  rcases hnone with hnone | hnone
                  · cases hnone.symm.trans hpublisher
                  · cases hnone.symm.trans hmap
                · rintro ⟨hpublisher, event', h, hmap⟩
                  obtain rfl := hunique h
                  rcases hnone with hnone | hnone
                  · rw [hnone] at hpublisher
                    cases hpublisher
                  · rw [hnone] at hmap
                    cases hmap
                · exact fun id => List.not_mem_nil
              · rcases hpublish with ⟨hdelivered, hpublish⟩ | ⟨hrefused, hpublish⟩
                · simp only [dispatchRow, hevent, hbus, hpublish]
                  refine .marks [.accepted row.id] hquiet
                    ⟨event, hevent, hhandlers, ?_⟩ (fun _ => List.mem_singleton_self _) ?_
                  · intro publisher' hpublisher' integrationEvent' hmap'
                    obtain rfl := Option.some.inj (hpublisher.symm.trans hpublisher')
                    obtain rfl := Option.some.inj (hmap.symm.trans hmap')
                    exact hdelivered
                  · intro id h
                    cases List.mem_singleton.mp h
                · simp only [dispatchRow, hevent, hbus, hpublish]
                  refine .leaves [.published row.id] hquiet ?_ ?_
                  · rintro ⟨event', h, _, hintegration⟩
                    obtain rfl := hunique h
                    exact hrefused (hintegration publisher hpublisher integrationEvent hmap)
                  · intro id h
                    cases List.mem_singleton.mp h

/-! ## The rows that are marked -/

/-- A row is marked in a table. -/
def Marked (rows : List (OutboxEvent F)) (id : String) : Prop :=
  ∃ row ∈ rows, row.id = id ∧ row.dispatchedAt.isSome = true

omit [JsonText F] in
/-- Marking an id marks the rows with this id and no others. -/
theorem marked_mark {now : Datetime} {id id' : String} {rows : List (OutboxEvent F)} :
    Marked (mark now id rows) id' ↔ Marked rows id' ∨ (id' = id ∧ ∃ row ∈ rows, row.id = id) := by
  unfold Marked mark
  constructor
  · rintro ⟨row', hrow', hid, hmarked⟩
    obtain ⟨row, hrow, rfl⟩ := List.mem_map.mp hrow'
    split_ifs at hid hmarked with h
    · exact Or.inr ⟨hid.symm.trans h, row, hrow, h⟩
    · exact Or.inl ⟨row, hrow, hid, hmarked⟩
  · rintro (⟨row, hrow, hid, hmarked⟩ | ⟨rfl, row, hrow, hid⟩)
    · refine ⟨_, List.mem_map_of_mem hrow, ?_, ?_⟩
      · split_ifs <;> exact hid
      · split_ifs
        · rfl
        · exact hmarked
    · refine ⟨_, List.mem_map_of_mem hrow, ?_, ?_⟩
      · rw [if_pos hid]
        exact hid
      · rw [if_pos hid]
        rfl

omit [JsonText F] in
/-- Marking a row changes no id. -/
theorem map_id_mark {now : Datetime} {id : String} {rows : List (OutboxEvent F)} :
    (mark now id rows).map OutboxEvent.id = rows.map OutboxEvent.id := by
  rw [mark, List.map_map]
  refine List.map_congr_left fun row _ => ?_
  rw [Function.comp_apply]
  split_ifs <;> rfl

variable {env : Environment F E} {table events : List (OutboxEvent F)} {session : Session F}

/-- A run of the loop that is not left by an exception marks the rows whose legs succeed. -/
theorem marked_dispatchRows {id : String} (hok : (dispatchRows env events session).2 = .ok ()) :
    Marked (dispatchRows env events session).1.rows id ↔
      Marked session.rows id ∨ (id ∈ session.rows.map OutboxEvent.id ∧
        ∃ row ∈ events, row.id = id ∧ LegsSucceed env row) := by
  induction events generalizing session with
  | nil => simp [dispatchRows]
  | cons row events ih =>
      have hstep := rowStep_dispatchRow env row session
      generalize hdispatch : dispatchRow env row session = result at hstep
      rw [dispatchRows, hdispatch] at hok ⊢
      cases hstep with
      | raises _ _ => cases hok
      | leaves actions _ hlegs _ =>
          rw [ih hok]
          -- the legs of the first row did not succeed
          have hexists : (∃ r ∈ row :: events, r.id = id ∧ LegsSucceed env r) ↔
              ∃ r ∈ events, r.id = id ∧ LegsSucceed env r := by
            rw [List.exists_mem_cons_iff, or_iff_right fun h => hlegs h.2]
          rw [hexists]
      | marks accepted _ hlegs _ _ =>
          -- the first row is marked, and the others by the rest of the loop
          rw [ih hok, marked_mark, map_id_mark, List.exists_mem_cons_iff, or_assoc]
          refine or_congr_right ?_
          rw [and_or_left]
          refine or_congr_left ?_
          rw [List.mem_map]
          constructor
          · rintro ⟨rfl, hmem⟩
            exact ⟨hmem, rfl, hlegs⟩
          · rintro ⟨hmem, rfl, _⟩
            exact ⟨rfl, hmem⟩

/-- The loop is left by an exception exactly if some row raises. -/
theorem dispatchRows_ok_iff :
    (dispatchRows env events session).2 = .ok () ↔ ∀ row ∈ events, ¬ Raises env row := by
  induction events generalizing session with
  | nil => exact iff_of_true rfl fun _ h => absurd h List.not_mem_nil
  | cons row events ih =>
      have hstep := rowStep_dispatchRow env row session
      generalize hdispatch : dispatchRow env row session = result at hstep
      rw [dispatchRows, hdispatch, List.forall_mem_cons]
      cases hstep with
      | raises hraises _ => exact iff_of_false (fun h => nomatch h) fun h => h.1 hraises
      | leaves actions hquiet _ _ => exact ih.trans (and_iff_right hquiet).symm
      | marks accepted hquiet _ _ _ => exact ih.trans (and_iff_right hquiet).symm

/-- A call stores the marks of its session if no row raises, and nothing otherwise. -/
theorem dispatch_cases (env : Environment F E) (table events : List (OutboxEvent F)) :
    ((∀ row ∈ events, ¬ Raises env row) ∧
        (dispatchRows env events ⟨table, []⟩).2 = .ok () ∧
          (dispatch env table events).table = (dispatchRows env events ⟨table, []⟩).1.rows) ∨
      ((∃ row ∈ events, Raises env row) ∧ (dispatch env table events).table = table) := by
  have hiff : (dispatchRows env events ⟨table, []⟩).2 = .ok () ↔
      ∀ row ∈ events, ¬ Raises env row := dispatchRows_ok_iff
  unfold dispatch
  split
  next session u hrun =>
    rw [hrun] at hiff ⊢
    exact Or.inl ⟨hiff.mp rfl, rfl, rfl⟩
  next session error hrun =>
    rw [hrun] at hiff
    refine Or.inr ⟨?_, rfl⟩
    by_contra hnone
    have hquiet : ∀ row ∈ events, ¬ Raises env row := fun row hrow hraises =>
      hnone ⟨row, hrow, hraises⟩
    cases hiff.mpr hquiet

/-- Exactly the rows whose legs succeed are marked after the call. -/
def Isolated (env : Environment F E) (table events : List (OutboxEvent F)) : Prop :=
  ∀ row ∈ events, Marked (dispatch env table events).table row.id ↔ LegsSucceed env row

omit [JsonText F] in
/-- The rows that are dispatched are rows of the table that are not marked. -/
theorem Selected.not_marked (hselected : Selected table events)
    (hids : (table.map OutboxEvent.id).Nodup) {row : OutboxEvent F} (hrow : row ∈ events) :
    row ∈ table ∧ ¬ Marked table row.id := by
  obtain ⟨hmem, hundispatched⟩ := List.mem_filter.mp (hselected.perm.mem_iff.mp hrow)
  refine ⟨hmem, ?_⟩
  rintro ⟨row', hrow', hid, hmarked⟩
  rw [List.inj_on_of_nodup_map hids hrow' hmem hid] at hmarked
  cases hdispatched : row.dispatchedAt with
  | none => simp [hdispatched] at hmarked
  | some t => simp [hdispatched] at hundispatched

/-- A call isolates its rows from each other exactly if none of them raises, or none of them could
have been marked anyway. -/
theorem isolated_iff (hids : (table.map OutboxEvent.id).Nodup) (hselected : Selected table events) :
    Isolated env table events ↔
      (∀ row ∈ events, ¬ Raises env row) ∨ ∀ row ∈ events, ¬ LegsSucceed env row := by
  rcases dispatch_cases env table events with ⟨hquiet, hok, htable⟩ | ⟨⟨bad, hbad, hraises⟩, htable⟩
  · refine iff_of_true (fun row hrow => ?_) (Or.inl hquiet)
    obtain ⟨hmem, hunmarked⟩ := hselected.not_marked hids hrow
    rw [htable, marked_dispatchRows hok, or_iff_right hunmarked,
      and_iff_right (List.mem_map_of_mem hmem)]
    constructor
    · rintro ⟨row', hrow', hid, hlegs⟩
      have hmem' := (hselected.not_marked hids hrow').1
      rwa [List.inj_on_of_nodup_map hids hmem' hmem hid] at hlegs
    · exact fun hlegs => ⟨row, hrow, rfl, hlegs⟩
  · have hstored : Isolated env table events ↔ ∀ row ∈ events, ¬ LegsSucceed env row := by
      refine forall₂_congr fun row hrow => ?_
      rw [htable, iff_false_left (hselected.not_marked hids hrow).2]
    rw [hstored]
    exact (or_iff_right fun hquiet => hquiet bad hbad hraises).symm

/-! ## The order of marks and legs -/

/-- Wherever a row is marked, its event has gone through the bus before, and its integration event,
if it has one, was accepted. -/
def MarkedAfterLegs (env : Environment F E) (events : List (OutboxEvent F))
    (actions : List Action) : Prop :=
  ∀ before id after, actions = before ++ .marked id :: after →
    ∃ row ∈ events, row.id = id ∧ .published id ∈ before ∧
      (HasIntegrationLeg env row → .accepted id ∈ before)

/-- A step that marks nothing keeps the order. -/
theorem MarkedAfterLegs.append {actions added : List Action}
    (h : MarkedAfterLegs env events actions) (hadded : ∀ id, .marked id ∉ added) :
    MarkedAfterLegs env events (actions ++ added) := by
  intro before id after hsplit
  rcases List.append_eq_append_iff.mp hsplit with ⟨middle, hbefore, hrest⟩ | ⟨middle, hact, hrest⟩
  · -- the mark would be one of the actions that were added
    exact absurd (hrest ▸ List.mem_append_right middle List.mem_cons_self) (hadded id)
  · cases middle with
    | nil =>
        have hmem : Action.marked id ∈ added := by
          rw [List.nil_append] at hrest
          rw [← hrest]
          exact List.mem_cons_self
        exact absurd hmem (hadded id)
    | cons action middle =>
        obtain ⟨rfl, hrest⟩ := List.cons.inj hrest
        exact h before id middle hact

/-- A mark after the legs of its row keeps the order. -/
theorem MarkedAfterLegs.mark {actions : List Action} {row : OutboxEvent F}
    (h : MarkedAfterLegs env events actions) (hrow : row ∈ events)
    (hpublished : .published row.id ∈ actions)
    (haccepted : HasIntegrationLeg env row → .accepted row.id ∈ actions) :
    MarkedAfterLegs env events (actions ++ [.marked row.id]) := by
  intro before id after hsplit
  -- the mark in question is the new one or stands before it
  rcases List.append_eq_append_iff.mp hsplit with ⟨middle, hbefore, hrest⟩ | ⟨middle, hact, hrest⟩
  · cases middle with
    | nil =>
        obtain ⟨hid, _⟩ := List.cons.inj hrest
        rw [List.append_nil] at hbefore
        cases hid
        rw [hbefore]
        exact ⟨row, hrow, rfl, hpublished, haccepted⟩
    | cons action middle =>
        have hlength := congrArg List.length hrest
        simp at hlength
  · cases middle with
    | nil =>
        obtain ⟨hid, _⟩ := List.cons.inj hrest
        cases hid
        rw [hact, List.append_nil] at hpublished haccepted
        exact ⟨row, hrow, rfl, hpublished, haccepted⟩
    | cons action middle =>
        obtain ⟨rfl, hrest⟩ := List.cons.inj hrest
        exact h before id middle hact

/-- The loop keeps the order. -/
theorem markedAfterLegs_dispatchRows {all : List (OutboxEvent F)} (hall : ∀ row ∈ events, row ∈ all)
    (h : MarkedAfterLegs env all session.actions) :
    MarkedAfterLegs env all (dispatchRows env events session).1.actions := by
  induction events generalizing session with
  | nil => exact h
  | cons row events ih =>
      have hrow := hall row List.mem_cons_self
      have hrest := fun r hr => hall r (List.mem_cons_of_mem row hr)
      have hstep := rowStep_dispatchRow env row session
      generalize hdispatch : dispatchRow env row session = result at hstep
      rw [dispatchRows, hdispatch]
      cases hstep with
      | raises _ _ => exact h
      -- the row is not marked: the broker has refused its event
      | leaves actions _ _ hactions => exact ih hrest (h.append hactions)
      | marks accepted _ _ haccepted hactions =>
          apply ih hrest
          apply MarkedAfterLegs.mark (h.append ?_) hrow
          -- the handlers were called before, and the broker has accepted what it was to be given
          · exact List.mem_append_right _ List.mem_cons_self
          · exact fun hleg =>
              List.mem_append_right _ (List.mem_cons_of_mem _ (haccepted hleg))
          · intro id hmem
            rcases List.mem_cons.mp hmem with hpublished | hmem
            · cases hpublished
            · exact hactions id hmem

/-- No call marks a row before its legs have succeeded, whatever raises. -/
theorem markedAfterLegs_dispatch :
    MarkedAfterLegs env events (dispatch env table events).actions := by
  have hrun : MarkedAfterLegs env events (dispatchRows env events ⟨table, []⟩).1.actions := by
    apply markedAfterLegs_dispatchRows fun row hrow => hrow
    intro before id after hsplit
    cases before <;> cases hsplit
  unfold dispatch
  split
  next session u heq =>
    rw [heq] at hrun
    exact hrun.append fun id hmem => nomatch List.mem_singleton.mp hmem
  next session error heq =>
    rw [heq] at hrun
    exact hrun.append fun id hmem => nomatch List.mem_singleton.mp hmem

/-- What is promised of a call holds exactly if no row raises, or no row has legs that succeed. -/
theorem dispatch_isolated_iff (hids : (table.map OutboxEvent.id).Nodup)
    (hselected : Selected table events) :
    (MarkedAfterLegs env events (dispatch env table events).actions ∧ Isolated env table events) ↔
      (∀ row ∈ events, ¬ Raises env row) ∨ ∀ row ∈ events, ¬ LegsSucceed env row := by
  rw [and_iff_right markedAfterLegs_dispatch]
  exact isolated_iff hids hselected

/-! ## A handler that raises -/

/-- An undispatched row about an observation. -/
def observationRow (id : String) (created : ℤ) : OutboxEvent ℚ where
  id := id
  eventType := "ObservationCreated"
  payload := [("asset_id", .str "asset-1"), ("observation_id", .str id),
    ("timestamp", .str (Datetime.utc created).isoformat)]
  createdAt := Datetime.utc created
  dispatchedAt := none

/-- A bus on which one row's handler raises. -/
def failingBus : Environment ℚ String where
  handlers row _ := if row.id = "second" then [.error "connection refused"] else [.ok ()]
  publisher := none
  uuid4 row := row.id
  now := Datetime.utc 10

/-- The row of an observation is read back as its event. -/
theorem deserialize_observationRow (id : String) {created : ℤ}
    (h : (Datetime.utc created).InRange) :
    deserializeDomainEvent (observationRow id created).eventType
        (observationRow id created).payload =
      .ok (some (.observationCreated "asset-1" id (Datetime.utc created))) := by
  have htimestamp : datetimeItem (observationRow id created).payload "timestamp" =
      .ok (Datetime.utc created) := datetimeItem_isoformat h rfl
  simp only [deserializeDomainEvent, observationRow] at htimestamp ⊢
  simp [htimestamp, textItem, Json.getItem, Json.lookup, Json.text, bind, Except.bind, pure,
    Except.pure]

/-- Two rows, the second of which raises. -/
def twoRows : List (OutboxEvent ℚ) := [observationRow "first" 0, observationRow "second" 1]

theorem selected_twoRows : Selected twoRows twoRows :=
  ⟨List.Perm.refl _, by decide⟩

theorem raises_second : Raises failingBus (observationRow "second" 1) :=
  Or.inr ⟨_, deserialize_observationRow "second" (by decide), "connection refused",
    List.mem_singleton_self _⟩

theorem legsSucceed_first : LegsSucceed failingBus (observationRow "first" 0) :=
  ⟨_, deserialize_observationRow "first" (by decide), by decide, fun _ h => nomatch h⟩

/-- The handler of the second row takes the mark of the first one back. -/
theorem second_row_unmarks_first :
    LegsSucceed failingBus (observationRow "first" 0) ∧
      ¬ Marked (dispatch failingBus twoRows twoRows).table "first" := by
  refine ⟨legsSucceed_first, ?_⟩
  rcases dispatch_cases failingBus twoRows twoRows with ⟨hquiet, _⟩ | ⟨_, htable⟩
  · exact absurd raises_second (hquiet _ (by simp [twoRows]))
  · rw [htable]
    rintro ⟨row, hrow, _, hmarked⟩
    simp only [twoRows, List.mem_cons, List.not_mem_nil, or_false] at hrow
    rcases hrow with rfl | rfl <;> cases hmarked

/-- The law at the two rows, of which the second raises. -/
theorem not_isolated_twoRows :
    ¬ (MarkedAfterLegs failingBus twoRows (dispatch failingBus twoRows twoRows).actions ∧
      Isolated failingBus twoRows twoRows) := by
  rw [dispatch_isolated_iff (by decide) selected_twoRows]
  rintro (hquiet | hnone)
  · exact hquiet _ (by simp [twoRows]) raises_second
  · exact hnone _ (by simp [twoRows]) legsSucceed_first

end Odis.Outbox
