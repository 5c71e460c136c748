import Mathlib.Data.List.TakeWhile
import Odis.AlertPolicy.ConfirmedClass
import Odis.AlertPolicy.Evaluation
import Odis.Python.Statistics

/-!
# Detection, read off the machine

`evaluate_run_detection` reconstructs the detection of a fault from the events of a run, by four
scans. Here its result is compared with the class that the machine has confirmed after each row.

* `find?_events`: the first event of a kind is that of the first row of the kind.
* `detection_readOff`: what the result says of the onset, the latencies and the first class.
-/

namespace Odis.AlertPolicy

/-! ## The confirmed class, row by row -/

section Rows

variable {F : Type} [LE F] [DecidableLE F] {classes : ClassOrder}

/-- The class that a fresh machine has confirmed after some rows. -/
def confirmedClassAfter (config : StateMachineConfig F) (rows : List (AlertRow F classes)) :
    Option String :=
  match runOutcomes config .fresh rows with
  | .error _ => none
  | .ok outcomes => (machineAfter outcomes).confirmedClass

/-- The class after some rows is that of the phase that a run over them leads to. -/
theorem confirmedClassAfter_eq (config : StateMachineConfig F)
    (rows : List (AlertRow F classes)) : confirmedClassAfter config rows =
      (Transducer.after (Phase.transduce config) .fresh rows).toState.confirmedClass := by
  rw [confirmedClassAfter, runOutcomes_fresh]
  exact congrArg AlertMachineState.confirmedClass (machineAfter_outputs config rows)

/-- The class that the machine enters at row `i`. -/
def enteredClass (config : StateMachineConfig F) (rows : List (AlertRow F classes)) (i : ℕ) :
    Option String :=
  let after := confirmedClassAfter config (rows.take (i + 1))
  if confirmedClassAfter config (rows.take i) = after then none else after

/-- Row `i` is the first one, from `start` on, at which the machine enters a class that is
wanted. -/
structure FirstEntry (config : StateMachineConfig F) (rows : List (AlertRow F classes)) (start : F)
    (wanted : String → Prop) (i : ℕ) (c : String) : Prop where
  lt_length : i < rows.length
  late : start ≤ (rows.get ⟨i, lt_length⟩).elapsed
  entered : enteredClass config rows i = some c
  qualifies : wanted c
  first : ∀ j (hj : j < rows.length), j < i → start ≤ rows[j].elapsed →
    ∀ d, enteredClass config rows j = some d → ¬ wanted d

/-- What the event of a row says of the classes before and after it. -/
theorem classStep_at (config : StateMachineConfig F) (rows : List (AlertRow F classes)) {i : ℕ}
    (hi : i < rows.length) :
    ClassStep rows[i].elapsed (confirmedClassAfter config (rows.take i))
      (confirmedClassAfter config (rows.take (i + 1))) (eventAt (Phase.trace config rows) i) := by
  rw [confirmedClassAfter_eq, confirmedClassAfter_eq, Phase.eventAt_trace config rows hi,
    List.take_succ_eq_append_getElem hi, Transducer.after_append]
  exact Phase.step_classStep config _ rows[i]

/-- The class that is entered is that of the event, unless the event is a clear. -/
theorem enteredClass_eq_some_iff (config : StateMachineConfig F) (rows : List (AlertRow F classes))
    {i : ℕ} (hi : i < rows.length) (c : String) :
    enteredClass config rows i = some c ↔
      ∃ event, eventAt (Phase.trace config rows) i = some event ∧ event.eventType ≠ .cleared ∧
        event.faultClass = some c := by
  have hstep := classStep_at config rows hi
  rw [enteredClass]
  generalize confirmedClassAfter config (rows.take i) = before at hstep
  generalize confirmedClassAfter config (rows.take (i + 1)) = after at hstep
  generalize eventAt (Phase.trace config rows) i = event at hstep
  cases hstep with
  | quiet c => simp
  | newAlert c => simp [newAlertEvent]
  | classChange other => simp [classChangeEvent, other]
  | cleared c => simp [clearedEvent]

/-- An event is emitted at the time of its row, and names a class. -/
theorem elapsed_of_eventAt (config : StateMachineConfig F) {rows : List (AlertRow F classes)}
    {i : ℕ} (hi : i < rows.length) {event : AlertEvent F}
    (h : eventAt (Phase.trace config rows) i = some event) :
    event.elapsedSimSeconds = rows[i].elapsed ∧ ∃ c, event.faultClass = some c := by
  have hstep := classStep_at config rows hi
  rw [h] at hstep
  generalize confirmedClassAfter config (rows.take i) = before at hstep
  generalize confirmedClassAfter config (rows.take (i + 1)) = after at hstep
  cases hstep with
  | newAlert c => exact ⟨rfl, c, rfl⟩
  | classChange other => exact ⟨rfl, _, rfl⟩
  | cleared c => exact ⟨rfl, c, rfl⟩

/-! ## The first event of a kind -/

omit [LE F] [DecidableLE F] in
/-- The first event that satisfies a condition is that of the first row whose event does. -/
theorem find?_events {outcomes : List (StepOutcome F)} {q : AlertEvent F → Bool}
    {event : AlertEvent F} :
    (outcomes.filterMap StepOutcome.event).find? q = some event ↔
      ∃ i, eventAt outcomes i = some event ∧ q event = true ∧
        ∀ j, j < i → ∀ event', eventAt outcomes j = some event' → q event' = false := by
  rw [List.find?_filterMap, Option.bind_eq_some_iff]
  constructor
  -- the outcome that is found is the one at some index, and none before it has such an event
  · rintro ⟨outcome, hfind, hevent⟩
    obtain ⟨hq, i, hi, rfl, hbefore⟩ := List.find?_eq_some_iff_getElem.mp hfind
    rw [hevent] at hq
    refine ⟨i, by rw [eventAt, List.getElem?_eq_getElem hi]; exact hevent, hq, ?_⟩
    intro j hj event' hevent'
    have hquiet := hbefore j hj
    rw [eventAt, List.getElem?_eq_getElem (hj.trans hi), Option.bind_some] at hevent'
    rw [hevent'] at hquiet
    simpa using hquiet
  · rintro ⟨i, hevent, hq, hbefore⟩
    obtain ⟨outcome, houtcome, hevent⟩ := Option.bind_eq_some_iff.mp hevent
    obtain ⟨hi, rfl⟩ := List.getElem?_eq_some_iff.mp houtcome
    refine ⟨_, List.find?_eq_some_iff_getElem.mpr ⟨?_, i, hi, rfl, ?_⟩, hevent⟩
    · rw [hevent]
      exact hq
    · intro j hj
      have hquiet := hbefore j hj
      rw [eventAt, List.getElem?_eq_getElem (hj.trans hi), Option.bind_some] at hquiet
      cases hevent' : outcomes[j].event with
      | none => rfl
      | some event' =>
          have hfalse := hquiet event' hevent'
          simp [hfalse]

/-- The first event of an entry is that of the first entry. -/
theorem find?_eq_some_iff_firstEntry (config : StateMachineConfig F)
    (rows : List (AlertRow F classes)) {start : F} {wanted : String → Prop}
    {q : AlertEvent F → Bool}
    (hq : ∀ event c, event.faultClass = some c →
      (q event = true ↔ start ≤ event.elapsedSimSeconds ∧ event.eventType ≠ .cleared ∧ wanted c))
    {event : AlertEvent F} :
    ((Phase.trace config rows).filterMap StepOutcome.event).find? q = some event ↔
      ∃ i c, FirstEntry config rows start wanted i c ∧
        eventAt (Phase.trace config rows) i = some event ∧ event.faultClass = some c := by
  have hlength : (Phase.trace config rows).length = rows.length := Transducer.length_outputs ..
  -- there is one outcome for each row
  have hbound : ∀ {i event}, eventAt (Phase.trace config rows) i = some event →
      i < rows.length := by
    intro i event hevent
    obtain ⟨outcome, houtcome, -⟩ := Option.bind_eq_some_iff.mp hevent
    obtain ⟨hi, -⟩ := List.getElem?_eq_some_iff.mp houtcome
    exact hlength ▸ hi
  rw [find?_events]
  constructor
  · rintro ⟨i, hevent, htrue, hbefore⟩
    have hi := hbound hevent
    obtain ⟨helapsed, c, hclass⟩ := elapsed_of_eventAt config hi hevent
    obtain ⟨hlate, htype, hwanted⟩ := (hq event c hclass).mp htrue
    refine ⟨i, c, ⟨hi, helapsed ▸ hlate,
      (enteredClass_eq_some_iff config rows hi c).mpr ⟨event, hevent, htype, hclass⟩, hwanted, ?_⟩,
      hevent, hclass⟩
    -- an earlier entry would have an earlier event
    intro j hj hji hlate' d hentered hwanted'
    obtain ⟨event', hevent', htype', hclass'⟩ :=
      (enteredClass_eq_some_iff config rows hj d).mp hentered
    have helapsed' := (elapsed_of_eventAt config hj hevent').1
    have hfalse := hbefore j hji event' hevent'
    rw [(hq event' d hclass').mpr ⟨helapsed' ▸ hlate', htype', hwanted'⟩] at hfalse
    cases hfalse
  · rintro ⟨i, c, hentry, hevent, hclass⟩
    have hi := hentry.lt_length
    have helapsed := (elapsed_of_eventAt config hi hevent).1
    obtain ⟨event', hevent', htype, -⟩ :=
      (enteredClass_eq_some_iff config rows hi c).mp hentry.entered
    obtain rfl := Option.some.inj (hevent'.symm.trans hevent)
    refine ⟨i, hevent, (hq _ c hclass).mpr ⟨helapsed ▸ hentry.late, htype, hentry.qualifies⟩, ?_⟩
    intro j hj event'' hevent''
    have hj' := hj.trans hi
    obtain ⟨helapsed'', d, hclass''⟩ := elapsed_of_eventAt config hj' hevent''
    rw [Bool.eq_false_iff]
    intro htrue
    obtain ⟨hlate, htype'', hwanted⟩ := (hq _ d hclass'').mp htrue
    exact hentry.first j hj' hj (helapsed'' ▸ hlate) d
      ((enteredClass_eq_some_iff config rows hj' d).mpr ⟨_, hevent'', htype'', hclass''⟩) hwanted

/-- Every entry has an event. -/
theorem FirstEntry.exists_event {config : StateMachineConfig F} {rows : List (AlertRow F classes)}
    {start : F} {wanted : String → Prop} {i : ℕ} {c : String}
    (h : FirstEntry config rows start wanted i c) :
    ∃ event, eventAt (Phase.trace config rows) i = some event ∧ event.faultClass = some c := by
  obtain ⟨event, hevent, -, hclass⟩ :=
    (enteredClass_eq_some_iff config rows h.lt_length c).mp h.entered
  exact ⟨event, hevent, hclass⟩

end Rows

/-! ## The onset -/

section Onset

variable {F : Type} [PyFloat F] {classes : ClassOrder}

/-- Every event of a run is emitted at the time of a row. -/
theorem exists_row_of_mem_events (config : StateMachineConfig F) (φ : Phase)
    (rows : List (AlertRow F classes)) : ∀ event ∈ (Transducer.outputs (Phase.transduce config) φ
      rows).filterMap StepOutcome.event, ∃ row ∈ rows, event.elapsedSimSeconds = row.elapsed := by
  induction rows generalizing φ with
  | nil =>
      intro event hevent
      cases hevent
  | cons row rows ih =>
      intro event hevent
      rw [Phase.events_cons, List.mem_append, Option.mem_toList] at hevent
      rcases hevent with hevent | hevent
      -- each of the three events is stamped with the time of the row of its step
      · have hstep := Phase.step_classStep config φ row
        rw [Option.mem_def.mp hevent] at hstep
        refine ⟨row, List.mem_cons_self, ?_⟩
        generalize φ.toState.confirmedClass = before at hstep
        generalize (φ.step config row).1.toState.confirmedClass = after at hstep
        cases hstep <;> rfl
      · obtain ⟨row', hrow', heq⟩ := ih _ event hevent
        exact ⟨row', List.mem_cons_of_mem row hrow', heq⟩

/-- The scan for the class at the onset, over an event. -/
def onsetStep (_ : Option String) (event : AlertEvent F) : Option String :=
  match event.eventType with
  | .newAlert => event.faultClass
  | .classChange => event.faultClass
  | .cleared => none

omit [PyFloat F] in
/-- The scan follows the class. -/
theorem foldl_onsetStep {elapsed : F} {before after : Option String}
    {event : Option (AlertEvent F)} (h : ClassStep elapsed before after event) :
    event.toList.foldl onsetStep before = after := by
  cases h <;> rfl

/-- The events before the onset lead to the class after the rows before the onset. -/
theorem foldl_takeWhile_events (config : StateMachineConfig F) (start : F) (φ : Phase)
    (rows : List (AlertRow F classes))
    (hlate : rows.Pairwise fun a b => start ≤ a.elapsed → start ≤ b.elapsed) :
    (((Transducer.outputs (Phase.transduce config) φ rows).filterMap StepOutcome.event).takeWhile
        fun event => ¬ start ≤ event.elapsedSimSeconds).foldl onsetStep φ.toState.confirmedClass =
      (Transducer.after (Phase.transduce config) φ
        (rows.filter fun row => ¬ start ≤ row.elapsed)).toState.confirmedClass := by
  -- by induction on the rows, from whatever phase they are read
  induction rows generalizing φ with
  | nil => rfl
  | cons row rows ih =>
      obtain ⟨hfirst, hrest⟩ := List.pairwise_cons.mp hlate
      by_cases hrow : start ≤ row.elapsed
      · -- all the other rows are late as well
        have hall : ∀ row' ∈ row :: rows, start ≤ row'.elapsed := by
          intro row' hrow'
          rcases List.mem_cons.mp hrow' with rfl | hrow'
          · exact hrow
          · exact hfirst row' hrow' hrow
        have hfilter : (row :: rows).filter (fun row => ¬ start ≤ row.elapsed) = [] := by
          rw [List.filter_eq_nil_iff]
          intro row' hrow'
          simpa using hall row' hrow'
        have hnone : ((Transducer.outputs (Phase.transduce config) φ (row :: rows)).filterMap
            StepOutcome.event).takeWhile (fun event => ¬ start ≤ event.elapsedSimSeconds) = [] := by
          rw [List.takeWhile_eq_nil_iff]
          intro hpos htrue
          obtain ⟨row', hrow', helapsed⟩ :=
            exists_row_of_mem_events config φ (row :: rows) _ (List.get_mem _ ⟨0, hpos⟩)
          apply of_decide_eq_true htrue
          rw [helapsed]
          exact hall row' hrow'
        rw [hfilter, hnone]
        rfl
      -- the row is before the onset, and so is its event
      · have hstep := Phase.step_classStep config φ row
        have hearly : ∀ event ∈ (φ.step config row).2.2.toList,
            decide (¬ start ≤ event.elapsedSimSeconds) = true := by
          intro event hevent
          rw [Option.mem_toList] at hevent
          rw [Option.mem_def.mp hevent] at hstep
          generalize φ.toState.confirmedClass = before at hstep
          generalize (φ.step config row).1.toState.confirmedClass = after at hstep
          cases hstep <;> exact decide_eq_true hrow
        have hfilter : (row :: rows).filter (fun row => ¬ start ≤ row.elapsed) =
            row :: rows.filter fun row => ¬ start ≤ row.elapsed :=
          List.filter_cons_of_pos (by simpa using hrow)
        rw [hfilter, Phase.events_cons, List.takeWhile_append_of_pos hearly, List.foldl_append,
          foldl_onsetStep hstep, Transducer.after_cons]
        exact ih (φ.step config row).1 hrest

/-- The alerts and class changes from `start` on. -/
def postOnsetEvents (events : List (AlertEvent F)) (start : F) : List (AlertEvent F) :=
  events.filter fun event => start ≤ event.elapsedSimSeconds ∧ event.eventType ≠ .cleared

/-- When a wrong class is reported: the first class is another one, and the right one is not entered
at the same time. -/
theorem incorrectClassConfirmedBeforeCorrect_iff (events : List (AlertEvent F))
    (runId faultClass : String) (start : F) :
    (detectionOfEvents events runId faultClass start).incorrectClassConfirmedBeforeCorrect = true ↔
      ∃ event, (postOnsetEvents events start).head? = some event ∧
        event.faultClass ≠ some faultClass ∧
        ∀ correct, (postOnsetEvents events start).find?
            (fun event => event.faultClass = some faultClass) = some correct →
          event.elapsedSimSeconds < correct.elapsedSimSeconds := by
  rw [detectionOfEvents, postOnsetEvents]
  dsimp only
  generalize (events.filter _).head? = head
  generalize (events.filter _).find? _ = correct
  cases head <;> cases correct <;> simp

end Onset

/-! ## The result -/

variable {format : NumberFormat} {classes : ClassOrder}

/-- The result of a detection, in terms of the class that the machine has confirmed. -/
structure DetectionReadOff (config : StateMachineConfig (Number format))
    (rows : List (AlertRow (Number format) classes)) (faultClass : String) (start : Number format)
    (result : RunDetectionResult (Number format)) : Prop where
  /-- The class after all the rows before the start. -/
  onset : result.confirmedClassAtOnset =
    confirmedClassAfter config (rows.filter fun row => row.elapsed.val < start.val)
  /-- The correct class is no sooner detected than any class, and no class before the start. -/
  latencies : result.correctClassDetected = true → result.anyFaultDetected = true ∧
    ∃ any correct, result.anyFaultLatencySeconds = some any ∧
      result.correctClassLatencySeconds = some correct ∧ 0 ≤ any.val ∧ any.val ≤ correct.val
  /-- A detection has a latency, and nothing else has. -/
  detected : result.correctClassDetected = result.correctClassLatencySeconds.isSome
  /-- The latency is that of the first row at which the fault class is entered. -/
  latency_iff : ∀ latency, result.correctClassLatencySeconds = some latency ↔
    ∃ row i, rows[i]? = some row ∧
      FirstEntry config rows start (fun c => c = faultClass) i faultClass ∧
        latency = row.elapsed - start
  /-- The first class that is entered is another one. -/
  incorrect_iff : result.incorrectClassConfirmedBeforeCorrect = true ↔
    ∃ i c, FirstEntry config rows start (fun _ => True) i c ∧ c ≠ faultClass

/-- A difference of rounded numbers is not negative if the first is at least the second. -/
theorem sub_nonneg_of_le {x y : Number format} (h : y.val ≤ x.val) : 0 ≤ (x - y).val := by
  rw [Number.val_sub, ← format.round_zero]
  exact format.round_mono (sub_nonneg.mpr h)

/-! Each part of the result is read off one scan over the events. Two of the scans look for the
first event from the start on: of any entry, and of an entry of the fault class. -/

section Scans

variable {config : StateMachineConfig (Number format)}
  {rows : List (AlertRow (Number format) classes)}
  {faultClass : String} {start : Number format} {wanted : String → Prop} {i j : ℕ} {c d : String}
  {event : AlertEvent (Number format)}

/-- The events that a fresh machine emits over the rows. -/
abbrev runEvents (config : StateMachineConfig (Number format))
    (rows : List (AlertRow (Number format) classes)) : List (AlertEvent (Number format)) :=
  (Phase.trace config rows).filterMap StepOutcome.event

/-- The first event from the start on is that of the first entry. -/
theorem head?_postOnsetEvents_iff :
    (postOnsetEvents (runEvents config rows) start).head? = some event ↔
      ∃ i c, FirstEntry config rows start (fun _ => True) i c ∧
        eventAt (Phase.trace config rows) i = some event ∧ event.faultClass = some c := by
  rw [postOnsetEvents, List.head?_filter]
  apply find?_eq_some_iff_firstEntry
  intro event c hclass
  simp

/-- The first event of the fault class from the start on is that of its first entry. -/
theorem find?_postOnsetEvents_iff :
    (postOnsetEvents (runEvents config rows) start).find?
        (fun event => event.faultClass = some faultClass) = some event ↔
      ∃ i c, FirstEntry config rows start (fun c => c = faultClass) i c ∧
        eventAt (Phase.trace config rows) i = some event ∧ event.faultClass = some c := by
  rw [postOnsetEvents, List.find?_filter]
  apply find?_eq_some_iff_firstEntry
  intro event c hclass
  simp [hclass, and_assoc]

/-- The event of an entry is emitted at its row, which is not before the start. -/
theorem FirstEntry.elapsed_event (h : FirstEntry config rows start wanted i c)
    (hevent : eventAt (Phase.trace config rows) i = some event) :
    ∃ hi : i < rows.length, event.elapsedSimSeconds = rows[i].elapsed ∧
      start.val ≤ rows[i].elapsed.val :=
  ⟨h.lt_length, (elapsed_of_eventAt config h.lt_length hevent).1, h.late⟩

/-- The first entry of any class is not after the first one of a class that is wanted. -/
theorem FirstEntry.le_of_wanted (hany : FirstEntry config rows start (fun _ => True) i c)
    (hwanted : FirstEntry config rows start wanted j d) : i ≤ j := by
  by_contra hlt
  exact hany.first j hwanted.lt_length (not_le.mp hlt) hwanted.late d hwanted.entered trivial

/-- Where the fault class is entered, there is a first event. -/
theorem FirstEntry.exists_head?
    (h : FirstEntry config rows start (fun c => c = faultClass) i c) :
    ∃ event, (postOnsetEvents (runEvents config rows) start).head? = some event := by
  obtain ⟨event, hevent, hclass⟩ := h.exists_event
  have hmem : event ∈ postOnsetEvents (runEvents config rows) start :=
    List.mem_of_find?_eq_some (find?_postOnsetEvents_iff.mpr ⟨i, c, h, hevent, hclass⟩)
  exact ⟨_, List.head?_eq_some_head (List.ne_nil_of_mem hmem)⟩

/-- The scan for the onset: the class after all the rows before the start. -/
theorem confirmedClassAtOnset_detectionOfEvents (runId : String)
    (htimes : rows.Pairwise fun a b => a.elapsed < b.elapsed) :
    (detectionOfEvents (runEvents config rows) runId faultClass start).confirmedClassAtOnset =
      confirmedClassAfter config (rows.filter fun row => row.elapsed.val < start.val) := by
  have hlate : rows.Pairwise fun a b => start ≤ a.elapsed → start ≤ b.elapsed :=
    htimes.imp fun hlt hle => le_trans hle (le_of_lt hlt)
  have hscan := foldl_takeWhile_events config start .fresh rows hlate
  have hfilter : (rows.filter fun row => row.elapsed.val < start.val) =
      rows.filter fun row => ¬ start ≤ row.elapsed := by
    apply List.filter_congr
    intro row _
    exact decide_eq_decide.mpr not_le.symm
  rw [hfilter, confirmedClassAfter_eq, ← hscan]
  rfl

/-- The scans for the latencies: the fault class is no sooner detected than any class, and no class
before the start. -/
theorem latencies_detectionOfEvents (runId : String)
    (htimes : rows.Pairwise fun a b => a.elapsed < b.elapsed)
    (hdetected : (detectionOfEvents (runEvents config rows) runId faultClass
      start).correctClassDetected = true) :
    (detectionOfEvents (runEvents config rows) runId faultClass start).anyFaultDetected = true ∧
      ∃ any correct,
        (detectionOfEvents (runEvents config rows) runId faultClass
          start).anyFaultLatencySeconds = some any ∧
        (detectionOfEvents (runEvents config rows) runId faultClass
          start).correctClassLatencySeconds = some correct ∧
        0 ≤ any.val ∧ any.val ≤ correct.val := by
  obtain ⟨correct, hfind⟩ := Option.isSome_iff_exists.mp hdetected
  obtain ⟨j, d, hj, hevent', -⟩ := find?_postOnsetEvents_iff.mp hfind
  obtain ⟨event, hhead⟩ := hj.exists_head?
  obtain ⟨i, c, hi, hevent, -⟩ := head?_postOnsetEvents_iff.mp hhead
  obtain ⟨hib, helapsed, hstart⟩ := hi.elapsed_event hevent
  obtain ⟨hjb, helapsed', -⟩ := hj.elapsed_event hevent'
  -- the first event of any class is at the row of the wanted one or before it
  have hordered : rows[i].elapsed.val ≤ rows[j].elapsed.val := by
    rcases (hi.le_of_wanted hj).lt_or_eq with hlt | rfl
    · exact Number.le_iff.mp (List.pairwise_iff_getElem.mp htimes i j hib hjb hlt).le
    · exact le_refl _
  let latency := fun event : AlertEvent (Number format) => event.elapsedSimSeconds - start
  refine ⟨congrArg Option.isSome hhead, latency event, latency correct,
    congrArg (Option.map latency) hhead, congrArg (Option.map latency) hfind, ?_, ?_⟩
  · show 0 ≤ (event.elapsedSimSeconds - start).val
    rw [helapsed]
    exact sub_nonneg_of_le hstart
  · show (event.elapsedSimSeconds - start).val ≤ (correct.elapsedSimSeconds - start).val
    rw [helapsed, helapsed']
    exact Number.sub_mono_left hordered start

/-- The scan for the fault class: its latency is that of the first row at which it is entered. -/
theorem latency_detectionOfEvents_iff (runId : String) {latency : Number format} :
    (detectionOfEvents (runEvents config rows) runId faultClass
        start).correctClassLatencySeconds = some latency ↔
      ∃ row i, rows[i]? = some row ∧
        FirstEntry config rows start (fun c => c = faultClass) i faultClass ∧
          latency = row.elapsed - start := by
  show Option.map _ ((postOnsetEvents (runEvents config rows) start).find? _) = some latency ↔ _
  rw [Option.map_eq_some_iff]
  constructor
  · rintro ⟨event, hfind, rfl⟩
    obtain ⟨i, c, hi, hevent, -⟩ := find?_postOnsetEvents_iff.mp hfind
    obtain rfl : c = faultClass := hi.qualifies
    obtain ⟨hib, helapsed, -⟩ := hi.elapsed_event hevent
    exact ⟨rows[i], i, List.getElem?_eq_getElem hib, hi, by rw [helapsed]⟩
  · rintro ⟨row, i, hrow, hi, rfl⟩
    obtain ⟨event, hevent, hclass⟩ := hi.exists_event
    obtain ⟨hib, helapsed, -⟩ := hi.elapsed_event hevent
    obtain rfl : rows[i] = row := Option.some.inj ((List.getElem?_eq_getElem hib).symm.trans hrow)
    exact ⟨event, find?_postOnsetEvents_iff.mpr ⟨i, faultClass, hi, hevent, hclass⟩,
      by rw [helapsed]⟩

/-- Both scans together: a wrong class is reported exactly if the first class that is entered is
another one. -/
theorem incorrect_detectionOfEvents_iff (runId : String)
    (htimes : rows.Pairwise fun a b => a.elapsed < b.elapsed) :
    (detectionOfEvents (runEvents config rows) runId faultClass
        start).incorrectClassConfirmedBeforeCorrect = true ↔
      ∃ i c, FirstEntry config rows start (fun _ => True) i c ∧ c ≠ faultClass := by
  rw [incorrectClassConfirmedBeforeCorrect_iff]
  constructor
  · rintro ⟨event, hhead, hclass, -⟩
    obtain ⟨i, c, hi, -, hclass'⟩ := head?_postOnsetEvents_iff.mp hhead
    refine ⟨i, c, hi, ?_⟩
    rintro rfl
    exact hclass hclass'
  -- the first entry is of another class, so its event is not later than that of the right class
  · rintro ⟨i, c, hi, hne⟩
    obtain ⟨event, hevent, hclass⟩ := hi.exists_event
    refine ⟨event, head?_postOnsetEvents_iff.mpr ⟨i, c, hi, hevent, hclass⟩, ?_, ?_⟩
    · rw [hclass]
      exact fun heq => hne (Option.some.inj heq)
    · intro correct hfind
      obtain ⟨j, d, hj, hevent', hclass'⟩ := find?_postOnsetEvents_iff.mp hfind
      obtain ⟨hib, helapsed, -⟩ := hi.elapsed_event hevent
      obtain ⟨hjb, helapsed', -⟩ := hj.elapsed_event hevent'
      -- the two entries are at different rows, as their classes differ
      have hij : i ≠ j := by
        rintro rfl
        have hcd : c = d := Option.some.inj (hi.entered.symm.trans hj.entered)
        exact hne (hcd.trans hj.qualifies)
      rw [helapsed, helapsed']
      exact List.pairwise_iff_getElem.mp htimes i j hib hjb
        (lt_of_le_of_ne (hi.le_of_wanted hj) hij)

end Scans

/-- The scans of a detection agree with the machine, over any rows in increasing time. -/
theorem readOff_detectionOfEvents (config : StateMachineConfig (Number format))
    {rows : List (AlertRow (Number format) classes)}
    (hincreasing : (rows.map AlertRow.elapsed).Pairwise (· < ·)) (runId faultClass : String)
    (start : Number format) :
    DetectionReadOff config rows faultClass start
      (detectionOfEvents ((Phase.trace config rows).filterMap StepOutcome.event) runId faultClass
        start) := by
  have htimes : rows.Pairwise fun a b => a.elapsed < b.elapsed := List.pairwise_map.mp hincreasing
  exact
    { onset := confirmedClassAtOnset_detectionOfEvents runId htimes
      latencies := latencies_detectionOfEvents runId htimes
      detected := by
        show (List.find? _ _).isSome = (Option.map _ (List.find? _ _)).isSome
        rw [Option.isSome_map]
      latency_iff := fun _ => latency_detectionOfEvents_iff runId
      incorrect_iff := incorrect_detectionOfEvents_iff runId htimes }

/-- `evaluate_run_detection` returns on rows, probabilities and a mask of one length, and its result
is read off the machine. -/
theorem detection_readOff (config : StateMachineConfig (Number format))
    {rows : List (AlertRow (Number format) classes)}
    (hincreasing : (rows.map AlertRow.elapsed).Pairwise (· < ·)) (runId faultClass : String)
    (start : Number format) {rowValid : Option (List Bool)}
    (hmask : rowValid.getD (List.replicate rows.length true) = rows.map AlertRow.valid) :
    ∃ result, evaluateRunDetection config (rows.map AlertRow.elapsed) (rows.map AlertRow.proba)
        runId faultClass start rowValid = .ok result ∧
      DetectionReadOff config rows faultClass start result := by
  have hrun := runStateMachine_eq config rows
  rw [runStateMachine, Option.getD_some] at hrun
  refine ⟨_, ?_, readOff_detectionOfEvents config hincreasing runId faultClass start⟩
  rw [evaluateRunDetection, runStateMachine, List.length_map, hmask, hrun]
  rfl

/-- A row over exact numbers, with its probabilities in percent. -/
def exactRow (elapsed : ℤ) (cooling healthy hydrogen : ℤ) :
    AlertRow (Number (.exact id id 0)) plantAlphaClasses where
  elapsed := .ofRat _ elapsed
  proba := ⟨[.ofRat _ cooling, .ofRat _ healthy, .ofRat _ hydrogen, .ofRat _ 0], rfl⟩
  valid := true

/-- A class is confirmed when the fault starts, and changes to the class of the fault. -/
def straddlingRows : List (AlertRow (Number (.exact id id 0)) plantAlphaClasses) :=
  [exactRow 10 90 10 0, exactRow 20 90 10 0, exactRow 30 5 5 90, exactRow 40 0 90 10]

/-- A run whose alert begins before the onset of the fault, and ends in another class after it. -/
theorem detection_readOff_straddling :
    let config : StateMachineConfig (Number (.exact id id 0)) :=
      ⟨.ofRat _ 60, 1, .ofRat _ 50, 1⟩
    ∃ result, evaluateRunDetection config (straddlingRows.map AlertRow.elapsed)
        (straddlingRows.map AlertRow.proba) "run-1" "hydrogen_supply_issue" (.ofRat _ 20) none =
          .ok result ∧
      DetectionReadOff config straddlingRows "hydrogen_supply_issue" (.ofRat _ 20) result :=
  detection_readOff _ (by decide +kernel) _ _ _ rfl

end Odis.AlertPolicy
