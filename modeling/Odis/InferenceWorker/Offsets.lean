import Odis.InferenceWorker.Delivery
import Odis.Library.PollLoop

/-!
# Committed offsets

`FaultInferenceStreamingWorker.poll_once`: a batch is polled, its records are handled one by one,
and the consumer commits after each record that was handled. The commit names no offset, so it
commits the positions of the consumer, which the poll has moved past the whole batch; a record that
is not handled is passed over, too, once a later one is handled.

* `offset_committed_unhandled`: a batch whose second record is committed and was not handled.
* `committed_handled_iff`: the runs in which every committed offset was handled.
-/

namespace Odis.InferenceWorker

open PollLoop

variable {F : Type} [PyFloat F]

namespace FaultInferenceStreamingWorker

variable {P R : Type} (env : Environment F) (decode : R → DecodedRecord F)

/-- `_handle_message`, of a record and the clock when it is handled. -/
def handler (worker : FaultInferenceStreamingWorker F) (record : R × F) :
    FaultInferenceStreamingWorker F × Except (HandlerError F) Bool :=
  handleMessage env worker (decode record.1) record.2

/-- The timeouts are swept after a batch. -/
def sweeper (now : F) (worker : FaultInferenceStreamingWorker F) :
    FaultInferenceStreamingWorker F :=
  (sweep env worker now).1

variable [DecidableEq P]

/-- `poll_once`, of the records a poll returns and the clock after them. -/
def pollOnce (loop : Loop P (FaultInferenceStreamingWorker F)) (polled : Batch P (R × F) × F) :
    Loop P (FaultInferenceStreamingWorker F) :=
  PollLoop.pollOnce (handler env decode) (sweeper env) loop polled

/-- In a run of polls, every committed offset of every state was handled exactly if a batch whose
first record is handled has no other record and follows nothing unhandled; between the polls,
exactly if such a batch is handled to its end and follows nothing unhandled. -/
theorem committed_handled_iff (worker : FaultInferenceStreamingWorker F) (start : P → ℕ)
    (polls : List (Batch P (R × F) × F)) :
    ((∀ state ∈ reached (handler env decode) (sweeper env) (.startingAt worker start) polls,
        Safe start state) ↔
      Transducer.Along (pollStep (handler env decode) (sweeper env))
        (CommitsOnly OneRecord (handler env decode) start) (.startingAt worker start) polls) ∧
    ((∀ n, Safe start (Transducer.after (pollStep (handler env decode) (sweeper env))
        (.startingAt worker start) (polls.take n))) ↔
      Transducer.Along (pollStep (handler env decode) (sweeper env))
        (CommitsOnly (WholeBatch (handler env decode)) (handler env decode) start)
        (.startingAt worker start) polls) := by
  have hwf := wellFormed_startingAt worker start
  have hsafe := safe_startingAt worker start
  exact ⟨safe_reached_iff hwf hsafe polls, safe_after_iff hwf hsafe polls⟩

end FaultInferenceStreamingWorker

section SecondRecord

/-- A reading, which is buffered, and a malformed record, which is reported; both of partition
0. -/
def readingThenMalformed : Batch ℕ (DecodedRecord Rat × Rat) where
  items := [(0, [(.event (reading "stack-1" Inference.stack1_ne_empty 1 .current), 0),
    (.malformed none "invalid JSON payload", 0)])]
  nodup := by decide

/-- The report of the second record is refused four times, after the commit for the first one. -/
theorem offset_committed_unhandled :
    ¬ Safe (fun _ => 0) (FaultInferenceStreamingWorker.pollOnce (refusingEnvironment 4) id
      (.startingAt .fresh fun _ => 0) (readingThenMalformed, 0)) := by
  intro h
  have hhandled : (0, 1) ∈ (FaultInferenceStreamingWorker.pollOnce (refusingEnvironment 4) id
      (.startingAt .fresh fun _ => 0) (readingThenMalformed, 0)).handled :=
    h 0 1 (Nat.zero_le _) (by decide +kernel)
  exact absurd hhandled (by decide +kernel)

end SecondRecord

end Odis.InferenceWorker
