import Duplex.Stream.Framed

/-! # Observers

  An observer is told of each item, and of a failure or the completion. `drive` pulls a
  source to its first failure or end and tells an observer; a `FramedObserver` stands
  between a source of chunks and an observer of messages. It protects the observer behind
  it: after one failure or completion it passes nothing on, whatever it is told.
-/

namespace Duplex

/-- An observer with states `ο`, told of items `α`, failures `ε` and the completion. -/
class Observer (ο : Type) (α ε : outParam Type) where
  /-- The next item. -/
  onNext : ο → α → ο
  /-- A failure, after which nothing follows. -/
  onError : ο → ε → ο
  /-- The completion, after which nothing follows. -/
  onCompleted : ο → ο

/-- What an observer is told. -/
inductive Notice (α ε : Type) where
  | next (item : α)
  | failed (error : ε)
  | completed
  deriving DecidableEq, Repr

/-- An observer that writes down what it is told. -/
structure Recorder (α ε : Type) where
  /-- The notices so far, in order. -/
  notices : Array (Notice α ε) := #[]
  deriving DecidableEq, Repr

instance {α ε : Type} : Observer (Recorder α ε) α ε where
  onNext r item := ⟨r.notices.push (.next item)⟩
  onError r error := ⟨r.notices.push (.failed error)⟩
  onCompleted r := ⟨r.notices.push .completed⟩

/-- Passes one answer of a source on to an observer. -/
def Observer.tell {ο α ε : Type} [Observer ο α ε] (o : ο) : Polled α ε → ο
  | .pending => o
  | .next item => onNext o item
  | .failed error => onError o error
  | .ended => onCompleted o

/-- Pulls a source up to its first failure or end, and tells an observer of each answer. -/
def drive {σ ο α ε : Type} [Source σ α ε] [Observer ο α ε] (s : σ) (o : ο) : σ × ο :=
  match _h : Source.poll s with
  | (answer, s') =>
    if _hf : answer.isFinal then (s', Observer.tell o answer)
    else drive s' (Observer.tell o answer)
termination_by Source.left s
decreasing_by
  have := Source.poll_left s (by rw [_h]; simpa using _hf)
  rwa [_h] at this

/-- An observer of chunks in front of an observer of messages. -/
structure FramedObserver (δ ο : Type) where
  /-- The decoder. -/
  decoder : δ
  /-- The observer of messages. -/
  downstream : ο
  /-- Whether the observer of messages has been told of a failure or the completion. -/
  terminated : Bool := false

namespace FramedObserver

variable {δ ι ο ε : Type} [Decoder δ ι] [Observer ο ι ε] [FromFrame ε]

/-- Decodes a chunk and passes the messages on, up to a decoding error. -/
def decodeChunk (decoder : δ) (downstream : ο) (chunk : Bytes) : FramedObserver δ ο :=
  if _hne : chunk = [] then { decoder, downstream }
  else
    match _h : Decoder.advance decoder chunk with
    | (.error e, decoder) =>
      ⟨decoder, Observer.onError downstream (FromFrame.ofFrame e), true⟩
    | (.ok (some item, rest), decoder) =>
      decodeChunk decoder (Observer.onNext downstream item) rest
    | (.ok (none, rest), decoder) => decodeChunk decoder downstream rest
termination_by chunk.length
decreasing_by all_goals exact Decoder.advance_rest_lt _hne _h

/-- The next chunk. -/
def onNext (o : FramedObserver δ ο) (chunk : Bytes) : FramedObserver δ ο :=
  if o.terminated then o else decodeChunk o.decoder o.downstream chunk

/-- A failure of the source is passed on, whatever the decoder holds back. -/
def onError (o : FramedObserver δ ο) (error : ε) : FramedObserver δ ο :=
  if o.terminated then o
  else { o with downstream := Observer.onError o.downstream error, terminated := true }

/-- The end of the source is the completion only if the stream may end there. -/
def onCompleted (o : FramedObserver δ ο) : FramedObserver δ ο :=
  if o.terminated then o
  else
    match Decoder.finish o.decoder with
    | .ok () => { o with downstream := Observer.onCompleted o.downstream, terminated := true }
    | .error e =>
      { o with
        downstream := Observer.onError o.downstream (FromFrame.ofFrame e)
        terminated := true }

instance : Observer (FramedObserver δ ο) Bytes ε where
  onNext := onNext
  onError := onError
  onCompleted := onCompleted

end FramedObserver

end Duplex
