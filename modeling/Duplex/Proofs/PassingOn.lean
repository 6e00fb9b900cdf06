import Duplex.Proofs.PushPull

/-! # What a framed observer passes on

  Nothing obliges those who push chunks to stop after a failure or the completion: a framed observer
  may be told anything in any order. It passes on the messages in the octets that it was told of
  before the first failure or completion, and then how that ends (`Ends`): by the decoding error, by
  the failure as it came, or by the completion or what the decoder makes of it. All that it is told
  later changes nothing (`PassesOn`).
-/

namespace Duplex

open LawfulDecoder (Inv)
open Decoder (afterCalls decodeAll feedAll)

/-! ### Being told -/

/-- Whether nothing is to follow a notice. -/
def Notice.isFinal {α ε : Type} : Notice α ε → Bool
  | .next _ => false
  | .failed _ | .completed => true

/-- The octets that a notice brings. -/
def Notice.octets {ε : Type} : Notice Bytes ε → Bytes
  | .next chunk => chunk
  | .failed _ | .completed => []

/-- The octets that come before the first failure or completion. -/
def Notice.octetsBeforeEnd {ε : Type} (notices : List (Notice Bytes ε)) : Bytes :=
  (notices.takeWhile (!·.isFinal)).flatMap octets

/-- The first failure or completion. -/
def Notice.firstEnd {α ε : Type} (notices : List (Notice α ε)) : Option (Notice α ε) :=
  notices.find? isFinal

namespace Observer

variable {ο α ε : Type} [Observer ο α ε]

/-- Tells an observer of a notice. -/
def notify (o : ο) : Notice α ε → ο
  | .next item => onNext o item
  | .failed error => onError o error
  | .completed => onCompleted o

/-- Tells an observer of some notices, one after the other. -/
def hear (o : ο) (notices : List (Notice α ε)) : ο := notices.foldl notify o

theorem hear_cons (o : ο) (notice : Notice α ε) (rest : List (Notice α ε)) :
    hear o (notice :: rest) = hear (notify o notice) rest := rfl

theorem hear_append (o : ο) (notices more : List (Notice α ε)) :
    hear o (notices ++ more) = hear (hear o notices) more := List.foldl_append

theorem hear_map_next (o : ο) (items : List α) :
    hear o (items.map (.next : α → Notice α ε)) = items.foldl (onNext (ε := ε)) o := by
  rw [hear, List.foldl_map]
  rfl

end Observer

/-- A recorder writes down what it is told. -/
theorem Recorder.notices_hear {α ε : Type} (r : Recorder α ε) (notices : List (Notice α ε)) :
    (Observer.hear r notices).notices.toList = r.notices.toList ++ notices := by
  induction notices generalizing r with
  | nil => simp [Observer.hear]
  | cons notice rest ih =>
    rw [Observer.hear_cons, ih]
    cases notice <;>
      simp [Observer.notify, Observer.onNext, Observer.onError, Observer.onCompleted]

section

variable {δ ι ε ο : Type} [Observer ο ι ε]

/-- What a framed observer has become after some notices. -/
def FramedObserver.passed (o : ο) (run : Decoder.Run δ ι) (last : Option (Notice ι ε)) :
    FramedObserver δ ο where
  decoder := run.decoder
  downstream := Observer.hear o (run.items.toList.map .next ++ last.toList)
  terminated := last.isSome

theorem FramedObserver.passed_prepend (o : ο) (items : Array ι) (run : Decoder.Run δ ι)
    (last : Option (Notice ι ε)) :
    passed o (run.prepend items) last =
      passed (Observer.hear o (items.toList.map (.next : ι → Notice ι ε))) run last := by
  simp [passed, Observer.hear_append]

end

/-! ### How it ends -/

section

variable {δ ι ε : Type} [Decoder δ ι] [FromFrame ε]

/-- `Ends run cause last`: after a run over octets, and what was told after them, the last notice
    that is passed on. There is none as long as nothing has failed or ended. -/
inductive Ends (run : Decoder.Run δ ι) (cause : Option (Notice Bytes ε)) :
    Option (Notice ι ε) → Prop where
  /-- The octets could not be decoded, whatever was told after them. -/
  | broken {e : FrameError} (hrun : run.error = some e) :
      Ends run cause (some (.failed (FromFrame.ofFrame e)))
  | goesOn (hrun : run.error = none) (hcause : cause = none) : Ends run cause none
  /-- A failure is passed on as it came, whatever the decoder holds back. -/
  | failed {error : ε} (hrun : run.error = none) (hcause : cause = some (.failed error)) :
      Ends run cause (some (.failed error))
  | completed (hrun : run.error = none) (hcause : cause = some .completed)
      (hfinish : Decoder.finish run.decoder = .ok ()) : Ends run cause (some .completed)
  /-- The stream may not end where the completion was told. -/
  | truncated {e : FrameError} (hrun : run.error = none) (hcause : cause = some .completed)
      (hfinish : Decoder.finish run.decoder = .error e) :
      Ends run cause (some (.failed (FromFrame.ofFrame e)))

variable {run : Decoder.Run δ ι} {cause : Option (Notice Bytes ε)} {last : Option (Notice ι ε)}

theorem Ends.isFinal (h : Ends run cause last) : ∀ notice ∈ last, notice.isFinal = true := by
  cases h with
  | goesOn _ _ => exact fun _ h => by cases h
  | broken _ | failed _ _ | completed _ _ _ | truncated _ _ _ =>
    intro notice h
    cases h
    rfl

/-- Messages in front change nothing about the end. -/
theorem Ends.prepend (h : Ends run cause last) (items : Array ι) :
    Ends (run.prepend items) cause last := by
  cases h with
  | broken hrun => exact .broken hrun
  | goesOn hrun hcause => exact .goesOn hrun hcause
  | failed hrun hcause => exact .failed hrun hcause
  | completed hrun hcause hfinish => exact .completed hrun hcause hfinish
  | truncated hrun hcause hfinish => exact .truncated hrun hcause hfinish

/-! ### Passing on -/

namespace FramedObserver

variable {ο : Type} [Observer ο ι ε]

/-- An observer that has passed on a failure or the completion takes no notice. -/
theorem hear_of_terminated {o : FramedObserver δ ο} (h : o.terminated = true)
    (notices : List (Notice Bytes ε)) : Observer.hear o notices = o := by
  induction notices with
  | nil => rfl
  | cons notice rest ih =>
    have hsame : Observer.notify o notice = o := by
      cases notice <;> exact if_pos h
    rw [Observer.hear_cons, hsame, ih]

variable [LawfulDecoder δ]

/-- A chunk is passed on as the messages in it, and its decoding error if there is one. -/
theorem notify_next {d : δ} (h : Inv d) (o : ο) (chunk : Bytes) :
    Observer.notify (FramedObserver.mk d o false) (.next chunk : Notice Bytes ε) =
      passed (ε := ε) o (feedAll d chunk)
        ((feedAll d chunk).error.map fun e => .failed (FromFrame.ofFrame e)) := by
  show decodeChunk (ε := ε) d o chunk = _
  rw [decodeChunk_eq h, passed, Observer.hear_append, Observer.hear_map_next]
  dsimp only
  cases (feedAll d chunk).error with
  | none => rfl
  | some e => rfl

/-- Whatever it is told, an observer has passed on the messages in the octets before the first
    failure or completion, and then the end of that. -/
theorem hear_eq {d : δ} (h : Inv d) (notices : List (Notice Bytes ε)) :
    ∃ last : Option (Notice ι ε),
      Ends (feedAll d (Notice.octetsBeforeEnd notices)) (Notice.firstEnd notices) last ∧
      ∀ {ο : Type} [Observer ο ι ε] (o : ο), Observer.hear (FramedObserver.mk d o false) notices =
        passed o (feedAll d (Notice.octetsBeforeEnd notices)) last := by
  induction notices generalizing d with
  | nil => exact ⟨none, .goesOn rfl rfl, fun o => rfl⟩
  | cons notice rest ih =>
    cases notice with
    | next chunk =>
      have hrun : feedAll d (Notice.octetsBeforeEnd (.next chunk :: rest)) =
          (feedAll d chunk).resume (Notice.octetsBeforeEnd rest) := Decoder.feedAll_append d chunk _
      have hcause : Notice.firstEnd (.next chunk :: rest) = Notice.firstEnd rest := rfl
      rw [hrun, hcause]
      cases herror : (feedAll d chunk).error with
      | some e =>
        -- the chunk is broken, and what follows it is not heard
        rw [Decoder.Run.resume_of_error herror]
        refine ⟨_, .broken herror, fun o => ?_⟩
        rw [Observer.hear_cons, notify_next h, herror]
        exact hear_of_terminated rfl rest
      | none =>
        rw [Decoder.Run.resume_of_ok herror]
        obtain ⟨last, hends, hpassed⟩ := ih (Decoder.inv_feedAll h chunk)
        refine ⟨last, hends.prepend _, fun o => ?_⟩
        rw [Observer.hear_cons, notify_next h, herror, passed_prepend, ← hpassed]
        simp [passed]
    | failed error =>
      refine ⟨some (.failed error), .failed rfl rfl, fun o => ?_⟩
      exact hear_of_terminated rfl rest
    | completed =>
      have hnotify {ο : Type} [Observer ο ι ε] (o : ο) :
          Observer.notify (FramedObserver.mk d o false) (.completed : Notice Bytes ε) =
            onCompleted (ε := ε) (FramedObserver.mk d o false) := rfl
      cases hfinish : Decoder.finish d with
      | ok _ =>
        refine ⟨some .completed, .completed rfl rfl hfinish, fun o => ?_⟩
        rw [Observer.hear_cons, hnotify, onCompleted, hfinish]
        exact hear_of_terminated rfl rest
      | error e =>
        refine ⟨_, .truncated rfl rfl hfinish, fun o => ?_⟩
        rw [Observer.hear_cons, hnotify, onCompleted, hfinish]
        exact hear_of_terminated rfl rest

end FramedObserver

/-- What a framed observer with this decoder passes on when it is told of these notices, whoever it
    passes them on to: the messages that the octets before the first failure or completion are
    decoded to, as one string, and at most one notice after them. -/
structure PassesOn (d : δ) (notices : List (Notice Bytes ε)) (last : Option (Notice ι ε)) :
    Prop where
  /-- The decoding error, the failure or the completion decides what comes last. -/
  ends : Ends (decodeAll d (Notice.octetsBeforeEnd notices)) (Notice.firstEnd notices) last
  /-- It is a failure or the completion. -/
  final : ∀ notice ∈ last, notice.isFinal = true
  /-- The observer behind is told the messages and then the last notice. The framed one has
      terminated just if there is such a notice, and has the decoder that the run has left. -/
  told : ∀ {ο : Type} [Observer ο ι ε] (o : ο),
    Observer.hear (FramedObserver.mk d o false) notices =
      FramedObserver.passed o (decodeAll d (Notice.octetsBeforeEnd notices)) last
  /-- So a recorder has these notices and no others. -/
  recorded :
    let told := Observer.hear (FramedObserver.mk d ({} : Recorder ι ε) false) notices
    let run := decodeAll d (Notice.octetsBeforeEnd notices)
    told.downstream.notices.toList = run.items.toList.map .next ++ last.toList ∧
    (told.terminated = true ↔
      ∃ notice ∈ told.downstream.notices.toList, notice.isFinal = true)
  /-- After the last notice nothing that is told changes anything. -/
  silent : last.isSome = true → ∀ {ο : Type} [Observer ο ι ε] (o : ο) more,
    Observer.hear (FramedObserver.mk d o false) (notices ++ more) =
      Observer.hear (FramedObserver.mk d o false) notices

theorem exists_passesOn [LawfulDecoder δ] (d : SoundDecoder δ) (notices : List (Notice Bytes ε)) :
    ∃ last, PassesOn d.1 notices last := by
  obtain ⟨last, hends, htold⟩ := FramedObserver.hear_eq d.2 notices
  rw [← Decoder.decodeAll_eq d.2] at hends htold
  refine ⟨last, hends, hends.isFinal, htold, ?_, ?_⟩
  · intro told run
    have hnotices : told.downstream.notices.toList = run.items.toList.map .next ++ last.toList := by
      simp only [told, htold, FramedObserver.passed, Recorder.notices_hear]
      rfl
    refine ⟨hnotices, ?_⟩
    have hterminated : told.terminated = last.isSome := by
      simp only [told, htold, FramedObserver.passed]
    rw [hterminated, hnotices]
    -- a message is not final, so the final notice is the last one
    constructor
    · intro hsome
      obtain ⟨notice, rfl⟩ := Option.isSome_iff_exists.1 hsome
      exact ⟨notice, by simp, hends.isFinal notice rfl⟩
    · rintro ⟨notice, hnotice, hfinal⟩
      rcases List.mem_append.1 hnotice with hmessage | hlast
      · obtain ⟨item, -, rfl⟩ := List.mem_map.1 hmessage
        cases hfinal
      · exact Option.isSome_iff_exists.2 ⟨notice, Option.mem_toList.1 hlast⟩
  · intro hsome ο _ o more
    rw [Observer.hear_append]
    exact FramedObserver.hear_of_terminated (by rw [htold]; exact hsome) more

end

/-- **Messages, then at most one failure or completion, then nothing**, whatever a framed observer
    is told, with any decoder whose path for slices is exact. The three decoders are such, as any
    calls left them. -/
theorem passesOn_afterCalls {ε : Type} [FromFrame ε] (limit : Option Nat)
    (before calls : List Decoder.Call) (notices : List (Notice Bytes ε)) :
    (∀ {δ ι : Type} [Decoder δ ι] [LawfulDecoder δ] (d : SoundDecoder δ),
      ∃ last, PassesOn d.1 notices last) ∧
    (∃ last, PassesOn (afterCalls ({} : NulString) calls) notices last) ∧
    (∃ last, PassesOn (afterCalls (LengthPrefixed.withLimit limit) calls) notices last) ∧
    ∃ last, PassesOn (afterCalls (StringArray.Streaming.mk
      (afterCalls (LengthPrefixed.withLimit limit) before)) calls) notices last := by
  obtain ⟨htexts, hframes, harrays⟩ := inv_afterCalls_new limit before calls
  exact ⟨fun d => exists_passesOn d notices, exists_passesOn ⟨_, htexts⟩ notices,
    exists_passesOn ⟨_, hframes⟩ notices, exists_passesOn ⟨_, harrays⟩ notices⟩

/-- The octet that the decoder holds back is lost with the failure, and what is told later is not
    heard. -/
example :
    let told : List (Notice Bytes (StreamError String)) :=
      [.next [65, 0, 66], .failed (.source "reset"), .completed, .next [0]]
    (Observer.hear (FramedObserver.mk ({} : NulString)
      ({} : Recorder String (StreamError String)) false) told).downstream.notices.toList =
      [.next "A", .failed (.source "reset")] := by
  decide +kernel

end Duplex
