import Duplex.Proofs.Chunking

/-! # Pushing and pulling

  Messages can be pushed, by driving a source into a framed observer, or pulled, by driving
  a framed stream over the source into the observer itself. The two are different machines:
  the first goes on to the failure or end of its source and swallows what follows a decoding
  error, the second stops there. Both tell the observer the answers of one `Outcome`
  (`drive_framedObserver`, `Source.drive_of_foretells`), and the second polls its source at
  most as often as the first (`drive_source`).
-/

namespace Duplex

open LawfulDecoder (Inv)
open Decoder (feedAll outcome afterCalls)
open Script (carried lifetime)
open Source (afterPolls)

variable {δ ι ε ο : Type} [Decoder δ ι] [FromFrame ε] [Observer ο ι ε]

/-! ### Pushing -/

namespace FramedObserver

/-- A chunk is passed on as the messages in it, up to a decoding error. -/
theorem decodeChunk_eq [LawfulDecoder δ] {d : δ} (h : Inv d) (o : ο) (chunk : Bytes) :
    decodeChunk (ε := ε) d o chunk =
      let run := feedAll d chunk
      let told := run.items.toList.foldl (Observer.onNext (ε := ε)) o
      match run.error with
      | some e => ⟨run.decoder, Observer.onError told (FromFrame.ofFrame e : ε), true⟩
      | none => ⟨run.decoder, told, false⟩ := by
  fun_induction decodeChunk (ε := ε) d o chunk with
  | case1 d o => rfl
  | case2 d o chunk _ e d' ha =>
    simp [Decoder.feedAll_of_advance_error h ha]
  | case3 d o chunk _ item rest d' ha ih =>
    obtain ⟨hinv, -, hall⟩ := Decoder.feedAll_of_advance_item h ha
    rw [ih hinv, hall]
    simp
  | case4 d o chunk _ rest d' ha ih =>
    obtain ⟨hinv, rfl, hall⟩ := Decoder.feedAll_of_advance_none h ha
    rw [ih hinv, hall]
    rfl

/-- An observer that has passed on a failure or the completion ignores what it is told. -/
theorem tell_of_terminated {o : FramedObserver δ ο} (h : o.terminated = true)
    (answer : Polled Bytes ε) : Observer.tell o answer = o := by
  cases answer with
  | pending => rfl
  | next chunk => exact if_pos h
  | failed e => exact if_pos h
  | ended => exact if_pos h

theorem drive_of_terminated {o : FramedObserver δ ο} (h : o.terminated = true)
    (s : Script Bytes ε) : (drive s o).2 = o := by
  induction s using Source.poll_induction with
  | step s ih =>
    cases hfinal : (Source.poll s).1.isFinal with
    | true => rw [Source.drive_of_final hfinal]; exact tell_of_terminated h _
    | false => rw [Source.drive_of_not_final hfinal, tell_of_terminated h]; exact ih hfinal

variable [LawfulDecoder δ]

/-- Driving a source into a framed observer tells the observer behind it the outcome of what
    the source carries, and nothing else. -/
theorem drive_framedObserver {d : δ} (h : Inv d) (o : ο) (s : Script Bytes ε) :
    let pushed := (drive s (FramedObserver.mk d o false)).2
    pushed.terminated = true ∧
    pushed.downstream =
      (outcome (ε := ε) d (carried s.answers)).answers.foldl Observer.tell o := by
  induction s using Source.poll_induction generalizing d o with
  | step s ih =>
    have hcarried := Script.carried_eq_poll s
    rcases hp : Source.poll s with ⟨answer, s'⟩
    rw [show s.poll = (answer, s') from hp] at hcarried
    rw [hp] at ih
    cases answer with
    | pending =>
      rw [Source.drive_of_not_final (by rw [hp]; rfl), hp, hcarried]
      exact ih rfl h o
    | next chunk =>
      rw [Source.drive_of_not_final (by rw [hp]; rfl), hp, hcarried]
      have htell : Observer.tell (FramedObserver.mk d o false) (.next chunk : Polled Bytes ε) =
          decodeChunk (ε := ε) d o chunk := rfl
      have hrun := Decoder.outcome_append d chunk (carried s'.answers).1 (carried s'.answers).2
      simp only [htell, decodeChunk_eq h, Script.carriedBy, hrun]
      cases herr : (feedAll d chunk).error with
      | some e =>
        -- the source is driven on, and all that it still answers is swallowed
        simp only [drive_of_terminated, Outcome.foldl_tell_answers]
        exact ⟨trivial, rfl⟩
      | none =>
        simp only [Outcome.foldl_tell_prepend]
        exact ih rfl (Decoder.inv_feedAll h chunk) _
    | failed e =>
      rw [Source.drive_of_final (by rw [hp]; rfl), hp, hcarried]
      exact ⟨rfl, rfl⟩
    | ended =>
      rw [Source.drive_of_final (by rw [hp]; rfl), hp, hcarried]
      have htell : Observer.tell (FramedObserver.mk d o false) (.ended : Polled Bytes ε) =
          onCompleted (ε := ε) (FramedObserver.mk d o false) := rfl
      have hnil : feedAll d [] = ⟨#[], none, d⟩ := rfl
      simp only [htell, onCompleted, Script.carriedBy, outcome, hnil, Decoder.closing]
      cases Decoder.finish d <;> exact ⟨rfl, rfl⟩

end FramedObserver

/-! ### Pulling -/

/-- An answer that a stream takes from its source is final if the source's answer is. -/
theorem Reassembly.isFinal_absorb {r r' : Reassembly δ} {polled : Polled Bytes ε}
    {answer : Polled ι ε} (h : r.absorb polled = (some answer, r')) :
    answer.isFinal = polled.isFinal := by
  cases polled with
  | pending => cases h; rfl
  | next chunk => cases h
  | failed e => cases h; rfl
  | ended =>
    simp only [absorb] at h
    split at h <;> (cases h; rfl)

theorem Reassembly.isFinal_absorb_none {r r' : Reassembly δ} {polled : Polled Bytes ε}
    (h : (r.absorb polled : Option (Polled ι ε) × _) = (none, r')) : polled.isFinal = false := by
  cases polled with
  | pending | failed _ => cases h
  | next chunk => rfl
  | ended =>
    simp only [absorb] at h
    split at h <;> cases h

namespace FramedStream

/-- A poll of a framed stream polls its source no further than the first failure or end, and
    not up to there unless the answer is final. -/
theorem poll_source (s : FramedStream δ ε) :
    ∃ n, s.poll.2.source = afterPolls s.source n ∧
      if s.poll.1.isFinal then n ≤ lifetime s.source.answers
      else n + lifetime s.poll.2.source.answers = lifetime s.source.answers := by
  fun_induction poll (ε := ε) s with
  | case1 s answer parts hd =>
    -- answered from the chunk
    refine ⟨0, rfl, ?_⟩
    split
    · exact Nat.zero_le _
    · exact Nat.zero_add _
  | case2 s parts hd polled source hp answer parts' ha =>
    -- answered by the source
    have hlife := Script.lifetime_eq_poll s.source
    rw [hp, ← Reassembly.isFinal_absorb ha] at hlife
    refine ⟨1, ?_, ?_⟩
    · show source = s.source.poll.2
      rw [hp]
    · cases hfinal : answer.isFinal with
      | true => rw [hfinal] at hlife; simpa using Nat.le_of_eq hlife.symm
      | false => rw [hfinal] at hlife; simpa [Nat.add_comm 1] using hlife.symm
  | case3 s parts hd polled source hp parts' ha ih =>
    -- a chunk was pulled, and the poll goes on with it
    have hlife : lifetime s.source.answers = lifetime source.answers + 1 := by
      rw [Script.lifetime_eq_poll, hp, Reassembly.isFinal_absorb_none ha]
      rfl
    obtain ⟨n, hsource, hn⟩ := ih
    refine ⟨n + 1, ?_, ?_⟩
    · rw [hsource]
      show afterPolls source n = afterPolls s.source.poll.2 n
      rw [hp]
    · dsimp only at hn ⊢
      split at hn
      · next hfinal => rw [if_pos hfinal]; omega
      · next hfinal => rw [if_neg hfinal]; omega

/-- Driving a framed stream polls its source no further than the first failure or end. -/
theorem drive_source (s : FramedStream δ ε) (o : ο) :
    ∃ n, (drive s o).1.source = afterPolls s.source n ∧ n ≤ lifetime s.source.answers := by
  induction s using Source.poll_induction generalizing o with
  | step s ih =>
    obtain ⟨n, hsource, hn⟩ := poll_source s
    cases hfinal : (Source.poll s).1.isFinal with
    | true =>
      rw [show s.poll.1.isFinal = true from hfinal, if_pos rfl] at hn
      rw [Source.drive_of_final hfinal]
      exact ⟨n, hsource, hn⟩
    | false =>
      rw [show s.poll.1.isFinal = false from hfinal, if_neg Bool.false_ne_true] at hn
      rw [Source.drive_of_not_final hfinal]
      obtain ⟨m, hsource', hm⟩ := ih hfinal (Observer.tell o (Source.poll s).1)
      refine ⟨n + m, ?_, ?_⟩
      · rw [hsource', Source.afterPolls_add, ← hsource]
        rfl
      · have : m ≤ lifetime s.poll.2.source.answers := hm
        omega

end FramedStream

/-! ### Both -/

/-- Pushing and pulling tell a recorder the same, namely the messages and then the failure or
    the completion that the decoder makes of the octets of the source, and pulling polls the
    source no more often than pushing: `n` times against `m` times. -/
def PullsAsPushes (d : δ) (source : Script Bytes ε) : Prop :=
  let pushed := drive source (FramedObserver.mk d ({} : Recorder ι ε) false)
  let pulled := drive (FramedStream.new source d) ({} : Recorder ι ε)
  let o : Outcome ι ε := outcome d (carried source.answers)
  pulled.2 = pushed.2.downstream ∧
  (∃ last : Notice ι ε,
    (o.final = .ended ∧ last = .completed ∨ ∃ e, o.final = .failed e ∧ last = .failed e) ∧
    pulled.2.notices.toList = o.items.map .next ++ [last]) ∧
  ∃ n m, n ≤ m ∧ (∀ k, pulled.1.source = afterPolls source k ↔ k = n) ∧
    ∀ k, pushed.1 = afterPolls source k ↔ k = m

theorem pullsAsPushes_of_inv [LawfulDecoder δ] {d : δ} (h : Inv d) (source : Script Bytes ε) :
    PullsAsPushes d source := by
  obtain ⟨-, hpushed⟩ := FramedObserver.drive_framedObserver h ({} : Recorder ι ε) source
  have hpulled := Source.drive_of_foretells FramedStream.foretells
    (s := FramedStream.new source d) h ({} : Recorder ι ε)
  have hsame : (FramedStream.new source d).outlook = outcome d (carried source.answers) := rfl
  obtain ⟨n, hn, hle⟩ :=
    FramedStream.drive_source (FramedStream.new source d) ({} : Recorder ι ε)
  have hm := Script.drive_eq_afterPolls source (FramedObserver.mk d ({} : Recorder ι ε) false)
  rw [hsame] at hpulled
  refine ⟨hpulled.trans hpushed.symm, ?_, n, lifetime source.answers, hle, fun k => ?_, fun k => ?_⟩
  · rw [hpulled]
    exact Outcome.notices_foldl_tell (Decoder.isFinal_outcome d _)
  · rw [hn]
    exact (Script.afterPolls_inj source).trans eq_comm
  · rw [hm]
    exact (Script.afterPolls_inj source).trans eq_comm

/-- **Pushing and pulling agree.** For each of the three decoders, as any calls left it, and
    any script of chunks, pauses, failures and ends, both ways tell a recorder the same, and
    pulling polls the source no more often. -/
theorem pulls_as_pushes_afterCalls (limit : Option Nat) (before calls : List Decoder.Call)
    (source : Script Bytes ε) :
    PullsAsPushes (afterCalls ({} : NulString) calls) source ∧
    PullsAsPushes (afterCalls (LengthPrefixed.withLimit limit) calls) source ∧
    PullsAsPushes (afterCalls (StringArray.Streaming.mk
      (afterCalls (LengthPrefixed.withLimit limit) before)) calls) source := by
  obtain ⟨htexts, hframes, harrays⟩ := inv_afterCalls_new limit before calls
  exact ⟨pullsAsPushes_of_inv htexts source, pullsAsPushes_of_inv hframes source,
    pullsAsPushes_of_inv harrays source⟩

end Duplex
