import Mathlib.Data.List.Induction

/-! # Moments of a script

  A future is polled, and between the polls things happen to it. What a poll answers is determined
  by the moment at which it comes, that is by the events before it, in the order in which they came.
  What has come at some moment (`Came`) has come for good, and of several values the last one counts
  (`latest`).
-/

namespace Duplex

variable {κ ν σ : Type}

/-- `Came P script`: some event of the script has come at a moment of which, with this event, `P` is
    true. -/
def Came (P : List κ → κ → Prop) (script : List κ) : Prop :=
  ∃ past k rest, script = past ++ k :: rest ∧ P past k

section

variable {P : List κ → κ → Prop} {script : List κ}

theorem not_came_nil : ¬Came P [] := by
  rintro ⟨past, k, rest, hscript, -⟩
  exact List.cons_ne_nil k rest (List.append_eq_nil_iff.1 hscript.symm).2

theorem Came.append (h : Came P script) (more : List κ) : Came P (script ++ more) := by
  obtain ⟨past, k, rest, rfl, hk⟩ := h
  exact ⟨past, k, rest ++ more, by simp, hk⟩

theorem came_concat {k : κ} : Came P (script ++ [k]) ↔ Came P script ∨ P script k := by
  constructor
  · rintro ⟨past, k', rest, hscript, hk'⟩
    -- it was the last event, or one before it
    rcases List.eq_nil_or_concat rest with rfl | ⟨most, last, rfl⟩
    · obtain ⟨rfl, hlast⟩ := List.append_inj' hscript rfl
      cases hlast
      exact .inr hk'
    · rw [List.concat_eq_append, ← List.cons_append, ← List.append_assoc] at hscript
      obtain ⟨rfl, -⟩ := List.append_inj' hscript rfl
      exact .inl ⟨past, k', most, rfl, hk'⟩
  · rintro (hcame | hk)
    · exact hcame.append [k]
    · exact ⟨script, k, [], rfl, hk⟩

/-- What is true of the same moments of a script comes in it alike. -/
theorem came_congr {P' : List κ → κ → Prop}
    (h : ∀ past, past <+: script → ∀ k, P past k ↔ P' past k) : Came P script ↔ Came P' script :=
  exists_congr fun past => exists_congr fun k => exists_congr fun rest =>
    and_congr_right fun hscript => h past ⟨k :: rest, hscript.symm⟩ k

/-- What is true of the moments of one kind of event and stays true holds from then on. -/
theorem Came.holds {Q : List κ → Prop} (hQ : ∀ past more, Q past → Q (past ++ more))
    (hP : ∀ past k, P past k → Q past) (h : Came P script) : Q script := by
  obtain ⟨past, k, rest, rfl, hk⟩ := h
  exact hQ past (k :: rest) (hP past k hk)

end

/-- The value that the last event brought which brought one. -/
def latest (value : κ → Option ν) (script : List κ) : Option ν :=
  (script.filterMap value).getLast?

section

variable {value : κ → Option ν} {script : List κ} {k : κ}

theorem latest_concat_of_some {v : ν} (h : value k = some v) :
    latest value (script ++ [k]) = some v := by
  simp [latest, h]

theorem latest_concat_of_none (h : value k = none) :
    latest value (script ++ [k]) = latest value script := by
  simp [latest, h]

theorem latest_append_ne_none (h : latest value script ≠ none) (more : List κ) :
    latest value (script ++ more) ≠ none := by
  simp only [latest, ne_eq, List.getLast?_eq_none_iff, List.filterMap_append,
    List.append_eq_nil_iff] at h ⊢
  exact fun hnil => h hnil.1

end

/-- The state after the events of a script. -/
def afterEvents (step : σ → κ → σ) (s : σ) (script : List κ) : σ := script.foldl step s

theorem afterEvents_append (step : σ → κ → σ) (s : σ) (script more : List κ) :
    afterEvents step s (script ++ more) = afterEvents step (afterEvents step s script) more :=
  List.foldl_append

theorem afterEvents_concat (step : σ → κ → σ) (s : σ) (script : List κ) (k : κ) :
    afterEvents step s (script ++ [k]) = step (afterEvents step s script) k :=
  afterEvents_append step s script [k]

/-- What the first state has of no events, and each event keeps of one more, the state after a
    script has of the script. -/
theorem afterEvents_induction {step : σ → κ → σ} {s : σ} {P : List κ → σ → Prop} (hstart : P [] s)
    (hstep : ∀ past k t, P past t → P (past ++ [k]) (step t k)) (script : List κ) :
    P script (afterEvents step s script) := by
  induction script using List.reverseRecOn with
  | nil => exact hstart
  | append_singleton past k ih =>
    rw [afterEvents_concat]
    exact hstep past k _ ih

end Duplex
