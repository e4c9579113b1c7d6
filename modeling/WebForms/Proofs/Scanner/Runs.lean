import WebForms.Completion.Target
import WebForms.Proofs.Scanner.Turns

/-!
# What holds after every text

A scanner that starts on a page reads it in a sequence of turns. What turns preserve therefore
holds wherever it stops: its stacks fit its state, every construct that a character has to change
or to end is there, and completion can tell where the cursor stands.

## Main definitions

* `Reached` — the scanners that some text leads to

## Main results

* `Reached.turn`, `Reached.consistent` — each character takes a turn, from one consistent scanner to
  another
* `coherent_advanceAll` — the stacks fit the state, and nothing goes astray
-/

namespace WebForms.Scanner

open Skeleton

/-- Some text leads to the scanner. -/
inductive Reached : Scanner → Prop
  | start : Reached {}
  | advance {t : Scanner} (h : Reached t) (c : Char) : Reached (t.advance c)

variable {t : Scanner}

theorem Reached.advanceAll (h : t.Reached) (cs : List Char) : (t.advanceAll cs).Reached := by
  induction cs generalizing t with
  | nil => exact h
  | cons c cs ih => exact ih (h.advance c)

/-- Every text leads to a scanner. -/
theorem reached_advanceAll (cs : List Char) : (({} : Scanner).advanceAll cs).Reached :=
  Reached.start.advanceAll cs

/-- Whatever has been read, the stacks fit the state. -/
theorem Reached.consistent (h : t.Reached) : t.skeleton.Consistent := by
  induction h with
  | start => exact .ofFree rfl rfl rfl (fun angle => nomatch angle) rfl
  | advance _ c ih => exact (turn_step ih c).consistent ih

/-- Whatever has been read, the next character takes a turn. -/
theorem Reached.turn (h : t.Reached) (c : Char) :
    Turn c t.position t.skeleton (t.advance c).skeleton :=
  turn_step h.consistent c

/-! ### What completion finds -/

/-- Where a directive is read, it is the innermost construct. -/
theorem exists_innermost_directive (h : t.skeleton.Consistent)
    (hs : t.state = .directive ∨ t.state = .directiveName) :
    ∃ name attributes start, t.innermost? = some (.directive name attributes start) := by
  have fits : t.state.Fits t.pending t.resume := h.fits
  have reads : t.state ≠ .free ∧ t.state ≠ .rawText := by
    obtain hs | hs := hs <;> rw [hs] <;> decide
  obtain ⟨p, outer, hp, suits, -⟩ := fits.exists_suits reads.1 reads.2
  cases p with
  | directive name attributes start =>
    refine ⟨name, attributes, start, ?_⟩
    rw [innermost?, hp, List.head?_cons]
  | element | block | closingTag | comment =>
    obtain hs | hs := hs
    · rw [hs] at suits
      exact suits.elim
    · rw [hs] at suits
      exact suits.elim

/-- A consistent scanner is in a state that completion can classify. -/
theorem ofState_eq_target (h : t.skeleton.Consistent) :
    CompletionTarget.ofState t.state t.innermost? t.position t.lastChar = .ok t.target := by
  have classified : ∃ target,
      CompletionTarget.ofState t.state t.innermost? t.position t.lastChar = .ok target := by
    have directive := exists_innermost_directive h
    unfold CompletionTarget.ofState
    -- Completion looks at the innermost construct in the states of a directive only.
    cases hs : t.state with
    | directive =>
      obtain ⟨name, attributes, start, hnode⟩ := directive (.inl hs)
      rw [hnode]
      exact ⟨_, rfl⟩
    | directiveName =>
      obtain ⟨name, attributes, start, hnode⟩ := directive (.inr hs)
      rw [hnode]
      exact ⟨_, rfl⟩
    | free => exact ⟨_, rfl⟩
    | _ =>
      simp only
      split
      · exact ⟨_, rfl⟩
      · exact ⟨_, rfl⟩
  obtain ⟨reached, classified⟩ := classified
  rw [target, classified]

/-- What is pending and suspended belongs to the state of reading, and nothing is missing. -/
structure Coherent (t : Scanner) : Prop where
  fits : t.state.Fits t.pending t.resume
  /-- Raw text is the content of the innermost open element. -/
  raw : t.state = .rawText → ∃ e es, t.openElements = e :: es ∧ e.name.isRawText
  /-- Every character has found the construct that it was to change or to end. -/
  astray : t.astray = false
  /-- Completion finds the construct that it expects. -/
  target : CompletionTarget.ofState t.state t.innermost? t.position t.lastChar = .ok t.target

/-- After every text, what is pending and suspended belongs to the state of reading. -/
theorem coherent_advanceAll (cs : List Char) : (({} : Scanner).advanceAll cs).Coherent := by
  have h := (reached_advanceAll cs).consistent
  exact
    { fits := h.fits
      raw := fun raw => h.raw (.inl raw)
      astray := h.astray
      target := ofState_eq_target h }

end WebForms.Scanner
