import Highlighter.Proofs.Session.FullPass
import Highlighter.Proofs.Session.Incremental

/-!
# Going over the lines of an incomplete pass again

An incomplete pass strips the tags of its lines and lays on them only what the tokenizer gave
back. The pass after an edit then keeps the snapshot, and the full pass empties it, so that the
next pass after an edit finds a difference and covers the changed lines. `Session.Retries` says
that it covers all that the incomplete pass stripped. It does so for the lines that changed. A
line that the incomplete pass covered only because of its cursor is left out when the cursor has
moved, and an empty text is never lexed again, because the emptied snapshot agrees with it.
-/

namespace Highlighter.Session

open Surface

variable {σ : Type}

/-- The line of the surface that is nearest to the line of a position. -/
def nearestLine (surface : Surface) (position : Position) : Nat :=
  max 1 (min position.line surface.lineCount)

/-- The report of a pass after an edit that covers all lines that changed. -/
def nextReport (session : Session σ) (cursor : Position) : Report :=
  ({ session with scope := .affectedLines }.onEdit cursor).2

/-- A later pass goes over the lines of an earlier one again: it is not skipped, and it reaches
over every line of the earlier one that holds a character. -/
structure Retries (surface : Surface) (earlier later : Report) : Prop where
  passes : later.mode ≠ .skipped
  reaches : ∀ {line text}, surface.line? line = some text → text ≠ [] →
    earlier.firstLine ≤ line → line ≤ earlier.lastLine →
      later.firstLine ≤ line ∧ line ≤ later.lastLine

/-! ### What the passes report and keep -/

/-- A line outside of the lines that changed is a line of the old text as well. -/
theorem mem_lines_of_outside {old new : Text} {index : Nat} {text : Text}
    (atIndex : new.lines[index]? = some text)
    (outside : index + 1 < (changedLines old new).1 ∨ (changedLines old new).2 ≤ index) :
    text ∈ old.lines := by
  obtain ⟨⟨back, front⟩, before, behind⟩ :=
    shared_around_changedLines le_rfl le_rfl (changedLines_bounds old new).2.2
  rcases outside with early | late
  · have inFront : (new.lines.take ((changedLines old new).1 - 1))[index]? = some text := by
      rw [List.getElem?_take_of_lt (by omega), atIndex]
    rw [front]
    exact List.mem_append_left _ (List.mem_of_getElem? inFront)
  · have inBack :
        (new.lines.drop (changedLines old new).2)[index - (changedLines old new).2]? =
          some text := by
      rw [List.getElem?_drop, Nat.add_sub_cancel' late, atIndex]
    rw [behind]
    exact List.mem_append_right _ (List.mem_of_getElem? inBack)

/-- The pass after an edit is incomplete only on a text that differs from the snapshot, and it
keeps the snapshot. -/
theorem onEdit_of_incomplete {session : Session σ} {cursor : Position}
    (incomplete : (session.onEdit cursor).2.complete = false) :
    session.surface.content ≠ session.snapshot ∧
      (session.onEdit cursor).1.snapshot = session.snapshot ∧
      (session.onEdit cursor).2.firstLine = (session.window cursor).1 ∧
      (session.onEdit cursor).2.lastLine = (session.window cursor).2 := by
  rw [onEdit] at incomplete ⊢
  split
  next same => simp [same] at incomplete
  next changed =>
    rw [if_neg changed] at incomplete
    exact ⟨changed, if_neg (Bool.eq_false_iff.mp incomplete), rfl, rfl⟩

/-- The full pass is incomplete only if it empties the snapshot. -/
theorem fullPass_of_incomplete {session : Session σ}
    (incomplete : session.fullPass.2.complete = false) :
    session.fullPass.1.snapshot = [] := by
  rw [fullPass_eq] at incomplete ⊢
  exact if_neg (Bool.eq_false_iff.mp incomplete)

/-- When the text differs from the snapshot, the next pass reaches from the first to the last of
the lines that changed and the line of the cursor. -/
theorem nextReport_of_changed {session : Session σ}
    (changed : session.surface.content ≠ session.snapshot) (cursor : Position) :
    let lines := changedLines session.snapshot session.surface.content
    let line := nearestLine session.surface cursor
    (session.nextReport cursor).mode = .incremental ∧
      (session.nextReport cursor).firstLine = min lines.1 line ∧
      (session.nextReport cursor).lastLine = max lines.2 line := by
  rw [nextReport, onEdit, if_neg changed]
  exact ⟨rfl, rfl, rfl⟩

/-- When the text agrees with the snapshot, the next pass is skipped. -/
theorem nextReport_of_unchanged {session : Session σ}
    (same : session.surface.content = session.snapshot) (cursor : Position) :
    (session.nextReport cursor).mode = .skipped := by
  rw [nextReport, onEdit, if_pos same]

/-! ### What the next pass goes over again -/

/-- After an incomplete pass on an edit, the next pass is never skipped. It goes over all lines
again exactly when the cursor has not moved towards the changed lines, past a line that the
incomplete pass covered before or behind them. -/
theorem onEdit_retries_iff {session : Session σ} {cursor : Position}
    (incomplete : (session.onEdit cursor).2.complete = false) (next : Position) :
    let after := (session.onEdit cursor).1
    let failed := (session.onEdit cursor).2
    let lines := changedLines session.snapshot session.surface.content
    let nextLine := nearestLine session.surface next
    (after.nextReport next).mode = .incremental ∧
      (Retries session.surface failed (after.nextReport next) ↔
        ∀ {line text}, session.surface.line? line = some text → text ≠ [] →
          failed.firstLine ≤ line → line ≤ failed.lastLine →
            (line < lines.1 → nextLine ≤ line) ∧ (lines.2 < line → line ≤ nextLine)) := by
  intro after failed lines nextLine
  obtain ⟨changed, snapshot, -, -⟩ := onEdit_of_incomplete incomplete
  have sameLines : after.surface.lines = session.surface.lines := session.lines_onEdit cursor
  have content := content_congr sameLines
  have sameLine : nearestLine after.surface next = nextLine := by
    simp only [nearestLine, lineCount, sameLines, nextLine]
  obtain ⟨mode, first, last⟩ :=
    nextReport_of_changed (show after.surface.content ≠ after.snapshot by
      rwa [content, snapshot]) next
  rw [content, snapshot, sameLine] at first last
  change _ = min lines.1 nextLine at first
  change _ = max lines.2 nextLine at last
  refine ⟨mode, ?_, ?_⟩
  · intro retries line text atLine visible lower upper
    have reached := retries.reaches atLine visible lower upper
    omega
  · intro near
    refine ⟨by simp [mode], ?_⟩
    intro line text atLine visible lower upper
    have beside := near atLine visible lower upper
    omega

/-- When the cursor stays on its line, the next pass goes over all lines of the incomplete one
again. -/
theorem onEdit_retries_of_same_line {session : Session σ} {cursor next : Position}
    (incomplete : (session.onEdit cursor).2.complete = false)
    (sameLine : nearestLine session.surface next = nearestLine session.surface cursor) :
    Retries session.surface (session.onEdit cursor).2
      ((session.onEdit cursor).1.nextReport next) := by
  obtain ⟨-, -, first, last⟩ := onEdit_of_incomplete incomplete
  apply (onEdit_retries_iff incomplete next).2.mpr
  intro line text atLine visible lower upper
  rw [first] at lower
  rw [last] at upper
  rw [sameLine, nearestLine]
  cases scope : session.scope <;> simp only [window, scope] at lower upper <;> omega

/-- After an incomplete full pass, the next pass goes over the whole text again, wherever its
cursor is, unless there is no text: on an empty text it is skipped. -/
theorem fullPass_retries_iff {session : Session σ} (lined : session.surface.Lined)
    (incomplete : session.fullPass.2.complete = false) (next : Position) :
    Retries session.surface session.fullPass.2 (session.fullPass.1.nextReport next) ↔
      session.surface.content ≠ [] := by
  have snapshot := fullPass_of_incomplete incomplete
  have sameLines := session.lines_fullPass
  have content := content_congr sameLines
  generalize session.fullPass.1 = after at *
  constructor
  · intro retries empty
    exact retries.passes (nextReport_of_unchanged (by rw [content, snapshot, empty]) next)
  · intro nonempty
    obtain ⟨mode, first, last⟩ :=
      nextReport_of_changed (show after.surface.content ≠ after.snapshot by
      rwa [content, snapshot]) next
    rw [content, snapshot] at first last
    refine ⟨by simp [mode], ?_⟩
    intro line text atLine visible lower upper
    -- A line beside the lines that changed would be a line of the emptied snapshot.
    have inside : (changedLines [] session.surface.content).1 ≤ line ∧
        line ≤ (changedLines [] session.surface.content).2 := by
      cases line with
      | zero => simp [line?] at atLine
      | succ index =>
          rw [line?, ← lines_content lined] at atLine
          by_contra outside
          have beside : index + 1 < (changedLines [] session.surface.content).1 ∨
              (changedLines [] session.surface.content).2 ≤ index := by omega
          have blank := mem_lines_of_outside atLine beside
          exact visible (List.mem_singleton.mp blank)
    omega

/-- What is left to the pass after an incomplete one. After a pass on an edit it is never skipped,
it goes over the changed lines again, and over each other line of the incomplete pass exactly when
that line lies between the changed lines and the line of the new cursor; this holds for all of them
if the cursor has stayed on its line. After a full pass it goes over the whole text again, unless
the text is empty. -/
theorem incomplete_pass_retries_iff (session : Session σ) (lined : session.surface.Lined)
    (next : Position) :
    (∀ cursor, (session.onEdit cursor).2.complete = false →
      let after := (session.onEdit cursor).1
      let failed := (session.onEdit cursor).2
      let lines := changedLines session.snapshot session.surface.content
      let nextLine := nearestLine session.surface next
      (after.nextReport next).mode = .incremental ∧
        (Retries session.surface failed (after.nextReport next) ↔
          ∀ {line text}, session.surface.line? line = some text → text ≠ [] →
            failed.firstLine ≤ line → line ≤ failed.lastLine →
              (line < lines.1 → nextLine ≤ line) ∧ (lines.2 < line → line ≤ nextLine)) ∧
        (nextLine = nearestLine session.surface cursor →
          Retries session.surface failed (after.nextReport next))) ∧
    (session.fullPass.2.complete = false →
      (Retries session.surface session.fullPass.2 (session.fullPass.1.nextReport next) ↔
        session.surface.content ≠ [])) := by
  constructor
  · intro cursor incomplete
    obtain ⟨mode, retries⟩ := onEdit_retries_iff incomplete next
    exact ⟨mode, retries, onEdit_retries_of_same_line incomplete⟩
  · intro incomplete
    exact fullPass_retries_iff lined incomplete next

/-- A tokenizer that loses the last character of its text, or adds one to an empty text. -/
def lossy : Tokenizer where
  name := "Lossy"
  lex text := if text.isEmpty then [⟨.text, ['?']⟩] else [⟨.text, text.dropLast⟩]

/-- A pass that was incomplete with the cursor on the last line is retried from there, and so is
a full pass. -/
theorem incomplete_pass_retries_on_last_line :
    let opened := bare (.ofText ['a', '\n', 'b', '\n', 'c']) lossy
    let session := { opened with surface := opened.surface.insert ⟨1, 1⟩ ['x'] }
    session.surface.Lined ∧
      (session.onEdit ⟨3, 0⟩).2 = ⟨.incremental, 1, 3, 1, false⟩ ∧
      Retries session.surface (session.onEdit ⟨3, 0⟩).2
        ((session.onEdit ⟨3, 0⟩).1.nextReport ⟨3, 1⟩) ∧
      session.fullPass.2.complete = false ∧
      Retries session.surface session.fullPass.2
        (session.fullPass.1.nextReport ⟨3, 1⟩) := by
  intro opened session
  have lined : session.surface.Lined := lined_of_lines_eq rfl
  have report : (session.onEdit ⟨3, 0⟩).2 = ⟨.incremental, 1, 3, 1, false⟩ := by decide
  have incomplete : session.fullPass.2.complete = false := by decide
  obtain ⟨edits, full⟩ := incomplete_pass_retries_iff session lined ⟨3, 1⟩
  obtain ⟨-, -, sameLine⟩ := edits ⟨3, 0⟩ (congrArg Report.complete report)
  exact ⟨lined, report, sameLine rfl, incomplete, (full incomplete).mpr (by decide)⟩

/-- When the cursor leaves the last line after an incomplete pass, the second and the third line
stay as the incomplete pass left them: the next pass covers the first line alone. -/
theorem moved_cursor_leaves_lines_out :
    let opened := bare (.ofText ['a', '\n', 'b', '\n', 'c']) lossy
    let session := { opened with surface := opened.surface.insert ⟨1, 1⟩ ['x'] }
    let after := (session.onEdit ⟨3, 0⟩).1
    (session.onEdit ⟨3, 0⟩).2 = ⟨.incremental, 1, 3, 1, false⟩ ∧
      (after.nextReport ⟨1, 0⟩).firstLine = 1 ∧ (after.nextReport ⟨1, 0⟩).lastLine = 1 ∧
      ¬Retries session.surface (session.onEdit ⟨3, 0⟩).2 (after.nextReport ⟨1, 0⟩) := by
  intro opened session after
  have report : (session.onEdit ⟨3, 0⟩).2 = ⟨.incremental, 1, 3, 1, false⟩ := by decide
  have last : (after.nextReport ⟨1, 0⟩).lastLine = 1 := by decide
  refine ⟨report, by decide, last, fun retries => ?_⟩
  have reached := retries.reaches (show session.surface.line? 3 = some ['c'] by decide)
    (by decide) (by decide) (by decide)
  omega

/-- An incomplete full pass on an empty text is not retried: the next pass is skipped. -/
theorem incomplete_pass_on_empty_text_is_skipped :
    let session := bare .empty lossy
    session.fullPass.2 = ⟨.full, 1, 1, 0, false⟩ ∧
      (session.fullPass.1.nextReport .start).mode = .skipped := by
  decide

end Highlighter.Session
