import PureService.Yaml.Token.ScalarText
import PureService.Yaml.Token.Tag

/-!
# Reading does not depend on the offset

The offset of a cursor counts the characters before it.  What is read at a
cursor depends on the text that follows and on the column, never on the
offset: a reader that starts further on reads the same and ends as much
further on.
-/

namespace PureService.Yaml

namespace Cursor

/-- The same place behind more characters. -/
def shift (cursor : Cursor) (distance : Nat) : Cursor :=
  { cursor with offset := cursor.offset + distance }

variable (cursor : Cursor) (distance : Nat)

@[simp]
theorem shift_rest : (cursor.shift distance).rest = cursor.rest :=
  rfl

@[simp]
theorem shift_column : (cursor.shift distance).column = cursor.column :=
  rfl

@[simp]
theorem peek_shift : (cursor.shift distance).peek = cursor.peek :=
  rfl

@[simp]
theorem peekAt_shift (count : Nat) : (cursor.shift distance).peekAt count = cursor.peekAt count :=
  rfl

@[simp]
theorem isAtMark_shift (char : Char) :
    (cursor.shift distance).isAtMark char = cursor.isAtMark char :=
  rfl

@[simp]
theorem isAtDocumentMark_shift :
    (cursor.shift distance).isAtDocumentMark = cursor.isAtDocumentMark :=
  rfl

@[simp]
theorem advance_shift (count : Nat) :
    (cursor.shift distance).advance count = (cursor.advance count).shift distance := by
  simp [advance, shift, Nat.add_right_comm]

@[simp]
theorem advanceBreak_shift :
    (cursor.shift distance).advanceBreak = cursor.advanceBreak.shift distance := by
  simp [advanceBreak, shift, Nat.add_right_comm]

end Cursor

namespace Scan

variable {α β : Type}

/-- The reader reads the same behind more characters. -/
def IgnoresOffset (read : Scan α) : Prop :=
  ∀ cursor distance, read.run (cursor.shift distance) =
    (read.run cursor).map fun (result, after) => (result, after.shift distance)

theorem IgnoresOffset.pure (result : α) : IgnoresOffset (Pure.pure result) :=
  fun _ _ => rfl

theorem IgnoresOffset.fail : IgnoresOffset (Scan.fail : Scan α) :=
  fun _ _ => rfl

theorem IgnoresOffset.bind {read : Scan α} {next : α → Scan β} (first : IgnoresOffset read)
    (second : ∀ result, IgnoresOffset (next result)) : IgnoresOffset (read >>= next) := by
  intro cursor distance
  rw [StateT.run_bind, StateT.run_bind, first]
  cases read.run cursor with
  | none => rfl
  | some found => exact second found.1 found.2 distance

/-- A reader may look at the cursor, but not at its offset. -/
theorem IgnoresOffset.get {next : Cursor → Scan α}
    (same : ∀ cursor distance, next (cursor.shift distance) = next cursor)
    (each : ∀ cursor, IgnoresOffset (next cursor)) :
    IgnoresOffset (MonadState.get >>= next) := by
  intro cursor distance
  have opened (here : Cursor) : (MonadState.get >>= next).run here = (next here).run here := rfl
  rw [opened, opened, same]
  exact each cursor cursor distance

theorem IgnoresOffset.lift (found : Option α) : IgnoresOffset (StateT.lift found) := by
  intro cursor distance
  cases found <;> rfl

theorem IgnoresOffset.modify {move : Cursor → Cursor}
    (moves : ∀ cursor distance, move (cursor.shift distance) = (move cursor).shift distance) :
    IgnoresOffset (modifyThe Cursor move : Scan Unit) := by
  intro cursor distance
  have opened (here : Cursor) :
      (modifyThe Cursor move : Scan Unit).run here = some ((), move here) := rfl
  rw [opened, opened, moves]
  rfl

theorem IgnoresOffset.ite {condition : Prop} [Decidable condition] {first second : Scan α}
    (whenTrue : IgnoresOffset first) (whenFalse : IgnoresOffset second) :
    IgnoresOffset (if condition then first else second) := by
  split <;> assumption

theorem IgnoresOffset.peek : IgnoresOffset peek :=
  .get (fun _ _ => rfl) fun _ => .pure _

theorem IgnoresOffset.skip (count : Nat) : IgnoresOffset (skip count) :=
  .modify fun _ _ => Cursor.advance_shift _ _ _

theorem IgnoresOffset.require (condition : Bool) : IgnoresOffset (require condition) :=
  .ite (.pure _) .fail

theorem IgnoresOffset.takeWhile (condition : Char → Bool) :
    IgnoresOffset (takeWhile condition) :=
  .get (fun _ _ => rfl) fun _ => .bind (.skip _) fun _ => .pure _

theorem IgnoresOffset.discard {read : Scan α} (reads : IgnoresOffset read) :
    IgnoresOffset (discard read) := by
  intro cursor distance
  have opened (here : Cursor) : (Functor.discard read).run here =
      (read.run here).map fun (_, after) => ((), after) := by
    cases found : read.run here <;>
      simp_all [Functor.discard, Functor.mapConst, StateT.map, StateT.run]
  rw [opened, opened, reads]
  cases read.run cursor <;> rfl

theorem IgnoresOffset.skipWhile (condition : Char → Bool) :
    IgnoresOffset (skipWhile condition) :=
  .discard (.takeWhile _)

theorem IgnoresOffset.lineBreak? : IgnoresOffset lineBreak? := by
  refine .bind .peek fun next => ?_
  split
  · exact .ite (.bind (.modify Cursor.advanceBreak_shift) fun _ => .pure _) (.pure _)
  · exact .pure _

theorem IgnoresOffset.skipCommentLine : IgnoresOffset skipCommentLine := by
  have ending : IgnoresOffset
      (do Scan.require (endsLine (← Scan.peek)); Functor.discard Scan.lineBreak?) :=
    .bind .peek fun _ => .bind (.require _) fun _ => .discard .lineBreak?
  exact .bind (.skipWhile _) fun _ => .bind .peek fun _ =>
    .ite (.bind (.skipWhile _) fun _ => ending) ending

theorem IgnoresOffset.gap (leastColumn bound : Nat) (read : Gap) :
    IgnoresOffset (gap leastColumn bound read) := by
  induction bound generalizing read with
  | zero => exact .pure _
  | succ bound ih =>
      refine .get (fun _ _ => rfl) fun cursor => .bind (.takeWhile _) fun spaces => ?_
      cases read with
      | spaces chars =>
          refine .bind (.pure _) fun read => .bind .lineBreak? fun found => ?_
          cases found with
          | none => exact .pure _
          | some char => cases read <;> exact ih _
      | breaks first others =>
          refine .bind (.require _) fun _ => .bind (.pure _) fun read =>
            .bind .lineBreak? fun found => ?_
          cases found with
          | none => exact .pure _
          | some char => cases read <;> exact ih _

theorem IgnoresOffset.plainWords (inFlow : Bool) (leastColumn bound : Nat) (before : Gap) :
    IgnoresOffset (plainWords inFlow leastColumn bound before) := by
  induction bound generalizing before with
  | zero => exact .pure _
  | succ bound ih =>
      refine .get (fun _ _ => rfl) fun cursor => .ite (.pure _) ?_
      refine .bind (.lift _) fun word => .bind (.skip _) fun _ => .bind .peek fun next => ?_
      cases next with
      | none => exact .pure _
      | some char =>
          refine .ite (.bind (.gap _ _ _) fun after => ?_) (.pure _)
          refine .get (fun _ _ => rfl) fun here => ?_
          exact .ite (.pure _) (.bind (ih _) fun _ => .pure _)

theorem IgnoresOffset.plainScalar (inFlow : Bool) (leastColumn : Nat) :
    IgnoresOffset (plainScalar inFlow leastColumn) :=
  .get (fun _ _ => rfl) fun _ => .bind (.plainWords _ _ _ _) fun _ => .pure _

theorem IgnoresOffset.quotedWord (isSingle : Bool) (bound : Nat) :
    IgnoresOffset (quotedWord isSingle bound) := by
  induction bound with
  | zero => exact .pure _
  | succ bound ih =>
      refine .bind (.takeWhile _) fun run => .get (fun _ _ => rfl) fun cursor => ?_
      split
      · exact .bind (.skip _) fun _ => .bind ih fun _ => .pure _
      · refine .ite ?_ ?_
        · exact .bind (.skip _) fun _ => .bind (.modify Cursor.advanceBreak_shift) fun _ => .pure _
        · exact .bind (.lift _) fun _ => .bind (.skip _) fun _ => .bind ih fun _ => .pure _
      · exact .pure _

theorem IgnoresOffset.quotedWords (isSingle : Bool) (bound : Nat) :
    IgnoresOffset (quotedWords isSingle bound) := by
  induction bound with
  | zero => exact .fail
  | succ bound ih =>
      refine .get (fun _ _ => rfl) fun cursor => ?_
      refine .bind (.require _) fun _ => .bind (.require _) fun _ => ?_
      refine .bind (.quotedWord _ _) fun word => .bind .peek fun next => .ite ?_ ?_
      · exact .bind (.skip _) fun _ => .pure _
      · exact .bind (.gap _ _ _) fun between => .bind ih fun rest => .pure _

theorem IgnoresOffset.quotedScalar (isSingle : Bool) : IgnoresOffset (quotedScalar isSingle) :=
  .bind (.skip _) fun _ => .get (fun _ _ => rfl) fun _ => .quotedWords _ _

theorem IgnoresOffset.indentNumber? : IgnoresOffset indentNumber? := by
  refine .bind .peek fun next => ?_
  cases next with
  | none => exact .pure _
  | some char =>
      exact .ite (.bind (.require _) fun _ => .bind (.skip _) fun _ => .pure _) (.pure _)

theorem IgnoresOffset.blockHeader : IgnoresOffset blockHeader := by
  have ending (header : Chomping × Option Nat) :
      IgnoresOffset (do Scan.skipCommentLine; return header) :=
    .bind .skipCommentLine fun _ => .pure _
  refine .bind (.skip _) fun _ => .bind .peek fun sign => ?_
  cases chomping? sign with
  | some chomping =>
      exact .bind (.skip _) fun _ => .bind .indentNumber? fun _ =>
        .bind (.pure _) fun _ => ending _
  | none =>
      refine .bind .indentNumber? fun number => .bind .peek fun next => ?_
      split
      · exact .bind (.skip _) fun _ => .bind (.pure _) fun _ => ending _
      · exact .bind (.pure _) fun _ => ending _

theorem IgnoresOffset.blockBreaks (indent : Option Nat) (bound greatest : Nat)
    (read : List Char) : IgnoresOffset (blockBreaks indent bound greatest read) := by
  induction bound generalizing greatest read with
  | zero => exact .pure _
  | succ bound ih =>
      refine .get (fun _ _ => rfl) fun cursor => .bind (.skip _) fun _ => ?_
      refine .get (fun _ _ => rfl) fun here => ?_
      refine .bind .peek fun next => .bind (.require _) fun _ => .bind .lineBreak? fun found => ?_
      cases found with
      | some char => exact ih _ _
      | none => exact .pure _

theorem IgnoresOffset.blockLines (isLiteral : Bool) (indent bound : Nat) (before : Option Char)
    (empty : List Char) (wasSpaced : Bool) :
    IgnoresOffset (blockLines isLiteral indent bound before empty wasSpaced) := by
  induction bound generalizing before empty wasSpaced with
  | zero => exact .pure _
  | succ bound ih =>
      refine .get (fun _ _ => rfl) fun cursor => ?_
      cases cursor.peek with
      | none => exact .pure _
      | some first =>
          refine .ite ?_ (.pure _)
          exact .bind (.takeWhile _) fun line => .bind .lineBreak? fun after =>
            .bind (.blockBreaks _ _ _ _) fun breaks => .bind (ih _ _ _) fun rest => .pure _

theorem IgnoresOffset.blockScalar (isLiteral : Bool) (parentIndent : Int) :
    IgnoresOffset (blockScalar isLiteral parentIndent) :=
  .bind .blockHeader fun _ => .get (fun _ _ => rfl) fun _ => .bind (.blockBreaks _ _ _ _) fun _ =>
    .bind (.blockLines _ _ _ _ _ _) fun _ => .pure _

theorem IgnoresOffset.tagChars (isFull : Bool) (bound : Nat) (read : List Char) :
    IgnoresOffset (tagChars isFull bound read) := by
  induction bound generalizing read with
  | zero => exact .pure _
  | succ bound ih =>
      refine .get (fun _ _ => rfl) fun cursor => ?_
      cases cursor.rest with
      | nil => exact .pure _
      | cons char rest =>
          refine .ite ?_ (.ite ?_ (.pure _))
          · exact .bind (.lift _) fun _ => .bind (.skip _) fun _ => ih _
          · exact .bind (.skip _) fun _ => ih _

theorem IgnoresOffset.tagText (isFull : Bool) (read : List Char) :
    IgnoresOffset (tagText isFull read) :=
  .get (fun _ _ => rfl) fun _ => .bind (.tagChars _ _ _) fun _ =>
    .bind (.require _) fun _ => .pure _

theorem IgnoresOffset.tagHandle (isDirective : Bool) : IgnoresOffset (tagHandle isDirective) :=
  .bind .peek fun _ => .bind (.require _) fun _ => .bind (.skip _) fun _ =>
    .bind (.takeWhile _) fun _ => .bind .peek fun _ =>
      .ite (.bind (.skip _) fun _ => .pure _) (.bind (.require _) fun _ => .pure _)

theorem IgnoresOffset.tag : IgnoresOffset tag := by
  refine .get (fun _ _ => rfl) fun cursor => .ite ?_ ?_
  · exact .bind (.skip _) fun _ => .bind (.tagText _ _) fun _ => .bind .peek fun _ =>
      .bind (.require _) fun _ => .bind (.skip _) fun _ => .pure _
  · refine .bind (.tagHandle _) fun handle => .ite ?_ ?_
    · exact .bind (.tagText _ _) fun _ => .pure _
    · exact .bind (.tagText _ _) fun _ => .pure _

theorem IgnoresOffset.anchorName : IgnoresOffset anchorName :=
  .bind (.skip _) fun _ => .bind (.takeWhile _) fun _ => .bind .peek fun _ =>
    .bind (.require _) fun _ => .bind (.require _) fun _ => .pure _

theorem IgnoresOffset.versionNumber : IgnoresOffset versionNumber :=
  .bind (.takeWhile _) fun _ => .bind (.require _) fun _ => .pure _

theorem IgnoresOffset.directive : IgnoresOffset directive := by
  refine .bind (.skip _) fun _ => .bind (.takeWhile _) fun name => ?_
  refine .bind (.require _) fun _ => .bind .peek fun _ => .bind (.require _) fun _ => .ite ?_ ?_
  · exact .bind (.skipWhile _) fun _ => .bind .versionNumber fun _ => .bind .peek fun _ =>
      .bind (.require _) fun _ => .bind (.skip _) fun _ => .bind .versionNumber fun _ =>
        .bind (.pure _) fun _ => .bind .skipCommentLine fun _ => .pure _
  · refine .ite ?_ .fail
    exact .bind (.skipWhile _) fun _ => .bind (.tagHandle _) fun _ => .bind .peek fun _ =>
      .bind (.require _) fun _ => .bind (.skipWhile _) fun _ => .bind (.tagText _ _) fun _ =>
        .bind .peek fun _ => .bind (.require _) fun _ => .bind (.pure _) fun _ =>
          .bind .skipCommentLine fun _ => .pure _

end Scan

end PureService.Yaml
