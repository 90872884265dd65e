import Mathlib.Logic.Basic
import PureService.Proofs.Yaml.Offset
import PureService.Yaml.Token.OfText

/-!
# Scanning does not depend on the offset

A scanner compares offsets only with each other, to find out how long a key
has become.  Behind more characters it delivers the same tokens.
-/

namespace PureService.Yaml

/-- The same candidate behind more characters. -/
def KeyCandidate.shift (distance : Nat) (key : KeyCandidate) : KeyCandidate :=
  { key with offset := key.offset + distance }

namespace Scanner

/-- The same scanner behind more characters. -/
def shift (scanner : Scanner) (distance : Nat) : Scanner :=
  { scanner with
    cursor := scanner.cursor.shift distance
    blockKey := scanner.blockKey.map (KeyCandidate.shift distance)
    flowKeys := scanner.flowKeys.map (Option.map (KeyCandidate.shift distance)) }

section Shift

variable (scanner : Scanner) (distance : Nat)

@[simp]
theorem cursor_shift : (scanner.shift distance).cursor = scanner.cursor.shift distance :=
  rfl

@[simp]
theorem inFlow_shift : (scanner.shift distance).inFlow = scanner.inFlow := by
  simp [inFlow, shift]

@[simp]
theorem keyAllowed_shift : (scanner.shift distance).keyAllowed = scanner.keyAllowed :=
  rfl

@[simp]
theorem indent_shift : (scanner.shift distance).indent = scanner.indent :=
  rfl

@[simp]
theorem outerIndents_shift : (scanner.shift distance).outerIndents = scanner.outerIndents :=
  rfl

@[simp]
theorem waiting_shift : (scanner.shift distance).waiting = scanner.waiting :=
  rfl

@[simp]
theorem delivered_shift : (scanner.shift distance).delivered = scanner.delivered :=
  rfl

@[simp]
theorem candidate_shift :
    (scanner.shift distance).candidate = scanner.candidate.map (KeyCandidate.shift distance) := by
  cases keys : scanner.flowKeys <;> simp [candidate, shift, keys]

@[simp]
theorem setCandidate_shift (key : Option KeyCandidate) :
    (scanner.shift distance).setCandidate (key.map (KeyCandidate.shift distance)) =
      (scanner.setCandidate key).shift distance := by
  cases keys : scanner.flowKeys <;> simp [setCandidate, shift, keys]

@[simp]
theorem setCandidate_none_shift :
    (scanner.shift distance).setCandidate none = (scanner.setCandidate none).shift distance :=
  setCandidate_shift scanner distance none

@[simp]
theorem candidates_shift :
    (scanner.shift distance).candidates =
      scanner.candidates.map (KeyCandidate.shift distance) := by
  simp only [candidates, shift, List.filterMap_append, List.map_append, List.filterMap_map,
    List.map_filterMap]
  cases scanner.blockKey <;> rfl

@[simp]
theorem enqueue_shift (token : Token) :
    (scanner.shift distance).enqueue token = (scanner.enqueue token).shift distance :=
  rfl

@[simp]
theorem insertBefore_shift (number : Nat) (token : Token) :
    (scanner.shift distance).insertBefore number token =
      (scanner.insertBefore number token).shift distance :=
  rfl

@[simp]
theorem allowKey_shift (keyAllowed : Bool) :
    (scanner.shift distance).allowKey keyAllowed = (scanner.allowKey keyAllowed).shift distance :=
  rfl

@[simp]
theorem take_shift (width : Nat) (token : Token) :
    (scanner.shift distance).take width token = (scanner.take width token).shift distance := by
  simp [take, shift, enqueue]

@[simp]
theorem isStale_shift (key : KeyCandidate) :
    (scanner.shift distance).isStale (key.shift distance) = scanner.isStale key := by
  have offsets : key.offset + distance + maxKeyLength < scanner.cursor.offset + distance ↔
      key.offset + maxKeyLength < scanner.cursor.offset := by
    omega
  exact congrArg (decide (key.line < scanner.cursor.line) || ·) (decide_eq_decide.mpr offsets)

theorem filter_isStale_shift (key : Option KeyCandidate) :
    (key.map (KeyCandidate.shift distance)).filter
        (fun key => !(scanner.shift distance).isStale key) =
      (key.filter fun key => !scanner.isStale key).map (KeyCandidate.shift distance) := by
  cases key with
  | none => rfl
  | some key => cases stale : scanner.isStale key <;> simp [Option.filter, stale]

theorem dropStale_shift :
    (scanner.shift distance).dropStale = scanner.dropStale.map (·.shift distance) := by
  have required : (scanner.shift distance).candidates.any
        (fun key => key.isRequired && (scanner.shift distance).isStale key) =
      scanner.candidates.any fun key => key.isRequired && scanner.isStale key := by
    rw [candidates_shift, List.any_map]
    congr 1
    funext key
    exact congrArg (key.isRequired && ·) (isStale_shift scanner distance key)
  have flowKeys : (scanner.shift distance).flowKeys.map
        (Option.filter fun key => !(scanner.shift distance).isStale key) =
      (scanner.flowKeys.map (Option.filter fun key => !scanner.isStale key)).map
        (Option.map (KeyCandidate.shift distance)) := by
    rw [List.map_map]
    exact List.map_map.trans (List.map_congr_left fun key _ => filter_isStale_shift _ _ key)
  have blockKey := filter_isStale_shift scanner distance scanner.blockKey
  rw [dropStale, dropStale, required]
  split
  · rfl
  · exact congrArg₂
      (fun blockKey flowKeys => some { scanner.shift distance with blockKey, flowKeys })
      blockKey flowKeys

theorem dropCandidate_shift :
    (scanner.shift distance).dropCandidate = scanner.dropCandidate.map (·.shift distance) := by
  have required : (scanner.shift distance).candidate.any KeyCandidate.isRequired =
      scanner.candidate.any KeyCandidate.isRequired := by
    rw [candidate_shift]
    cases scanner.candidate <;> rfl
  rw [dropCandidate, dropCandidate, required, setCandidate_none_shift]
  split <;> rfl

theorem saveCandidate_shift :
    (scanner.shift distance).saveCandidate = scanner.saveCandidate.map (·.shift distance) := by
  rw [saveCandidate, saveCandidate, keyAllowed_shift]
  split
  · rw [dropCandidate_shift]
    cases scanner.dropCandidate with
    | none => rfl
    | some dropped =>
      simp only [Option.map_some, Option.bind_eq_bind, Option.bind_some, inFlow_shift]
      exact congrArg some (setCandidate_shift dropped distance (some
        ⟨!scanner.inFlow && scanner.indent = scanner.cursor.column,
          scanner.delivered + scanner.waiting.length, scanner.cursor.offset, scanner.cursor.line,
          scanner.cursor.column⟩))
  · rfl

@[simp]
theorem openBlock_shift (column : Nat) (number : Option Nat) (token : Token) :
    (scanner.shift distance).openBlock column number token =
      (scanner.openBlock column number token).shift distance := by
  rw [openBlock, openBlock, inFlow_shift, indent_shift, apply_ite (Scanner.shift · distance)]
  cases number <;> rfl

@[simp]
theorem closeBlocks_shift (column : Int) :
    (scanner.shift distance).closeBlocks column = (scanner.closeBlocks column).shift distance := by
  simp only [closeBlocks, inFlow_shift, indent_shift, outerIndents_shift]
  split
  · rfl
  · split <;> rfl

theorem scan_shift {α : Type} {read : Scan α} (reads : read.IgnoresOffset) :
    (scanner.shift distance).scan read =
      (scanner.scan read).map fun (result, after) => (result, after.shift distance) := by
  rw [scan, scan, cursor_shift, reads]
  cases read.run scanner.cursor <;> rfl

theorem skipToToken_shift (bound : Nat) :
    skipToToken bound (scanner.shift distance) = (skipToToken bound scanner).shift distance := by
  induction bound generalizing scanner with
  | zero => rfl
  | succ bound ih =>
      have ending (here : Cursor) :
          (if (here.shift distance).peek.any isBreak then
            skipToToken bound { scanner.shift distance with
              cursor := (here.shift distance).advanceBreak
              keyAllowed := scanner.keyAllowed || !scanner.inFlow }
            else { scanner.shift distance with cursor := here.shift distance }) =
          (if here.peek.any isBreak then
            skipToToken bound { scanner with
              cursor := here.advanceBreak
              keyAllowed := scanner.keyAllowed || !scanner.inFlow }
            else { scanner with cursor := here }).shift distance := by
        rw [Cursor.peek_shift, Cursor.advanceBreak_shift]
        split
        · exact ih { scanner with
            cursor := here.advanceBreak, keyAllowed := scanner.keyAllowed || !scanner.inFlow }
        · rfl
      simp only [skipToToken, cursor_shift, inFlow_shift, keyAllowed_shift, Cursor.shift_rest,
        Cursor.advance_shift, Cursor.peek_shift]
      split <;> exact ending _

theorem bind_shift {found : Option Scanner} {next : Scanner → Option Scanner}
    (each : ∀ scanner, next (scanner.shift distance) = (next scanner).map (·.shift distance)) :
    (found.map (·.shift distance) >>= next) = (found >>= next).map (·.shift distance) := by
  cases found with
  | none => rfl
  | some scanner => exact each scanner

theorem guard_bind_shift (condition : Prop) [decision : Decidable condition]
    {next found : Option Scanner} (same : next = found.map (·.shift distance)) :
    (guard condition >>= fun _ => next) =
      (guard condition >>= fun _ => found).map (·.shift distance) := by
  subst same
  cases decision <;> rfl

theorem ite_shift {first second : Prop} [Decidable first] [Decidable second]
    {thenFirst thenSecond elseFirst elseSecond : Option Scanner} (same : first ↔ second)
    (whenTrue : thenFirst = thenSecond.map (·.shift distance))
    (whenFalse : elseFirst = elseSecond.map (·.shift distance)) :
    (if first then thenFirst else elseFirst) =
      (if second then thenSecond else elseSecond).map (·.shift distance) := by
  by_cases holds : second
  · rwa [if_pos holds, if_pos (same.mpr holds)]
  · rwa [if_neg holds, if_neg (mt same.mp holds)]

theorem scan_bind_shift {α : Type} {read : Scan α} {next : α × Scanner → Option Scanner}
    (reads : read.IgnoresOffset)
    (each : ∀ result scanner,
      next (result, scanner.shift distance) = (next (result, scanner)).map (·.shift distance)) :
    ((scanner.shift distance).scan read >>= next) =
      (scanner.scan read >>= next).map (·.shift distance) := by
  rw [scan_shift scanner distance reads]
  cases scanner.scan read with
  | none => rfl
  | some found => exact each found.1 found.2

theorem fetchEnd_shift :
    (scanner.shift distance).fetchEnd = scanner.fetchEnd.map (·.shift distance) := by
  have closing (ended : Cursor) :
      ((({ scanner with cursor := ended }.shift distance).closeBlocks (-1)).dropCandidate >>=
          fun dropped => some ((dropped.allowKey false).enqueue .streamEnd)) =
        (({ scanner with cursor := ended }.closeBlocks (-1)).dropCandidate >>=
          fun dropped => some ((dropped.allowKey false).enqueue .streamEnd)).map
            (·.shift distance) := by
    rw [closeBlocks_shift, dropCandidate_shift]
    exact bind_shift _ fun _ => rfl
  by_cases begins : scanner.cursor.column = 0
  · have alsoBegins : (scanner.shift distance).cursor.column = 0 := begins
    simp only [fetchEnd, if_pos begins, if_pos alsoBegins]
    exact closing scanner.cursor
  · have alsoWithin : (scanner.shift distance).cursor.column ≠ 0 := begins
    simp only [fetchEnd, if_neg begins, if_neg alsoWithin]
    exact closing { scanner.cursor with line := scanner.cursor.line + 1, column := 0 }

theorem fetchBetween_shift {read : Scan Token} (reads : read.IgnoresOffset) :
    (scanner.shift distance).fetchBetween read =
      (scanner.fetchBetween read).map (·.shift distance) := by
  rw [fetchBetween, fetchBetween, closeBlocks_shift, dropCandidate_shift]
  exact bind_shift _ fun dropped =>
    scan_bind_shift (dropped.allowKey false) _ reads fun _ _ => rfl

theorem fetchFlowStart_shift (token : Token) :
    (scanner.shift distance).fetchFlowStart token =
      (scanner.fetchFlowStart token).map (·.shift distance) := by
  rw [fetchFlowStart, fetchFlowStart, saveCandidate_shift]
  refine bind_shift _ fun saved => congrArg some ?_
  simp [shift, take, allowKey, enqueue]

theorem fetchFlowEnd_shift (token : Token) :
    (scanner.shift distance).fetchFlowEnd token =
      (scanner.fetchFlowEnd token).map (·.shift distance) := by
  rw [fetchFlowEnd, fetchFlowEnd, dropCandidate_shift]
  refine bind_shift _ fun dropped => congrArg some ?_
  simp [shift, take, allowKey, enqueue]

theorem fetchFlowEntry_shift :
    (scanner.shift distance).fetchFlowEntry = scanner.fetchFlowEntry.map (·.shift distance) := by
  rw [fetchFlowEntry, fetchFlowEntry, dropCandidate_shift]
  exact bind_shift _ fun dropped => congrArg some (take_shift (dropped.allowKey true) _ _ _)

theorem fetchBlockEntry_shift :
    (scanner.shift distance).fetchBlockEntry = scanner.fetchBlockEntry.map (·.shift distance) := by
  rw [fetchBlockEntry, fetchBlockEntry, inFlow_shift, keyAllowed_shift]
  refine guard_bind_shift _ _ ?_
  simp only [cursor_shift, Cursor.shift_column, openBlock_shift, dropCandidate_shift]
  exact bind_shift _ fun dropped => congrArg some (take_shift (dropped.allowKey true) _ _ _)

theorem fetchKey_shift :
    (scanner.shift distance).fetchKey = scanner.fetchKey.map (·.shift distance) := by
  rw [fetchKey, fetchKey, inFlow_shift, keyAllowed_shift]
  refine guard_bind_shift _ _ ?_
  simp only [cursor_shift, Cursor.shift_column, openBlock_shift, dropCandidate_shift]
  exact bind_shift _ fun dropped => congrArg some
    (take_shift (dropped.allowKey !scanner.inFlow) _ _ _)

theorem fetchValue_shift :
    (scanner.shift distance).fetchValue = scanner.fetchValue.map (·.shift distance) := by
  rw [fetchValue, fetchValue, candidate_shift]
  cases scanner.candidate with
  | none =>
      rw [Option.map_none, inFlow_shift, keyAllowed_shift]
      refine guard_bind_shift _ _ ?_
      simp
  | some key => simp [KeyCandidate.shift]

theorem fetchNodePart_shift {read : Scan Token} (reads : read.IgnoresOffset) :
    (scanner.shift distance).fetchNodePart read =
      (scanner.fetchNodePart read).map (·.shift distance) := by
  rw [fetchNodePart, fetchNodePart, saveCandidate_shift]
  exact bind_shift _ fun saved =>
    scan_bind_shift (saved.allowKey false) _ reads fun _ _ => rfl

theorem fetchBlockScalar_shift (isLiteral : Bool) :
    (scanner.shift distance).fetchBlockScalar isLiteral =
      (scanner.fetchBlockScalar isLiteral).map (·.shift distance) := by
  rw [fetchBlockScalar, fetchBlockScalar, dropCandidate_shift]
  exact bind_shift _ fun dropped =>
    scan_bind_shift (dropped.allowKey true) _ (.blockScalar _ _) fun _ _ => rfl

theorem fetchPlain_shift :
    (scanner.shift distance).fetchPlain = scanner.fetchPlain.map (·.shift distance) := by
  rw [fetchPlain, fetchPlain, saveCandidate_shift, inFlow_shift]
  exact bind_shift _ fun saved =>
    scan_bind_shift (saved.allowKey false) _ (.plainScalar _ _) fun _ _ => rfl

theorem ignoresOffset_readTag (inFlow : Bool) : (readTag inFlow).IgnoresOffset :=
  .bind .tag fun _ => .bind .peek fun _ => .bind (.require _) fun _ => .pure _

theorem fetchAt_shift (char : Char) :
    (scanner.shift distance).fetchAt char = (scanner.fetchAt char).map (·.shift distance) := by
  have mark (token : Token) : (do Scan.skip 3; return token : Scan Token).IgnoresOffset :=
    .bind (.skip _) fun _ => .pure _
  unfold fetchAt
  refine ite_shift _ .rfl (fetchBetween_shift _ _ .directive) ?_
  refine ite_shift _ .rfl (fetchBetween_shift _ _ (mark _)) ?_
  refine ite_shift _ .rfl (fetchBetween_shift _ _ (mark _)) ?_
  split
  · exact fetchFlowStart_shift _ _ _
  · exact fetchFlowStart_shift _ _ _
  · exact fetchFlowEnd_shift _ _ _
  · exact fetchFlowEnd_shift _ _ _
  · exact fetchFlowEntry_shift _ _
  · exact fetchNodePart_shift _ _ (.bind .anchorName fun _ => .pure _)
  · exact fetchNodePart_shift _ _ (.bind .anchorName fun _ => .pure _)
  · rw [inFlow_shift]
    exact fetchNodePart_shift _ _ (ignoresOffset_readTag _)
  · exact fetchNodePart_shift _ _ (.bind (.quotedScalar _) fun _ => .pure _)
  · exact fetchNodePart_shift _ _ (.bind (.quotedScalar _) fun _ => .pure _)
  · refine ite_shift _ .rfl (fetchBlockEntry_shift _ _) ?_
    refine ite_shift _ (by simp) (fetchKey_shift _ _) ?_
    refine ite_shift _ (by simp) (fetchValue_shift _ _) ?_
    refine ite_shift _ (by simp) (fetchBlockScalar_shift _ _ _) ?_
    refine ite_shift _ (by simp) (fetchBlockScalar_shift _ _ _) ?_
    exact ite_shift _ (by simp [canBeginPlain]) (fetchPlain_shift _ _) rfl

theorem fetch_shift :
    (scanner.shift distance).fetch = scanner.fetch.map (·.shift distance) := by
  rw [fetch, fetch, cursor_shift, Cursor.shift_rest, skipToToken_shift, dropStale_shift]
  refine bind_shift _ fun fresh => ?_
  simp only [cursor_shift, Cursor.peek_shift, Cursor.shift_column, closeBlocks_shift]
  cases fresh.cursor.peek with
  | none => exact fetchEnd_shift fresh distance
  | some char => exact fetchAt_shift _ distance char

theorem certain_shift : (scanner.shift distance).certain = scanner.certain := by
  simp [certain, Function.comp_def, KeyCandidate.shift]

/-- Behind more characters the same tokens are delivered. -/
theorem tokensWithin_shift (bound : Nat) :
    tokensWithin bound (scanner.shift distance) = tokensWithin bound scanner := by
  induction bound generalizing scanner with
  | zero => rfl
  | succ bound ih =>
      rw [tokensWithin, tokensWithin, dropStale_shift]
      cases scanner.dropStale with
      | none => rfl
      | some fresh =>
          simp only [Option.map_some, certain_shift, waiting_shift, delivered_shift]
          split
          · rfl
          · refine congrArg (fresh.certain ++ ·) ?_
            have fetched := fetch_shift { fresh with
              delivered := fresh.delivered + fresh.certain.length
              waiting := fresh.waiting.drop fresh.certain.length } distance
            simp only [shift] at fetched ⊢
            rw [fetched]
            cases fetch _ with
            | none => rfl
            | some next => exact ih next

end Shift

/-- Once the stream has ended, a larger bound yields no more tokens. -/
theorem tokensWithin_of_le {bound larger : Nat} {scanner : Scanner} (smaller : bound ≤ larger)
    (ended : (tokensWithin bound scanner).getLast? = some .streamEnd) :
    tokensWithin larger scanner = tokensWithin bound scanner := by
  -- The larger bound is used up no faster, so the smaller one alone carries the induction.
  induction bound generalizing larger scanner with
  | zero => cases ended
  | succ bound ih =>
      cases larger with
      | zero => omega
      | succ larger =>
          rw [tokensWithin] at ended ⊢
          rw [tokensWithin]
          cases dropped : scanner.dropStale with
          | none => rfl
          | some fresh =>
              simp only [dropped] at ended ⊢
              split
              next => rfl
              next goesOn =>
                rw [if_neg goesOn] at ended
                refine congrArg (fresh.certain ++ ·) ?_
                split
                next => rfl
                next next fetched =>
                  rw [fetched, List.getLast?_append] at ended
                  refine ih (Nat.le_of_succ_le_succ smaller) ?_
                  cases last : (tokensWithin bound next).getLast? with
                  | none => simp [last, goesOn] at ended
                  | some token => simpa [last] using ended

/-- A line with a comment is skipped. -/
theorem skipToToken_of_comment {scanner : Scanner} {comment rest : List Char} (bound : Nat)
    (text : scanner.cursor.rest = '#' :: (comment ++ '\n' :: rest))
    (unbroken : comment.all (fun char => !isBreak char) = true) :
    skipToToken (bound + 1) scanner = skipToToken bound { scanner with
      cursor := (scanner.cursor.advance (comment.length + 1)).advanceBreak
      keyAllowed := scanner.keyAllowed || !scanner.inFlow } := by
  have here : scanner.cursor.peek = some '#' := by
    rw [Cursor.peek, text]
    rfl
  have stays : scanner.cursor.advance 0 = scanner.cursor := rfl
  have line : (scanner.cursor.rest.takeWhile fun char => !isBreak char) = '#' :: comment := by
    have inside : ∀ char ∈ '#' :: comment, (!isBreak char) = true := by
      simpa [isBreak] using unbroken
    rw [text, ← List.cons_append, List.takeWhile_append_of_pos inside]
    simp [isBreak]
  have ends : (scanner.cursor.advance (comment.length + 1)).peek.any isBreak = true := by
    simp [Cursor.peek, Cursor.advance, text, isBreak]
  have unspaced : (scanner.cursor.rest.takeWhile fun char =>
      char = ' ' || (char = '\t' && (scanner.inFlow || !scanner.keyAllowed))) = [] := by
    simp [text]
  simp [skipToToken, unspaced, stays, here, line, ends]

section Waiting

variable {scanner : Scanner}

theorem dropStale_of_none (block : scanner.flowKeys = []) (unkeyed : scanner.blockKey = none) :
    scanner.dropStale = some scanner := by
  cases scanner
  simp_all [dropStale, candidates]

theorem certain_of_none (block : scanner.flowKeys = []) (unkeyed : scanner.blockKey = none) :
    scanner.certain = scanner.waiting := by
  simp [certain, candidates, block, unkeyed]

/-- One more token is fetched when no waiting one is certain. -/
theorem tokensWithin_of_fetch {bound : Nat} {next : Scanner}
    (fresh : scanner.dropStale = some scanner) (uncertain : scanner.certain = [])
    (fetched : scanner.fetch = some next) :
    tokensWithin (bound + 1) scanner = tokensWithin bound next := by
  rw [tokensWithin, fresh]
  simp [uncertain, fetched]

/-- Without candidates all waiting tokens are delivered at once. -/
theorem tokensWithin_of_none {bound : Nat} (block : scanner.flowKeys = [])
    (unkeyed : scanner.blockKey = none) (goesOn : scanner.waiting.getLast? ≠ some .streamEnd) :
    tokensWithin (bound + 1) scanner =
      scanner.waiting ++ tokensWithin (bound + 1) { scanner with
        delivered := scanner.delivered + scanner.waiting.length, waiting := [] } := by
  have fresh : dropStale { scanner with
      delivered := scanner.delivered + scanner.waiting.length, waiting := [] } = some _ :=
    dropStale_of_none block unkeyed
  have uncertain : certain { scanner with
      delivered := scanner.delivered + scanner.waiting.length, waiting := [] } = [] :=
    certain_of_none block unkeyed
  rw [tokensWithin, dropStale_of_none block unkeyed]
  simp only [certain_of_none block unkeyed, if_neg goesOn, List.drop_length]
  rw [tokensWithin, fresh]
  simp [uncertain]

end Waiting

end Scanner

end PureService.Yaml
