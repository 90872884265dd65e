import Mathlib.Data.List.TakeWhile
import PureService.Proofs.Yaml.Scanning

/-!
# Plain scalars on one line

A text that begins like a plain scalar and in which no word ends with a colon
and none begins a comment is scanned as one token, to the end of its line and
with all spaces inside it.
-/

namespace PureService.Yaml

/-- A plain scalar that has begun goes on to the end of the line, and no space comes last. -/
def staysPlain : List Char → Bool
  | [] => true
  | char :: rest =>
    !isBreak char && !(char = ':' && endsWord rest.head?) &&
      !(isSpacing char && (rest.head? = none || rest.head? = some '#')) && staysPlain rest

/-- A word begins here that begins no comment. -/
def beginsWord : List Char → Bool
  | [] => false
  | char :: _ => !isSpacing char && char ≠ '#'

/-- A plain scalar can begin like this. -/
def beginsPlain : List Char → Bool
  | [] => false
  | char :: rest =>
    !isSpacingOrBreak char &&
      (!"-?:,[]\x7b\x7d#&*!|>'\"%@\x60".toList.contains char ||
        (['-', '?', ':'].contains char && !endsWord rest.head?))

/-- The line is one plain scalar as it stands. -/
def isPlainLine (line : List Char) : Bool :=
  line.all isReadable && beginsPlain line && staysPlain line

theorem staysPlain_of_append (before : List Char) {after : List Char}
    (plain : staysPlain (before ++ after) = true) : staysPlain after = true := by
  induction before with
  | nil => exact plain
  | cons char rest ih =>
      simp only [List.cons_append, staysPlain, Bool.and_eq_true] at plain
      exact ih plain.2

theorem Cursor.advance_advance (cursor : Cursor) (first second : Nat) :
    (cursor.advance first).advance second = cursor.advance (first + second) := by
  simp [advance, Nat.add_assoc]

namespace Scan

theorem run_takeWhile (condition : Char → Bool) (cursor : Cursor) :
    (takeWhile condition).run cursor = some (cursor.rest.takeWhile condition,
      cursor.advance (cursor.rest.takeWhile condition).length) :=
  rfl

theorem run_lineBreak? (cursor : Cursor) :
    lineBreak?.run cursor = some (match cursor.peek with
      | some char =>
        if isBreak char then (some (readBreak char), cursor.advanceBreak) else (none, cursor)
      | none => (none, cursor)) := by
  have opened : lineBreak?.run cursor = (match cursor.peek with
      | some char =>
        if isBreak char then (do modify Cursor.advanceBreak; return some (readBreak char))
        else return none
      | none => return none : Scan (Option Char)).run cursor := rfl
  rw [opened]
  cases cursor.peek with
  | none => rfl
  | some char => by_cases broken : isBreak char = true <;> simp only [broken] <;> rfl

theorem run_lineBreak?_of_filled {cursor : Cursor}
    (filled : cursor.peek.all (fun char => !isSpacingOrBreak char) = true) :
    lineBreak?.run cursor = some (none, cursor) := by
  rw [run_lineBreak?]
  cases next : cursor.peek <;> simp_all [isSpacingOrBreak]

theorem plainWordOf_of_staysPlain {line : List Char} (plain : staysPlain line = true)
    (follows : List Char) :
    plainWordOf false (line ++ '\n' :: follows) =
      some (line.takeWhile fun char => !isSpacing char) := by
  induction line with
  | nil => rfl
  | cons char rest ih =>
      simp only [staysPlain, Bool.and_eq_true, Bool.not_eq_true'] at plain
      obtain ⟨⟨⟨unbroken, unmarked⟩, -⟩, plain⟩ := plain
      have unmarked : (char = ':' && endsWord (rest ++ '\n' :: follows).head?) = false := by
        cases rest with
        | nil => exact unmarked
        | cons next others => exact unmarked
      rw [List.cons_append, plainWordOf, ih plain, unmarked]
      cases spacing : isSpacing char <;> simp [isSpacingOrBreak, spacing, unbroken]

theorem run_gap_spaces {leastColumn bound : Nat} {cursor : Cursor} {spaces rest : List Char}
    (text : cursor.rest = spaces ++ rest)
    (spacing : ∀ space ∈ spaces, isSpacing space = true)
    (filled : rest.head?.all (fun char => !isSpacingOrBreak char) = true) :
    (gap leastColumn (bound + 1) .none).run cursor =
      some (.spaces spaces, cursor.advance spaces.length) := by
  have taken : cursor.rest.takeWhile isSpacing = spaces := by
    rw [text, List.takeWhile_append_of_pos spacing]
    cases rest <;> simp_all [isSpacingOrBreak]
  have next : (cursor.advance spaces.length).peek = rest.head? := by
    simp [Cursor.peek, Cursor.advance, text]
  rw [← next] at filled
  simp [gap, Gap.none, run_takeWhile, taken, run_lineBreak?_of_filled filled]

theorem run_gap_break {leastColumn bound : Nat} {cursor : Cursor} {follows : List Char}
    (text : cursor.rest = '\n' :: follows)
    (filled : follows.head?.all (fun char => !isSpacingOrBreak char) = true) :
    (gap leastColumn (bound + 1) .none).run cursor =
      some (.breaks (some '\n') [], cursor.advanceBreak) := by
  have broken : lineBreak?.run cursor = some (some '\n', cursor.advanceBreak) := by
    simp [run_lineBreak?, Cursor.peek, text, isBreak, readBreak]
  have taken : cursor.rest.takeWhile isSpacing = [] := by
    rw [text]
    rfl
  have after : cursor.advanceBreak.rest = follows := by
    simp [Cursor.advanceBreak, text]
  have untaken : follows.takeWhile isSpacing = [] := by
    cases follows <;> simp_all [isSpacingOrBreak]
  have unbroken : lineBreak?.run cursor.advanceBreak = some (none, cursor.advanceBreak) := by
    apply run_lineBreak?_of_filled
    rwa [Cursor.peek, after]
  have stays (here : Cursor) : here.advance 0 = here := rfl
  cases bound with
  | zero => simp [gap, Gap.none, run_takeWhile, taken, stays, broken]
  | succ bound =>
      simp [gap, Gap.none, run_takeWhile, taken, stays, broken, after, untaken, unbroken, require]

/-- Spaces in a plain line stand before a word that begins no comment. -/
theorem begins_dropWhile_of_staysPlain {space : Char} {rest : List Char}
    (spacing : isSpacing space = true) (plain : staysPlain (space :: rest) = true) :
    beginsWord (rest.dropWhile isSpacing) = true := by
  induction rest generalizing space with
  | nil => simp [staysPlain, spacing] at plain
  | cons char rest ih =>
      rw [staysPlain, Bool.and_eq_true] at plain
      obtain ⟨here, plain⟩ := plain
      cases next : isSpacing char with
      | true =>
          rw [List.dropWhile_cons_of_pos next]
          exact ih next plain
      | false =>
          rw [List.dropWhile_cons_of_neg (by simp [next])]
          simp [spacing] at here
          simp [beginsWord, next, here]

theorem run_plainWords_word {leastColumn bound : Nat} {before after : Gap} {cursor here : Cursor}
    {word : List Char} {next : Char}
    (goesOn : (cursor.isAtDocumentMark || cursor.peek = some '#') = false)
    (read : plainWordOf false cursor.rest = some word) (filled : word ≠ [])
    (behind : (cursor.advance word.length).peek = some next)
    (spacing : isSpacingOrBreak next = true)
    (gapRead : (gap leastColumn (bound + 1) .none).run (cursor.advance word.length) =
      some (after, here)) :
    (plainWords false leastColumn (bound + 1) before).run cursor =
      if here.column < leastColumn then some ((before.folded ++ word, after), here)
      else ((plainWords false leastColumn bound after).run here).map
        fun ((rest, last), there) => ((before.folded ++ word ++ rest, last), there) := by
  have unempty : word.isEmpty = false := by
    simpa using filled
  have lifted : (StateT.lift (plainWordOf false cursor.rest) : Scan (List Char)).run cursor =
      some (word, cursor) := by
    rw [read]
    rfl
  have skipped : (skip word.length).run cursor = some ((), cursor.advance word.length) := rfl
  have peeked : peek.run (cursor.advance word.length) =
      some (some next, cursor.advance word.length) := by
    rw [← behind]
    rfl
  simp only [plainWords, StateT.run_bind, StateT.run_get, Option.pure_def, Option.bind_eq_bind,
    Option.bind_some, goesOn, lifted, skipped, peeked, gapRead, spacing, unempty,
    Bool.false_eq_true, if_false, if_true]
  by_cases ends : here.column < leastColumn
  · simp [ends]
  · simp only [ends, decide_false, Bool.and_false, Bool.false_eq_true, if_false, StateT.run_bind]
    cases (plainWords false leastColumn bound after).run here <;> rfl

/-- A plain line is a word, or a word before spaces and another plain line. -/
theorem exists_word_of_staysPlain {line : List Char} (begins : beginsWord line = true)
    (plain : staysPlain line = true) :
    ∃ word behind, line = word ++ behind ∧ word ≠ [] ∧
      (∀ follows, plainWordOf false (line ++ '\n' :: follows) = some word) ∧
      (behind = [] ∨ ∃ space spaces further, behind = space :: spaces ++ further ∧
        (∀ char ∈ space :: spaces, isSpacing char = true) ∧
        beginsWord further = true ∧ staysPlain further = true) := by
  refine ⟨_, line.dropWhile fun char => !isSpacing char, List.takeWhile_append_dropWhile.symm, ?_,
    plainWordOf_of_staysPlain plain, ?_⟩
  · cases line with
    | nil => cases begins
    | cons first rest =>
        simp only [beginsWord, Bool.and_eq_true] at begins
        simp [begins.1]
  · have plainBehind : staysPlain (line.dropWhile fun char => !isSpacing char) = true := by
      apply staysPlain_of_append (line.takeWhile fun char => !isSpacing char)
      rwa [List.takeWhile_append_dropWhile]
    have head := List.head?_dropWhile_not (fun char => !isSpacing char) line
    cases behind : line.dropWhile fun char => !isSpacing char with
    | nil => exact .inl rfl
    | cons space others =>
        rw [behind] at plainBehind head
        have spacing : isSpacing space = true := by
          simpa using head
        have split : others = others.takeWhile isSpacing ++ others.dropWhile isSpacing :=
          List.takeWhile_append_dropWhile.symm
        refine .inr ⟨space, others.takeWhile isSpacing, others.dropWhile isSpacing,
          congrArg (space :: ·) split, ?_,
          begins_dropWhile_of_staysPlain spacing plainBehind, ?_⟩
        · rintro char (_ | ⟨_, member⟩)
          · exact spacing
          · exact List.mem_takeWhile_imp member
        · rw [split] at plainBehind
          exact staysPlain_of_append (space :: others.takeWhile isSpacing) plainBehind

theorem isSpacingOrBreak_head_of_beginsWord {line : List Char} (begins : beginsWord line = true)
    (plain : staysPlain line = true) (follows : List Char) :
    (line ++ follows).head?.all (fun char => !isSpacingOrBreak char) = true := by
  cases line with
  | nil => cases begins
  | cons first rest => simp_all [beginsWord, isSpacingOrBreak, staysPlain]

/-- Where a word begins inside a line, a plain scalar goes on. -/
theorem goesOn_of_beginsWord {cursor : Cursor} {line follows : List Char}
    (text : cursor.rest = line ++ follows) (within : 0 < cursor.column)
    (begins : beginsWord line = true) :
    (cursor.isAtDocumentMark || cursor.peek = some '#') = false := by
  have unmarked (char : Char) : cursor.isAtMark char = false := by
    simp [Cursor.isAtMark, Nat.pos_iff_ne_zero.mp within]
  cases line with
  | nil => cases begins
  | cons first rest =>
      simp only [beginsWord, Bool.and_eq_true, decide_eq_true_eq] at begins
      simp [Cursor.isAtDocumentMark, unmarked, Cursor.peek, text, begins]

/-- The words of a plain line and the line break after them are read. -/
theorem run_plainWords_line {bound : Nat} {before : Gap} {cursor : Cursor}
    {line follows : List Char} (text : cursor.rest = line ++ '\n' :: follows)
    (within : 0 < cursor.column) (enough : line.length ≤ bound)
    (begins : beginsWord line = true) (plain : staysPlain line = true)
    (filled : follows.head?.all (fun char => !isSpacingOrBreak char) = true) :
    (plainWords false 1 bound before).run cursor =
      some ((before.folded ++ line, .breaks (some '\n') []),
        (cursor.advance line.length).advanceBreak) := by
  -- The induction is on the bound: after a word, what is left of the line is shorter.
  induction bound generalizing before cursor line with
  | zero => simp_all [beginsWord]
  | succ bound ih =>
      have goesOn := goesOn_of_beginsWord text within begins
      obtain ⟨word, behind, rfl, nonempty, reads, further⟩ := exists_word_of_staysPlain begins plain
      have read : plainWordOf false cursor.rest = some word := by
        rw [text, reads follows]
      have textBehind : (cursor.advance word.length).rest = behind ++ '\n' :: follows := by
        simp [Cursor.advance, text]
      rcases further with rfl | ⟨space, spaces, further, rfl, spacing, begins, plain⟩
      · have next : (cursor.advance word.length).peek = some '\n' := by
          rw [Cursor.peek, textBehind]
          rfl
        rw [run_plainWords_word goesOn read nonempty next rfl (run_gap_break textBehind filled)]
        simp [Cursor.advanceBreak]
      · have next : (cursor.advance word.length).peek = some space := by
          rw [Cursor.peek, textBehind]
          rfl
        have isSpace : isSpacingOrBreak space = true := by
          simp [isSpacingOrBreak, spacing]
        have filledFurther :=
          isSpacingOrBreak_head_of_beginsWord begins plain ('\n' :: follows)
        rw [List.append_assoc] at textBehind
        have textFurther : ((cursor.advance word.length).advance (space :: spaces).length).rest =
            further ++ '\n' :: follows := by
          rw [Cursor.advance, textBehind]
          simp
        have shorter : further.length ≤ bound := by
          have filledWord := List.length_pos_iff.mpr nonempty
          simp only [List.length_append, List.length_cons] at enough
          omega
        have inside : 0 < ((cursor.advance word.length).advance (space :: spaces).length).column :=
          Nat.add_pos_left (Nat.add_pos_left within _) _
        rw [run_plainWords_word goesOn read nonempty next isSpace
            (run_gap_spaces textBehind spacing filledFurther),
          if_neg (Nat.not_lt.mpr inside), ih textFurther inside shorter begins plain]
        simp [Cursor.advance_advance, Gap.folded, Nat.add_assoc, Nat.add_comm 1]

end Scan

namespace Scanner

section Line

variable {scanner : Scanner} {line follows : List Char}

theorem beginsWord_of_beginsPlain (begins : beginsPlain line = true) : beginsWord line = true := by
  cases line with
  | nil => cases begins
  | cons first rest =>
      simp only [beginsPlain, Bool.and_eq_true, Bool.not_eq_true', isSpacingOrBreak,
        Bool.or_eq_false_iff, Bool.or_eq_true] at begins
      obtain ⟨⟨filled, -⟩, ordinary | sign⟩ := begins
      · simp at ordinary
        simp [beginsWord, filled, ordinary]
      · simp at sign
        obtain ⟨rfl | rfl | rfl, -⟩ := sign <;> rfl

/-- In a block, what begins like a plain scalar is one. -/
theorem fetchAt_of_beginsPlain {first : Char} {rest : List Char} (block : scanner.inFlow = false)
    (within : scanner.cursor.column ≠ 0)
    (text : scanner.cursor.rest = first :: rest ++ '\n' :: follows)
    (begins : beginsPlain (first :: rest) = true) :
    scanner.fetchAt first = scanner.fetchPlain := by
  have unmarked (char : Char) : scanner.cursor.isAtMark char = false := by
    simp [Cursor.isAtMark, within]
  have here : scanner.cursor.peek = some first := by
    rw [Cursor.peek, text]
    rfl
  simp only [beginsPlain, Bool.and_eq_true, Bool.not_eq_true', Bool.or_eq_true] at begins
  obtain ⟨filled, ordinary | sign⟩ := begins
  · have plain : scanner.canBeginPlain = true := by
      simp only [canBeginPlain, here, filled, ordinary, Bool.or_self, Bool.not_false, Bool.true_or]
    simp at ordinary
    simp [fetchAt, unmarked, block, plain, within, ordinary]
  · have next : endsWord (scanner.cursor.peekAt 1) = false := by
      cases rest <;> simp_all [Cursor.peekAt, endsWord]
    have solid : (scanner.cursor.peekAt 1).any isSpacing = false := by
      cases behind : scanner.cursor.peekAt 1 <;> simp_all [endsWord, isSpacingOrBreak]
    simp at sign
    obtain ⟨rfl | rfl | rfl, -⟩ := sign <;>
      simp [fetchAt, canBeginPlain, unmarked, block, within, here, next, solid]

theorem fetchPlain_of_line (block : scanner.inFlow = false) (outer : scanner.indent = 0)
    (noKey : scanner.keyAllowed = false) (within : scanner.cursor.column ≠ 0)
    (text : scanner.cursor.rest = line ++ '\n' :: follows)
    (begins : beginsPlain line = true) (plain : staysPlain line = true)
    (filled : follows.head?.all (fun char => !isSpacingOrBreak char) = true) :
    scanner.fetchPlain = some { scanner with
      cursor := (scanner.cursor.advance line.length).advanceBreak
      keyAllowed := true
      waiting := scanner.waiting ++ [.scalar .plain line] } := by
  have read : (Scan.plainScalar false 1).run scanner.cursor =
      some ((line, true), (scanner.cursor.advance line.length).advanceBreak) := by
    have enough : line.length ≤ scanner.cursor.rest.length + 1 := by
      rw [text, List.length_append]
      omega
    have words : (Scan.plainWords false 1 (scanner.cursor.rest.length + 1) .none).run
        scanner.cursor = _ :=
      Scan.run_plainWords_line text (Nat.pos_of_ne_zero within) enough
        (beginsWord_of_beginsPlain begins) plain filled
    rw [Scan.plainScalar, StateT.run_bind, StateT.run_get]
    simp only [Option.pure_def, Option.bind_eq_bind, Option.bind_some, StateT.run_bind, words]
    rfl
  simp [fetchPlain, saveCandidate, noKey, block, outer, scan, read, allowKey, enqueue]

theorem closeBlocks_of_le {column : Int} (inside : scanner.indent ≤ column) :
    scanner.closeBlocks column = scanner := by
  have none : (scanner.indent :: scanner.outerIndents).takeWhile (fun indent => column < indent) =
      [] :=
    List.takeWhile_cons_of_neg (by simpa using inside)
  rw [closeBlocks]
  split
  · rfl
  · simp [none]

/-- A plain line after the sign of a value is one token. -/
theorem fetch_of_line (block : scanner.flowKeys = []) (unkeyed : scanner.blockKey = none)
    (outer : scanner.indent = 0) (noKey : scanner.keyAllowed = false)
    (text : scanner.cursor.rest = ' ' :: (line ++ '\n' :: follows))
    (begins : beginsPlain line = true) (plain : staysPlain line = true)
    (filled : follows.head?.all (fun char => !isSpacingOrBreak char) = true) :
    scanner.fetch = some { scanner with
      cursor := (scanner.cursor.advance (line.length + 1)).advanceBreak
      keyAllowed := true
      waiting := scanner.waiting ++ [.scalar .plain line] } := by
  obtain ⟨first, rest, rfl⟩ : ∃ first rest, line = first :: rest := by
    cases line with
    | nil => cases begins
    | cons first rest => exact ⟨first, rest, rfl⟩
  have ⟨filledFirst, noComment⟩ : isSpacingOrBreak first = false ∧ first ≠ '#' := by
    have word := beginsWord_of_beginsPlain begins
    simp [beginsWord] at word
    simp [beginsPlain] at begins
    exact ⟨begins.1, word.2⟩
  have textMoved : (scanner.cursor.advance 1).rest = first :: rest ++ '\n' :: follows := by
    simp [Cursor.advance, text]
  have next : (scanner.cursor.advance 1).peek = some first := by
    rw [Cursor.peek, textMoved]
    rfl
  have skipped : skipToToken (scanner.cursor.rest.length + 1) scanner =
      { scanner with cursor := scanner.cursor.advance 1 } := by
    simp only [isSpacingOrBreak, isSpacing, Bool.or_eq_false_iff, decide_eq_false_iff_not]
      at filledFirst
    simp [skipToToken, text, next, filledFirst, noComment]
  -- On the way to the token no block is closed and no key given up.
  have within : (scanner.cursor.advance 1).column ≠ 0 := Nat.succ_ne_zero _
  have closed : closeBlocks { scanner with cursor := scanner.cursor.advance 1 }
      (scanner.cursor.advance 1).column = { scanner with cursor := scanner.cursor.advance 1 } :=
    closeBlocks_of_le (by simp [outer])
  have fresh : dropStale { scanner with cursor := scanner.cursor.advance 1 } =
      some { scanner with cursor := scanner.cursor.advance 1 } :=
    dropStale_of_none block unkeyed
  have inBlock : inFlow { scanner with cursor := scanner.cursor.advance 1 } = false := by
    simp [inFlow, block]
  rw [fetch, skipped, fresh]
  simp only [Option.bind_eq_bind, Option.bind_some, next, closed]
  rw [fetchAt_of_beginsPlain inBlock within textMoved begins,
    fetchPlain_of_line inBlock outer noKey within textMoved begins plain filled,
    Cursor.advance_advance, Nat.add_comm 1]

end Line

end Scanner

end PureService.Yaml
