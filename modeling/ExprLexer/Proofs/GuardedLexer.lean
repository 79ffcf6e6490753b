import ExprLexer.Proofs.Coverage

/-!
A lexer that checks what the other one relies on. It keeps the whole source and moves a place in
it, it searches for ends by index, and it works out lines and columns from the stretch that it
passes over. Three things have to hold for that: places that it asks for lie between its own place
and the end of the source, what it looks at behind the blanks is no blank, and what it takes for a
number is one. Where one of them fails it stops.
-/

namespace ExprLexer

open Text

inductive Violation where
  | misplaced (place : Nat)
  | blankAhead (character : Char)
  | noNumber (span : List Char)
  deriving DecidableEq, Repr

structure GuardedLexer where
  source : List Char
  place : Nat
  line : Nat
  column : Nat
  file : Option String
  config : LexConfig
  deriving DecidableEq

structure GuardedReading where
  outcome : Outcome
  events : List LogEvent
  lexer : GuardedLexer
  deriving DecidableEq

def Text.runEnd (kept : Char → Bool) (text : List Char) (place : Nat) : Nat :=
  if inside : place < text.length then
    if kept text[place] then runEnd kept text (place + 1) else place
  else place
termination_by text.length - place

def Text.find? (character : Char) (text : List Char) (start stop : Nat) : Option Nat :=
  let place := runEnd (· != character) (text.take stop) start
  if place < (text.take stop).length then some place else none

namespace GuardedLexer

def ofSource (source : String) (file : Option String) (config : LexConfig) : GuardedLexer :=
  ⟨source.toList, 0, 1, 1, file, config⟩

def coordinates (lexer : GuardedLexer) (place : Nat) : Except Violation (Nat × Nat) :=
  if place < lexer.place ∨ lexer.source.length < place then .error (.misplaced place)
  else
    let passed := slice lexer.source lexer.place place
    let column :=
      match lastLineFeed? passed with
      | some index => passed.length - index
      | none => lexer.column + passed.length
    .ok (lexer.line + passed.count '\n', column)

def moveTo (lexer : GuardedLexer) (place : Nat) : Except Violation GuardedLexer := do
  let (line, column) ← lexer.coordinates place
  .ok { lexer with place := place, line := line, column := column }

def deliver (lexer : GuardedLexer) (payload : Payload) (stop : Nat) :
    Except Violation GuardedReading := do
  let location : Location :=
    { line := lexer.line, column := lexer.column, offset := lexer.place, endOffset := stop,
      file := lexer.file }
  let moved ← lexer.moveTo stop
  .ok ⟨.token ⟨payload, location⟩, [], moved⟩

def refuse (lexer : GuardedLexer) (fault : LexFault) (event : LogEvent) (place : Nat) :
    Except Violation GuardedReading := do
  let (line, column) ← lexer.coordinates place
  .ok ⟨.failed ⟨fault, some line, some column, some place, lexer.file⟩, [event], lexer⟩

def unterminated (lexer : GuardedLexer) (place : Nat) : Except Violation GuardedReading :=
  lexer.refuse .unterminatedString (.unterminatedString place) place

def abandon (lexer : GuardedLexer) : Except Violation GuardedReading := do
  let (line, column) ← lexer.coordinates lexer.place
  let moved ← lexer.moveTo lexer.source.length
  .ok ⟨.finished, [.abandonedString line column], moved⟩

def scanName (lexer : GuardedLexer) : Except Violation GuardedReading :=
  let stop := runEnd isNameChar lexer.source (lexer.place + 1)
  lexer.deliver (.name (.ofChars (slice lexer.source lexer.place stop))) stop

def numberEnd (lexer : GuardedLexer) : Nat :=
  let whole := runEnd isDecimalDigit lexer.source lexer.place
  if lexer.source[whole]? = some '.' then runEnd isDecimalDigit lexer.source (whole + 1)
  else whole

def scanNumber (lexer : GuardedLexer) : Except Violation GuardedReading :=
  let stop := lexer.numberEnd
  let span := slice lexer.source lexer.place stop
  match Numeral.readText? span with
  | some value => lexer.deliver (.number value) stop
  | none => .error (.noNumber span)

/-- A line feed is looked for before the closing quote, or anywhere if there is none. -/
def scanString (lexer : GuardedLexer) : Except Violation GuardedReading :=
  let start := lexer.place + 1
  let close := find? '"' lexer.source start lexer.source.length
  match find? '\n' lexer.source start (close.getD lexer.source.length), close with
  | some feed, _ => lexer.unterminated feed
  | none, some stop =>
      lexer.deliver (.string (.ofChars (slice lexer.source start stop))) (stop + 1)
  | none, none =>
      if lexer.config.strictStrings then lexer.unterminated lexer.source.length
      else lexer.abandon

def skipBlanks (lexer : GuardedLexer) : Except Violation GuardedLexer :=
  let stop := runEnd isBlank lexer.source lexer.place
  if stop = lexer.place then .ok lexer else lexer.moveTo stop

def readFront (lexer : GuardedLexer) : Except Violation GuardedReading :=
  match lexer.source[lexer.place]? with
  | none => .ok ⟨.finished, [], lexer⟩
  | some character =>
      match CharClass.of character with
      | .letter => lexer.scanName
      | .digit => lexer.scanNumber
      | .quote => lexer.scanString
      | .symbol => lexer.deliver (.symbol [.char character]) (lexer.place + 1)
      | .other =>
          lexer.refuse (.unrecognizedCharacter (String.singleton character))
            (.unrecognizedCharacter character lexer.place) lexer.place
      | .blank => .error (.blankAhead character)

def next (lexer : GuardedLexer) : Except Violation GuardedReading := do
  let skipped ← lexer.skipBlanks
  skipped.readFront

def readTimes (lexer : GuardedLexer) : Nat → Except Violation (List GuardedReading)
  | 0 => .ok []
  | count + 1 => do
      let reading ← lexer.next
      let later ← reading.lexer.readTimes count
      .ok (reading :: later)

def unguarded (lexer : GuardedLexer) : Lexer :=
  ⟨lexer.source.drop lexer.place, ⟨lexer.place, lexer.line, lexer.column⟩, lexer.file,
    lexer.config⟩

def atPlace (source : List Char) (file : Option String) (config : LexConfig) (place : Nat) :
    GuardedLexer :=
  ⟨source, place, lineAt source place, columnAt source place, file, config⟩

section AtPlace

variable (source : List Char) (file : Option String) (config : LexConfig) (place : Nat)

@[simp] theorem at_place_source : (atPlace source file config place).source = source := rfl

@[simp] theorem at_place_place : (atPlace source file config place).place = place := rfl

end AtPlace

end GuardedLexer

def GuardedReading.unguarded (reading : GuardedReading) : Reading :=
  ⟨reading.outcome, reading.events, reading.lexer.unguarded⟩

namespace Text

theorem run_end (kept : Char → Bool) (text : List Char) (place : Nat) :
    runEnd kept text place = place + ((text.drop place).takeWhile kept).length := by
  rw [runEnd]
  by_cases inside : place < text.length
  · rw [dif_pos inside, List.drop_eq_getElem_cons inside]
    by_cases keeps : kept text[place] = true
    · rw [if_pos keeps, run_end kept text (place + 1), List.takeWhile_cons_of_pos keeps,
        List.length_cons]
      omega
    · rw [if_neg keeps, List.takeWhile_cons_of_neg keeps]
      rfl
  · rw [dif_neg inside, List.drop_eq_nil_of_le (Nat.le_of_not_lt inside)]
    rfl
termination_by text.length - place

theorem drop_behind_run {text run rest : List Char} {place : Nat}
    (split : text.drop place = run ++ rest) : text.drop (place + run.length) = rest := by
  rw [← List.drop_drop, split, List.drop_left]

theorem slice_length {text : List Char} {start stop : Nat} (within : stop ≤ text.length) :
    (slice text start stop).length = stop - start := by
  rw [slice, List.length_drop, List.length_take_of_le within]

theorem slice_begins (text : List Char) (start stop : Nat) :
    slice text start stop <+: text.drop start := by
  rw [slice, List.drop_take]
  exact List.take_prefix _ _

/-- What is searched for is found behind the characters of the stretch that differ from it. -/
theorem find_in_slice (character : Char) (text : List Char) (start stop : Nat) :
    find? character text start stop =
      let clear := (slice text start stop).takeWhile (· != character)
      if start + clear.length < (text.take stop).length then some (start + clear.length)
      else none := by
  rw [find?, run_end]
  rfl

theorem find_absent {character : Char} {text : List Char} {start stop : Nat}
    (absent : ∀ other ∈ slice text start stop, other ≠ character) :
    find? character text start stop = none := by
  have clear : (slice text start stop).takeWhile (· != character) = slice text start stop :=
    List.takeWhile_eq_self_iff.mpr fun other member => bne_iff_ne.mpr (absent other member)
  rw [find_in_slice, clear]
  apply if_neg
  rw [slice, List.length_drop]
  omega

theorem find_behind {character : Char} {text run later : List Char} {start stop : Nat}
    (split : text.drop start = run ++ character :: later)
    (absent : ∀ other ∈ run, other ≠ character) (inside : start + run.length < stop) :
    find? character text start stop = some (start + run.length) := by
  have total := congrArg List.length split
  rw [List.length_drop, List.length_append, List.length_cons] at total
  have stretch : slice text start stop =
      run ++ character :: later.take (stop - start - run.length - 1) := by
    have more : stop - start - run.length = stop - start - run.length - 1 + 1 := by omega
    rw [slice, List.drop_take, split, List.take_append, List.take_of_length_le (by omega), more,
      List.take_succ_cons]
    rfl
  have clear : (slice text start stop).takeWhile (· != character) = run := by
    rw [stretch]
    exact (run_before_stop _ (fun other member => bne_iff_ne.mpr (absent other member))
      (bne_self_eq_false character)).1
  rw [find_in_slice, clear]
  apply if_pos
  rw [List.length_take]
  omega

theorem find_stands {character : Char} {text : List Char} {start stop place : Nat}
    (found : find? character text start stop = some place) :
    start ≤ place ∧ text[place]? = some character := by
  rw [find_in_slice] at found
  simp only [Option.ite_none_right_eq_some, Option.some.injEq] at found
  obtain ⟨inside, rfl⟩ := found
  refine ⟨Nat.le_add_right _ _, ?_⟩
  have split : (text.take stop).drop start = (slice text start stop).takeWhile (· != character) ++
      (slice text start stop).dropWhile (· != character) :=
    List.takeWhile_append_dropWhile.symm
  have head := stands_behind split
  have halt := List.head?_dropWhile_not (· != character) (slice text start stop)
  obtain ⟨other, here⟩ : ∃ other, (text.take stop)[start +
      ((slice text start stop).takeWhile (· != character)).length]? = some other :=
    ⟨_, List.getElem?_eq_getElem inside⟩
  rw [← head, here] at halt
  have same : other = character := by simpa using halt
  have bound := List.length_take_le stop text
  rw [List.getElem?_take_of_lt (by omega), same] at here
  exact here

end Text

end ExprLexer
