import ExprLexer.Proofs.GuardedLexer

/-!
No check of the guarded lexer ever fails. At each place of its source it does what the lexer does
that keeps only the rest, so nothing but the two errors of the language comes out of a reading,
and what a token holds is what its kind promises.
-/

namespace ExprLexer

open Text

theorem Front.lexeme_described {text span : List Char} {payload : Payload}
    (front : Front.of text = .lexeme payload span) :
    IsLongestLexeme text payload.kind span ∧ payload.SpelledBy span := by
  have described := front_describes text
  rw [front] at described
  cases described with
  | lexeme longest spelled => exact ⟨longest, spelled⟩

theorem Front.of_quote_cases (rest : List Char) :
    (∃ body later, rest = body ++ '"' :: later ∧
        (∀ character ∈ body, character ≠ '"' ∧ character ≠ '\n') ∧
        ofQuote rest = .lexeme (.string (.ofChars body)) ('"' :: (body ++ ['"']))) ∨
      (∃ body later, rest = body ++ '\n' :: later ∧
        ∀ character ∈ body, character ≠ '"' ∧ character ≠ '\n') ∨
      ∀ character ∈ rest, character ≠ '"' ∧ character ≠ '\n' := by
  have described := of_quote_describes rest
  generalize front : ofQuote rest = found at described
  cases described with
  | @lexeme _ span payload longest spelled =>
      have string : .string = payload.kind := lexeme_kind_of_class
        (CharClass.of_quote_iff.mpr rfl) longest.lexeme longest.begins |>.symm
      have lexeme := longest.lexeme
      rw [← string] at lexeme
      cases payload with
      | string text =>
          cases lexeme with
          | @string body unbroken =>
              obtain ⟨later, whole⟩ := longest.begins
              refine Or.inl ⟨body, later, ?_, unbroken, ?_⟩
              · simpa using (List.cons.inj whole).2.symm
              · rw [string_spelled spelled]
      | name _ | number _ | symbol _ => contradiction
  | unrecognized classified =>
      rw [CharClass.of_quote_iff.mpr rfl] at classified
      rcases classified with _ | _ <;> contradiction
  | brokenString unbroken => exact Or.inr (Or.inl ⟨_, _, rfl, unbroken⟩)
  | openString unbroken => exact Or.inr (Or.inr unbroken)

/-- The result of a guarded reading stands for a reading of the lexer that keeps only the rest, and
the guarded lexer is at a place of its source again. -/
def StandsFor (source : List Char) (file : Option String) (config : LexConfig)
    (result : Except Violation GuardedReading) (reading : Reading) : Prop :=
  ∃ guarded place, result = .ok guarded ∧ guarded.unguarded = reading ∧
    place ≤ source.length ∧ guarded.lexer = .atPlace source file config place

namespace Lexer

theorem read_front_lexeme (lexer : Lexer) {payload : Payload} {span : List Char}
    (front : Front.of lexer.rest = .lexeme payload span) :
    lexer.readFront = ⟨.token ⟨payload, lexer.locate span⟩, [], lexer.consume span⟩ := by
  rw [readFront, front]

end Lexer

namespace GuardedLexer

variable {source : List Char} {file : Option String} {config : LexConfig} {place stop : Nat}

theorem coordinates_at_place (reached : place ≤ stop) (within : stop ≤ source.length) :
    (atPlace source file config place).coordinates stop =
      .ok (lineAt source stop, columnAt source stop) := by
  have placed := Position.after_begins (Nat.le_trans reached within)
    (slice_begins source place stop)
  rw [slice_length within, Nat.add_sub_cancel' reached] at placed
  have line := congrArg Position.line placed
  have column := congrArg Position.column placed
  rw [Position.line_after] at line
  rw [Position.column_after] at column
  have fits : ¬(stop < place ∨ source.length < stop) := by omega
  rw [coordinates]
  refine (if_neg fits).trans ?_
  rw [← show _ = lineAt source stop from line, ← show _ = columnAt source stop from column]
  rfl

theorem move_to_at_place (reached : place ≤ stop) (within : stop ≤ source.length) :
    (atPlace source file config place).moveTo stop = .ok (atPlace source file config stop) := by
  rw [moveTo, coordinates_at_place reached within]
  rfl

/-- There is no way back, and none past the end of the source. -/
example (config : LexConfig) :
    (atPlace ['a', 'b'] none config 2).moveTo 1 = .error (.misplaced 1) ∧
      (atPlace ['a', 'b'] none config 2).moveTo 3 = .error (.misplaced 3) := ⟨rfl, rfl⟩

theorem deliver_at_place (payload : Payload) (reached : place ≤ stop)
    (within : stop ≤ source.length) :
    (atPlace source file config place).deliver payload stop =
      .ok ⟨.token ⟨payload, .ofPlaces source file place stop⟩, [],
        atPlace source file config stop⟩ := by
  rw [deliver, move_to_at_place reached within]
  rfl

theorem refuse_at_place (fault : LexFault) (event : LogEvent) (reached : place ≤ stop)
    (within : stop ≤ source.length) :
    (atPlace source file config place).refuse fault event stop =
      .ok ⟨.failed (.ofPlace source file fault stop), [event],
        atPlace source file config place⟩ := by
  rw [refuse, coordinates_at_place reached within]
  rfl

theorem abandon_at_place (within : place ≤ source.length) :
    (atPlace source file config place).abandon =
      .ok ⟨.finished, [.abandonedString (lineAt source place) (columnAt source place)],
        atPlace source file config source.length⟩ := by
  rw [abandon, at_place_source, at_place_place, coordinates_at_place (Nat.le_refl _) within,
    move_to_at_place within (Nat.le_refl _)]
  rfl

theorem deliver_stands_for {payload : Payload} {span : List Char}
    (within : place ≤ source.length)
    (front : Front.of (source.drop place) = .lexeme payload span)
    (reached : place + span.length = stop) :
    StandsFor source file config ((atPlace source file config place).deliver payload stop)
      (Lexer.atPlace source file config place).readFront := by
  have begins := (Front.lexeme_described front).1.begins
  have bound := begins_within within begins
  have reading := (Lexer.atPlace source file config place).read_front_lexeme front
  rw [Lexer.locate_at_place within begins, Lexer.consume_at_place within begins, reached] at reading
  rw [reached] at bound
  rw [reading]
  exact ⟨_, _, deliver_at_place payload (by omega) bound, rfl, bound, rfl⟩

theorem scan_name_stands_for {first : Char} {rest : List Char} (within : place ≤ source.length)
    (split : source.drop place = first :: rest)
    (front : Front.of (source.drop place) = Front.ofName first rest) :
    StandsFor source file config (atPlace source file config place).scanName
      (Lexer.atPlace source file config place).readFront := by
  have begins : first :: rest.takeWhile isNameChar <+: source.drop place := by
    rw [split]
    exact List.cons_prefix_cons.mpr ⟨rfl, List.takeWhile_prefix _⟩
  have reached : runEnd isNameChar source (place + 1) =
      place + (first :: rest.takeWhile isNameChar).length := by
    rw [run_end, drop_behind split, List.length_cons]
    omega
  have spelled := slice_of_prefix begins
  rw [← reached] at spelled
  rw [scanName]
  simp only [at_place_source, at_place_place, spelled]
  exact deliver_stands_for within front reached.symm

theorem number_end_at_place {payload : Payload} {span : List Char}
    (front : Front.ofDigits (source.drop place) = .lexeme payload span) :
    (atPlace source file config place).numberEnd = place + span.length := by
  have split : source.drop place = (source.drop place).takeWhile isDecimalDigit ++
      (source.drop place).dropWhile isDecimalDigit := List.takeWhile_append_dropWhile.symm
  have behind := drop_behind_run split
  have here := stands_behind split
  simp only [numberEnd, at_place_source, at_place_place, run_end, here]
  rw [Front.ofDigits] at front
  split at front
  · rename_i rest pointed
    rw [pointed] at behind
    cases front
    rw [if_pos (by rw [pointed]; rfl), drop_behind behind, List.length_append, List.length_cons]
    omega
  · rename_i unpointed
    cases front
    apply if_neg
    intro head
    obtain ⟨rest, pointed⟩ := List.head?_eq_some_iff.mp head
    exact unpointed rest pointed

theorem scan_number_stands_for (within : place ≤ source.length)
    (front : Front.of (source.drop place) = Front.ofDigits (source.drop place)) :
    StandsFor source file config (atPlace source file config place).scanNumber
      (Lexer.atPlace source file config place).readFront := by
  obtain ⟨value, span, digits⟩ : ∃ value span,
      Front.ofDigits (source.drop place) = .lexeme (.number value) span := by
    rw [Front.ofDigits]
    split
    · exact ⟨_, _, rfl⟩
    · exact ⟨_, _, rfl⟩
  have reached : (atPlace source file config place).numberEnd = place + span.length :=
    number_end_at_place digits
  rw [digits] at front
  obtain ⟨longest, spelled⟩ := Front.lexeme_described front
  have covered := slice_of_prefix longest.begins
  have read : Numeral.readText? span = some value := spelled
  rw [scanNumber, reached]
  simp only [at_place_source, at_place_place, covered, read]
  exact deliver_stands_for within front rfl

theorem closed_string_stands_for {body later : List Char} (within : place ≤ source.length)
    (behind : source.drop (place + 1) = body ++ '"' :: later)
    (unbroken : ∀ character ∈ body, character ≠ '"' ∧ character ≠ '\n')
    (front : Front.of (source.drop place) =
      .lexeme (.string (.ofChars body)) ('"' :: (body ++ ['"']))) :
    StandsFor source file config (atPlace source file config place).scanString
      (Lexer.atPlace source file config place).readFront := by
  have total := congrArg List.length behind
  rw [List.length_drop, List.length_append, List.length_cons] at total
  have covered : slice source (place + 1) (place + 1 + body.length) = body := by
    apply slice_of_prefix
    rw [behind]
    exact List.prefix_append _ _
  have close : find? '"' source (place + 1) source.length = some (place + 1 + body.length) :=
    find_behind behind (fun character member => (unbroken character member).1) (by omega)
  have noFeed : find? '\n' source (place + 1) (place + 1 + body.length) = none := by
    apply find_absent
    rw [covered]
    exact fun character member => (unbroken character member).2
  simp only [scanString, at_place_source, at_place_place, close, Option.getD_some, noFeed,
    covered]
  apply deliver_stands_for within front
  rw [List.length_cons, List.length_append, List.length_singleton]
  omega

theorem reading_from_quote {rest : List Char} (file : Option String) (config : LexConfig)
    (within : place ≤ source.length) (split : source.drop place = '"' :: rest) :
    source[place]? = some '"' ∧
      ReadingAt source file config place (Lexer.atPlace source file config place).readFront := by
  have quote : source[place]? = some '"' := by
    rw [← List.head?_drop, split]
    rfl
  refine ⟨quote, Lexer.read_front_at_place within ?_⟩
  intro character here
  rw [← Option.some.inj (quote.symm.trans here)]
  decide

theorem broken_string_stands_for {body later : List Char} (within : place ≤ source.length)
    (split : source.drop place = '"' :: (body ++ '\n' :: later))
    (unbroken : ∀ character ∈ body, character ≠ '"' ∧ character ≠ '\n') :
    StandsFor source file config (atPlace source file config place).scanString
      (Lexer.atPlace source file config place).readFront := by
  have behind := drop_behind split
  obtain ⟨first, stands⟩ := first_stop_of_split split unbroken (Or.inr rfl)
  obtain ⟨bound, _⟩ := List.getElem?_eq_some_iff.mp stands
  -- Whether a quote follows later or not, the search for a line feed comes this far.
  have limit : place + 1 + body.length <
      (find? '"' source (place + 1) source.length).getD source.length := by
    cases close : find? '"' source (place + 1) source.length with
    | none => exact bound
    | some quote =>
        obtain ⟨reached, closing⟩ := find_stands close
        by_contra before
        rcases Nat.lt_or_eq_of_le (Nat.le_of_not_lt before) with inside | same
        · exact (first.clear quote reached inside).1 closing
        · rw [Option.getD_some] at same
          rw [same, stands] at closing
          exact absurd (Option.some.inj closing) (by decide)
  have feed := find_behind behind (fun character member => (unbroken character member).2) limit
  obtain ⟨quote, found⟩ := reading_from_quote file config within split
  rw [reading_at_break found quote first stands]
  simp only [scanString, at_place_source, at_place_place, feed]
  exact ⟨_, _, refuse_at_place _ _ (by omega) (by omega), rfl, within, rfl⟩

theorem open_string_stands_for {body : List Char} (within : place ≤ source.length)
    (split : source.drop place = '"' :: body)
    (unbroken : ∀ character ∈ body, character ≠ '"' ∧ character ≠ '\n') :
    StandsFor source file config (atPlace source file config place).scanString
      (Lexer.atPlace source file config place).readFront := by
  have endless := no_stop_of_split split unbroken
  have missing : ∀ character ∈ slice source (place + 1) source.length,
      character ≠ '"' ∧ character ≠ '\n' := by
    rw [slice, List.take_length, drop_behind split]
    exact unbroken
  have noQuote : find? '"' source (place + 1) source.length = none :=
    find_absent fun character member => (missing character member).1
  have noFeed : find? '\n' source (place + 1) source.length = none :=
    find_absent fun character member => (missing character member).2
  simp only [scanString, at_place_source, at_place_place, noQuote, Option.getD_none, noFeed]
  obtain ⟨quote, found⟩ := reading_from_quote file config within split
  rw [reading_at_open_string found quote endless]
  by_cases strict : config.strictStrings = true
  · have mode : (atPlace source file config place).config.strictStrings = true := strict
    rw [if_pos strict, if_pos mode]
    exact ⟨_, _, refuse_at_place _ _ within (Nat.le_refl _), rfl, within, rfl⟩
  · have mode : ¬(atPlace source file config place).config.strictStrings = true := strict
    rw [if_neg strict, if_neg mode]
    exact ⟨_, _, abandon_at_place within, rfl, Nat.le_refl _, rfl⟩

theorem scan_string_stands_for {rest : List Char} (within : place ≤ source.length)
    (split : source.drop place = '"' :: rest) :
    StandsFor source file config (atPlace source file config place).scanString
      (Lexer.atPlace source file config place).readFront := by
  rcases Front.of_quote_cases rest with
    ⟨body, later, rfl, unbroken, found⟩ | ⟨body, later, rfl, unbroken⟩ | unbroken
  · have quote : CharClass.of '"' = .quote := CharClass.of_quote_iff.mpr rfl
    apply closed_string_stands_for within (drop_behind split) unbroken
    simp only [split, Front.of, quote, found]
  · exact broken_string_stands_for within split unbroken
  · exact open_string_stands_for within split unbroken

theorem read_front_stands_for (within : place ≤ source.length)
    (ink : ∀ character, source[place]? = some character → isBlank character = false) :
    StandsFor source file config (atPlace source file config place).readFront
      (Lexer.atPlace source file config place).readFront := by
  have found : ReadingAt source file config place
      (Lexer.atPlace source file config place).readFront := Lexer.read_front_at_place within ink
  have head : (source.drop place).head? = source[place]? := List.head?_drop
  rw [readFront, at_place_source, at_place_place]
  cases here : source[place]? with
  | none =>
      have ended : place = source.length :=
        Nat.le_antisymm within (List.getElem?_eq_none_iff.mp here)
      rw [reading_at_end found ended]
      exact ⟨_, _, rfl, rfl, within, rfl⟩
  | some character =>
      obtain ⟨bound, _⟩ := List.getElem?_eq_some_iff.mp here
      obtain ⟨rest, split⟩ := List.head?_eq_some_iff.mp (head.trans here)
      simp only
      cases classified : CharClass.of character with
      | letter =>
          apply scan_name_stands_for within split
          simp only [split, Front.of, classified]
      | digit =>
          apply scan_number_stands_for within
          simp only [split, Front.of, classified]
      | quote =>
          rw [CharClass.of_quote_iff.mp classified] at split
          exact scan_string_stands_for within split
      | symbol =>
          have front : Front.of (source.drop place) =
              .lexeme (.symbol [.char character]) [character] := by
            simp only [split, Front.of, classified]
          exact deliver_stands_for within front rfl
      | other =>
          rw [reading_at_other found here classified]
          exact ⟨_, _, refuse_at_place _ _ (Nat.le_refl _) within, rfl, within, rfl⟩
      | blank =>
          rw [CharClass.of_blank_iff, ink character here] at classified
          contradiction

theorem skip_blanks_at_place {front : Nat} (within : place ≤ source.length)
    (ink : FirstInk source place front) :
    (atPlace source file config place).skipBlanks = .ok (atPlace source file config front) := by
  have reached : runEnd isBlank source place = front := by
    rw [run_end, first_ink_unique ink (first_ink_exists source within)]
  simp only [skipBlanks, at_place_source, at_place_place, reached]
  by_cases stays : front = place
  · rw [if_pos stays, stays]
  · rw [if_neg stays]
    exact move_to_at_place ink.reached ink.within

theorem next_stands_for (file : Option String) (config : LexConfig)
    (within : place ≤ source.length) :
    StandsFor source file config (atPlace source file config place).next
      (Lexer.atPlace source file config place).next := by
  have ink := first_ink_exists source within
  rw [next, skip_blanks_at_place within ink, Lexer.next, Lexer.skip_blanks_at_place within ink]
  exact read_front_stands_for ink.within ink.ink

/-- So many readings, by induction on their number: each leaves the lexer at a place again. -/
theorem read_times_at_place (file : Option String) (config : LexConfig)
    (within : place ≤ source.length) (count : Nat) :
    ∃ guarded, (atPlace source file config place).readTimes count = .ok guarded ∧
      guarded.map GuardedReading.unguarded =
        (Lexer.atPlace source file config place).readTimes count := by
  induction count generalizing place with
  | zero => exact ⟨[], rfl, rfl⟩
  | succ count induction =>
      obtain ⟨reading, later, read, same, laterWithin, moved⟩ :=
        next_stands_for file config within
      obtain ⟨readings, readLater, sameLater⟩ := induction laterWithin
      refine ⟨reading :: readings, ?_, ?_⟩
      · rw [readTimes, read]
        simp only [bind, Except.bind, moved, readLater]
      · have lexer : reading.unguarded.lexer = .atPlace source file config later := by
          rw [GuardedReading.unguarded, moved]
          rfl
        rw [Lexer.readTimes, List.map_cons, ← same, lexer, sameLater]

end GuardedLexer

section Readings

variable {source : List Char} {file : Option String} {config : LexConfig}

theorem reading_of_times {place count : Nat} {reading : Reading} (within : place ≤ source.length)
    (member : reading ∈ (Lexer.atPlace source file config place).readTimes count) :
    ∃ start front, FirstInk source start front ∧ ReadingAt source file config front reading := by
  induction count generalizing place with
  | zero => contradiction
  | succ count induction =>
      have ink := first_ink_exists source within
      have found := Lexer.next_reading_at file config within ink
      rw [Lexer.readTimes, List.mem_cons] at member
      rcases member with rfl | member
      · exact ⟨place, _, ink, found⟩
      · obtain ⟨later, _, laterWithin, moved⟩ :=
          Lexer.reading_leaves_at_place found ink.within
        rw [moved] at member
        exact induction laterWithin member

/-- Only the two errors of the language come out of a reading, and the character of the second is
no blank. -/
theorem failure_of_reading {start front : Nat} {reading : Reading} {error : LexError}
    (found : ReadingAt source file config front reading) (ink : FirstInk source start front)
    (failed : reading.outcome = .failed error) :
    error.fault = .unterminatedString ∨
      ∃ character, error.fault = .unrecognizedCharacter (String.singleton character) ∧
        isBlank character = false := by
  rcases (failure_stays found failed).2 with ⟨character, here, rfl⟩ | ⟨_, _, _, rfl⟩ | ⟨_, rfl⟩
  · exact Or.inr ⟨character, rfl, ink.ink character here⟩
  · exact Or.inl rfl
  · exact Or.inl rfl

theorem payload_of_lexeme {payload : Payload} {span : List Char}
    (lexeme : IsLexeme payload.kind span) (spelled : payload.SpelledBy span) :
    (∀ text, payload = .string text →
      ∃ body, text = .ofChars body ∧ '"' ∉ body ∧ '\n' ∉ body) ∧
      ∀ text, payload = .symbol text → text ∈ symbolTexts := by
  constructor
  · rintro text rfl
    cases lexeme with
    | @string body unbroken =>
        exact ⟨body, string_spelled spelled, fun member => (unbroken _ member).1 rfl,
          fun member => (unbroken _ member).2 rfl⟩
  · rintro text rfl
    cases lexeme with
    | @symbol character listed =>
        have alone : text = [.char character] := spelled
        rw [alone]
        exact symbol_text_iff.mpr (listed_iff_symbol.mp listed)

end Readings

/-- Nothing that a lexer relies on ever fails, however often it is read from: the lexer that checks
it all gives the same readings. What comes of them besides tokens are the two errors of the
language, and tokens hold what their kinds promise. -/
theorem preconditions_hold (source : String) (file : Option String) (config : LexConfig)
    (count : Nat) :
    let text := source.toList
    let readings := (Lexer.ofSource source file config).readTimes count
    (∃ guarded, (GuardedLexer.ofSource source file config).readTimes count = .ok guarded ∧
      guarded.map GuardedReading.unguarded = readings) ∧
    (∀ reading ∈ readings, reading.lexer.position.offset ≤ text.length ∧
      (∀ error, reading.outcome = .failed error →
        error.fault = .unterminatedString ∨
          ∃ character, error.fault = .unrecognizedCharacter (String.singleton character) ∧
            isBlank character = false) ∧
      ∀ token, reading.outcome = .token token →
        (∀ value, token.payload = .number value →
          Numeral.readText? (token.spanIn text) = some value) ∧
        (∀ string, token.payload = .string string →
          ∃ body, string = .ofChars body ∧ '"' ∉ body ∧ '\n' ∉ body) ∧
        ∀ symbol, token.payload = .symbol symbol → symbol ∈ symbolTexts) ∧
    ∀ span, IsLexeme .number span → ∃ value, Numeral.readText? span = some value := by
  intro text readings
  have begun : 0 ≤ text.length := Nat.zero_le _
  refine ⟨GuardedLexer.read_times_at_place file config begun count, ?_, ?_⟩
  · intro reading member
    obtain ⟨start, front, ink, found⟩ := reading_of_times begun member
    obtain ⟨place, _, within, moved⟩ := Lexer.reading_leaves_at_place found ink.within
    refine ⟨?_, fun error failed => failure_of_reading found ink failed, ?_⟩
    · rw [moved]
      exact within
    · intro token delivered
      obtain ⟨span, longest, spelled, located, _⟩ := delivered_token found delivered
      refine ⟨?_, payload_of_lexeme longest.lexeme spelled⟩
      intro value number
      rw [token_span longest located]
      rw [number] at spelled
      exact spelled
  · intro span lexeme
    cases lexeme with
    | integer present decimal => exact ⟨_, Numeral.read_integer_lexeme present decimal⟩
    | pointed present wholeDecimal fractionDecimal =>
        exact ⟨_, Numeral.read_pointed_lexeme present wholeDecimal fractionDecimal⟩

end ExprLexer
