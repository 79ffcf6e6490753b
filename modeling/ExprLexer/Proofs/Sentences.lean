import ExprLexer.Proofs.Concatenation
import Mathlib.Data.List.Chain

/-!
Sentences. Lexemes written one after the other are read back one for one. Blanks may stand between
them and need to only where two names or two numbers would grow together: the first character of
any other lexeme cannot continue the one before it.
-/

namespace ExprLexer

open Text

structure Lexeme where
  kind : TokenKind
  span : List Char
  valid : IsLexeme kind span

/-- A lexeme and the blanks before it. -/
structure Word where
  gap : List Char
  lexeme : Lexeme
  blank : ∀ character ∈ gap, isBlank character = true

/-- A word is set apart from the one before it if the two would grow together. -/
def SetApart (earlier later : Word) : Prop :=
  earlier.lexeme.kind = later.lexeme.kind →
    later.lexeme.kind = .name ∨ later.lexeme.kind = .number → later.gap ≠ []

instance : DecidableRel SetApart := fun earlier later =>
  inferInstanceAs (Decidable (earlier.lexeme.kind = later.lexeme.kind →
    later.lexeme.kind = .name ∨ later.lexeme.kind = .number → later.gap ≠ []))

def sentence : List Word → List Char → List Char
  | [], last => last
  | word :: words, last => word.gap ++ (word.lexeme.span ++ sentence words last)

/-- Tokens that say what words say, one for one. Each covers the lexeme of its word, where the
first word begins at the given place of the text. -/
inductive ReadAs (text : List Char) (file : Option String) :
    Nat → List Word → List Token → Prop where
  | nothing (place : Nat) : ReadAs text file place [] []
  | word {place start stop : Nat} {word : Word} {words : List Word} {token : Token}
      {tokens : List Token} (begins : start = place + word.gap.length)
      (ends : stop = start + word.lexeme.span.length)
      (kind : token.payload.kind = word.lexeme.kind)
      (spelled : token.payload.SpelledBy word.lexeme.span)
      (located : token.location = .ofPlaces text file start stop)
      (later : ReadAs text file stop words tokens) :
      ReadAs text file place (word :: words) (token :: tokens)

section Lexemes

variable {kind other : TokenKind} {span : List Char}

theorem lexeme_spells (lexeme : IsLexeme kind span) :
    ∃ payload : Payload, payload.kind = kind ∧ payload.SpelledBy span := by
  cases lexeme with
  | name _ _ => exact ⟨.name (.ofChars _), rfl, rfl⟩
  | integer present decimal =>
      exact ⟨.number _, rfl, Numeral.read_integer_lexeme present decimal⟩
  | pointed present wholeDecimal fractionDecimal =>
      exact ⟨.number _, rfl,
        Numeral.read_pointed_lexeme present wholeDecimal fractionDecimal⟩
  | @string body _ => exact ⟨.string (.ofChars body), rfl, body, rfl, rfl⟩
  | symbol _ => exact ⟨.symbol (.ofChars _), rfl, rfl⟩

theorem lexeme_begins_with_ink {next : Char} (begins : CharClass.of next = other.firstClass) :
    isBlank next = false := by
  by_contra blank
  rw [Bool.not_eq_false, ← CharClass.of_blank_iff, begins] at blank
  cases other <;> contradiction

/-- Only a name continues a name, and only a number continues a number. -/
theorem beginning_extends_nothing {next : Char} (rest : List Char)
    (begins : CharClass.of next = other.firstClass)
    (apart : kind = other → other ≠ .name ∧ other ≠ .number) :
    Unextended kind span (next :: rest) := by
  cases kind with
  | name =>
      rintro character head ⟨_, noDigit, noQuote, noSymbol⟩
      cases head
      cases other with
      | name => exact (apart rfl).1 rfl
      | number =>
          rw [CharClass.of_digit_iff.mp begins] at noDigit
          contradiction
      | string => exact noQuote (CharClass.of_quote_iff.mp begins)
      | symbol => exact noSymbol (listed_iff_symbol.mpr (CharClass.of_symbol_iff.mp begins))
  | number =>
      intro character head
      cases head
      constructor
      · by_contra digit
        rw [Bool.not_eq_false, ← CharClass.of_digit_iff, begins] at digit
        have same : other = .number := first_class_injective digit
        exact (apart same.symm).2 same
      · rintro rfl
        -- A point begins no lexeme at all.
        have unclassed : CharClass.of '.' = .other := by decide
        rw [unclassed] at begins
        cases other <;> contradiction
  | string | symbol => trivial

end Lexemes

section Chains

variable {text last : List Char} {file : Option String} {word : Word} {words : List Word}

theorem sentence_extends_nothing (blank : ∀ character ∈ last, isBlank character = true)
    (apart : ∀ next ∈ words.head?, SetApart word next) :
    Unextended word.lexeme.kind word.lexeme.span (sentence words last) := by
  cases words with
  | nil =>
      by_cases ended : last = []
      · rw [sentence, ended]
        exact nothing_extends
      · exact blank_extends_nothing ended blank
  | cons next words =>
      have setApart := apart next rfl
      by_cases touching : next.gap = []
      · rcases lexeme_first_class next.lexeme.valid with ⟨first, more, begun, classified⟩
        rw [sentence, touching, begun]
        apply beginning_extends_nothing _ classified
        intro same
        constructor
        · intro name
          exact setApart same (Or.inl name) touching
        · intro number
          exact setApart same (Or.inr number) touching
      · have stops : Unextended word.lexeme.kind word.lexeme.span next.gap :=
          blank_extends_nothing touching next.blank
        apply unextended_same_head _ stops
        rw [sentence, List.head?_append_of_ne_nil _ touching]

theorem word_ink {place : Nat} {rest : List Char} (within : place ≤ text.length)
    (split : text.drop place = word.gap ++ (word.lexeme.span ++ rest)) :
    FirstInk text place (place + word.gap.length) := by
  apply first_ink_of_split split within word.blank
  rcases lexeme_first_class word.lexeme.valid with ⟨first, more, begun, classified⟩
  intro character head
  rw [begun] at head
  cases head
  exact lexeme_begins_with_ink classified

/-- The lexemes of a sentence are a chain of tokens that leaves what stands behind them. -/
theorem sentence_chain {place : Nat} (file : Option String)
    (blank : ∀ character ∈ last, isBlank character = true) (apart : words.IsChain SetApart)
    (within : place ≤ text.length) (split : text.drop place = sentence words last) :
    ∃ tokens stop, TokensFrom text file place tokens stop ∧ ReadAs text file place words tokens ∧
      stop ≤ text.length ∧ text.drop stop = last := by
  induction words generalizing place with
  | nil => exact ⟨[], place, .none place, .nothing place, within, split⟩
  | cons word words induction =>
      rw [sentence] at split
      have ink := word_ink within split
      have behindGap : text.drop (place + word.gap.length) =
          word.lexeme.span ++ sentence words last := by
        rw [← List.drop_drop, split, List.drop_left]
      have behindLexeme : text.drop (place + word.gap.length + word.lexeme.span.length) =
          sentence words last := by
        rw [← List.drop_drop, behindGap, List.drop_left]
      have begins : word.lexeme.span <+: text.drop (place + word.gap.length) := by
        rw [behindGap]
        exact List.prefix_append _ _
      have longest : IsLongestLexeme (text.drop (place + word.gap.length)) word.lexeme.kind
          word.lexeme.span := by
        rw [behindGap]
        apply unextended_lexeme_longest word.lexeme.valid
        apply sentence_extends_nothing blank
        exact (List.isChain_cons.mp apart).1
      rcases lexeme_spells word.lexeme.valid with ⟨payload, kind, spelled⟩
      rw [← kind] at longest
      rcases induction (List.isChain_cons.mp apart).2 (begins_within ink.within begins)
        behindLexeme with ⟨tokens, stop, chain, read, stopWithin, rest⟩
      exact ⟨⟨payload, .ofPlaces text file _ _⟩ :: tokens, stop,
        .token ink longest spelled rfl chain, .word rfl rfl kind spelled rfl read, stopWithin,
        rest⟩

end Chains

/-- What tokens say is fixed by the lexemes alone, whatever the texts and the gaps. -/
theorem payloads_by_lexemes {text otherText : List Char} {file otherFile : Option String}
    {place otherPlace : Nat} {words others : List Word} {tokens otherTokens : List Token}
    (read : ReadAs text file place words tokens)
    (otherRead : ReadAs otherText otherFile otherPlace others otherTokens)
    (same : others.map Word.lexeme = words.map Word.lexeme) :
    otherTokens.map Token.payload = tokens.map Token.payload := by
  induction read generalizing otherPlace others otherTokens with
  | nothing place =>
      cases List.map_eq_nil_iff.mp same
      cases otherRead
      rfl
  | @word place start stop word words token tokens begins ends kind spelled located later
      induction =>
      cases otherRead with
      | nothing _ => contradiction
      | @word _ _ _ other others otherToken _ _ _ otherKind otherSpelled _ otherLater =>
          rw [List.map_cons, List.map_cons, List.cons.injEq] at same
          have kinds : otherToken.payload.kind = token.payload.kind := by
            rw [otherKind, kind, same.1]
          rw [same.1] at otherSpelled
          rw [List.map_cons, List.map_cons, induction otherLater same.2,
            spelled_payload_unique kinds otherSpelled spelled]

theorem sentence_run {words : List Word} {last : List Char} (file : Option String)
    (config : LexConfig) (apart : words.IsChain SetApart)
    (blank : ∀ character ∈ last, isBlank character = true) :
    let text := sentence words last
    let run := tokenize (String.ofList text) file config
    ReadAs text file 0 words run.tokens ∧ run.error = none ∧ run.events = [] ∧
      run.lexer.position.offset = text.length := by
  intro text run
  have split : text.drop 0 = sentence words last := List.drop_zero
  rcases sentence_chain file blank apart (Nat.zero_le _) split with
    ⟨tokens, stop, chain, read, within, rest⟩
  have total := congrArg List.length rest
  rw [List.length_drop] at total
  have ended : stop + last.length = text.length := by omega
  have ink : FirstInk text stop (stop + last.length) := by
    have nothingLeft : text.drop stop = last ++ [] := by rw [rest, List.append_nil]
    exact first_ink_of_split nothingLeft within blank nofun
  rw [ended] at ink
  have joined : run = (Lexer.atPlace text file config 0).drain := by
    change (Lexer.ofSource (String.ofList text) file config).drain = _
    rw [Lexer.of_source_at_place, String.toList_ofList]
  rw [drain_along_chain config chain (Nat.zero_le _), run_to_end within ink] at joined
  rw [joined]
  refine ⟨?_, rfl, rfl, rfl⟩
  rw [Run.prepend, List.append_nil]
  exact read

/-- Every sentence is read back. Whatever lexemes are written with whatever blanks between them,
as long as two names or two numbers do not touch, a lexer in either mode delivers one token for
each lexeme, with its kind, its value and the stretch that it covers, and then the end without a
report. The blanks have no part in what the tokens say. -/
theorem sentence_read_back (words : List Word) (last : List Char) (file : Option String)
    (config : LexConfig) (apart : words.IsChain SetApart)
    (blank : ∀ character ∈ last, isBlank character = true) :
    let text := sentence words last
    let run := tokenize (String.ofList text) file config
    ReadAs text file 0 words run.tokens ∧ run.error = none ∧ run.events = [] ∧
      run.lexer.position.offset = text.length ∧
      ∀ (others : List Word) (otherLast : List Char) (otherFile : Option String)
        (otherConfig : LexConfig), others.IsChain SetApart →
        (∀ character ∈ otherLast, isBlank character = true) →
        others.map Word.lexeme = words.map Word.lexeme →
        (tokenize (String.ofList (sentence others otherLast)) otherFile
          otherConfig).tokens.map Token.payload = run.tokens.map Token.payload := by
  intro text run
  have read := sentence_run file config apart blank
  refine ⟨read.1, read.2.1, read.2.2.1, read.2.2.2, ?_⟩
  intro others otherLast otherFile otherConfig otherApart otherBlank same
  have otherRead := sentence_run otherFile otherConfig otherApart otherBlank
  exact payloads_by_lexemes read.1 otherRead.1 same

/-- Lexemes that touch wherever they may, and two names that must not. -/
theorem touching_lexemes_read_back :
    let digits : IsLexeme .number ['3', '.'] :=
      .pointed (List.cons_ne_nil '3' []) (List.forall_mem_singleton.mpr rfl) nofun
    let words : List Word :=
      [ ⟨[], ⟨.name, ['x'], .name rfl nofun⟩, nofun⟩,
        ⟨[], ⟨.number, ['3', '.'], digits⟩, nofun⟩,
        ⟨[], ⟨.name, ['é'], .name rfl nofun⟩, nofun⟩,
        ⟨['\n'], ⟨.name, ['y', '.'], .name rfl (List.forall_mem_singleton.mpr (by decide))⟩,
          List.forall_mem_singleton.mpr rfl⟩,
        ⟨[], ⟨.string, ['"', '"'], @IsLexeme.string [] nofun⟩, nofun⟩,
        ⟨[], ⟨.string, ['"', '-', '"'],
          @IsLexeme.string ['-'] (List.forall_mem_singleton.mpr (by decide))⟩, nofun⟩,
        ⟨[], ⟨.symbol, [';'], .symbol (by decide)⟩, nofun⟩ ]
    let text := sentence words [' ']
    words.IsChain SetApart ∧ (∀ character ∈ [' '], isBlank character = true) ∧
      String.ofList text = "x3.é\ny.\"\"\"-\"; " ∧
      ReadAs text none 0 words (tokenize (String.ofList text) none ⟨true⟩).tokens := by
  intro digits words text
  have apart : words.IsChain SetApart := by
    simp [words, SetApart]
  have blank : ∀ character ∈ [' '], isBlank character = true :=
    List.forall_mem_singleton.mpr rfl
  exact ⟨apart, blank, rfl, (sentence_read_back words [' '] none ⟨true⟩ apart blank).1⟩

end ExprLexer
