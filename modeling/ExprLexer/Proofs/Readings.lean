import ExprLexer.Lexer.Basic
import ExprLexer.Proofs.Places

/-!
One reading, told by the source text alone. A lexer that has come to a place of its source is
determined by the place, and its next reading by the first ink from there on: six things can
stand there. Whatever has been read before, a lexer is always at some place of its source.
-/

namespace ExprLexer

open Text

namespace Lexer

def atPlace (source : List Char) (file : Option String) (config : LexConfig) (place : Nat) :
    Lexer where
  rest := source.drop place
  position := ⟨place, lineAt source place, columnAt source place⟩
  file := file
  config := config

/-- The lexer after so many readings, whatever came of them. -/
def afterReads (lexer : Lexer) : Nat → Lexer
  | 0 => lexer
  | count + 1 => (lexer.afterReads count).next.lexer

end Lexer

def Location.ofPlaces (source : List Char) (file : Option String) (start stop : Nat) :
    Location where
  line := lineAt source start
  column := columnAt source start
  offset := start
  endOffset := stop
  file := file

def LexError.ofPlace (source : List Char) (file : Option String) (fault : LexFault)
    (place : Nat) : LexError where
  fault := fault
  line := some (lineAt source place)
  column := some (columnAt source place)
  offset := some place
  file := file

/-- All that a reading can be whose first ink is at `front`, each with the condition on the
source under which it happens. -/
inductive ReadingAt (source : List Char) (file : Option String) (config : LexConfig)
    (front : Nat) : Reading → Prop where
  | nothing (ended : front = source.length) :
      ReadingAt source file config front
        ⟨.finished, [], .atPlace source file config front⟩
  | token {payload : Payload} {span : List Char}
      (longest : IsLongestLexeme (source.drop front) payload.kind span)
      (spelled : payload.SpelledBy span) :
      ReadingAt source file config front
        ⟨.token ⟨payload, .ofPlaces source file front (front + span.length)⟩, [],
          .atPlace source file config (front + span.length)⟩
  | unrecognized {character : Char} (here : source[front]? = some character)
      (unclassed : CharClass.of character = .other) :
      ReadingAt source file config front
        ⟨.failed (.ofPlace source file
            (.unrecognizedCharacter (String.singleton character)) front),
          [.unrecognizedCharacter character front], .atPlace source file config front⟩
  | brokenString {stop : Nat} (quote : source[front]? = some '"')
      (first : FirstStop source front stop) (feed : source[stop]? = some '\n') :
      ReadingAt source file config front
        ⟨.failed (.ofPlace source file .unterminatedString stop),
          [.unterminatedString stop], .atPlace source file config front⟩
  | openStrict (quote : source[front]? = some '"') (endless : NoStop source front)
      (strict : config.strictStrings = true) :
      ReadingAt source file config front
        ⟨.failed (.ofPlace source file .unterminatedString source.length),
          [.unterminatedString source.length], .atPlace source file config front⟩
  | openLenient (quote : source[front]? = some '"') (endless : NoStop source front)
      (lenient : config.strictStrings = false) :
      ReadingAt source file config front
        ⟨.finished, [.abandonedString (lineAt source front) (columnAt source front)],
          .atPlace source file config source.length⟩

namespace Lexer

variable {source : List Char} {file : Option String} {config : LexConfig}

theorem consume_at_place {place : Nat} {span : List Char} (within : place ≤ source.length)
    (begins : span <+: source.drop place) :
    (atPlace source file config place).consume span =
      atPlace source file config (place + span.length) := by
  have moved := Position.after_begins within begins
  simp only [consume, atPlace, List.drop_drop, moved]

theorem locate_at_place {place : Nat} {span : List Char} (within : place ≤ source.length)
    (begins : span <+: source.drop place) :
    (atPlace source file config place).locate span =
      .ofPlaces source file place (place + span.length) := by
  have moved := Position.after_begins within begins
  simp only [locate, atPlace, moved, Location.ofPlaces]

theorem skip_blanks_at_place {place front : Nat} (within : place ≤ source.length)
    (ink : FirstInk source place front) :
    (atPlace source file config place).skipBlanks = atPlace source file config front := by
  rw [first_ink_unique ink (first_ink_exists source within)]
  exact consume_at_place within (List.takeWhile_prefix _)

theorem unterminated_at_place {front : Nat} {body : List Char} (within : front ≤ source.length)
    (begins : '"' :: body <+: source.drop front) :
    (atPlace source file config front).unterminated body =
      ⟨.failed (.ofPlace source file .unterminatedString (front + 1 + body.length)),
        [.unterminatedString (front + 1 + body.length)], atPlace source file config front⟩ := by
  have moved := Position.after_begins within begins
  have behind : front + ('"' :: body).length = front + 1 + body.length := by
    rw [List.length_cons]
    omega
  rw [behind] at moved
  simp only [unterminated, atPlace, errorAt, moved, LexError.ofPlace]

theorem read_front_at_place {front : Nat} (within : front ≤ source.length)
    (ink : ∀ character, source[front]? = some character → isBlank character = false) :
    ReadingAt source file config front (atPlace source file config front).readFront := by
  have described := Front.front_describes (source.drop front)
  have head : source[front]? = (source.drop front).head? := List.head?_drop.symm
  have readOff : (atPlace source file config front).rest = source.drop front := rfl
  unfold readFront
  rw [readOff]
  generalize Front.of (source.drop front) = found at described ⊢
  generalize dropped : source.drop front = text at described head
  cases described with
  | nothing =>
      have ended : front = source.length :=
        Nat.le_antisymm within (List.drop_eq_nil_iff.mp dropped)
      exact .nothing ended
  | @lexeme _ span _ longest spelled =>
      subst dropped
      simp only [consume_at_place within longest.begins, locate_at_place within longest.begins]
      exact .token longest spelled
  | @unrecognized character _ classified =>
      have here : source[front]? = some character := head
      apply ReadingAt.unrecognized here
      rcases classified with blank | unclassed
      · rw [CharClass.of_blank_iff, ink character here] at blank
        contradiction
      · exact unclassed
  | @brokenString body rest unbroken =>
      rcases first_stop_of_split dropped unbroken (Or.inr rfl) with ⟨first, feed⟩
      have begins : '"' :: body <+: source.drop front := by
        rw [dropped]
        exact List.cons_prefix_cons.mpr ⟨rfl, List.prefix_append body _⟩
      simp only [unterminated_at_place within begins]
      exact .brokenString head first feed
  | @openString body unbroken =>
      have endless := no_stop_of_split dropped unbroken
      have begins : '"' :: body <+: source.drop front := by
        simp only [dropped, List.prefix_refl]
      have total := congrArg List.length dropped
      rw [List.length_drop, List.length_cons] at total
      have atEnd : front + 1 + body.length = source.length := by omega
      by_cases strict : config.strictStrings = true
      · have reading : (atPlace source file config front).unterminated body = _ :=
          unterminated_at_place within begins
        rw [atEnd] at reading
        have mode : (atPlace source file config front).config.strictStrings = true := strict
        simp only [if_pos mode, reading]
        exact .openStrict head endless strict
      · have lenient : config.strictStrings = false := Bool.not_eq_true _ |>.mp strict
        have mode : ¬(atPlace source file config front).config.strictStrings = true := strict
        have behind : front + ('"' :: body).length = source.length := by
          rw [List.length_cons]
          omega
        simp only [if_neg mode, consume_at_place within begins, behind]
        exact .openLenient head endless lenient

theorem next_reading_at (file : Option String) (config : LexConfig) {place front : Nat}
    (within : place ≤ source.length)
    (ink : FirstInk source place front) :
    ReadingAt source file config front (atPlace source file config place).next := by
  rw [next, skip_blanks_at_place within ink]
  exact read_front_at_place ink.within ink.ink

theorem of_source_at_place (source : String) (file : Option String) (config : LexConfig) :
    ofSource source file config = atPlace source.toList file config 0 := rfl

theorem reading_leaves_at_place {front : Nat} {reading : Reading}
    (found : ReadingAt source file config front reading) (within : front ≤ source.length) :
    ∃ place, front ≤ place ∧ place ≤ source.length ∧
      reading.lexer = atPlace source file config place := by
  cases found with
  | nothing _ => exact ⟨front, Nat.le_refl _, within, rfl⟩
  | @token _ span longest _ =>
      exact ⟨front + span.length, Nat.le_add_right _ _, begins_within within longest.begins, rfl⟩
  | unrecognized _ _ => exact ⟨front, Nat.le_refl _, within, rfl⟩
  | brokenString _ _ _ => exact ⟨front, Nat.le_refl _, within, rfl⟩
  | openStrict _ _ _ => exact ⟨front, Nat.le_refl _, within, rfl⟩
  | openLenient _ _ _ => exact ⟨source.length, within, Nat.le_refl _, rfl⟩

theorem after_reads_at_place (source : String) (file : Option String) (config : LexConfig)
    (count : Nat) :
    ∃ place, place ≤ source.toList.length ∧
      (ofSource source file config).afterReads count =
        atPlace source.toList file config place := by
  induction count with
  | zero => exact ⟨0, Nat.zero_le _, of_source_at_place source file config⟩
  | succ count induction =>
      rcases induction with ⟨place, within, same⟩
      have ink := first_ink_exists source.toList within
      have found := next_reading_at file config within ink
      rcases reading_leaves_at_place found ink.within with ⟨later, _, laterWithin, moved⟩
      exists later
      constructor
      · exact laterWithin
      · rw [afterReads, same]
        exact moved

theorem reading_after_reads (source : String) (file : Option String) (config : LexConfig)
    (count : Nat) :
    ∃ place front, FirstInk source.toList place front ∧
      (ofSource source file config).afterReads count = atPlace source.toList file config place ∧
      ReadingAt source.toList file config front
        ((ofSource source file config).afterReads count).next := by
  rcases after_reads_at_place source file config count with ⟨place, within, same⟩
  have ink := first_ink_exists source.toList within
  refine ⟨place, _, ink, same, ?_⟩
  rw [same]
  exact next_reading_at file config within ink

end Lexer

end ExprLexer
