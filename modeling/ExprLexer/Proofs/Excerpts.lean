import ExprLexer.Proofs.Deliveries

/-!
Excerpts. The stretch of a source from the start of one token to the end of the same or a later
one is a text of its own that gives just these tokens, in any mode, although the source may go on
with characters that extend nothing or break off in an error. What changes are the places: an
excerpt begins at the first line, the first column and the offset zero.
-/

namespace ExprLexer

open Text

/-- A token with the places that it has in an excerpt whose first token stands at `first`. Only
what shares the line of the first token changes its column. -/
def Token.since (first : Location) (file : Option String) (token : Token) : Token where
  payload := token.payload
  location :=
    { line := token.location.line - (first.line - 1)
      column :=
        if token.location.line = first.line then token.location.column - (first.column - 1)
        else token.location.column
      offset := token.location.offset - first.offset
      endOffset := token.location.endOffset - first.offset
      file := file }

def Token.inFile (file : Option String) (token : Token) : Token :=
  ⟨token.payload, { token.location with file := file }⟩

section Places

variable {lead : List Char} {first : Location} {file : Option String}

/-- To displace a token by the text before an excerpt and to tell it from the first token on are
inverse to each other. -/
theorem since_behind (token : Token) (line : first.line = 1 + lead.count '\n')
    (column : first.column = 1 + (lastLine lead).length) (offset : first.offset = lead.length) :
    (token.behind lead).since first token.location.file = token := by
  rcases token with ⟨payload, ⟨tokenLine, tokenColumn, start, stop, tokenFile⟩⟩
  have sameLine : tokenLine + (lead.count '\n' : Int) = 1 + lead.count '\n' ↔ tokenLine = 1 := by
    omega
  simp only [Token.since, Token.behind, Location.behind, line, column, offset, sameLine,
    Token.mk.injEq, Location.mk.injEq, true_and, and_true]
  refine ⟨by omega, ?_, by omega, by omega⟩
  split <;> omega

theorem places_moved_back {tokens part : List Token} (line : first.line = 1 + lead.count '\n')
    (column : first.column = 1 + (lastLine lead).length) (offset : first.offset = lead.length)
    (moved : tokens.map (Token.behind lead) = part.map (Token.inFile file)) :
    tokens = part.map (Token.since first file) := by
  have named : ∀ token ∈ tokens, token.location.file = file := by
    intro token member
    have image : token.behind lead ∈ part.map (Token.inFile file) := by
      rw [← moved]
      exact List.mem_map_of_mem member
    obtain ⟨original, _, same⟩ := List.mem_map.mp image
    exact (congrArg (·.location.file) same).symm
  have back : ∀ token ∈ tokens, (token.behind lead).since first file = token := by
    intro token member
    rw [← named token member]
    exact since_behind token line column offset
  have undone : (tokens.map (Token.behind lead)).map (Token.since first file) = tokens := by
    rw [List.map_map]
    exact (List.map_congr_left back).trans (List.map_id tokens)
  rw [← undone, moved, List.map_map]
  rfl

end Places

section Chains

variable {text : List Char} {file : Option String} {place stop : Nat}

theorem chain_in_file {tokens : List Token} (other : Option String)
    (chain : TokensFrom text file place tokens stop) :
    TokensFrom text other place (tokens.map (Token.inFile other)) stop := by
  induction chain with
  | none place => exact .none place
  | @token _ _ _ _ token _ ink longest spelled located _ induction =>
      have moved : (token.inFile other).location =
          { token.location with file := other } := rfl
      rw [located] at moved
      rw [List.map_cons]
      exact .token ink longest spelled moved induction

theorem take_then_slice {start : Nat} (ordered : start ≤ stop) :
    text.take start ++ slice text start stop = text.take stop := by
  have lead : text.take start = (text.take stop).take start := by
    rw [List.take_take, Nat.min_eq_left ordered]
  rw [lead, slice, List.take_append_drop]

/-- The run over an excerpt, displaced by the text before it, is the part of the chain that the
excerpt holds. -/
theorem excerpt_run_behind {start : Nat} {tokens : List Token} (other : Option String)
    (mode : LexConfig) (within : start ≤ text.length)
    (chain : TokensFrom text file start tokens stop) :
    (Lexer.atPlace (slice text start stop) other mode 0).drain.behind (text.take start) =
      ⟨tokens.map (Token.inFile other), none, [],
        .atPlace (text.take stop) other mode (text.take stop).length⟩ := by
  obtain ⟨ordered, stopWithin⟩ := tokens_from_ordered chain within
  have cutLength : (text.take stop).length = stop := List.length_take_of_le stopWithin
  have leadLength : (text.take start).length = start := List.length_take_of_le within
  have cut : TokensFrom (text.take stop) file start tokens stop := by
    apply agree_chain within chain (by rw [List.take_take, Nat.min_self])
    intro last _
    rw [List.drop_eq_nil_of_le (Nat.le_of_eq cutLength)]
    exact nothing_extends
  have firstLine : 1 ≤ (Lexer.atPlace (slice text start stop) other mode 0).position.line :=
    Nat.le_add_right 1 _
  have boundary := @at_boundary (text.take start) (slice text start stop) other mode
  rw [take_then_slice ordered, leadLength] at boundary
  rw [← Lexer.drain_behind (text.take start) firstLine, ← boundary,
    drain_along_chain mode (chain_in_file other cut) (by omega)]
  have ended : (Lexer.atPlace (text.take stop) other mode (text.take stop).length).drain = _ :=
    run_to_end (Nat.le_refl _) (first_ink_at_end (text.take stop))
  rw [cutLength] at ended ⊢
  rw [ended, Run.prepend, List.append_nil]

theorem excerpt_run {token : Token} {tokens : List Token} (other : Option String)
    (mode : LexConfig) (chain : TokensFrom text file place (token :: tokens) stop) :
    let run := (Lexer.atPlace (slice text token.location.offset.toNat stop) other mode 0).drain
    run.error = none ∧ run.events = [] ∧
      run.tokens = (token :: tokens).map (Token.since token.location other) := by
  cases chain with
  | @token _ start _ span _ _ ink longest spelled located later =>
      have here := first_ink_here ink.within ink.ink
      have begun : TokensFrom text file start (token :: tokens) stop :=
        .token here longest spelled located later
      have behind := excerpt_run_behind other mode ink.within begun
      have leadLength : (text.take start).length = start := List.length_take_of_le ink.within
      have column := column_by_last_line ink.within
      have starts : token.location.offset.toNat = start := by rw [located, offset_of_places]
      rw [starts]
      refine ⟨?_, ?_, ?_⟩
      · exact Option.map_eq_none_iff.mp (congrArg Run.error behind)
      · exact List.map_eq_nil_iff.mp (congrArg Run.events behind)
      · apply places_moved_back _ _ _ (congrArg Run.tokens behind)
        · rw [located]
          exact Int.natCast_add 1 _
        · rw [located]
          exact (congrArg Nat.cast column).trans (Int.natCast_add 1 _)
        · rw [located, leadLength]
          rfl

end Chains

/-- Consecutive tokens of a source, lexed again from the stretch that they cover: in any mode and
under any file the run gives them and nothing else, reports nothing, and tells their places from
the first of them on. It does not matter how the first run ended. -/
theorem excerpt_gives_its_tokens (source : String) (file other : Option String)
    (config mode : LexConfig) (part : List Token) (nonempty : part ≠ [])
    (consecutive : part <:+: (tokenize source file config).tokens) :
    let first := (part.head nonempty).location
    let last := (part.getLast nonempty).location
    let excerpt := slice source.toList first.offset.toNat last.endOffset.toNat
    let run := tokenize (String.ofList excerpt) other mode
    run.error = none ∧ run.events = [] ∧ run.tokens = part.map (Token.since first other) := by
  obtain ⟨before, after, whole⟩ := consecutive
  obtain ⟨_, _, _, chain, _⟩ := drain_at_place file config (Nat.zero_le source.toList.length)
  change TokensFrom source.toList file 0 (tokenize source file config).tokens _ at chain
  rw [← whole, List.append_assoc] at chain
  obtain ⟨place, _, chain⟩ := chain_split chain
  obtain ⟨stop, chain, _⟩ := chain_split chain
  have ended := (chain_last_token chain (List.getLast?_eq_some_getLast nonempty)).1
  intro first last excerpt run
  have cut : excerpt = slice source.toList first.offset.toNat stop :=
    congrArg (fun bound => slice source.toList first.offset.toNat bound.toNat) ended
  have reads : run = (Lexer.atPlace excerpt other mode 0).drain := by
    simp only [run, tokenize, Lexer.of_source_at_place, String.toList_ofList]
  rw [reads, cut]
  cases part with
  | nil => contradiction
  | cons token tokens => exact excerpt_run other mode chain

/-- The middle of a text that ends in an error, cut out of its second line in the other mode. -/
theorem middle_of_a_broken_text :
    let tokens := (tokenize "x\n  = 3.\n\"y\"#" (some "prog") ⟨true⟩).tokens
    let part := (tokens.drop 1).take 3
    part ≠ [] ∧ part <:+: tokens ∧
      (tokenize "= 3.\n\"y\"" none ⟨false⟩).error = none ∧
      (tokenize "= 3.\n\"y\"" none ⟨false⟩).tokens =
        part.map (Token.since ⟨2, 3, 4, 5, some "prog"⟩ none) := by
  intro tokens part
  have nonempty : part ≠ [] := by decide +kernel
  have consecutive : part <:+: tokens :=
    (List.take_prefix 3 _).isInfix.trans (List.drop_suffix 1 tokens).isInfix
  have firstFound : part.head?.map Token.location = some ⟨2, 3, 4, 5, some "prog"⟩ := by
    decide +kernel
  have lastFound : part.getLast?.map Token.location = some ⟨3, 1, 9, 12, some "prog"⟩ := by
    decide +kernel
  rw [List.head?_eq_some_head nonempty] at firstFound
  rw [List.getLast?_eq_some_getLast nonempty] at lastFound
  have excerpt : String.ofList (slice "x\n  = 3.\n\"y\"#".toList 4 12) = "= 3.\n\"y\"" := by
    decide +kernel
  have run := excerpt_gives_its_tokens "x\n  = 3.\n\"y\"#" (some "prog") none ⟨true⟩ ⟨false⟩
    part nonempty consecutive
  rw [Option.some.inj firstFound, Option.some.inj lastFound] at run
  obtain ⟨clean, _, same⟩ := run
  rw [← excerpt]
  exact ⟨nonempty, consecutive, clean, same⟩

end ExprLexer
